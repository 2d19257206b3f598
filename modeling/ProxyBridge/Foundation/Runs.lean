import Mathlib

namespace Foundation

universe u v

/-!
# Runs of a step function

A component that reacts to one event at a time is a step function on its state.
`run` applies it to a list of events, and a run reaches the state of each of
its prefixes.

Two induction rules cover the ways an invariant is used: for every run, and for
the runs in which each step meets a condition.  The second rule is exact when
the condition is exact for one step.  A history also has a latest event of each
kind, which is what a store that overwrites its entries remembers.
-/

variable {State : Type u} {Event : Type v} (step : State -> Event -> State)

/-- The state after a list of events. -/
def run (start : State) (events : List Event) : State :=
  events.foldl step start

@[simp] theorem run_nil (start : State) : run step start [] = start := rfl

@[simp] theorem run_cons (start : State) (event : Event) (events : List Event) :
    run step start (event :: events) = run step (step start event) events := rfl

theorem run_concat (start : State) (events : List Event) (event : Event) :
    run step start (events ++ [event]) = step (run step start events) event :=
  List.foldl_concat step start event events

/-- What holds at the start and survives every step holds in every state. -/
theorem run_invariant {Inv : State -> Prop} {start : State} (initial : Inv start)
    (preserved : forall state event, Inv state -> Inv (step state event)) (events : List Event) :
    Inv (run step start events) := by
  induction events generalizing start with
  | nil => exact initial
  | cons event events ih => exact ih (preserved start event initial)

/-! ## Runs whose steps meet a condition -/

/-- Every step of the run meets a condition on the state before it. -/
def StepsMeet (condition : State -> Event -> Prop) : State -> List Event -> Prop
  | _, [] => True
  | state, event :: events =>
      condition state event ∧ StepsMeet condition (step state event) events

theorem stepsMeet_append {condition : State -> Event -> Prop} {start : State}
    (past later : List Event) :
    StepsMeet step condition start (past ++ later) <->
      StepsMeet step condition start past ∧
        StepsMeet step condition (run step start past) later := by
  induction past generalizing start with
  | nil => exact (iff_of_eq (true_and _)).symm
  | cons event past ih =>
      rw [List.cons_append, StepsMeet, StepsMeet, ih, and_assoc]
      rfl

theorem stepsMeet_and {first second : State -> Event -> Prop} {start : State}
    {events : List Event} :
    StepsMeet step (fun state event => first state event ∧ second state event) start events <->
      StepsMeet step first start events ∧ StepsMeet step second start events := by
  induction events generalizing start with
  | nil => exact (iff_of_eq (true_and _)).symm
  | cons event events ih =>
      rw [StepsMeet, StepsMeet, StepsMeet, ih]
      exact and_and_and_comm

/-- What holds at the start and survives every step that meets a condition holds
after every run whose steps meet it. -/
theorem run_invariant_of_stepsMeet {condition : State -> Event -> Prop} (Inv : State -> Prop)
    {start : State} (initial : Inv start)
    (preserved : forall state event, Inv state -> condition state event -> Inv (step state event))
    {events : List Event} (meets : StepsMeet step condition start events) :
    Inv (run step start events) := by
  induction events generalizing start with
  | nil => exact initial
  | cons event events ih => exact ih (preserved start event initial meets.1) meets.2

/-- Two conditions that agree where a third one is met are met by the same runs,
among those whose steps all meet the third one. -/
theorem stepsMeet_congr_of_stepsMeet {given first second : State -> Event -> Prop}
    {Inv : State -> Prop}
    (agree : forall state event, Inv state -> given state event ->
      (first state event <-> second state event))
    (preserved : forall state event, Inv state -> given state event -> Inv (step state event))
    {start : State} (initial : Inv start) {events : List Event}
    (meets : StepsMeet step given start events) :
    StepsMeet step first start events <-> StepsMeet step second start events := by
  induction events generalizing start with
  | nil => exact Iff.rfl
  | cons event events ih =>
      exact and_congr (agree start event initial meets.1)
        (ih (preserved start event initial meets.1) meets.2)

theorem stepsMeet_of_forall {condition : State -> Event -> Prop}
    (always : forall state event, condition state event) (start : State) (events : List Event) :
    StepsMeet step condition start events := by
  induction events generalizing start with
  | nil => trivial
  | cons event events ih => exact ⟨always start event, ih _⟩

/-- Two conditions that agree in every state with an invariant are met by the
same runs. -/
theorem stepsMeet_congr {first second : State -> Event -> Prop} {Inv : State -> Prop}
    (agree : forall state event, Inv state -> (first state event <-> second state event))
    (preserved : forall state event, Inv state -> Inv (step state event))
    {start : State} (initial : Inv start) (events : List Event) :
    StepsMeet step first start events <-> StepsMeet step second start events :=
  stepsMeet_congr_of_stepsMeet step (fun state event held _ => agree state event held)
    (fun state event held _ => preserved state event held) initial
    (stepsMeet_of_forall step (fun _ _ => trivial) start events)

/-- A property of every state that a run reaches, the first one included. -/
def HoldsThroughout (property : State -> Prop) (start : State) (events : List Event) : Prop :=
  forall past, past <+: events -> property (run step start past)

theorem holdsThroughout_cons {property : State -> Prop} {start : State} {event : Event}
    {events : List Event} :
    HoldsThroughout step property start (event :: events) <->
      property start ∧ HoldsThroughout step property (step start event) events := by
  constructor
  · intro holds
    refine ⟨holds [] List.nil_prefix, ?_⟩
    intro past before
    exact holds (event :: past) (List.cons_prefix_cons.mpr ⟨rfl, before⟩)
  · intro holds past before
    cases past with
    | nil => exact holds.1
    | cons first past =>
        have parts := List.cons_prefix_cons.mp before
        rw [parts.1]
        exact holds.2 past parts.2

/-- If one step from a good state leads to a good state exactly when it meets
the condition, a run stays good exactly when all its steps meet it. -/
theorem holdsThroughout_iff_stepsMeet {property : State -> Prop}
    {condition : State -> Event -> Prop}
    (exact_step : forall state event, property state ->
      (property (step state event) <-> condition state event))
    {start : State} (initial : property start) (events : List Event) :
    HoldsThroughout step property start events <-> StepsMeet step condition start events := by
  induction events generalizing start with
  | nil =>
      refine iff_of_true ?_ trivial
      intro past before
      rw [List.prefix_nil.mp before]
      exact initial
  | cons event events ih =>
      rw [holdsThroughout_cons, StepsMeet]
      have here := exact_step start event initial
      constructor
      · rintro ⟨_, later⟩
        have next : property (step start event) := later [] List.nil_prefix
        exact ⟨here.mp next, (ih next).mp later⟩
      · rintro ⟨meets, later⟩
        exact ⟨initial, (ih (here.mpr meets)).mpr later⟩

/-- An event of a history that has just been extended is the new one or one of
those before. -/
theorem concat_eq_append_cons {history before after : List Event} {last event : Event}
    (same : history ++ [last] = before ++ event :: after) :
    (after = [] ∧ history = before ∧ last = event) ∨
      Exists fun rest => after = rest ++ [last] ∧ history = before ++ event :: rest := by
  rcases List.eq_nil_or_concat after with empty | ⟨rest, final, whole⟩
  · rw [empty, ← List.concat_eq_append, ← List.concat_eq_append] at same
    have parts := List.concat_inj.mp same
    exact Or.inl ⟨empty, parts.1, parts.2⟩
  · rw [List.concat_eq_append] at whole
    rw [whole, ← List.cons_append, ← List.append_assoc, ← List.concat_eq_append,
      ← List.concat_eq_append] at same
    have parts := List.concat_inj.mp same
    rw [← parts.2] at whole
    exact Or.inr ⟨rest, whole, parts.1⟩

/-- The last event of the history that is relevant. -/
def LatestAmong (relevant : Event -> Prop) (history : List Event) (event : Event) : Prop :=
  Exists fun before => Exists fun after => history = before ++ event :: after ∧ relevant event ∧
    forall later, later ∈ after -> Not (relevant later)

theorem not_latestAmong_nil {relevant : Event -> Prop} {event : Event} :
    Not (LatestAmong relevant [] event) := by
  rintro ⟨before, after, same, _⟩
  cases (List.append_eq_nil_iff.mp same.symm).2

/-- A relevant event is the latest one when it happens. -/
theorem latestAmong_concat_of_relevant {relevant : Event -> Prop} {last event : Event}
    (history : List Event) (now : relevant last) :
    LatestAmong relevant (history ++ [last]) event <-> last = event := by
  constructor
  · rintro ⟨before, after, same, _, silent⟩
    rcases concat_eq_append_cons same with ⟨_, _, latest⟩ | ⟨rest, whole, _⟩
    · exact latest
    · have member : last ∈ after := by
        rw [whole]
        exact List.mem_concat_self
      exact absurd now (silent last member)
  · intro same
    rw [← same]
    exact ⟨history, [], rfl, now, fun _ member => absurd member List.not_mem_nil⟩

/-- An event that is not relevant leaves the latest one as it was. -/
theorem latestAmong_concat_of_not_relevant {relevant : Event -> Prop} {last event : Event}
    (history : List Event) (other : Not (relevant last)) :
    LatestAmong relevant (history ++ [last]) event <-> LatestAmong relevant history event := by
  constructor
  · rintro ⟨before, after, same, now, silent⟩
    rcases concat_eq_append_cons same with ⟨_, _, latest⟩ | ⟨rest, whole, earlier⟩
    · rw [latest] at other
      exact absurd now other
    · refine ⟨before, rest, earlier, now, ?_⟩
      intro later member
      apply silent
      rw [whole]
      exact List.mem_append_left _ member
  · rintro ⟨before, after, same, now, silent⟩
    refine ⟨before, after ++ [last], ?_, now, ?_⟩
    · rw [same, List.append_assoc, List.cons_append]
    · intro later member
      rcases List.mem_append.mp member with earlier | final
      · exact silent later earlier
      · rw [List.mem_singleton.mp final]
        exact other

end Foundation
