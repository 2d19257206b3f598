import ProxyBridge.Foundation.Runs

namespace Foundation

universe u v w x

/-!
# One machine inside another

A part of a larger machine is a machine of its own when its view of the state
moves by its own steps.  What it sees of an event of the whole may depend on the
state and may be several events or none.  A view that follows each single step
follows every run (`run_simulates`), so what holds of all runs of the part holds
of the part within the whole.  Neither machine need be a view of the other for the
two to stay related (`run_related`).

A property that a run acquires was acquired by one of its steps
(`exists_origin`).
-/

variable {State : Type u} {Event : Type v} {View : Type w} {Seen : Type x}
variable (step : State -> Event -> State) (viewStep : View -> Seen -> View)

theorem run_append (start : State) (past later : List Event) :
    run step start (past ++ later) = run step (run step start past) later :=
  List.foldl_append

/-- What the part sees of a run of the whole. -/
def seen (observe : State -> Event -> List Seen) : State -> List Event -> List Seen
  | _, [] => []
  | state, event :: events => observe state event ++ seen observe (step state event) events

theorem seen_eq_flatMap (observe : Event -> List Seen) (start : State) (events : List Event) :
    seen step (fun _ event => observe event) start events = events.flatMap observe := by
  induction events generalizing start with
  | nil => rfl
  | cons event events ih => rw [seen, ih, List.flatMap_cons]

theorem seen_concat (observe : State -> Event -> List Seen) (start : State) (past : List Event)
    (event : Event) :
    seen step observe start (past ++ [event]) =
      seen step observe start past ++ observe (run step start past) event := by
  induction past generalizing start with
  | nil => exact List.append_nil _
  | cons first past ih => rw [List.cons_append, seen, ih, seen, List.append_assoc, run_cons]

/-- The view follows a run when it follows each step from a state with the
invariant. -/
theorem run_simulates_of_invariant {Inv : State -> Prop} {view : State -> View}
    {observe : State -> Event -> List Seen}
    (follows : forall state event, Inv state ->
      view (step state event) = run viewStep (view state) (observe state event))
    (preserved : forall state event, Inv state -> Inv (step state event))
    {start : State} (initial : Inv start) (events : List Event) :
    view (run step start events) = run viewStep (view start) (seen step observe start events) := by
  induction events generalizing start with
  | nil => rfl
  | cons event events ih =>
      rw [run_cons, ih (preserved start event initial), follows start event initial, seen,
        run_append]

theorem run_simulates {view : State -> View} {observe : State -> Event -> List Seen}
    (follows : forall state event,
      view (step state event) = run viewStep (view state) (observe state event))
    (start : State) (events : List Event) :
    view (run step start events) = run viewStep (view start) (seen step observe start events) :=
  @run_simulates_of_invariant _ _ _ _ step viewStep (fun _ => True) view observe
    (fun state event _ => follows state event) (fun _ _ _ => trivial) start trivial events

/-- Two machines stay related over the runs of certain events, when each such event
keeps them related. -/
theorem run_related {Rel : State -> View -> Prop} {condition : Event -> Prop}
    {observe : Event -> List Seen}
    (keeps : forall state view event, Rel state view -> condition event ->
      Rel (step state event) (run viewStep view (observe event)))
    {start : State} {viewStart : View} (initial : Rel start viewStart) {events : List Event}
    (meets : forall event, event ∈ events -> condition event) :
    Rel (run step start events) (run viewStep viewStart (events.flatMap observe)) := by
  induction events generalizing start viewStart with
  | nil => exact initial
  | cons event events ih =>
      have here := meets event List.mem_cons_self
      rw [List.flatMap_cons, run_append]
      exact ih (keeps start viewStart event initial here)
        (fun later member => meets later (List.mem_cons_of_mem event member))

theorem prefix_of_concat {past whole : List Event} {event : Event}
    (inside : past ++ [event] <+: whole) : past <+: whole :=
  (List.prefix_append past [event]).trans inside

/-- A property that the run has at its end and had not at its start came with
one of its steps. -/
theorem exists_origin {property : State -> Prop} {start : State} {events : List Event}
    (absent : Not (property start)) (present : property (run step start events)) :
    Exists fun past => Exists fun event => past ++ [event] <+: events ∧
      Not (property (run step start past)) ∧ property (step (run step start past) event) := by
  induction events generalizing start with
  | nil => exact absurd present absent
  | cons event events ih =>
      by_cases here : property (step start event)
      · exact ⟨[], event, List.prefix_append [event] events, absent, here⟩
      · rcases ih here present with ⟨past, later, inside, before, after⟩
        exact ⟨event :: past, later, List.cons_prefix_cons.mpr ⟨rfl, inside⟩, before, after⟩

end Foundation
