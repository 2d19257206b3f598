import ProxyBridge.Core.RuleHistory

namespace ProxyBridge

open Foundation Text

/-!
# The identity of rules

A rule is named by its id, and the id 0 is kept for an addition that failed.
The three operations on existing rules find a rule in two ways: `setEnabled`
stops at the first rule with the id, `deleteRule` removes all of them.  They
agree as long as ids are distinct.

The ids come from a 32-bit counter that starts at 1 and wraps.  Every call of a
history keeps the identities exactly when fewer than `2 ^ 32` ids are drawn; the
draw after that hands out 0 (`keepsIdentity_iff`).
-/

variable {Engine : Type}

/-- The rules have distinct ids, and none has the id 0. -/
structure Identified (engine : RuleEngine) : Prop where
  distinct : (engine.rules.map Rule.id).Nodup
  nonzero : forall rule, rule ∈ engine.rules -> rule.id ≠ 0

/-- The flag of exactly the rule with that id is set. -/
def SwitchesOne (before : RuleEngine) (ruleId : UInt32) (enabled : Bool)
    (result : Bool × RuleEngine) : Prop :=
  (result.1 = true <-> ruleId ∈ before.rules.map Rule.id) ∧
    result.2.rules = before.rules.map (switchRule ruleId enabled)

/-- At most one rule goes, only a rule with that id, and the answer says whether
one went. -/
structure RemovesOne (before : RuleEngine) (ruleId : UInt32) (result : Bool × RuleEngine) :
    Prop where
  ordered : result.2.rules.Sublist before.rules
  others : forall rule, rule ∈ before.rules -> rule.id ≠ ruleId -> rule ∈ result.2.rules
  single : before.rules.length ≤ result.2.rules.length + 1
  reported : result.1 = true <-> before.rules.length = result.2.rules.length + 1

/-- The call does to its engine what it is documented to do, and answers so. -/
def CallSound (process : RuleProcess Engine) : RuleOp Engine -> Prop
  | .add engine processName targetHosts targetPorts protocol action =>
      let added := (process.engines engine).addRule process.nextRuleId processName targetHosts
        targetPorts protocol action
      added.id = 0 <-> added.engine = process.engines engine
  | .enable engine ruleId =>
      SwitchesOne (process.engines engine) ruleId true
        ((process.engines engine).enableRule ruleId)
  | .disable engine ruleId =>
      SwitchesOne (process.engines engine) ruleId false
        ((process.engines engine).disableRule ruleId)
  | .delete engine ruleId =>
      RemovesOne (process.engines engine) ruleId ((process.engines engine).deleteRule ruleId)

/-- The engine that a call is made on. -/
def RuleOp.target : RuleOp Engine -> Engine
  | .add engine _ _ _ _ _ => engine
  | .enable engine _ => engine
  | .disable engine _ => engine
  | .delete engine _ => engine

variable [DecidableEq Engine]

/-- The call is sound, it touches no other engine, and it leaves all rules
identified. -/
structure KeepsIdentity (process : RuleProcess Engine) (op : RuleOp Engine) : Prop where
  sound : CallSound process op
  frame : forall other, other ≠ op.target -> (process.step op).engines other = process.engines other
  identified : forall engine, Identified ((process.step op).engines engine)

omit [DecidableEq Engine] in
/-- The search for the first rule with an id fails when no rule has it. -/
theorem isSome_setFirstEnabled (ruleId : UInt32) (enabled : Bool) (rules : List Rule) :
    (RuleEngine.setFirstEnabled ruleId enabled rules).isSome = true <->
      ruleId ∈ rules.map Rule.id := by
  induction rules with
  | nil => simp [RuleEngine.setFirstEnabled]
  | cons rule rest ih =>
      rw [RuleEngine.setFirstEnabled, List.map_cons, List.mem_cons]
      by_cases same : rule.id = ruleId
      · simp [same]
      · rw [if_neg same, Option.isSome_map, ih]
        exact (or_iff_right (Ne.symm same)).symm

theorem switchesOne_setEnabled {before : RuleEngine}
    (distinct : (before.rules.map Rule.id).Nodup) (ruleId : UInt32) (enabled : Bool) :
    SwitchesOne before ruleId enabled (before.setEnabled ruleId enabled) := by
  refine ⟨?_, setEnabled_rules ruleId enabled distinct⟩
  rw [← isSome_setFirstEnabled ruleId enabled, RuleEngine.setEnabled]
  cases RuleEngine.setFirstEnabled ruleId enabled before.rules with
  | none => exact Iff.rfl
  | some rules => exact iff_of_true rfl rfl

/-- Removing all rules with an id removes at most one, when ids are distinct. -/
theorem length_le_filter_succ (ruleId : UInt32) {rules : List Rule}
    (distinct : (rules.map Rule.id).Nodup) :
    rules.length ≤ (rules.filter (fun rule => rule.id != ruleId)).length + 1 := by
  induction rules with
  | nil => exact Nat.zero_le _
  | cons rule rest ih =>
      have parts := List.nodup_cons.mp distinct
      by_cases same : rule.id = ruleId
      · have kept : rest.filter (fun rule => rule.id != ruleId) = rest := by
          rw [List.filter_eq_self]
          intro other member
          rw [bne_iff_ne]
          rintro equal
          exact parts.1 (List.mem_map.mpr ⟨other, member, equal.trans same.symm⟩)
        rw [List.filter_cons_of_neg (by simp [same]), kept, List.length_cons]
      · rw [List.filter_cons_of_pos (by simp [same]), List.length_cons, List.length_cons]
        exact Nat.succ_le_succ (ih parts.2)

theorem removesOne_deleteRule {before : RuleEngine}
    (distinct : (before.rules.map Rule.id).Nodup) (ruleId : UInt32) :
    RemovesOne before ruleId (before.deleteRule ruleId) := by
  have atMost := length_le_filter_succ ruleId distinct
  have fewer := List.length_filter_le (fun rule => rule.id != ruleId) before.rules
  refine ⟨List.filter_sublist, ?_, atMost, ?_⟩
  · intro rule member other
    exact List.mem_filter.mpr ⟨member, bne_iff_ne.mpr other⟩
  · change ((before.rules.filter (fun rule => rule.id != ruleId)).length != before.rules.length) =
      true <-> before.rules.length =
        (before.rules.filter (fun rule => rule.id != ruleId)).length + 1
    rw [bne_iff_ne]
    omega

theorem frame_step (process : RuleProcess Engine) (op : RuleOp Engine) {other : Engine}
    (different : other ≠ op.target) :
    (process.step op).engines other = process.engines other := by
  cases op with
  | add engine processName targetHosts targetPorts protocol action =>
      exact RuleProcess.update_engines_of_ne process _ (Ne.symm different)
  | enable engine ruleId => exact RuleProcess.update_engines_of_ne process _ (Ne.symm different)
  | disable engine ruleId => exact RuleProcess.update_engines_of_ne process _ (Ne.symm different)
  | delete engine ruleId => exact RuleProcess.update_engines_of_ne process _ (Ne.symm different)

omit [DecidableEq Engine] in
theorem callSound_add_iff (process : RuleProcess Engine) (engine : Engine)
    (processName targetHosts targetPorts : Str) (protocol : RuleProtocol) (action : RuleAction) :
    CallSound process (.add engine processName targetHosts targetPorts protocol action) <->
      (processName.isEmpty = false -> process.nextRuleId ≠ 0) := by
  cases named : processName.isEmpty with
  | true =>
      simp only [CallSound, RuleEngine.addRule, named, if_true, Bool.true_eq_false, false_implies]
  | false =>
      simp only [CallSound, RuleEngine.addRule, named, Bool.false_eq_true, if_false]
      have grown : forall (rules : List Rule) (rule : Rule), rules ++ [rule] ≠ rules := by
        intro rules rule same
        have lengths := congrArg List.length same
        rw [List.length_append, List.length_singleton] at lengths
        omega
      have changed : forall rule,
          RuleEngine.mk ((process.engines engine).rules ++ [rule]) ≠ process.engines engine :=
        fun rule same => grown _ rule (congrArg RuleEngine.rules same)
      rw [iff_false_right (changed _), forall_const]

/-- The ids are in step with the number of draws so far. -/
structure IdsInStep (drawn : Nat) (process : RuleProcess Engine) : Prop where
  counter : process.nextRuleId = UInt32.ofNat (drawn + 1)
  drawnRules : forall engine, DrawnRules drawn (process.engines engine).rules
  nonzero : forall engine rule, rule ∈ (process.engines engine).rules -> rule.id ≠ 0

omit [DecidableEq Engine] in
/-- The counter stands at 0 exactly when all other ids have been drawn. -/
theorem IdsInStep.counter_eq_zero_iff {drawn : Nat} {process : RuleProcess Engine}
    (inStep : IdsInStep drawn process) (bound : drawn < 2 ^ 32) :
    process.nextRuleId = 0 <-> drawn + 1 = 2 ^ 32 := by
  rw [inStep.counter, ← UInt32.toNat_inj, UInt32.toNat_ofNat']
  change (drawn + 1) % 2 ^ 32 = 0 <-> _
  omega

/-- Setting a flag brings no new id. -/
theorem mem_ids_of_mem_setEnabled {before : RuleEngine} {ruleId : UInt32} {enabled : Bool}
    {rule : Rule} (distinct : (before.rules.map Rule.id).Nodup)
    (member : rule ∈ (before.setEnabled ruleId enabled).2.rules) :
    rule.id ∈ before.rules.map Rule.id := by
  rw [setEnabled_rules ruleId enabled distinct] at member
  rcases List.mem_map.mp member with ⟨original, earlier, rfl⟩
  rw [switchRule_id]
  exact List.mem_map_of_mem earlier

/-- Every rule after a call was there before, up to its flag, or is the one that
was added. -/
theorem mem_rules_step {process : RuleProcess Engine} {op : RuleOp Engine} {engine : Engine}
    {rule : Rule} (member : rule ∈ ((process.step op).engines engine).rules)
    (distinct : forall engine, ((process.engines engine).rules.map Rule.id).Nodup) :
    rule.id ∈ (process.engines engine).rules.map Rule.id ∨
      (op.drawsId = true ∧ rule.id = process.nextRuleId) := by
  by_cases here : engine = op.target
  · cases op with
    | add other processName targetHosts targetPorts protocol action =>
        change engine = other at here
        subst here
        rw [RuleProcess.step] at member
        change rule ∈ ((process.update engine _).engines engine).rules at member
        rw [RuleProcess.update_engines_self, RuleEngine.addRule] at member
        cases named : processName.isEmpty with
        | true =>
            rw [named, if_pos rfl] at member
            exact Or.inl (List.mem_map_of_mem member)
        | false =>
            rw [named, if_neg Bool.false_ne_true] at member
            rcases List.mem_append.mp member with old | new
            · exact Or.inl (List.mem_map_of_mem old)
            · right
              rw [List.mem_singleton.mp new, RuleOp.drawsId, named]
              exact ⟨rfl, rfl⟩
    | enable other ruleId =>
        change engine = other at here
        subst here
        rw [RuleProcess.step, RuleProcess.update_engines_self] at member
        exact Or.inl (mem_ids_of_mem_setEnabled (distinct engine) member)
    | disable other ruleId =>
        change engine = other at here
        subst here
        rw [RuleProcess.step, RuleProcess.update_engines_self] at member
        exact Or.inl (mem_ids_of_mem_setEnabled (distinct engine) member)
    | delete other ruleId =>
        change engine = other at here
        subst here
        left
        rw [RuleProcess.step, RuleProcess.update_engines_self] at member
        exact List.mem_map_of_mem (List.mem_of_mem_filter member)
  · rw [frame_step process op here] at member
    exact Or.inl (List.mem_map_of_mem member)

section Step

variable {process : RuleProcess Engine} {drawn : Nat}

theorem idsInStep_step (inStep : IdsInStep drawn process) (op : RuleOp Engine)
    (noWrap : drawnAfter drawn op < 2 ^ 32) :
    IdsInStep (drawnAfter drawn op) (process.step op) := by
  have refines := fun engine => stepRefines inStep.counter (inStep.drawnRules engine) op noWrap
  refine ⟨(refines op.target).counter, fun engine => (refines engine).drawnRules, ?_⟩
  intro engine rule member
  rcases mem_rules_step member (fun engine => (inStep.drawnRules engine).distinct) with old | new
  · rcases List.mem_map.mp old with ⟨original, earlier, same⟩
    rw [← same]
    exact inStep.nonzero engine original earlier
  · rw [new.2]
    rw [drawnAfter, if_pos new.1] at noWrap
    intro zero
    have all := (inStep.counter_eq_zero_iff (by omega)).mp zero
    omega

/-- As long as the counter does not wrap, a call keeps all identities. -/
theorem keepsIdentity_step (inStep : IdsInStep drawn process) (op : RuleOp Engine)
    (noWrap : drawnAfter drawn op < 2 ^ 32) : KeepsIdentity process op := by
  have later := idsInStep_step inStep op noWrap
  refine ⟨?_, fun other => frame_step process op,
    fun engine => ⟨(later.drawnRules engine).distinct, later.nonzero engine⟩⟩
  have distinct : forall engine, ((process.engines engine).rules.map Rule.id).Nodup :=
    fun engine => (inStep.drawnRules engine).distinct
  cases op with
  | add engine processName targetHosts targetPorts protocol action =>
      rw [callSound_add_iff]
      intro named zero
      have draws : drawnAfter drawn
          (.add engine processName targetHosts targetPorts protocol action) = drawn + 1 := by
        simp [drawnAfter, RuleOp.drawsId, named]
      rw [draws] at noWrap
      have all := (inStep.counter_eq_zero_iff (by omega)).mp zero
      omega
  | enable engine ruleId => exact switchesOne_setEnabled (distinct engine) ruleId true
  | disable engine ruleId => exact switchesOne_setEnabled (distinct engine) ruleId false
  | delete engine ruleId => exact removesOne_deleteRule (distinct engine) ruleId

/-- The draw that makes the counter wrap hands out the id 0. -/
theorem not_keepsIdentity_of_wrap (inStep : IdsInStep drawn process) (bound : drawn < 2 ^ 32)
    {op : RuleOp Engine} (wrap : 2 ^ 32 ≤ drawnAfter drawn op) : Not (KeepsIdentity process op) := by
  intro keeps
  have sound := keeps.sound
  cases op with
  | add engine processName targetHosts targetPorts protocol action =>
      cases named : processName.isEmpty with
      | true =>
          simp only [drawnAfter, RuleOp.drawsId, named] at wrap
          exact absurd bound (Nat.not_lt.mpr wrap)
      | false =>
          simp only [drawnAfter, RuleOp.drawsId, named] at wrap
          have zero := (inStep.counter_eq_zero_iff bound).mpr (Nat.le_antisymm bound wrap)
          exact (callSound_add_iff _ _ _ _ _ _ _).mp sound named zero
  | enable engine ruleId => exact absurd bound (Nat.not_lt.mpr wrap)
  | disable engine ruleId => exact absurd bound (Nat.not_lt.mpr wrap)
  | delete engine ruleId => exact absurd bound (Nat.not_lt.mpr wrap)

end Step

/-! ## Whole histories -/

theorem stepsMeet_keepsIdentity_iff (history : List (RuleOp Engine))
    {process : RuleProcess Engine} {drawn : Nat} (inStep : IdsInStep drawn process)
    (bound : drawn < 2 ^ 32) :
    StepsMeet RuleProcess.step KeepsIdentity process history <->
      drawn + history.countP RuleOp.drawsId < 2 ^ 32 := by
  induction history generalizing process drawn with
  | nil => exact iff_of_true trivial bound
  | cons op later ih =>
      have draws : drawn + (op :: later).countP RuleOp.drawsId =
          drawnAfter drawn op + later.countP RuleOp.drawsId := by
        rw [List.countP_cons, drawnAfter]
        split <;> omega
      rw [StepsMeet, draws]
      by_cases noWrap : drawnAfter drawn op < 2 ^ 32
      · rw [and_iff_right (keepsIdentity_step inStep op noWrap)]
        exact ih (idsInStep_step inStep op noWrap) noWrap
      · have wrap := Nat.not_lt.mp noWrap
        refine iff_of_false ?_ ?_
        · rintro ⟨keeps, _⟩
          exact not_keepsIdentity_of_wrap inStep bound wrap keeps
        · omega

omit [DecidableEq Engine] in
theorem idsInStep_initial : IdsInStep 0 (RuleProcess.initial : RuleProcess Engine) where
  counter := rfl
  drawnRules := fun _ => ⟨List.nodup_nil, fun _ member => False.elim (List.not_mem_nil member)⟩
  nonzero := fun _ _ member => False.elim (List.not_mem_nil member)

/-- Every call of a history keeps the identities exactly when the history draws
fewer than `2 ^ 32` ids. -/
theorem keepsIdentity_iff (history : List (RuleOp Engine)) :
    StepsMeet RuleProcess.step KeepsIdentity RuleProcess.initial history <->
      history.countP RuleOp.drawsId < 2 ^ 32 := by
  rw [stepsMeet_keepsIdentity_iff history idsInStep_initial (by decide), Nat.zero_add]

/-- One rule, replaced again and again: the rule with id `n + 1` is added and
deleted. -/
def replacement (n : Nat) : List (RuleOp Unit) :=
  [.add () "curl".toList [] [] .both .proxy, .delete () (UInt32.ofNat (n + 1))]

theorem countP_replacements (count : Nat) :
    ((List.range count).flatMap replacement).countP RuleOp.drawsId = count := by
  have one : forall n, (replacement n).countP RuleOp.drawsId = 1 := fun _ => rfl
  rw [List.countP_flatMap]
  induction count with
  | zero => rfl
  | succ count ih =>
      rw [List.range_succ, List.map_append, List.sum_append, ih]
      simp [one]

/-- An engine that never holds more than one rule still hands out the id 0 in
the end. -/
theorem rule_ids_run_out :
    Not (StepsMeet RuleProcess.step KeepsIdentity RuleProcess.initial
      ((List.range (2 ^ 32)).flatMap replacement)) := by
  rw [stepsMeet_keepsIdentity_iff _ idsInStep_initial (by decide), countP_replacements]
  exact Nat.not_lt.mpr (Nat.le_add_left _ _)

end ProxyBridge
