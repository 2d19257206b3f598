import ProxyBridge.Core.RuleEngine
import ProxyBridge.Foundation.Runs

namespace ProxyBridge

open Foundation Text

/-!
# Rule engines over whole histories

All engines of a process draw rule ids from one 32-bit counter.  The state of
the process is that counter together with the engines, and an operation names
the engine it is called on.

The specification does not mention the counter's width.  It reads the list of
live rules off the history: the rules that were added and not deleted later, in
insertion order, each switched as its last `enable` or `disable` left it, with
rules identified by an unbounded serial number.  While the counter has not
wrapped, every engine holds exactly that list.
-/

variable {Engine : Type}

inductive RuleOp (Engine : Type) where
  | add (engine : Engine) (processName targetHosts targetPorts : Str) (protocol : RuleProtocol)
      (action : RuleAction)
  | enable (engine : Engine) (ruleId : UInt32)
  | disable (engine : Engine) (ruleId : UInt32)
  | delete (engine : Engine) (ruleId : UInt32)

/-- The counter `NEXT_RULE_ID` and the engines of the process. -/
structure RuleProcess (Engine : Type) where
  nextRuleId : UInt32
  engines : Engine -> RuleEngine

namespace RuleProcess

def initial : RuleProcess Engine :=
  ⟨1, fun _ => RuleEngine.new⟩

variable [DecidableEq Engine]

/-- Replace one engine. -/
def update (process : RuleProcess Engine) (engine : Engine) (changed : RuleEngine) :
    RuleProcess Engine :=
  { process with engines := Function.update process.engines engine changed }

def step (process : RuleProcess Engine) : RuleOp Engine -> RuleProcess Engine
  | .add engine processName targetHosts targetPorts protocol action =>
      let added := (process.engines engine).addRule process.nextRuleId
        processName targetHosts targetPorts protocol action
      { process.update engine added.engine with nextRuleId := added.nextRuleId }
  | .enable engine ruleId => process.update engine ((process.engines engine).enableRule ruleId).2
  | .disable engine ruleId => process.update engine ((process.engines engine).disableRule ruleId).2
  | .delete engine ruleId => process.update engine ((process.engines engine).deleteRule ruleId).2

end RuleProcess

namespace RuleOp

/-- An addition that draws an id; one without a process name draws none. -/
def drawsId : RuleOp Engine -> Bool
  | .add _ processName _ _ _ _ => !processName.isEmpty
  | _ => false

variable [DecidableEq Engine]

/-- The operation deletes the rule with this serial number. -/
def deletes (engine : Engine) (serial : Nat) : RuleOp Engine -> Bool
  | .delete other ruleId => decide (other = engine) && ruleId.toNat == serial
  | _ => false

/-- The flag of the rule with this serial number after the operation. -/
def switch (engine : Engine) (serial : Nat) (enabled : Bool) : RuleOp Engine -> Bool
  | .enable other ruleId => if other = engine ∧ ruleId.toNat = serial then true else enabled
  | .disable other ruleId => if other = engine ∧ ruleId.toNat = serial then false else enabled
  | _ => enabled

end RuleOp

variable [DecidableEq Engine]

/-- What is left of a rule after further operations: nothing once it is
deleted, otherwise the rule as the last switch left it. -/
def survivor (engine : Engine) (serial : Nat) (rule : Rule) (later : List (RuleOp Engine)) :
    Option Rule :=
  if later.any (RuleOp.deletes engine serial) then none
  else some { rule with enabled := later.foldl (RuleOp.switch engine serial) rule.enabled }

/-- The live rules of one engine in insertion order, when `drawn` ids were
drawn before the history. -/
def liveRules (engine : Engine) : Nat -> List (RuleOp Engine) -> List Rule
  | _, [] => []
  | drawn, .add other processName targetHosts targetPorts protocol action :: later =>
      if processName.isEmpty then liveRules engine drawn later
      else
        let serial := drawn + 1
        let rule : Rule := {
          id := UInt32.ofNat serial
          processName := processName
          targetHosts := fieldOrStar targetHosts
          targetPorts := fieldOrStar targetPorts
          protocol := protocol
          action := action
          enabled := true }
        (if other = engine then (survivor engine serial rule later).toList else []) ++
          liveRules engine serial later
  | drawn, _ :: later => liveRules engine drawn later

/-! ## Refinement -/

/-- The flag of the rules with one id, as a map on rules. -/
def switchRule (ruleId : UInt32) (enabled : Bool) (rule : Rule) : Rule :=
  if rule.id = ruleId then { rule with enabled := enabled } else rule

omit [DecidableEq Engine] in
@[simp] theorem switchRule_id (ruleId : UInt32) (enabled : Bool) (rule : Rule) :
    (switchRule ruleId enabled rule).id = rule.id := by
  unfold switchRule
  split <;> rfl

omit [DecidableEq Engine] in
theorem map_switchRule_of_absent {ruleId : UInt32} (enabled : Bool) {rules : List Rule}
    (absent : forall rule, rule ∈ rules -> rule.id ≠ ruleId) :
    rules.map (switchRule ruleId enabled) = rules := by
  calc
    rules.map (switchRule ruleId enabled) = rules.map id := by
      apply List.map_congr_left
      intro rule member
      rw [switchRule, if_neg (absent rule member), id]
    _ = rules := List.map_id rules

omit [DecidableEq Engine] in
/-- With distinct ids, switching the first rule with an id switches exactly the
rules with that id. -/
theorem setEnabled_rules (ruleId : UInt32) (enabled : Bool) {rules : List Rule}
    (distinct : (rules.map Rule.id).Nodup) :
    ((RuleEngine.mk rules).setEnabled ruleId enabled).2.rules =
      rules.map (switchRule ruleId enabled) := by
  have first : (RuleEngine.setFirstEnabled ruleId enabled rules).getD rules =
      rules.map (switchRule ruleId enabled) := by
    induction rules with
    | nil => rfl
    | cons rule rest ih =>
        have parts := List.nodup_cons.mp distinct
        rw [RuleEngine.setFirstEnabled, List.map_cons, switchRule]
        by_cases same : rule.id = ruleId
        · rw [if_pos same, if_pos same, Option.getD_some, map_switchRule_of_absent]
          intro other member equal
          apply parts.1
          rw [same, ← equal]
          exact List.mem_map_of_mem member
        · rw [if_neg same, if_neg same, ← ih parts.2]
          cases RuleEngine.setFirstEnabled ruleId enabled rest <;> rfl
  rw [← first, RuleEngine.setEnabled]
  cases RuleEngine.setFirstEnabled ruleId enabled rules <;> rfl

/-- The rules of an engine after `drawn` draws: distinct ids, none of them
newer than the last draw. -/
structure DrawnRules (drawn : Nat) (rules : List Rule) : Prop where
  distinct : (rules.map Rule.id).Nodup
  drawnBefore : forall rule, rule ∈ rules -> rule.id.toNat ≤ drawn

namespace DrawnRules

variable {drawn : Nat} {rules : List Rule}

omit [DecidableEq Engine] in
theorem mono {later : Nat} (old : DrawnRules drawn rules) (order : drawn ≤ later) :
    DrawnRules later rules :=
  ⟨old.distinct, fun rule member => Nat.le_trans (old.drawnBefore rule member) order⟩

omit [DecidableEq Engine] in
/-- A fresh id is distinct from all earlier ones. -/
theorem append (old : DrawnRules drawn rules) {fresh : Rule} (next : fresh.id.toNat = drawn + 1) :
    DrawnRules (drawn + 1) (rules ++ [fresh]) := by
  constructor
  · rw [List.map_append, List.map_singleton, List.nodup_append]
    refine ⟨old.distinct, List.nodup_singleton _, ?_⟩
    intro ruleId earlier freshId member same
    rw [List.mem_singleton] at member
    rcases List.mem_map.mp earlier with ⟨rule, ruleMember, equal⟩
    have bound := old.drawnBefore rule ruleMember
    rw [equal, same, member, next] at bound
    omega
  · intro rule member
    rcases List.mem_append.mp member with earlier | here
    · exact Nat.le_succ_of_le (old.drawnBefore rule earlier)
    · rw [List.mem_singleton.mp here, next]

omit [DecidableEq Engine] in
theorem switch (old : DrawnRules drawn rules) (ruleId : UInt32) (enabled : Bool) :
    DrawnRules drawn (rules.map (switchRule ruleId enabled)) := by
  constructor
  · have same : (rules.map (switchRule ruleId enabled)).map Rule.id = rules.map Rule.id := by
      rw [List.map_map]
      exact List.map_congr_left (fun rule _ => switchRule_id ruleId enabled rule)
    rw [same]
    exact old.distinct
  · intro rule member
    rcases List.mem_map.mp member with ⟨original, earlier, rfl⟩
    rw [switchRule_id]
    exact old.drawnBefore original earlier

omit [DecidableEq Engine] in
theorem filter (old : DrawnRules drawn rules) (keep : Rule -> Bool) :
    DrawnRules drawn (rules.filter keep) :=
  ⟨old.distinct.sublist (List.filter_sublist.map Rule.id),
    fun rule member => old.drawnBefore rule (List.mem_of_mem_filter member)⟩

end DrawnRules

/-- The rules an engine keeps, seen from before further operations. -/
def survivors (engine : Engine) (later : List (RuleOp Engine)) (rules : List Rule) : List Rule :=
  rules.filterMap (fun rule => survivor engine rule.id.toNat rule later)

theorem survivors_nil (engine : Engine) (rules : List Rule) :
    survivors engine [] rules = rules :=
  List.filterMap_some

/-- An operation that neither deletes nor switches a rule leaves the survivors
as they are. -/
theorem survivors_cons_of_inert {engine : Engine} {op : RuleOp Engine}
    (keeps : forall serial, op.deletes engine serial = false)
    (still : forall serial enabled, op.switch engine serial enabled = enabled)
    (later : List (RuleOp Engine)) (rules : List Rule) :
    survivors engine (op :: later) rules = survivors engine later rules := by
  apply List.filterMap_congr
  intro rule _member
  simp only [survivor, List.any_cons, keeps, Bool.false_or, List.foldl_cons, still]

theorem survivors_switch (engine : Engine) (ruleId : UInt32) (enabled : Bool) {op : RuleOp Engine}
    (keeps : forall serial, op.deletes engine serial = false)
    (switches : forall serial old, op.switch engine serial old =
      if ruleId.toNat = serial then enabled else old)
    (later : List (RuleOp Engine)) (rules : List Rule) :
    survivors engine (op :: later) rules =
      survivors engine later (rules.map (switchRule ruleId enabled)) := by
  rw [survivors, survivors, List.filterMap_map]
  apply List.filterMap_congr
  intro rule _member
  simp only [survivor, Function.comp_apply, switchRule_id, List.any_cons, keeps, Bool.false_or,
    List.foldl_cons, switches]
  by_cases same : rule.id = ruleId
  · simp only [switchRule, same, if_true]
  · have differentSerial : ¬ ruleId.toNat = rule.id.toNat :=
      fun equal => same (UInt32.toNat_inj.mp equal.symm)
    simp only [switchRule, same, differentSerial, if_false]

theorem survivors_delete (engine : Engine) (ruleId : UInt32) (later : List (RuleOp Engine))
    (rules : List Rule) :
    survivors engine (.delete engine ruleId :: later) rules =
      survivors engine later (rules.filter (fun rule => rule.id != ruleId)) := by
  rw [survivors, survivors, List.filterMap_filter]
  apply List.filterMap_congr
  intro rule _member
  by_cases same : rule.id = ruleId
  · simp [survivor, RuleOp.deletes, same]
  · have differentSerial : ¬ ruleId.toNat = rule.id.toNat :=
      fun equal => same (UInt32.toNat_inj.mp equal.symm)
    simp [survivor, RuleOp.deletes, RuleOp.switch, same, differentSerial]

namespace RuleProcess

@[simp] theorem update_engines_self (process : RuleProcess Engine) (engine : Engine)
    (changed : RuleEngine) : (process.update engine changed).engines engine = changed := by
  simp only [update, Function.update_self]

theorem update_engines_of_ne (process : RuleProcess Engine) {engine other : Engine}
    (changed : RuleEngine) (different : other ≠ engine) :
    (process.update other changed).engines engine = process.engines engine := by
  simp only [update, Function.update_of_ne (Ne.symm different)]

end RuleProcess

/-- The number of ids drawn after an operation. -/
def drawnAfter (drawn : Nat) (op : RuleOp Engine) : Nat :=
  if op.drawsId then drawn + 1 else drawn

/-- One operation, seen from one engine: the counter and the ids stay in step,
and what will be left of the rules is the same before and after. -/
structure StepRefines (engine : Engine) (process : RuleProcess Engine) (drawn : Nat)
    (op : RuleOp Engine) : Prop where
  counter : (process.step op).nextRuleId = UInt32.ofNat (drawnAfter drawn op + 1)
  drawnRules : DrawnRules (drawnAfter drawn op) ((process.step op).engines engine).rules
  left : forall later,
    survivors engine (op :: later) (process.engines engine).rules ++
        liveRules engine drawn (op :: later) =
      survivors engine later ((process.step op).engines engine).rules ++
        liveRules engine (drawnAfter drawn op) later

section Step

variable {engine : Engine} {process : RuleProcess Engine} {drawn : Nat}

/-- An addition without a process name changes nothing. -/
theorem stepRefines_add_empty (counter : process.nextRuleId = UInt32.ofNat (drawn + 1))
    (drawnRules : DrawnRules drawn (process.engines engine).rules) (other : Engine)
    {processName : Str} (empty : processName.isEmpty = true) (targetHosts targetPorts : Str)
    (protocol : RuleProtocol) (action : RuleAction) :
    StepRefines engine process drawn
      (.add other processName targetHosts targetPorts protocol action) := by
  have stepped : process.step (.add other processName targetHosts targetPorts protocol action) =
      process := by
    simp only [RuleProcess.step, RuleEngine.addRule, if_pos empty, RuleProcess.update,
      Function.update_eq_self]
  have same : drawnAfter drawn
      (.add other processName targetHosts targetPorts protocol action) = drawn := by
    simp [drawnAfter, RuleOp.drawsId, empty]
  refine ⟨by rw [stepped, same, counter], by rwa [stepped, same], ?_⟩
  intro later
  rw [stepped, same, survivors_cons_of_inert (fun _ => rfl) (fun _ _ => rfl), liveRules,
    if_pos empty]

/-- An addition with a process name appends the rule to its engine, under the
serial number that the specification gives it. -/
theorem stepRefines_add (counter : process.nextRuleId = UInt32.ofNat (drawn + 1))
    (drawnRules : DrawnRules drawn (process.engines engine).rules) (noWrap : drawn + 1 < 2 ^ 32)
    (other : Engine) {processName : Str} (named : processName.isEmpty = false)
    (targetHosts targetPorts : Str) (protocol : RuleProtocol) (action : RuleAction) :
    StepRefines engine process drawn
      (.add other processName targetHosts targetPorts protocol action) := by
  let rule : Rule := {
    id := UInt32.ofNat (drawn + 1)
    processName := processName
    targetHosts := fieldOrStar targetHosts
    targetPorts := fieldOrStar targetPorts
    protocol := protocol
    action := action
    enabled := true }
  have fresh : rule.id.toNat = drawn + 1 := UInt32.toNat_ofNat_of_lt' noWrap
  have notEmpty : ¬ processName.isEmpty = true := by
    rw [named]
    exact Bool.false_ne_true
  have drew : drawnAfter drawn
      (.add other processName targetHosts targetPorts protocol action) = drawn + 1 := by
    simp [drawnAfter, RuleOp.drawsId, named]
  have added : (process.engines other).addRule process.nextRuleId processName targetHosts
      targetPorts protocol action =
        { id := rule.id
          nextRuleId := UInt32.ofNat (drawn + 1) + 1
          engine := ⟨(process.engines other).rules ++ [rule]⟩ } := by
    rw [RuleEngine.addRule, if_neg notEmpty, counter]
  have counterAfter :
      (process.step (.add other processName targetHosts targetPorts protocol action)).nextRuleId =
        UInt32.ofNat (drawn + 1 + 1) := by
    rw [RuleProcess.step, added, UInt32.ofNat_add (drawn + 1) 1]
    rfl
  have live : forall later,
      liveRules engine drawn (.add other processName targetHosts targetPorts protocol action :: later) =
        (if other = engine then (survivor engine (drawn + 1) rule later).toList else []) ++
          liveRules engine (drawn + 1) later := by
    intro later
    rw [liveRules, if_neg notEmpty]
  by_cases here : other = engine
  · subst other
    have rules :
        ((process.step
          (.add engine processName targetHosts targetPorts protocol action)).engines engine).rules =
          (process.engines engine).rules ++ [rule] := by
      rw [RuleProcess.step, added]
      simp only [RuleProcess.update_engines_self]
    refine ⟨by rw [drew, counterAfter], by rw [drew, rules]; exact drawnRules.append fresh, ?_⟩
    intro later
    rw [rules, drew, survivors_cons_of_inert (fun _ => rfl) (fun _ _ => rfl), live, if_pos rfl,
      survivors, survivors, List.filterMap_append, List.append_assoc]
    congr 2
    rw [List.filterMap_cons, List.filterMap_nil, fresh]
    cases survivor engine (drawn + 1) rule later <;> rfl
  · have unchanged :
        (process.step
          (.add other processName targetHosts targetPorts protocol action)).engines engine =
          process.engines engine := by
      rw [RuleProcess.step]
      exact RuleProcess.update_engines_of_ne process _ here
    refine ⟨by rw [drew, counterAfter],
      by rw [drew, unchanged]; exact drawnRules.mono (Nat.le_succ drawn), ?_⟩
    intro later
    rw [unchanged, drew, survivors_cons_of_inert (fun _ => rfl) (fun _ _ => rfl), live,
      if_neg here, List.nil_append]

theorem stepRefines_switch (counter : process.nextRuleId = UInt32.ofNat (drawn + 1))
    (drawnRules : DrawnRules drawn (process.engines engine).rules) (other : Engine)
    (ruleId : UInt32) (enabled : Bool) {op : RuleOp Engine}
    (stepped : process.step op =
      process.update other ((process.engines other).setEnabled ruleId enabled).2)
    (switches : forall serial old, op.switch engine serial old =
      if other = engine ∧ ruleId.toNat = serial then enabled else old)
    (keeps : forall serial, op.deletes engine serial = false) (noDraw : op.drawsId = false)
    (live : forall later, liveRules engine drawn (op :: later) = liveRules engine drawn later) :
    StepRefines engine process drawn op := by
  have same : drawnAfter drawn op = drawn := by
    rw [drawnAfter, noDraw, if_neg Bool.false_ne_true]
  by_cases here : other = engine
  · subst other
    have rules : ((process.step op).engines engine).rules =
        (process.engines engine).rules.map (switchRule ruleId enabled) := by
      rw [stepped, RuleProcess.update_engines_self]
      exact setEnabled_rules ruleId enabled drawnRules.distinct
    refine ⟨by rw [stepped, same]; exact counter, ?_, ?_⟩
    · rw [rules, same]
      exact drawnRules.switch ruleId enabled
    · intro later
      rw [rules, same, live, survivors_switch engine ruleId enabled keeps (by simpa using switches)]
  · have unchanged : (process.step op).engines engine = process.engines engine := by
      rw [stepped, RuleProcess.update_engines_of_ne process _ here]
    refine ⟨by rw [stepped, same]; exact counter, by rwa [unchanged, same], ?_⟩
    intro later
    rw [unchanged, same, live, survivors_cons_of_inert keeps (by simpa [here] using switches)]

theorem stepRefines_delete (counter : process.nextRuleId = UInt32.ofNat (drawn + 1))
    (drawnRules : DrawnRules drawn (process.engines engine).rules) (other : Engine)
    (ruleId : UInt32) : StepRefines engine process drawn (.delete other ruleId) := by
  have live : forall later, liveRules engine drawn (.delete other ruleId :: later) =
      liveRules engine drawn later := fun _ => rfl
  by_cases here : other = engine
  · subst other
    have rules : ((process.step (.delete engine ruleId)).engines engine).rules =
        (process.engines engine).rules.filter (fun rule => rule.id != ruleId) := by
      rw [RuleProcess.step, RuleProcess.update_engines_self, RuleEngine.deleteRule]
    refine ⟨counter, ?_, ?_⟩
    · rw [rules]
      exact drawnRules.filter _
    · intro later
      rw [rules, live, survivors_delete]
      rfl
  · have unchanged : (process.step (.delete other ruleId)).engines engine =
        process.engines engine := by
      rw [RuleProcess.step, RuleProcess.update_engines_of_ne process _ here]
    have keeps : forall serial, (RuleOp.delete other ruleId).deletes engine serial = false := by
      intro serial
      simp [RuleOp.deletes, here]
    refine ⟨counter, by rw [unchanged]; exact drawnRules, ?_⟩
    intro later
    rw [unchanged, live, survivors_cons_of_inert keeps (fun _ _ => rfl)]
    rfl

/-- Every operation keeps the engine in step with the specification. -/
theorem stepRefines (counter : process.nextRuleId = UInt32.ofNat (drawn + 1))
    (drawnRules : DrawnRules drawn (process.engines engine).rules) (op : RuleOp Engine)
    (noWrap : drawnAfter drawn op < 2 ^ 32) : StepRefines engine process drawn op := by
  cases op with
  | add other processName targetHosts targetPorts protocol action =>
      cases named : processName.isEmpty with
      | true =>
          exact stepRefines_add_empty counter drawnRules other named targetHosts targetPorts
            protocol action
      | false =>
          have fits : drawn + 1 < 2 ^ 32 := by
            simpa [drawnAfter, RuleOp.drawsId, named] using noWrap
          exact stepRefines_add counter drawnRules fits other named targetHosts targetPorts
            protocol action
  | enable other ruleId =>
      exact stepRefines_switch counter drawnRules other ruleId true rfl (fun _ _ => rfl)
        (fun _ => rfl) rfl (fun _ => rfl)
  | disable other ruleId =>
      exact stepRefines_switch counter drawnRules other ruleId false rfl (fun _ _ => rfl)
        (fun _ => rfl) rfl (fun _ => rfl)
  | delete other ruleId => exact stepRefines_delete counter drawnRules other ruleId

end Step

/-- While the counter does not wrap, an engine ends with the survivors of the
rules it had, followed by the live rules of the history. -/
theorem run_rules (engine : Engine) (history : List (RuleOp Engine))
    {process : RuleProcess Engine} {drawn : Nat}
    (counter : process.nextRuleId = UInt32.ofNat (drawn + 1))
    (drawnRules : DrawnRules drawn (process.engines engine).rules)
    (noWrap : drawn + history.countP RuleOp.drawsId < 2 ^ 32) :
    ((run RuleProcess.step process history).engines engine).rules =
      survivors engine history (process.engines engine).rules ++
        liveRules engine drawn history := by
  induction history generalizing process drawn with
  | nil => rw [run_nil, survivors_nil, liveRules, List.append_nil]
  | cons op later ih =>
      have draws : drawn + (op :: later).countP RuleOp.drawsId =
          drawnAfter drawn op + later.countP RuleOp.drawsId := by
        rw [List.countP_cons, drawnAfter]
        split <;> omega
      rw [draws] at noWrap
      have refines := stepRefines counter drawnRules op (by omega)
      rw [run_cons, ih refines.counter refines.drawnRules noWrap, refines.left]

/-- Every engine of a process holds exactly the live rules of its history, as
long as fewer than `2 ^ 32` ids are drawn. -/
theorem rules_eq_liveRules (engine : Engine) (history : List (RuleOp Engine))
    (noWrap : history.countP RuleOp.drawsId < 2 ^ 32) :
    ((run RuleProcess.step RuleProcess.initial history).engines engine).rules =
      liveRules engine 0 history := by
  have initialRules : DrawnRules 0 ((RuleProcess.initial.engines engine).rules) :=
    ⟨List.nodup_nil, fun _ member => False.elim (List.not_mem_nil member)⟩
  rw [run_rules engine history rfl initialRules (by omega)]
  rfl

/-- The engine refines the ordered list of live rules with two priority tiers:
every decision is the tiered decision of that list, the engine is active
exactly when a live rule is enabled, and an inactive engine decides `direct`. -/
theorem ruleEngine_refines_liveRules (engine : Engine) (history : List (RuleOp Engine))
    (noWrap : history.countP RuleOp.drawsId < 2 ^ 32) :
    let rules := (run RuleProcess.step RuleProcess.initial history).engines engine
    (forall processName destIp destPort isUdp,
      rules.matchRule processName destIp destPort isUdp =
        RuleEngine.tieredAction (liveRules engine 0 history) processName destIp destPort isUdp) ∧
    (rules.hasActiveRules = true <->
      Exists fun rule => rule ∈ liveRules engine 0 history ∧ rule.enabled = true) ∧
    (rules.hasActiveRules = false ->
      forall processName destIp destPort isUdp,
        rules.matchRule processName destIp destPort isUdp = .direct) := by
  intro rules
  have held := rules_eq_liveRules engine history noWrap
  refine ⟨?_, ?_, ?_⟩
  · intro processName destIp destPort isUdp
    rw [← held]
    exact RuleEngine.matchRule_eq_tieredAction processName destIp destPort isUdp rules
  · rw [← held]
    exact List.any_eq_true
  · intro inactive processName destIp destPort isUdp
    exact RuleEngine.matchRule_of_not_hasActiveRules processName destIp destPort isUdp inactive

/-- A catch-all inserted first yields to a later rule for one process, until
that rule is disabled. -/
theorem ruleEngine_refines_liveRules_curl :
    let catchAll : RuleOp Unit := .add () "any".toList [] [] .both .block
    let curl : RuleOp Unit := .add () "curl".toList "*".toList "443".toList .tcp .proxy
    let decide (history : List (RuleOp Unit)) : RuleAction :=
      ((run RuleProcess.step RuleProcess.initial history).engines ()).matchRule
        "/usr/bin/curl".toList 0x08080808 443 false
    decide [catchAll, curl] = .proxy ∧ decide [catchAll, curl, .disable () 2] = .block := by
  intro catchAll curl decide
  constructor
  · exact ((ruleEngine_refines_liveRules () [catchAll, curl] (by decide)).1 _ _ _ _).trans
      (by decide)
  · exact ((ruleEngine_refines_liveRules () [catchAll, curl, .disable () 2]
      (by decide)).1 _ _ _ _).trans (by decide)

end ProxyBridge
