import ProxyBridge.Core.RuleEngine

namespace ProxyBridge

open Foundation Text

/-!
# Replacing a rule by one that matches the same

Two rules that match the same connections and decide the same should be
interchangeable in every rule list.  They are not: whether a rule is a fallback
is decided by the spelling of its lists, and so is whether its process list is
looked at.  The rules are interchangeable exactly when the spelling makes no
difference in these two places.
-/

/-- The two rules have the same switches, and their lists match the same
processes, addresses and ports. -/
structure MatchAlike (rule other : Rule) : Prop where
  protocol : rule.protocol = other.protocol
  action : rule.action = other.action
  enabled : rule.enabled = other.enabled
  process : forall name,
    matchProcessList rule.processName name = matchProcessList other.processName name
  hosts : forall ip, matchIpList rule.targetHosts ip = matchIpList other.targetHosts ip
  ports : forall port, matchPortList rule.targetPorts port = matchPortList other.targetPorts port

theorem MatchAlike.symm {rule other : Rule} (alike : MatchAlike rule other) :
    MatchAlike other rule where
  protocol := alike.protocol.symm
  action := alike.action.symm
  enabled := alike.enabled.symm
  process := fun name => (alike.process name).symm
  hosts := fun ip => (alike.hosts ip).symm
  ports := fun port => (alike.ports port).symm

/-- No position of any list and no connection tells the two rules apart. -/
def Interchangeable (rule other : Rule) : Prop :=
  forall (before after : List Rule) (processName : Str) (destIp : UInt32) (destPort : UInt16)
    (isUdp : Bool),
    (RuleEngine.mk (before ++ rule :: after)).matchRule processName destIp destPort isUdp =
      (RuleEngine.mk (before ++ other :: after)).matchRule processName destIp destPort isUdp

theorem Interchangeable.symm {rule other : Rule} (same : Interchangeable rule other) :
    Interchangeable other rule :=
  fun before after name ip port udp => (same before after name ip port udp).symm

section Substitution

variable {rule other : Rule} {processName : Str} {destIp : UInt32} {destPort : UInt16}
  {isUdp : Bool}

/-- The action that a search finds does not depend on which of two rules stands
at a place, if both pass the test or neither does. -/
theorem find?_replaced {test : Rule -> Bool} (same : test rule = test other)
    (action : rule.action = other.action) (before after : List Rule) :
    ((before ++ rule :: after).find? test).map Rule.action =
      ((before ++ other :: after).find? test).map Rule.action := by
  rw [List.find?_append, List.find?_append]
  cases before.find? test with
  | some found => rfl
  | none =>
      rw [Option.none_or, Option.none_or]
      cases passes : test other with
      | true =>
          rw [List.find?_cons_of_pos (same.trans passes), List.find?_cons_of_pos passes,
            Option.map_some, Option.map_some, action]
      | false =>
          rw [List.find?_cons_of_neg (Bool.eq_false_iff.mp (same.trans passes)),
            List.find?_cons_of_neg (Bool.eq_false_iff.mp passes)]

theorem tieredAction_eq (rules : List Rule) :
    RuleEngine.tieredAction rules processName destIp destPort isUdp =
      (((rules.find? (fun rule => rule.isSpecificMatch processName destIp destPort isUdp)).map
          Rule.action).getD
        (((rules.find? (fun rule => rule.isFallback isUdp)).map Rule.action).getD .direct)) := by
  unfold RuleEngine.tieredAction
  cases rules.find? (fun rule => rule.isSpecificMatch processName destIp destPort isUdp) with
  | some found => rfl
  | none =>
      cases rules.find? (fun rule => rule.isFallback isUdp) with
      | some found => rfl
      | none => rfl

/-- Two rules that agree in both tiers are interchangeable. -/
theorem interchangeable_of_tiers (action : rule.action = other.action)
    (specific : forall name ip port udp,
      rule.isSpecificMatch name ip port udp = other.isSpecificMatch name ip port udp)
    (fallback : forall udp, rule.isFallback udp = other.isFallback udp) :
    Interchangeable rule other := by
  intro before after name ip port udp
  rw [RuleEngine.matchRule_eq_tieredAction, RuleEngine.matchRule_eq_tieredAction, tieredAction_eq,
    tieredAction_eq, find?_replaced (specific name ip port udp) action,
    find?_replaced (fallback udp) action]

/-- A rule that matches every connection without being a fallback. -/
def everything (action : RuleAction) : Rule where
  id := 1
  processName := "*".toList
  targetHosts := "*.*.*.*".toList
  targetPorts := "*".toList
  protocol := .both
  action := action
  enabled := true

theorem everything_isSpecificMatch (action : RuleAction) (processName : Str) (destIp : UInt32)
    (destPort : UInt16) (isUdp : Bool) :
    (everything action).isSpecificMatch processName destIp destPort isUdp = true := by
  cases isUdp with
  | true => rfl
  | false => rfl

def otherAction (action : RuleAction) : RuleAction :=
  if action = .block then .direct else .block

theorem otherAction_ne (action : RuleAction) : otherAction action ≠ action := by
  cases action <;> decide

/-- In front of a rule that matches everything and decides otherwise, a rule
shows whether it matches specifically. -/
theorem matchRule_everything (rule : Rule) (processName : Str) (destIp : UInt32)
    (destPort : UInt16) (isUdp : Bool) :
    (RuleEngine.mk [rule, everything (otherAction rule.action)]).matchRule processName destIp
        destPort isUdp = rule.action <->
      rule.isSpecificMatch processName destIp destPort isUdp = true := by
  rw [RuleEngine.matchRule_eq_tieredAction, tieredAction_eq]
  cases specific : rule.isSpecificMatch processName destIp destPort isUdp with
  | true =>
      rw [List.find?_cons_of_pos (by exact specific)]
      exact iff_of_true rfl rfl
  | false =>
      rw [List.find?_cons_of_neg (by exact Bool.eq_false_iff.mp specific),
        List.find?_cons_of_pos (by exact everything_isSpecificMatch _ _ _ _ _)]
      exact iff_of_false (otherAction_ne rule.action) Bool.false_ne_true

theorem Interchangeable.isSpecificMatch_eq (same : Interchangeable rule other)
    (action : rule.action = other.action) (processName : Str) (destIp : UInt32)
    (destPort : UInt16) (isUdp : Bool) :
    rule.isSpecificMatch processName destIp destPort isUdp =
      other.isSpecificMatch processName destIp destPort isUdp := by
  have here := matchRule_everything rule processName destIp destPort isUdp
  have there := matchRule_everything other processName destIp destPort isUdp
  have equal := same [] [everything (otherAction rule.action)] processName destIp destPort isUdp
  rw [List.nil_append, List.nil_append] at equal
  rw [equal, action] at here
  exact Bool.eq_iff_iff.mpr (here.symm.trans there)

end Substitution

/-! ## The condition -/

/-- Whether the process list is looked at makes no difference: it matches every
process, or another list matches nothing. -/
def ProcessIdle (rule : Rule) : Prop :=
  (forall name, matchProcessList rule.processName name = true) ∨
    (forall ip, matchIpList rule.targetHosts ip = false) ∨
    (forall port, matchPortList rule.targetPorts port = false)

/-- A process name that stands for every process is matched as a pattern by the
name `ANY` at least. -/
theorem matchProcessList_any {processName : Str} (wildcard : isWildcardProcess processName = true) :
    matchProcessList processName "ANY".toList = true := by
  rcases Bool.or_eq_true_iff.mp wildcard with star | keyword
  · exact if_pos (of_decide_eq_true star)
  · have lowered : processName.map Char.toLower = ['a', 'n', 'y'] :=
      (eqIgnoreAsciiCase_iff _ _).mp keyword
    rcases List.map_eq_cons_iff.mp lowered with ⟨first, tail, whole, firstLow, tailLow⟩
    rcases List.map_eq_cons_iff.mp tailLow with ⟨second, rest, tailSame, secondLow, restLow⟩
    rcases List.map_eq_singleton_iff.mp restLow with ⟨third, restSame, thirdLow⟩
    rw [whole, tailSame, restSame]
    rcases eq_of_toLower firstLow with a | a <;> rcases eq_of_toLower secondLow with n | n <;>
      rcases eq_of_toLower thirdLow with y | y <;> rw [a, n, y] <;> rfl

section Condition

variable {rule other : Rule}

theorem exists_admits (protocol : RuleProtocol) :
    Exists fun isUdp => admits protocol isUdp = true := by
  cases protocol with
  | tcp => exact ⟨false, rfl⟩
  | udp => exact ⟨true, rfl⟩
  | both => exact ⟨true, rfl⟩

theorem MatchAlike.applies_eq (alike : MatchAlike rule other) (isUdp : Bool) :
    rule.applies isUdp = other.applies isUdp := by
  rw [Rule.applies, Rule.applies, alike.enabled, alike.protocol]

theorem MatchAlike.processIdle (alike : MatchAlike rule other) (idle : ProcessIdle rule) :
    ProcessIdle other := by
  rcases idle with all | hosts | ports
  · exact Or.inl (fun name => (alike.process name).symm.trans (all name))
  · exact Or.inr (Or.inl (fun ip => (alike.hosts ip).symm.trans (hosts ip)))
  · exact Or.inr (Or.inr (fun port => (alike.ports port).symm.trans (ports port)))

/-- The spelling makes no difference, so neither tier does. -/
theorem MatchAlike.interchangeable (alike : MatchAlike rule other)
    (condition : rule.enabled = false ∨ (rule.isCatchAll = other.isCatchAll ∧
      (isWildcardProcess rule.processName = isWildcardProcess other.processName ∨
        ProcessIdle rule))) : Interchangeable rule other := by
  rcases condition with disabled | ⟨catchAll, process⟩
  · have otherDisabled : other.enabled = false := alike.enabled.symm.trans disabled
    apply interchangeable_of_tiers alike.action
    · intro name ip port udp
      simp only [Rule.isSpecificMatch, Rule.applies, disabled, otherDisabled, Bool.false_and]
    · intro udp
      simp only [Rule.isFallback, Rule.applies, disabled, otherDisabled, Bool.false_and]
  · have lists : forall name ip port,
        rule.matchesLists name ip port = other.matchesLists name ip port := by
      intro name ip port
      rw [Rule.matchesLists, Rule.matchesLists, alike.process, alike.hosts, alike.ports]
      rcases process with same | all | hosts | ports
      · rw [same]
      · rw [← alike.process, all, Bool.or_true, Bool.or_true]
      · rw [← alike.hosts, hosts, Bool.and_false, Bool.and_false]
      · rw [← alike.ports, ports, Bool.and_false, Bool.and_false]
    apply interchangeable_of_tiers alike.action
    · intro name ip port udp
      rw [Rule.isSpecificMatch, Rule.isSpecificMatch, alike.applies_eq, catchAll, lists]
    · intro udp
      rw [Rule.isFallback, Rule.isFallback, alike.applies_eq, catchAll]

/-- A fallback cannot be replaced by a rule that is none. -/
theorem Interchangeable.isCatchAll (same : Interchangeable rule other)
    (alike : MatchAlike rule other) (enabled : rule.enabled = true)
    (catchAll : rule.isCatchAll = true) : other.isCatchAll = true := by
  rcases exists_admits rule.protocol with ⟨isUdp, admitted⟩
  have applies : other.applies isUdp = true := by
    rw [← alike.applies_eq, Rule.applies, enabled, admitted, Bool.true_and]
  have equal := same.isSpecificMatch_eq alike.action "ANY".toList 0 0 isUdp
  rw [Rule.isSpecificMatch, catchAll, Bool.not_true, Bool.and_false, Bool.false_and,
    Rule.isSpecificMatch, applies, Bool.true_and] at equal
  simp only [Rule.isCatchAll, Bool.and_eq_true, decide_eq_true_eq] at catchAll
  rcases catchAll with ⟨⟨wildcard, anyHost⟩, anyPort⟩
  have process := matchProcessList_any wildcard
  have host : matchIpList rule.targetHosts 0 = true := by
    rw [anyHost]
    rfl
  have port : matchPortList rule.targetPorts 0 = true := by
    rw [anyPort]
    rfl
  rw [Rule.matchesLists, ← alike.process, ← alike.hosts, ← alike.ports, process, host, port,
    Bool.or_true, Bool.and_true, Bool.and_true, Bool.and_true] at equal
  cases special : other.isCatchAll with
  | true => rfl
  | false =>
      rw [special] at equal
      cases equal

/-- A rule that does not look at its process list cannot be replaced by one that
does, unless the list is idle. -/
theorem Interchangeable.isWildcardProcess (same : Interchangeable rule other)
    (alike : MatchAlike rule other) (enabled : rule.enabled = true)
    (catchAll : rule.isCatchAll = other.isCatchAll) (busy : Not (ProcessIdle rule))
    (wildcard : isWildcardProcess rule.processName = true) :
    ProxyBridge.isWildcardProcess other.processName = true := by
  rcases not_or.mp busy with ⟨process, lists⟩
  rcases not_or.mp lists with ⟨hosts, ports⟩
  rcases not_forall.mp process with ⟨name, unmatched⟩
  rcases not_forall.mp hosts with ⟨ip, host⟩
  rcases not_forall.mp ports with ⟨port, service⟩
  rcases exists_admits rule.protocol with ⟨isUdp, admitted⟩
  have applies : rule.applies isUdp = true := by
    rw [Rule.applies, enabled, admitted, Bool.true_and]
  have equal := same.isSpecificMatch_eq alike.action name ip port isUdp
  rw [Rule.isSpecificMatch, Rule.isSpecificMatch, ← alike.applies_eq, ← catchAll, applies,
    Bool.true_and, Rule.matchesLists, Rule.matchesLists, ← alike.process,
    ← alike.hosts, ← alike.ports, wildcard, Bool.eq_false_of_not_eq_true unmatched,
    Bool.eq_true_of_not_eq_false host, Bool.eq_true_of_not_eq_false service, Bool.or_false,
    Bool.or_false, Bool.and_true, Bool.and_true, Bool.and_true, Bool.and_true] at equal
  cases special : rule.isCatchAll with
  | true =>
      rw [catchAll, Rule.isCatchAll, Bool.and_eq_true, Bool.and_eq_true] at special
      exact special.1.1
  | false =>
      rw [special, Bool.not_false, Bool.true_and, Bool.and_true] at equal
      exact equal.symm

end Condition

/-- Two rules that match the same are interchangeable exactly when they are
disabled, or both or neither are fallbacks and their process lists are both looked
at or both not, if that matters. -/
theorem interchangeable_iff (rule other : Rule) (alike : MatchAlike rule other) :
    Interchangeable rule other <->
      rule.enabled = false ∨ (rule.isCatchAll = other.isCatchAll ∧
        (isWildcardProcess rule.processName = isWildcardProcess other.processName ∨
          ProcessIdle rule)) := by
  refine ⟨?_, alike.interchangeable⟩
  intro same
  by_cases enabled : rule.enabled = true
  · right
    have otherEnabled : other.enabled = true := alike.enabled.symm.trans enabled
    have catchAll : rule.isCatchAll = other.isCatchAll :=
      Bool.eq_iff_iff.mpr ⟨same.isCatchAll alike enabled,
        same.symm.isCatchAll alike.symm otherEnabled⟩
    refine ⟨catchAll, ?_⟩
    by_cases idle : ProcessIdle rule
    · exact Or.inr idle
    · have otherBusy : Not (ProcessIdle other) := fun held => idle (alike.symm.processIdle held)
      exact Or.inl (Bool.eq_iff_iff.mpr
        ⟨same.isWildcardProcess alike enabled catchAll idle,
          same.symm.isWildcardProcess alike.symm otherEnabled catchAll.symm otherBusy⟩)
  · exact Or.inl (Bool.eq_false_of_not_eq_true enabled)

/-- A rule for every process, with the given spelling of its process list. -/
def anyProcess (spelling : Str) : Rule where
  id := 1
  processName := spelling
  targetHosts := "*".toList
  targetPorts := "*".toList
  protocol := .both
  action := .proxy
  enabled := true

theorem matchAlike_anyProcess : MatchAlike (anyProcess "*".toList) (anyProcess "*;*".toList) where
  protocol := rfl
  action := rfl
  enabled := rfl
  process := fun _ => rfl
  hosts := fun _ => rfl
  ports := fun _ => rfl

theorem interchangeable_iff_anyProcess :
    Interchangeable (anyProcess "*".toList) (anyProcess "*;*".toList) <->
      (anyProcess "*".toList).enabled = false ∨
        ((anyProcess "*".toList).isCatchAll = (anyProcess "*;*".toList).isCatchAll ∧
          (isWildcardProcess "*".toList = isWildcardProcess "*;*".toList ∨
            ProcessIdle (anyProcess "*".toList))) :=
  interchangeable_iff _ _ matchAlike_anyProcess

/-- Written `*;*`, the process list `*` takes a rule out of the second tier. -/
theorem spelling_changes_action :
    Not (forall rule other : Rule, MatchAlike rule other -> Interchangeable rule other) := by
  intro interchangeable
  have same := interchangeable _ _ matchAlike_anyProcess [] [everything .block] "curl".toList
    0x04030201 443 false
  revert same
  decide

end ProxyBridge
