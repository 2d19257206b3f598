import ProxyBridge.Core.RulePatterns

namespace ProxyBridge

open Foundation Text

/-!
# The rule engine

Rules are kept in insertion order under ids drawn from one counter of the
process.  `matchRule` walks the list once.  It returns at the first rule that
matches, except that a rule without any restriction is only remembered, and
decides when nothing more specific has matched by the end of the list.

`tieredAction` says the same without the walk: the first specific match, then
the first unrestricted rule, then `direct`.
-/

structure Rule where
  id : UInt32
  processName : Str
  targetHosts : Str
  targetPorts : Str
  protocol : RuleProtocol
  action : RuleAction
  enabled : Bool
  deriving DecidableEq

/-- The protocol filter lets the connection through. -/
def admits (protocol : RuleProtocol) (isUdp : Bool) : Bool :=
  match protocol with
  | .tcp => !isUdp
  | .udp => isUdp
  | .both => true

def isWildcardProcess (processName : Str) : Bool :=
  processName = "*".toList || eqIgnoreAsciiCase processName "ANY".toList

namespace Rule

/-- A rule that is switched on and admits the protocol. -/
def applies (rule : Rule) (isUdp : Bool) : Bool :=
  rule.enabled && admits rule.protocol isUdp

/-- No restriction on the process, the hosts or the ports. -/
def isCatchAll (rule : Rule) : Bool :=
  isWildcardProcess rule.processName && rule.targetHosts = "*".toList &&
    rule.targetPorts = "*".toList

/-- The process, host and port lists all match. -/
def matchesLists (rule : Rule) (processName : Str) (destIp : UInt32) (destPort : UInt16) :
    Bool :=
  (isWildcardProcess rule.processName || matchProcessList rule.processName processName) &&
    matchIpList rule.targetHosts destIp && matchPortList rule.targetPorts destPort

/-- A match of the first tier. -/
def isSpecificMatch (rule : Rule) (processName : Str) (destIp : UInt32) (destPort : UInt16)
    (isUdp : Bool) : Bool :=
  rule.applies isUdp && !rule.isCatchAll && rule.matchesLists processName destIp destPort

/-- A match of the second tier. -/
def isFallback (rule : Rule) (isUdp : Bool) : Bool :=
  rule.applies isUdp && rule.isCatchAll

end Rule

structure RuleEngine where
  rules : List Rule
  deriving DecidableEq

namespace RuleEngine

def new : RuleEngine :=
  ⟨[]⟩

/-- What `addRule` leaves behind: the id it returns, with 0 for a failure, the
counter, and the engine. -/
structure AddResult where
  id : UInt32
  nextRuleId : UInt32
  engine : RuleEngine

def addRule (engine : RuleEngine) (nextRuleId : UInt32)
    (processName targetHosts targetPorts : Str) (protocol : RuleProtocol) (action : RuleAction) :
    AddResult :=
  if processName.isEmpty then { id := 0, nextRuleId := nextRuleId, engine := engine }
  else
    let rule : Rule := {
      id := nextRuleId
      processName := processName
      targetHosts := fieldOrStar targetHosts
      targetPorts := fieldOrStar targetPorts
      protocol := protocol
      action := action
      enabled := true }
    { id := rule.id, nextRuleId := nextRuleId + 1, engine := ⟨engine.rules ++ [rule]⟩ }

/-- Set the flag of the first rule with the given id; absent when there is
none. -/
def setFirstEnabled (ruleId : UInt32) (enabled : Bool) : List Rule -> Option (List Rule)
  | [] => none
  | rule :: rest =>
      if rule.id = ruleId then some ({ rule with enabled := enabled } :: rest)
      else (setFirstEnabled ruleId enabled rest).map (fun rest => rule :: rest)

def setEnabled (engine : RuleEngine) (ruleId : UInt32) (enabled : Bool) : Bool × RuleEngine :=
  match setFirstEnabled ruleId enabled engine.rules with
  | some rules => (true, ⟨rules⟩)
  | none => (false, engine)

def enableRule (engine : RuleEngine) (ruleId : UInt32) : Bool × RuleEngine :=
  engine.setEnabled ruleId true

def disableRule (engine : RuleEngine) (ruleId : UInt32) : Bool × RuleEngine :=
  engine.setEnabled ruleId false

def deleteRule (engine : RuleEngine) (ruleId : UInt32) : Bool × RuleEngine :=
  let rules := engine.rules.filter (fun rule => rule.id != ruleId)
  (rules.length != engine.rules.length, ⟨rules⟩)

/-! ## Matching -/

def hasActiveRules (engine : RuleEngine) : Bool :=
  engine.rules.any Rule.enabled

/-- The loop of `matchRule`; `wildcardRule` is the deferred candidate. -/
def matchRuleLoop (processName : Str) (destIp : UInt32) (destPort : UInt16) (isUdp : Bool) :
    Option Rule -> List Rule -> RuleAction
  | wildcardRule, [] =>
      match wildcardRule with
      | some rule => rule.action
      | none => .direct
  | wildcardRule, rule :: rest =>
      if !rule.enabled then matchRuleLoop processName destIp destPort isUdp wildcardRule rest
      else if !admits rule.protocol isUdp then
        matchRuleLoop processName destIp destPort isUdp wildcardRule rest
      else if isWildcardProcess rule.processName then
        let hasIpFilter := rule.targetHosts != "*".toList
        let hasPortFilter := rule.targetPorts != "*".toList
        if hasIpFilter || hasPortFilter then
          if matchIpList rule.targetHosts destIp && matchPortList rule.targetPorts destPort then
            rule.action
          else matchRuleLoop processName destIp destPort isUdp wildcardRule rest
        else
          let wildcardRule := if wildcardRule.isNone then some rule else wildcardRule
          matchRuleLoop processName destIp destPort isUdp wildcardRule rest
      else if matchProcessList rule.processName processName &&
          matchIpList rule.targetHosts destIp && matchPortList rule.targetPorts destPort then
        rule.action
      else matchRuleLoop processName destIp destPort isUdp wildcardRule rest

def matchRule (engine : RuleEngine) (processName : Str) (destIp : UInt32) (destPort : UInt16)
    (isUdp : Bool) : RuleAction :=
  matchRuleLoop processName destIp destPort isUdp none engine.rules

/-- The decision of an ordered list of rules with two priority tiers. -/
def tieredAction (rules : List Rule) (processName : Str) (destIp : UInt32) (destPort : UInt16)
    (isUdp : Bool) : RuleAction :=
  match rules.find? (fun rule => rule.isSpecificMatch processName destIp destPort isUdp) with
  | some rule => rule.action
  | none =>
      match rules.find? (fun rule => rule.isFallback isUdp) with
      | some rule => rule.action
      | none => .direct

section Loop

variable (processName : Str) (destIp : UInt32) (destPort : UInt16) (isUdp : Bool)

/-- One turn of the loop: a specific match ends it, a fallback becomes the
candidate unless there is one, and any other rule is passed over. -/
theorem matchRuleLoop_cons (wildcardRule : Option Rule) (rule : Rule) (rest : List Rule) :
    matchRuleLoop processName destIp destPort isUdp wildcardRule (rule :: rest) =
      if rule.isSpecificMatch processName destIp destPort isUdp then rule.action
      else matchRuleLoop processName destIp destPort isUdp
        (wildcardRule.or (if rule.isFallback isUdp then some rule else none)) rest := by
  rw [matchRuleLoop]
  unfold Rule.isSpecificMatch Rule.isFallback Rule.applies Rule.isCatchAll Rule.matchesLists
  cases enabled : rule.enabled
  · simp
  · cases admitted : admits rule.protocol isUdp
    · simp
    · cases wildcard : isWildcardProcess rule.processName
      · simp
      · by_cases anyHost : rule.targetHosts = ['*']
        · by_cases anyPort : rule.targetPorts = ['*']
          · cases wildcardRule <;> simp [anyHost, anyPort]
          · simp [anyHost, anyPort]
        · simp [anyHost]

/-- With a candidate already found, only a specific match can still decide. -/
theorem matchRuleLoop_eq (wildcardRule : Option Rule) (rules : List Rule) :
    matchRuleLoop processName destIp destPort isUdp wildcardRule rules =
      match rules.find? (fun rule => rule.isSpecificMatch processName destIp destPort isUdp) with
      | some rule => rule.action
      | none =>
          match wildcardRule.or (rules.find? (fun rule => rule.isFallback isUdp)) with
          | some rule => rule.action
          | none => .direct := by
  induction rules generalizing wildcardRule with
  | nil =>
      rw [List.find?_nil, List.find?_nil, Option.or_none]
      cases wildcardRule with
      | none => rfl
      | some rule => rfl
  | cons rule rest ih =>
      rw [matchRuleLoop_cons]
      cases specific : rule.isSpecificMatch processName destIp destPort isUdp
      · rw [if_neg Bool.false_ne_true, ih, List.find?_cons_of_neg (by simp [specific])]
        cases fallback : rule.isFallback isUdp
        · rw [if_neg Bool.false_ne_true, Option.or_none,
            List.find?_cons_of_neg (by simp [fallback])]
        · rw [if_pos rfl, Option.or_assoc, Option.some_or,
            List.find?_cons_of_pos (by exact fallback)]
      · rw [if_pos rfl, List.find?_cons_of_pos (by exact specific)]

theorem matchRule_eq_tieredAction (engine : RuleEngine) :
    engine.matchRule processName destIp destPort isUdp =
      tieredAction engine.rules processName destIp destPort isUdp := by
  rw [matchRule, matchRuleLoop_eq, Option.none_or]
  rfl

/-- Without an enabled rule both tiers are empty. -/
theorem matchRule_of_not_hasActiveRules {engine : RuleEngine}
    (inactive : engine.hasActiveRules = false) :
    engine.matchRule processName destIp destPort isUdp = .direct := by
  have disabled : forall rule, rule ∈ engine.rules -> rule.enabled = false := by
    intro rule member
    exact Bool.eq_false_iff.mpr (List.any_eq_false.mp inactive rule member)
  have noSpecific : engine.rules.find?
      (fun rule => rule.isSpecificMatch processName destIp destPort isUdp) = none := by
    apply List.find?_eq_none.mpr
    intro rule member
    simp [Rule.isSpecificMatch, Rule.applies, disabled rule member]
  have noFallback : engine.rules.find? (fun rule => rule.isFallback isUdp) = none := by
    apply List.find?_eq_none.mpr
    intro rule member
    simp [Rule.isFallback, Rule.applies, disabled rule member]
  rw [matchRule_eq_tieredAction, tieredAction, noSpecific, noFallback]

end Loop

end RuleEngine
end ProxyBridge
