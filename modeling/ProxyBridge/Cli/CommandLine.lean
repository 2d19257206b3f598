import ProxyBridge.Cli.ProxyUrl
import ProxyBridge.Core.RuleParsing
import ProxyBridge.Foundation.FirstMatch

namespace ProxyBridge

open Foundation Text

/-!
# What a command line of rules says

The rules of the command line are parsed and added one after the other.  Their
order and two tiers decide: the first rule that says something in particular
about a connection, or else the first one without any restriction.

This is stated here for the rules as they are meant, with patterns for lists and
in any spelling (`Decision`), and it is what the engine does that the program
builds from their texts (`addRules_text`, `matchRule_iff_decision`).  Whether a
rule is unrestricted can be seen from its text because the fields `*` have no
other spelling.
-/

/-- The arguments of the program. -/
structure CliArgs where
  proxy : Str
  rule : List Str
  dnsViaProxy : Bool
  verbose : UInt8
  cleanup : Bool

namespace CliArgs

/-- The program without arguments. -/
def defaults : CliArgs where
  proxy := "socks5://127.0.0.1:4444".toList
  rule := []
  dnsViaProxy := true
  verbose := 0
  cleanup := false

end CliArgs

example : parseProxyUrl CliArgs.defaults.proxy =
    some (.ok ⟨.socks5, "127.0.0.1".toList, 4444, none, none⟩) := by decide

/-- The rules are added one after the other, up to the first that does not
parse. -/
def addRules (engine : RuleEngine) (nextRuleId : UInt32) :
    List Str -> Except Str (RuleEngine × UInt32)
  | [] => .ok (engine, nextRuleId)
  | ruleStr :: rest => do
      let parsed ← parseRuleStr ruleStr
      let added := engine.addRule nextRuleId parsed.process parsed.hosts parsed.ports
        parsed.protocol parsed.action
      addRules added.engine added.nextRuleId rest

/-- No restriction on the process, the hosts or the ports. -/
def AbstractRule.Unrestricted (rule : AbstractRule) : Prop :=
  rule.processes.toList = [.any] ∧ rule.hosts.toList = [.every] ∧ rule.ports.toList = [.every]

/-- A rule of the command line: a rule of the language in some spelling, or an
exemption, which is written like a rule with the word DIRECT for its action. -/
inductive RuleLine where
  | routed (rule : AbstractRule) (spelling : Spelling rule)
  | exempt (rule : AbstractRule) (spelling : Spelling rule) (word : Str)
      (direct : eqIgnoreAsciiCase word RuleAction.direct.keyword = true)

namespace RuleLine

def rule : RuleLine -> AbstractRule
  | routed rule _ => rule
  | exempt rule _ _ _ => rule

def spelling : forall line : RuleLine, Spelling line.rule
  | routed _ spelling => spelling
  | exempt _ spelling _ _ => spelling

def action : RuleLine -> RuleAction
  | routed rule _ => rule.action
  | exempt _ _ _ _ => .direct

def actionText : RuleLine -> Str
  | routed _ spelling => spelling.actionText
  | exempt _ _ word _ => word

/-- `process:hosts:ports:protocol:action` -/
def text (line : RuleLine) : Str :=
  joinWith line.spelling.processField [(':', line.spelling.hostField),
    (':', line.spelling.portField), (':', line.spelling.protocolText), (':', line.actionText)]

end RuleLine

/-- A connection as the rules see it. -/
structure Connection where
  processName : Str
  destIp : UInt32
  destPort : UInt16
  isUdp : Bool

namespace RuleLine

/-- The line says something in particular about the connection. -/
def Singles (connection : Connection) (line : RuleLine) : Prop :=
  Not line.rule.Unrestricted ∧ line.rule.Matches connection.processName connection.destIp
    connection.destPort connection.isUdp

/-- The line is about everything of the protocol. -/
def Defaults (connection : Connection) (line : RuleLine) : Prop :=
  line.rule.Unrestricted ∧ admits line.rule.protocol connection.isUdp = true

end RuleLine

/-- The decision of lines about a connection. -/
inductive Decision (lines : List RuleLine) (connection : Connection) : RuleAction -> Prop where
  | particular (line : RuleLine) (first : First (RuleLine.Singles connection) lines line) :
      Decision lines connection line.action
  | general (line : RuleLine)
      (none : forall other, other ∈ lines -> Not (other.Singles connection))
      (first : First (RuleLine.Defaults connection) lines line) :
      Decision lines connection line.action
  | nothing (noneInParticular : forall line, line ∈ lines -> Not (line.Singles connection))
      (none : forall line, line ∈ lines -> Not (line.Defaults connection)) :
      Decision lines connection .direct

/-- Lines decide once. -/
theorem Decision.unique {lines : List RuleLine} {connection : Connection}
    {left right : RuleAction} (one : Decision lines connection left)
    (other : Decision lines connection right) : left = right := by
  cases one with
  | particular line first =>
      cases other with
      | particular line' first' => rw [first.unique first']
      | general _ none _ => exact absurd first.1 (none line first.mem)
      | nothing none _ => exact absurd first.1 (none line first.mem)
  | general line none first =>
      cases other with
      | particular line' first' => exact absurd first'.1 (none line' first'.mem)
      | general line' _ first' => rw [first.unique first']
      | nothing _ noDefault => exact absurd first.1 (noDefault line first.mem)
  | nothing none noDefault =>
      cases other with
      | particular line' first' => exact absurd first'.1 (none line' first'.mem)
      | general line' _ first' => exact absurd first'.1 (noDefault line' first'.mem)
      | nothing _ _ => rfl

/-! ## Lines and the rules of the engine -/

/-- A field is `*` only when its one pattern is the star. -/
theorem Patterns.render_eq_star_iff {A : Type} (patterns : Patterns A) {write : A -> Str}
    {separators : List Char} {star : A} (enough : separators.length = patterns.more.length)
    (written : forall pattern, write pattern ≠ [])
    (single : forall pattern, write pattern = "*".toList <-> pattern = star) :
    patterns.render write separators = "*".toList <-> patterns.toList = [star] := by
  rcases patterns with ⟨first, more⟩
  cases more with
  | nil =>
      rw [List.length_eq_zero_iff.mp enough]
      change write first = _ <-> [first] = [star]
      rw [single, List.singleton_inj]
  | cons next more =>
      cases separators with
      | nil => cases enough
      | cons separator separators =>
          refine iff_of_false ?_ ?_
          · intro same
            change write first ++ separator :: joinWith _ _ = ['*'] at same
            rcases List.append_eq_singleton_iff.mp same with ⟨empty, _⟩ | ⟨_, absent⟩
            · exact written first empty
            · cases absent
          · intro same
            cases same

theorem ProcessPattern.render_eq_star_iff (pattern : ProcessPattern) :
    pattern.render = "*".toList <-> pattern = .any := by
  cases pattern with
  | any => exact iff_of_true rfl rfl
  | exactly name =>
      refine iff_of_false ?_ (fun same => by cases same)
      intro same
      apply name.star_not_mem
      rw [show name.text = "*".toList from same]
      exact List.mem_singleton_self _
  | starting name =>
      refine iff_of_false ?_ (fun same => by cases same)
      intro same
      rcases List.append_eq_singleton_iff.mp same with ⟨empty, _⟩ | ⟨_, absent⟩
      · exact name.nonempty empty
      · cases absent
  | ending name =>
      refine iff_of_false ?_ (fun same => by cases same)
      intro same
      exact name.nonempty (List.cons_eq_cons.mp same).2

theorem HostPattern.render_eq_star_iff (pattern : HostPattern) :
    pattern.render = "*".toList <-> pattern = .every := by
  cases pattern with
  | every => exact iff_of_true rfl rfl
  | octets a b c d =>
      refine iff_of_false ?_ (fun same => by cases same)
      intro same
      have dot : '.' ∈ (HostPattern.octets a b c d).render :=
        List.mem_append_right _ List.mem_cons_self
      rw [same] at dot
      cases List.mem_singleton.mp dot

theorem PortPattern.render_eq_star_iff (pattern : PortPattern) :
    pattern.render = "*".toList <-> pattern = .every := by
  cases pattern with
  | every => exact iff_of_true rfl rfl
  | exactly port => exact iff_of_false (decimal_ne_star _) (fun same => by cases same)
  | between lo hi => exact iff_of_false (range_ne_star _ _) (fun same => by cases same)

/-- What the program makes of a line. -/
structure Written (line : RuleLine) (rule : Rule) : Prop where
  processName : rule.processName = line.spelling.processField
  targetHosts : rule.targetHosts = line.spelling.hostField
  targetPorts : rule.targetPorts = line.spelling.portField
  protocol : rule.protocol = line.rule.protocol
  action : rule.action = line.action
  enabled : rule.enabled = true

namespace Written

variable {line : RuleLine} {rule : Rule} (written : Written line rule)
include written

theorem isCatchAll_iff : rule.isCatchAll = true <-> line.rule.Unrestricted := by
  have process := @Patterns.render_eq_star_iff _ line.rule.processes ProcessPattern.render
    (line.rule.processes.more.map (fun _ => ';')) .any (List.length_map _)
    ProcessPattern.render_ne_nil ProcessPattern.render_eq_star_iff
  have hosts := @Patterns.render_eq_star_iff _ line.rule.hosts HostPattern.render
    (line.rule.hosts.more.map (fun _ => ';')) .every (List.length_map _)
    HostPattern.render_ne_nil HostPattern.render_eq_star_iff
  have ports := @Patterns.render_eq_star_iff _ line.rule.ports PortPattern.render
    line.spelling.portSeparators .every line.spelling.enough
    PortPattern.render_ne_nil PortPattern.render_eq_star_iff
  rw [Rule.isCatchAll, isWildcardProcess, written.processName, written.targetHosts,
    written.targetPorts, line.spelling.processField_not_any, Bool.or_false, Bool.and_eq_true,
    Bool.and_eq_true, decide_eq_true_iff, decide_eq_true_iff, decide_eq_true_iff, and_assoc]
  exact and_congr process (and_congr hosts ports)

theorem applies_iff (isUdp : Bool) :
    rule.applies isUdp = true <-> admits line.rule.protocol isUdp = true := by
  rw [Rule.applies, written.enabled, written.protocol, Bool.true_and]

theorem matchesLists_iff (processName : Str) (destIp : UInt32) (destPort : UInt16) :
    rule.matchesLists processName destIp destPort = true <->
      line.rule.processes.Any (ProcessPattern.Matches processName) ∧
        line.rule.hosts.Any (HostPattern.Matches destIp) ∧
        line.rule.ports.Any (PortPattern.Matches destPort) := by
  rw [Rule.matchesLists, written.processName, written.targetHosts, written.targetPorts,
    Bool.and_eq_true, Bool.and_eq_true, line.spelling.matches_processField,
    line.spelling.matches_hostField, line.spelling.matches_portField, and_assoc]

theorem isSpecificMatch_iff (connection : Connection) :
    rule.isSpecificMatch connection.processName connection.destIp connection.destPort
        connection.isUdp = true <-> line.Singles connection := by
  rw [Rule.isSpecificMatch, Bool.and_eq_true, Bool.and_eq_true, Bool.not_eq_true',
    ← Bool.not_eq_true, written.isCatchAll_iff, written.applies_iff, written.matchesLists_iff,
    RuleLine.Singles, AbstractRule.Matches]
  rw [and_comm (a := admits _ _ = true), and_assoc]

theorem isFallback_iff (connection : Connection) :
    rule.isFallback connection.isUdp = true <-> line.Defaults connection := by
  rw [Rule.isFallback, Bool.and_eq_true, written.isCatchAll_iff, written.applies_iff, and_comm]
  rfl

end Written

/-- Both tiers of the engine are those of the lines. -/
theorem decision_tieredAction {lines : List RuleLine} {rules : List Rule}
    (written : List.Forall₂ Written lines rules) (connection : Connection) :
    Decision lines connection (RuleEngine.tieredAction rules connection.processName
      connection.destIp connection.destPort connection.isUdp) := by
  have particular := @find?_corresponds _ _ Written (RuleLine.Singles connection) _
    (fun _ _ pair => pair.isSpecificMatch_iff connection) _ _ written
  have general := @find?_corresponds _ _ Written (RuleLine.Defaults connection) _
    (fun _ _ pair => pair.isFallback_iff connection) _ _ written
  unfold RuleEngine.tieredAction
  cases specific : rules.find? (fun rule => rule.isSpecificMatch connection.processName
      connection.destIp connection.destPort connection.isUdp) with
  | some rule =>
      rw [specific] at particular
      rcases particular with ⟨line, pair, first⟩
      dsimp only
      rw [pair.action]
      exact .particular line first
  | none =>
      rw [specific] at particular
      dsimp only
      cases fallback : rules.find? (fun rule => rule.isFallback connection.isUdp) with
      | some rule =>
          rw [fallback] at general
          rcases general with ⟨line, pair, first⟩
          dsimp only
          rw [pair.action]
          exact .general line particular first
      | none =>
          rw [fallback] at general
          exact .nothing particular general

/-- An engine with the rules of the lines decides every connection as they say. -/
theorem matchRule_iff_decision {lines : List RuleLine} {rules : List Rule}
    (written : List.Forall₂ Written lines rules) (connection : Connection) (action : RuleAction) :
    (RuleEngine.mk rules).matchRule connection.processName connection.destIp connection.destPort
        connection.isUdp = action <-> Decision lines connection action := by
  have decided := decision_tieredAction written connection
  rw [RuleEngine.matchRule_eq_tieredAction]
  constructor
  · intro same
    exact same ▸ decided
  · exact decided.unique

theorem RuleLine.actionText_same (line : RuleLine) :
    eqIgnoreAsciiCase line.actionText line.action.keyword = true := by
  cases line with
  | routed rule spelling => exact spelling.actionSame
  | exempt rule spelling word direct => exact direct

theorem parseRuleStr_text (line : RuleLine) :
    parseRuleStr line.text = .ok {
      process := line.spelling.processField
      hosts := line.spelling.hostField
      ports := line.spelling.portField
      protocol := line.rule.protocol
      action := line.action } := by
  have divided : split (fun c => c == ':') line.text = [line.spelling.processField,
      line.spelling.hostField, line.spelling.portField, line.spelling.protocolText,
      line.actionText] := by
    apply split_joinWith_same ':' line.spelling.processField
      [line.spelling.hostField, line.spelling.portField, line.spelling.protocolText,
        line.actionText]
    intro piece member
    simp only [List.mem_cons, List.not_mem_nil, or_false] at member
    rcases member with rfl | rfl | rfl | rfl | rfl
    · exact fun inside => line.spelling.colon_not_mem_processField inside rfl
    · exact fun inside => line.spelling.colon_not_mem_hostField inside rfl
    · exact fun inside => line.spelling.colon_not_mem_portField inside rfl
    · exact colon_not_mem_of_keyword line.spelling.protocolSame
        (colon_not_mem_protocol line.rule.protocol)
    · exact colon_not_mem_of_keyword line.actionText_same (colon_not_mem_action line.action)
  rw [parseRuleStr, divided]
  simp only [line.rule.protocol.parse_keyword line.spelling.protocolSame,
    line.action.parse_keyword line.actionText_same,
    fieldOrStar_of_ne_nil line.spelling.processField_ne_nil,
    fieldOrStar_of_ne_nil line.spelling.hostField_ne_nil,
    fieldOrStar_of_ne_nil line.spelling.portField_ne_nil]
  rfl

/-- The rule that is added for a line. -/
def RuleLine.ruleWith (line : RuleLine) (id : UInt32) : Rule where
  id := id
  processName := line.spelling.processField
  targetHosts := line.spelling.hostField
  targetPorts := line.spelling.portField
  protocol := line.rule.protocol
  action := line.action
  enabled := true

theorem addRules_cons (line : RuleLine) (rest : List Str) (engine : RuleEngine)
    (nextRuleId : UInt32) :
    addRules engine nextRuleId (line.text :: rest) =
      addRules ⟨engine.rules ++ [line.ruleWith nextRuleId]⟩ (nextRuleId + 1) rest := by
  rw [addRules, parseRuleStr_text]
  change addRules (RuleEngine.addRule _ _ _ _ _ _ _).engine
    (RuleEngine.addRule _ _ _ _ _ _ _).nextRuleId _ = _
  rw [RuleEngine.addRule, List.isEmpty_eq_false_iff.mpr line.spelling.processField_ne_nil,
    fieldOrStar_of_ne_nil line.spelling.hostField_ne_nil,
    fieldOrStar_of_ne_nil line.spelling.portField_ne_nil, if_neg Bool.false_ne_true]
  rfl

/-- The program adds a rule for each line. -/
theorem addRules_text (lines : List RuleLine) (engine : RuleEngine) (nextRuleId : UInt32) :
    Exists fun rules => Exists fun next =>
      addRules engine nextRuleId (lines.map RuleLine.text) = .ok (⟨engine.rules ++ rules⟩, next) ∧
        List.Forall₂ Written lines rules := by
  induction lines generalizing engine nextRuleId with
  | nil => exact ⟨[], nextRuleId, by rw [List.append_nil]; rfl, .nil⟩
  | cons line lines ih =>
      rcases ih ⟨engine.rules ++ [line.ruleWith nextRuleId]⟩ (nextRuleId + 1) with
        ⟨rules, next, added, written⟩
      refine ⟨line.ruleWith nextRuleId :: rules, next, ?_,
        .cons ⟨rfl, rfl, rfl, rfl, rfl, rfl⟩ written⟩
      rw [List.map_cons, addRules_cons, added, List.append_assoc]
      rfl

example : (RuleLine.exempt curlRule curlSpelling "Direct".toList (by decide)).text =
    "curl:10.*.0.1-9:80-90;443:tcp:Direct".toList := by decide

end ProxyBridge
