import ProxyBridge.Core.RuleLanguage

namespace ProxyBridge

open Foundation Text

/-!
# What the parser of rules accepts

A rule is a text of five fields between four colons, the last two of which are
keywords in any ASCII letter case.  The parser compares the upper-case forms of
these fields.  Since the upper-case form of the dotless `ı` is `I`, it also
accepts `dırect` as an action, and no other text beyond the format.
-/

/-- Five fields without colons. -/
structure RuleFields where
  process : Str
  hosts : Str
  ports : Str
  protocol : Str
  action : Str
  clean : forall field, field ∈ [process, hosts, ports, protocol, action] -> ':' ∉ field

namespace RuleFields

variable (fields : RuleFields)

/-- `process:hosts:ports:protocol:action` -/
def render : Str :=
  joinWith fields.process [(':', fields.hosts), (':', fields.ports), (':', fields.protocol),
    (':', fields.action)]

def NamesProtocol (protocol : RuleProtocol) : Prop :=
  eqIgnoreAsciiCase fields.protocol protocol.keyword = true

def NamesAction (action : RuleAction) : Prop :=
  eqIgnoreAsciiCase fields.action action.keyword = true

/-- The action is `DIRECT` in some ASCII letter case but with a dotless `ı`. -/
def DotlessDirect : Prop :=
  Exists fun before => Exists fun after => fields.action = before ++ 'ı' :: after ∧
    eqIgnoreAsciiCase before "D".toList = true ∧ eqIgnoreAsciiCase after "RECT".toList = true

theorem split_render : split (fun c => c == ':') fields.render =
    [fields.process, fields.hosts, fields.ports, fields.protocol, fields.action] :=
  split_joinWith_same ':' fields.process [fields.hosts, fields.ports, fields.protocol,
    fields.action] fields.clean

theorem count_render : fields.render.count ':' = 4 := by
  have absent := fun field member => List.count_eq_zero_of_not_mem (fields.clean field member)
  simp only [List.mem_cons, List.not_mem_nil, or_false, forall_eq_or_imp, forall_eq] at absent
  simp only [render, joinWith, List.count_append, List.count_cons_self, absent]

end RuleFields

/-- Splitting at the colons and writing the pieces between colons again. -/
theorem exists_render_of_split {ruleStr process hosts ports protocol action : Str}
    (divided : split (fun c => c == ':') ruleStr = [process, hosts, ports, protocol, action]) :
    Exists fun fields : RuleFields => fields.render = ruleStr ∧
      [fields.process, fields.hosts, fields.ports, fields.protocol, fields.action] =
        [process, hosts, ports, protocol, action] := by
  refine ⟨⟨process, hosts, ports, protocol, action, ?_⟩, ?_, rfl⟩
  · intro field member
    rw [← divided] at member
    exact not_mem_of_mem_split member
  · have whole := @List.intercalate_splitOn Char ruleStr _ _ ':'
    rw [List.splitOn_eq_splitOnP] at whole
    rw [split] at divided
    rw [divided] at whole
    refine Eq.trans ?_ whole
    simp [RuleFields.render, joinWith, List.intercalate, List.intersperse]

/-- Exactly four colons, a protocol and an action. -/
def InFormat (ruleStr : Str) : Prop :=
  ruleStr.count ':' = 4 ∧ Exists fun fields : RuleFields => fields.render = ruleStr ∧
    (Exists fun protocol => fields.NamesProtocol protocol) ∧
      Exists fun action => fields.NamesAction action

/-- A component of the answer is the field that was written, or `*` for an empty
one. -/
def StandsFor (component field : Str) : Prop :=
  component = field ∨ field = [] ∧ component = "*".toList

/-- Between colons the components give the text back. -/
def GivesBack (ruleStr : Str) (parsed : ParsedRule) : Prop :=
  Exists fun fields : RuleFields => fields.render = ruleStr ∧
    StandsFor parsed.process fields.process ∧ StandsFor parsed.hosts fields.hosts ∧
    StandsFor parsed.ports fields.ports ∧ fields.NamesProtocol parsed.protocol ∧
    fields.NamesAction parsed.action

/-- The parser accepts the text exactly when it has the format, and loses
nothing of it. -/
def ParsesExactly (ruleStr : Str) : Prop :=
  ((Exists fun parsed => parseRuleStr ruleStr = .ok parsed) <-> InFormat ruleStr) ∧
    forall parsed, parseRuleStr ruleStr = .ok parsed -> GivesBack ruleStr parsed

theorem RuleProtocol.keyword_simple (protocol : RuleProtocol) {d : Char}
    (member : d ∈ protocol.keyword) : simpleCapital d = true := by
  have all : protocol.keyword.all simpleCapital = true := by
    cases protocol with
    | tcp => rfl
    | udp => rfl
    | both => rfl
  exact List.all_eq_true.mp all d member

theorem RuleAction.keyword_simple (action : RuleAction) {d : Char}
    (member : d ∈ action.keyword) : simpleCapital d = true := by
  have all : action.keyword.all simpleCapital = true := by
    cases action with
    | proxy => rfl
    | direct => rfl
    | block => rfl
  exact List.all_eq_true.mp all d member

theorem parseProtocol_eq_ok_iff (field : Str) (protocol : RuleProtocol) :
    parseProtocol field = .ok protocol <-> eqIgnoreAsciiCase field protocol.keyword = true := by
  constructor
  · intro parsed
    have upper : toUppercase field = protocol.keyword := by
      simp only [parseProtocol] at parsed
      split at parsed
      case isTrue tcp =>
        cases parsed
        exact tcp
      case isFalse =>
        split at parsed
        case isTrue udp =>
          cases parsed
          exact udp
        case isFalse =>
          split at parsed
          case isTrue both =>
            cases parsed
            exact both
          case isFalse => cases parsed
    have noI : 'I' ∉ protocol.keyword := by
      cases protocol with
      | tcp => decide
      | udp => decide
      | both => decide
    exact (eqIgnoreAsciiCase_iff _ _).mpr
      ((toUppercase_eq_iff (fun _ => protocol.keyword_simple) noI field).mp upper)
  · exact protocol.parse_keyword

theorem parseAction_eq_ok_iff (field : Str) (action : RuleAction) :
    parseAction field = .ok action <-> toUppercase field = action.keyword := by
  constructor
  · intro parsed
    simp only [parseAction] at parsed
    split at parsed
    case isTrue proxy =>
      cases parsed
      exact proxy
    case isFalse =>
      split at parsed
      case isTrue direct =>
        cases parsed
        exact direct
      case isFalse =>
        split at parsed
        case isTrue block =>
          cases parsed
          exact block
        case isFalse => cases parsed
  · intro upper
    rw [parseAction, upper]
    cases action with
    | proxy => rfl
    | direct => rfl
    | block => rfl

namespace RuleFields

variable {fields : RuleFields}

/-- The action field is read as it is written, or it is dotless. -/
theorem parseAction_iff (action : RuleAction) :
    parseAction fields.action = .ok action <->
      fields.NamesAction action ∨ action = .direct ∧ fields.DotlessDirect := by
  rw [parseAction_eq_ok_iff, NamesAction, eqIgnoreAsciiCase_iff]
  have plain (noI : 'I' ∉ action.keyword) :=
    toUppercase_eq_iff (fun _ => action.keyword_simple) noI fields.action
  cases action with
  | proxy =>
      rw [plain (by decide)]
      exact ⟨Or.inl, Or.rec id (fun dotless => by cases dotless.1)⟩
  | block =>
      rw [plain (by decide)]
      exact ⟨Or.inl, Or.rec id (fun dotless => by cases dotless.1)⟩
  | direct =>
      have dotted := @toUppercase_eq_append_iff "D".toList "RECT".toList
        (fun _ => RuleAction.direct.keyword_simple) (by decide) fields.action
      change toUppercase fields.action = "D".toList ++ 'I' :: "RECT".toList <-> _
      rw [dotted, DotlessDirect]
      simp only [eqIgnoreAsciiCase_iff, true_and]
      rfl

end RuleFields

/-! ## The parser -/

theorem RuleFields.parse_render (fields : RuleFields) {protocol : RuleProtocol}
    {action : RuleAction} (named : fields.NamesProtocol protocol)
    (keyword : fields.NamesAction action ∨ action = .direct ∧ fields.DotlessDirect) :
    parseRuleStr fields.render = .ok {
      process := fieldOrStar fields.process
      hosts := fieldOrStar fields.hosts
      ports := fieldOrStar fields.ports
      protocol := protocol
      action := action } := by
  rw [parseRuleStr, fields.split_render]
  simp only [(parseProtocol_eq_ok_iff _ _).mpr named, (parseAction_iff _).mpr keyword]
  rfl

/-- Whatever the parser returns, it reads from five fields. -/
theorem fields_of_parseRuleStr {ruleStr : Str} {parsed : ParsedRule}
    (accepted : parseRuleStr ruleStr = .ok parsed) :
    Exists fun fields : RuleFields => fields.render = ruleStr ∧
      parsed.process = fieldOrStar fields.process ∧ parsed.hosts = fieldOrStar fields.hosts ∧
      parsed.ports = fieldOrStar fields.ports ∧ fields.NamesProtocol parsed.protocol ∧
      (fields.NamesAction parsed.action ∨ parsed.action = .direct ∧ fields.DotlessDirect) := by
  unfold parseRuleStr at accepted
  split at accepted
  case h_1 process hosts ports protocolField actionField divided =>
    rcases exists_render_of_split divided with ⟨fields, same, components⟩
    simp only [List.cons.injEq, and_true] at components
    rcases components with ⟨rfl, rfl, rfl, rfl, rfl⟩
    cases protocolRead : parseProtocol fields.protocol with
    | error reason =>
        rw [protocolRead] at accepted
        cases accepted
    | ok protocol =>
        cases actionRead : parseAction fields.action with
        | error reason =>
            rw [protocolRead, actionRead] at accepted
            cases accepted
        | ok action =>
            rw [protocolRead, actionRead] at accepted
            cases accepted
            exact ⟨fields, same, rfl, rfl, rfl, (parseProtocol_eq_ok_iff _ _).mp protocolRead,
              (RuleFields.parseAction_iff action).mp actionRead⟩
  case h_2 => cases accepted

theorem standsFor_fieldOrStar (field : Str) : StandsFor (fieldOrStar field) field := by
  cases field with
  | nil => exact Or.inr ⟨rfl, rfl⟩
  | cons c rest => exact Or.inl rfl

theorem RuleFields.action_eq_of_render {left right : RuleFields}
    (same : left.render = right.render) : left.action = right.action := by
  have pieces := left.split_render
  rw [same, right.split_render] at pieces
  simp only [List.cons.injEq] at pieces
  exact pieces.2.2.2.2.1.symm

/-- A dotless field is no keyword. -/
theorem RuleFields.DotlessDirect.not_namesAction {fields : RuleFields}
    (dotless : fields.DotlessDirect) (action : RuleAction) : Not (fields.NamesAction action) := by
  rcases dotless with ⟨before, after, whole, _, _⟩
  intro named
  have lowered : 'ı'.toLower ∈ toAsciiLowercase action.keyword := by
    rw [← (eqIgnoreAsciiCase_iff _ _).mp named, whole]
    exact List.mem_map_of_mem (List.mem_append_right before List.mem_cons_self)
  rcases List.mem_map.mp lowered with ⟨d, member, same⟩
  have ascii := ascii_of_toLower_eq same.symm (action.keyword_ascii member)
  exact absurd ascii (by decide)

/-- No dotless `DIRECT` follows a valid protocol. -/
def WithoutDotless (ruleStr : Str) : Prop :=
  forall fields : RuleFields, fields.render = ruleStr ->
    (Exists fun protocol => fields.NamesProtocol protocol) -> Not fields.DotlessDirect

/-- The parser implements the format on every text but those that ask for
`DIRECT` with a dotless letter. -/
theorem parsesExactly_iff (ruleStr : Str) : ParsesExactly ruleStr <-> WithoutDotless ruleStr := by
  constructor
  · intro exact fields whole named dotless
    rcases named with ⟨protocol, named⟩
    have accepted := fields.parse_render named (Or.inr ⟨rfl, dotless⟩)
    rw [whole] at accepted
    rcases exact.1.mp ⟨_, accepted⟩ with ⟨_, other, same, _, action, keyword⟩
    rw [RuleFields.NamesAction,
      RuleFields.action_eq_of_render (same.trans whole.symm)] at keyword
    exact dotless.not_namesAction action keyword
  · intro clean
    have read : forall parsed, parseRuleStr ruleStr = .ok parsed ->
        GivesBack ruleStr parsed := by
      intro parsed accepted
      rcases fields_of_parseRuleStr accepted with
        ⟨fields, whole, process, hosts, ports, protocol, action⟩
      refine ⟨fields, whole, process ▸ standsFor_fieldOrStar _, hosts ▸ standsFor_fieldOrStar _,
        ports ▸ standsFor_fieldOrStar _, protocol, ?_⟩
      rcases action with named | ⟨_, dotless⟩
      · exact named
      · exact absurd dotless (clean fields whole ⟨_, protocol⟩)
    refine ⟨⟨?_, ?_⟩, read⟩
    · rintro ⟨parsed, accepted⟩
      rcases read parsed accepted with ⟨fields, whole, _, _, _, protocol, action⟩
      exact ⟨whole ▸ fields.count_render, fields, whole, ⟨_, protocol⟩, _, action⟩
    · rintro ⟨_, fields, rfl, ⟨protocol, named⟩, action, keyword⟩
      exact ⟨_, fields.parse_render named (Or.inl keyword)⟩

/-- `dırect` is accepted as an action. -/
theorem parseRuleStr_accepts_dotless :
    parseRuleStr "curl:*:*:TCP:dırect".toList = .ok {
      process := "curl".toList
      hosts := "*".toList
      ports := "*".toList
      protocol := .tcp
      action := .direct } ∧ Not (InFormat "curl:*:*:TCP:dırect".toList) := by
  refine ⟨by decide, ?_⟩
  rintro ⟨_, fields, whole, _, action, named⟩
  have pieces := fields.split_render
  rw [whole] at pieces
  have written : fields.action = "dırect".toList := by
    have divided : split (fun c => c == ':') "curl:*:*:TCP:dırect".toList =
        ["curl".toList, "*".toList, "*".toList, "TCP".toList, "dırect".toList] := by
      decide
    rw [divided] at pieces
    simp only [List.cons.injEq] at pieces
    exact pieces.2.2.2.2.1.symm
  have dotless : fields.DotlessDirect :=
    ⟨"d".toList, "rect".toList, written, by decide, by decide⟩
  exact dotless.not_namesAction action named

end ProxyBridge
