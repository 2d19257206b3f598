import ProxyBridge.Core.RuleEngine
import ProxyBridge.Foundation.Bytes

namespace ProxyBridge

open Foundation Text

/-!
# The textual rule language

A rule on the command line is a text of five fields.  Here its abstract syntax
is stated on its own: patterns, what they mean for a connection, and every way
to write them down.  The matchers of the engine are then compared with that
meaning, one syntactic class after the other.

Well-formedness belongs to the syntax.  A name contains no separator, so the
fields of a rendering are recovered by splitting; it is trimmed, so that the
white space removed around a pattern is never part of it.
-/

/-- The patterns of one field; there is at least one. -/
structure Patterns (A : Type) where
  first : A
  more : List A

namespace Patterns

variable {A : Type}

def toList (patterns : Patterns A) : List A :=
  patterns.first :: patterns.more

/-- Some pattern of the field has the property. -/
def Any (patterns : Patterns A) (property : A -> Prop) : Prop :=
  Exists fun pattern => pattern ∈ patterns.toList ∧ property pattern

/-- Write the patterns with the given separators between them. -/
def render (patterns : Patterns A) (write : A -> Str) (separators : List Char) : Str :=
  joinWith (write patterns.first) (separators.zip (patterns.more.map write))

/-- A matcher that splits the field and trims each piece finds what one of the
patterns finds. -/
theorem any_split_render (patterns : Patterns A) (write : A -> Str) (accept : Str -> Bool)
    {separators : List Char} {separator : Char -> Bool} {property : A -> Prop}
    (enough : separators.length = patterns.more.length)
    (allowed : forall c, c ∈ separators -> separator c = true)
    (clean : forall pattern, forall c, c ∈ write pattern -> separator c = false)
    (trimmed : forall pattern, Trimmed (write pattern))
    (meaning : forall pattern, accept (write pattern) = true <-> property pattern) :
    (split separator (patterns.render write separators)).any (fun piece => accept (trim piece)) =
        true <-> patterns.Any property := by
  have pieces : (separators.zip (patterns.more.map write)).map Prod.snd =
      patterns.more.map write := by
    apply List.map_snd_zip
    rw [List.length_map, enough]
  have fields : split separator (patterns.render write separators) =
      patterns.toList.map write := by
    rw [render, split_joinWith, pieces]
    · rfl
    · intro piece member
      rw [pieces, ← List.map_cons] at member
      rcases List.mem_map.mp member with ⟨pattern, _, same⟩
      rw [← same]
      exact clean pattern
    · intro entry member
      exact allowed entry.1 (List.of_mem_zip member).1
  rw [fields, List.any_eq_true]
  constructor
  · intro found
    rcases found with ⟨piece, member, accepted⟩
    rcases List.mem_map.mp member with ⟨pattern, listed, same⟩
    rw [← same, trim_of_trimmed (trimmed pattern)] at accepted
    exact ⟨pattern, listed, (meaning pattern).mp accepted⟩
  · intro found
    rcases found with ⟨pattern, listed, held⟩
    refine ⟨write pattern, List.mem_map_of_mem listed, ?_⟩
    rw [trim_of_trimmed (trimmed pattern)]
    exact (meaning pattern).mpr held

theorem render_ne_nil (patterns : Patterns A) {write : A -> Str} {separators : List Char}
    (written : write patterns.first ≠ []) : patterns.render write separators ≠ [] := by
  unfold render
  cases separators.zip (patterns.more.map write) with
  | nil => exact written
  | cons entry rest =>
      intro empty
      exact written (List.append_eq_nil_iff.mp empty).1

/-- A character of the rendering is a separator or stands in a pattern. -/
theorem mem_render (patterns : Patterns A) {write : A -> Str} {separators : List Char} {c : Char}
    (member : c ∈ patterns.render write separators) :
    c ∈ separators ∨ Exists fun pattern => c ∈ write pattern := by
  rcases mem_joinWith member with before | found
  · exact Or.inr ⟨patterns.first, before⟩
  · rcases found with ⟨entry, listed, held⟩
    have sources := List.of_mem_zip listed
    rcases held with mark | inside
    · exact Or.inl (mark ▸ sources.1)
    · rcases List.mem_map.mp sources.2 with ⟨pattern, _, same⟩
      exact Or.inr ⟨pattern, same ▸ inside⟩

end Patterns

/-- A name as a process pattern may contain it. -/
structure Name where
  text : Str
  nonempty : text ≠ []
  clean : forall c, c ∈ text -> c ≠ ':' ∧ c ≠ ';' ∧ c ≠ '*'
  trimmed : Trimmed text

namespace Name

/-- What a pattern with this name is compared with: the full path when the
name has a slash, and the last path component when it has none. -/
def target (name : Name) (path : Str) : Str :=
  if '/' ∈ name.text then path else path.rtakeWhile (fun c => c != '/')

theorem star_not_mem (name : Name) : '*' ∉ name.text :=
  fun member => (name.clean '*' member).2.2 rfl

end Name

inductive ProcessPattern where
  | exactly (name : Name)
  | starting (name : Name)
  | ending (name : Name)
  | any

namespace ProcessPattern

def render : ProcessPattern -> Str
  | exactly name => name.text
  | starting name => name.text ++ ['*']
  | ending name => '*' :: name.text
  | any => ['*']

/-- The meaning of a process pattern, up to ASCII letter case. -/
def Matches (path : Str) : ProcessPattern -> Prop
  | exactly name => toAsciiLowercase (name.target path) = toAsciiLowercase name.text
  | starting name => toAsciiLowercase name.text <+: toAsciiLowercase (name.target path)
  | ending name => toAsciiLowercase name.text <:+ toAsciiLowercase (name.target path)
  | any => True

theorem render_ne_nil (pattern : ProcessPattern) : pattern.render ≠ [] := by
  cases pattern with
  | exactly name => exact name.nonempty
  | starting name => exact List.append_ne_nil_of_right_ne_nil _ (List.cons_ne_nil _ _)
  | ending name => exact List.cons_ne_nil _ _
  | any => exact List.cons_ne_nil _ _

theorem render_clean (pattern : ProcessPattern) {c : Char} (member : c ∈ pattern.render) :
    c ≠ ':' ∧ c ≠ ';' := by
  have star : '*' ≠ ':' ∧ '*' ≠ ';' := by decide
  cases pattern with
  | exactly name =>
      have kept := name.clean c member
      exact ⟨kept.1, kept.2.1⟩
  | starting name =>
      rcases List.mem_append.mp member with inside | mark
      · have kept := name.clean c inside
        exact ⟨kept.1, kept.2.1⟩
      · rw [List.mem_singleton.mp mark]
        exact star
  | ending name =>
      rcases List.mem_cons.mp member with mark | inside
      · rw [mark]
        exact star
      · have kept := name.clean c inside
        exact ⟨kept.1, kept.2.1⟩
  | any =>
      rw [List.mem_singleton.mp member]
      exact star

theorem render_trimmed (pattern : ProcessPattern) : Trimmed pattern.render := by
  have star : forall c, some '*' = some c -> isWhitespace c = false := by
    intro c same
    cases same
    decide
  cases pattern with
  | exactly name => exact name.trimmed
  | starting name =>
      refine ⟨?_, ?_⟩
      · intro c first
        rw [render, List.head?_append_of_ne_nil _ name.nonempty] at first
        exact name.trimmed.1 c first
      · intro c last
        rw [render, List.getLast?_concat] at last
        exact star c last
  | ending name =>
      refine ⟨star, ?_⟩
      intro c last
      rw [render, List.getLast?_cons_of_ne_nil name.nonempty] at last
      exact name.trimmed.2 c last
  | any => exact ⟨star, star⟩

end ProcessPattern

theorem fileNameOf_eq (path : Str) : fileNameOf path = path.rtakeWhile (fun c => c != '/') := by
  rw [fileNameOf, rsplit_head?, Option.getD_some]

/-- The matcher of one pattern once its target is known. -/
theorem matchProcessPattern_of_target {pattern path target : Str}
    (aimed : (if pattern.contains '/' then path else fileNameOf path) = target) :
    matchProcessPattern pattern path =
      if pattern = "*".toList then true
      else if pattern.getLast? = some '*' then
        (getTo target (len pattern.dropLast)).any
          (fun s => eqIgnoreAsciiCase s pattern.dropLast)
      else if pattern.head? = some '*' then
        (getFrom target (len target - len pattern.tail)).any
          (fun s => eqIgnoreAsciiCase s pattern.tail)
      else eqIgnoreAsciiCase target pattern := by
  rw [← aimed]
  rfl

/-- The matcher of one pattern computes its meaning. -/
theorem matchProcessPattern_render (pattern : ProcessPattern) (path : Str) :
    matchProcessPattern pattern.render path = true <-> pattern.Matches path := by
  have aimed : forall (name : Name) (s : Str), ('/' ∈ s <-> '/' ∈ name.text) ->
      (if s.contains '/' then path else fileNameOf path) = name.target path := by
    intro name s same
    rw [fileNameOf_eq, Name.target]
    apply if_congr _ rfl rfl
    rw [List.contains_iff_mem, same]
  cases pattern with
  | exactly name =>
      have notStar : name.text ≠ "*".toList := by
        intro same
        apply name.star_not_mem
        rw [same]
        exact List.mem_singleton_self '*'
      have notLast : name.text.getLast? ≠ some '*' :=
        fun last => name.star_not_mem (List.mem_of_getLast? last)
      have notFirst : name.text.head? ≠ some '*' :=
        fun first => name.star_not_mem (List.mem_of_head? first)
      change matchProcessPattern name.text path = true <->
        toAsciiLowercase (name.target path) = toAsciiLowercase name.text
      rw [matchProcessPattern_of_target (aimed name _ Iff.rfl), if_neg notStar, if_neg notLast,
        if_neg notFirst, eqIgnoreAsciiCase_iff]
  | starting name =>
      have notStar : name.text ++ ['*'] ≠ "*".toList :=
        fun same => name.nonempty (List.append_left_eq_self.mp same)
      have slash : '/' ∈ name.text ++ ['*'] <-> '/' ∈ name.text := by simp
      change matchProcessPattern (name.text ++ ['*']) path = true <->
        toAsciiLowercase name.text <+: toAsciiLowercase (name.target path)
      rw [matchProcessPattern_of_target (aimed name _ slash), if_neg notStar,
        if_pos List.getLast?_concat, List.dropLast_concat, getTo_any_iff]
      constructor
      · intro found
        rcases found with ⟨head, before, same⟩
        rw [← same]
        exact before.map _
      · intro before
        rcases List.prefix_map_iff.mp before with ⟨head, inside, same⟩
        exact ⟨head, inside, same.symm⟩
  | ending name =>
      have notStar : '*' :: name.text ≠ "*".toList := by
        intro same
        exact name.nonempty (List.cons.inj same).2
      have notLast : ('*' :: name.text).getLast? ≠ some '*' := by
        rw [List.getLast?_cons_of_ne_nil name.nonempty]
        exact fun last => name.star_not_mem (List.mem_of_getLast? last)
      have slash : '/' ∈ '*' :: name.text <-> '/' ∈ name.text := by simp
      change matchProcessPattern ('*' :: name.text) path = true <->
        toAsciiLowercase name.text <:+ toAsciiLowercase (name.target path)
      rw [matchProcessPattern_of_target (aimed name _ slash), if_neg notStar, if_neg notLast,
        if_pos List.head?_cons, List.tail_cons, getFrom_any_iff]
      constructor
      · intro found
        rcases found with ⟨tail, after, same⟩
        rw [← same]
        exact after.map _
      · intro after
        rcases List.suffix_map_iff.mp after with ⟨tail, inside, same⟩
        exact ⟨tail, inside, same.symm⟩
  | any => exact iff_of_true rfl trivial

/-- The characters that numbers, ranges and `*` are written with. -/
def IsNumeric (c : Char) : Prop :=
  c.isDigit = true ∨ c = '*' ∨ c = '-'

theorem isNumeric_decimal {n : Nat} {c : Char} (member : c ∈ decimal n) : IsNumeric c :=
  Or.inl (decimal_isDigit member)

theorem isNumeric_star {c : Char} (member : c ∈ ['*']) : IsNumeric c :=
  Or.inr (Or.inl (List.mem_singleton.mp member))

theorem isNumeric_range {lo hi : Nat} {c : Char} (member : c ∈ decimal lo ++ '-' :: decimal hi) :
    IsNumeric c := by
  rcases List.mem_append.mp member with before | after
  · exact isNumeric_decimal before
  · rcases List.mem_cons.mp after with dash | inside
    · exact Or.inr (Or.inr dash)
    · exact isNumeric_decimal inside

theorem IsNumeric.ne {c separator : Char} (numeric : IsNumeric c)
    (other : separator.isDigit = false ∧ separator ≠ '*' ∧ separator ≠ '-') : c ≠ separator := by
  intro same
  rw [← same] at other
  rcases numeric with digit | star | dash
  · rw [other.1] at digit
    cases digit
  · exact other.2.1 star
  · exact other.2.2 dash

theorem IsNumeric.not_whitespace {c : Char} (numeric : IsNumeric c) : isWhitespace c = false := by
  rcases numeric with digit | star | dash
  · exact isWhitespace_of_isDigit digit
  · rw [star]
    decide
  · rw [dash]
    decide

theorem decimal_ne_star (n : Nat) : decimal n ≠ "*".toList := by
  intro same
  have star : '*' ∈ decimal n := by
    rw [same]
    exact List.mem_singleton_self '*'
  exact not_mem_decimal (by decide) star

theorem range_ne_star (lo hi : Nat) : decimal lo ++ '-' :: decimal hi ≠ "*".toList := by
  intro same
  have dash : '-' ∈ "*".toList := by
    rw [← same]
    exact List.mem_append_right _ List.mem_cons_self
  cases List.mem_singleton.mp dash

/-- A single number has no dash to split at. -/
theorem splitOnce_decimal (n : Nat) : splitOnce '-' (decimal n) = none :=
  splitOnce_of_not_mem (not_mem_decimal (by decide))

theorem splitOnce_range (lo hi : Nat) :
    splitOnce '-' (decimal lo ++ '-' :: decimal hi) = some (decimal lo, decimal hi) :=
  splitOnce_append (not_mem_decimal (by decide)) _

/-! ## Host patterns -/

/-- One of the four parts of a host pattern. -/
inductive HostPart where
  | any
  | exactly (value : UInt8)
  | between (lo hi : UInt8)

namespace HostPart

def render : HostPart -> Str
  | any => ['*']
  | exactly value => decimal value.toNat
  | between lo hi => decimal lo.toNat ++ '-' :: decimal hi.toNat

def Matches (octet : UInt8) : HostPart -> Prop
  | any => True
  | exactly value => octet = value
  | between lo hi => lo ≤ octet ∧ octet ≤ hi

theorem render_numeric (part : HostPart) {c : Char} (member : c ∈ part.render) : IsNumeric c := by
  cases part with
  | any => exact isNumeric_star member
  | exactly value => exact isNumeric_decimal member
  | between lo hi => exact isNumeric_range member

end HostPart

theorem matchOctet_render (part : HostPart) (octet : UInt8) :
    matchOctet part.render octet = true <-> part.Matches octet := by
  cases part with
  | any => exact iff_of_true rfl trivial
  | exactly value =>
      change matchOctet (decimal value.toNat) octet = true <-> octet = value
      simp only [matchOctet, if_neg (decimal_ne_star _), splitOnce_decimal, parseU8_decimal,
        Option.getD_some, beq_iff_eq]
  | between lo hi =>
      change matchOctet (decimal lo.toNat ++ '-' :: decimal hi.toNat) octet = true <->
        lo ≤ octet ∧ octet ≤ hi
      simp only [matchOctet, if_neg (range_ne_star _ _), splitOnce_range, parseU8_decimal,
        Option.getD_some, Bool.not_eq_true', Bool.or_eq_false_iff, decide_eq_false_iff_not,
        gt_iff_lt, UInt8.not_lt]

inductive HostPattern where
  | every
  | octets (a b c d : HostPart)

namespace HostPattern

def render : HostPattern -> Str
  | every => ['*']
  | octets a b c d =>
      joinWith a.render [('.', b.render), ('.', c.render), ('.', d.render)]

/-- The meaning of a host pattern: each part holds of its octet, the least
significant byte of the address being the first. -/
def Matches (ip : UInt32) : HostPattern -> Prop
  | every => True
  | octets a b c d =>
      a.Matches (Octets.byteAt ip 0) ∧ b.Matches (Octets.byteAt ip 1) ∧
        c.Matches (Octets.byteAt ip 2) ∧ d.Matches (Octets.byteAt ip 3)

end HostPattern

theorem ipOctets_eq (ip : UInt32) :
    ipOctets ip =
      [Octets.byteAt ip 0, Octets.byteAt ip 1, Octets.byteAt ip 2, Octets.byteAt ip 3] := by
  rw [ipOctets, Octets.toUInt8_mask,
    Octets.toUInt8_shiftRight ip 1 (rfl : (8 : UInt32).toNat = 8 * 1) (by omega),
    Octets.toUInt8_shiftRight ip 2 (rfl : (16 : UInt32).toNat = 8 * 2) (by omega),
    Octets.toUInt8_shiftRight ip 3 (rfl : (24 : UInt32).toNat = 8 * 3) (by omega)]

/-- The octets by shifts are the wire octets, in reverse on a big-endian host. -/
theorem ipOctets_fromNeBytes (order : Octets.ByteOrder) (b0 b1 b2 b3 : UInt8) :
    ipOctets (Octets.fromNeBytes order [b0, b1, b2, b3]) =
      match order with
      | .little => [b0, b1, b2, b3]
      | .big => [b3, b2, b1, b0] := by
  have wire := Octets.toNeBytes_fromNeBytes order b0 b1 b2 b3
  rw [ipOctets_eq]
  cases order with
  | little => exact wire
  | big =>
      have reversed := congrArg List.reverse wire
      exact reversed

namespace HostPattern

theorem render_chars (pattern : HostPattern) {c : Char} (member : c ∈ pattern.render) :
    IsNumeric c ∨ c = '.' := by
  cases pattern with
  | every => exact Or.inl (isNumeric_star member)
  | octets p q r s =>
      rcases mem_joinWith member with first | later
      · exact Or.inl (p.render_numeric first)
      · rcases later with ⟨entry, listed, held⟩
        simp only [List.mem_cons, List.not_mem_nil, or_false] at listed
        rcases listed with rfl | rfl | rfl
        · exact held.symm.imp_left q.render_numeric
        · exact held.symm.imp_left r.render_numeric
        · exact held.symm.imp_left s.render_numeric

theorem render_clean (pattern : HostPattern) {c : Char} (member : c ∈ pattern.render) :
    c ≠ ':' ∧ c ≠ ';' := by
  rcases pattern.render_chars member with numeric | dot
  · exact ⟨numeric.ne (by decide), numeric.ne (by decide)⟩
  · rw [dot]
    decide

theorem render_trimmed (pattern : HostPattern) : Trimmed pattern.render := by
  apply trimmed_of_forall
  intro c member
  rcases pattern.render_chars member with numeric | dot
  · exact numeric.not_whitespace
  · rw [dot]
    decide

theorem render_ne_nil (pattern : HostPattern) : pattern.render ≠ [] := by
  cases pattern with
  | every => exact List.cons_ne_nil _ _
  | octets p q r s => exact List.append_ne_nil_of_right_ne_nil _ (List.cons_ne_nil _ _)

end HostPattern

/-- The four parts are recovered at the dots. -/
theorem split_octets (p q r s : HostPart) :
    split (fun c => c == '.') (HostPattern.octets p q r s).render =
      [p.render, q.render, r.render, s.render] := by
  apply split_joinWith_same '.' p.render [q.render, r.render, s.render]
  intro piece member inside
  simp only [List.mem_cons, List.not_mem_nil, or_false] at member
  rcases member with rfl | rfl | rfl | rfl
  · exact (p.render_numeric inside).ne (by decide) rfl
  · exact (q.render_numeric inside).ne (by decide) rfl
  · exact (r.render_numeric inside).ne (by decide) rfl
  · exact (s.render_numeric inside).ne (by decide) rfl

/-- A pattern of four parts is compared with the octets in order. -/
theorem matchIpPattern_of_split {pattern p q r s : Str} (ip : UInt32)
    (parts : split (fun c => c == '.') pattern = [p, q, r, s]) :
    matchIpPattern pattern ip =
      (matchOctet p (Octets.byteAt ip 0) && matchOctet q (Octets.byteAt ip 1) &&
        matchOctet r (Octets.byteAt ip 2) && matchOctet s (Octets.byteAt ip 3)) := by
  have notStar : pattern ≠ "*".toList := by
    rintro rfl
    cases parts
  simp only [matchIpPattern, if_neg notStar, parts, ipOctets_eq, List.length_cons,
    List.length_nil, ne_eq, not_true_eq_false, if_false, List.zip_cons_cons, List.zip_nil_left,
    List.all_cons, List.all_nil, Bool.and_true, Bool.and_assoc]

theorem matchIpPattern_render (pattern : HostPattern) (ip : UInt32) :
    matchIpPattern pattern.render ip = true <-> pattern.Matches ip := by
  cases pattern with
  | every => exact iff_of_true rfl trivial
  | octets p q r s =>
      simp only [matchIpPattern_of_split ip (split_octets p q r s), Bool.and_eq_true,
        matchOctet_render, HostPattern.Matches, and_assoc]

inductive PortPattern where
  | every
  | exactly (port : UInt16)
  | between (lo hi : UInt16)

namespace PortPattern

def render : PortPattern -> Str
  | every => ['*']
  | exactly port => decimal port.toNat
  | between lo hi => decimal lo.toNat ++ '-' :: decimal hi.toNat

def Matches (port : UInt16) : PortPattern -> Prop
  | every => True
  | exactly value => port = value
  | between lo hi => lo ≤ port ∧ port ≤ hi

theorem render_numeric (pattern : PortPattern) {c : Char} (member : c ∈ pattern.render) :
    IsNumeric c := by
  cases pattern with
  | every => exact isNumeric_star member
  | exactly port => exact isNumeric_decimal member
  | between lo hi => exact isNumeric_range member

theorem render_trimmed (pattern : PortPattern) : Trimmed pattern.render :=
  trimmed_of_forall (fun _ member => (pattern.render_numeric member).not_whitespace)

theorem render_ne_nil (pattern : PortPattern) : pattern.render ≠ [] := by
  cases pattern with
  | every => exact List.cons_ne_nil _ _
  | exactly port => exact decimal_ne_nil _
  | between lo hi => exact List.append_ne_nil_of_right_ne_nil _ (List.cons_ne_nil _ _)

end PortPattern

theorem matchPortPattern_render (pattern : PortPattern) (port : UInt16) :
    matchPortPattern pattern.render port = true <-> pattern.Matches port := by
  cases pattern with
  | every => exact iff_of_true rfl trivial
  | exactly value =>
      change matchPortPattern (decimal value.toNat) port = true <-> port = value
      simp only [matchPortPattern, if_neg (decimal_ne_star _), splitOnce_decimal, parseU16_decimal,
        Option.getD_some, beq_iff_eq]
  | between lo hi =>
      change matchPortPattern (decimal lo.toNat ++ '-' :: decimal hi.toNat) port = true <->
        lo ≤ port ∧ port ≤ hi
      simp only [matchPortPattern, if_neg (range_ne_star _ _), splitOnce_range, parseU16_decimal,
        Option.getD_some, Bool.and_eq_true, decide_eq_true_eq, ge_iff_le]

/-! ## Abstract rules -/

/-- The keyword of a protocol filter. -/
def RuleProtocol.keyword : RuleProtocol -> Str
  | .tcp => "TCP".toList
  | .udp => "UDP".toList
  | .both => "BOTH".toList

/-- The keyword of an action. -/
def RuleAction.keyword : RuleAction -> Str
  | .proxy => "PROXY".toList
  | .direct => "DIRECT".toList
  | .block => "BLOCK".toList

/-- A rule of the language.  The single word ANY is not a process name, since
the engine reads it as `*`; a rule with the action `direct` says nothing that
the engine does not do anyway. -/
structure AbstractRule where
  processes : Patterns ProcessPattern
  hosts : Patterns HostPattern
  ports : Patterns PortPattern
  protocol : RuleProtocol
  action : RuleAction
  notAny : forall name, processes.toList = [.exactly name] ->
    eqIgnoreAsciiCase name.text "ANY".toList = false
  routed : action ≠ .direct

namespace AbstractRule

/-- The connections that a rule is about. -/
def Matches (rule : AbstractRule) (processName : Str) (destIp : UInt32) (destPort : UInt16)
    (isUdp : Bool) : Prop :=
  admits rule.protocol isUdp = true ∧
    rule.processes.Any (ProcessPattern.Matches processName) ∧
    rule.hosts.Any (HostPattern.Matches destIp) ∧ rule.ports.Any (PortPattern.Matches destPort)

end AbstractRule

/-- The choices left to whoever writes a rule down: a comma or a semicolon
between any two ports, and the letter case of both keywords. -/
structure Spelling (rule : AbstractRule) where
  portSeparators : List Char
  enough : portSeparators.length = rule.ports.more.length
  allowed : forall c, c ∈ portSeparators -> c = ',' ∨ c = ';'
  protocolText : Str
  protocolSame : eqIgnoreAsciiCase protocolText rule.protocol.keyword = true
  actionText : Str
  actionSame : eqIgnoreAsciiCase actionText rule.action.keyword = true

namespace Spelling

variable {rule : AbstractRule}

def processField (_spelling : Spelling rule) : Str :=
  rule.processes.render ProcessPattern.render (rule.processes.more.map (fun _ => ';'))

def hostField (_spelling : Spelling rule) : Str :=
  rule.hosts.render HostPattern.render (rule.hosts.more.map (fun _ => ';'))

def portField (spelling : Spelling rule) : Str :=
  rule.ports.render PortPattern.render spelling.portSeparators

/-- `process:hosts:ports:protocol:action` -/
def render (spelling : Spelling rule) : Str :=
  joinWith spelling.processField [(':', spelling.hostField), (':', spelling.portField),
    (':', spelling.protocolText), (':', spelling.actionText)]

end Spelling

theorem RuleProtocol.keyword_ascii (protocol : RuleProtocol) {c : Char}
    (member : c ∈ protocol.keyword) : c.toNat < 128 := by
  have all : protocol.keyword.all (fun d => decide (d.toNat < 128)) = true := by
    cases protocol with
    | tcp => rfl
    | udp => rfl
    | both => rfl
  exact of_decide_eq_true (List.all_eq_true.mp all c member)

theorem RuleAction.keyword_ascii (action : RuleAction) {c : Char} (member : c ∈ action.keyword) :
    c.toNat < 128 := by
  have all : action.keyword.all (fun d => decide (d.toNat < 128)) = true := by
    cases action with
    | proxy => rfl
    | direct => rfl
    | block => rfl
  exact of_decide_eq_true (List.all_eq_true.mp all c member)

theorem RuleProtocol.parse_keyword (protocol : RuleProtocol) {word : Str}
    (same : eqIgnoreAsciiCase word protocol.keyword = true) :
    parseProtocol word = .ok protocol := by
  have upper := toUppercase_of_eqIgnoreAsciiCase ((eqIgnoreAsciiCase_iff _ _).mp same)
    (fun _ => protocol.keyword_ascii)
  rw [parseProtocol, upper]
  cases protocol with
  | tcp => rfl
  | udp => rfl
  | both => rfl

theorem RuleAction.parse_keyword (action : RuleAction) {word : Str}
    (same : eqIgnoreAsciiCase word action.keyword = true) :
    parseAction word = .ok action := by
  have upper := toUppercase_of_eqIgnoreAsciiCase ((eqIgnoreAsciiCase_iff _ _).mp same)
    (fun _ => action.keyword_ascii)
  rw [parseAction, upper]
  cases action with
  | proxy => rfl
  | direct => rfl
  | block => rfl

theorem colon_not_mem_protocol (protocol : RuleProtocol) :
    ':' ∉ toAsciiLowercase protocol.keyword := by
  cases protocol with
  | tcp => decide
  | udp => decide
  | both => decide

theorem colon_not_mem_action (action : RuleAction) : ':' ∉ toAsciiLowercase action.keyword := by
  cases action with
  | proxy => decide
  | direct => decide
  | block => decide

namespace Spelling

variable {rule : AbstractRule} (spelling : Spelling rule)

theorem processField_ne_nil : spelling.processField ≠ [] :=
  rule.processes.render_ne_nil rule.processes.first.render_ne_nil

theorem hostField_ne_nil : spelling.hostField ≠ [] :=
  rule.hosts.render_ne_nil rule.hosts.first.render_ne_nil

theorem portField_ne_nil : spelling.portField ≠ [] :=
  rule.ports.render_ne_nil rule.ports.first.render_ne_nil

private theorem semicolons {A : Type} {c : Char} {more : List A}
    (member : c ∈ more.map (fun _ => ';')) : c = ';' := by
  rcases List.mem_map.mp member with ⟨_, _, same⟩
  exact same.symm

theorem colon_not_mem_processField {c : Char} (member : c ∈ spelling.processField) : c ≠ ':' := by
  rcases rule.processes.mem_render member with mark | inside
  · rw [semicolons mark]
    decide
  · rcases inside with ⟨pattern, held⟩
    exact (pattern.render_clean held).1

theorem colon_not_mem_hostField {c : Char} (member : c ∈ spelling.hostField) : c ≠ ':' := by
  rcases rule.hosts.mem_render member with mark | inside
  · rw [semicolons mark]
    decide
  · rcases inside with ⟨pattern, held⟩
    exact (pattern.render_clean held).1

theorem colon_not_mem_portField {c : Char} (member : c ∈ spelling.portField) : c ≠ ':' := by
  rcases rule.ports.mem_render member with mark | inside
  · rcases spelling.allowed c mark with comma | semicolon
    · rw [comma]
      decide
    · rw [semicolon]
      decide
  · rcases inside with ⟨pattern, held⟩
    exact (pattern.render_numeric held).ne (by decide)

/-- The five fields are recovered at the colons. -/
theorem split_render :
    split (fun c => c == ':') spelling.render =
      [spelling.processField, spelling.hostField, spelling.portField, spelling.protocolText,
        spelling.actionText] := by
  apply split_joinWith_same ':' spelling.processField
    [spelling.hostField, spelling.portField, spelling.protocolText, spelling.actionText]
  intro piece member
  simp only [List.mem_cons, List.not_mem_nil, or_false] at member
  rcases member with rfl | rfl | rfl | rfl | rfl
  · exact fun inside => spelling.colon_not_mem_processField inside rfl
  · exact fun inside => spelling.colon_not_mem_hostField inside rfl
  · exact fun inside => spelling.colon_not_mem_portField inside rfl
  · exact colon_not_mem_of_keyword spelling.protocolSame (colon_not_mem_protocol rule.protocol)
  · exact colon_not_mem_of_keyword spelling.actionSame (colon_not_mem_action rule.action)

end Spelling

theorem fieldOrStar_of_ne_nil {field : Str} (nonempty : field ≠ []) : fieldOrStar field = field := by
  rw [fieldOrStar, List.isEmpty_eq_false_iff.mpr nonempty]
  rfl

theorem parseRuleStr_render {rule : AbstractRule} (spelling : Spelling rule) :
    parseRuleStr spelling.render = .ok {
      process := spelling.processField
      hosts := spelling.hostField
      ports := spelling.portField
      protocol := rule.protocol
      action := rule.action } := by
  rw [parseRuleStr, spelling.split_render]
  simp only [rule.protocol.parse_keyword spelling.protocolSame,
    rule.action.parse_keyword spelling.actionSame,
    fieldOrStar_of_ne_nil spelling.processField_ne_nil,
    fieldOrStar_of_ne_nil spelling.hostField_ne_nil,
    fieldOrStar_of_ne_nil spelling.portField_ne_nil]
  rfl

/-! ## Matching a rendering -/

/-- The field `*` is no exception: split at semicolons it is one pattern. -/
theorem matchProcessList_eq_any (processList processName : Str) :
    matchProcessList processList processName =
      (split (fun c => c == ';') processList).any
        (fun pattern => matchProcessPattern (trim pattern) processName) := by
  by_cases star : processList = "*".toList
  · rw [matchProcessList, if_pos star, star]
    rfl
  · rw [matchProcessList, if_neg star]

theorem matchIpList_eq_any {ipList : Str} (nonempty : ipList ≠ []) (ip : UInt32) :
    matchIpList ipList ip =
      (split (fun c => c == ';') ipList).any (fun pattern => matchIpPattern (trim pattern) ip) := by
  have filled := List.isEmpty_eq_false_iff.mpr nonempty
  by_cases star : ipList = "*".toList
  · rw [matchIpList, star]
    rfl
  · rw [matchIpList, filled, decide_eq_false star]
    rfl

theorem matchPortList_eq_any {portList : Str} (nonempty : portList ≠ []) (port : UInt16) :
    matchPortList portList port =
      (split (fun c => c == ',' || c == ';') portList).any
        (fun pattern => matchPortPattern (trim pattern) port) := by
  have filled := List.isEmpty_eq_false_iff.mpr nonempty
  by_cases star : portList = "*".toList
  · rw [matchPortList, star]
    rfl
  · rw [matchPortList, filled, decide_eq_false star]
    rfl

namespace Spelling

variable {rule : AbstractRule} (spelling : Spelling rule)

/-- The process field of a rendering is not the word ANY: a second pattern
brings a semicolon and a wildcard brings a star. -/
theorem processField_not_any : eqIgnoreAsciiCase spelling.processField "ANY".toList = false := by
  apply Bool.eq_false_iff.mpr
  intro any
  have absent : forall c, c.toLower ∉ toAsciiLowercase "ANY".toList -> c ∉ spelling.processField := by
    intro c free member
    rw [← (eqIgnoreAsciiCase_iff _ _).mp any] at free
    exact free (List.mem_map_of_mem member)
  have noSemicolon := absent ';' (by decide)
  have noStar := absent '*' (by decide)
  have notAny := rule.notAny
  unfold processField Patterns.render at any noSemicolon noStar
  unfold Patterns.toList at notAny
  cases more : rule.processes.more with
  | nil =>
      rw [more] at any noStar notAny
      cases first : rule.processes.first with
      | exactly name =>
          rw [first] at any notAny
          have excluded := notAny name rfl
          change eqIgnoreAsciiCase name.text "ANY".toList = true at any
          rw [any] at excluded
          cases excluded
      | starting name =>
          rw [first] at noStar
          exact noStar (List.mem_append_right _ (List.mem_singleton_self _))
      | ending name =>
          rw [first] at noStar
          exact noStar List.mem_cons_self
      | any =>
          rw [first] at noStar
          exact noStar List.mem_cons_self
  | cons pattern rest =>
      rw [more] at noSemicolon
      exact noSemicolon (List.mem_append_right _ List.mem_cons_self)

theorem matches_processField (processName : Str) :
    (isWildcardProcess spelling.processField ||
        matchProcessList spelling.processField processName) = true <->
      rule.processes.Any (ProcessPattern.Matches processName) := by
  have wildcard : (isWildcardProcess spelling.processField ||
      matchProcessList spelling.processField processName) =
        matchProcessList spelling.processField processName := by
    rw [isWildcardProcess, spelling.processField_not_any, Bool.or_false]
    by_cases star : spelling.processField = "*".toList
    · rw [matchProcessList, if_pos star, Bool.or_true]
    · rw [decide_eq_false star, Bool.false_or]
  rw [wildcard, matchProcessList_eq_any]
  apply rule.processes.any_split_render ProcessPattern.render
    (fun pattern => matchProcessPattern pattern processName) (List.length_map _)
  · intro c member
    rw [semicolons member]
    rfl
  · intro pattern c member
    exact beq_eq_false_iff_ne.mpr (pattern.render_clean member).2
  · exact ProcessPattern.render_trimmed
  · exact fun pattern => matchProcessPattern_render pattern processName

theorem matches_hostField (destIp : UInt32) :
    matchIpList spelling.hostField destIp = true <->
      rule.hosts.Any (HostPattern.Matches destIp) := by
  rw [matchIpList_eq_any spelling.hostField_ne_nil]
  apply rule.hosts.any_split_render HostPattern.render
    (fun pattern => matchIpPattern pattern destIp) (List.length_map _)
  · intro c member
    rw [semicolons member]
    rfl
  · intro pattern c member
    exact beq_eq_false_iff_ne.mpr (pattern.render_clean member).2
  · exact HostPattern.render_trimmed
  · exact fun pattern => matchIpPattern_render pattern destIp

theorem matches_portField (destPort : UInt16) :
    matchPortList spelling.portField destPort = true <->
      rule.ports.Any (PortPattern.Matches destPort) := by
  rw [matchPortList_eq_any spelling.portField_ne_nil]
  apply rule.ports.any_split_render PortPattern.render
    (fun pattern => matchPortPattern pattern destPort) spelling.enough
  · intro c member
    rw [Bool.or_eq_true, beq_iff_eq, beq_iff_eq]
    exact spelling.allowed c member
  · intro pattern c member
    have numeric := pattern.render_numeric member
    rw [Bool.or_eq_false_iff, beq_eq_false_iff_ne, beq_eq_false_iff_ne]
    exact ⟨numeric.ne (by decide), numeric.ne (by decide)⟩
  · exact PortPattern.render_trimmed
  · exact fun pattern => matchPortPattern_render pattern destPort

end Spelling

/-- With a single enabled rule both tiers come to the same test, because a
rule without restrictions matches every connection. -/
theorem RuleEngine.matchRule_singleton {rule : Rule} (enabled : rule.enabled = true)
    (processName : Str) (destIp : UInt32) (destPort : UInt16) (isUdp : Bool) :
    (RuleEngine.mk [rule]).matchRule processName destIp destPort isUdp =
      if admits rule.protocol isUdp && rule.matchesLists processName destIp destPort then
        rule.action
      else .direct := by
  have catchAll : rule.isCatchAll = true ->
      rule.matchesLists processName destIp destPort = true := by
    intro unrestricted
    simp only [Rule.isCatchAll, Bool.and_eq_true, decide_eq_true_eq] at unrestricted
    rw [Rule.matchesLists, unrestricted.1.1, unrestricted.1.2, unrestricted.2]
    rfl
  rw [matchRule_eq_tieredAction, tieredAction, List.find?_singleton, List.find?_singleton]
  unfold Rule.isSpecificMatch Rule.isFallback Rule.applies
  rw [enabled, Bool.true_and]
  cases admits rule.protocol isUdp
  · rfl
  · cases unrestricted : rule.isCatchAll
    · cases rule.matchesLists processName destIp destPort
      · rfl
      · rfl
    · rw [catchAll unrestricted]
      rfl

/-- Written down in any spelling, parsed and added to an empty engine, a rule
decides exactly the connections it is about. -/
theorem parseRuleStr_meaning (rule : AbstractRule) (spelling : Spelling rule)
    (nextRuleId : UInt32) :
    Exists fun parsed => parseRuleStr spelling.render = .ok parsed ∧
      forall (processName : Str) (destIp : UInt32) (destPort : UInt16) (isUdp : Bool),
        let added := RuleEngine.new.addRule nextRuleId parsed.process parsed.hosts parsed.ports
          parsed.protocol parsed.action
        (added.engine.matchRule processName destIp destPort isUdp = rule.action <->
          rule.Matches processName destIp destPort isUdp) ∧
        (Not (rule.Matches processName destIp destPort isUdp) ->
          added.engine.matchRule processName destIp destPort isUdp = .direct) := by
  refine ⟨_, parseRuleStr_render spelling, ?_⟩
  intro processName destIp destPort isUdp added
  have decision : added.engine.matchRule processName destIp destPort isUdp =
      if admits rule.protocol isUdp &&
        ((isWildcardProcess spelling.processField ||
            matchProcessList spelling.processField processName) &&
          matchIpList spelling.hostField destIp && matchPortList spelling.portField destPort) then
        rule.action
      else .direct := by
    change (RuleEngine.addRule _ _ _ _ _ _ _).engine.matchRule _ _ _ _ = _
    rw [RuleEngine.addRule, List.isEmpty_eq_false_iff.mpr spelling.processField_ne_nil,
      fieldOrStar_of_ne_nil spelling.hostField_ne_nil,
      fieldOrStar_of_ne_nil spelling.portField_ne_nil]
    exact RuleEngine.matchRule_singleton rfl processName destIp destPort isUdp
  have meaning : (admits rule.protocol isUdp &&
      ((isWildcardProcess spelling.processField ||
          matchProcessList spelling.processField processName) &&
        matchIpList spelling.hostField destIp && matchPortList spelling.portField destPort)) = true <->
      rule.Matches processName destIp destPort isUdp := by
    rw [Bool.and_eq_true, Bool.and_eq_true, Bool.and_eq_true, spelling.matches_processField,
      spelling.matches_hostField, spelling.matches_portField, AbstractRule.Matches, and_assoc]
  rw [decision, ← meaning]
  split
  case isTrue held =>
    exact ⟨iff_of_true rfl held, fun missed => absurd held missed⟩
  case isFalse missed =>
    exact ⟨iff_of_false (Ne.symm rule.routed) missed, fun _ => rfl⟩

/-- A word without separators and white space is a name. -/
def Name.ofWord (text : Str) (nonempty : text ≠ [])
    (word : text.all (fun c => c != ':' && c != ';' && c != '*' && !isWhitespace c) = true) :
    Name where
  text := text
  nonempty := nonempty
  clean := by
    intro c member
    have kept := List.all_eq_true.mp word c member
    simp only [Bool.and_eq_true, bne_iff_ne] at kept
    exact ⟨kept.1.1.1, kept.1.1.2, kept.1.2⟩
  trimmed := by
    apply trimmed_of_forall
    intro c member
    have kept := List.all_eq_true.mp word c member
    rw [Bool.and_eq_true] at kept
    exact Bool.not_eq_true' _ ▸ kept.2

/-- An abstract rule with one process, one host pattern and two ports. -/
def curlRule : AbstractRule where
  processes := ⟨.exactly (Name.ofWord "curl".toList (by decide) rfl), []⟩
  hosts := ⟨.octets (.exactly 10) .any (.exactly 0) (.between 1 9), []⟩
  ports := ⟨.between 80 90, [.exactly 443]⟩
  protocol := .tcp
  action := .proxy
  notAny := by
    intro name same
    cases same
    decide
  routed := by decide

def curlSpelling : Spelling curlRule where
  portSeparators := [';']
  enough := rfl
  allowed := fun _ member => Or.inr (List.mem_singleton.mp member)
  protocolText := "tcp".toList
  protocolSame := by decide
  actionText := "Proxy".toList
  actionSame := by decide

example : curlSpelling.render = "curl:10.*.0.1-9:80-90;443:tcp:Proxy".toList := by decide

end ProxyBridge
