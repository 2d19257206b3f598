import ProxyBridge.Core.RuleLanguage

namespace ProxyBridge

open Foundation Text

/-!
# Patterns that are not well formed

An octet and a port are both matched as a number: by `*`, by a number, or by a
range of numbers.  A number that does not parse is replaced by a default, which
is 255 for a single octet, and 0 for a single port and for every bound.

So a malformed pattern is not rejected.  It matches something exactly when none
of its ranges is inverted after the replacement, and a host pattern is in
addition rejected for the wrong number of parts.
-/

/-- The matcher that octets and ports share, for numbers below `bound`. -/
def matchNumber (bound default value : Nat) (pattern : Str) : Bool :=
  if pattern = "*".toList then true
  else
    match splitOnce '-' pattern with
    | some (startStr, endStr) =>
        decide ((parseUnsigned bound startStr).getD 0 ≤ value) &&
          decide (value ≤ (parseUnsigned bound endStr).getD 0)
    | none => value == (parseUnsigned bound pattern).getD default

theorem toNat_parseU8_getD (s : Str) (default : UInt8) :
    ((parseU8 s).getD default).toNat = (parseUnsigned 256 s).getD default.toNat := by
  unfold parseU8
  cases parsed : parseUnsigned 256 s with
  | none => rfl
  | some n =>
      have inRange := ((parseUnsigned_eq_some_iff 256 s n).mp parsed).2
      exact UInt8.toNat_ofNat_of_lt' inRange

theorem toNat_parseU16_getD (s : Str) (default : UInt16) :
    ((parseU16 s).getD default).toNat = (parseUnsigned 65536 s).getD default.toNat := by
  unfold parseU16
  cases parsed : parseUnsigned 65536 s with
  | none => rfl
  | some n =>
      have inRange := ((parseUnsigned_eq_some_iff 65536 s n).mp parsed).2
      exact UInt16.toNat_ofNat_of_lt' inRange

theorem matchOctet_eq (part : Str) (octet : UInt8) :
    matchOctet part octet = matchNumber 256 255 octet.toNat part := by
  unfold matchOctet matchNumber
  by_cases star : part = "*".toList
  · rw [if_pos star, if_pos star]
  · rw [if_neg star, if_neg star]
    cases splitOnce '-' part with
    | none =>
        rw [Bool.eq_iff_iff, beq_iff_eq, beq_iff_eq, ← UInt8.toNat_inj, toNat_parseU8_getD]
        rfl
    | some bounds =>
        rw [Bool.eq_iff_iff]
        simp only [Bool.not_eq_true', Bool.or_eq_false_iff, decide_eq_false_iff_not, gt_iff_lt,
          UInt8.not_lt, UInt8.le_iff_toNat_le, toNat_parseU8_getD, Bool.and_eq_true,
          decide_eq_true_eq]
        rfl

theorem matchPortPattern_eq (pattern : Str) (port : UInt16) :
    matchPortPattern pattern port = matchNumber 65536 0 port.toNat pattern := by
  unfold matchPortPattern matchNumber
  by_cases star : pattern = "*".toList
  · rw [if_pos star, if_pos star]
  · rw [if_neg star, if_neg star]
    cases splitOnce '-' pattern with
    | none =>
        rw [Bool.eq_iff_iff, beq_iff_eq, beq_iff_eq, ← UInt16.toNat_inj, toNat_parseU16_getD]
        rfl
    | some bounds =>
        simp only [ge_iff_le, UInt16.le_iff_toNat_le, toNat_parseU16_getD]
        rfl

/-- What a pattern should match: everything, the number it is, or the numbers
between its two bounds. -/
def NumberMatches (bound value : Nat) (pattern : Str) : Prop :=
  pattern = "*".toList ∨ Numeral pattern value ∨
    Exists fun lo => Exists fun hi => Exists fun first => Exists fun last =>
      pattern = lo ++ '-' :: hi ∧ Numeral lo first ∧ Numeral hi last ∧
        first ≤ value ∧ value ≤ last ∧ last < bound

/-- The pattern is `*`, a number in range, or a pair of numbers in range. -/
def WellFormed (bound : Nat) (pattern : Str) : Prop :=
  pattern = "*".toList ∨ (Exists fun n => Numeral pattern n ∧ n < bound) ∨
    Exists fun lo => Exists fun hi => Exists fun first => Exists fun last =>
      pattern = lo ++ '-' :: hi ∧ Numeral lo first ∧ Numeral hi last ∧
        first < bound ∧ last < bound

/-- A range whose upper bound is below its lower bound, with 0 for a bound that
does not parse. -/
def Inverted (bound : Nat) (pattern : Str) : Prop :=
  Exists fun bounds => splitOnce '-' pattern = some bounds ∧
    (parseUnsigned bound bounds.2).getD 0 < (parseUnsigned bound bounds.1).getD 0

section Number

variable {bound default value : Nat} {pattern : Str}

theorem numeral_not_star {n : Nat} (numeral : Numeral pattern n) : pattern ≠ "*".toList := by
  rintro rfl
  exact numeral.not_mem (by decide : '*'.isDigit = false) List.mem_cons_self

theorem splitOnce_numeral {n : Nat} (numeral : Numeral pattern n) : splitOnce '-' pattern = none :=
  splitOnce_of_not_mem (numeral.not_mem (by decide))

theorem splitOnce_numerals {lo hi : Str} {first : Nat} (numeral : Numeral lo first) :
    splitOnce '-' (lo ++ '-' :: hi) = some (lo, hi) :=
  splitOnce_append (numeral.not_mem (by decide)) hi

theorem numerals_not_star (lo hi : Str) : lo ++ '-' :: hi ≠ "*".toList := by
  intro same
  have dash : '-' ∈ "*".toList := by
    rw [← same]
    exact List.mem_append_right lo List.mem_cons_self
  cases List.mem_singleton.mp dash

/-- Every character of a well-formed pattern is a digit, a star or a dash. -/
theorem isNumeric_of_wellFormed (wellFormed : WellFormed bound pattern) {c : Char}
    (member : c ∈ pattern) : IsNumeric c := by
  rcases wellFormed with star | ⟨n, numeral, _⟩ | ⟨lo, hi, first, last, whole, low, high, _⟩
  · rw [star] at member
    exact isNumeric_star member
  · exact Or.inl (numeral.digits c member)
  · rw [whole, List.mem_append, List.mem_cons] at member
    rcases member with before | dash | after
    · exact Or.inl (low.digits c before)
    · exact Or.inr (Or.inr dash)
    · exact Or.inl (high.digits c after)

/-- A well-formed pattern matches what it should. -/
theorem numberMatches_of_wellFormed (wellFormed : WellFormed bound pattern)
    (matched : matchNumber bound default value pattern = true) :
    NumberMatches bound value pattern := by
  rcases wellFormed with star | ⟨n, numeral, inRange⟩ | ⟨lo, hi, first, last, whole, low, high, range⟩
  · exact Or.inl star
  · rw [matchNumber, if_neg (numeral_not_star numeral), splitOnce_numeral numeral,
      numeral.parse inRange] at matched
    have same : value = n := beq_iff_eq.mp matched
    rw [same]
    exact Or.inr (Or.inl numeral)
  · rw [whole, matchNumber, if_neg (numerals_not_star lo hi), splitOnce_numerals low] at matched
    simp only [low.parse range.1, high.parse range.2, Option.getD_some, Bool.and_eq_true,
      decide_eq_true_eq] at matched
    exact Or.inr (Or.inr ⟨lo, hi, first, last, whole, low, high, matched.1, matched.2, range.2⟩)

theorem getD_parseUnsigned_lt (inRange : default < bound) (s : Str) :
    (parseUnsigned bound s).getD default < bound := by
  cases parsed : parseUnsigned bound s with
  | none => exact inRange
  | some n => exact ((parseUnsigned_eq_some_iff bound s n).mp parsed).2

/-- A pattern matches some number unless it is an inverted range. -/
theorem exists_matchNumber_iff (inRange : default < bound) :
    (Exists fun value => value < bound ∧ matchNumber bound default value pattern = true) <->
      Not (Inverted bound pattern) := by
  unfold Inverted matchNumber
  by_cases star : pattern = "*".toList
  · subst star
    refine iff_of_true ⟨default, inRange, rfl⟩ ?_
    rintro ⟨bounds, found, _⟩
    cases found
  · simp only [if_neg star]
    cases found : splitOnce '-' pattern with
    | none =>
        refine iff_of_true ⟨_, getD_parseUnsigned_lt inRange pattern, beq_self_eq_true _⟩ ?_
        rintro ⟨bounds, impossible, _⟩
        cases impossible
    | some bounds =>
        have positive : 0 < bound := Nat.lt_of_le_of_lt (Nat.zero_le _) inRange
        simp only [Bool.and_eq_true, decide_eq_true_eq, Option.some.injEq, exists_eq_left', not_lt]
        constructor
        · rintro ⟨value, _, above, below⟩
          exact Nat.le_trans above below
        · intro ordered
          exact ⟨_, getD_parseUnsigned_lt positive bounds.1, Nat.le_refl _, ordered⟩

end Number

/-- When a list rejects all elements that are not well formed, a match comes
from a well-formed element. -/
theorem exists_of_any {Value : Type} {elements : List Str} {accepts : Str -> Value -> Bool}
    {wellFormed : Str -> Prop} (rejects : forall element, element ∈ elements ->
      Not (wellFormed element) -> forall value, accepts element value = false)
    {value : Value} (matched : elements.any (fun element => accepts element value) = true) :
    Exists fun element => element ∈ elements ∧ wellFormed element ∧
      accepts element value = true := by
  rcases List.any_eq_true.mp matched with ⟨element, member, accepted⟩
  refine ⟨element, member, ?_, accepted⟩
  by_contra malformed
  rw [rejects element member malformed] at accepted
  cases accepted

/-! ## Lists of hosts -/

/-- What a host pattern should match: everything, or the addresses whose octets
match its four parts one by one. -/
def HostMatches (ip : UInt32) (pattern : Str) : Prop :=
  pattern = "*".toList ∨
    List.Forall₂ (fun part (octet : UInt8) => NumberMatches 256 octet.toNat part)
      (split (fun c => c == '.') pattern) (ipOctets ip)

/-- The pattern is `*`, or has four well-formed parts. -/
def WellFormedHost (pattern : Str) : Prop :=
  pattern = "*".toList ∨ ((split (fun c => c == '.') pattern).length = 4 ∧
    forall part, part ∈ split (fun c => c == '.') pattern -> WellFormed 256 part)

/-- The number of parts is not four, or one of them is an inverted range. -/
def Refused (pattern : Str) : Prop :=
  (split (fun c => c == '.') pattern).length ≠ 4 ∨
    Exists fun part => part ∈ split (fun c => c == '.') pattern ∧ Inverted 256 part

/-- A match has a reason among the elements of the list, and an element that is
not well formed matches no address. -/
structure HostListStrict (ipList : Str) : Prop where
  reason : forall ip, matchIpList ipList ip = true ->
    Exists fun element => element ∈ split (fun c => c == ';') ipList ∧
      HostMatches ip (trim element)
  rejects : forall element, element ∈ split (fun c => c == ';') ipList ->
    Not (WellFormedHost (trim element)) -> forall ip, matchIpPattern (trim element) ip = false

section Hosts

variable {pattern : Str} {ip : UInt32}

theorem matchIpPattern_iff (notStar : pattern ≠ "*".toList) (ip : UInt32) :
    matchIpPattern pattern ip = true <->
      List.Forall₂ (fun part octet => matchOctet part octet = true)
        (split (fun c => c == '.') pattern) (ipOctets ip) := by
  simp only [matchIpPattern, if_neg notStar]
  rw [List.forall₂_iff_zip, ipOctets_eq]
  by_cases four : (split (fun c => c == '.') pattern).length = 4
  · rw [if_neg (not_not.mpr four), List.all_eq_true]
    constructor
    · intro all
      exact ⟨four, fun member => all _ member⟩
    · rintro ⟨_, all⟩ entry member
      exact all member
  · rw [if_pos four]
    exact iff_of_false Bool.false_ne_true (fun both => four both.1)

/-- A well-formed pattern matches what it should. -/
theorem hostMatches_of_wellFormed (wellFormed : WellFormedHost pattern)
    (matched : matchIpPattern pattern ip = true) : HostMatches ip pattern := by
  rcases wellFormed with star | ⟨_, parts⟩
  · exact Or.inl star
  · by_cases star : pattern = "*".toList
    · exact Or.inl star
    · right
      have octets := List.forall₂_iff_zip.mp ((matchIpPattern_iff star ip).mp matched)
      apply List.forall₂_iff_zip.mpr
      refine ⟨octets.1, ?_⟩
      intro part octet member
      have here := octets.2 member
      rw [matchOctet_eq] at here
      exact numberMatches_of_wellFormed (parts part (List.of_mem_zip member).1) here

theorem exists_matchOctet {part : Str} (ordered : Not (Inverted 256 part)) :
    Exists fun octet => matchOctet part octet = true := by
  rcases (exists_matchNumber_iff (show 255 < 256 by omega)).mpr ordered with
    ⟨value, inRange, matched⟩
  refine ⟨UInt8.ofNat value, ?_⟩
  rwa [matchOctet_eq, UInt8.toNat_ofNat_of_lt' inRange]

/-- A pattern other than `*` matches nothing exactly when it is refused. -/
theorem matchIpPattern_eq_false_iff (notStar : pattern ≠ "*".toList) :
    (forall ip, matchIpPattern pattern ip = false) <-> Refused pattern := by
  constructor
  · intro never
    by_contra accepted
    rcases not_or.mp accepted with ⟨four, ordered⟩
    rcases List.length_eq_four.mp (not_not.mp four) with ⟨p, q, r, s, parts⟩
    have matchable : forall part, part ∈ [p, q, r, s] ->
        Exists fun octet => matchOctet part octet = true := by
      intro part member
      apply exists_matchOctet
      intro inverted
      exact ordered ⟨part, parts ▸ member, inverted⟩
    rcases matchable p (by simp) with ⟨b0, first⟩
    rcases matchable q (by simp) with ⟨b1, second⟩
    rcases matchable r (by simp) with ⟨b2, third⟩
    rcases matchable s (by simp) with ⟨b3, fourth⟩
    have matched := (matchIpPattern_iff notStar (Octets.fromNeBytes .little [b0, b1, b2, b3])).mpr
      (by
        rw [parts, ipOctets_fromNeBytes]
        exact .cons first (.cons second (.cons third (.cons fourth .nil))))
    rw [never] at matched
    cases matched
  · rintro refused ip
    rw [← Bool.not_eq_true, matchIpPattern_iff notStar]
    intro octets
    rcases refused with notFour | ⟨part, member, inverted⟩
    · exact notFour octets.length_eq
    · rcases List.mem_iff_getElem.mp member with ⟨index, inside, here⟩
      have bound : index < (ipOctets ip).length := octets.length_eq ▸ inside
      have matched := List.forall₂_iff_get.mp octets |>.2 index inside bound
      rw [List.get_eq_getElem, here, matchOctet_eq] at matched
      exact (exists_matchNumber_iff (show 255 < 256 by omega)).mp
        ⟨_, UInt8.toNat_lt _, matched⟩ inverted

end Hosts

/-- A non-empty list of hosts matches only for a good reason exactly when each
of its malformed elements is refused. -/
theorem hostListStrict_iff {ipList : Str} :
    (ipList ≠ [] -> HostListStrict ipList) <->
      forall element, element ∈ split (fun c => c == ';') ipList ->
        Not (WellFormedHost (trim element)) -> Refused (trim element) := by
  have notStar : forall element, Not (WellFormedHost (trim element)) ->
      trim element ≠ "*".toList := fun _ malformed star => malformed (Or.inl star)
  constructor
  · intro strict element member malformed
    by_cases empty : ipList = []
    · subst empty
      rw [List.mem_singleton.mp member]
      exact Or.inl (by decide)
    · exact (matchIpPattern_eq_false_iff (notStar element malformed)).mp
        ((strict empty).rejects element member malformed)
  · intro refused nonempty
    have rejects : forall element, element ∈ split (fun c => c == ';') ipList ->
        Not (WellFormedHost (trim element)) ->
          forall ip, matchIpPattern (trim element) ip = false :=
      fun element member malformed => (matchIpPattern_eq_false_iff (notStar element malformed)).mpr
        (refused element member malformed)
    refine ⟨?_, rejects⟩
    intro ip matched
    rw [matchIpList_eq_any nonempty] at matched
    rcases exists_of_any rejects matched with ⟨element, member, wellFormed, accepted⟩
    exact ⟨element, member, hostMatches_of_wellFormed wellFormed accepted⟩

/-- With a letter in its lower bound, the last range covers 10.0.0.7. -/
theorem malformed_host_matches :
    Not (forall ipList, ipList ≠ [] -> ipList ≠ "*".toList -> HostListStrict ipList) := by
  intro strict
  have rejects := (strict "10.0.0.x-255".toList (by decide) (by decide)).rejects
    "10.0.0.x-255".toList (List.mem_singleton_self _)
  have malformed : Not (WellFormedHost "10.0.0.x-255".toList) := by
    rintro (star | ⟨_, parts⟩)
    · cases star
    · have last := parts "x-255".toList (by decide)
      have numeric : IsNumeric 'x' := isNumeric_of_wellFormed last List.mem_cons_self
      exact numeric.ne (by decide) rfl
  have matched := rejects malformed 0x0700000A
  cases matched

/-! ## Lists of ports -/

/-- A match has a reason among the elements of the list, and an element that is
not well formed matches no port. -/
structure PortListStrict (portList : Str) : Prop where
  reason : forall port, matchPortList portList port = true ->
    Exists fun element => element ∈ split (fun c => c == ',' || c == ';') portList ∧
      NumberMatches 65536 port.toNat (trim element)
  rejects : forall element, element ∈ split (fun c => c == ',' || c == ';') portList ->
    Not (WellFormed 65536 (trim element)) ->
      forall port, matchPortPattern (trim element) port = false

theorem matchPortPattern_eq_false_iff (pattern : Str) :
    (forall port, matchPortPattern pattern port = false) <-> Inverted 65536 pattern := by
  rw [← not_not (a := Inverted 65536 pattern), ← exists_matchNumber_iff (show 0 < 65536 by omega)]
  simp only [not_exists, not_and, Bool.not_eq_true, matchPortPattern_eq]
  constructor
  · intro never value inRange
    have here := never (UInt16.ofNat value)
    rwa [UInt16.toNat_ofNat_of_lt' inRange] at here
  · intro never port
    exact never port.toNat port.toNat_lt

/-- A non-empty list of ports matches only for a good reason exactly when each
of its malformed elements is an inverted range. -/
theorem portListStrict_iff {portList : Str} :
    (portList ≠ [] -> PortListStrict portList) <->
      portList = [] ∨ forall element, element ∈ split (fun c => c == ',' || c == ';') portList ->
        Not (WellFormed 65536 (trim element)) -> Inverted 65536 (trim element) := by
  by_cases empty : portList = []
  · exact iff_of_true (fun filled => absurd empty filled) (Or.inl empty)
  · rw [or_iff_right empty]
    constructor
    · intro strict element member malformed
      exact (matchPortPattern_eq_false_iff _).mp ((strict empty).rejects element member malformed)
    · intro inverted _
      have rejects : forall element, element ∈ split (fun c => c == ',' || c == ';') portList ->
          Not (WellFormed 65536 (trim element)) ->
            forall port, matchPortPattern (trim element) port = false :=
        fun element member malformed =>
          (matchPortPattern_eq_false_iff _).mpr (inverted element member malformed)
      refine ⟨?_, rejects⟩
      intro port matched
      rw [matchPortList_eq_any empty] at matched
      rcases exists_of_any rejects matched with ⟨element, member, wellFormed, accepted⟩
      rw [matchPortPattern_eq] at accepted
      exact ⟨element, member, numberMatches_of_wellFormed wellFormed accepted⟩

/-- With a letter in its lower bound, the range covers port 22. -/
theorem malformed_port_matches :
    Not (forall portList, portList ≠ [] -> portList ≠ "*".toList -> PortListStrict portList) := by
  intro strict
  have rejects := (strict "8o-443".toList (by decide) (by decide)).rejects "8o-443".toList
    (List.mem_singleton_self _)
  have malformed : Not (WellFormed 65536 "8o-443".toList) := by
    intro wellFormed
    have numeric : IsNumeric 'o' := isNumeric_of_wellFormed wellFormed (by decide)
    exact numeric.ne (by decide) rfl
  have matched := rejects malformed 22
  cases matched

end ProxyBridge
