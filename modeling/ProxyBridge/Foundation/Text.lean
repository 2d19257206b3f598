import Mathlib

namespace Foundation
namespace Text

/-!
# Strings as sequences of Unicode scalar values

A `str` of the source language is a sequence of Unicode scalar values that is
stored as UTF-8 and sliced by byte offset.  `Str` keeps the scalar values and
recovers every byte offset from `Char.utf8Size`, so that a slice which would
cut a character in the middle is visible as a missing result.

The operations are those of the standard library: slicing, ASCII case folding,
trimming, splitting and decimal numbers.  Each one comes with the lemma that
later proofs use in place of its definition.
-/

abbrev Str := List Char

/-- The length of the UTF-8 form in bytes. -/
def len : Str -> Nat
  | [] => 0
  | c :: rest => c.utf8Size + len rest

@[simp] theorem len_nil : len [] = 0 := rfl

@[simp] theorem len_cons (c : Char) (rest : Str) : len (c :: rest) = c.utf8Size + len rest := rfl

@[simp] theorem len_append (left right : Str) : len (left ++ right) = len left + len right := by
  induction left with
  | nil => simp
  | cons c rest ih =>
      rw [List.cons_append, len_cons, len_cons, ih]
      omega

theorem len_replicate (count : Nat) (c : Char) :
    len (List.replicate count c) = count * c.utf8Size := by
  induction count with
  | zero => exact (Nat.zero_mul _).symm
  | succ count ih => rw [List.replicate_succ, len_cons, ih, Nat.succ_mul, Nat.add_comm]

theorem len_eq_zero {s : Str} (empty : len s = 0) : s = [] := by
  cases s with
  | nil => rfl
  | cons c rest =>
      have positive := c.utf8Size_pos
      rw [len_cons] at empty
      omega

theorem utf8Size_le_len {s : Str} {c : Char} (member : c ∈ s) : c.utf8Size ≤ len s := by
  rcases List.append_of_mem member with ⟨left, right, same⟩
  rw [same, len_append, len_cons]
  omega

/-- Split a string at a byte offset.  There is no result when the offset lies
inside a character or past the end. -/
def splitAtByte : Str -> Nat -> Option (Str × Str)
  | s, 0 => some ([], s)
  | [], _ + 1 => none
  | c :: rest, n + 1 =>
      if c.utf8Size ≤ n + 1 then
        (splitAtByte rest (n + 1 - c.utf8Size)).map (fun parts => (c :: parts.1, parts.2))
      else none

theorem splitAtByte_zero (s : Str) : splitAtByte s 0 = some ([], s) := by
  cases s with
  | nil => rfl
  | cons c rest => rfl

theorem splitAtByte_append (left right : Str) :
    splitAtByte (left ++ right) (len left) = some (left, right) := by
  induction left with
  | nil => exact splitAtByte_zero right
  | cons c left ih =>
      have positive := c.utf8Size_pos
      have size : len (c :: left) = c.utf8Size - 1 + len left + 1 := by
        rw [len_cons]
        omega
      have remaining : c.utf8Size - 1 + len left + 1 - c.utf8Size = len left := by omega
      rw [size, List.cons_append, splitAtByte, if_pos (by omega), remaining, ih]
      rfl

theorem splitAtByte_eq_some {s : Str} {n : Nat} {parts : Str × Str}
    (split : splitAtByte s n = some parts) : s = parts.1 ++ parts.2 ∧ len parts.1 = n := by
  induction s generalizing n parts with
  | nil =>
      cases n with
      | zero =>
          cases split
          exact ⟨rfl, rfl⟩
      | succ n => cases split
  | cons c rest ih =>
      cases n with
      | zero =>
          cases split
          exact ⟨rfl, rfl⟩
      | succ n =>
          rw [splitAtByte] at split
          by_cases fits : c.utf8Size ≤ n + 1
          · rw [if_pos fits] at split
            rcases Option.map_eq_some_iff.mp split with ⟨inner, found, same⟩
            have tail := ih found
            cases same
            refine ⟨congrArg (List.cons c) tail.1, ?_⟩
            rw [len_cons, tail.2]
            omega
          · rw [if_neg fits] at split
            cases split

/-- A byte offset splits a string exactly when the first part has that length. -/
theorem splitAtByte_eq_some_iff (s : Str) (n : Nat) (parts : Str × Str) :
    splitAtByte s n = some parts <-> s = parts.1 ++ parts.2 ∧ len parts.1 = n := by
  constructor
  · exact splitAtByte_eq_some
  · rintro ⟨whole, size⟩
    rw [whole, ← size]
    exact splitAtByte_append parts.1 parts.2

/-- `str::get(..n)` -/
def getTo (s : Str) (n : Nat) : Option Str :=
  (splitAtByte s n).map Prod.fst

/-- `str::get(n..)` -/
def getFrom (s : Str) (n : Nat) : Option Str :=
  (splitAtByte s n).map Prod.snd

/-- `str::get(first..last)` -/
def getRange (s : Str) (first last : Nat) : Option Str :=
  if first ≤ last then (getFrom s first).bind (fun rest => getTo rest (last - first)) else none

theorem getTo_eq_some_iff (s : Str) (n : Nat) (left : Str) :
    getTo s n = some left <-> left <+: s ∧ len left = n := by
  rw [getTo, Option.map_eq_some_iff]
  constructor
  · rintro ⟨parts, split, rfl⟩
    have spec := (splitAtByte_eq_some_iff s n parts).mp split
    exact ⟨⟨parts.2, spec.1.symm⟩, spec.2⟩
  · rintro ⟨⟨right, whole⟩, size⟩
    exact ⟨(left, right), (splitAtByte_eq_some_iff s n _).mpr ⟨whole.symm, size⟩, rfl⟩

theorem getFrom_eq_some_iff (s : Str) (n : Nat) (right : Str) :
    getFrom s n = some right <-> right <:+ s ∧ len s = n + len right := by
  rw [getFrom, Option.map_eq_some_iff]
  constructor
  · rintro ⟨parts, split, rfl⟩
    have spec := (splitAtByte_eq_some_iff s n parts).mp split
    refine ⟨⟨parts.1, spec.1.symm⟩, ?_⟩
    rw [spec.1, len_append, spec.2]
  · rintro ⟨⟨left, whole⟩, size⟩
    refine ⟨(left, right), (splitAtByte_eq_some_iff s n _).mpr ⟨whole.symm, ?_⟩, rfl⟩
    rw [← whole, len_append] at size
    change len left = n
    omega

theorem getRange_eq_some_iff (s : Str) (first last : Nat) (part : Str) :
    getRange s first last = some part <-> first ≤ last ∧
      Exists fun left => Exists fun right =>
        s = left ++ (part ++ right) ∧ len left = first ∧ len part = last - first := by
  unfold getRange
  by_cases ordered : first ≤ last
  · rw [if_pos ordered, Option.bind_eq_some_iff]
    constructor
    · intro found
      rcases found with ⟨rest, tailFound, headFound⟩
      have after := (getFrom_eq_some_iff s first rest).mp tailFound
      have before := (getTo_eq_some_iff rest (last - first) part).mp headFound
      rcases after with ⟨⟨left, whole⟩, size⟩
      rcases before with ⟨⟨right, inner⟩, length⟩
      refine ⟨ordered, left, right, by rw [inner, whole], ?_, length⟩
      rw [← whole, len_append] at size
      omega
    · intro parts
      rcases parts with ⟨_, left, right, whole, size, length⟩
      refine ⟨part ++ right, ?_, ?_⟩
      · apply (getFrom_eq_some_iff s first _).mpr
        refine ⟨⟨left, whole.symm⟩, ?_⟩
        rw [whole, len_append, size]
      · exact (getTo_eq_some_iff _ _ part).mpr ⟨⟨right, rfl⟩, length⟩
  · rw [if_neg ordered]
    exact iff_of_false (fun impossible => by cases impossible) (fun parts => ordered parts.1)

/-- `str::find` with a string: the byte offset of its first occurrence. -/
def find (needle : Str) : Str -> Option Nat
  | [] => if needle.isPrefixOf [] then some 0 else none
  | c :: rest =>
      if needle.isPrefixOf (c :: rest) then some 0
      else (find needle rest).map (fun n => c.utf8Size + n)

theorem find_eq_some {needle s : Str} {n : Nat} (found : find needle s = some n) :
    Exists fun before => Exists fun after => s = before ++ (needle ++ after) ∧ len before = n := by
  induction s generalizing n with
  | nil =>
      rw [find] at found
      split at found
      case isTrue here =>
        cases found
        rcases List.isPrefixOf_iff_prefix.mp here with ⟨after, whole⟩
        exact ⟨[], after, whole.symm, rfl⟩
      case isFalse => cases found
  | cons c rest ih =>
      rw [find] at found
      split at found
      case isTrue here =>
        cases found
        rcases List.isPrefixOf_iff_prefix.mp here with ⟨after, whole⟩
        exact ⟨[], after, whole.symm, rfl⟩
      case isFalse =>
        rcases Option.map_eq_some_iff.mp found with ⟨m, later, rfl⟩
        rcases ih later with ⟨before, after, whole, size⟩
        exact ⟨c :: before, after, congrArg (List.cons c) whole, by rw [len_cons, size]⟩

/-- An occurrence is the first one when what stands before it lacks the first
character of the needle. -/
theorem find_append {c : Char} {before : Str} (absent : c ∉ before) (needle after : Str) :
    find (c :: needle) (before ++ (c :: needle ++ after)) = some (len before) := by
  induction before with
  | nil =>
      rw [List.nil_append, List.cons_append, find, if_pos]
      · rfl
      · exact List.isPrefixOf_iff_prefix.mpr ⟨after, rfl⟩
  | cons d before ih =>
      have parts := not_or.mp (fun found => absent (List.mem_cons.mpr found))
      have elsewhere :
          Not ((c :: needle).isPrefixOf (d :: (before ++ (c :: needle ++ after))) = true) := by
        rw [List.isPrefixOf_cons_cons, beq_eq_false_iff_ne.mpr parts.1, Bool.false_and]
        exact Bool.false_ne_true
      rw [List.cons_append, find, if_neg elsewhere, ih parts.2, Option.map_some, len_cons]

/-- `str::to_ascii_lowercase` -/
def toAsciiLowercase (s : Str) : Str :=
  s.map Char.toLower

/-- `str::eq_ignore_ascii_case`: equality of the two ASCII lower-case forms. -/
def eqIgnoreAsciiCase (left right : Str) : Bool :=
  decide (toAsciiLowercase left = toAsciiLowercase right)

theorem eqIgnoreAsciiCase_iff (left right : Str) :
    eqIgnoreAsciiCase left right = true <-> toAsciiLowercase left = toAsciiLowercase right :=
  decide_eq_true_iff

/-- A word equal to a keyword up to letter case has only the keyword's
letters. -/
theorem colon_not_mem_of_keyword {word keyword : Str}
    (same : eqIgnoreAsciiCase word keyword = true) (free : ':' ∉ toAsciiLowercase keyword) :
    ':' ∉ word := by
  intro member
  rw [← (eqIgnoreAsciiCase_iff word keyword).mp same] at free
  exact free (List.mem_map_of_mem (f := Char.toLower) member)

theorem upper_bounds {c : Char} (upper : c.isUpper = true) : 65 ≤ c.toNat ∧ c.toNat ≤ 90 := by
  simp only [Char.isUpper, decide_eq_true_eq] at upper
  exact ⟨UInt32.le_iff_toNat_le.mp upper.1, UInt32.le_iff_toNat_le.mp upper.2⟩

theorem digit_bounds {c : Char} (digit : c.isDigit = true) : 48 ≤ c.toNat ∧ c.toNat ≤ 57 := by
  simp only [Char.isDigit, Bool.and_eq_true, decide_eq_true_eq] at digit
  exact ⟨UInt32.le_iff_toNat_le.mp digit.1, UInt32.le_iff_toNat_le.mp digit.2⟩

/-- Two characters at most have a given lower-case form. -/
theorem eq_of_toLower {c low : Char} (same : c.toLower = low) :
    c = low ∨ c = Char.ofNat (low.toNat - 32) := by
  by_cases upper : c.isUpper = true
  · have bound := upper_bounds upper
    rw [Char.toLower_eq_of_isUpper upper] at same
    have value := congrArg Char.toNat same
    rw [Char.toNat_ofNat, if_pos (Or.inl (by omega))] at value
    right
    rw [← value, Nat.add_sub_cancel, Char.ofNat_toNat]
  · rw [Char.toLower_eq_of_not_isUpper upper] at same
    exact Or.inl same

theorem utf8Size_of_ascii {c : Char} (ascii : c.toNat < 128) : c.utf8Size = 1 := by
  apply Char.utf8Size_eq_one_iff.mpr
  apply UInt32.le_iff_toNat_le.mpr
  change c.toNat ≤ 127
  omega

theorem utf8Size_toLower (c : Char) : c.toLower.utf8Size = c.utf8Size := by
  by_cases upper : c.isUpper = true
  · have bound := upper_bounds upper
    have valid : (c.toNat + 32).isValidChar := Or.inl (by omega)
    have lowered : c.toLower.toNat = c.toNat + 32 := by
      rw [Char.toLower_eq_of_isUpper upper, Char.toNat_ofNat, if_pos valid]
    rw [utf8Size_of_ascii (by omega), utf8Size_of_ascii (by omega)]
  · rw [Char.toLower_eq_of_not_isUpper upper]

theorem len_toAsciiLowercase (s : Str) : len (toAsciiLowercase s) = len s := by
  induction s with
  | nil => rfl
  | cons c rest ih =>
      change c.toLower.utf8Size + len (toAsciiLowercase rest) = c.utf8Size + len rest
      rw [ih, utf8Size_toLower]

/-- Comparing the slice of a prefix's length finds the prefixes up to case. -/
theorem getTo_any_iff (target leading : Str) :
    (getTo target (len leading)).any (fun s => eqIgnoreAsciiCase s leading) = true <->
      Exists fun head => head <+: target ∧ toAsciiLowercase head = toAsciiLowercase leading := by
  rw [Option.any_eq_true]
  constructor
  · rintro ⟨head, slice, same⟩
    exact ⟨head, ((getTo_eq_some_iff target _ head).mp slice).1,
      (eqIgnoreAsciiCase_iff head leading).mp same⟩
  · rintro ⟨head, before, same⟩
    have size : len head = len leading := by
      rw [← len_toAsciiLowercase head, same, len_toAsciiLowercase]
    exact ⟨head, (getTo_eq_some_iff target _ head).mpr ⟨before, size⟩,
      (eqIgnoreAsciiCase_iff head leading).mpr same⟩

/-- Comparing the slice of a suffix's length finds the suffixes up to case.  A
target shorter than the suffix is compared as a whole, and differs. -/
theorem getFrom_any_iff (target trailing : Str) :
    (getFrom target (len target - len trailing)).any
        (fun s => eqIgnoreAsciiCase s trailing) = true <->
      Exists fun tail => tail <:+ target ∧ toAsciiLowercase tail = toAsciiLowercase trailing := by
  rw [Option.any_eq_true]
  constructor
  · rintro ⟨tail, slice, same⟩
    exact ⟨tail, ((getFrom_eq_some_iff target _ tail).mp slice).1,
      (eqIgnoreAsciiCase_iff tail trailing).mp same⟩
  · rintro ⟨tail, after, same⟩
    have size : len tail = len trailing := by
      rw [← len_toAsciiLowercase tail, same, len_toAsciiLowercase]
    rcases after with ⟨head, rfl⟩
    refine ⟨tail, (getFrom_eq_some_iff _ _ tail).mpr ⟨⟨head, rfl⟩, ?_⟩,
      (eqIgnoreAsciiCase_iff tail trailing).mpr same⟩
    rw [len_append]
    omega

/-- `char::is_whitespace`: the Unicode property `White_Space`. -/
def isWhitespace (c : Char) : Bool :=
  let v := c.toNat
  (9 ≤ v && v ≤ 13) || v == 0x20 || v == 0x85 || v == 0xA0 || v == 0x1680 ||
    (0x2000 ≤ v && v ≤ 0x200A) || v == 0x2028 || v == 0x2029 || v == 0x202F ||
    v == 0x205F || v == 0x3000

theorem isWhitespace_of_isDigit {c : Char} (digit : c.isDigit = true) : isWhitespace c = false := by
  have bounds := digit_bounds digit
  simp only [isWhitespace, Bool.or_eq_false_iff, Bool.and_eq_false_iff, decide_eq_false_iff_not,
    beq_eq_false_iff_ne]
  omega

/-- `str::trim` -/
def trim (s : Str) : Str :=
  (s.dropWhile isWhitespace).rdropWhile isWhitespace

/-- A string whose first and last characters are kept by `trim`. -/
def Trimmed (s : Str) : Prop :=
  (forall c, s.head? = some c -> isWhitespace c = false) ∧
    (forall c, s.getLast? = some c -> isWhitespace c = false)

theorem trim_of_trimmed {s : Str} (trimmed : Trimmed s) : trim s = s := by
  have front : s.dropWhile isWhitespace = s := by
    cases s with
    | nil => rfl
    | cons c rest =>
        have visible := trimmed.1 c rfl
        simp only [List.dropWhile, visible]
  rw [trim, front, List.rdropWhile_eq_self_iff]
  intro nonempty space
  have visible := trimmed.2 _ (List.getLast?_eq_some_getLast nonempty)
  rw [visible] at space
  cases space

theorem trimmed_of_forall {s : Str} (visible : forall c, c ∈ s -> isWhitespace c = false) :
    Trimmed s :=
  ⟨fun c first => visible c (List.mem_of_head? first),
    fun c last => visible c (List.mem_of_getLast? last)⟩

theorem trim_infix (s : Str) : trim s <:+: s :=
  (List.rdropWhile_prefix isWhitespace _).isInfix.trans (List.dropWhile_suffix isWhitespace).isInfix

/-- A part that is as long as the whole is the whole. -/
theorem eq_of_infix_of_len {part s : Str} (inside : part <:+: s) (size : len s ≤ len part) :
    part = s := by
  rcases inside with ⟨left, right, whole⟩
  rw [← whole, len_append, len_append] at size
  have noLeft : left = [] := len_eq_zero (by omega)
  have noRight : right = [] := len_eq_zero (by omega)
  rw [← whole, noLeft, noRight, List.nil_append, List.append_nil]

/-! ## Splitting -/

/-- `str::split` with a set of separator characters. -/
def split (separator : Char -> Bool) (s : Str) : List Str :=
  s.splitOnP separator

/-- `str::rsplit` with one separator character: the pieces from the last. -/
def rsplit (separator : Char) (s : Str) : List Str :=
  (split (fun c => c == separator) s).reverse

/-- `str::split_once` with one separator character. -/
def splitOnce (separator : Char) : Str -> Option (Str × Str)
  | [] => none
  | c :: rest =>
      if c = separator then some ([], rest)
      else (splitOnce separator rest).map (fun parts => (c :: parts.1, parts.2))

/-- A rendering of pieces in which every piece but the first is preceded by
its own separator. -/
def joinWith (first : Str) : List (Char × Str) -> Str
  | [] => first
  | (separator, next) :: rest => first ++ separator :: joinWith next rest

/-- A character of a rendering is one of its separators or stands in a piece. -/
theorem mem_joinWith {first : Str} {rest : List (Char × Str)} {c : Char}
    (member : c ∈ joinWith first rest) :
    c ∈ first ∨ Exists fun entry => entry ∈ rest ∧ (c = entry.1 ∨ c ∈ entry.2) := by
  induction rest generalizing first with
  | nil => exact Or.inl member
  | cons entry rest ih =>
      rcases List.mem_append.mp member with before | after
      · exact Or.inl before
      · rcases List.mem_cons.mp after with here | later
        · exact Or.inr ⟨entry, List.mem_cons_self, Or.inl here⟩
        · rcases ih later with next | found
          · exact Or.inr ⟨entry, List.mem_cons_self, Or.inr next⟩
          · rcases found with ⟨other, listed, held⟩
            exact Or.inr ⟨other, List.mem_cons_of_mem _ listed, held⟩

/-- Splitting recovers the pieces of a rendering, whichever separators of the
set were used, when no piece contains one. -/
theorem split_joinWith (separator : Char -> Bool) (first : Str) (rest : List (Char × Str))
    (clean : forall piece, piece ∈ first :: rest.map Prod.snd ->
      forall c, c ∈ piece -> separator c = false)
    (separators : forall entry, entry ∈ rest -> separator entry.1 = true) :
    split separator (joinWith first rest) = first :: rest.map Prod.snd := by
  induction rest generalizing first with
  | nil =>
      exact List.splitOnP_eq_singleton (clean first List.mem_cons_self)
  | cons entry rest ih =>
      rcases entry with ⟨mark, next⟩
      have here := clean first List.mem_cons_self
      have later := ih next (fun piece member => clean piece (List.mem_cons_of_mem _ member))
        (fun entry member => separators entry (List.mem_cons_of_mem _ member))
      rw [joinWith, split, List.splitOnP_append_cons_of_forall_mem here mark
        (separators (mark, next) List.mem_cons_self)]
      rw [split] at later
      rw [later, List.map_cons]

/-- The case of one separator. -/
theorem split_joinWith_same (separator : Char) (first : Str) (rest : List Str)
    (clean : forall piece, piece ∈ first :: rest -> separator ∉ piece) :
    split (fun c => c == separator) (joinWith first (rest.map (fun piece => (separator, piece)))) =
      first :: rest := by
  have pieces : (rest.map (fun piece => (separator, piece))).map Prod.snd = rest := by
    rw [List.map_map]
    exact List.map_id rest
  rw [split_joinWith, pieces]
  · intro piece member c inside
    rw [pieces] at member
    apply beq_eq_false_iff_ne.mpr
    rintro rfl
    exact clean piece member inside
  · intro entry member
    rcases List.mem_map.mp member with ⟨piece, _, same⟩
    rw [← same]
    exact beq_self_eq_true separator

theorem split_of_not_mem {separator : Char} {s : Str} (absent : separator ∉ s) :
    split (fun c => c == separator) s = [s] := by
  apply List.splitOnP_eq_singleton
  intro c member
  apply beq_eq_false_iff_ne.mpr
  intro same
  exact absent (same ▸ member)

/-- No piece contains the separator. -/
theorem not_mem_of_mem_split {separator : Char} {s piece : Str}
    (member : piece ∈ split (fun c => c == separator) s) : separator ∉ piece := by
  induction s generalizing piece with
  | nil =>
      rw [List.mem_singleton.mp member]
      exact List.not_mem_nil
  | cons c rest ih =>
      rw [split, List.splitOnP_cons_eq_if_modifyHead] at member
      by_cases same : c = separator
      · rw [if_pos (beq_iff_eq.mpr same)] at member
        rcases List.mem_cons.mp member with first | later
        · rw [first]
          exact List.not_mem_nil
        · exact ih later
      · rw [if_neg (fun equal => same (beq_iff_eq.mp equal))] at member
        cases pieces : rest.splitOnP (fun c => c == separator) with
        | nil => exact absurd pieces (List.splitOnP_ne_nil _ _)
        | cons head tail =>
            rw [pieces, List.modifyHead_cons] at member
            rw [split, pieces] at ih
            rcases List.mem_cons.mp member with first | later
            · rw [first, List.mem_cons, not_or]
              exact ⟨Ne.symm same, ih List.mem_cons_self⟩
            · exact ih (List.mem_cons_of_mem _ later)

/-- The last piece is what follows the last separator. -/
theorem rsplit_head? (separator : Char) (s : Str) :
    (rsplit separator s).head? = some (s.rtakeWhile (fun c => c != separator)) := by
  rw [rsplit, List.head?_reverse]
  by_cases found : separator ∈ s
  · rcases List.eq_append_cons_of_mem (List.mem_reverse.mpr found) with ⟨tail, head, whole, absent⟩
    have parts : s = head.reverse ++ separator :: tail.reverse := by
      rw [← List.reverse_reverse s, whole]
      simp only [List.reverse_append, List.reverse_cons, List.append_assoc, List.singleton_append]
    have kept : forall c, c ∈ tail -> (c != separator) = true := by
      intro c member
      apply bne_iff_ne.mpr
      intro same
      exact absent (same ▸ member)
    have last : split (fun c => c == separator) tail.reverse = [tail.reverse] :=
      split_of_not_mem (fun member => absent (List.mem_reverse.mp member))
    have pieces : split (fun c => c == separator) s =
        split (fun c => c == separator) head.reverse ++ [tail.reverse] := by
      rw [parts, ← last]
      exact List.splitOnP_append_cons _ _ (beq_self_eq_true separator)
    rw [pieces, parts, List.getLast?_append_of_ne_nil _ (List.cons_ne_nil _ _), List.getLast?_singleton,
      List.rtakeWhile]
    simp only [List.reverse_append, List.reverse_cons, List.reverse_reverse, List.append_assoc,
      List.singleton_append, List.takeWhile_append_of_pos kept, List.takeWhile_cons, bne_self_eq_false,
      Bool.false_eq_true, if_false, List.append_nil]
  · rw [split_of_not_mem found, List.getLast?_singleton, Option.some.injEq]
    symm
    apply List.rtakeWhile_eq_self_iff.mpr
    intro c member
    apply bne_iff_ne.mpr
    intro same
    exact found (same ▸ member)

theorem splitOnce_of_not_mem {separator : Char} {s : Str} (absent : separator ∉ s) :
    splitOnce separator s = none := by
  induction s with
  | nil => rfl
  | cons c rest ih =>
      have parts := not_or.mp (fun found => absent (List.mem_cons.mpr found))
      rw [splitOnce, if_neg (Ne.symm parts.1), ih parts.2, Option.map_none]

theorem splitOnce_append {separator : Char} {left : Str} (absent : separator ∉ left)
    (right : Str) : splitOnce separator (left ++ separator :: right) = some (left, right) := by
  induction left with
  | nil => simp only [List.nil_append, splitOnce, if_pos]
  | cons c left ih =>
      have parts := not_or.mp (fun found => absent (List.mem_cons.mpr found))
      rw [List.cons_append, splitOnce, if_neg (Ne.symm parts.1), ih parts.2, Option.map_some]

/-! ## Decimal numbers -/

/-- The digits of an unsigned integer literal without its optional plus sign. -/
def unsignedDigits : Str -> Str
  | '+' :: digits => digits
  | digits => digits

/-- `str::parse` for an unsigned integer type with values below `bound`. -/
def parseUnsigned (bound : Nat) (s : Str) : Option Nat :=
  let digits := unsignedDigits s
  if digits ≠ [] ∧ digits.all Char.isDigit = true then
    let value := Nat.ofDigitChars 10 digits 0
    if value < bound then some value else none
  else none

/-- `str::parse::<u8>` -/
def parseU8 (s : Str) : Option UInt8 :=
  (parseUnsigned 256 s).map UInt8.ofNat

/-- `str::parse::<u16>` -/
def parseU16 (s : Str) : Option UInt16 :=
  (parseUnsigned 65536 s).map UInt16.ofNat

/-- A number written in digits alone. -/
structure Numeral (s : Str) (n : Nat) : Prop where
  nonempty : s ≠ []
  digits : forall c, c ∈ s -> c.isDigit = true
  value : Nat.ofDigitChars 10 s 0 = n

/-- What parses is a number in range, with or without a plus sign. -/
theorem parseUnsigned_eq_some_iff (bound : Nat) (s : Str) (n : Nat) :
    parseUnsigned bound s = some n <-> Numeral (unsignedDigits s) n ∧ n < bound := by
  unfold parseUnsigned
  constructor
  · intro parsed
    by_cases written : unsignedDigits s ≠ [] ∧ (unsignedDigits s).all Char.isDigit = true
    · rw [if_pos written] at parsed
      by_cases inRange : Nat.ofDigitChars 10 (unsignedDigits s) 0 < bound
      · rw [if_pos inRange] at parsed
        cases parsed
        exact ⟨⟨written.1, List.all_eq_true.mp written.2, rfl⟩, inRange⟩
      · rw [if_neg inRange] at parsed
        cases parsed
    · rw [if_neg written] at parsed
      cases parsed
  · rintro ⟨⟨nonempty, digits, value⟩, inRange⟩
    rw [if_pos ⟨nonempty, List.all_eq_true.mpr digits⟩, value, if_pos inRange]

theorem Numeral.not_mem {s : Str} {n : Nat} (numeral : Numeral s n) {c : Char}
    (other : c.isDigit = false) : c ∉ s := by
  intro member
  rw [numeral.digits c member] at other
  cases other

/-- Digits alone have no plus sign to take off. -/
theorem unsignedDigits_of_digits {s : Str} (digits : forall c, c ∈ s -> c.isDigit = true) :
    unsignedDigits s = s := by
  unfold unsignedDigits
  split
  case h_1 rest => exact absurd (digits '+' List.mem_cons_self) (by decide)
  case h_2 => rfl

/-- A text in digits alone that parses is a number in range. -/
theorem numeral_of_parseUnsigned {s : Str} {n bound : Nat} (parsed : parseUnsigned bound s = some n)
    (digits : forall c, c ∈ s -> c.isDigit = true) : Numeral s n ∧ n < bound := by
  rw [parseUnsigned_eq_some_iff, unsignedDigits_of_digits digits] at parsed
  exact parsed

theorem Numeral.parse {s : Str} {n bound : Nat} (numeral : Numeral s n) (inRange : n < bound) :
    parseUnsigned bound s = some n := by
  rw [parseUnsigned_eq_some_iff, unsignedDigits_of_digits numeral.digits]
  exact ⟨numeral, inRange⟩

/-- The decimal form of a number, as `Display` prints it. -/
def decimal (n : Nat) : Str :=
  Nat.toDigits 10 n

theorem decimal_isDigit {n : Nat} {c : Char} (member : c ∈ decimal n) : c.isDigit = true :=
  Nat.isDigit_of_mem_toDigits (by omega) (by omega) member

theorem decimal_ne_nil (n : Nat) : decimal n ≠ [] :=
  Nat.toDigits_ne_nil

theorem numeral_decimal (n : Nat) : Numeral (decimal n) n where
  nonempty := decimal_ne_nil n
  digits := fun _ member => decimal_isDigit member
  value := Nat.ofDigitChars_ten_toDigits

/-- A decimal form contains digits only, so it is free of every other
character. -/
theorem not_mem_decimal {n : Nat} {c : Char} (other : c.isDigit = false) : c ∉ decimal n :=
  (numeral_decimal n).not_mem other

theorem parseUnsigned_decimal {bound n : Nat} (inRange : n < bound) :
    parseUnsigned bound (decimal n) = some n :=
  (numeral_decimal n).parse inRange

theorem parseU8_decimal (n : UInt8) : parseU8 (decimal n.toNat) = some n := by
  rw [parseU8, parseUnsigned_decimal n.toNat_lt, Option.map_some, UInt8.ofNat_toNat]

theorem parseU16_decimal (n : UInt16) : parseU16 (decimal n.toNat) = some n := by
  rw [parseU16, parseUnsigned_decimal n.toNat_lt, Option.map_some, UInt16.ofNat_toNat]

/-- `str::parse::<u32>` -/
def parseU32 (s : Str) : Option UInt32 :=
  (parseUnsigned 4294967296 s).map UInt32.ofNat

/-- `str::parse::<u64>` -/
def parseU64 (s : Str) : Option UInt64 :=
  (parseUnsigned 18446744073709551616 s).map UInt64.ofNat

theorem parseU32_decimal (n : UInt32) : parseU32 (decimal n.toNat) = some n := by
  rw [parseU32, parseUnsigned_decimal n.toNat_lt, Option.map_some, UInt32.ofNat_toNat]

theorem decimal_injective {n m : Nat} (same : decimal n = decimal m) : n = m := by
  have first := (numeral_decimal n).value
  rw [same, (numeral_decimal m).value] at first
  exact first.symm

def hexDigitValue (c : Char) : Option Nat :=
  if c.isDigit then some (c.toNat - 48)
  else if 97 ≤ c.toNat ∧ c.toNat ≤ 102 then some (c.toNat - 87)
  else if 65 ≤ c.toNat ∧ c.toNat ≤ 70 then some (c.toNat - 55)
  else none

def ofHexDigits (s : Str) : Option Nat :=
  s.foldlM (fun value c => (hexDigitValue c).map (fun digit => value * 16 + digit)) 0

/-- `u16::from_str_radix` in base 16. -/
def parseHexU16 (s : Str) : Option UInt16 :=
  let digits := unsignedDigits s
  if digits = [] then none
  else
    match ofHexDigits digits with
    | some value => if value < 65536 then some (UInt16.ofNat value) else none
    | none => none

/-- `str::split_whitespace` -/
def splitWhitespace (s : Str) : List Str :=
  (split isWhitespace s).filter (fun piece => piece != [])

end Text
end Foundation
