import ProxyBridge.Foundation.Text
import ProxyBridge.Foundation.Bytes

namespace Foundation
namespace Utf8

open Text

/-!
# UTF-8

Strings go out as UTF-8, and bytes that come in are read as UTF-8 with every
ill-formed piece replaced by U+FFFD.  A piece is a longest beginning of some
well-formed sequence, or a single byte that begins none, so one replacement
character can stand for one, two or three bytes, and takes three bytes itself.
Byte offsets therefore agree before and after decoding only as long as nothing
has been replaced.
-/

/-- `str::as_bytes` -/
def asBytes (s : Str) : Octets :=
  s.flatMap String.utf8EncodeChar

theorem length_asBytes (s : Str) : (asBytes s).length = len s := by
  induction s with
  | nil => rfl
  | cons c s ih =>
      change (String.utf8EncodeChar c ++ asBytes s).length = c.utf8Size + len s
      rw [List.length_append, String.length_utf8EncodeChar, ih]

/-- U+FFFD, the replacement character. -/
def replacement : Char :=
  Char.ofNat 0xFFFD

def isContinuation (b : UInt8) : Bool :=
  0x80 ≤ b && b ≤ 0xBF

/-- The second bytes that may follow a lead byte of a three-byte sequence. -/
def isSecondOfThree (lead second : UInt8) : Bool :=
  if lead = 0xE0 then 0xA0 ≤ second && second ≤ 0xBF
  else if lead = 0xED then 0x80 ≤ second && second ≤ 0x9F
  else isContinuation second

/-- The second bytes that may follow a lead byte of a four-byte sequence. -/
def isSecondOfFour (lead second : UInt8) : Bool :=
  if lead = 0xF0 then 0x90 ≤ second && second ≤ 0xBF
  else if lead = 0xF4 then 0x80 ≤ second && second ≤ 0x8F
  else isContinuation second

def decodeTwo (b0 b1 : UInt8) : Char :=
  Char.ofNat (b0.toNat % 32 * 64 + b1.toNat % 64)

def decodeThree (b0 b1 b2 : UInt8) : Char :=
  Char.ofNat (b0.toNat % 16 * 4096 + b1.toNat % 64 * 64 + b2.toNat % 64)

def decodeFour (b0 b1 b2 b3 : UInt8) : Char :=
  Char.ofNat
    (b0.toNat % 8 * 262144 + b1.toNat % 64 * 4096 + b2.toNat % 64 * 64 + b3.toNat % 64)

/-- `String::from_utf8_lossy` -/
def fromUtf8Lossy : Octets -> Str
  | [] => []
  | b0 :: rest =>
      if b0 < 0x80 then Char.ofNat b0.toNat :: fromUtf8Lossy rest
      else if 0xC2 ≤ b0 ∧ b0 ≤ 0xDF then
        match rest with
        | [] => [replacement]
        | b1 :: rest =>
            if isContinuation b1 then decodeTwo b0 b1 :: fromUtf8Lossy rest
            else replacement :: fromUtf8Lossy (b1 :: rest)
      else if 0xE0 ≤ b0 ∧ b0 ≤ 0xEF then
        match rest with
        | [] => [replacement]
        | b1 :: rest =>
            if isSecondOfThree b0 b1 then
              match rest with
              | [] => [replacement]
              | b2 :: rest =>
                  if isContinuation b2 then decodeThree b0 b1 b2 :: fromUtf8Lossy rest
                  else replacement :: fromUtf8Lossy (b2 :: rest)
            else replacement :: fromUtf8Lossy (b1 :: rest)
      else if 0xF0 ≤ b0 ∧ b0 ≤ 0xF4 then
        match rest with
        | [] => [replacement]
        | b1 :: rest =>
            if isSecondOfFour b0 b1 then
              match rest with
              | [] => [replacement]
              | b2 :: rest =>
                  if isContinuation b2 then
                    match rest with
                    | [] => [replacement]
                    | b3 :: rest =>
                        if isContinuation b3 then decodeFour b0 b1 b2 b3 :: fromUtf8Lossy rest
                        else replacement :: fromUtf8Lossy (b3 :: rest)
                  else replacement :: fromUtf8Lossy (b2 :: rest)
            else replacement :: fromUtf8Lossy (b1 :: rest)
      else replacement :: fromUtf8Lossy rest

/-- A byte below 128 is the character with that code, whatever follows. -/
theorem fromUtf8Lossy_ascii {b : UInt8} (ascii : b < 0x80) (rest : Octets) :
    fromUtf8Lossy (b :: rest) = Char.ofNat b.toNat :: fromUtf8Lossy rest := by
  exact (fromUtf8Lossy.eq_def (b :: rest)).trans (if_pos ascii)

/-- Two bytes that form a well-formed sequence. -/
def IsPair (b0 b1 : UInt8) : Prop :=
  (0xC2 ≤ b0 ∧ b0 ≤ 0xDF) ∧ isContinuation b1 = true

theorem fromUtf8Lossy_pair {b0 b1 : UInt8} (pair : IsPair b0 b1) (rest : Octets) :
    fromUtf8Lossy (b0 :: b1 :: rest) = decodeTwo b0 b1 :: fromUtf8Lossy rest := by
  have high : Not (b0 < 0x80) := by
    have low := UInt8.le_iff_toNat_le.mp pair.1.1
    intro small
    have up := UInt8.lt_iff_toNat_lt.mp small
    change 194 ≤ b0.toNat at low
    change b0.toNat < 128 at up
    omega
  have lead := (fromUtf8Lossy.eq_def (b0 :: b1 :: rest)).trans
    ((if_neg high).trans (if_pos pair.1))
  exact lead.trans (if_pos pair.2)

theorem toNat_ofNat_of_lt {n : Nat} (small : n < 0xD800) : (Char.ofNat n).toNat = n := by
  rw [Char.toNat_ofNat, if_pos (Or.inl small)]

theorem three_le_utf8Size {c : Char} (large : 0x7FF < c.toNat) : 3 ≤ c.utf8Size := by
  have notOne : c.utf8Size ≠ 1 := by
    intro one
    have small := UInt32.le_iff_toNat_le.mp (Char.utf8Size_eq_one_iff.mp one)
    change c.toNat ≤ 127 at small
    omega
  have notTwo : c.utf8Size ≠ 2 := by
    intro two
    have small := UInt32.le_iff_toNat_le.mp (Char.utf8Size_eq_two_iff.mp two).2
    change c.toNat ≤ 2047 at small
    omega
  have positive := c.utf8Size_pos
  omega

theorem utf8Size_replacement : 3 ≤ replacement.utf8Size :=
  three_le_utf8Size (by decide)

theorem isContinuation_toNat {b : UInt8} (held : isContinuation b = true) :
    128 ≤ b.toNat ∧ b.toNat ≤ 191 := by
  simp only [isContinuation, Bool.and_eq_true, decide_eq_true_eq, UInt8.le_iff_toNat_le] at held
  exact held

theorem utf8Size_decodeTwo {b0 b1 : UInt8} (pair : IsPair b0 b1) :
    (decodeTwo b0 b1).utf8Size = 2 := by
  have low : 194 ≤ b0.toNat := UInt8.le_iff_toNat_le.mp pair.1.1
  have high : b0.toNat ≤ 223 := UInt8.le_iff_toNat_le.mp pair.1.2
  have value : (decodeTwo b0 b1).toNat = b0.toNat % 32 * 64 + b1.toNat % 64 :=
    toNat_ofNat_of_lt (by omega)
  apply Char.utf8Size_eq_two_iff.mpr
  rw [UInt32.lt_iff_toNat_lt, UInt32.le_iff_toNat_le]
  change 127 < (decodeTwo b0 b1).toNat ∧ (decodeTwo b0 b1).toNat ≤ 2047
  omega

theorem utf8Size_decodeThree {b0 b1 : UInt8} (b2 : UInt8) (lead : 0xE0 ≤ b0 ∧ b0 ≤ 0xEF)
    (second : isSecondOfThree b0 b1 = true) : 3 ≤ (decodeThree b0 b1 b2).utf8Size := by
  have low : 224 ≤ b0.toNat := UInt8.le_iff_toNat_le.mp lead.1
  have high : b0.toNat ≤ 239 := UInt8.le_iff_toNat_le.mp lead.2
  have bound := b1.toNat_lt
  let value := b0.toNat % 16 * 4096 + b1.toNat % 64 * 64 + b2.toNat % 64
  have scalar : 0x7FF < value ∧ (value < 0xD800 ∨ 0xDFFF < value ∧ value < 0x110000) := by
    unfold isSecondOfThree at second
    split at second
    case isTrue first =>
      simp only [Bool.and_eq_true, decide_eq_true_eq, UInt8.le_iff_toNat_le] at second
      have start : b0.toNat = 224 := congrArg UInt8.toNat first
      have from160 : 160 ≤ b1.toNat := second.1
      have to191 : b1.toNat ≤ 191 := second.2
      omega
    case isFalse notFirst =>
      have notStart : b0.toNat ≠ 224 := fun same => notFirst (UInt8.toNat_inj.mp same)
      split at second
      case isTrue last =>
        simp only [Bool.and_eq_true, decide_eq_true_eq, UInt8.le_iff_toNat_le] at second
        have start : b0.toNat = 237 := congrArg UInt8.toNat last
        have to159 : b1.toNat ≤ 159 := second.2
        have from128 : 128 ≤ b1.toNat := second.1
        omega
      case isFalse notLast =>
        have notEnd : b0.toNat ≠ 237 := fun same => notLast (UInt8.toNat_inj.mp same)
        have continued := isContinuation_toNat second
        omega
  have code : (decodeThree b0 b1 b2).toNat = value := by
    rw [decodeThree, Char.toNat_ofNat, if_pos]
    exact scalar.2
  exact three_le_utf8Size (by rw [code]; exact scalar.1)

theorem utf8Size_decodeFour {b0 b1 : UInt8} (b2 b3 : UInt8) (lead : 0xF0 ≤ b0 ∧ b0 ≤ 0xF4)
    (second : isSecondOfFour b0 b1 = true) : 3 ≤ (decodeFour b0 b1 b2 b3).utf8Size := by
  have low : 240 ≤ b0.toNat := UInt8.le_iff_toNat_le.mp lead.1
  have high : b0.toNat ≤ 244 := UInt8.le_iff_toNat_le.mp lead.2
  let value := b0.toNat % 8 * 262144 + b1.toNat % 64 * 4096 + b2.toNat % 64 * 64 + b3.toNat % 64
  have scalar : 0xFFFF < value ∧ value < 0x110000 := by
    unfold isSecondOfFour at second
    split at second
    case isTrue first =>
      simp only [Bool.and_eq_true, decide_eq_true_eq, UInt8.le_iff_toNat_le] at second
      have start : b0.toNat = 240 := congrArg UInt8.toNat first
      have from144 : 144 ≤ b1.toNat := second.1
      have to191 : b1.toNat ≤ 191 := second.2
      omega
    case isFalse notFirst =>
      have notStart : b0.toNat ≠ 240 := fun same => notFirst (UInt8.toNat_inj.mp same)
      split at second
      case isTrue last =>
        simp only [Bool.and_eq_true, decide_eq_true_eq, UInt8.le_iff_toNat_le] at second
        have start : b0.toNat = 244 := congrArg UInt8.toNat last
        have from128 : 128 ≤ b1.toNat := second.1
        have to143 : b1.toNat ≤ 143 := second.2
        omega
      case isFalse notLast =>
        have notEnd : b0.toNat ≠ 244 := fun same => notLast (UInt8.toNat_inj.mp same)
        have continued := isContinuation_toNat second
        omega
  have code : (decodeFour b0 b1 b2 b3).toNat = value := by
    rw [decodeFour, Char.toNat_ofNat, if_pos]
    exact Or.inr ⟨by omega, scalar.2⟩
  exact three_le_utf8Size (by omega)

/-- A byte from 128 on begins a well-formed pair, or its first character takes
three bytes or more. -/
theorem fromUtf8Lossy_high {b0 : UInt8} (high : Not (b0 < 0x80)) (rest : Octets) :
    (Exists fun b1 => Exists fun tail => rest = b1 :: tail ∧ IsPair b0 b1) ∨
      Exists fun c => Exists fun tail => fromUtf8Lossy (b0 :: rest) = c :: tail ∧ 3 ≤ c.utf8Size := by
  have body := (fromUtf8Lossy.eq_def (b0 :: rest)).trans (if_neg high)
  by_cases two : 0xC2 ≤ b0 ∧ b0 ≤ 0xDF
  · have body := body.trans (if_pos two)
    cases rest with
    | nil => exact Or.inr ⟨_, _, body, utf8Size_replacement⟩
    | cons b1 rest =>
        by_cases continued : isContinuation b1 = true
        · exact Or.inl ⟨b1, rest, rfl, two, continued⟩
        · exact Or.inr ⟨_, _, body.trans (if_neg continued), utf8Size_replacement⟩
  · have body := body.trans (if_neg two)
    apply Or.inr
    by_cases three : 0xE0 ≤ b0 ∧ b0 ≤ 0xEF
    · have body := body.trans (if_pos three)
      cases rest with
      | nil => exact ⟨_, _, body, utf8Size_replacement⟩
      | cons b1 rest =>
          by_cases second : isSecondOfThree b0 b1 = true
          · have body := body.trans (if_pos second)
            cases rest with
            | nil => exact ⟨_, _, body, utf8Size_replacement⟩
            | cons b2 rest =>
                by_cases third : isContinuation b2 = true
                · exact ⟨_, _, body.trans (if_pos third), utf8Size_decodeThree b2 three second⟩
                · exact ⟨_, _, body.trans (if_neg third), utf8Size_replacement⟩
          · exact ⟨_, _, body.trans (if_neg second), utf8Size_replacement⟩
    · have body := body.trans (if_neg three)
      by_cases four : 0xF0 ≤ b0 ∧ b0 ≤ 0xF4
      · have body := body.trans (if_pos four)
        cases rest with
        | nil => exact ⟨_, _, body, utf8Size_replacement⟩
        | cons b1 rest =>
            by_cases second : isSecondOfFour b0 b1 = true
            · have body := body.trans (if_pos second)
              cases rest with
              | nil => exact ⟨_, _, body, utf8Size_replacement⟩
              | cons b2 rest =>
                  by_cases third : isContinuation b2 = true
                  · have body := body.trans (if_pos third)
                    cases rest with
                    | nil => exact ⟨_, _, body, utf8Size_replacement⟩
                    | cons b3 rest =>
                        by_cases last : isContinuation b3 = true
                        · exact ⟨_, _, body.trans (if_pos last),
                            utf8Size_decodeFour b2 b3 four second⟩
                        · exact ⟨_, _, body.trans (if_neg last), utf8Size_replacement⟩
                  · exact ⟨_, _, body.trans (if_neg third), utf8Size_replacement⟩
            · exact ⟨_, _, body.trans (if_neg second), utf8Size_replacement⟩
      · exact ⟨_, _, body.trans (if_neg four), utf8Size_replacement⟩

/-! ## ASCII words -/

theorem asBytes_cons {c : Char} (ascii : c.toNat < 128) (word : Str) :
    asBytes (c :: word) = UInt8.ofNat c.toNat :: asBytes word := by
  rw [asBytes, List.flatMap_cons, String.utf8EncodeChar_eq_singleton (utf8Size_of_ascii ascii)]
  rfl

theorem asBytes_append (left right : Str) : asBytes (left ++ right) = asBytes left ++ asBytes right :=
  List.flatMap_append

theorem asBytes_ascii {word : Str} (ascii : forall c, c ∈ word -> c.toNat < 128) :
    asBytes word = word.map (fun c => UInt8.ofNat c.toNat) := by
  induction word with
  | nil => rfl
  | cons c word ih =>
      rw [asBytes_cons (ascii c List.mem_cons_self), List.map_cons,
        ih (fun d member => ascii d (List.mem_cons_of_mem c member))]

/-- A byte below 128 is never part of a longer sequence. -/
theorem mem_asBytes_low {s : Str} {b : UInt8} (member : b ∈ asBytes s) (low : b < 0x80) :
    Char.ofNat b.toNat ∈ s := by
  have bound : b.toNat < 128 := UInt8.lt_iff_toNat_lt.mp low
  rcases List.mem_flatMap.mp member with ⟨c, listed, encoded⟩
  by_cases ascii : c.toNat < 128
  · rw [String.utf8EncodeChar_eq_singleton (utf8Size_of_ascii ascii)] at encoded
    have same : b.toNat = c.toNat := by
      rw [List.mem_singleton.mp encoded]
      change c.toNat % 256 = c.toNat
      omega
    rw [same, Char.ofNat_toNat]
    exact listed
  · have large : forall n : Nat, 128 ≤ n % 256 -> b = UInt8.ofNat n -> False := by
      intro n high same
      rw [same, UInt8.toNat_ofNat'] at bound
      omega
    change Not (c.val.toNat < 128) at ascii
    exfalso
    unfold String.utf8EncodeChar at encoded
    simp only [] at encoded
    split_ifs at encoded with one two three
    · omega
    · simp only [List.mem_cons, List.not_mem_nil, or_false] at encoded
      rcases encoded with same | same
      · exact large _ (by omega) same
      · exact large _ (by omega) same
    · simp only [List.mem_cons, List.not_mem_nil, or_false] at encoded
      rcases encoded with same | same | same
      · exact large _ (by omega) same
      · exact large _ (by omega) same
      · exact large _ (by omega) same
    · simp only [List.mem_cons, List.not_mem_nil, or_false] at encoded
      rcases encoded with same | same | same | same
      · exact large _ (by omega) same
      · exact large _ (by omega) same
      · exact large _ (by omega) same
      · exact large _ (by omega) same

/-- An ASCII word is decoded to itself, whatever follows. -/
theorem fromUtf8Lossy_asBytes_append {word : Str} (ascii : forall c, c ∈ word -> c.toNat < 128)
    (rest : Octets) : fromUtf8Lossy (asBytes word ++ rest) = word ++ fromUtf8Lossy rest := by
  induction word with
  | nil => rfl
  | cons c word ih =>
      have small : c.toNat < 128 := ascii c List.mem_cons_self
      have code : (UInt8.ofNat c.toNat).toNat = c.toNat := by
        rw [UInt8.toNat_ofNat', Nat.mod_eq_of_lt]
        omega
      have low : UInt8.ofNat c.toNat < 0x80 := by
        rw [UInt8.lt_iff_toNat_lt, code]
        exact small
      rw [asBytes_cons small, List.cons_append, fromUtf8Lossy_ascii low, code, Char.ofNat_toNat,
        ih (fun d member => ascii d (List.mem_cons_of_mem _ member)), List.cons_append]

/-- A decoded ASCII character comes from the byte with its code. -/
theorem fromUtf8Lossy_eq_cons {bytes : Octets} {c : Char} {tail : Str}
    (decoded : fromUtf8Lossy bytes = c :: tail) (ascii : c.toNat < 128) :
    Exists fun rest => bytes = UInt8.ofNat c.toNat :: rest ∧ fromUtf8Lossy rest = tail := by
  have one := utf8Size_of_ascii ascii
  cases bytes with
  | nil => cases decoded
  | cons b rest =>
      by_cases low : b < 0x80
      · rw [fromUtf8Lossy_ascii low] at decoded
        have parts := List.cons.inj decoded
        have small : b.toNat < 128 := UInt8.lt_iff_toNat_lt.mp low
        have code : c.toNat = b.toNat := by
          rw [← parts.1]
          exact toNat_ofNat_of_lt (by omega)
        refine ⟨rest, ?_, parts.2⟩
        rw [code, UInt8.ofNat_toNat]
      · rcases fromUtf8Lossy_high low rest with pair | wide
        · rcases pair with ⟨b1, more, same, pair⟩
          rw [same, fromUtf8Lossy_pair pair] at decoded
          have two := utf8Size_decodeTwo pair
          rw [(List.cons.inj decoded).1] at two
          omega
        · rcases wide with ⟨d, more, first, size⟩
          rw [first] at decoded
          rw [(List.cons.inj decoded).1] at size
          omega

/-- A decoded ASCII word comes from the bytes of the word. -/
theorem fromUtf8Lossy_eq_append {word tail : Str} {bytes : Octets}
    (ascii : forall c, c ∈ word -> c.toNat < 128) (decoded : fromUtf8Lossy bytes = word ++ tail) :
    Exists fun rest => bytes = asBytes word ++ rest ∧ fromUtf8Lossy rest = tail := by
  induction word generalizing bytes with
  | nil => exact ⟨bytes, rfl, decoded⟩
  | cons c word ih =>
      have small : c.toNat < 128 := ascii c List.mem_cons_self
      rcases fromUtf8Lossy_eq_cons decoded small with ⟨rest, same, later⟩
      rcases ih (fun d member => ascii d (List.mem_cons_of_mem _ member)) later with
        ⟨final, inner, held⟩
      refine ⟨final, ?_, held⟩
      rw [same, inner, asBytes_cons small, List.cons_append]

/-- A decoded character of one or two bytes comes from as many bytes, which mean
the same whatever follows them. -/
theorem fromUtf8Lossy_eq_cons_narrow {c : Char} {tail : Str} {bytes : Octets}
    (narrow : c.utf8Size ≤ 2) (decoded : fromUtf8Lossy bytes = c :: tail) :
    Exists fun block => Exists fun rest => bytes = block ++ rest ∧ block.length = c.utf8Size ∧
      fromUtf8Lossy rest = tail ∧
      forall other, fromUtf8Lossy (block ++ other) = c :: fromUtf8Lossy other := by
  cases bytes with
  | nil => cases decoded
  | cons b rest =>
      by_cases low : b < 0x80
      · have first := fromUtf8Lossy_ascii low
        rw [first] at decoded
        have parts := List.cons.inj decoded
        have small : b.toNat < 128 := UInt8.lt_iff_toNat_lt.mp low
        have one : c.utf8Size = 1 := by
          apply utf8Size_of_ascii
          rw [← parts.1, toNat_ofNat_of_lt (by omega)]
          exact small
        refine ⟨[b], rest, rfl, one.symm, parts.2, ?_⟩
        intro other
        rw [← parts.1]
        exact first other
      · rcases fromUtf8Lossy_high low rest with pair | wide
        · rcases pair with ⟨b1, more, same, pair⟩
          rw [same, fromUtf8Lossy_pair pair] at decoded
          have parts := List.cons.inj decoded
          have two := utf8Size_decodeTwo pair
          rw [parts.1] at two
          refine ⟨[b, b1], more, by rw [same]; rfl, two.symm, parts.2, ?_⟩
          intro other
          rw [← parts.1]
          exact fromUtf8Lossy_pair pair other
        · rcases wide with ⟨d, more, first, size⟩
          rw [first] at decoded
          rw [(List.cons.inj decoded).1] at size
          omega

/-- Decoded text without characters of three bytes comes from as many bytes,
which mean the same whatever follows them. -/
theorem fromUtf8Lossy_eq_append_narrow {text tail : Str} {bytes : Octets}
    (narrow : forall c, c ∈ text -> c.utf8Size ≤ 2) (decoded : fromUtf8Lossy bytes = text ++ tail) :
    Exists fun block => Exists fun rest => bytes = block ++ rest ∧ block.length = len text ∧
      fromUtf8Lossy rest = tail ∧
      forall other, fromUtf8Lossy (block ++ other) = text ++ fromUtf8Lossy other := by
  induction text generalizing bytes with
  | nil => exact ⟨[], bytes, rfl, rfl, decoded, fun _ => rfl⟩
  | cons c text ih =>
      rcases fromUtf8Lossy_eq_cons_narrow (narrow c List.mem_cons_self) decoded with
        ⟨block, rest, same, size, later, meaning⟩
      rcases ih (fun d member => narrow d (List.mem_cons_of_mem c member)) later with
        ⟨others, final, sameRest, sizeRest, held, meaningRest⟩
      refine ⟨block ++ others, final, ?_, ?_, held, ?_⟩
      · rw [same, sameRest, List.append_assoc]
      · rw [List.length_append, size, sizeRest, len_cons]
      · intro other
        rw [List.append_assoc, meaning, meaningRest, List.cons_append]

end Utf8
end Foundation
