import ProxyBridge.Foundation.Text
import ProxyBridge.Foundation.Bytes

namespace Foundation
namespace Base64

open Text

/-!
# Base64

The standard encoding of bytes as text: three bytes make four characters of an
alphabet of 64, and one or two bytes at the end are filled up with `=`.  Decoding
an encoding returns the bytes, and an encoding has no characters but those of the
alphabet and the filler.
-/

def alphabet : Str :=
  "ABCDEFGHIJKLMNOPQRSTUVWXYZabcdefghijklmnopqrstuvwxyz0123456789+/".toList

/-- The character for a value below 64. -/
def digit (value : Nat) : Char :=
  alphabet.getD value '='

/-- The value of a character of the alphabet. -/
def digitValue (c : Char) : Option Nat :=
  alphabet.findIdx? (fun d => d == c)

theorem digitValue_digit {value : Nat} (small : value < 64) :
    digitValue (digit value) = some value := by
  have all : forall n : Fin 64, digitValue (digit n) = some n.val := by decide +kernel
  exact all ⟨value, small⟩

theorem digit_ne_filler {value : Nat} (small : value < 64) : digit value ≠ '=' := by
  have all : forall n : Fin 64, digit n ≠ '=' := by decide +kernel
  exact all ⟨value, small⟩

def encode : Octets -> Str
  | [] => []
  | [a] => [digit (a.toNat / 4), digit (a.toNat % 4 * 16), '=', '=']
  | [a, b] =>
      [digit (a.toNat / 4), digit (a.toNat % 4 * 16 + b.toNat / 16), digit (b.toNat % 16 * 4), '=']
  | a :: b :: c :: rest =>
      digit (a.toNat / 4) :: digit (a.toNat % 4 * 16 + b.toNat / 16) ::
        digit (b.toNat % 16 * 4 + c.toNat / 64) :: digit (c.toNat % 64) :: encode rest

/-- The bytes of four characters; a filler stands for the last one or two. -/
def decodeGroup (w x y z : Char) : Option Octets := do
  let first ← digitValue w
  let second ← digitValue x
  if y = '=' ∧ z = '=' then
    return [UInt8.ofNat (first * 4 + second / 16)]
  else do
    let third ← digitValue y
    if z = '=' then
      return [UInt8.ofNat (first * 4 + second / 16), UInt8.ofNat (second % 16 * 16 + third / 4)]
    else do
      let fourth ← digitValue z
      return [UInt8.ofNat (first * 4 + second / 16), UInt8.ofNat (second % 16 * 16 + third / 4),
        UInt8.ofNat (third % 4 * 64 + fourth)]

/-- Only the last four characters may contain a filler. -/
def decode : Str -> Option Octets
  | [] => some []
  | w :: x :: y :: z :: rest =>
      if rest ≠ [] ∧ z = '=' then none
      else do
        let group ← decodeGroup w x y z
        let tail ← decode rest
        return group ++ tail
  | _ => none

section Groups

variable {a b c : UInt8}

private theorem ofNat_eq {n : Nat} (same : n = a.toNat) : UInt8.ofNat n = a := by
  rw [same, UInt8.ofNat_toNat]

theorem decodeGroup_one :
    decodeGroup (digit (a.toNat / 4)) (digit (a.toNat % 4 * 16)) '=' '=' = some [a] := by
  have bound := a.toNat_lt
  rw [decodeGroup, digitValue_digit (by omega), digitValue_digit (by omega)]
  change some [UInt8.ofNat (a.toNat / 4 * 4 + a.toNat % 4 * 16 / 16)] = _
  rw [@ofNat_eq a _ (by omega)]

theorem decodeGroup_two :
    decodeGroup (digit (a.toNat / 4)) (digit (a.toNat % 4 * 16 + b.toNat / 16))
      (digit (b.toNat % 16 * 4)) '=' = some [a, b] := by
  have boundA := a.toNat_lt
  have boundB := b.toNat_lt
  have third : digit (b.toNat % 16 * 4) ≠ '=' := digit_ne_filler (by omega)
  rw [decodeGroup, digitValue_digit (by omega), digitValue_digit (by omega)]
  simp only [Option.bind_eq_bind, Option.bind_some, third, false_and, if_false, if_true,
    digitValue_digit (by omega : b.toNat % 16 * 4 < 64)]
  change some [UInt8.ofNat _, UInt8.ofNat _] = _
  rw [@ofNat_eq a _ (by omega), @ofNat_eq b _ (by omega)]

theorem decodeGroup_three :
    decodeGroup (digit (a.toNat / 4)) (digit (a.toNat % 4 * 16 + b.toNat / 16))
      (digit (b.toNat % 16 * 4 + c.toNat / 64)) (digit (c.toNat % 64)) = some [a, b, c] := by
  have boundA := a.toNat_lt
  have boundB := b.toNat_lt
  have boundC := c.toNat_lt
  have fourth : digit (c.toNat % 64) ≠ '=' := digit_ne_filler (by omega)
  rw [decodeGroup, digitValue_digit (by omega), digitValue_digit (by omega)]
  simp only [Option.bind_eq_bind, Option.bind_some, fourth, and_false, if_false,
    digitValue_digit (by omega : b.toNat % 16 * 4 + c.toNat / 64 < 64),
    digitValue_digit (by omega : c.toNat % 64 < 64)]
  change some [UInt8.ofNat _, UInt8.ofNat _, UInt8.ofNat _] = _
  rw [@ofNat_eq a _ (by omega), @ofNat_eq b _ (by omega), @ofNat_eq c _ (by omega)]

end Groups

/-- Decoding returns the bytes that were encoded. -/
theorem decode_encode (bytes : Octets) : decode (encode bytes) = some bytes := by
  induction bytes using encode.induct with
  | case1 => rfl
  | case2 a =>
      rw [encode, decode, if_neg (fun held => held.1 rfl), decodeGroup_one]
      rfl
  | case3 a b =>
      rw [encode, decode, if_neg (fun held => held.1 rfl), decodeGroup_two]
      rfl
  | case4 a b c rest ih =>
      have fourth : digit (c.toNat % 64) ≠ '=' := digit_ne_filler (Nat.mod_lt _ (by decide))
      rw [encode, decode, if_neg (fun held => fourth held.2), decodeGroup_three, ih]
      rfl

/-- The characters of an encoding are those of the alphabet and the filler. -/
theorem mem_encode {bytes : Octets} {c : Char} (member : c ∈ encode bytes) :
    c ∈ '=' :: alphabet := by
  have known : forall value, digit value ∈ '=' :: alphabet := by
    intro value
    by_cases small : value < alphabet.length
    · rw [digit, List.getD_eq_getElem _ _ small]
      exact List.mem_cons_of_mem _ (List.getElem_mem small)
    · rw [digit, List.getD_eq_default _ _ (Nat.le_of_not_lt small)]
      exact List.mem_cons_self
  induction bytes using encode.induct with
  | case1 => exact absurd member List.not_mem_nil
  | case2 a =>
      simp only [encode, List.mem_cons, List.not_mem_nil, or_false] at member
      rcases member with same | same | same | same
      · exact same ▸ known _
      · exact same ▸ known _
      · exact same ▸ List.mem_cons_self
      · exact same ▸ List.mem_cons_self
  | case3 a b =>
      simp only [encode, List.mem_cons, List.not_mem_nil, or_false] at member
      rcases member with same | same | same | same
      · exact same ▸ known _
      · exact same ▸ known _
      · exact same ▸ known _
      · exact same ▸ List.mem_cons_self
  | case4 a b d rest ih =>
      simp only [encode, List.mem_cons] at member
      rcases member with same | same | same | same | later
      · exact same ▸ known _
      · exact same ▸ known _
      · exact same ▸ known _
      · exact same ▸ known _
      · exact ih later

end Base64
end Foundation
