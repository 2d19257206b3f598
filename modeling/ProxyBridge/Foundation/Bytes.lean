import Mathlib

namespace Foundation

/-- A sequence of bytes, as it stands in a buffer or on the wire. -/
abbrev Octets := List UInt8

namespace Octets

/-!
# Fixed-width fields of byte sequences

A slice that leaves the buffer aborts the program, so reading one is partial:
`slice` has no result there.  Two-byte fields are read and written most
significant byte first.  Fields are also read in the host's own byte order,
which the two constructors of `ByteOrder` keep apart.
-/

/-- The slice `buffer[first..last]`, absent when it is out of range. -/
def slice (buffer : Octets) (first last : Nat) : Option Octets :=
  if first ≤ last ∧ last ≤ buffer.length then some ((buffer.drop first).take (last - first))
  else none

theorem slice_of_le {buffer : Octets} {first last : Nat} (ordered : first ≤ last)
    (inside : last ≤ buffer.length) :
    slice buffer first last = some ((buffer.drop first).take (last - first)) :=
  if_pos ⟨ordered, inside⟩

/-- `u16::from_be_bytes` on a slice; only a slice of two bytes converts. -/
def fromBeBytes : Octets -> Option UInt16
  | [high, low] => some (UInt16.ofNat (high.toNat * 256 + low.toNat))
  | _ => none

/-- `u16::to_be_bytes` -/
def toBeBytes (x : UInt16) : Octets :=
  [UInt8.ofNat (x.toNat / 256), UInt8.ofNat (x.toNat % 256)]

theorem fromBeBytes_toBeBytes (x : UInt16) : fromBeBytes (toBeBytes x) = some x := by
  have bound := x.toNat_lt
  have high : x.toNat / 256 < 256 := by omega
  have low : x.toNat % 256 < 256 := by omega
  simp only [toBeBytes, fromBeBytes, UInt8.toNat_ofNat', Nat.reducePow, Nat.mod_eq_of_lt high,
    Nat.mod_eq_of_lt low, Nat.div_add_mod', UInt16.ofNat_toNat]

/-- Only two bytes are read as a number, and writing the number returns them. -/
theorem toBeBytes_of_fromBeBytes {bytes : Octets} {x : UInt16}
    (read : fromBeBytes bytes = some x) : toBeBytes x = bytes := by
  match bytes, read with
  | [high, low], read =>
      cases read
      have boundHigh := high.toNat_lt
      have boundLow := low.toNat_lt
      have whole : (UInt16.ofNat (high.toNat * 256 + low.toNat)).toNat =
          high.toNat * 256 + low.toNat := by
        rw [UInt16.toNat_ofNat', Nat.mod_eq_of_lt]
        omega
      have first : (high.toNat * 256 + low.toNat) / 256 = high.toNat := by omega
      have second : (high.toNat * 256 + low.toNat) % 256 = low.toNat := by omega
      rw [toBeBytes, whole, first, second, UInt8.ofNat_toNat, UInt8.ofNat_toNat]

/-- A two-byte slice inside the buffer always converts. -/
theorem exists_fromBeBytes_slice {buffer : Octets} {first : Nat}
    (inside : first + 2 ≤ buffer.length) :
    Exists fun x => (slice buffer first (first + 2)).bind fromBeBytes = some x := by
  rw [slice_of_le (by omega) inside, Option.bind_some]
  have size : ((buffer.drop first).take (first + 2 - first)).length = 2 := by
    rw [List.length_take, List.length_drop]
    omega
  rcases List.length_eq_two.mp size with ⟨high, low, same⟩
  rw [same]
  exact ⟨_, rfl⟩

inductive ByteOrder where
  | little
  | big
  deriving DecidableEq

/-- `u32::from_ne_bytes` on a slice; a slice of any other length reads as
four zero bytes. -/
def fromNeBytes (order : ByteOrder) : Octets -> UInt32
  | [b0, b1, b2, b3] =>
      match order with
      | .little => UInt32.ofNat
          (b0.toNat + b1.toNat * 256 + b2.toNat * 65536 + b3.toNat * 16777216)
      | .big => UInt32.ofNat
          (b3.toNat + b2.toNat * 256 + b1.toNat * 65536 + b0.toNat * 16777216)
  | _ => 0

/-- The byte at position `index` of a four-byte number, counted from the least
significant one. -/
def byteAt (x : UInt32) (index : Nat) : UInt8 :=
  UInt8.ofNat (x.toNat / 256 ^ index % 256)

/-- Shifting by whole bytes and masking extracts one byte. -/
theorem toUInt8_shiftRight (x : UInt32) (index : Nat) {shift : UInt32}
    (aligned : shift.toNat = 8 * index) (inside : index < 4) :
    ((x >>> shift) &&& 0xFF).toUInt8 = byteAt x index := by
  have mask : forall n : Nat, n &&& 255 = n % 256 := fun n => Nat.and_two_pow_sub_one_eq_mod n 8
  have whole : shift.toNat % 32 = 8 * index := by
    rw [aligned, Nat.mod_eq_of_lt (by omega)]
  apply UInt8.toNat_inj.mp
  rw [byteAt, UInt32.toNat_toUInt8, UInt32.toNat_and, UInt32.toNat_shiftRight, whole,
    Nat.shiftRight_eq_div_pow, Nat.pow_mul, UInt8.toNat_ofNat']
  change ((x.toNat / 256 ^ index) &&& 255) % 256 = _
  rw [mask]

theorem toUInt8_mask (x : UInt32) : (x &&& 0xFF).toUInt8 = byteAt x 0 := by
  have shifted := toUInt8_shiftRight x 0 (rfl : (0 : UInt32).toNat = 8 * 0) (by omega)
  rwa [UInt32.shiftRight_zero] at shifted

/-- `u32::to_ne_bytes` -/
def toNeBytes (order : ByteOrder) (x : UInt32) : Octets :=
  match order with
  | .little => [byteAt x 0, byteAt x 1, byteAt x 2, byteAt x 3]
  | .big => [byteAt x 3, byteAt x 2, byteAt x 1, byteAt x 0]

private theorem byteAt_ofNat (b0 b1 b2 b3 : UInt8) :
    let x := UInt32.ofNat (b0.toNat + b1.toNat * 256 + b2.toNat * 65536 + b3.toNat * 16777216)
    byteAt x 0 = b0 ∧ byteAt x 1 = b1 ∧ byteAt x 2 = b2 ∧ byteAt x 3 = b3 := by
  intro x
  have h0 := b0.toNat_lt
  have h1 := b1.toNat_lt
  have h2 := b2.toNat_lt
  have h3 := b3.toNat_lt
  have whole : x.toNat =
      b0.toNat + b1.toNat * 256 + b2.toNat * 65536 + b3.toNat * 16777216 := by
    rw [UInt32.toNat_ofNat', Nat.mod_eq_of_lt]
    omega
  have digit : forall (index : Nat) (b : UInt8),
      x.toNat / 256 ^ index % 256 = b.toNat -> byteAt x index = b := by
    intro index b same
    rw [byteAt, same, UInt8.ofNat_toNat]
  rw [whole] at digit
  refine ⟨digit 0 b0 ?_, digit 1 b1 ?_, digit 2 b2 ?_, digit 3 b3 ?_⟩ <;> omega

/-- Writing an address returns the bytes it was read from, on either host. -/
theorem toNeBytes_fromNeBytes (order : ByteOrder) (b0 b1 b2 b3 : UInt8) :
    toNeBytes order (fromNeBytes order [b0, b1, b2, b3]) = [b0, b1, b2, b3] := by
  cases order with
  | little =>
      rcases byteAt_ofNat b0 b1 b2 b3 with ⟨e0, e1, e2, e3⟩
      simp only [fromNeBytes, toNeBytes, e0, e1, e2, e3]
  | big =>
      rcases byteAt_ofNat b3 b2 b1 b0 with ⟨e0, e1, e2, e3⟩
      simp only [fromNeBytes, toNeBytes, e0, e1, e2, e3]

theorem toNeBytes_fromNeBytes_of_length (order : ByteOrder) {bytes : Octets}
    (four : bytes.length = 4) : toNeBytes order (fromNeBytes order bytes) = bytes := by
  match bytes, four with
  | [b0, b1, b2, b3], _ => exact toNeBytes_fromNeBytes order b0 b1 b2 b3

theorem toNat_byteAt (x : UInt32) (index : Nat) :
    (byteAt x index).toNat = x.toNat / 256 ^ index % 256 := by
  rw [byteAt, UInt8.toNat_ofNat', Nat.mod_mod]

/-- Reading an address returns the number that was written. -/
theorem fromNeBytes_toNeBytes (order : ByteOrder) (x : UInt32) :
    fromNeBytes order (toNeBytes order x) = x := by
  have bound := x.toNat_lt
  have digits : x.toNat / 256 ^ 0 % 256 + x.toNat / 256 ^ 1 % 256 * 256 +
      x.toNat / 256 ^ 2 % 256 * 65536 + x.toNat / 256 ^ 3 % 256 * 16777216 = x.toNat := by
    omega
  cases order with
  | little =>
      simp only [toNeBytes, fromNeBytes, toNat_byteAt]
      rw [digits, UInt32.ofNat_toNat]
  | big =>
      simp only [toNeBytes, fromNeBytes, toNat_byteAt]
      rw [digits, UInt32.ofNat_toNat]

/-- `u16::from_ne_bytes` on a slice; a slice of any other length reads as two
zero bytes. -/
def fromNeBytes16 (order : ByteOrder) : Octets -> UInt16
  | [b0, b1] =>
      match order with
      | .little => UInt16.ofNat (b0.toNat + b1.toNat * 256)
      | .big => UInt16.ofNat (b1.toNat + b0.toNat * 256)
  | _ => 0

/-- `u16::to_ne_bytes` -/
def toNeBytes16 (order : ByteOrder) (x : UInt16) : Octets :=
  match order with
  | .little => [UInt8.ofNat (x.toNat % 256), UInt8.ofNat (x.toNat / 256)]
  | .big => [UInt8.ofNat (x.toNat / 256), UInt8.ofNat (x.toNat % 256)]

/-- `u16::from_be`: the two bytes change places on a little-endian host. -/
def fromBe (order : ByteOrder) (x : UInt16) : UInt16 :=
  match order with
  | .little => UInt16.ofNat (x.toNat % 256 * 256 + x.toNat / 256)
  | .big => x

/-- `u16::to_be`, which is the same change of places. -/
def toBe (order : ByteOrder) (x : UInt16) : UInt16 :=
  fromBe order x

theorem fromNeBytes16_toNeBytes16 (order : ByteOrder) (x : UInt16) :
    fromNeBytes16 order (toNeBytes16 order x) = x := by
  have bound := x.toNat_lt
  have high : x.toNat / 256 < 256 := by omega
  have low : x.toNat % 256 < 256 := by omega
  have digits : x.toNat % 256 + x.toNat / 256 * 256 = x.toNat := by omega
  cases order with
  | little =>
      simp only [toNeBytes16, fromNeBytes16, UInt8.toNat_ofNat', Nat.reducePow,
        Nat.mod_eq_of_lt high, Nat.mod_eq_of_lt low, digits, UInt16.ofNat_toNat]
  | big =>
      simp only [toNeBytes16, fromNeBytes16, UInt8.toNat_ofNat', Nat.reducePow,
        Nat.mod_eq_of_lt high, Nat.mod_eq_of_lt low, digits, UInt16.ofNat_toNat]

/-- A number on the wire, read in the host's order and converted. -/
theorem fromBe_fromNeBytes16_toBeBytes (order : ByteOrder) (x : UInt16) :
    fromBe order (fromNeBytes16 order (toBeBytes x)) = x := by
  have bound := x.toNat_lt
  have high : x.toNat / 256 < 256 := by omega
  have low : x.toNat % 256 < 256 := by omega
  cases order with
  | little =>
      have swapped : (x.toNat / 256 + x.toNat % 256 * 256) % 256 * 256 +
          (x.toNat / 256 + x.toNat % 256 * 256) / 256 = x.toNat := by
        omega
      have small : x.toNat / 256 + x.toNat % 256 * 256 < 65536 := by omega
      simp only [toBeBytes, fromNeBytes16, fromBe, UInt8.toNat_ofNat', UInt16.toNat_ofNat',
        Nat.reducePow, Nat.mod_eq_of_lt high, Nat.mod_eq_of_lt low, Nat.mod_eq_of_lt small,
        swapped, UInt16.ofNat_toNat]
  | big => exact fromNeBytes16_toNeBytes16 .big x

/-- A converted number lies in memory as it goes over the wire. -/
theorem toNeBytes16_toBe (order : ByteOrder) (x : UInt16) :
    toNeBytes16 order (toBe order x) = toBeBytes x := by
  have bound := x.toNat_lt
  cases order with
  | little =>
      have small : x.toNat % 256 * 256 + x.toNat / 256 < 65536 := by omega
      have low : (x.toNat % 256 * 256 + x.toNat / 256) % 256 = x.toNat / 256 := by omega
      have high : (x.toNat % 256 * 256 + x.toNat / 256) / 256 = x.toNat % 256 := by omega
      simp only [toBeBytes, toNeBytes16, toBe, fromBe, UInt16.toNat_ofNat', Nat.reducePow,
        Nat.mod_eq_of_lt small, low, high]
  | big => rfl

theorem length_toNeBytes (order : ByteOrder) (x : UInt32) : (toNeBytes order x).length = 4 := by
  cases order with
  | little => rfl
  | big => rfl

theorem toNeBytes_injective (order : ByteOrder) : Function.Injective (toNeBytes order) := by
  intro x y same
  rw [← fromNeBytes_toNeBytes order x, same, fromNeBytes_toNeBytes]

/-! ## Fields behind their length -/

/-- A field behind a byte that holds its length, modulo 256. -/
def prefixed (field : Octets) : Octets :=
  UInt8.ofNat field.length :: field

/-- Read a field behind its length, and return what follows it. -/
def readPrefixed : Octets -> Option (Octets × Octets)
  | [] => none
  | count :: rest =>
      if count.toNat ≤ rest.length then some (rest.take count.toNat, rest.drop count.toNat)
      else none

theorem readPrefixed_prefixed {field : Octets} (short : field.length ≤ 255) (rest : Octets) :
    readPrefixed (prefixed field ++ rest) = some (field, rest) := by
  have count : (UInt8.ofNat field.length).toNat = field.length := by
    rw [UInt8.toNat_ofNat', Nat.mod_eq_of_lt (by omega)]
  have inside : field.length ≤ (field ++ rest).length := by
    rw [List.length_append]
    exact Nat.le_add_right _ _
  rw [prefixed, List.cons_append, readPrefixed, count, if_pos inside, List.take_left,
    List.drop_left]

/-- Only a field of at most 255 bytes can be read. -/
theorem length_of_readPrefixed {bytes field rest : Octets}
    (found : readPrefixed bytes = some (field, rest)) : field.length ≤ 255 := by
  cases bytes with
  | nil => cases found
  | cons count tail =>
      have bound := count.toNat_lt
      by_cases inside : count.toNat ≤ tail.length
      · have parts := (if_pos inside).symm.trans found
        cases parts
        rw [List.length_take]
        omega
      · cases (if_neg inside).symm.trans found

end Octets
end Foundation
