import ProxyBridge.Foundation.Bytes

namespace Foundation
namespace Netlink

open Octets

/-!
# Netlink messages

A message is a header of sixteen bytes and a payload.  The header starts with the
length of both and with the type of the message.  Messages follow one another at
multiples of four bytes, so the aligned length of one leads to the next, and the
padding between them belongs to neither.
-/

/-- The next multiple of four. -/
def align (length : Nat) : Nat :=
  (length + 3) / 4 * 4

theorem le_align (length : Nat) : length ≤ align length := by
  unfold align
  omega

/-- The fields of a header that lead through a buffer. -/
structure Header where
  length : UInt32
  kind : UInt16
  deriving DecidableEq

/-- The header at the front of the bytes, in the host's order. -/
def Header.decode (order : ByteOrder) (bytes : Octets) : Header where
  length := fromNeBytes order (bytes.take 4)
  kind := fromNeBytes16 order ((bytes.drop 4).take 2)

/-- Only the first sixteen bytes count. -/
theorem Header.decode_take (order : ByteOrder) (bytes : Octets) :
    Header.decode order (bytes.take 16) = Header.decode order bytes := by
  simp only [Header.decode, List.take_take, List.drop_take]
  rfl

/-- A message whose length fits into its header, with the padding behind it. -/
structure Message where
  kind : UInt16
  flags : UInt16
  sequence : UInt32
  portId : UInt32
  payload : Octets
  padding : Octets
  short : 16 + payload.length < 2 ^ 32
  padded : 16 + payload.length + padding.length = align (16 + payload.length)

namespace Message

variable (order : ByteOrder) (message : Message)

def length : UInt32 :=
  UInt32.ofNat (16 + message.payload.length)

def encodeHeader : Octets :=
  toNeBytes order message.length ++ toNeBytes16 order message.kind ++
    toNeBytes16 order message.flags ++ toNeBytes order message.sequence ++
    toNeBytes order message.portId

def encode : Octets :=
  message.encodeHeader order ++ (message.payload ++ message.padding)

theorem toNat_length : message.length.toNat = 16 + message.payload.length := by
  rw [length, UInt32.toNat_ofNat', Nat.mod_eq_of_lt message.short]

theorem length_encodeHeader : (message.encodeHeader order).length = 16 := by
  cases order with
  | little => rfl
  | big => rfl

/-- A message takes as many bytes as its aligned length says. -/
theorem length_encode : (message.encode order).length = align message.length.toNat := by
  rw [encode, List.length_append, length_encodeHeader, List.length_append, toNat_length,
    ← message.padded, Nat.add_assoc]

theorem le_length_encode : 16 + message.payload.length ≤ (message.encode order).length := by
  rw [length_encode, ← toNat_length]
  exact le_align _

theorem length_encode_pos : 0 < (message.encode order).length :=
  Nat.lt_of_lt_of_le (by omega) (message.le_length_encode order)

theorem decode_encodeHeader :
    Header.decode order (message.encodeHeader order) = ⟨message.length, message.kind⟩ := by
  have size : fromNeBytes order ((message.encodeHeader order).take 4) = message.length := by
    cases order with
    | little => exact fromNeBytes_toNeBytes .little message.length
    | big => exact fromNeBytes_toNeBytes .big message.length
  have kind : fromNeBytes16 order (((message.encodeHeader order).drop 4).take 2) =
      message.kind := by
    cases order with
    | little => exact fromNeBytes16_toNeBytes16 .little message.kind
    | big => exact fromNeBytes16_toNeBytes16 .big message.kind
  rw [Header.decode, size, kind]

end Message

/-- The bytes of messages that follow one another. -/
def encodeAll (order : ByteOrder) (messages : List Message) : Octets :=
  messages.flatMap (Message.encode order)

variable {order : ByteOrder} {before after : Octets} {message : Message}

/-- The header of a message with anything behind it. -/
theorem header_of_encode :
    Header.decode order (message.encode order ++ after) = ⟨message.length, message.kind⟩ := by
  rw [← Header.decode_take, Message.encode, List.append_assoc,
    List.take_left' (message.length_encodeHeader order), message.decode_encodeHeader]

/-- The header of a message that starts behind the bytes `before`. -/
theorem header_of_append :
    Header.decode order
      ((before ++ (message.encode order ++ after)).drop before.length) =
        ⟨message.length, message.kind⟩ := by
  rw [List.drop_left, header_of_encode]

/-- The front of its payload. -/
theorem payload_of_append {count : Nat} (inside : count ≤ message.payload.length) :
    ((before ++ (message.encode order ++ after)).drop (before.length + 16)).take count =
      message.payload.take count := by
  rw [← List.drop_drop, List.drop_left, Message.encode, List.append_assoc,
    List.drop_left' (message.length_encodeHeader order), List.append_assoc,
    List.take_append_of_le_length inside]

end Netlink
end Foundation
