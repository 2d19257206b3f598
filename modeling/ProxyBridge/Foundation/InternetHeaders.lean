import ProxyBridge.Foundation.Bytes

namespace Foundation
namespace InternetHeaders

/-!
# IPv4, TCP and UDP headers

The fixed fields of the headers, by their place in the list of bytes.  The
length of an IPv4 header is counted in words of four bytes; what exceeds five
words are options, and the segment of the transport layer follows them.  A
fragment other than the first carries no transport header.
-/

structure Ipv4 where
  version : Nat
  headerWords : Nat
  fragmentOffset : Nat
  protocol : UInt8
  source : Octets
  destination : Octets
  segment : Octets

/-- The IPv4 header at the front of a packet. -/
def decodeIpv4 : Octets -> Option Ipv4
  | versionIhl :: _ :: _ :: _ :: _ :: _ :: fragment0 :: fragment1 :: _ :: protocol :: _ :: _ ::
      s0 :: s1 :: s2 :: s3 :: d0 :: d1 :: d2 :: d3 :: rest =>
      some {
        version := versionIhl.toNat / 16
        headerWords := versionIhl.toNat % 16
        fragmentOffset := fragment0.toNat % 32 * 256 + fragment1.toNat
        protocol := protocol
        source := [s0, s1, s2, s3]
        destination := [d0, d1, d2, d3]
        segment := rest.drop (4 * (versionIhl.toNat % 16 - 5)) }
  | _ => none

/-- The packet is of version 4, its header has room for the fixed fields, and it
starts with a transport header. -/
structure Ipv4.Genuine (ip : Ipv4) : Prop where
  version : ip.version = 4
  words : 5 ≤ ip.headerWords
  first : ip.fragmentOffset = 0

/-- The segment starts where the header length says. -/
theorem segment_position {bytes : Octets} {ip : Ipv4} (decoded : decodeIpv4 bytes = some ip)
    (words : 5 ≤ ip.headerWords) (filled : ip.segment ≠ []) :
    Exists fun front => bytes = front ++ ip.segment ∧ front.length = 4 * ip.headerWords := by
  unfold decodeIpv4 at decoded
  split at decoded
  case h_1 v b1 b2 b3 b4 b5 b6 b7 b8 protocol b10 b11 s0 s1 s2 s3 d0 d1 d2 d3 rest =>
    cases decoded
    change 5 ≤ v.toNat % 16 at words
    change rest.drop (4 * (v.toNat % 16 - 5)) ≠ [] at filled
    have inside : 4 * (v.toNat % 16 - 5) < rest.length := by
      by_contra past
      exact filled (List.drop_eq_nil_of_le (Nat.not_lt.mp past))
    refine ⟨[v, b1, b2, b3, b4, b5, b6, b7, b8, protocol, b10, b11, s0, s1, s2, s3, d0, d1, d2,
      d3] ++ rest.take (4 * (v.toNat % 16 - 5)), ?_, ?_⟩
    · rw [List.append_assoc, List.take_append_drop]
      rfl
    · rw [List.length_append, List.length_take, Nat.min_eq_left (Nat.le_of_lt inside)]
      change 20 + 4 * (v.toNat % 16 - 5) = 4 * (v.toNat % 16)
      omega
  case h_2 => cases decoded

/-- The fields of a transport header that tell connections apart. -/
structure Transport where
  sourcePort : UInt16
  destinationPort : UInt16
  syn : Bool
  ack : Bool

/-- A TCP header has at least 20 bytes.  `SYN` is the second lowest of its
flags and `ACK` the fifth lowest. -/
def decodeTcp : Octets -> Option Transport
  | s0 :: s1 :: d0 :: d1 :: _ :: _ :: _ :: _ :: _ :: _ :: _ :: _ :: _ :: flags ::
      _ :: _ :: _ :: _ :: _ :: _ :: _ =>
      some {
        sourcePort := UInt16.ofNat (s0.toNat * 256 + s1.toNat)
        destinationPort := UInt16.ofNat (d0.toNat * 256 + d1.toNat)
        syn := flags.toNat.testBit 1
        ack := flags.toNat.testBit 4 }
  | _ => none

/-- A UDP header has eight bytes, and no flags. -/
def decodeUdp : Octets -> Option Transport
  | s0 :: s1 :: d0 :: d1 :: _ :: _ :: _ :: _ :: _ =>
      some {
        sourcePort := UInt16.ofNat (s0.toNat * 256 + s1.toNat)
        destinationPort := UInt16.ofNat (d0.toNat * 256 + d1.toNat)
        syn := false
        ack := false }
  | _ => none

end InternetHeaders
end Foundation
