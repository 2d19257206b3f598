import ProxyBridge.Foundation.Netlink
import ProxyBridge.Linux.ProcScan

namespace ProxyBridge

open Foundation Netlink Octets

/-!
# The socket dump of the kernel

The inode of a socket is taken from a dump that the kernel sends over netlink.
The answers arrive in a buffer that is reused from one receive to the next, and
the messages in it are visited one after the other, each leading to the next by
its own length.

A message is read through a pointer into the buffer, without regard to how many
bytes were received.  The model records which bytes each message header and body
covers; one that leaves the buffer has no value.  Offsets are `usize` on a 64-bit
host, where the sums below do not overflow.
-/

def sockDiagByFamily : UInt16 := 20

def nlmsgError : UInt16 := 2

def nlmsgDone : UInt16 := 3

/-- The states asked for: all for UDP, `SYN_SENT` and `ESTABLISHED` for TCP. -/
def requestStates (isUdp : Bool) : UInt32 :=
  if isUdp then 0xFFFFFFFF else ((1 : UInt32) <<< 2) ||| ((1 : UInt32) <<< 3)

/-- `NlRequest`: a header that asks for a dump, and `InetDiagReqV2` with a socket
identity of 48 zero bytes. -/
def nlRequest (order : ByteOrder) (isUdp : Bool) : Octets :=
  toNeBytes order 72 ++ toNeBytes16 order sockDiagByFamily ++ toNeBytes16 order (0x1 ||| 0x300) ++
    toNeBytes order 0 ++ toNeBytes order 0 ++ [2, if isUdp then 17 else 6, 0, 0] ++
    toNeBytes order (requestStates isUdp) ++ List.replicate 48 0

structure InetDiagSockId where
  idiagSport : UInt16
  idiagDport : UInt16
  idiagSrc : Fin 4 -> UInt32
  idiagDst : Fin 4 -> UInt32
  idiagIf : UInt32
  idiagCookie : Fin 2 -> UInt32

structure InetDiagMsg where
  idiagFamily : UInt8
  idiagState : UInt8
  idiagTimer : UInt8
  idiagRetrans : UInt8
  id : InetDiagSockId
  idiagExpires : UInt32
  idiagRqueue : UInt32
  idiagWqueue : UInt32
  idiagUid : UInt32
  idiagInode : UInt32

/-- The 72 bytes of the structure, in the host's order. -/
def InetDiagMsg.decode (order : ByteOrder) (bytes : Octets) : InetDiagMsg :=
  let byte := fun first => bytes.getD first 0
  let half := fun first => fromNeBytes16 order ((bytes.drop first).take 2)
  let word := fun first => fromNeBytes order ((bytes.drop first).take 4)
  { idiagFamily := byte 0
    idiagState := byte 1
    idiagTimer := byte 2
    idiagRetrans := byte 3
    id := {
      idiagSport := half 4
      idiagDport := half 6
      idiagSrc := fun index => word (8 + 4 * index)
      idiagDst := fun index => word (24 + 4 * index)
      idiagIf := word 40
      idiagCookie := fun index => word (44 + 4 * index) }
    idiagExpires := word 52
    idiagRqueue := word 56
    idiagWqueue := word 60
    idiagUid := word 64
    idiagInode := word 68 }

/-- The socket that is looked for: its address as it stands in the dump, and its
port converted from the order of the network. -/
def InetDiagMsg.isSource (order : ByteOrder) (srcIp : UInt32) (srcPort : UInt16)
    (msg : InetDiagMsg) : Bool :=
  msg.id.idiagSrc 0 == srcIp && fromBe order msg.id.idiagSport == srcPort

/-- Align to NLMSG boundary. -/
def nlmsgAlign (len : UInt64) : UInt64 :=
  (len + 3) &&& ~~~3

/-- Bytes that are read through a pointer. -/
structure Region where
  first : Nat
  size : Nat
  deriving DecidableEq

def Region.read (region : Region) (buf : Octets) : Option Octets :=
  slice buf region.first (region.first + region.size)

/-- The region ends within the first `len` bytes. -/
def Region.Within (region : Region) (len : Nat) : Prop :=
  region.first + region.size ≤ len

instance (region : Region) (len : Nat) : Decidable (region.Within len) :=
  Nat.decLe _ _

/-- How the two loops are left: at a message that ends the dump or a receive
without bytes, at the socket, or by a read beyond the buffer. -/
inductive ScanEnd where
  | ended
  | found (inode : UInt64) (uid : UInt32)
  | fault
  deriving DecidableEq

/-- One pass through the body of the inner loop.  It leaves both loops or goes on
by a number of bytes. -/
structure Visit where
  reads : List Region
  outcome : Except ScanEnd Nat

def visitMessage (order : ByteOrder) (srcIp : UInt32) (srcPort : UInt16) (buf : Octets)
    (offset : Nat) : Visit :=
  let header : Region := ⟨offset, 16⟩
  let body : Region := ⟨offset + 16, 72⟩
  match header.read buf with
  | none => ⟨[header], .error .fault⟩
  | some bytes =>
      let nlh := Header.decode order bytes
      let size := (nlmsgAlign nlh.length.toUInt64).toNat
      if nlh.kind = nlmsgDone ∨ nlh.kind = nlmsgError then ⟨[header], .error .ended⟩
      else if nlh.kind = sockDiagByFamily then
        match body.read buf with
        | none => ⟨[header, body], .error .fault⟩
        | some bytes =>
            let msg := InetDiagMsg.decode order bytes
            if msg.isSource order srcIp srcPort then
              ⟨[header, body], .error (.found msg.idiagInode.toUInt64 msg.idiagUid)⟩
            else ⟨[header, body], .ok size⟩
      else ⟨[header], .ok size⟩

/-! ## The two loops -/

/-- Where the inner loop stands: still running, through with the received bytes,
or left together with the outer loop. -/
inductive Progress where
  | running
  | exhausted
  | left (how : ScanEnd)
  deriving DecidableEq

structure Walk where
  reads : List Region
  progress : Progress

/-- The inner loop over the first `len` bytes, for at most `fuel` messages. -/
def walkMessages (order : ByteOrder) (srcIp : UInt32) (srcPort : UInt16) (buf : Octets)
    (len : Nat) : Nat -> Nat -> Walk
  | 0, _ => ⟨[], .running⟩
  | fuel + 1, offset =>
      if offset < len then
        let visit := visitMessage order srcIp srcPort buf offset
        match visit.outcome with
        | .error how => ⟨visit.reads, .left how⟩
        | .ok size =>
            let rest := walkMessages order srcIp srcPort buf len fuel (offset + size)
            ⟨visit.reads ++ rest.reads, rest.progress⟩
      else ⟨[], .exhausted⟩

/-- The array of 16384 bytes that every receive writes to. -/
structure ReceiveBuffer where
  bytes : Octets
  size : bytes.length = 16384

namespace ReceiveBuffer

def zeroed : ReceiveBuffer where
  bytes := List.replicate 16384 0
  size := List.length_replicate

/-- What `recv` reports: a datagram that does not fit is cut off. -/
def received (datagram : Octets) : Nat :=
  min datagram.length 16384

/-- The bytes behind the received ones stay what they were. -/
def recv (buf : ReceiveBuffer) (datagram : Octets) : ReceiveBuffer where
  bytes := datagram.take 16384 ++ buf.bytes.drop (received datagram)
  size := by
    rw [List.length_append, List.length_take, List.length_drop, buf.size, received]
    omega

end ReceiveBuffer

/-- The outer loop over the datagrams that arrive before the timeout; nothing when
some inner loop is still running. -/
def receiveLoop (order : ByteOrder) (srcIp : UInt32) (srcPort : UInt16) (fuel : Nat) :
    ReceiveBuffer -> List Octets -> Option ScanEnd
  | _, [] => some .ended
  | buf, datagram :: rest =>
      let len := ReceiveBuffer.received datagram
      if len = 0 then some .ended
      else
        let buf := buf.recv datagram
        match (walkMessages order srcIp srcPort buf.bytes len fuel 0).progress with
        | .running => none
        | .left how => some how
        | .exhausted => receiveLoop order srcIp srcPort fuel buf rest

/-- The kernel's side: whether a socket can be opened, and the datagrams that
answer a request until the timeout, absent when it cannot be sent. -/
structure NetlinkKernel where
  opens : Bool
  answers : Octets -> Option (List Octets)

/-- The owner of the socket; no result when the loops do not end or read beyond
the buffer. -/
def getPidViaNetlink (fuel : Nat) (order : ByteOrder) (kernel : NetlinkKernel)
    (proc : ProcSnapshot) (srcIp : UInt32) (srcPort : UInt16) (isUdp : Bool) :
    Option (Option UInt32) :=
  if !kernel.opens then some none
  else
    match kernel.answers (nlRequest order isUdp) with
    | none => some none
    | some datagrams =>
        match receiveLoop order srcIp srcPort fuel .zeroed datagrams with
        | some .ended => some none
        | some (.found targetInode targetUid) =>
            some (if targetInode ≠ 0 then findPidFromInode proc targetInode targetUid else none)
        | some .fault => none
        | none => none

theorem not_stop_of_diag {kind : UInt16} (diag : kind = sockDiagByFamily) :
    Not (kind = nlmsgDone ∨ kind = nlmsgError) := by
  rw [diag]
  decide

section Passes

variable {order : ByteOrder} {srcIp : UInt32} {srcPort : UInt16} {buf : Octets}
  {len fuel offset : Nat}

theorem walkMessages_of_error {how : ScanEnd} (inside : offset < len)
    (leaves : (visitMessage order srcIp srcPort buf offset).outcome = .error how) :
    walkMessages order srcIp srcPort buf len (fuel + 1) offset =
      ⟨(visitMessage order srcIp srcPort buf offset).reads, .left how⟩ := by
  rw [walkMessages, if_pos inside]
  simp only [leaves]

theorem walkMessages_of_ok {size : Nat} (inside : offset < len)
    (goes : (visitMessage order srcIp srcPort buf offset).outcome = .ok size) :
    walkMessages order srcIp srcPort buf len (fuel + 1) offset =
      ⟨(visitMessage order srcIp srcPort buf offset).reads ++
          (walkMessages order srcIp srcPort buf len fuel (offset + size)).reads,
        (walkMessages order srcIp srcPort buf len fuel (offset + size)).progress⟩ := by
  rw [walkMessages, if_pos inside]
  simp only [goes]

theorem walkMessages_of_le (through : len ≤ offset) :
    walkMessages order srcIp srcPort buf len (fuel + 1) offset = ⟨[], .exhausted⟩ := by
  rw [walkMessages, if_neg (Nat.not_lt.mpr through)]

end Passes

section Receives

variable {order : ByteOrder} {srcIp : UInt32} {srcPort : UInt16} {fuel : Nat}
  {buf : ReceiveBuffer} {datagram : Octets} {rest : List Octets}

theorem receiveLoop_of_left {how : ScanEnd} (filled : ReceiveBuffer.received datagram ≠ 0)
    (leaves : (walkMessages order srcIp srcPort (buf.recv datagram).bytes
      (ReceiveBuffer.received datagram) fuel 0).progress = .left how) :
    receiveLoop order srcIp srcPort fuel buf (datagram :: rest) = some how := by
  rw [receiveLoop, if_neg filled]
  simp only [leaves]

theorem receiveLoop_of_exhausted (filled : ReceiveBuffer.received datagram ≠ 0)
    (through : (walkMessages order srcIp srcPort (buf.recv datagram).bytes
      (ReceiveBuffer.received datagram) fuel 0).progress = .exhausted) :
    receiveLoop order srcIp srcPort fuel buf (datagram :: rest) =
      receiveLoop order srcIp srcPort fuel (buf.recv datagram) rest := by
  rw [receiveLoop, if_neg filled]
  simp only [through]

end Receives

namespace ReceiveBuffer

variable (buf : ReceiveBuffer) {datagram : Octets}

theorem received_of_le (fits : datagram.length ≤ 16384) : received datagram = datagram.length :=
  Nat.min_eq_left fits

theorem bytes_recv (fits : datagram.length ≤ 16384) :
    (buf.recv datagram).bytes = datagram ++ buf.bytes.drop datagram.length := by
  change datagram.take 16384 ++ buf.bytes.drop (received datagram) = _
  rw [received_of_le fits, List.take_of_length_le fits]

end ReceiveBuffer

theorem clear_low_bits (x : BitVec 64) : x &&& ~~~3#64 = (x >>> 2) <<< 2 := by
  apply BitVec.eq_of_getLsbD_eq
  intro i inside
  have mask : (3 : Nat).testBit i = decide (i < 2) := Nat.testBit_two_pow_sub_one 2 i
  rw [BitVec.getLsbD_and, BitVec.getLsbD_not, BitVec.getLsbD_shiftLeft, BitVec.getLsbD_ofNat,
    BitVec.getLsbD_ushiftRight, mask]
  by_cases low : i < 2
  · simp [low, inside]
  · have whole : 2 + (i - 2) = i := by omega
    simp [low, inside, whole]

/-- Clearing the two low bits rounds to a multiple of four. -/
theorem toNat_nlmsgAlign (len : UInt32) : (nlmsgAlign len.toUInt64).toNat = align len.toNat := by
  have bound := len.toNat_lt
  change ((len.toUInt64.toBitVec + 3#64) &&& ~~~3#64).toNat = _
  rw [clear_low_bits, BitVec.toNat_shiftLeft, BitVec.toNat_ushiftRight, BitVec.toNat_add,
    Nat.shiftLeft_eq, Nat.shiftRight_eq_div_pow]
  change ((len.toUInt64.toNat + 3) % 2 ^ 64) / 2 ^ 2 * 2 ^ 2 % 2 ^ 64 = _
  rw [UInt32.toNat_toUInt64, align]
  omega

end ProxyBridge
