import ProxyBridge.Linux.NetlinkDump

namespace ProxyBridge

open Foundation Netlink Octets

/-!
# Scanning a well-formed dump

The kernel cuts its dump at message boundaries, so every receive holds whole
messages.  Walking over such a receive visits them in order, whatever stands
behind them in the buffer.  The loops stop at the first message about the socket,
or at the end of the dump.
-/

/-- What a dump says about one socket.  The source address is the word that the rest
of the program holds, followed by three words that IPv4 has no use for; the ports
have a value that does not depend on the host. -/
structure SocketRecord where
  family : UInt8
  state : UInt8
  timer : UInt8
  retrans : UInt8
  sourcePort : UInt16
  destPort : UInt16
  source : UInt32
  sourceRest : Fin 3 -> UInt32
  dest : Fin 4 -> UInt32
  interface : UInt32
  cookie : Fin 2 -> UInt32
  expires : UInt32
  receiveQueue : UInt32
  sendQueue : UInt32
  uid : UInt32
  inode : UInt32

namespace SocketRecord

variable (order : ByteOrder) (record : SocketRecord)

/-- Ports are written in the order of the network, the rest in the host's. -/
def encode : Octets :=
  [record.family, record.state, record.timer, record.retrans] ++
    toBeBytes record.sourcePort ++ toBeBytes record.destPort ++
    ((record.source :: List.ofFn record.sourceRest) ++ List.ofFn record.dest ++
      record.interface :: List.ofFn record.cookie ++
      [record.expires, record.receiveQueue, record.sendQueue, record.uid,
        record.inode]).flatMap (toNeBytes order)

theorem length_encode : (record.encode order).length = 72 := by
  cases order with
  | little => rfl
  | big => rfl

/-- The structure as the host sees it. -/
def asRead : InetDiagMsg where
  idiagFamily := record.family
  idiagState := record.state
  idiagTimer := record.timer
  idiagRetrans := record.retrans
  id := {
    idiagSport := fromNeBytes16 order (toBeBytes record.sourcePort)
    idiagDport := fromNeBytes16 order (toBeBytes record.destPort)
    idiagSrc := Fin.cons record.source record.sourceRest
    idiagDst := record.dest
    idiagIf := record.interface
    idiagCookie := record.cookie }
  idiagExpires := record.expires
  idiagRqueue := record.receiveQueue
  idiagWqueue := record.sendQueue
  idiagUid := record.uid
  idiagInode := record.inode

/-- A word of the record, at its place in the bytes. -/
private theorem word_eq (first : Nat) (value : UInt32)
    (there : ((record.encode order).drop first).take 4 = toNeBytes order value) :
    fromNeBytes order (((record.encode order).drop first).take 4) = value := by
  rw [there, fromNeBytes_toNeBytes]

theorem decode_encode : InetDiagMsg.decode order (record.encode order) = record.asRead order := by
  have source : forall index : Fin 4, fromNeBytes order
      (((record.encode order).drop (8 + 4 * index)).take 4) =
        (Fin.cons record.source record.sourceRest : Fin 4 -> UInt32) index := by
    intro index
    apply word_eq
    cases order <;> fin_cases index <;> rfl
  have dest : forall index : Fin 4, fromNeBytes order
      (((record.encode order).drop (24 + 4 * index)).take 4) = record.dest index := by
    intro index
    apply word_eq
    cases order <;> fin_cases index <;> rfl
  have cookie : forall index : Fin 2, fromNeBytes order
      (((record.encode order).drop (44 + 4 * index)).take 4) = record.cookie index := by
    intro index
    apply word_eq
    cases order <;> fin_cases index <;> rfl
  have interface := word_eq order record 40 record.interface (by cases order <;> rfl)
  have expires := word_eq order record 52 record.expires (by cases order <;> rfl)
  have receiveQueue := word_eq order record 56 record.receiveQueue (by cases order <;> rfl)
  have sendQueue := word_eq order record 60 record.sendQueue (by cases order <;> rfl)
  have uid := word_eq order record 64 record.uid (by cases order <;> rfl)
  have inode := word_eq order record 68 record.inode (by cases order <;> rfl)
  simp only [InetDiagMsg.decode, asRead, source, dest, cookie, interface, expires, receiveQueue,
    sendQueue, uid, inode]
  cases order <;> rfl

end SocketRecord

/-- A message about a socket, with any attributes behind the record. -/
structure DiagMessage where
  record : SocketRecord
  flags : UInt16
  sequence : UInt32
  portId : UInt32
  attributes : Octets
  padding : Octets
  short : 16 + (72 + attributes.length) < 2 ^ 32
  padded : 16 + (72 + attributes.length) + padding.length = align (16 + (72 + attributes.length))

namespace DiagMessage

def toMessage (order : ByteOrder) (message : DiagMessage) : Message where
  kind := sockDiagByFamily
  flags := message.flags
  sequence := message.sequence
  portId := message.portId
  payload := message.record.encode order ++ message.attributes
  padding := message.padding
  short := by
    rw [List.length_append, SocketRecord.length_encode]
    exact message.short
  padded := by
    rw [List.length_append, SocketRecord.length_encode]
    exact message.padded

theorem length_payload (order : ByteOrder) (message : DiagMessage) :
    (message.toMessage order).payload.length = 72 + message.attributes.length := by
  change (message.record.encode order ++ message.attributes).length = _
  rw [List.length_append, SocketRecord.length_encode]

/-- The message is about the socket with this address and port. -/
def concerns (srcIp : UInt32) (srcPort : UInt16) (message : DiagMessage) : Bool :=
  message.record.source == srcIp && message.record.sourcePort == srcPort

/-- What is selected from the message. -/
def answer (message : DiagMessage) : ScanEnd :=
  .found message.record.inode.toUInt64 message.record.uid

/-- The bytes of messages that follow one another. -/
def bytes (order : ByteOrder) (messages : List DiagMessage) : Octets :=
  encodeAll order (messages.map (toMessage order))

theorem bytes_cons (order : ByteOrder) (message : DiagMessage) (messages : List DiagMessage) :
    bytes order (message :: messages) =
      (message.toMessage order).encode order ++ bytes order messages :=
  List.flatMap_cons

end DiagMessage

section Visits

variable {order : ByteOrder} {srcIp : UInt32} {srcPort : UInt16} {before after buf : Octets}

theorem isSource_asRead (record : SocketRecord) :
    (record.asRead order).isSource order srcIp srcPort =
      (record.source == srcIp && record.sourcePort == srcPort) := by
  change (_ && fromBe order (fromNeBytes16 order (toBeBytes record.sourcePort)) == srcPort) = _
  rw [fromBe_fromNeBytes16_toBeBytes]
  rfl

/-- The header at the front of a message. -/
theorem read_header {message : Message}
    (whole : buf = before ++ (message.encode order ++ after)) :
    Exists fun bytes => Region.read ⟨before.length, 16⟩ buf = some bytes ∧
      Header.decode order bytes = ⟨message.length, message.kind⟩ := by
  have size : before.length + 16 ≤ buf.length := by
    have long := message.le_length_encode order
    rw [whole, List.length_append, List.length_append]
    omega
  refine ⟨_, slice_of_le (Nat.le_add_right _ _) size, ?_⟩
  rw [Nat.add_sub_cancel_left, Header.decode_take, whole, header_of_append]

/-- The body of a message about a socket. -/
theorem read_body {message : DiagMessage}
    (whole : buf = before ++ ((message.toMessage order).encode order ++ after)) :
    Exists fun bytes => Region.read ⟨before.length + 16, 72⟩ buf = some bytes ∧
      InetDiagMsg.decode order bytes = message.record.asRead order := by
  have payload := message.length_payload order
  have size : before.length + 16 + 72 ≤ buf.length := by
    have long := (message.toMessage order).le_length_encode order
    rw [whole, List.length_append, List.length_append]
    omega
  refine ⟨_, slice_of_le (Nat.le_add_right _ _) size, ?_⟩
  rw [Nat.add_sub_cancel_left]
  change InetDiagMsg.decode order ((buf.drop (before.length + 16)).take 72) = _
  rw [whole, payload_of_append (by omega)]
  change InetDiagMsg.decode order ((message.record.encode order ++ message.attributes).take 72) = _
  rw [List.take_left' (message.record.length_encode order), SocketRecord.decode_encode]

/-- At a message about another socket the visit goes on by the length of the
message; at the socket it stops. -/
theorem outcome_visit_diag {message : DiagMessage}
    (whole : buf = before ++ ((message.toMessage order).encode order ++ after)) :
    (visitMessage order srcIp srcPort buf before.length).outcome =
      if message.concerns srcIp srcPort then .error message.answer
      else .ok ((message.toMessage order).encode order).length := by
  rcases read_header whole with ⟨header, headerRead, decoded⟩
  rcases read_body whole with ⟨body, bodyRead, record⟩
  have diag : (message.toMessage order).kind = sockDiagByFamily := rfl
  simp only [visitMessage, headerRead, decoded, if_neg (not_stop_of_diag diag), if_pos diag,
    bodyRead, record, isSource_asRead, toNat_nlmsgAlign, Message.length_encode]
  unfold DiagMessage.concerns
  split
  · rfl
  · rfl

theorem outcome_visit_stop {message : Message}
    (stop : message.kind = nlmsgDone ∨ message.kind = nlmsgError)
    (whole : buf = before ++ (message.encode order ++ after)) :
    (visitMessage order srcIp srcPort buf before.length).outcome = .error .ended := by
  rcases read_header whole with ⟨header, headerRead, decoded⟩
  simp only [visitMessage, headerRead, decoded, if_pos stop]

end Visits

section Walks

variable {order : ByteOrder} {srcIp : UInt32} {srcPort : UInt16} {before after buf : Octets}
  {len : Nat}

/-- Messages about other sockets are walked over; the first one about the socket
ends the walk. -/
theorem progress_walk_diag (messages : List DiagMessage) (fuel : Nat)
    (whole : buf = before ++ (DiagMessage.bytes order messages ++ after))
    (inside : before.length + (DiagMessage.bytes order messages).length ≤ len) :
    (walkMessages order srcIp srcPort buf len (fuel + messages.length) before.length).progress =
      (messages.find? (DiagMessage.concerns srcIp srcPort)).elim
        (walkMessages order srcIp srcPort buf len fuel
          (before.length + (DiagMessage.bytes order messages).length)).progress
        (fun message => .left message.answer) := by
  induction messages generalizing before with
  | nil => rfl
  | cons message messages ih =>
      rw [DiagMessage.bytes_cons, List.append_assoc] at whole
      rw [DiagMessage.bytes_cons, List.length_append] at inside
      have outcome : (visitMessage order srcIp srcPort buf before.length).outcome = _ :=
        outcome_visit_diag whole
      have positive := (message.toMessage order).length_encode_pos order
      have here : before.length < len := by omega
      rw [List.length_cons, ← Nat.add_assoc]
      by_cases concerned : message.concerns srcIp srcPort = true
      · rw [if_pos concerned] at outcome
        rw [walkMessages_of_error here outcome, List.find?_cons_of_pos concerned]
        rfl
      · rw [if_neg concerned] at outcome
        rw [walkMessages_of_ok here outcome, List.find?_cons_of_neg concerned]
        have next : before.length + ((message.toMessage order).encode order).length =
            (before ++ (message.toMessage order).encode order).length := by
          rw [List.length_append]
        rw [DiagMessage.bytes_cons, List.length_append, ← Nat.add_assoc, next]
        apply ih
        · rw [List.append_assoc]
          exact whole
        · rw [← next]
          omega

/-- The walk over the messages at the front of a receive. -/
theorem progress_walk_front {messages : List DiagMessage} {fuel : Nat}
    (enough : messages.length < fuel)
    (inside : (DiagMessage.bytes order messages).length ≤ len) :
    Exists fun more =>
      (walkMessages order srcIp srcPort (DiagMessage.bytes order messages ++ after) len fuel
          0).progress =
        (messages.find? (DiagMessage.concerns srcIp srcPort)).elim
          (walkMessages order srcIp srcPort (DiagMessage.bytes order messages ++ after) len
            (more + 1) (DiagMessage.bytes order messages).length).progress
          (fun message => .left message.answer) := by
  rcases Nat.exists_eq_add_of_lt enough with ⟨more, rfl⟩
  have walked := @progress_walk_diag order srcIp srcPort [] after _ len messages (more + 1) rfl
    (by rw [List.length_nil, Nat.zero_add]; exact inside)
  rw [List.length_nil, Nat.zero_add, List.nil_append] at walked
  refine ⟨more, ?_⟩
  rw [← walked, Nat.add_assoc, Nat.add_comm]

end Walks

/-! ## The dump -/

/-- A receive that holds whole messages only. -/
structure Batch (order : ByteOrder) where
  messages : List DiagMessage
  nonempty : messages ≠ []
  fits : (DiagMessage.bytes order messages).length ≤ 16384

/-- A receive with the message that ends the dump, and whatever stands behind that
message and arrives after it. -/
structure LastReceive (order : ByteOrder) where
  messages : List DiagMessage
  stop : Message
  kind : stop.kind = nlmsgDone ∨ stop.kind = nlmsgError
  trailing : Octets
  fits : (DiagMessage.bytes order messages ++ (stop.encode order ++ trailing)).length ≤ 16384
  later : List Octets

/-- A dump as it arrives.  Without a last receive, a timeout ends it. -/
structure Dump (order : ByteOrder) where
  batches : List (Batch order)
  last : Option (LastReceive order)

section Receives

variable {order : ByteOrder}

namespace Batch

variable (batch : Batch order)

def datagram : Octets :=
  DiagMessage.bytes order batch.messages

theorem received_datagram : ReceiveBuffer.received batch.datagram = batch.datagram.length :=
  ReceiveBuffer.received_of_le batch.fits

theorem length_pos : 0 < batch.datagram.length := by
  have nonempty := batch.nonempty
  unfold datagram
  cases messages : batch.messages with
  | nil => exact absurd messages nonempty
  | cons message rest =>
      have positive := (message.toMessage order).length_encode_pos order
      rw [DiagMessage.bytes_cons, List.length_append]
      omega

end Batch

namespace LastReceive

variable (last : LastReceive order)

def datagram : Octets :=
  DiagMessage.bytes order last.messages ++ (last.stop.encode order ++ last.trailing)

theorem received_datagram : ReceiveBuffer.received last.datagram = last.datagram.length :=
  ReceiveBuffer.received_of_le last.fits

end LastReceive

namespace Dump

variable (dump : Dump order)

def datagrams : List Octets :=
  dump.batches.map Batch.datagram ++
    dump.last.elim [] (fun last => last.datagram :: last.later)

/-- The messages before the end. -/
def messages : List DiagMessage :=
  dump.batches.flatMap Batch.messages ++ dump.last.elim [] LastReceive.messages

/-- What the loops should be left with: the first message about the socket, or
nothing. -/
def expected (srcIp : UInt32) (srcPort : UInt16) : ScanEnd :=
  (dump.messages.find? (DiagMessage.concerns srcIp srcPort)).elim .ended DiagMessage.answer

end Dump

variable (srcIp : UInt32) (srcPort : UInt16)

theorem Batch.progress_walk (batch : Batch order) {fuel : Nat}
    (enough : batch.messages.length < fuel) (buf : ReceiveBuffer) :
    (walkMessages order srcIp srcPort (buf.recv batch.datagram).bytes batch.datagram.length fuel
        0).progress =
      (batch.messages.find? (DiagMessage.concerns srcIp srcPort)).elim .exhausted
        (fun message => .left message.answer) := by
  have bytes : (buf.recv batch.datagram).bytes = DiagMessage.bytes order batch.messages ++ _ :=
    buf.bytes_recv batch.fits
  have inside : (DiagMessage.bytes order batch.messages).length ≤ batch.datagram.length :=
    Nat.le_refl _
  rcases progress_walk_front enough inside with ⟨more, walked⟩
  rw [bytes, walked]
  cases batch.messages.find? (DiagMessage.concerns srcIp srcPort) with
  | none => exact congrArg Walk.progress (walkMessages_of_le inside)
  | some message => rfl

/-- A receive of whole messages is left at the first message about the socket; else
the next one follows. -/
theorem receiveLoop_batch (batch : Batch order) {fuel : Nat}
    (enough : batch.messages.length < fuel) (buf : ReceiveBuffer) (rest : List Octets) :
    receiveLoop order srcIp srcPort fuel buf (batch.datagram :: rest) =
      (batch.messages.find? (DiagMessage.concerns srcIp srcPort)).elim
        (receiveLoop order srcIp srcPort fuel (buf.recv batch.datagram) rest)
        (fun message => some message.answer) := by
  have filled : ReceiveBuffer.received batch.datagram ≠ 0 := by
    rw [batch.received_datagram]
    exact Nat.ne_of_gt batch.length_pos
  have walked := batch.progress_walk srcIp srcPort enough buf
  rw [← batch.received_datagram] at walked
  cases selected : batch.messages.find? (DiagMessage.concerns srcIp srcPort) with
  | none =>
      rw [selected] at walked
      exact receiveLoop_of_exhausted filled walked
  | some message =>
      rw [selected] at walked
      exact receiveLoop_of_left filled walked

/-- The last receive is left in any case. -/
theorem receiveLoop_last (last : LastReceive order) {fuel : Nat}
    (enough : last.messages.length < fuel) (buf : ReceiveBuffer) (rest : List Octets) :
    receiveLoop order srcIp srcPort fuel buf (last.datagram :: rest) =
      some ((last.messages.find? (DiagMessage.concerns srcIp srcPort)).elim .ended
        DiagMessage.answer) := by
  have size : last.datagram.length = (DiagMessage.bytes order last.messages).length +
      ((last.stop.encode order).length + last.trailing.length) := by
    rw [LastReceive.datagram, List.length_append, List.length_append]
  have positive := last.stop.length_encode_pos order
  have filled : ReceiveBuffer.received last.datagram ≠ 0 := by
    rw [last.received_datagram]
    omega
  have bytes : (buf.recv last.datagram).bytes = DiagMessage.bytes order last.messages ++
      (last.stop.encode order ++ (last.trailing ++ buf.bytes.drop last.datagram.length)) := by
    have received : (buf.recv last.datagram).bytes = last.datagram ++ _ :=
      buf.bytes_recv last.fits
    rw [received, LastReceive.datagram, List.append_assoc, List.append_assoc]
  have inside : (DiagMessage.bytes order last.messages).length ≤
      ReceiveBuffer.received last.datagram := by
    rw [last.received_datagram]
    omega
  apply receiveLoop_of_left filled
  rcases progress_walk_front enough inside with ⟨more, walked⟩
  rw [bytes, walked]
  cases last.messages.find? (DiagMessage.concerns srcIp srcPort) with
  | none =>
      refine congrArg Walk.progress (walkMessages_of_error ?_ (outcome_visit_stop last.kind rfl))
      rw [last.received_datagram]
      omega
  | some message => rfl

/-- The loops over a whole dump, from any contents of the buffer. -/
theorem receiveLoop_dump (dump : Dump order) {fuel : Nat} (enough : dump.messages.length < fuel)
    (buf : ReceiveBuffer) :
    receiveLoop order srcIp srcPort fuel buf dump.datagrams =
      some (dump.expected srcIp srcPort) := by
  rcases dump with ⟨batches, last⟩
  induction batches generalizing buf with
  | nil =>
      cases last with
      | none => rfl
      | some last => exact receiveLoop_last srcIp srcPort last enough buf last.later
  | cons batch batches ih =>
      have split : (Dump.mk (batch :: batches) last).messages =
          batch.messages ++ (Dump.mk batches last).messages := by
        rw [Dump.messages, List.flatMap_cons, List.append_assoc]
        rfl
      rw [split, List.length_append] at enough
      have first : receiveLoop order srcIp srcPort fuel buf
          (batch.datagram :: (Dump.mk batches last).datagrams) = _ :=
        receiveLoop_batch srcIp srcPort batch (by omega) buf _
      change receiveLoop order srcIp srcPort fuel buf
        (batch.datagram :: (Dump.mk batches last).datagrams) = _
      rw [first, Dump.expected, split, List.find?_append,
        ih (buf.recv batch.datagram) (by omega)]
      cases batch.messages.find? (DiagMessage.concerns srcIp srcPort) with
      | none => rfl
      | some message => rfl

end Receives

/-- Whatever the kernel's dump is and wherever it is cut, the loops select the
first message about the socket before its end, and nothing without one. -/
theorem netlinkScan_selects_first (order : ByteOrder) (dump : Dump order) (srcIp : UInt32)
    (srcPort : UInt16) :
    Exists fun enough => forall fuel, enough ≤ fuel ->
      receiveLoop order srcIp srcPort fuel .zeroed dump.datagrams =
        some (dump.expected srcIp srcPort) :=
  ⟨dump.messages.length + 1, fun _ more => receiveLoop_dump srcIp srcPort dump more .zeroed⟩

/-- The answer to a request for the owner of a socket, when the kernel sends a
well-formed dump. -/
theorem getPidViaNetlink_of_dump {order : ByteOrder} {kernel : NetlinkKernel} {isUdp : Bool}
    {dump : Dump order} (opens : kernel.opens = true)
    (answered : kernel.answers (nlRequest order isUdp) = some dump.datagrams)
    (proc : ProcSnapshot) (srcIp : UInt32) (srcPort : UInt16) :
    Exists fun enough => forall fuel, enough ≤ fuel ->
      getPidViaNetlink fuel order kernel proc srcIp srcPort isUdp =
        some ((dump.messages.find? (DiagMessage.concerns srcIp srcPort)).bind fun message =>
          if message.record.inode.toUInt64 ≠ 0 then
            findPidFromInode proc message.record.inode.toUInt64 message.record.uid
          else none) := by
  refine ⟨dump.messages.length + 1, ?_⟩
  intro fuel more
  have scanned := receiveLoop_dump srcIp srcPort dump more .zeroed
  rw [getPidViaNetlink, opens, answered]
  simp only [scanned, Dump.expected]
  cases dump.messages.find? (DiagMessage.concerns srcIp srcPort) with
  | none => rfl
  | some message => rfl

/-- The request says how long it is. -/
theorem decode_nlRequest (order : ByteOrder) (isUdp : Bool) :
    Header.decode order (nlRequest order isUdp) =
      ⟨UInt32.ofNat (nlRequest order isUdp).length, sockDiagByFamily⟩ := by
  cases order with
  | little =>
      cases isUdp with
      | true => decide
      | false => decide
  | big =>
      cases isUdp with
      | true => decide
      | false => decide

/-- A socket of one user, without attributes behind its record. -/
def DiagMessage.ofSocket (sourcePort : UInt16) (source uid inode : UInt32) : DiagMessage where
  record := {
    family := 2
    state := 7
    timer := 0
    retrans := 0
    sourcePort := sourcePort
    destPort := 0
    source := source
    sourceRest := fun _ => 0
    dest := fun _ => 0
    interface := 0
    cookie := fun _ => 0
    expires := 0
    receiveQueue := 0
    sendQueue := 0
    uid := uid
    inode := inode }
  flags := 2
  sequence := 0
  portId := 0
  attributes := []
  padding := []
  short := by decide
  padded := rfl

/-- Two sockets in two receives, then a timeout. -/
example : (Dump.mk [⟨[.ofSocket 53 9 1000 71], by decide, by decide⟩,
    ⟨[.ofSocket 443 9 1000 72], by decide, by decide⟩] none : Dump .little).expected 9 443 =
      .found 72 1000 := by
  decide

end ProxyBridge
