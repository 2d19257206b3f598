import ProxyBridge.Linux.NetlinkScan

namespace ProxyBridge

open Foundation Netlink Octets

/-!
# Walking over arbitrary bytes

The inner loop takes every step from the bytes themselves and checks neither that
a message is complete nor that its length is positive.  So it terminates and stays
within the received bytes exactly when these are a chain of complete messages up
to the point where the walk is left (`bufferWalk_safe_iff`), as in every receive of
a well-formed dump.
-/

/-- What one receive leaves behind: the buffer and the number of bytes in it that
were received. -/
structure Received where
  buf : ReceiveBuffer
  len : Nat
  positive : 0 < len
  fits : len ≤ 16384

def Received.bytes (received : Received) : Octets :=
  received.buf.bytes.take received.len

/-- The loop terminates from the offset and stays within the first `len` bytes. -/
structure WalkSafe (order : ByteOrder) (srcIp : UInt32) (srcPort : UInt16) (buf : Octets)
    (len offset : Nat) : Prop where
  terminates : Exists fun fuel =>
    (walkMessages order srcIp srcPort buf len fuel offset).progress ≠ .running
  inBounds : forall fuel region,
    region ∈ (walkMessages order srcIp srcPort buf len fuel offset).reads -> region.Within len

/-- A chain of messages: each is complete as far as it is read, and has a length
that leads on, until one ends the dump or is about the socket. -/
inductive Walkable (order : ByteOrder) (srcIp : UInt32) (srcPort : UInt16) : Octets -> Prop where
  | through : Walkable order srcIp srcPort []
  | stop {bytes : Octets} (header : 16 ≤ bytes.length)
      (kind : (Header.decode order bytes).kind = nlmsgDone ∨
        (Header.decode order bytes).kind = nlmsgError) :
      Walkable order srcIp srcPort bytes
  | hit {bytes : Octets} (body : 88 ≤ bytes.length)
      (kind : (Header.decode order bytes).kind = sockDiagByFamily)
      (source : (InetDiagMsg.decode order ((bytes.drop 16).take 72)).isSource order srcIp srcPort =
        true) :
      Walkable order srcIp srcPort bytes
  | next {bytes : Octets} (header : 16 ≤ bytes.length)
      (body : (Header.decode order bytes).kind = sockDiagByFamily -> 88 ≤ bytes.length)
      (length : 0 < (Header.decode order bytes).length.toNat)
      (rest : Walkable order srcIp srcPort
        (bytes.drop (align (Header.decode order bytes).length.toNat))) :
      Walkable order srcIp srcPort bytes

section Passes

variable {order : ByteOrder} {srcIp : UInt32} {srcPort : UInt16} {buf bytes : Octets}
  {len offset : Nat}

/-- A region within the received bytes has the value that these bytes give. -/
theorem Region.read_of_within {region : Region} (within : region.Within len)
    (fits : len ≤ buf.length) :
    region.read buf = some (((buf.take len).drop region.first).take region.size) := by
  unfold Region.Within at within
  have size : region.size ≤ len - region.first := by omega
  rw [Region.read, slice_of_le (Nat.le_add_right _ _) (Nat.le_trans within fits),
    Nat.add_sub_cancel_left, List.drop_take, List.take_take, Nat.min_eq_left size]

theorem header_mem_reads :
    (⟨offset, 16⟩ : Region) ∈ (visitMessage order srcIp srcPort buf offset).reads := by
  unfold visitMessage
  simp only
  split
  · exact List.mem_cons_self
  · split
    · exact List.mem_cons_self
    · split
      · split
        · exact List.mem_cons_self
        · split
          · exact List.mem_cons_self
          · exact List.mem_cons_self
      · exact List.mem_cons_self

/-- The header of a message that is complete up to there. -/
theorem read_header_of_within (order : ByteOrder) (within : offset + 16 ≤ len)
    (fits : len ≤ buf.length) :
    Exists fun header => Region.read ⟨offset, 16⟩ buf = some header ∧
      Header.decode order header = Header.decode order ((buf.take len).drop offset) :=
  ⟨_, Region.read_of_within within fits, Header.decode_take _ _⟩

theorem visit_of_stop (within : offset + 16 ≤ len) (fits : len ≤ buf.length)
    (kind : (Header.decode order ((buf.take len).drop offset)).kind = nlmsgDone ∨
      (Header.decode order ((buf.take len).drop offset)).kind = nlmsgError) :
    visitMessage order srcIp srcPort buf offset = ⟨[⟨offset, 16⟩], .error .ended⟩ := by
  rcases read_header_of_within order within fits with ⟨header, headerRead, decoded⟩
  simp only [visitMessage, headerRead, decoded, if_pos kind]

/-- A message of another type is passed over without a look at its body. -/
theorem visit_of_other (within : offset + 16 ≤ len) (fits : len ≤ buf.length)
    (goes : Not ((Header.decode order ((buf.take len).drop offset)).kind = nlmsgDone ∨
      (Header.decode order ((buf.take len).drop offset)).kind = nlmsgError))
    (kind : (Header.decode order ((buf.take len).drop offset)).kind ≠ sockDiagByFamily) :
    visitMessage order srcIp srcPort buf offset =
      ⟨[⟨offset, 16⟩],
        .ok (align (Header.decode order ((buf.take len).drop offset)).length.toNat)⟩ := by
  rcases read_header_of_within order within fits with ⟨header, headerRead, decoded⟩
  simp only [visitMessage, headerRead, decoded, if_neg goes, if_neg kind, toNat_nlmsgAlign]

theorem visit_of_diag (within : offset + 88 ≤ len) (fits : len ≤ buf.length)
    (kind : (Header.decode order ((buf.take len).drop offset)).kind = sockDiagByFamily) :
    let msg := InetDiagMsg.decode order ((((buf.take len).drop offset).drop 16).take 72)
    visitMessage order srcIp srcPort buf offset =
      ⟨[⟨offset, 16⟩, ⟨offset + 16, 72⟩],
        if msg.isSource order srcIp srcPort then
          .error (.found msg.idiagInode.toUInt64 msg.idiagUid)
        else .ok (align (Header.decode order ((buf.take len).drop offset)).length.toNat)⟩ := by
  intro msg
  have headerWithin : offset + 16 ≤ len := by omega
  rcases read_header_of_within order headerWithin fits with ⟨header, headerRead, decoded⟩
  have bodyWithin : Region.Within ⟨offset + 16, 72⟩ len := within
  have bodyRead := Region.read_of_within bodyWithin fits
  rw [← List.drop_drop] at bodyRead
  simp only [visitMessage, headerRead, decoded, if_neg (not_stop_of_diag kind), if_pos kind,
    bodyRead, toNat_nlmsgAlign]
  split
  · rfl
  · rfl

/-- The body of a message about a socket is read, complete or not. -/
theorem body_mem_reads (within : offset + 16 ≤ len) (fits : len ≤ buf.length)
    (kind : (Header.decode order ((buf.take len).drop offset)).kind = sockDiagByFamily) :
    (⟨offset + 16, 72⟩ : Region) ∈ (visitMessage order srcIp srcPort buf offset).reads := by
  rcases read_header_of_within order within fits with ⟨header, headerRead, decoded⟩
  simp only [visitMessage, headerRead, decoded, if_neg (not_stop_of_diag kind), if_pos kind]
  split
  · exact List.mem_cons_of_mem _ List.mem_cons_self
  · split
    · exact List.mem_cons_of_mem _ List.mem_cons_self
    · exact List.mem_cons_of_mem _ List.mem_cons_self

end Passes

/-! ## Whole walks -/

section Walks

variable {order : ByteOrder} {srcIp : UInt32} {srcPort : UInt16} {buf : Octets}
  {len offset : Nat}

theorem WalkSafe.of_le (through : len ≤ offset) :
    WalkSafe order srcIp srcPort buf len offset := by
  constructor
  · refine ⟨1, ?_⟩
    rw [walkMessages_of_le through]
    exact Progress.noConfusion
  · intro fuel region member
    cases fuel with
    | zero => cases member
    | succ fuel =>
        rw [walkMessages_of_le through] at member
        cases member

/-- A visit that leaves the loops is the whole walk. -/
theorem walkSafe_iff_of_error {how : ScanEnd} (inside : offset < len)
    (leaves : (visitMessage order srcIp srcPort buf offset).outcome = .error how) :
    WalkSafe order srcIp srcPort buf len offset <->
      forall region, region ∈ (visitMessage order srcIp srcPort buf offset).reads ->
        region.Within len := by
  constructor
  · intro safe region member
    apply safe.inBounds 1
    rw [walkMessages_of_error inside leaves]
    exact member
  · intro within
    constructor
    · refine ⟨1, ?_⟩
      rw [walkMessages_of_error inside leaves]
      exact Progress.noConfusion
    · intro fuel region member
      cases fuel with
      | zero => cases member
      | succ fuel =>
          rw [walkMessages_of_error inside leaves] at member
          exact within region member

/-- A visit that goes on is followed by the walk from the next offset. -/
theorem walkSafe_iff_of_ok {size : Nat} (inside : offset < len)
    (goes : (visitMessage order srcIp srcPort buf offset).outcome = .ok size) :
    WalkSafe order srcIp srcPort buf len offset <->
      (forall region, region ∈ (visitMessage order srcIp srcPort buf offset).reads ->
        region.Within len) ∧ WalkSafe order srcIp srcPort buf len (offset + size) := by
  constructor
  · intro safe
    have later : forall fuel region,
        region ∈ (visitMessage order srcIp srcPort buf offset).reads ∨
          region ∈ (walkMessages order srcIp srcPort buf len fuel (offset + size)).reads ->
        region.Within len := by
      intro fuel region member
      apply safe.inBounds (fuel + 1)
      rw [walkMessages_of_ok inside goes]
      exact List.mem_append.mpr member
    refine ⟨fun region member => later 0 region (Or.inl member), ?_,
      fun fuel region member => later fuel region (Or.inr member)⟩
    rcases safe.terminates with ⟨fuel, ended⟩
    cases fuel with
    | zero => exact absurd rfl ended
    | succ fuel =>
        rw [walkMessages_of_ok inside goes] at ended
        exact ⟨fuel, ended⟩
  · rintro ⟨within, safe⟩
    constructor
    · rcases safe.terminates with ⟨fuel, ended⟩
      refine ⟨fuel + 1, ?_⟩
      rw [walkMessages_of_ok inside goes]
      exact ended
    · intro fuel region member
      cases fuel with
      | zero => cases member
      | succ fuel =>
          rw [walkMessages_of_ok inside goes] at member
          rcases List.mem_append.mp member with here | later
          · exact within region here
          · exact safe.inBounds fuel region later

/-- Without progress the walk stays where it is. -/
theorem progress_of_stuck (inside : offset < len)
    (stuck : (visitMessage order srcIp srcPort buf offset).outcome = .ok 0) (fuel : Nat) :
    (walkMessages order srcIp srcPort buf len fuel offset).progress = .running := by
  induction fuel with
  | zero => rfl
  | succ fuel ih =>
      rw [walkMessages_of_ok inside stuck]
      exact ih

theorem not_walkSafe_of_stuck (inside : offset < len)
    (stuck : (visitMessage order srcIp srcPort buf offset).outcome = .ok 0) :
    Not (WalkSafe order srcIp srcPort buf len offset) := by
  rintro ⟨⟨fuel, ended⟩, _⟩
  exact ended (progress_of_stuck inside stuck fuel)

theorem mem_reads_of_visit (inside : offset < len) {region : Region}
    (member : region ∈ (visitMessage order srcIp srcPort buf offset).reads) :
    region ∈ (walkMessages order srcIp srcPort buf len 1 offset).reads := by
  cases outcome : (visitMessage order srcIp srcPort buf offset).outcome with
  | error how =>
      rw [walkMessages_of_error inside outcome]
      exact member
  | ok size =>
      rw [walkMessages_of_ok inside outcome]
      exact List.mem_append_left _ member

/-- What a safe walk reads first is within the received bytes. -/
theorem WalkSafe.within_of_mem (safe : WalkSafe order srcIp srcPort buf len offset)
    (inside : offset < len) {region : Region}
    (member : region ∈ (visitMessage order srcIp srcPort buf offset).reads) : region.Within len :=
  safe.inBounds 1 region (mem_reads_of_visit inside member)

variable (fits : len ≤ buf.length)
include fits

theorem length_received (offset : Nat) : ((buf.take len).drop offset).length = len - offset := by
  rw [List.length_drop, List.length_take, Nat.min_eq_left fits]

/-- A safe walk is left at its first message, or goes on by the length of this
message. -/
theorem WalkSafe.visit_cases (safe : WalkSafe order srcIp srcPort buf len offset)
    (inside : offset < len) :
    Walkable order srcIp srcPort ((buf.take len).drop offset) ∨
      16 ≤ ((buf.take len).drop offset).length ∧
      ((Header.decode order ((buf.take len).drop offset)).kind = sockDiagByFamily ->
        88 ≤ ((buf.take len).drop offset).length) ∧
      (visitMessage order srcIp srcPort buf offset).outcome =
        .ok (align (Header.decode order ((buf.take len).drop offset)).length.toNat) := by
  have size := length_received fits offset
  have header : offset + 16 ≤ len := safe.within_of_mem inside header_mem_reads
  have complete : 16 ≤ ((buf.take len).drop offset).length := by omega
  by_cases stop : (Header.decode order ((buf.take len).drop offset)).kind = nlmsgDone ∨
      (Header.decode order ((buf.take len).drop offset)).kind = nlmsgError
  · exact Or.inl (.stop complete stop)
  · by_cases diag : (Header.decode order ((buf.take len).drop offset)).kind = sockDiagByFamily
    · have body : offset + 16 + 72 ≤ len :=
        safe.within_of_mem inside (body_mem_reads header fits diag)
      have whole : 88 ≤ ((buf.take len).drop offset).length := by omega
      by_cases source : (InetDiagMsg.decode order
          ((((buf.take len).drop offset).drop 16).take 72)).isSource order srcIp srcPort = true
      · exact Or.inl (.hit whole diag source)
      · refine Or.inr ⟨complete, fun _ => whole, ?_⟩
        rw [visit_of_diag body fits diag]
        exact if_neg source
    · refine Or.inr ⟨complete, fun kind => absurd kind diag, ?_⟩
      rw [visit_of_other header fits stop diag]

/-- A safe walk reads a chain, by induction on the number of messages. -/
theorem walkable_of_progress (fuel offset : Nat)
    (safe : WalkSafe order srcIp srcPort buf len offset)
    (ended : (walkMessages order srcIp srcPort buf len fuel offset).progress ≠ .running) :
    Walkable order srcIp srcPort ((buf.take len).drop offset) := by
  induction fuel generalizing offset with
  | zero => exact absurd rfl ended
  | succ fuel ih =>
      by_cases inside : offset < len
      · rcases safe.visit_cases fits inside with chain | ⟨header, body, goes⟩
        · exact chain
        · refine .next header body ?_ ?_
          · apply Nat.pos_of_ne_zero
            intro zero
            rw [zero] at goes
            exact not_walkSafe_of_stuck inside goes safe
          · rw [walkMessages_of_ok inside goes] at ended
            rw [List.drop_drop]
            exact ih _ ((walkSafe_iff_of_ok inside goes).mp safe).2 ended
      · have through : (buf.take len).drop offset = [] := by
          apply List.eq_nil_of_length_eq_zero
          rw [length_received fits]
          omega
        rw [through]
        exact .through

theorem walkSafe_of_stop (header : offset + 16 ≤ len)
    (kind : (Header.decode order ((buf.take len).drop offset)).kind = nlmsgDone ∨
      (Header.decode order ((buf.take len).drop offset)).kind = nlmsgError) :
    WalkSafe order srcIp srcPort buf len offset := by
  have visited : visitMessage order srcIp srcPort buf offset = _ := visit_of_stop header fits kind
  refine (walkSafe_iff_of_error (by omega) (congrArg Visit.outcome visited)).mpr ?_
  intro region member
  rw [visited] at member
  rw [List.mem_singleton.mp member]
  exact header

/-- A complete message about a socket ends the walk or is followed by the rest. -/
theorem walkSafe_of_diag (body : offset + 88 ≤ len)
    (kind : (Header.decode order ((buf.take len).drop offset)).kind = sockDiagByFamily)
    (rest : (InetDiagMsg.decode order
        ((((buf.take len).drop offset).drop 16).take 72)).isSource order srcIp srcPort = false ->
      WalkSafe order srcIp srcPort buf len
        (offset + align (Header.decode order ((buf.take len).drop offset)).length.toNat)) :
    WalkSafe order srcIp srcPort buf len offset := by
  have inside : offset < len := by omega
  have visited : visitMessage order srcIp srcPort buf offset = _ := visit_of_diag body fits kind
  have within : forall region, region ∈ (visitMessage order srcIp srcPort buf offset).reads ->
      region.Within len := by
    intro region member
    rw [visited] at member
    simp only [List.mem_cons, List.not_mem_nil, or_false] at member
    rcases member with rfl | rfl
    · exact Nat.le_trans (Nat.add_le_add_left (by omega : 16 ≤ 88) offset) body
    · exact body
  cases source : (InetDiagMsg.decode order
      ((((buf.take len).drop offset).drop 16).take 72)).isSource order srcIp srcPort with
  | true =>
      rw [source] at visited
      exact (walkSafe_iff_of_error inside (congrArg Visit.outcome visited)).mpr within
  | false =>
      rw [source] at visited
      exact (walkSafe_iff_of_ok inside (congrArg Visit.outcome visited)).mpr ⟨within, rest source⟩

theorem walkSafe_of_walkable {bytes : Octets} (chain : Walkable order srcIp srcPort bytes)
    (offset : Nat) (same : (buf.take len).drop offset = bytes) :
    WalkSafe order srcIp srcPort buf len offset := by
  have size := length_received fits offset
  induction chain generalizing offset with
  | through =>
      rw [same] at size
      exact .of_le (Nat.le_of_sub_eq_zero size.symm)
  | stop header kind =>
      rw [same] at size
      rw [← same] at kind
      exact walkSafe_of_stop fits (by omega) kind
  | hit body kind source =>
      rw [same] at size
      rw [← same] at kind source
      refine walkSafe_of_diag fits (by omega) kind ?_
      intro other
      rw [source] at other
      cases other
  | next header body length chain ih =>
      rw [← same] at header body ih
      have rest : WalkSafe order srcIp srcPort buf len (offset +
          align (Header.decode order ((buf.take len).drop offset)).length.toNat) :=
        ih _ List.drop_drop.symm (length_received fits _)
      have complete : offset + 16 ≤ len := by omega
      by_cases stop : (Header.decode order ((buf.take len).drop offset)).kind = nlmsgDone ∨
          (Header.decode order ((buf.take len).drop offset)).kind = nlmsgError
      · exact walkSafe_of_stop fits complete stop
      · by_cases diag : (Header.decode order ((buf.take len).drop offset)).kind = sockDiagByFamily
        · have whole := body diag
          exact walkSafe_of_diag fits (by omega) diag (fun _ => rest)
        · have visited : visitMessage order srcIp srcPort buf offset = _ :=
            visit_of_other complete fits stop diag
          refine (walkSafe_iff_of_ok (by omega) (congrArg Visit.outcome visited)).mpr ⟨?_, rest⟩
          intro region member
          rw [visited] at member
          rw [List.mem_singleton.mp member]
          exact complete

end Walks

/-- The loop terminates and stays within the received bytes exactly when they are a
chain of messages. -/
theorem bufferWalk_safe_iff (order : ByteOrder) (srcIp : UInt32) (srcPort : UInt16)
    (received : Received) :
    WalkSafe order srcIp srcPort received.buf.bytes received.len 0 <->
      Walkable order srcIp srcPort received.bytes := by
  have fits : received.len ≤ received.buf.bytes.length := by
    rw [received.buf.size]
    exact received.fits
  constructor
  · intro safe
    rcases safe.terminates with ⟨fuel, ended⟩
    exact walkable_of_progress fits fuel 0 safe ended
  · intro chain
    exact walkSafe_of_walkable fits chain 0 rfl

section Receives

variable {order : ByteOrder} (srcIp : UInt32) (srcPort : UInt16)

/-- Whole messages in front of a chain make a chain. -/
theorem walkable_bytes (messages : List DiagMessage) {rest : Octets}
    (chain : Walkable order srcIp srcPort rest) :
    Walkable order srcIp srcPort (DiagMessage.bytes order messages ++ rest) := by
  induction messages with
  | nil => exact chain
  | cons message messages ih =>
      rw [DiagMessage.bytes_cons, List.append_assoc]
      have size := (message.toMessage order).length_encode order
      have long : 88 ≤ (message.toMessage order).length.toNat := by
        rw [Message.toNat_length, DiagMessage.length_payload]
        omega
      have complete : 88 ≤ ((message.toMessage order).encode order ++
          (DiagMessage.bytes order messages ++ rest)).length := by
        have encoded := (message.toMessage order).le_length_encode order
        rw [← Message.toNat_length] at encoded
        rw [List.length_append]
        omega
      refine .next (by omega) (fun _ => complete) ?_ ?_
      · rw [header_of_encode]
        exact Nat.lt_of_lt_of_le (by decide) long
      · rw [header_of_encode, List.drop_left' size]
        exact ih

theorem walkSafe_recv {datagram : Octets} (fits : datagram.length ≤ 16384)
    (chain : Walkable order srcIp srcPort datagram) (buf : ReceiveBuffer) :
    WalkSafe order srcIp srcPort (buf.recv datagram).bytes datagram.length 0 := by
  apply walkSafe_of_walkable _ chain
  · rw [buf.bytes_recv fits, List.take_left, List.drop_zero]
  · rw [(buf.recv datagram).size]
    exact fits

/-- The walk over a receive of whole messages stays within what was received. -/
theorem Batch.walkSafe (batch : Batch order) (buf : ReceiveBuffer) :
    WalkSafe order srcIp srcPort (buf.recv batch.datagram).bytes batch.datagram.length 0 := by
  apply walkSafe_recv srcIp srcPort batch.fits
  rw [← List.append_nil (DiagMessage.bytes order batch.messages)]
  exact walkable_bytes srcIp srcPort batch.messages .through

/-- So does the walk over the last receive, whatever stands behind its end. -/
theorem LastReceive.walkSafe (last : LastReceive order) (buf : ReceiveBuffer) :
    WalkSafe order srcIp srcPort (buf.recv last.datagram).bytes last.datagram.length 0 := by
  apply walkSafe_recv srcIp srcPort last.fits
  apply walkable_bytes
  refine .stop ?_ ?_
  · have encoded := last.stop.le_length_encode order
    rw [List.length_append]
    omega
  · rw [header_of_encode]
    exact last.kind

end Receives

/-- Sixteen received zero bytes are a header of length 0, which the loop never
leaves.  A single received byte is no header, but is read as one. -/
theorem bufferWalk_trusts_lengths :
    Not (Exists fun fuel => (walkMessages .little 0 0 ReceiveBuffer.zeroed.bytes 16 fuel
        0).progress ≠ .running) ∧
      Exists fun fuel => Exists fun region =>
        region ∈ (walkMessages .little 0 0 ReceiveBuffer.zeroed.bytes 1 fuel 0).reads ∧
          Not (region.Within 1) := by
  have front : (ReceiveBuffer.zeroed.bytes.take 16).drop 0 = List.replicate 16 0 := by
    change (List.replicate 16384 0).take 16 = _
    rw [List.take_replicate]
    rfl
  have fits : forall len, len ≤ 16384 -> len ≤ ReceiveBuffer.zeroed.bytes.length := by
    intro len
    rw [ReceiveBuffer.zeroed.size]
    exact id
  constructor
  · rintro ⟨fuel, ended⟩
    apply ended
    apply progress_of_stuck (by decide)
    rw [@visit_of_other .little 0 0 _ 16 0 (Nat.le_refl 16) (fits 16 (by decide))]
    · rw [front]
      decide
    · rw [front]
      decide
    · rw [front]
      decide
  · exact ⟨1, ⟨0, 16⟩, mem_reads_of_visit Nat.zero_lt_one header_mem_reads, by decide⟩

end ProxyBridge
