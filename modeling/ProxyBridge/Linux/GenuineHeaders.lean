import ProxyBridge.Foundation.InternetHeaders
import ProxyBridge.Linux.OwnerLookup

namespace ProxyBridge

open Foundation Text InternetHeaders

/-!
# What the packet loop takes for a header

The queue receives whatever the kernel puts into it, IPv6 packets and later
fragments included.  The loop reads the header length and the protocol from
their IPv4 places, and looks at neither the version nor the fragment offset.

The headers of a genuine packet are read as they are, with any options.  Other
bytes are left alone exactly when, read in the same way, they do not get as far
as a lookup of the owner (`actsOnHeaders_iff`).
-/

/-- The bytes start with a genuine IPv4 header. -/
def IsGenuine (payload : Octets) : Prop :=
  Exists fun ip => decodeIpv4 payload = some ip ∧ ip.Genuine

/-- The fields that the decision uses, from the headers of a packet; absent when
the packet is too short for its transport header, or is neither TCP nor UDP. -/
def headersOf (order : Octets.ByteOrder) (ip : Ipv4) : Option Packet :=
  if ip.protocol = ipprotoTcp then (decodeTcp ip.segment).map (fields true)
  else if ip.protocol = ipprotoUdp then (decodeUdp ip.segment).map (fields false)
  else none
where
  fields (isTcp : Bool) (transport : Transport) : Packet := {
    srcIp := Octets.fromNeBytes order ip.source
    destIp := Octets.fromNeBytes order ip.destination
    srcPort := transport.sourcePort
    destPort := transport.destinationPort
    isTcp := isTcp
    isSyn := transport.syn && !transport.ack }

theorem lowNibble (b : UInt8) : (b &&& 0x0F).toNat = b.toNat % 16 := by
  rw [UInt8.toNat_and]
  exact Nat.and_two_pow_sub_one_eq_mod b.toNat 4

/-- One bit of a byte is tested by a mask. -/
theorem mask_ne_zero (b : UInt8) {mask : UInt8} {index : Nat} (bit : mask.toNat = 2 ^ index) :
    ((b &&& mask) != 0) = b.toNat.testBit index := by
  have masked : (b &&& mask).toNat = (b.toNat.testBit index).toNat * 2 ^ index := by
    rw [UInt8.toNat_and, bit, Nat.and_two_pow]
  cases set : b.toNat.testBit index with
  | true =>
      rw [set, Bool.toNat_true, Nat.one_mul] at masked
      rw [bne_iff_ne]
      intro zero
      rw [zero] at masked
      exact absurd masked (Nat.ne_of_lt (Nat.two_pow_pos index))
  | false =>
      rw [set, Bool.toNat_false, Nat.zero_mul] at masked
      rw [bne_eq_false_iff_eq]
      exact UInt8.toNat_inj.mp masked

theorem readIpHeader_of_decodeIpv4 {payload : Octets} {ip : Ipv4} (order : Octets.ByteOrder)
    (decoded : decodeIpv4 payload = some ip) :
    readIpHeader order payload = some {
      ihl := ip.headerWords * 4
      protocol := ip.protocol
      srcIp := Octets.fromNeBytes order ip.source
      destIp := Octets.fromNeBytes order ip.destination } ∧ 20 ≤ payload.length := by
  unfold decodeIpv4 at decoded
  split at decoded
  case h_1 v b1 b2 b3 b4 b5 b6 b7 b8 protocol b10 b11 s0 s1 s2 s3 d0 d1 d2 d3 rest =>
    cases decoded
    generalize whole : v :: b1 :: b2 :: b3 :: b4 :: b5 :: b6 :: b7 :: b8 :: protocol :: b10 ::
      b11 :: s0 :: s1 :: s2 :: s3 :: d0 :: d1 :: d2 :: d3 :: rest = bytes
    have long : 20 ≤ bytes.length := by
      rw [← whole]
      exact Nat.le_add_left 20 rest.length
    refine ⟨?_, long⟩
    unfold readIpHeader
    rw [Octets.slice_of_le (by omega) (show 16 ≤ bytes.length by omega),
      Octets.slice_of_le (by omega) long, ← whole]
    change some (IpHeader.mk ((v &&& 0x0F).toNat * 4) protocol _ _) = _
    rw [lowNibble]
    rfl
  case h_2 => cases decoded

theorem slice_append (front segment : Octets) (first last : Nat) :
    Octets.slice (front ++ segment) (front.length + first) (front.length + last) =
      Octets.slice segment first last := by
  unfold Octets.slice
  rw [List.drop_append, List.drop_eq_nil_of_le (Nat.le_add_right _ _), List.nil_append,
    List.length_append]
  simp only [Nat.add_sub_cancel_left, Nat.add_le_add_iff_left, Nat.add_sub_add_left]

theorem readPort_append (front segment : Octets) (offset : Nat) :
    readPort (front ++ segment) (front.length + offset) = readPort segment offset := by
  rw [readPort, Nat.add_assoc, slice_append, readPort]

theorem readPort_cons_cons (high low : UInt8) (rest : Octets) :
    readPort (high :: low :: rest) 0 = some (UInt16.ofNat (high.toNat * 256 + low.toNat)) := by
  rw [readPort, Octets.slice_of_le (by omega) (Nat.le_add_left 2 rest.length)]
  rfl

theorem readPort_drop_two (first second : UInt8) (rest : Octets) :
    readPort (first :: second :: rest) 2 = readPort rest 0 :=
  readPort_append [first, second] rest 0

theorem read_of_decodeTcp {segment : Octets} {transport : Transport}
    (decoded : decodeTcp segment = some transport) :
    20 ≤ segment.length ∧ readPort segment 0 = some transport.sourcePort ∧
      readPort segment 2 = some transport.destinationPort ∧
      Exists fun flags : UInt8 => segment[13]? = some flags ∧
        transport.syn = ((flags &&& 0x02) != 0) ∧ transport.ack = ((flags &&& 0x10) != 0) := by
  unfold decodeTcp at decoded
  split at decoded
  case h_1 s0 s1 d0 d1 b4 b5 b6 b7 b8 b9 b10 b11 b12 flags b14 b15 b16 b17 b18 b19 rest =>
    cases decoded
    refine ⟨Nat.le_add_left 20 rest.length, readPort_cons_cons s0 s1 _, ?_, flags, rfl,
      (mask_ne_zero flags rfl).symm, (mask_ne_zero flags rfl).symm⟩
    rw [readPort_drop_two, readPort_cons_cons]
  case h_2 => cases decoded

theorem read_of_decodeUdp {segment : Octets} {transport : Transport}
    (decoded : decodeUdp segment = some transport) :
    8 ≤ segment.length ∧ readPort segment 0 = some transport.sourcePort ∧
      readPort segment 2 = some transport.destinationPort ∧ transport.syn = false := by
  unfold decodeUdp at decoded
  split at decoded
  case h_1 s0 s1 d0 d1 b4 b5 b6 b7 rest =>
    cases decoded
    refine ⟨Nat.le_add_left 8 rest.length, readPort_cons_cons s0 s1 _, ?_, rfl⟩
    rw [readPort_drop_two, readPort_cons_cons]
  case h_2 => cases decoded

/-- The loop reads the transport header where the segment starts. -/
theorem readTransport_of_genuine {payload : Octets} {ip : Ipv4} {order : Octets.ByteOrder}
    {packet : Packet} (decoded : decodeIpv4 payload = some ip) (genuine : ip.Genuine)
    (read : headersOf order ip = some packet) :
    readTransport payload {
      ihl := ip.headerWords * 4
      protocol := ip.protocol
      srcIp := Octets.fromNeBytes order ip.source
      destIp := Octets.fromNeBytes order ip.destination } = some (some packet) := by
  unfold headersOf at read
  unfold readTransport
  by_cases tcp : ip.protocol = ipprotoTcp
  · rw [if_pos tcp] at read
    rcases Option.map_eq_some_iff.mp read with ⟨transport, header, rfl⟩
    rcases read_of_decodeTcp header with ⟨long, source, destination, flags, held, syn, ack⟩
    have filled : ip.segment ≠ [] := List.ne_nil_of_length_pos (by omega)
    rcases segment_position decoded genuine.words filled with ⟨front, whole, position⟩
    have start : ip.headerWords * 4 = front.length := by omega
    have enough : Not (payload.length < front.length + 20) := by
      rw [whole, List.length_append]
      omega
    have here := readPort_append front ip.segment 0
    rw [Nat.add_zero] at here
    simp only [if_pos tcp, start, if_neg enough]
    rw [whole, here, readPort_append, List.getElem?_append_right (Nat.le_add_right _ _),
      Nat.add_sub_cancel_left, source, destination, held]
    simp only [headersOf.fields, syn, ack, bne, Bool.not_not]
    rfl
  · rw [if_neg tcp] at read
    by_cases udp : ip.protocol = ipprotoUdp
    · rw [if_pos udp] at read
      rcases Option.map_eq_some_iff.mp read with ⟨transport, header, rfl⟩
      rcases read_of_decodeUdp header with ⟨long, source, destination, syn⟩
      have filled : ip.segment ≠ [] := List.ne_nil_of_length_pos (by omega)
      rcases segment_position decoded genuine.words filled with ⟨front, whole, position⟩
      have start : ip.headerWords * 4 = front.length := by omega
      have enough : Not (payload.length < front.length + 8) := by
        rw [whole, List.length_append]
        omega
      have here := readPort_append front ip.segment 0
      rw [Nat.add_zero] at here
      simp only [if_neg tcp, if_pos udp, start, if_neg enough]
      rw [whole, here, readPort_append, source, destination]
      unfold headersOf.fields
      rw [syn]
      rfl
    · rw [if_neg udp] at read
      cases read

theorem packetOf_of_genuine {payload : Octets} {ip : Ipv4} {order : Octets.ByteOrder}
    {packet : Packet} (decoded : decodeIpv4 payload = some ip) (genuine : ip.Genuine)
    (read : headersOf order ip = some packet) : packetOf order payload = some packet := by
  rcases readIpHeader_of_decodeIpv4 order decoded with ⟨header, long⟩
  rw [packetOf, if_neg (Nat.not_lt.mpr long), header, Option.bind_some,
    readTransport_of_genuine decoded genuine read]
  rfl

/-! ## Acting on the headers -/

/-- The packet passes unmarked, no owner is looked up, and the tracker stays as
it is. -/
def LeftAlone (args : NfqueueArgs) (host : HostAnswers) (now : Instant) (tables : SharedTables)
    (payload : Octets) : Prop :=
  Exists fun result => nfqueueIteration args host now tables payload = some result ∧
    result.issued = [⟨.accept, none⟩] ∧ result.lookups = [] ∧
    result.tables.connTracker = tables.connTracker

/-- Bytes that are not genuine are left alone, and the decision about a genuine
packet is the one about its headers. -/
structure ActsOnHeaders (args : NfqueueArgs) (host : HostAnswers) (now : Instant)
    (tables : SharedTables) (payload : Octets) : Prop where
  leaves : Not (IsGenuine payload) -> LeftAlone args host now tables payload
  reads : forall ip packet, decodeIpv4 payload = some ip -> ip.Genuine ->
    headersOf args.order ip = some packet ->
      nfqueueIteration args host now tables payload =
        some (if args.ruleEngine.hasActiveRules then processPacket args host now tables packet
          else passUnmarked tables)

section Decision

variable (args : NfqueueArgs) (host : HostAnswers) (now : Instant) (tables : SharedTables)
  {payload : Octets}

theorem leftAlone_passUnmarked
    (passed : nfqueueIteration args host now tables payload = some (passUnmarked tables)) :
    LeftAlone args host now tables payload :=
  ⟨_, passed, rfl, rfl, rfl⟩

/-- The bytes are left alone unless an owner is looked up for what is read from
them. -/
theorem leftAlone_iff :
    LeftAlone args host now tables payload <->
      Not (Exists fun packet => packetOf args.order payload = some packet ∧
        AsksOwner args tables packet) := by
  constructor
  · rintro ⟨result, completed, _, asked, _⟩ ⟨packet, parsed, reaches, other⟩
    rw [nfqueueIteration_of_reaches args host now tables parsed reaches] at completed
    cases completed
    rw [lookups_decisionPipeline args host now tables other] at asked
    cases asked
  · intro silent
    cases parsed : packetOf args.order payload with
    | none =>
        exact leftAlone_passUnmarked args host now tables
          (nfqueueIteration_of_unparsed args host now tables parsed)
    | some packet =>
        by_cases reaches : ReachesPipeline args tables packet
        · have dns : packet.DirectDns args := by
            by_contra other
            exact silent ⟨packet, parsed, reaches, other⟩
          have passed := nfqueueIteration_of_reaches args host now tables parsed reaches
          rw [decisionPipeline_of_directDns args host now tables dns] at passed
          exact leftAlone_passUnmarked args host now tables passed
        · exact leftAlone_passUnmarked args host now tables
            (nfqueueIteration_of_not_reaches args host now tables parsed reaches)

end Decision

/-- The loop acts on genuine headers only, exactly when the bytes are genuine or
no owner is looked up for what is read from them. -/
theorem actsOnHeaders_iff (args : NfqueueArgs) (host : HostAnswers) (now : Instant)
    (tables : SharedTables) (payload : Octets) :
    ActsOnHeaders args host now tables payload <->
      IsGenuine payload ∨
        Not (Exists fun packet => packetOf args.order payload = some packet ∧
          AsksOwner args tables packet) := by
  rw [← leftAlone_iff args host now tables]
  constructor
  · intro acts
    by_cases genuine : IsGenuine payload
    · exact Or.inl genuine
    · exact Or.inr (acts.leaves genuine)
  · intro either
    constructor
    · intro notGenuine
      exact either.resolve_left notGenuine
    · intro ip packet decoded genuine read
      rw [nfqueueIteration_eq, packetOf_of_genuine decoded genuine read]
      cases args.ruleEngine.hasActiveRules with
      | true => rfl
      | false => rfl

/-- An IPv6 packet from 2a11::1 to 2001:db8::1 with an empty UDP datagram. -/
def ipv6Packet : Octets :=
  [0x60, 0, 0, 0, 0, 8, 17, 64, 0x2A, 0x11, 0, 0, 0, 0, 0, 0, 0, 0, 0, 0, 0, 0, 0, 1,
    0x20, 0x01, 0x0D, 0xB8, 0, 0, 0, 0, 0, 0, 0, 0, 0, 0, 0, 1, 0x10, 0, 0, 53, 0, 8, 0, 0]

/-- The second byte of its source address is taken for the protocol UDP and its
first bytes for the ports, and the packet is dropped by a rule. -/
theorem ipv6_packet_is_acted_on :
    Not (forall (args : NfqueueArgs) (host : HostAnswers) (now : Instant) (tables : SharedTables)
      (payload : Octets), ActsOnHeaders args host now tables payload) := by
  intro acts
  have notGenuine : Not (IsGenuine ipv6Packet) := by
    rintro ⟨ip, decoded, genuine⟩
    cases decoded
    cases genuine.version
  rcases (acts (blockingArgs true) systemdHost 0 ⟨.new, .new⟩ ipv6Packet).leaves notGenuine with
    ⟨result, completed, issued, _⟩
  cases completed
  cases issued

end ProxyBridge
