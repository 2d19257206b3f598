import ProxyBridge.Linux.RelayAuthorisation
import ProxyBridge.Linux.ReplyRouting
import ProxyBridge.Linux.System

namespace ProxyBridge

open Foundation Text

/-!
# Where everything comes from that is relayed

The relays look destinations up in the tracker, and nothing but the packet loop
puts any there.  So whatever passes a relay can be traced back to a packet that
the loop marked before, on the same source port and for the same destination: a
datagram that goes to the proxy, a reply that comes back, and a connection
through the proxy (`relayed_provenance`).  The mark was recent when the
connections were last cleaned up.

The packet was marked because the rules sent it to the proxy.
-/

/-- When the connections were last cleaned up. -/
def lastCleaned : List LogEntry -> Option Instant
  | [] => none
  | .marked _ _ :: earlier => lastCleaned earlier
  | .cleaned now :: _ => some now

/-- The last clean-up left no mark that was too old by then. -/
def MarksRecent (state : LoopState) : Prop :=
  forall cleaned, lastCleaned state.log = some cleaned -> cleaned ≤ state.now ∧
    forall port live, liveFlow port state.log = some live ->
      elapsedMillis cleaned live.1 < connectionTimeoutMs

theorem elapsedMillis_of_le {now stamp : Instant} (before : now ≤ stamp) :
    elapsedMillis now stamp = 0 := by
  rw [elapsedMillis, Nat.sub_eq_zero_of_le before]

theorem marksRecent_loopStep (state : LoopState) (event : LoopEvent)
    (recent : MarksRecent state) : MarksRecent (loopStep state event) := by
  intro cleaned last
  cases event with
  | packet args host payload =>
      have clock := now_loopStep_packet args state host payload
      rcases loopStep_packet_cases state args host payload with unmarked | marked
      · rcases unmarked with ⟨_, _, _, logged⟩
        rw [logged] at last
        rw [logged, clock]
        exact recent cleaned last
      · rcases marked with ⟨packet, _, _, _, _, logged⟩
        rw [logged] at last
        have before := recent cleaned last
        rw [logged, clock]
        refine ⟨before.1, ?_⟩
        intro port live alive
        rw [liveFlow] at alive
        by_cases same : port = packet.flow.srcPort
        · rw [if_pos same] at alive
          cases alive
          rw [elapsedMillis_of_le before.1]
          decide
        · rw [if_neg same] at alive
          exact before.2 port live alive
  | cleanupConnections =>
      cases last
      refine ⟨Nat.le_refl _, ?_⟩
      intro port live alive
      exact of_decide_eq_true (Option.filter_eq_some_iff.mp alive).2
  | cleanupPids => exact recent cleaned last
  | advance nanos =>
      have before := recent cleaned last
      exact ⟨Nat.le_trans before.1 (Nat.le_add_right _ _), before.2⟩

theorem marksRecent_run (events : List LoopEvent) : MarksRecent (run loopStep .initial events) :=
  run_invariant loopStep (fun _ last => by cases last) marksRecent_loopStep events

theorem mem_of_liveFlow {port : UInt16} {log : List LogEntry} {live : Instant × Flow}
    (alive : liveFlow port log = some live) : .marked live.1 live.2 ∈ log := by
  induction log with
  | nil => cases alive
  | cons entry earlier ih =>
      cases entry with
      | marked now flow =>
          rw [liveFlow] at alive
          by_cases same : port = flow.srcPort
          · rw [if_pos same] at alive
            cases alive
            exact List.mem_cons_self
          · rw [if_neg same] at alive
            exact List.mem_cons_of_mem _ (ih alive)
      | cleaned now =>
          exact List.mem_cons_of_mem _ (ih (Option.filter_eq_some_iff.mp alive).1)

/-- The loop marks the packet in this state, and it is on the port and for the
destination. -/
def MarksFor (args : NfqueueArgs) (state : LoopState) (host : HostAnswers) (payload : Octets)
    (port : UInt16) (dest : UInt32 × UInt16) : Prop :=
  Exists fun packet => packetOf args.order payload = some packet ∧
    MayBeMarked args host state.now state.tables packet ∧
    packet.srcPort = port ∧ (packet.destIp, packet.destPort) = dest

section Provenance

variable (args : NfqueueArgs) (base64Encode : Octets -> Str)

/-- The system after some events. -/
def systemAfter (events : List SystemEvent) : System :=
  run (systemStep args base64Encode) .initial events

/-- An earlier packet was marked on the port and for the destination, and the
mark was not too old when the connections were last cleaned up. -/
def MarkedBefore (past : List SystemEvent) (port : UInt16) (dest : UInt32 × UInt16) : Prop :=
  Exists fun before => Exists fun host => Exists fun payload =>
    before ++ [.packet host payload] <+: past ∧
      MarksFor args (systemAfter args base64Encode before).loop host payload port dest ∧
      forall cleaned, lastCleaned (systemAfter args base64Encode past).loop.log = some cleaned ->
        elapsedMillis cleaned (systemAfter args base64Encode before).loop.now <
          connectionTimeoutMs

variable {args base64Encode}

/-- A mark enters the log with its packet. -/
theorem marked_systemStep {system : System} {event : SystemEvent} {now : Instant} {flow : Flow}
    (absent : .marked now flow ∉ system.loop.log)
    (present : .marked now flow ∈ (systemStep args base64Encode system event).loop.log) :
    Exists fun host => Exists fun payload => event = .packet host payload ∧
      system.loop.now = now ∧
      MarksFor args system.loop host payload flow.srcPort (flow.destIp, flow.destPort) := by
  rw [loop_systemStep] at present
  cases event with
  | packet host payload =>
      refine ⟨host, payload, rfl, ?_⟩
      change _ ∈ (loopStep system.loop (.packet args host payload)).log at present
      rcases loopStep_packet_cases system.loop args host payload with unmarked | marked
      · rw [unmarked.2.2.2] at present
        exact absurd present absent
      · rcases marked with ⟨packet, parsed, mayBe, _, _, logged⟩
        rw [logged] at present
        rcases List.mem_cons.mp present with new | old
        · cases new
          exact ⟨rfl, packet, parsed, mayBe, rfl, rfl⟩
        · exact absurd old absent
  | cleanupConnections =>
      change _ ∈ LogEntry.cleaned system.loop.now :: system.loop.log at present
      rcases List.mem_cons.mp present with new | old
      · cases new
      · exact absurd old absent
  | cleanupPids => exact absurd present absent
  | advance nanos => exact absurd present absent
  | accept client connect => exact absurd present absent
  | associate connect bound => exact absurd present absent
  | client datagram sent => exact absurd present absent
  | proxy datagram keys => exact absurd present absent

/-- What is tracked was marked before. -/
theorem markedBefore_of_tracked {past : List SystemEvent} {port : UInt16}
    {dest : UInt32 × UInt16}
    (tracked : (systemAfter args base64Encode past).loop.tables.connTracker.get port = some dest) :
    MarkedBefore args base64Encode past port dest := by
  have loop := loop_run args base64Encode past
  have matched : EntriesMatch (systemAfter args base64Encode past).loop := by
    rw [systemAfter, loop]
    exact entriesMatch_run _
  have recent : MarksRecent (systemAfter args base64Encode past).loop := by
    rw [systemAfter, loop]
    exact marksRecent_run _
  rcases Option.map_eq_some_iff.mp tracked with ⟨info, held, same⟩
  rw [matched port] at held
  rcases Option.map_eq_some_iff.mp held with ⟨live, alive, rfl⟩
  rcases @exists_origin _ _ (systemStep args base64Encode)
    (fun system => .marked live.1 live.2 ∈ system.loop.log) .initial past List.not_mem_nil
    (mem_of_liveFlow alive) with ⟨before, event, inside, absent, present⟩
  rcases marked_systemStep absent present with ⟨host, payload, rfl, clock, marks⟩
  rw [srcPort_of_liveFlow alive, show (live.2.destIp, live.2.destPort) = dest from same] at marks
  refine ⟨before, host, payload, inside, marks, ?_⟩
  intro cleaned last
  rw [systemAfter, clock]
  exact (recent cleaned last).2 port live alive

/-! ## What a step relays -/

/-- A datagram in the format of SOCKS5, with an address and a payload. -/
def Carries (order : Octets.ByteOrder) (packet : Octets) (dest : UInt32 × UInt16)
    (data : Octets) : Prop :=
  Exists fun offset => parseSocks5UdpPacket order packet = some (dest.1, dest.2, offset) ∧
    packet.drop offset = data

theorem carries_buildSocks5UdpPacket (order : Octets.ByteOrder) (dest : UInt32 × UInt16)
    (data : Octets) :
    Carries order (buildSocks5UdpPacket order dest.1 dest.2 data) dest data := by
  refine ⟨10, parseSocks5UdpPacket_build order dest.1 dest.2 data, ?_⟩
  have header : ([0x00, 0x00, 0x00, socks5AtypIpv4] ++ Octets.toNeBytes order dest.1 ++
      Octets.toBeBytes dest.2).length = 10 := by
    rw [List.length_append, List.length_append, Octets.length_toNeBytes]
    rfl
  rw [buildSocks5UdpPacket, ← header, List.drop_left]

/-- An own step of the relay as an event of the system. -/
def RelayEvent.within : RelayEvent -> Option SystemEvent
  | .associate connect bound => some (.associate connect bound)
  | .client datagram sent => some (.client datagram sent)
  | .proxy datagram keys => some (.proxy datagram keys)
  | _ => none

/-- Nothing happens to the relay but its own changes. -/
theorem systemStep_relay_cases (system : System) (event : SystemEvent) :
    let later := systemStep args base64Encode system event
    (later.relay = system.relay ∧ later.forwarded = system.forwarded ∧
        later.delivered = system.delivered) ∨
      Exists fun own => own.within = some event ∧
        RelayChange args.order args.proxyConfig system.relayView own later.relayView := by
  have relays : forall own : RelayEvent, own.Own ->
      ((system.relayed args own).relay = system.relay ∧
          (system.relayed args own).forwarded = system.forwarded ∧
          (system.relayed args own).delivered = system.delivered) ∨
        RelayChange args.order args.proxyConfig system.relayView own
          (system.relayed args own).relayView := by
    intro own isOwn
    by_cases socks5 : args.proxyConfig.proxyType = .socks5
    · right
      rw [relayView_relayed args system isOwn socks5]
      exact relayStep_change isOwn
    · left
      rw [relayed_of_http args system own socks5]
      exact ⟨rfl, rfl, rfl⟩
  cases event with
  | packet host payload => exact Or.inl ⟨rfl, rfl, rfl⟩
  | cleanupConnections => exact Or.inl ⟨rfl, rfl, rfl⟩
  | cleanupPids => exact Or.inl ⟨rfl, rfl, rfl⟩
  | advance nanos => exact Or.inl ⟨rfl, rfl, rfl⟩
  | accept client connect => exact Or.inl ⟨rfl, rfl, rfl⟩
  | associate connect bound =>
      exact (relays (.associate connect bound) trivial).imp_right (fun change => ⟨_, rfl, change⟩)
  | client datagram sent =>
      exact (relays (.client datagram sent) trivial).imp_right (fun change => ⟨_, rfl, change⟩)
  | proxy datagram keys =>
      exact (relays (.proxy datagram keys) trivial).imp_right (fun change => ⟨_, rfl, change⟩)

section Step

variable {system : System} {event : SystemEvent}

/-- A datagram for the proxy is one that a client has sent just now. -/
theorem forwarded_systemStep {outgoing : Forwarded} (absent : outgoing ∉ system.forwarded)
    (present : outgoing ∈ (systemStep args base64Encode system event).forwarded) :
    Exists fun data => event = .client (some (outgoing.client, data)) true ∧
      receiveFromClient args.order system.loop.tables.connTracker system.relay outgoing.client
        data = some outgoing := by
  change outgoing ∈ (systemStep args base64Encode system event).relayView.forwarded at present
  rcases systemStep_relay_cases system event with ⟨_, kept, _⟩ | ⟨own, inside, change⟩
  · exact absurd (kept ▸ present) absent
  · generalize (systemStep args base64Encode system event).relayView = later at present change
    cases change with
    | moved phase => exact absurd present absent
    | associated connect addr _ _ => exact absurd present absent
    | gaveUp => exact absurd present absent
    | delivered sender packet keys delivery _ _ => exact absurd present absent
    | forwarded made data same received =>
        rcases List.mem_cons.mp present with rfl | old
        · subst same
          cases inside
          exact ⟨data, rfl, received⟩
        · exact absurd old absent

/-- A datagram for a client is one that has come in on the proxy's socket. -/
theorem delivered_systemStep {delivery : SocketAddr × Octets}
    (absent : delivery ∉ system.delivered)
    (present : delivery ∈ (systemStep args base64Encode system event).delivered) :
    Exists fun sender => Exists fun packet => Exists fun keys =>
      event = .proxy (some (sender, packet)) keys ∧
        receiveFromProxy args.order system.loop.tables.connTracker keys packet =
          some delivery := by
  change delivery ∈ (systemStep args base64Encode system event).relayView.delivered at present
  rcases systemStep_relay_cases system event with ⟨_, _, kept⟩ | ⟨own, inside, change⟩
  · exact absurd (kept ▸ present) absent
  · generalize (systemStep args base64Encode system event).relayView = later at present change
    cases change with
    | moved phase => exact absurd present absent
    | associated connect addr _ _ => exact absurd present absent
    | gaveUp => exact absurd present absent
    | forwarded made data _ _ => exact absurd present absent
    | delivered sender packet keys made same received =>
        rcases List.mem_cons.mp present with rfl | old
        · subst same
          cases inside
          exact ⟨sender, packet, keys, rfl, received⟩
        · exact absurd old absent

/-- A relay address is one that the proxy has given just now. -/
theorem relayAddr_systemStep {addr : SocketAddr} (absent : system.relay.relayAddr ≠ some addr)
    (present : (systemStep args base64Encode system event).relay.relayAddr = some addr) :
    Exists fun connect => event = .associate connect true ∧
      establishUdpAssociate args.order args.proxyConfig connect true = some addr := by
  change (systemStep args base64Encode system event).relayView.relay.relayAddr = some addr
    at present
  rcases systemStep_relay_cases system event with ⟨kept, _, _⟩ | ⟨own, inside, change⟩
  · exact absurd (kept ▸ present) absent
  · generalize (systemStep args base64Encode system event).relayView = later at present change
    cases change with
    | moved phase => exact absurd present absent
    | gaveUp => cases present
    | forwarded made data _ _ => exact absurd present absent
    | delivered sender packet keys made _ _ => exact absurd present absent
    | associated connect made same given =>
        cases present
        subst same
        cases inside
        exact ⟨connect, rfl, given⟩

/-- A tunnel goes where its client's port was tracked to. -/
theorem openTunnel_eq_some {tracker : ConnectionTracker} {client : SocketAddr}
    {connect : SocketAddr -> Option TcpStream} {tunnel : Tunnel}
    (opened : openTunnel args base64Encode tracker client connect = some tunnel) :
    tunnel.client = client ∧ tracker.get client.port = some tunnel.dest ∧
      handleTcpConnection args.order base64Encode args.proxyConfig connect tunnel.dest.1
        tunnel.dest.2 = some (.ok (), tunnel.stream) := by
  unfold openTunnel acceptTcp at opened
  cases found : tracker.get client.port with
  | none =>
      rw [found] at opened
      cases opened
  | some dest =>
      rw [found, Option.bind_eq_bind, Option.bind_some] at opened
      cases handled : handleTcpConnection args.order base64Encode args.proxyConfig connect dest.1
          dest.2 with
      | none =>
          rw [handled] at opened
          cases opened
      | some outcome =>
          rw [handled] at opened
          rcases outcome with ⟨result, stream⟩
          cases result with
          | error error => cases opened
          | ok =>
              cases opened
              exact ⟨rfl, rfl, handled⟩

/-- A tunnel is opened when its connection is accepted. -/
theorem tunnels_systemStep {tunnel : Tunnel} (absent : tunnel ∉ system.tunnels)
    (present : tunnel ∈ (systemStep args base64Encode system event).tunnels) :
    Exists fun connect => event = .accept tunnel.client connect ∧
      openTunnel args base64Encode system.loop.tables.connTracker tunnel.client connect =
        some tunnel := by
  have relays : forall own, tunnel ∉ (system.relayed args own).tunnels := by
    intro own
    unfold System.relayed
    by_cases socks5 : args.proxyConfig.proxyType = .socks5
    · rw [if_pos socks5]
      exact absent
    · rw [if_neg socks5]
      exact absent
  cases event with
  | packet host payload => exact absurd present absent
  | cleanupConnections => exact absurd present absent
  | cleanupPids => exact absurd present absent
  | advance nanos => exact absurd present absent
  | associate connect bound => exact absurd present (relays _)
  | client datagram sent => exact absurd present (relays _)
  | proxy datagram keys => exact absurd present (relays _)
  | accept client connect =>
      rcases List.mem_append.mp present with new | old
      · have opened := Option.mem_toList.mp new
        rw [(openTunnel_eq_some opened).1]
        exact ⟨connect, rfl, opened⟩
      · exact absurd old absent

end Step

variable (args base64Encode)

/-- A client has sent what goes to the proxy, for the destination of its port's
mark, and the proxy has given the address that it goes to. -/
def FromClient (events : List SystemEvent) (outgoing : Forwarded) : Prop :=
  Exists fun past => Exists fun data =>
    past ++ [.client (some (outgoing.client, data)) true] <+: events ∧
      Carries args.order outgoing.packet outgoing.dest data ∧
      MarkedBefore args base64Encode past outgoing.client.port outgoing.dest ∧
      Exists fun before => Exists fun connect =>
        before ++ [.associate connect true] <+: past ∧
          establishUdpAssociate args.order args.proxyConfig connect true =
            some outgoing.relayAddr

/-- A datagram has come in that names a remote end, and the local port that its
payload goes to is marked for this remote end. -/
def FromProxy (events : List SystemEvent) (delivery : SocketAddr × Octets) : Prop :=
  Exists fun past => Exists fun sender => Exists fun packet => Exists fun keys =>
    Exists fun dest => past ++ [.proxy (some (sender, packet)) keys] <+: events ∧
      Carries args.order packet dest delivery.2 ∧ delivery.1.ip = Ipv4Addr.localhost ∧
      MarkedBefore args base64Encode past delivery.1.port dest

/-- A connection has been accepted, and the proxy was asked for the destination
of its port's mark. -/
def FromAccept (events : List SystemEvent) (tunnel : Tunnel) : Prop :=
  Exists fun past => Exists fun connect =>
    past ++ [.accept tunnel.client connect] <+: events ∧
      handleTcpConnection args.order base64Encode args.proxyConfig connect tunnel.dest.1
        tunnel.dest.2 = some (.ok (), tunnel.stream) ∧
      MarkedBefore args base64Encode past tunnel.client.port tunnel.dest

variable {args base64Encode}

theorem fromClient_of_forwarded {events : List SystemEvent} {outgoing : Forwarded}
    (sent : outgoing ∈ (systemAfter args base64Encode events).forwarded) :
    FromClient args base64Encode events outgoing := by
  rcases @exists_origin _ _ (systemStep args base64Encode)
    (fun system => outgoing ∈ system.forwarded) .initial events List.not_mem_nil sent with
    ⟨past, event, inside, absent, present⟩
  rcases forwarded_systemStep absent present with ⟨data, rfl, received⟩
  rcases client_of_receiveFromClient received with ⟨tracked, addressed, _, built⟩
  rcases @exists_origin _ _ (systemStep args base64Encode)
    (fun system => system.relay.relayAddr = some outgoing.relayAddr) .initial past
    (fun given => by cases given) addressed with ⟨before, earlier, within, unknown, given⟩
  rcases relayAddr_systemStep unknown given with ⟨connect, rfl, established⟩
  refine ⟨past, data, inside, ?_, markedBefore_of_tracked tracked, before, connect, within,
    established⟩
  rw [built]
  exact carries_buildSocks5UdpPacket args.order outgoing.dest data

theorem fromProxy_of_delivered {events : List SystemEvent} {delivery : SocketAddr × Octets}
    (sent : delivery ∈ (systemAfter args base64Encode events).delivered) :
    FromProxy args base64Encode events delivery := by
  rcases @exists_origin _ _ (systemStep args base64Encode)
    (fun system => delivery ∈ system.delivered) .initial events List.not_mem_nil sent with
    ⟨past, event, inside, absent, present⟩
  rcases delivered_systemStep absent present with ⟨sender, packet, keys, rfl, received⟩
  rcases Option.bind_eq_some_iff.mp received with ⟨⟨srcIp, srcPort, dataOffset⟩, parsed, rest⟩
  rcases Option.bind_eq_some_iff.mp rest with ⟨clientPort, found, built⟩
  cases built
  have view := relayView_run args base64Encode past
  have filed : FiledByPort (systemAfter args base64Encode past).relayView := by
    rw [systemAfter, view]
    exact filedByPort_run args.order args.proxyConfig _
  have tracked : (systemAfter args base64Encode past).loop.tables.connTracker.get clientPort =
      some (srcIp, srcPort) :=
    ConnectionTracker.FiledBySrcPort.get_of_findByDest filed found
  exact ⟨past, sender, packet, keys, (srcIp, srcPort), inside, ⟨dataOffset, parsed, rfl⟩, rfl,
    markedBefore_of_tracked tracked⟩

theorem fromAccept_of_tunnels {events : List SystemEvent} {tunnel : Tunnel}
    (opened : tunnel ∈ (systemAfter args base64Encode events).tunnels) :
    FromAccept args base64Encode events tunnel := by
  rcases @exists_origin _ _ (systemStep args base64Encode)
    (fun system => tunnel ∈ system.tunnels) .initial events List.not_mem_nil opened with
    ⟨past, event, inside, absent, present⟩
  rcases tunnels_systemStep absent present with ⟨connect, rfl, made⟩
  rcases openTunnel_eq_some made with ⟨_, tracked, handled⟩
  exact ⟨past, connect, inside, handled, markedBefore_of_tracked tracked⟩

/-- In every run of the system, whatever has passed a relay has its origin: in
what a client sent, what the proxy's socket received or what was accepted, and
before that in a packet that the loop marked, on the same port and for the same
remote end. -/
theorem relayed_provenance (events : List SystemEvent) :
    let system := systemAfter args base64Encode events
    (forall outgoing, outgoing ∈ system.forwarded ->
        FromClient args base64Encode events outgoing) ∧
      (forall delivery, delivery ∈ system.delivered ->
        FromProxy args base64Encode events delivery) ∧
      forall tunnel, tunnel ∈ system.tunnels -> FromAccept args base64Encode events tunnel :=
  ⟨fun _ => fromClient_of_forwarded, fun _ => fromProxy_of_delivered,
    fun _ => fromAccept_of_tunnels⟩

end Provenance

end ProxyBridge
