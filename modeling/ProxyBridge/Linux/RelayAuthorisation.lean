import ProxyBridge.Core.Socks5Handshake
import ProxyBridge.Linux.PacketLoop
import ProxyBridge.Linux.Relay

namespace ProxyBridge

open Foundation Text

/-!
# Who may use the relays

Both relays listen on all addresses, and both look a client up by its port
number.  An entry of the tracker records the address that its connection came
from, and no relay reads it; the protocol of the connection is not recorded.

The log of the packet loop tells which packet an entry stems from.  A client is
served without an entry of its own exactly when the entry under its port number
stems from the other protocol or from another address.  This is said of each relay
(`tcpRelay_authorised_iff`, `udpRelay_authorised_iff`), and of both.
-/

/-- Some proxy lets the handshake succeed. -/
theorem exists_proxyHandshake (order : Octets.ByteOrder) (base64Encode : Octets -> Str)
    (proxyConfig : ProxyConfig) (destIp : UInt32) (destPort : UInt16) :
    Exists fun stream =>
      (proxyHandshake order base64Encode proxyConfig destIp destPort stream).1 = .ok () := by
  unfold proxyHandshake
  cases proxyConfig.proxyType with
  | socks5 =>
      let reply : Octets := [0x05, 0x00, 0, 0, 0, 0, 0, 0, 0, 0]
      have reports : ReportsSuccess reply := ⟨rfl, rfl, rfl⟩
      have offered : Method.Offered proxyConfig.username proxyConfig.password .free := trivial
      exact ⟨TcpStream.opened [Method.free.grant ++ (reply ++ [])] .closed (fun _ => true),
        socks5Connect_grants offered reports (List.append_nil _) (fun _ _ => rfl)⟩
  | http =>
      exact ⟨TcpStream.opened [earlyByte] .closed (fun _ => true),
        (httpConnect_uncut_ok_iff _ _ _ _ _ _ _ _).mpr ⟨rfl, earlyByte_reportsOk⟩⟩

section Relays

variable (order : Octets.ByteOrder) (base64Encode : Octets -> Str) (proxyConfig : ProxyConfig)

/-- The TCP relay connects the client to a destination, if the proxy can be
reached and accepts. -/
def TcpForwards (tracker : ConnectionTracker) (client : SocketAddr) (dest : UInt32 × UInt16) :
    Prop :=
  tracker.get client.port = some dest ∧
    Exists fun connect => Exists fun stream =>
      acceptTcp order base64Encode proxyConfig connect tracker client = some (.ok (), stream)

/-- The UDP relay sends a datagram of the client towards a destination. -/
def UdpForwards (tracker : ConnectionTracker) (relay : UdpRelay) (client : SocketAddr)
    (dest : UInt32 × UInt16) : Prop :=
  Exists fun data => Exists fun outgoing =>
    receiveFromClient order tracker relay client data = some outgoing ∧ outgoing.dest = dest

/-- The tracker holds an entry of this client, for this protocol and this
destination. -/
def HoldsEntry (state : LoopState) (isTcp : Bool) (client : SocketAddr)
    (dest : UInt32 × UInt16) : Prop :=
  Exists fun info => Exists fun live =>
    state.tables.connTracker.connections.get client.port = some info ∧
      liveFlow client.port state.log = some live ∧ live.2.isTcp = isTcp ∧
      Ipv4Addr.fromNe order info.srcIp = client.ip ∧ info.srcPort = client.port ∧
      (info.origDestIp, info.origDestPort) = dest

/-- Both relays serve the client only for an entry of its own. -/
structure RelaysAuthorised (state : LoopState) (relay : UdpRelay) (client : SocketAddr) : Prop where
  tcp : forall dest,
    TcpForwards order base64Encode proxyConfig state.tables.connTracker client dest ->
      HoldsEntry order state true client dest
  udp : forall dest, UdpForwards order state.tables.connTracker relay client dest ->
    HoldsEntry order state false client dest

/-- If there is a live mark on the client's port, it was set for a packet of the
client and of this protocol. -/
def OwnMark (state : LoopState) (isTcp : Bool) (client : SocketAddr) : Prop :=
  forall live, liveFlow client.port state.log = some live ->
    live.2.isTcp = isTcp ∧ Ipv4Addr.fromNe order live.2.srcIp = client.ip

/-- A live mark carries the port that it is found under. -/
theorem srcPort_of_liveFlow {port : UInt16} {log : List LogEntry} {live : Instant × Flow}
    (found : liveFlow port log = some live) : live.2.srcPort = port := by
  induction log with
  | nil => cases found
  | cons entry earlier ih =>
      cases entry with
      | marked now flow =>
          rw [liveFlow] at found
          by_cases same : port = flow.srcPort
          · rw [if_pos same] at found
            cases found
            exact same.symm
          · rw [if_neg same] at found
            exact ih found
      | cleaned now =>
          exact ih (Option.filter_eq_some_iff.mp found).1

variable {state : LoopState} {client : SocketAddr}

/-- A served client has an entry of its own exactly when the mark behind the
entry is its own. -/
theorem holdsEntry_iff (matched : EntriesMatch state) (isTcp : Bool) {dest : UInt32 × UInt16}
    (found : state.tables.connTracker.get client.port = some dest) :
    HoldsEntry order state isTcp client dest <-> OwnMark order state isTcp client := by
  rcases Option.map_eq_some_iff.mp found with ⟨info, held, same⟩
  have entry := matched client.port
  rw [held] at entry
  rcases Option.map_eq_some_iff.mp entry.symm with ⟨live, alive, rfl⟩
  constructor
  · rintro ⟨other, mark, held', alive', protocol, address, _⟩ live' alive''
    cases alive'.symm.trans alive''
    cases held.symm.trans held'
    cases alive.symm.trans alive'
    exact ⟨protocol, address⟩
  · intro own
    have mine := own live alive
    exact ⟨entryOf live, live, held, alive, mine.1, mine.2, srcPort_of_liveFlow alive, same⟩

/-- A port with a live mark is tracked towards the destination of the mark. -/
theorem get_of_liveFlow (matched : EntriesMatch state) {port : UInt16} {live : Instant × Flow}
    (alive : liveFlow port state.log = some live) :
    state.tables.connTracker.get port = some (live.2.destIp, live.2.destPort) := by
  rw [ConnectionTracker.get, matched port, alive]
  rfl

/-- The TCP relay serves every client whose port number is tracked, once the
proxy's address is known. -/
theorem tcpForwards_iff (tracker : ConnectionTracker) (dest : UInt32 × UInt16) :
    TcpForwards order base64Encode proxyConfig tracker client dest <->
      tracker.get client.port = some dest ∧ proxyConfig.resolvedIp ≠ none := by
  apply and_congr_right
  intro found
  simp only [acceptTcp, found, handleTcpConnection, Option.bind_eq_bind, Option.bind_some]
  cases proxyConfig.resolvedIp with
  | none =>
      refine iff_of_false ?_ (fun some => some rfl)
      rintro ⟨connect, stream, impossible⟩
      cases impossible
  | some proxyIp =>
      refine iff_of_true ?_ (by simp)
      rcases exists_proxyHandshake order base64Encode proxyConfig dest.1 dest.2 with
        ⟨stream, succeeded⟩
      refine ⟨fun _ => some stream,
        (proxyHandshake order base64Encode proxyConfig dest.1 dest.2 stream).2, ?_⟩
      rw [← succeeded]
      rfl

/-- The UDP relay serves every client whose port number is tracked, once it has
associated. -/
theorem udpForwards_iff (tracker : ConnectionTracker) (relay : UdpRelay)
    (dest : UInt32 × UInt16) :
    UdpForwards order tracker relay client dest <->
      tracker.get client.port = some dest ∧ relay.relayAddr ≠ none ∧ relay.hasSendSock = true := by
  unfold UdpForwards receiveFromClient
  cases found : tracker.get client.port with
  | none => simp
  | some known =>
      cases addr : relay.relayAddr with
      | none => simp
      | some addr =>
          cases relay.hasSendSock with
          | false => simp
          | true => simp [Option.filter_some]

/-- A relay that serves every tracked client, when it can serve at all, serves
this one only for its own entry exactly when the live mark is its own. -/
theorem authorised_iff (matched : EntriesMatch state) (isTcp : Bool) {able : Prop}
    {forwards : UInt32 × UInt16 -> Prop}
    (serves : forall dest, forwards dest <->
      state.tables.connTracker.get client.port = some dest ∧ able) :
    (forall dest, forwards dest -> HoldsEntry order state isTcp client dest) <->
      (able -> OwnMark order state isTcp client) := by
  constructor
  · intro authorised can live alive
    have found := get_of_liveFlow matched alive
    have held := authorised _ ((serves _).mpr ⟨found, can⟩)
    exact (holdsEntry_iff order matched isTcp found).mp held live alive
  · intro own dest served
    rcases (serves dest).mp served with ⟨found, can⟩
    exact (holdsEntry_iff order matched isTcp found).mpr (own can)

/-- The TCP relay of a reachable state: what it can forward without an entry of
the client. -/
theorem tcpRelay_authorised_iff (events : List LoopEvent) (client : SocketAddr) :
    let state := run loopStep .initial events
    (forall dest,
        TcpForwards order base64Encode proxyConfig state.tables.connTracker client dest ->
          HoldsEntry order state true client dest) <->
      (proxyConfig.resolvedIp ≠ none -> OwnMark order state true client) :=
  authorised_iff order (entriesMatch_run events) true
    (fun dest => tcpForwards_iff order base64Encode proxyConfig _ dest)

/-- The UDP relay of a reachable state, with or without an association. -/
theorem udpRelay_authorised_iff (events : List LoopEvent) (relay : UdpRelay)
    (client : SocketAddr) :
    let state := run loopStep .initial events
    (forall dest, UdpForwards order state.tables.connTracker relay client dest ->
        HoldsEntry order state false client dest) <->
      (relay.relayAddr ≠ none ∧ relay.hasSendSock = true -> OwnMark order state false client) :=
  authorised_iff order (entriesMatch_run events) false (fun dest => udpForwards_iff order _ _ dest)

/-- In every reachable state, a relay that can forward at all serves a client
only for its own entry exactly when the live mark on the client's port was set
for a packet of that client and of the relay's protocol. -/
theorem relaysAuthorised_iff (events : List LoopEvent) (relay : UdpRelay) (client : SocketAddr) :
    let state := run loopStep .initial events
    RelaysAuthorised order base64Encode proxyConfig state relay client <->
      (proxyConfig.resolvedIp ≠ none -> OwnMark order state true client) ∧
        (relay.relayAddr ≠ none -> relay.hasSendSock = true ->
          OwnMark order state false client) := by
  intro state
  have tcp := tcpRelay_authorised_iff order base64Encode proxyConfig events client
  have udp := udpRelay_authorised_iff order events relay client
  constructor
  · intro authorised
    exact ⟨tcp.mp authorised.tcp, fun associated bound => udp.mp authorised.udp ⟨associated, bound⟩⟩
  · rintro ⟨tcpOwn, udpOwn⟩
    exact ⟨tcp.mpr tcpOwn, udp.mpr (fun able => udpOwn able.1 able.2)⟩

end Relays

/-! The counterexample: the entry of a local DNS query lets another host open a
TCP connection through the relay, from the same port number. -/

/-- The client of the query is at 10.0.0.2, the stranger at 192.168.1.66. -/
theorem stranger_uses_tcp_relay :
    Not (forall (order : Octets.ByteOrder) (base64Encode : Octets -> Str)
      (proxyConfig : ProxyConfig) (events : List LoopEvent) (relay : UdpRelay)
      (client : SocketAddr),
      RelaysAuthorised order base64Encode proxyConfig (run loopStep .initial events) relay
        client) := by
  intro authorised
  let proxyConfig : ProxyConfig := { mixedArgs.proxyConfig with resolvedIp := some 0x0900000A }
  let events := [LoopEvent.packet mixedArgs systemdHost dnsQuery]
  let stranger : SocketAddr := ⟨⟨192, 168, 1, 66⟩, 4096⟩
  have found : (run loopStep .initial events).tables.connTracker.get stranger.port =
      some (0x08080808, 53) := rfl
  have forwards := (tcpForwards_iff .little (fun _ => []) proxyConfig _ _).mpr
    ⟨found, Option.some_ne_none _⟩
  have held := (authorised .little (fun _ => []) proxyConfig events RelayState.initial.relay
    stranger).tcp _ forwards
  have own := (holdsEntry_iff .little (entriesMatch_run events) true found).mp held _ rfl
  cases own.1

end ProxyBridge
