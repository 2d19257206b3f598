import ProxyBridge.Foundation.Simulation
import ProxyBridge.Linux.PacketLoop
import ProxyBridge.Linux.Relay

namespace ProxyBridge

open Foundation Text

/-!
# The tasks of the program together

The packet loop, the two relays and the clean-up task run at the same time and
share the tracker and the clock.  Here they are one state machine, whose events
come in any order.

Each part is what it is alone.  The packet loop goes through the run of its own
events, whatever the relays do; the UDP relay goes through a run of its own in
which the tracker changes as the packets and the clean-ups say
(`system_components`).
-/

/-- A connection through the TCP relay: whose it is, where it goes, and the
connection to the proxy after the handshake. -/
structure Tunnel where
  client : SocketAddr
  dest : UInt32 × UInt16
  stream : TcpStream

structure System where
  loop : LoopState
  relay : UdpRelay
  forwarded : List Forwarded
  delivered : List (SocketAddr × Octets)
  tunnels : List Tunnel

namespace System

def initial : System where
  loop := .initial
  relay := RelayState.initial.relay
  forwarded := []
  delivered := []
  tunnels := []

/-- The system as the UDP relay sees it. -/
def relayView (system : System) : RelayState where
  now := system.loop.now
  tracker := system.loop.tables.connTracker
  relay := system.relay
  forwarded := system.forwarded
  delivered := system.delivered

end System

/-- The steps of the tasks, with what the queue, the sockets and the clock
answer. -/
inductive SystemEvent where
  | packet (host : HostAnswers) (payload : Octets)
  | cleanupConnections
  | cleanupPids
  | advance (nanos : Nat)
  | accept (client : SocketAddr) (connect : SocketAddr -> Option TcpStream)
  | associate (connect : SocketAddr -> Option TcpStream) (bound : Bool)
  | client (datagram : Option (SocketAddr × Octets)) (sent : Bool)
  | proxy (datagram : Option (SocketAddr × Octets)) (keys : List UInt16)

section Steps

variable (args : NfqueueArgs) (base64Encode : Octets -> Str)

/-- The tunnel that the TCP relay opens for an accepted connection. -/
def openTunnel (tracker : ConnectionTracker) (client : SocketAddr)
    (connect : SocketAddr -> Option TcpStream) : Option Tunnel :=
  match tracker.get client.port,
      acceptTcp args.order base64Encode args.proxyConfig connect tracker client with
  | some dest, some (.ok (), stream) => some { client := client, dest := dest, stream := stream }
  | _, _ => none

namespace System

/-- A step of the packet loop or the clean-up task. -/
def looped (system : System) (event : LoopEvent) : System :=
  { system with loop := loopStep system.loop event }

/-- A step of the UDP relay, which runs for a SOCKS5 proxy alone. -/
def relayed (system : System) (event : RelayEvent) : System :=
  if args.proxyConfig.proxyType = .socks5 then
    let later := relayStep args.order args.proxyConfig system.relayView event
    { system with
      relay := later.relay
      forwarded := later.forwarded
      delivered := later.delivered }
  else system

end System

def systemStep (system : System) : SystemEvent -> System
  | .packet host payload => system.looped (.packet args host payload)
  | .cleanupConnections => system.looped .cleanupConnections
  | .cleanupPids => system.looped .cleanupPids
  | .advance nanos => system.looped (.advance nanos)
  | .accept client connect =>
      { system with
        tunnels := (openTunnel args base64Encode system.loop.tables.connTracker client
          connect).toList ++ system.tunnels }
  | .associate connect bound => system.relayed args (.associate connect bound)
  | .client datagram sent => system.relayed args (.client datagram sent)
  | .proxy datagram keys => system.relayed args (.proxy datagram keys)

/-! ## The parts -/

/-- What the packet loop and the clean-up task see of an event. -/
def loopSees : SystemEvent -> List LoopEvent
  | .packet host payload => [.packet args host payload]
  | .cleanupConnections => [.cleanupConnections]
  | .cleanupPids => [.cleanupPids]
  | .advance nanos => [.advance nanos]
  | _ => []

/-- What the UDP relay sees of an event: its own steps, and what the others do
to the tracker and the clock. -/
def relaySees (system : System) : SystemEvent -> List RelayEvent
  | .packet host payload =>
      ((markedFlow system.loop args host payload).map (fun flow =>
        .add flow.srcPort flow.srcIp flow.destIp flow.destPort)).toList
  | .cleanupConnections => [.cleanup]
  | .cleanupPids => []
  | .advance nanos => [.advance nanos]
  | .accept _ _ => []
  | .associate connect bound =>
      if args.proxyConfig.proxyType = .socks5 then [.associate connect bound] else []
  | .client datagram sent =>
      if args.proxyConfig.proxyType = .socks5 then [.client datagram sent] else []
  | .proxy datagram keys =>
      if args.proxyConfig.proxyType = .socks5 then [.proxy datagram keys] else []

theorem loop_relayed (system : System) (event : RelayEvent) :
    (system.relayed args event).loop = system.loop := by
  unfold System.relayed
  by_cases socks5 : args.proxyConfig.proxyType = .socks5
  · rw [if_pos socks5]
  · rw [if_neg socks5]

theorem loop_systemStep (system : System) (event : SystemEvent) :
    (systemStep args base64Encode system event).loop =
      run loopStep system.loop (loopSees args event) := by
  cases event with
  | packet host payload => rfl
  | cleanupConnections => rfl
  | cleanupPids => rfl
  | advance nanos => rfl
  | accept client connect => rfl
  | associate connect bound => exact loop_relayed args system _
  | client datagram sent => exact loop_relayed args system _
  | proxy datagram keys => exact loop_relayed args system _

theorem now_loopStep_packet (state : LoopState) (host : HostAnswers) (payload : Octets) :
    (loopStep state (.packet args host payload)).now = state.now := by
  unfold loopStep
  dsimp only
  cases nfqueueIteration args host state.now state.tables payload with
  | none => rfl
  | some result => rfl

/-- A packet is to the relay what its mark does to the tracker. -/
theorem relayView_packet (system : System) (host : HostAnswers) (payload : Octets) :
    (system.looped (.packet args host payload)).relayView =
      run (relayStep args.order args.proxyConfig) system.relayView
        (relaySees args system (.packet host payload)) := by
  unfold System.looped System.relayView relaySees
  dsimp only
  rw [now_loopStep_packet]
  rcases loopStep_packet_cases system.loop args host payload with unmarked | marked
  · rcases unmarked with ⟨noFlow, _, kept, _⟩
    rw [noFlow, kept]
    rfl
  · rcases marked with ⟨packet, _, _, flow, added, _⟩
    rw [flow, added]
    rfl

/-- A step that is the relay's own. -/
def RelayEvent.Own : RelayEvent -> Prop
  | .associate _ _ => True
  | .client _ _ => True
  | .proxy _ _ => True
  | _ => False

/-- What an own step of the relay can do. -/
inductive RelayChange (order : Octets.ByteOrder) (proxyConfig : ProxyConfig) (state : RelayState)
    (event : RelayEvent) : RelayState -> Prop where
  | moved (phase : UdpPhase) :
      RelayChange order proxyConfig state event { state with relay.phase := phase }
  | associated (connect : SocketAddr -> Option TcpStream) (addr : SocketAddr)
      (same : event = .associate connect true)
      (given : establishUdpAssociate order proxyConfig connect true = some addr) :
      RelayChange order proxyConfig state event
        { state with relay.relayAddr := some addr, relay.hasSendSock := true }
  | gaveUp : RelayChange order proxyConfig state event
      { state with relay.phase := .proxy, relay.relayAddr := none }
  | forwarded (outgoing : Forwarded) (data : Octets)
      (same : event = .client (some (outgoing.client, data)) true)
      (made : receiveFromClient order state.tracker state.relay outgoing.client data =
        some outgoing) :
      RelayChange order proxyConfig state event
        { state with relay.phase := .proxy, forwarded := outgoing :: state.forwarded }
  | delivered (sender : SocketAddr) (packet : Octets) (keys : List UInt16)
      (delivery : SocketAddr × Octets) (same : event = .proxy (some (sender, packet)) keys)
      (made : receiveFromProxy order state.tracker keys packet = some delivery) :
      RelayChange order proxyConfig state event
        { state with relay.phase := .clients, delivered := delivery :: state.delivered }

section Own

variable {order : Octets.ByteOrder} {proxyConfig : ProxyConfig} {state : RelayState}

theorem client_of_receiveFromClient {tracker : ConnectionTracker} {relay : UdpRelay}
    {client : SocketAddr} {data : Octets} {outgoing : Forwarded}
    (made : receiveFromClient order tracker relay client data = some outgoing) :
    tracker.get client.port = some outgoing.dest ∧ relay.relayAddr = some outgoing.relayAddr ∧
      outgoing.client = client ∧
      outgoing.packet = buildSocks5UdpPacket order outgoing.dest.1 outgoing.dest.2 data := by
  rcases Option.bind_eq_some_iff.mp made with ⟨dest, found, rest⟩
  rcases Option.bind_eq_some_iff.mp rest with ⟨addr, known, built⟩
  cases built
  exact ⟨found, (Option.filter_eq_some_iff.mp known).1, rfl, rfl⟩

/-- A socket is needed before a relay address is taken. -/
theorem establishUdpAssociate_unbound (connect : SocketAddr -> Option TcpStream) :
    establishUdpAssociate order proxyConfig connect false = none := by
  unfold establishUdpAssociate
  cases proxyConfig.resolvedIp with
  | none => rfl
  | some proxyIp =>
      rw [Option.bind_eq_bind, Option.bind_some]
      cases connect ⟨Ipv4Addr.fromNe order proxyIp, proxyConfig.port⟩ with
      | none => rfl
      | some tcpStream =>
          rw [Option.bind_eq_bind, Option.bind_some]
          cases (socks5UdpAssociate order proxyConfig.username proxyConfig.password
              tcpStream).1 with
          | error message => rfl
          | ok relay => rfl

theorem relayStep_change {event : RelayEvent} (own : event.Own) :
    RelayChange order proxyConfig state event (relayStep order proxyConfig state event) := by
  cases event with
  | associate connect bound =>
      unfold relayStep
      by_cases here : state.relay.phase = .clients ∧ state.relay.relayAddr = none
      · simp only [if_pos here]
        cases bound with
        | false =>
            rw [establishUdpAssociate_unbound]
            exact .moved state.relay.phase
        | true =>
            cases given : establishUdpAssociate order proxyConfig connect true with
            | none => exact .moved state.relay.phase
            | some addr => exact .associated connect addr rfl given
      · simp only [if_neg here]
        exact .moved state.relay.phase
  | client datagram sent =>
      unfold relayStep
      by_cases here : state.relay.phase = .clients ∧ state.relay.relayAddr ≠ none
      · simp only [if_pos here, clientStep]
        cases received : datagram.bind (fun received =>
            receiveFromClient order state.tracker state.relay received.1 received.2) with
        | none => exact .moved .proxy
        | some outgoing =>
            cases sent with
            | false => exact .gaveUp
            | true =>
                rcases Option.bind_eq_some_iff.mp received with ⟨⟨client, data⟩, rfl, made⟩
                cases (client_of_receiveFromClient made).2.2.1
                exact .forwarded outgoing data rfl made
      · simp only [if_neg here]
        exact .moved state.relay.phase
  | proxy datagram keys =>
      unfold relayStep
      by_cases here : state.relay.phase = .proxy
      · simp only [if_pos here, proxyStep]
        by_cases bound : state.relay.hasSendSock = true
        · rw [if_pos bound]
          cases received : datagram.bind (fun received =>
              receiveFromProxy order state.tracker keys received.2) with
          | none => exact .moved .clients
          | some delivery =>
              rcases Option.bind_eq_some_iff.mp received with ⟨⟨sender, packet⟩, rfl, made⟩
              exact .delivered sender packet keys delivery rfl made
        · rw [if_neg bound]
          exact .moved .clients
      · simp only [if_neg here]
        exact .moved state.relay.phase
  | add srcPort srcIp destIp destPort => exact own.elim
  | cleanup => exact own.elim
  | clear => exact own.elim
  | advance nanos => exact own.elim

/-- An own step leaves the clock and the tracker alone. -/
theorem RelayChange.kept {event : RelayEvent} {later : RelayState}
    (change : RelayChange order proxyConfig state event later) :
    later.now = state.now ∧ later.tracker = state.tracker := by
  cases change with
  | moved phase => exact ⟨rfl, rfl⟩
  | associated connect addr same given => exact ⟨rfl, rfl⟩
  | gaveUp => exact ⟨rfl, rfl⟩
  | forwarded outgoing data same made => exact ⟨rfl, rfl⟩
  | delivered sender packet keys delivery same made => exact ⟨rfl, rfl⟩

end Own

/-- Within the system, an own step is what it is to the relay alone. -/
theorem relayView_relayed (system : System) {event : RelayEvent} (own : event.Own)
    (socks5 : args.proxyConfig.proxyType = .socks5) :
    (system.relayed args event).relayView =
      relayStep args.order args.proxyConfig system.relayView event := by
  have kept := (@relayStep_change args.order args.proxyConfig system.relayView event own).kept
  rw [System.relayed, if_pos socks5]
  generalize relayStep args.order args.proxyConfig system.relayView event = later at kept ⊢
  rcases later with ⟨now, tracker, relay, forwarded, delivered⟩
  cases kept.1
  cases kept.2
  rfl

theorem relayed_of_http (system : System) (event : RelayEvent)
    (http : args.proxyConfig.proxyType ≠ .socks5) : system.relayed args event = system :=
  if_neg http

theorem relayView_relayed_sees (system : System) {event : RelayEvent} (own : event.Own) :
    (system.relayed args event).relayView =
      run (relayStep args.order args.proxyConfig) system.relayView
        (if args.proxyConfig.proxyType = .socks5 then [event] else []) := by
  by_cases socks5 : args.proxyConfig.proxyType = .socks5
  · rw [if_pos socks5, relayView_relayed args system own socks5]
    rfl
  · rw [if_neg socks5, relayed_of_http args system event socks5]
    rfl

theorem relayView_systemStep (system : System) (event : SystemEvent) :
    (systemStep args base64Encode system event).relayView =
      run (relayStep args.order args.proxyConfig) system.relayView
        (relaySees args system event) := by
  cases event with
  | packet host payload => exact relayView_packet args system host payload
  | cleanupConnections => rfl
  | cleanupPids => rfl
  | advance nanos => rfl
  | accept client connect => rfl
  | associate connect bound => exact relayView_relayed_sees args system trivial
  | client datagram sent => exact relayView_relayed_sees args system trivial
  | proxy datagram keys => exact relayView_relayed_sees args system trivial

theorem loop_run (events : List SystemEvent) :
    (run (systemStep args base64Encode) .initial events).loop =
      run loopStep .initial (events.flatMap (loopSees args)) := by
  rw [← seen_eq_flatMap (systemStep args base64Encode) (loopSees args) .initial]
  exact run_simulates (systemStep args base64Encode) loopStep (loop_systemStep args base64Encode)
    .initial events

theorem relayView_run (events : List SystemEvent) :
    (run (systemStep args base64Encode) .initial events).relayView =
      run (relayStep args.order args.proxyConfig) .initial
        (seen (systemStep args base64Encode) (relaySees args) .initial events) :=
  run_simulates (systemStep args base64Encode) (relayStep args.order args.proxyConfig)
    (relayView_systemStep args base64Encode) .initial events

/-- In every run of the system, the packet loop has gone through the run of its
own events, and the UDP relay through the run of what it sees. -/
theorem system_components (events : List SystemEvent) :
    let system := run (systemStep args base64Encode) .initial events
    system.loop = run loopStep .initial (events.flatMap (loopSees args)) ∧
      system.relayView = run (relayStep args.order args.proxyConfig) .initial
        (seen (systemStep args base64Encode) (relaySees args) .initial events) :=
  ⟨loop_run args base64Encode events, relayView_run args base64Encode events⟩

end Steps

end ProxyBridge
