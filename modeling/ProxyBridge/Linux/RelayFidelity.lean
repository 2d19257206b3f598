import ProxyBridge.Foundation.Runs
import ProxyBridge.Linux.PacketLoop
import ProxyBridge.Linux.Relay

namespace ProxyBridge

open Foundation Text

/-!
# Where redirected connections end up

The kernel decides at the first packet of a flow whether it is redirected to a
relay, and keeps to it.  The tracker forgets a port after a while and may then
learn another destination for it, while the old flow is still redirected.

The relays only look the tracker up, at any moment between two steps.  They are
faithful throughout a run exactly when no packet is marked on the source port of
a redirected flow with another destination (`relaysFaithful_iff`).
-/

/-- The packet loop, and for each flow that has sent a packet whether it is
redirected. -/
structure World where
  loop : LoopState
  nat : KeyedStore Flow Bool

namespace World

def initial : World where
  loop := .initial
  nat := .empty

/-- The relays receive what this flow sends. -/
def Redirected (world : World) (flow : Flow) : Prop :=
  world.nat.get flow = some true

end World

/-- The decision for a flow is made once. -/
def decideFlow (nat : KeyedStore Flow Bool) (flow : Flow) (marked : Bool) : KeyedStore Flow Bool :=
  if nat.containsKey flow then nat else nat.insert flow marked

def worldStep (world : World) (event : LoopEvent) : World where
  loop := loopStep world.loop event
  nat :=
    match event with
    | .packet args host payload =>
        match packetOf args.order payload with
        | some packet =>
            decideFlow world.nat packet.flow (markedFlow world.loop args host payload).isSome
        | none => world.nat
    | _ => world.nat

/-- A decision is kept, and other flows are not touched. -/
theorem decideFlow_eq_some_true_iff (nat : KeyedStore Flow Bool) (flow other : Flow)
    (marked : Bool) :
    (decideFlow nat flow marked).get other = some true <->
      nat.get other = some true ∨ (other = flow ∧ nat.get flow = none ∧ marked = true) := by
  unfold decideFlow KeyedStore.containsKey
  cases known : nat.get flow with
  | some decision => simp
  | none =>
      rw [Option.isSome_none, if_neg Bool.false_ne_true]
      by_cases same : other = flow
      · rw [same, KeyedStore.get_insert_self, known]
        simp
      · rw [KeyedStore.get_insert_of_ne _ _ same]
        simp [same]

/-! ## Fidelity -/

/-- Whatever a relay receives of a redirected flow, the tracker gives it no
destination but the flow's own. -/
def RelaysFaithful (world : World) : Prop :=
  forall flow, world.Redirected flow ->
    world.loop.tables.connTracker.get flow.srcPort = none ∨
      world.loop.tables.connTracker.get flow.srcPort = some (flow.destIp, flow.destPort)

/-- The event marks no packet on the source port of a redirected flow that goes
elsewhere. -/
def MarksNoOther (world : World) : LoopEvent -> Prop
  | .packet args host payload =>
      forall packet, packetOf args.order payload = some packet ->
        MayBeMarked args host world.loop.now world.loop.tables packet ->
          forall flow, world.Redirected flow -> flow.srcPort = packet.srcPort ->
            (flow.destIp, flow.destPort) = (packet.destIp, packet.destPort)
  | _ => True

/-- A step that adds no destination to the tracker and redirects no flow keeps
the relays faithful. -/
theorem relaysFaithful_of_forgets {world later : World} (faithful : RelaysFaithful world)
    (redirected : forall flow, later.Redirected flow -> world.Redirected flow)
    (forgets : forall port dest, later.loop.tables.connTracker.get port = some dest ->
      world.loop.tables.connTracker.get port = some dest) : RelaysFaithful later := by
  intro flow sent
  cases found : later.loop.tables.connTracker.get flow.srcPort with
  | none => exact Or.inl rfl
  | some dest =>
      have before := forgets flow.srcPort dest found
      rcases faithful flow (redirected flow sent) with nothing | own
      · rw [before] at nothing
        cases nothing
      · exact Or.inr (before.symm.trans own)

theorem worldStep_packet_unmarked {world : World} {args : NfqueueArgs} {host : HostAnswers}
    {payload : Octets} (unmarked : markedFlow world.loop args host payload = none) (flow : Flow)
    (redirected : (worldStep world (.packet args host payload)).Redirected flow) :
    world.Redirected flow := by
  unfold World.Redirected worldStep at *
  cases parsed : packetOf args.order payload with
  | none => simpa [parsed] using redirected
  | some packet =>
      simp only [parsed, unmarked, Option.isSome_none] at redirected
      rcases (decideFlow_eq_some_true_iff _ _ _ _).mp redirected with old | new
      · exact old
      · cases new.2.2

/-- A new entry for a packet, whose flow may be redirected with it, keeps the
relays faithful exactly when the redirected flows of its port agree with it. -/
theorem relaysFaithful_add_iff {world later : World} {packet : Packet}
    (faithful : RelaysFaithful world)
    (added : later.loop.tables.connTracker = world.loop.tables.connTracker.add world.loop.now
      packet.srcPort packet.srcIp packet.destIp packet.destPort)
    (redirected : forall flow, later.Redirected flow <->
      world.Redirected flow ∨ (flow = packet.flow ∧ world.nat.get packet.flow = none)) :
    RelaysFaithful later <->
      forall flow, world.Redirected flow -> flow.srcPort = packet.srcPort ->
        (flow.destIp, flow.destPort) = (packet.destIp, packet.destPort) := by
  unfold RelaysFaithful
  rw [added]
  constructor
  · intro afterwards flow sent port
    have result := afterwards flow ((redirected flow).mpr (Or.inl sent))
    rw [port, ConnectionTracker.get_add_self] at result
    rcases result with nothing | own
    · cases nothing
    · exact (Option.some.inj own).symm
  · intro agree flow sent
    by_cases port : flow.srcPort = packet.srcPort
    · rw [port, ConnectionTracker.get_add_self]
      right
      rcases (redirected flow).mp sent with old | new
      · rw [agree flow old port]
      · rw [new.1]
        rfl
    · rw [ConnectionTracker.get_add_of_ne _ _ _ _ _ port]
      rcases (redirected flow).mp sent with old | new
      · exact faithful flow old
      · exact absurd (congrArg Flow.srcPort new.1) port

/-- One step from faithful relays leaves them faithful exactly when it marks no
packet on the port of a redirected flow with another destination. -/
theorem relaysFaithful_worldStep_iff (world : World) (event : LoopEvent)
    (faithful : RelaysFaithful world) :
    RelaysFaithful (worldStep world event) <-> MarksNoOther world event := by
  cases event with
  | packet args host payload =>
      rcases loopStep_packet_cases world.loop args host payload with unmarked | marked
      · rcases unmarked with ⟨noFlow, mayNot, kept, _⟩
        refine iff_of_true ?_ ?_
        · apply relaysFaithful_of_forgets faithful (worldStep_packet_unmarked noFlow)
          intro port dest found
          change (loopStep world.loop _).tables.connTracker.get port = some dest at found
          rwa [kept] at found
        · intro packet parsed mayBe
          exact absurd mayBe (mayNot packet parsed)
      · rcases marked with ⟨packet, parsed, mayBe, markedIt, added, _⟩
        have redirected : forall flow,
            (worldStep world (.packet args host payload)).Redirected flow <->
              world.Redirected flow ∨ (flow = packet.flow ∧ world.nat.get packet.flow = none) := by
          intro flow
          unfold World.Redirected worldStep
          simp only [parsed, markedIt, Option.isSome_some]
          simp only [decideFlow_eq_some_true_iff, and_true]
        rw [relaysFaithful_add_iff faithful added redirected]
        constructor
        · intro agree other same _
          cases parsed.symm.trans same
          exact agree
        · intro noOther
          exact noOther packet parsed mayBe
  | cleanupConnections =>
      refine iff_of_true ?_ trivial
      have redirected : forall flow, (worldStep world .cleanupConnections).Redirected flow ->
          world.Redirected flow := fun _ sent => sent
      apply relaysFaithful_of_forgets faithful redirected
      intro port dest found
      exact ConnectionTracker.get_cleanupStale found
  | cleanupPids => exact iff_of_true faithful trivial
  | advance nanos => exact iff_of_true faithful trivial

/-- What a faithful tracker means for the relays: the TCP relay handles a
redirected connection for its own destination, and the UDP relay addresses a
redirected datagram to its own destination, or they do nothing. -/
theorem relays_address_destination (order : Octets.ByteOrder) (base64Encode : Octets -> Str)
    (proxyConfig : ProxyConfig) (connect : SocketAddr -> Option TcpStream) {world : World}
    (faithful : RelaysFaithful world) {flow : Flow} (redirected : world.Redirected flow)
    (relay : UdpRelay) (data : Octets) :
    let tracker := world.loop.tables.connTracker
    let client : SocketAddr := ⟨Ipv4Addr.fromNe order flow.srcIp, flow.srcPort⟩
    let handled := acceptTcp order base64Encode proxyConfig connect tracker client
    (handled = none ∨ handled =
        handleTcpConnection order base64Encode proxyConfig connect flow.destIp flow.destPort) ∧
      forall outgoing, receiveFromClient order tracker relay client data = some outgoing ->
        outgoing.packet = buildSocks5UdpPacket order flow.destIp flow.destPort data := by
  intro tracker client handled
  refine ⟨?_, ?_⟩
  · change (tracker.get flow.srcPort).bind _ = none ∨ (tracker.get flow.srcPort).bind _ = _
    rcases faithful flow redirected with nothing | own
    · rw [nothing]
      exact Or.inl rfl
    · rw [own]
      exact Or.inr rfl
  · intro outgoing sent
    rcases Option.bind_eq_some_iff.mp sent with ⟨dest, found, rest⟩
    rcases Option.bind_eq_some_iff.mp rest with ⟨addr, _, built⟩
    cases built
    change buildSocks5UdpPacket order dest.1 dest.2 data = _
    rcases faithful flow redirected with nothing | own
    · cases nothing.symm.trans found
    · cases own.symm.trans found
      rfl

/-- Over a whole run, the relays are faithful in every state exactly when every
step marks only packets that agree with the redirected flows of their port. -/
theorem relaysFaithful_iff (events : List LoopEvent) :
    HoldsThroughout worldStep RelaysFaithful .initial events <->
      StepsMeet worldStep MarksNoOther .initial events :=
  holdsThroughout_iff_stepsMeet worldStep relaysFaithful_worldStep_iff
    (fun _ sent => by cases sent) events

/-- Another query from the same socket, to 9.9.9.9:53. -/
def secondQuery : Octets :=
  [0x45, 0, 0, 28, 0, 0, 0, 0, 64, 17, 0, 0, 10, 0, 0, 2, 9, 9, 9, 9, 0x10, 0, 0, 53, 0, 8, 0, 0]

/-- A socket asks 8.8.8.8, waits a minute, and asks 9.9.9.9; what it then sends
to 8.8.8.8 is redirected as before, and relayed to 9.9.9.9. -/
theorem relay_misdirects_after_cleanup :
    Not (forall events, HoldsThroughout worldStep RelaysFaithful .initial events) := by
  intro faithful
  let events := [LoopEvent.packet mixedArgs systemdHost dnsQuery, .advance 60000000000,
    .cleanupConnections, .packet mixedArgs systemdHost secondQuery,
    .packet mixedArgs systemdHost dnsQuery]
  let flow := Flow.mk false 0x0200000A 4096 0x08080808 53
  have redirected : (run worldStep .initial events).Redirected flow := rfl
  have relayed : (run worldStep .initial events).loop.tables.connTracker.get flow.srcPort =
      some (0x09090909, 53) := rfl
  rcases faithful events events (List.prefix_refl _) flow redirected with nothing | own
  · rw [relayed] at nothing
    cases nothing
  · rw [relayed] at own
    cases own

end ProxyBridge
