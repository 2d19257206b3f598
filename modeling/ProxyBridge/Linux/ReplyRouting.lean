import ProxyBridge.Core.TrackerLookups
import ProxyBridge.Linux.Relay

namespace ProxyBridge

open Foundation Text

/-!
# Where the replies of the proxy go

A datagram of the proxy names the remote end it comes from, and the relay looks
for a tracked port that wanted to go there.  Several clients may have wanted to
go there, the order of the search is not specified, and the address of the
client is taken to be 127.0.0.1.

A reply reaches nobody but the client of its request exactly when every port
tracked towards the remote end is that client's, and the client's address is
127.0.0.1 (`replyRouted_iff`).
-/

/-- Only the steps of others change the tracker. -/
def trackerStep (state : RelayState) : RelayEvent -> ConnectionTracker
  | .add srcPort srcIp destIp destPort => state.tracker.add state.now srcPort srcIp destIp destPort
  | .cleanup => state.tracker.cleanupStale state.now
  | .clear => state.tracker.clear
  | _ => state.tracker

section Run

variable (order : Octets.ByteOrder) (proxyConfig : ProxyConfig)

theorem clientStep_tracker (state : RelayState) (datagram : Option (SocketAddr × Octets))
    (sent : Bool) : (clientStep order state datagram sent).tracker = state.tracker := by
  unfold clientStep
  cases datagram.bind (fun received =>
      receiveFromClient order state.tracker state.relay received.1 received.2) with
  | none => rfl
  | some outgoing =>
      cases sent with
      | true => rfl
      | false => rfl

/-- The proxy's branch comes back to the clients, and may have delivered a
datagram before. -/
theorem proxyStep_eq (state : RelayState) (datagram : Option (SocketAddr × Octets))
    (keys : List UInt16) :
    proxyStep order state datagram keys =
      { state with
        relay.phase := .clients
        delivered := (if state.relay.hasSendSock = true then
            datagram.bind (fun received => receiveFromProxy order state.tracker keys received.2)
          else none).toList ++ state.delivered } := by
  unfold proxyStep
  cases state.relay.hasSendSock with
  | false => rfl
  | true =>
      simp only [if_true]
      cases datagram.bind (fun received => receiveFromProxy order state.tracker keys received.2) with
      | none => rfl
      | some delivery => rfl

theorem relayStep_tracker (state : RelayState) (event : RelayEvent) :
    (relayStep order proxyConfig state event).tracker = trackerStep state event := by
  cases event with
  | associate connect bound =>
      unfold relayStep
      by_cases here : state.relay.phase = .clients ∧ state.relay.relayAddr = none
      · simp only [if_pos here]
        cases establishUdpAssociate order proxyConfig connect bound with
        | none => rfl
        | some addr => rfl
      · simp only [if_neg here]
        rfl
  | client datagram sent =>
      unfold relayStep
      by_cases here : state.relay.phase = .clients ∧ state.relay.relayAddr ≠ none
      · simp only [if_pos here]
        exact clientStep_tracker order state datagram sent
      · simp only [if_neg here]
        rfl
  | proxy datagram keys =>
      unfold relayStep
      by_cases here : state.relay.phase = .proxy
      · simp only [if_pos here, proxyStep_eq]
        rfl
      · simp only [if_neg here]
        rfl
  | add srcPort srcIp destIp destPort => rfl
  | cleanup => rfl
  | clear => rfl
  | advance nanos => rfl

/-- The tracker files an entry under the source port that the entry records. -/
def FiledByPort (state : RelayState) : Prop :=
  forall port info, state.tracker.connections.get port = some info -> info.srcPort = port

theorem filedByPort_relayStep (state : RelayState) (event : RelayEvent)
    (filed : FiledByPort state) : FiledByPort (relayStep order proxyConfig state event) := by
  have updated := state.tracker.filedBySrcPort_update
  intro port info held
  rw [relayStep_tracker] at held
  cases event with
  | add srcPort srcIp destIp destPort =>
      exact updated (.add state.now srcPort srcIp destIp destPort) filed port info held
  | cleanup => exact updated (.cleanupStale state.now) filed port info held
  | clear => exact updated .clear filed port info held
  | associate connect bound => exact filed port info held
  | client datagram sent => exact filed port info held
  | proxy datagram keys => exact filed port info held
  | advance nanos => exact filed port info held

theorem filedByPort_run (events : List RelayEvent) :
    FiledByPort (run (relayStep order proxyConfig) .initial events) :=
  run_invariant _ (fun _ _ held => by cases held) (filedByPort_relayStep order proxyConfig) events

end Run

/-! ## Replies -/

section Replies

variable {state : RelayState} {keys : List UInt16} {dest : UInt32 × UInt16} {port : UInt16}

/-- Some iteration order makes the search find any given port that is tracked
towards the destination. -/
theorem exists_findByDest (filed : FiledByPort state)
    (tracked : state.tracker.get port = some dest) :
    Exists fun keys => state.tracker.connections.Enumerates keys ∧
      state.tracker.findByDest keys dest.1 dest.2 = some port := by
  rcases Option.map_eq_some_iff.mp tracked with ⟨info, held, towards⟩
  rcases state.tracker.connections.exists_enumeration with ⟨keys, enumerates⟩
  refine ⟨port :: keys.erase port, enumerates.moveFront (enumerates.mem held), ?_⟩
  have passes : (info.origDestIp == dest.1 && info.origDestPort == dest.2) = true := by
    rw [← towards, beq_self_eq_true, beq_self_eq_true, Bool.and_self]
  rw [ConnectionTracker.findByDest, KeyedStore.findValue_cons _ held passes, Option.map_some,
    filed port info held]

/-- What becomes of a datagram whose header names this remote end. -/
theorem receiveFromProxy_eq {order : Octets.ByteOrder} {packet : Octets} {offset : Nat}
    (parsed : parseSocks5UdpPacket order packet = some (dest.1, dest.2, offset)) :
    receiveFromProxy order state.tracker keys packet =
      (state.tracker.findByDest keys dest.1 dest.2).map
        (fun port => (⟨Ipv4Addr.localhost, port⟩, packet.drop offset)) := by
  rw [receiveFromProxy, parsed, Option.map_eq_bind]
  rfl

end Replies

/-- Every reply to a forwarded datagram is dropped, or its payload is sent to
the client of that datagram. -/
def ReplyRouted (order : Octets.ByteOrder) (state : RelayState) (request : Forwarded) : Prop :=
  request ∈ state.forwarded -> forall keys packet offset,
    state.tracker.connections.Enumerates keys ->
    parseSocks5UdpPacket order packet = some (request.dest.1, request.dest.2, offset) ->
      receiveFromProxy order state.tracker keys packet = none ∨
        receiveFromProxy order state.tracker keys packet =
          some (request.client, packet.drop offset)

/-- If the replies to a request are routed to its client, that client owns every
port tracked towards the remote end. -/
theorem client_of_replyRouted {order : Octets.ByteOrder} {state : RelayState}
    {request : Forwarded} {port : UInt16} (filed : FiledByPort state)
    (routed : ReplyRouted order state request) (member : request ∈ state.forwarded)
    (tracked : state.tracker.get port = some request.dest) :
    request.client = ⟨Ipv4Addr.localhost, port⟩ := by
  rcases exists_findByDest filed tracked with ⟨keys, enumerates, found⟩
  have parsed := parseSocks5UdpPacket_build order request.dest.1 request.dest.2 []
  have result := routed member keys _ _ enumerates parsed
  rw [receiveFromProxy_eq parsed, found] at result
  rcases result with dropped | sent
  · cases dropped
  · exact (congrArg Prod.fst (Option.some.inj sent)).symm

/-- In every reachable state, replies to a request are routed to its client
alone exactly when no other port is tracked towards the same remote end, and the
client's address is the one that the relay assumes. -/
theorem replyRouted_iff (order : Octets.ByteOrder) (proxyConfig : ProxyConfig)
    (events : List RelayEvent) (request : Forwarded) :
    let state := run (relayStep order proxyConfig) .initial events
    ReplyRouted order state request <->
      (request ∈ state.forwarded -> forall port, state.tracker.get port = some request.dest ->
        request.client = ⟨Ipv4Addr.localhost, port⟩) := by
  intro state
  have filed : FiledByPort state := filedByPort_run order proxyConfig events
  constructor
  · intro routed member port tracked
    exact client_of_replyRouted filed routed member tracked
  · intro alone member keys packet offset _ parsed
    rw [receiveFromProxy_eq parsed]
    cases found : state.tracker.findByDest keys request.dest.1 request.dest.2 with
    | none => exact Or.inl rfl
    | some port =>
        right
        rw [alone member port (ConnectionTracker.FiledBySrcPort.get_of_findByDest filed found)]
        rfl

/-! The counterexample: two local clients have asked the same name server. -/

/-- A proxy at 10.0.0.9 that grants the association on its port 8080. -/
def associatingProxy : SocketAddr -> Option TcpStream :=
  fun _ => some (TcpStream.opened [[5, 0], [5, 0, 0, 1, 10, 0, 0, 9, 0x1F, 0x90]] .closed
    (fun _ => true))

def localProxy : ProxyConfig where
  proxyType := .socks5
  host := "10.0.0.9".toList
  port := 1080
  username := none
  password := none
  resolvedIp := some 0x0900000A

/-- The reply to the client on port 4096 may be sent to the one on port 4097. -/
theorem reply_reaches_other_client :
    Not (forall (order : Octets.ByteOrder) (proxyConfig : ProxyConfig) (events : List RelayEvent)
      (request : Forwarded),
      ReplyRouted order (run (relayStep order proxyConfig) .initial events) request) := by
  intro routed
  let client : SocketAddr := ⟨Ipv4Addr.localhost, 4096⟩
  let events := [RelayEvent.associate associatingProxy true,
    .add 4096 0x0100007F 0x08080808 53, .add 4097 0x0100007F 0x08080808 53,
    .client (some (client, [1])) true]
  have filed := filedByPort_run .little localProxy events
  have member : Forwarded.mk client (0x08080808, 53) ⟨⟨10, 0, 0, 9⟩, 8080⟩
      [0, 0, 0, 1, 8, 8, 8, 8, 0, 53, 1] ∈
        (run (relayStep .little localProxy) .initial events).forwarded :=
    List.mem_singleton_self _
  have tracked : (run (relayStep .little localProxy) .initial events).tracker.get 4097 =
      some (0x08080808, 53) := rfl
  cases client_of_replyRouted filed (routed .little localProxy events _) member tracked

end ProxyBridge
