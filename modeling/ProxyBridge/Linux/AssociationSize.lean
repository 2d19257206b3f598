import ProxyBridge.Linux.ReplyRouting

namespace ProxyBridge

open Foundation Text

/-!
# Datagrams that are too large for the association

The relay puts a header of ten bytes in front of a client's datagram, and gives up
the association with the proxy when it cannot send the result.  A datagram that
is as large as UDP allows no longer fits with the header, so any tracked client
can take the association away from all of them.
-/

/-- The largest payload of a UDP datagram over IPv4. -/
def maxUdpPayload : Nat := 65507

/-- What UDP over IPv4 lets through: a client's datagram is no larger than the
maximum, and sending one to the proxy succeeds exactly when it is not larger
either. -/
def ObeysUdp (order : Octets.ByteOrder) (state : RelayState) : RelayEvent -> Prop
  | .client (some (client, data)) sent =>
      data.length ≤ maxUdpPayload ∧
        forall outgoing, receiveFromClient order state.tracker state.relay client data =
            some outgoing ->
          (sent = true <-> outgoing.packet.length ≤ maxUdpPayload)
  | _ => True

/-- The relay has an association and waits for a client. -/
def RelayState.Serving (state : RelayState) : Prop :=
  state.relay.phase = .clients ∧ state.relay.relayAddr ≠ none

/-- What the relay sends for a tracked client is accepted, and the association is
what it was. -/
def SparesAssociation (order : Octets.ByteOrder) (proxyConfig : ProxyConfig) (state : RelayState) :
    RelayEvent -> Prop
  | .client (some (client, data)) sent =>
      state.Serving -> forall dest, state.tracker.get client.port = some dest ->
        (buildSocks5UdpPacket order dest.1 dest.2 data).length ≤ maxUdpPayload ∧
          (relayStep order proxyConfig state (.client (some (client, data)) sent)).relay.relayAddr =
            state.relay.relayAddr
  | _ => True

/-- A tracked client's datagram leaves room for the header. -/
def LeavesRoom (state : RelayState) : RelayEvent -> Prop
  | .client (some (client, data)) _ =>
      state.Serving -> state.tracker.get client.port ≠ none -> data.length ≤ 65497
  | _ => True

section Association

variable (order : Octets.ByteOrder) (proxyConfig : ProxyConfig)

theorem length_buildSocks5UdpPacket (destIp : UInt32) (destPort : UInt16) (data : Octets) :
    (buildSocks5UdpPacket order destIp destPort data).length = 10 + data.length := by
  unfold buildSocks5UdpPacket
  rw [List.length_append]
  cases order with
  | little => rfl
  | big => rfl

/-- With an association there is a socket to send from. -/
def BoundWhenAssociated (state : RelayState) : Prop :=
  state.relay.relayAddr ≠ none -> state.relay.hasSendSock = true

/-- The client's branch keeps the relay's address, or gives it up. -/
theorem clientStep_relay (state : RelayState) (datagram : Option (SocketAddr × Octets))
    (sent : Bool) :
    (clientStep order state datagram sent).relay.hasSendSock = state.relay.hasSendSock ∧
      ((clientStep order state datagram sent).relay.relayAddr = state.relay.relayAddr ∨
        (clientStep order state datagram sent).relay.relayAddr = none) := by
  unfold clientStep
  cases datagram.bind (fun received =>
      receiveFromClient order state.tracker state.relay received.1 received.2) with
  | none => exact ⟨rfl, Or.inl rfl⟩
  | some outgoing =>
      cases sent with
      | true => exact ⟨rfl, Or.inl rfl⟩
      | false => exact ⟨rfl, Or.inr rfl⟩

theorem boundWhenAssociated_relayStep (state : RelayState) (event : RelayEvent)
    (bound : BoundWhenAssociated state) :
    BoundWhenAssociated (relayStep order proxyConfig state event) := by
  cases event with
  | associate connect binds =>
      unfold relayStep
      by_cases here : state.relay.phase = .clients ∧ state.relay.relayAddr = none
      · simp only [if_pos here]
        cases establishUdpAssociate order proxyConfig connect binds with
        | none => exact bound
        | some addr => exact fun _ => rfl
      · simp only [if_neg here]
        exact bound
  | client datagram sent =>
      unfold relayStep
      by_cases here : state.relay.phase = .clients ∧ state.relay.relayAddr ≠ none
      · simp only [if_pos here]
        rcases clientStep_relay order state datagram sent with ⟨socket, kept | given⟩
        · intro associated
          rw [kept] at associated
          rw [socket]
          exact bound associated
        · intro associated
          exact absurd given associated
      · simp only [if_neg here]
        exact bound
  | proxy datagram keys =>
      unfold relayStep
      by_cases here : state.relay.phase = .proxy
      · simp only [if_pos here, proxyStep_eq]
        exact bound
      · simp only [if_neg here]
        exact bound
  | add srcPort srcIp destIp destPort => exact bound
  | cleanup => exact bound
  | clear => exact bound
  | advance nanos => exact bound

variable {order} {state : RelayState} {client : SocketAddr} {dest : UInt32 × UInt16}

/-- A tracked client's datagram is sent in its encapsulation. -/
theorem receiveFromClient_of_serving (bound : BoundWhenAssociated state) (serving : state.Serving)
    (tracked : state.tracker.get client.port = some dest) (data : Octets) :
    Exists fun addr => receiveFromClient order state.tracker state.relay client data = some {
      client := client
      dest := dest
      relayAddr := addr
      packet := buildSocks5UdpPacket order dest.1 dest.2 data } := by
  rcases Option.ne_none_iff_exists'.mp serving.2 with ⟨addr, associated⟩
  refine ⟨addr, ?_⟩
  simp only [receiveFromClient, tracked, associated, bound serving.2, Option.bind_eq_bind,
    Option.bind_some, Option.filter_some, if_true]
  rfl

/-- One event spares the association exactly when it leaves room for the header. -/
theorem sparesAssociation_iff (event : RelayEvent) (bound : BoundWhenAssociated state)
    (udp : ObeysUdp order state event) :
    SparesAssociation order proxyConfig state event <-> LeavesRoom state event := by
  match event with
  | .client (some (client, data)) sent =>
      constructor
      · intro spares serving tracked
        rcases Option.ne_none_iff_exists'.mp tracked with ⟨dest, tracked⟩
        have accepted := (spares serving dest tracked).1
        rw [length_buildSocks5UdpPacket, maxUdpPayload] at accepted
        omega
      · intro room serving dest tracked
        have small := room serving (tracked ▸ Option.some_ne_none dest)
        have fits : (buildSocks5UdpPacket order dest.1 dest.2 data).length ≤ maxUdpPayload := by
          rw [length_buildSocks5UdpPacket, maxUdpPayload]
          omega
        rcases receiveFromClient_of_serving bound serving tracked data with ⟨addr, outgoing⟩
        have sends : sent = true := (udp.2 _ outgoing).mpr fits
        have step : relayStep order proxyConfig state (.client (some (client, data)) sent) =
            clientStep order state (some (client, data)) sent :=
          if_pos serving
        refine ⟨fits, ?_⟩
        rw [step, clientStep, Option.bind_some, outgoing]
        simp only [if_pos sends]
  | .client none sent => exact Iff.rfl
  | .associate connect binds => exact Iff.rfl
  | .proxy datagram keys => exact Iff.rfl
  | .add srcPort srcIp destIp destPort => exact Iff.rfl
  | .cleanup => exact Iff.rfl
  | .clear => exact Iff.rfl
  | .advance nanos => exact Iff.rfl

/-- Over a whole run in which UDP is obeyed, every event spares the association
exactly when every tracked client leaves room for the header. -/
theorem associationSpared_iff (order : Octets.ByteOrder) (proxyConfig : ProxyConfig)
    (events : List RelayEvent)
    (udp : StepsMeet (relayStep order proxyConfig) (ObeysUdp order) .initial events) :
    StepsMeet (relayStep order proxyConfig) (SparesAssociation order proxyConfig) .initial
        events <->
      StepsMeet (relayStep order proxyConfig) LeavesRoom .initial events := by
  have initial : BoundWhenAssociated .initial := fun associated => absurd rfl associated
  apply stepsMeet_congr_of_stepsMeet _ _ _ initial udp
  · intro state event bound obeys
    exact sparesAssociation_iff proxyConfig event bound obeys
  · intro state event bound _
    exact boundWhenAssociated_relayStep order proxyConfig state event bound

end Association

/-! Two runs of one client on port 4096. -/

theorem associationSpared_small :
    StepsMeet (relayStep .little localProxy) (SparesAssociation .little localProxy) .initial
      [.associate associatingProxy true, .add 4096 0x0100007F 0x08080808 53,
        .client (some (⟨Ipv4Addr.localhost, 4096⟩, [1])) true] := by
  apply (associationSpared_iff .little localProxy _ _).mpr
  · exact ⟨trivial, trivial, fun _ _ => by decide, trivial⟩
  · refine ⟨trivial, trivial, ⟨by decide, ?_⟩, trivial⟩
    intro outgoing same
    cases same
    decide

/-- A datagram of 65498 bytes ends the association. -/
theorem large_datagram_ends_association :
    Not (forall (order : Octets.ByteOrder) (proxyConfig : ProxyConfig) (events : List RelayEvent),
      StepsMeet (relayStep order proxyConfig) (ObeysUdp order) .initial events ->
        StepsMeet (relayStep order proxyConfig) (SparesAssociation order proxyConfig) .initial
          events) := by
  intro spared
  let client : SocketAddr := ⟨Ipv4Addr.localhost, 4096⟩
  let datagram : Octets := List.replicate 65498 0
  have size : datagram.length = 65498 := List.length_replicate
  clear_value datagram
  let past := [RelayEvent.associate associatingProxy true, .add 4096 0x0100007F 0x08080808 53]
  let state := run (relayStep .little localProxy) .initial past
  have bound : BoundWhenAssociated state := fun _ => rfl
  have serving : state.Serving := ⟨rfl, Option.some_ne_none _⟩
  have tracked : state.tracker.get client.port = some (0x08080808, 53) := rfl
  have large : forall dest : UInt32 × UInt16,
      Not ((buildSocks5UdpPacket .little dest.1 dest.2 datagram).length ≤ maxUdpPayload) := by
    intro dest
    rw [length_buildSocks5UdpPacket, size]
    decide
  have obeys : ObeysUdp .little state (.client (some (client, datagram)) false) := by
    refine ⟨size ▸ by decide, ?_⟩
    intro outgoing same
    rcases receiveFromClient_of_serving bound serving tracked datagram with ⟨addr, sent⟩
    cases same.symm.trans sent
    exact iff_of_false Bool.false_ne_true (large _)
  have spares := spared .little localProxy
    [.associate associatingProxy true, .add 4096 0x0100007F 0x08080808 53,
      .client (some (client, datagram)) false]
    ⟨trivial, trivial, obeys, trivial⟩
  exact large _ (spares.2.2.1 serving _ tracked).1

end ProxyBridge
