import ProxyBridge.Core.Connection
import ProxyBridge.Core.HttpConnect
import ProxyBridge.Core.Socks5

namespace ProxyBridge

open Foundation Text

/-!
# The two relays

Both relays know a client by its address, and look its source port up in the
tracker to learn where it wanted to go.  The TCP relay does so once, when it
accepts a connection.  The UDP relay does so for each datagram, and for a
datagram of the proxy it searches the tracker for the source port of a client.

The UDP relay is one loop over two sockets.  It is a state machine here whose
events carry what the sockets answer; the tracker changes between any two of
them.
-/

structure Ipv4Addr where
  a : UInt8
  b : UInt8
  c : UInt8
  d : UInt8
  deriving DecidableEq

namespace Ipv4Addr

/-- `Ipv4Addr::from(x.to_ne_bytes())` -/
def fromNe (order : Octets.ByteOrder) (x : UInt32) : Ipv4Addr :=
  let octets := Octets.toNeBytes order x
  ⟨octets.getD 0 0, octets.getD 1 0, octets.getD 2 0, octets.getD 3 0⟩

def localhost : Ipv4Addr :=
  ⟨127, 0, 0, 1⟩

end Ipv4Addr

structure SocketAddr where
  ip : Ipv4Addr
  port : UInt16
  deriving DecidableEq

/-- The handshake that the kind of proxy asks for. -/
def proxyHandshake (order : Octets.ByteOrder) (base64Encode : Octets -> Str)
    (proxyConfig : ProxyConfig) (destIp : UInt32) (destPort : UInt16) :
    Session ConnectError Unit :=
  match proxyConfig.proxyType with
  | .socks5 => socks5Connect order destIp destPort proxyConfig.username proxyConfig.password
  | .http => httpConnect base64Encode destIp destPort proxyConfig.username proxyConfig.password

/-- Connect to the proxy and shake hands; `none` when there is no connection to
the proxy.  After `ok` the bytes of both sides are copied across. -/
def handleTcpConnection (order : Octets.ByteOrder) (base64Encode : Octets -> Str)
    (proxyConfig : ProxyConfig) (connect : SocketAddr -> Option TcpStream) (destIp : UInt32)
    (destPort : UInt16) : Option (Except ConnectError Unit × TcpStream) := do
  let proxyIp ← proxyConfig.resolvedIp
  let proxyStream ← connect ⟨Ipv4Addr.fromNe order proxyIp, proxyConfig.port⟩
  return proxyHandshake order base64Encode proxyConfig destIp destPort proxyStream

/-- An accepted connection is handled for the destination that the tracker
knows for its port, and closed when it knows none. -/
def acceptTcp (order : Octets.ByteOrder) (base64Encode : Octets -> Str) (proxyConfig : ProxyConfig)
    (connect : SocketAddr -> Option TcpStream) (tracker : ConnectionTracker)
    (client : SocketAddr) : Option (Except ConnectError Unit × TcpStream) := do
  let dest ← tracker.get client.port
  handleTcpConnection order base64Encode proxyConfig connect dest.1 dest.2

/-! ## The UDP relay -/

/-- The proxy's address for datagrams.  `stream` is the control connection if
there is one, and `bound` says whether a socket for the datagrams could be
bound. -/
def establishUdpAssociate (order : Octets.ByteOrder) (proxyConfig : ProxyConfig)
    (connect : SocketAddr -> Option TcpStream) (bound : Bool) : Option SocketAddr := do
  let proxyIp ← proxyConfig.resolvedIp
  let tcpStream ← connect ⟨Ipv4Addr.fromNe order proxyIp, proxyConfig.port⟩
  match (socks5UdpAssociate order proxyConfig.username proxyConfig.password tcpStream).1 with
  | .error _ => none
  | .ok (relayIp, relayPort) =>
      let actualIp := if relayIp = 0 then proxyIp else relayIp
      if bound then some ⟨Ipv4Addr.fromNe order actualIp, relayPort⟩ else none

/-- Where the loop stands: before it receives from clients, where it associates
first when it has no relay address, or before it receives from the proxy. -/
inductive UdpPhase where
  | clients
  | proxy
  deriving DecidableEq

structure UdpRelay where
  phase : UdpPhase
  relayAddr : Option SocketAddr
  hasSendSock : Bool

/-- A datagram for the proxy: whose it was, where that client wanted to go, and
what is sent where instead. -/
structure Forwarded where
  client : SocketAddr
  dest : UInt32 × UInt16
  relayAddr : SocketAddr
  packet : Octets

/-- What becomes of a datagram of a client. -/
def receiveFromClient (order : Octets.ByteOrder) (tracker : ConnectionTracker) (relay : UdpRelay)
    (client : SocketAddr) (data : Octets) : Option Forwarded := do
  let dest ← tracker.get client.port
  let addr ← relay.relayAddr.filter (fun _ => relay.hasSendSock)
  return {
    client := client
    dest := dest
    relayAddr := addr
    packet := buildSocks5UdpPacket order dest.1 dest.2 data }

/-- What a datagram of the proxy is delivered as, and where to.  `keys` is the
iteration order of the tracker at that moment. -/
def receiveFromProxy (order : Octets.ByteOrder) (tracker : ConnectionTracker) (keys : List UInt16)
    (packet : Octets) : Option (SocketAddr × Octets) := do
  let (srcIp, srcPort, dataOffset) ← parseSocks5UdpPacket order packet
  let clientPort ← tracker.findByDest keys srcIp srcPort
  return (⟨Ipv4Addr.localhost, clientPort⟩, packet.drop dataOffset)

/-- The relay's own steps, with what its sockets answer (`none` where nothing
comes in before the timeout), and the steps of others on the tracker. -/
inductive RelayEvent where
  | associate (connect : SocketAddr -> Option TcpStream) (bound : Bool)
  | client (datagram : Option (SocketAddr × Octets)) (sent : Bool)
  | proxy (datagram : Option (SocketAddr × Octets)) (keys : List UInt16)
  | add (srcPort : UInt16) (srcIp destIp : UInt32) (destPort : UInt16)
  | cleanup
  | clear
  | advance (nanos : Nat)

/-- The tracker, the relay, and what the relay has sent, latest first. -/
structure RelayState where
  now : Instant
  tracker : ConnectionTracker
  relay : UdpRelay
  forwarded : List Forwarded
  delivered : List (SocketAddr × Octets)

namespace RelayState

def initial : RelayState where
  now := 0
  tracker := .new
  relay := { phase := .clients, relayAddr := none, hasSendSock := false }
  forwarded := []
  delivered := []

end RelayState

/-- The client's branch of the loop.  A send that fails gives up the relay
address. -/
def clientStep (order : Octets.ByteOrder) (state : RelayState)
    (datagram : Option (SocketAddr × Octets)) (sent : Bool) : RelayState :=
  let waiting := { state with relay.phase := .proxy }
  match datagram.bind (fun received =>
    receiveFromClient order state.tracker state.relay received.1 received.2) with
  | none => waiting
  | some outgoing =>
      if sent then { waiting with forwarded := outgoing :: state.forwarded }
      else { waiting with relay.relayAddr := none }

/-- The proxy's branch of the loop.  The sender of the datagram is not looked
at. -/
def proxyStep (order : Octets.ByteOrder) (state : RelayState)
    (datagram : Option (SocketAddr × Octets)) (keys : List UInt16) : RelayState :=
  let waiting := { state with relay.phase := .clients }
  if state.relay.hasSendSock then
    match datagram.bind (fun received =>
      receiveFromProxy order state.tracker keys received.2) with
    | none => waiting
    | some delivery => { waiting with delivered := delivery :: state.delivered }
  else waiting

/-- One step; an event of the loop at another place of the loop is no step. -/
def relayStep (order : Octets.ByteOrder) (proxyConfig : ProxyConfig) (state : RelayState) :
    RelayEvent -> RelayState
  | .associate connect bound =>
      if state.relay.phase = .clients ∧ state.relay.relayAddr = none then
        match establishUdpAssociate order proxyConfig connect bound with
        | some addr =>
            { state with relay.relayAddr := some addr, relay.hasSendSock := true }
        | none => state
      else state
  | .client datagram sent =>
      if state.relay.phase = .clients ∧ state.relay.relayAddr ≠ none then
        clientStep order state datagram sent
      else state
  | .proxy datagram keys =>
      if state.relay.phase = .proxy then proxyStep order state datagram keys else state
  | .add srcPort srcIp destIp destPort =>
      { state with tracker := state.tracker.add state.now srcPort srcIp destIp destPort }
  | .cleanup => { state with tracker := state.tracker.cleanupStale state.now }
  | .clear => { state with tracker := state.tracker.clear }
  | .advance nanos => { state with now := state.now + nanos }

end ProxyBridge
