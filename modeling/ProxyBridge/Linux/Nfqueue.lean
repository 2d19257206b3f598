import ProxyBridge.Core.RuleEngine
import ProxyBridge.Foundation.Bytes
import ProxyBridge.Linux.Process

namespace ProxyBridge

open Foundation Text

/-!
# One packet of the queue

`nfqueueIteration` is the body of the packet loop.  Every slice and every index
into the payload is partial, so an access out of range is a missing result.
The verdicts are collected in a list, so that issuing none or two is visible.

The decision comes in three steps: what the bytes say (`readPacket`), the early
exits for packets that are not new connections (`processPacket`), and the
decision pipeline for those that are (`decisionPipeline`).
-/

/-- The arguments of the loop that do not change while it runs, and the byte
order of the host. -/
structure NfqueueArgs where
  order : Octets.ByteOrder
  ruleEngine : RuleEngine
  proxyConfig : ProxyConfig
  dnsViaProxy : Bool
  currentPid : UInt32

inductive Verdict where
  | accept
  | drop
  deriving DecidableEq

/-- A verdict as it is handed to the kernel, with the mark that was set. -/
structure Issued where
  verdict : Verdict
  mark : Option UInt32
  deriving DecidableEq

/-- The tables that the loop shares with the rest of the program. -/
structure SharedTables where
  connTracker : ConnectionTracker
  pidCache : PidCache

/-- What one iteration does: its verdicts in order, the sockets whose owner it
looked up, and the tables it leaves. -/
structure IterationResult where
  issued : List Issued
  lookups : List PidCacheKey
  tables : SharedTables

/-- `set_verdict(Accept)` and on to the next packet. -/
def passUnmarked (tables : SharedTables) : IterationResult where
  issued := [⟨.accept, none⟩]
  lookups := []
  tables := tables

structure IpHeader where
  ihl : Nat
  protocol : UInt8
  srcIp : UInt32
  destIp : UInt32

structure Packet where
  srcIp : UInt32
  destIp : UInt32
  srcPort : UInt16
  destPort : UInt16
  isTcp : Bool
  isSyn : Bool
  deriving DecidableEq

namespace Packet

def isUdp (packet : Packet) : Bool :=
  !packet.isTcp

end Packet

def ipprotoTcp : UInt8 := 6

def ipprotoUdp : UInt8 := 17

/-- The fields of the IP header; the payload has at least 20 bytes here. -/
def readIpHeader (order : Octets.ByteOrder) (payload : Octets) : Option IpHeader := do
  let versionIhl ← payload[0]?
  let protocol ← payload[9]?
  let srcBytes ← Octets.slice payload 12 16
  let destBytes ← Octets.slice payload 16 20
  return {
    ihl := (versionIhl &&& 0x0F).toNat * 4
    protocol := protocol
    srcIp := Octets.fromNeBytes order srcBytes
    destIp := Octets.fromNeBytes order destBytes }

/-- Two bytes of the payload as a port number. -/
def readPort (payload : Octets) (offset : Nat) : Option UInt16 :=
  (Octets.slice payload offset (offset + 2)).bind Octets.fromBeBytes

/-- The fields of the transport header; `none` inside when the payload is too
short for it, or the protocol is neither TCP nor UDP. -/
def readTransport (payload : Octets) (ip : IpHeader) : Option (Option Packet) :=
  if ip.protocol = ipprotoTcp then
    if payload.length < ip.ihl + 20 then some none
    else do
      let srcPort ← readPort payload ip.ihl
      let destPort ← readPort payload (ip.ihl + 2)
      let flags ← payload[ip.ihl + 13]?
      return some {
        srcIp := ip.srcIp
        destIp := ip.destIp
        srcPort := srcPort
        destPort := destPort
        isTcp := true
        isSyn := (flags &&& 0x02) != 0 && (flags &&& 0x10) == 0 }
  else if ip.protocol = ipprotoUdp then
    if payload.length < ip.ihl + 8 then some none
    else do
      let srcPort ← readPort payload ip.ihl
      let destPort ← readPort payload (ip.ihl + 2)
      return some {
        srcIp := ip.srcIp
        destIp := ip.destIp
        srcPort := srcPort
        destPort := destPort
        isTcp := false
        isSyn := false }
  else some none

/-! ## The decision pipeline -/

/-- What the rules say, with the owner looked up unless the packet is a DNS
query that stays direct. -/
structure Matched where
  action : RuleAction
  lookups : List PidCacheKey
  pidCache : PidCache

def matchPacket (args : NfqueueArgs) (host : HostAnswers) (now : Instant) (cache : PidCache)
    (packet : Packet) : Matched :=
  if packet.destPort = 53 ∧ args.dnsViaProxy = false then
    { action := .direct, lookups := [], pidCache := cache }
  else
    let found := getPidFromConnection host now cache packet.srcIp packet.srcPort packet.isUdp
    { action :=
        if found.1 = 0 ∨ found.1 = args.currentPid then .direct
        else
          match getProcessName host found.1 with
          | some name =>
              args.ruleEngine.matchRule name packet.destIp packet.destPort packet.isUdp
          | none => .direct
      lookups := [⟨packet.srcIp, packet.srcPort, packet.isUdp⟩]
      pidCache := found.2 }

/-- A guard behind the match: under its condition `proxy` becomes `direct`. -/
def directIf (condition : Bool) (action : RuleAction) : RuleAction :=
  if action = .proxy ∧ condition = true then .direct else action

/-- The four guards, in order: broadcast and multicast destinations, the DHCP
ports, UDP through an HTTP proxy, and no proxy configured. -/
def downgrade (proxyConfig : ProxyConfig) (packet : Packet) (matched : RuleAction) : RuleAction :=
  let action := directIf (isBroadcastOrMulticast packet.destIp) matched
  let action := directIf (packet.isUdp && (packet.destPort == 67 || packet.destPort == 68)) action
  let action := directIf (packet.isUdp && proxyConfig.proxyType != .socks5) action
  directIf (proxyConfig.host.isEmpty || proxyConfig.port == 0) action

/-- The final match on the action. -/
def issueAction (now : Instant) (tracker : ConnectionTracker) (packet : Packet) :
    RuleAction -> List Issued × ConnectionTracker
  | .direct => ([⟨.accept, none⟩], tracker)
  | .block => ([⟨.drop, none⟩], tracker)
  | .proxy =>
      ([⟨.accept, some (if packet.isTcp then tcpMark else udpMark)⟩],
        tracker.add now packet.srcPort packet.srcIp packet.destIp packet.destPort)

/-- The action that the pipeline takes for a packet. -/
def decidedAction (args : NfqueueArgs) (host : HostAnswers) (now : Instant) (cache : PidCache)
    (packet : Packet) : RuleAction :=
  downgrade args.proxyConfig packet (matchPacket args host now cache packet).action

/-- Everything behind the test for tracked connections. -/
def decisionPipeline (args : NfqueueArgs) (host : HostAnswers) (now : Instant)
    (tables : SharedTables) (packet : Packet) : IterationResult :=
  let matched := matchPacket args host now tables.pidCache packet
  let outcome := issueAction now tables.connTracker packet
    (decidedAction args host now tables.pidCache packet)
  { issued := outcome.1
    lookups := matched.lookups
    tables := { connTracker := outcome.2, pidCache := matched.pidCache } }

/-- A packet whose headers have been read. -/
def processPacket (args : NfqueueArgs) (host : HostAnswers) (now : Instant)
    (tables : SharedTables) (packet : Packet) : IterationResult :=
  if packet.isTcp = true ∧ packet.srcPort = localProxyPort then passUnmarked tables
  else if packet.isUdp = true ∧ packet.srcPort = localUdpRelayPort then passUnmarked tables
  else if tables.connTracker.isTracked packet.srcPort = true then passUnmarked tables
  else if packet.isTcp = true ∧ packet.isSyn = false then passUnmarked tables
  else decisionPipeline args host now tables packet

def nfqueueIteration (args : NfqueueArgs) (host : HostAnswers) (now : Instant)
    (tables : SharedTables) (payload : Octets) : Option IterationResult :=
  if payload.length < 20 then some (passUnmarked tables)
  else do
    let ip ← readIpHeader args.order payload
    if args.ruleEngine.hasActiveRules = false then some (passUnmarked tables)
    else
      match ← readTransport payload ip with
      | none => some (passUnmarked tables)
      | some packet => some (processPacket args host now tables packet)

end ProxyBridge
