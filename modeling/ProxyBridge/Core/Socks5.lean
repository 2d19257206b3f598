import ProxyBridge.Core.Config
import ProxyBridge.Foundation.ByteStream
import ProxyBridge.Foundation.Utf8

namespace ProxyBridge

open Foundation Text Utf8 Session

/-!
# SOCKS5

The client side of the SOCKS5 handshakes: method negotiation with optional
password authentication, then one request.  The two commands negotiate in the
same way and differ in their error texts, in the request, and in what they
check of the reply.  The framing of UDP datagrams is here as well.

`Socks5Handshake` says what the handshakes do against an arbitrary server.
-/

/-- An error of a handshake: a failed read or write with its context, or a
refusal by the client itself. -/
inductive ConnectError where
  | io (context : Option Str)
  | bail (message : Str)
  deriving DecidableEq

def methodsMessage (useAuth : Bool) : Octets :=
  socks5Version ::
    (if useAuth then [0x02, socks5AuthNone, socks5AuthPassword] else [0x01, socks5AuthNone])

/-- The lengths are cast to a byte each. -/
def credentialsMessage (user pass : Str) : Octets :=
  [0x01, UInt8.ofNat (len user)] ++ asBytes user ++ UInt8.ofNat (len pass) :: asBytes pass

def requestMessage (command : UInt8) (order : Octets.ByteOrder) (ip : UInt32) (port : UInt16) :
    Octets :=
  [socks5Version, command, 0x00, socks5AtypIpv4] ++ Octets.toNeBytes order ip ++
    Octets.toBeBytes port

/-- What the two commands report for the same failures. -/
structure NegotiationErrors where
  sendMethods : ConnectError
  readMethod : ConnectError
  invalidVersion : UInt8 -> ConnectError
  sendCredentials : ConnectError
  readResult : ConnectError
  failed : ConnectError
  unsupported : UInt8 -> ConnectError

/-- Both parts of the credentials are there. -/
def useAuth (username password : Option Str) : Bool :=
  username.isSome && password.isSome

def negotiate (errors : NegotiationErrors) (username password : Option Str) :
    Session ConnectError Unit := do
  writeAll (methodsMessage (useAuth username password)) errors.sendMethods
  let resp ← readExact 2 errors.readMethod
  if resp.getD 0 0 ≠ socks5Version then fail (errors.invalidVersion (resp.getD 0 0))
  else if resp.getD 1 0 = socks5AuthPassword ∧ useAuth username password = true then do
    writeAll (credentialsMessage (username.getD []) (password.getD [])) errors.sendCredentials
    let authResp ← readExact 2 errors.readResult
    if authResp.getD 0 0 ≠ 0x01 ∨ authResp.getD 1 0 ≠ 0x00 then fail errors.failed
    else pure ()
  else if resp.getD 1 0 ≠ socks5AuthNone then fail (errors.unsupported (resp.getD 1 0))
  else pure ()

def socks5ConnectErrors : NegotiationErrors where
  sendMethods := .io "socks5: failed to send auth methods".toList
  readMethod := .io "socks5: failed to read auth response".toList
  invalidVersion := fun b =>
    .bail ("socks5: invalid version in auth response: ".toList ++ decimal b.toNat)
  sendCredentials := .io "socks5: failed to send credentials".toList
  readResult := .io "socks5: failed to read auth result".toList
  failed := .bail "socks5: authentication failed".toList
  unsupported := fun b => .bail ("socks5: unsupported auth method: ".toList ++ decimal b.toNat)

/-- `CONNECT`; the ten bytes that are read are the reply of an IPv4 address. -/
def socks5Connect (order : Octets.ByteOrder) (destIp : UInt32) (destPort : UInt16)
    (username password : Option Str) : Session ConnectError Unit := do
  negotiate socks5ConnectErrors username password
  writeAll (requestMessage socks5CmdConnect order destIp destPort)
    (.io "socks5: failed to send connect request".toList)
  let connectResp ← readExact 10 (.io "socks5: failed to read connect response".toList)
  if connectResp.getD 0 0 ≠ socks5Version then
    fail (.bail "socks5: invalid version in connect response".toList)
  else if connectResp.getD 1 0 ≠ 0x00 then
    fail (.bail ("socks5: connect failed with status ".toList ++
      decimal (connectResp.getD 1 0).toNat))
  else pure ()

def socks5UdpAssociateErrors : NegotiationErrors where
  sendMethods := .io none
  readMethod := .io none
  invalidVersion := fun _ => .bail "socks5 udp: invalid version".toList
  sendCredentials := .io none
  readResult := .io none
  failed := .bail "socks5 udp: authentication failed".toList
  unsupported := fun _ => .bail "socks5 udp: unsupported auth method".toList

/-- `UDP ASSOCIATE`; unlike `CONNECT` it checks the address type of the reply,
and returns the address in it. -/
def socks5UdpAssociate (order : Octets.ByteOrder) (username password : Option Str) :
    Session ConnectError (UInt32 × UInt16) := do
  negotiate socks5UdpAssociateErrors username password
  writeAll (requestMessage socks5CmdUdpAssociate order 0 0) (.io none)
  let associateResp ← readExact 10 (.io none)
  if associateResp.getD 0 0 ≠ socks5Version ∨ associateResp.getD 1 0 ≠ 0x00 then
    fail (.bail ("socks5 udp: associate failed with status ".toList ++
      decimal (associateResp.getD 1 0).toNat))
  else if associateResp.getD 3 0 ≠ socks5AtypIpv4 then
    fail (.bail "socks5 udp: unsupported address type in associate response".toList)
  else
    pure (Octets.fromNeBytes order ((associateResp.drop 4).take 4),
      (Octets.fromBeBytes ((associateResp.drop 8).take 2)).getD 0)

/-! ## UDP datagrams -/

def buildSocks5UdpPacket (order : Octets.ByteOrder) (destIp : UInt32) (destPort : UInt16)
    (data : Octets) : Octets :=
  [0x00, 0x00, 0x00, socks5AtypIpv4] ++ Octets.toNeBytes order destIp ++
    Octets.toBeBytes destPort ++ data

/-- The source address, the source port and the offset of the payload. -/
def parseSocks5UdpPacket (order : Octets.ByteOrder) (packet : Octets) :
    Option (UInt32 × UInt16 × Nat) :=
  if packet.length < 10 then none
  else if packet.getD 2 0 ≠ 0x00 then none
  else if packet.getD 3 0 ≠ socks5AtypIpv4 then none
  else do
    let srcIp ← Octets.slice packet 4 8
    let srcPort ← (Octets.slice packet 8 10).bind Octets.fromBeBytes
    return (Octets.fromNeBytes order srcIp, srcPort, 10)

/-- A datagram that was built is read as coming from the address it was built
for, with the payload behind the ten bytes of the header. -/
theorem parseSocks5UdpPacket_build (order : Octets.ByteOrder) (destIp : UInt32)
    (destPort : UInt16) (data : Octets) :
    parseSocks5UdpPacket order (buildSocks5UdpPacket order destIp destPort data) =
      some (destIp, destPort, 10) := by
  have address : Exists fun b0 => Exists fun b1 => Exists fun b2 => Exists fun b3 =>
      Octets.toNeBytes order destIp = [b0, b1, b2, b3] := by
    cases order with
    | little => exact ⟨_, _, _, _, rfl⟩
    | big => exact ⟨_, _, _, _, rfl⟩
  rcases address with ⟨b0, b1, b2, b3, octets⟩
  have ip := Octets.fromNeBytes_toNeBytes order destIp
  have port := Octets.fromBeBytes_toBeBytes destPort
  rw [octets] at ip
  rw [Octets.toBeBytes] at port
  rw [buildSocks5UdpPacket, octets, Octets.toBeBytes]
  have long : Not (data.length + 10 < 10) := by omega
  simp [parseSocks5UdpPacket, Octets.slice, long, ip, port]

end ProxyBridge
