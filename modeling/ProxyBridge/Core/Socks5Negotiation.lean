import ProxyBridge.Core.Socks5Handshake

namespace ProxyBridge

open Foundation Text Utf8 Session

/-!
# The two copies of the negotiation

The program contains the negotiation twice, once for each command, with its own
error texts.  Each copy is spelled out here and is what its command runs first.
The copies do the same on every stream: they leave the same exchange behind and
fail on the same streams.  So the two commands differ only from their request on.
-/

/-- The part of `socks5_connect` in front of its request. -/
def socks5ConnectNegotiation (username password : Option Str) : Session ConnectError Unit := do
  let useAuth := username.isSome && password.isSome
  writeAll ([socks5Version] ++
      if useAuth then [0x02, socks5AuthNone, socks5AuthPassword] else [0x01, socks5AuthNone])
    (.io "socks5: failed to send auth methods".toList)
  let resp ← readExact 2 (.io "socks5: failed to read auth response".toList)
  if resp.getD 0 0 ≠ socks5Version then
    fail (.bail ("socks5: invalid version in auth response: ".toList ++
      decimal (resp.getD 0 0).toNat))
  else if resp.getD 1 0 = socks5AuthPassword ∧ useAuth = true then do
    writeAll ([0x01, UInt8.ofNat (len (username.getD []))] ++ asBytes (username.getD []) ++
        UInt8.ofNat (len (password.getD [])) :: asBytes (password.getD []))
      (.io "socks5: failed to send credentials".toList)
    let authResp ← readExact 2 (.io "socks5: failed to read auth result".toList)
    if authResp.getD 0 0 ≠ 0x01 ∨ authResp.getD 1 0 ≠ 0x00 then
      fail (.bail "socks5: authentication failed".toList)
    else pure ()
  else if resp.getD 1 0 ≠ socks5AuthNone then
    fail (.bail ("socks5: unsupported auth method: ".toList ++ decimal (resp.getD 1 0).toNat))
  else pure ()

/-- The part of `socks5_udp_associate` in front of its request. -/
def socks5UdpAssociateNegotiation (username password : Option Str) :
    Session ConnectError Unit := do
  let useAuth := username.isSome && password.isSome
  writeAll ([socks5Version] ++
      if useAuth then [0x02, socks5AuthNone, socks5AuthPassword] else [0x01, socks5AuthNone])
    (.io none)
  let resp ← readExact 2 (.io none)
  if resp.getD 0 0 ≠ socks5Version then fail (.bail "socks5 udp: invalid version".toList)
  else if resp.getD 1 0 = socks5AuthPassword ∧ useAuth = true then do
    writeAll ([0x01, UInt8.ofNat (len (username.getD []))] ++ asBytes (username.getD []) ++
        UInt8.ofNat (len (password.getD [])) :: asBytes (password.getD []))
      (.io none)
    let authResp ← readExact 2 (.io none)
    if authResp.getD 0 0 ≠ 0x01 ∨ authResp.getD 1 0 ≠ 0x00 then
      fail (.bail "socks5 udp: authentication failed".toList)
    else pure ()
  else if resp.getD 1 0 ≠ socks5AuthNone then
    fail (.bail "socks5 udp: unsupported auth method".toList)
  else pure ()

theorem negotiate_connectErrors (username password : Option Str) :
    negotiate socks5ConnectErrors username password =
      socks5ConnectNegotiation username password :=
  rfl

theorem negotiate_udpAssociateErrors (username password : Option Str) :
    negotiate socks5UdpAssociateErrors username password =
      socks5UdpAssociateNegotiation username password :=
  rfl

/-- The copies do the same on every stream. -/
theorem alike_negotiations (username password : Option Str) :
    Alike (socks5ConnectNegotiation username password)
      (socks5UdpAssociateNegotiation username password) := by
  apply alike_bind (alike_writeAll _ _ _)
  intro _
  apply alike_bind (alike_readExact _ _ _)
  intro resp
  apply alike_ite (alike_fail _ _)
  apply alike_ite
  · apply alike_bind (alike_writeAll _ _ _)
    intro _
    apply alike_bind (alike_readExact _ _ _)
    intro authResp
    exact alike_ite (alike_fail _ _) (alike_pure _)
  · exact alike_ite (alike_fail _ _) (alike_pure _)

/-- The events in front of the first occurrence of a message. -/
def exchangeBefore (request : Octets) : List StreamEvent -> List StreamEvent
  | [] => []
  | .wrote message :: rest =>
      if message = request then [] else .wrote message :: exchangeBefore request rest
  | .received bytes :: rest => .received bytes :: exchangeBefore request rest

theorem exchangeBefore_append {request : Octets} {before : List StreamEvent}
    (absent : .wrote request ∉ before) (after : List StreamEvent) :
    exchangeBefore request (before ++ after) = before ++ exchangeBefore request after := by
  induction before with
  | nil => rfl
  | cons event rest ih =>
      have later := ih (List.not_mem_of_not_mem_cons absent)
      cases event with
      | wrote message =>
          have other : message ≠ request := by
            intro same
            rw [same] at absent
            exact absent List.mem_cons_self
          rw [List.cons_append, exchangeBefore, if_neg other, later]
          rfl
      | received bytes =>
          rw [List.cons_append, exchangeBefore, later]
          rfl

theorem exchangeBefore_of_not_mem {request : Octets} {trace : List StreamEvent}
    (absent : .wrote request ∉ trace) : exchangeBefore request trace = trace := by
  have whole := exchangeBefore_append absent []
  rwa [exchangeBefore, List.append_nil] at whole

theorem exchangeBefore_append_request {request : Octets} {before : List StreamEvent}
    (absent : .wrote request ∉ before) (after : List StreamEvent) :
    exchangeBefore request (before ++ .wrote request :: after) = before := by
  rw [exchangeBefore_append absent, exchangeBefore, if_pos rfl, List.append_nil]

/-- A request is never one of the messages of the negotiation. -/
theorem request_not_mem_negotiate (errors : NegotiationErrors) (username password : Option Str)
    (server : List Octets) (ending : Ending) (writable : Nat -> Bool) (command : UInt8)
    (order : Octets.ByteOrder) (ip : UInt32) (port : UInt16) :
    .wrote (requestMessage command order ip port) ∉
      (negotiate errors username password (TcpStream.opened server ending writable)).2.trace := by
  intro member
  have safe : Ensures (negotiate errors username password)
      (TcpStream.opened server ending writable) _ := negotiate_safe []
  rcases List.append_of_mem member with ⟨before, after, whole⟩
  have permitted := safe.1 before _ after whole
  generalize message : requestMessage command order ip port = request at permitted
  cases permitted with
  | methods =>
      cases both : useAuth username password with
      | true =>
          rw [both] at message
          cases message
      | false =>
          rw [both] at message
          cases message
  | credentials user pass hasUser hasPass => cases message
  | request method offered => cases message

/-- On every server stream the two commands exchange the same with the server
in front of their requests.  Either both write a request, or both fail on the
same stream without one. -/
theorem socks5_commands_negotiate_alike (order : Octets.ByteOrder) (destIp : UInt32)
    (destPort : UInt16) (username password : Option Str) (server : List Octets) (ending : Ending)
    (writable : Nat -> Bool) :
    let connected := socks5Connect order destIp destPort username password
      (TcpStream.opened server ending writable)
    let associated := socks5UdpAssociate order username password
      (TcpStream.opened server ending writable)
    let connectRequest := requestMessage socks5CmdConnect order destIp destPort
    let associateRequest := requestMessage socks5CmdUdpAssociate order 0 0
    exchangeBefore connectRequest connected.2.trace =
        exchangeBefore associateRequest associated.2.trace ∧
      (.wrote connectRequest ∈ connected.2.trace <->
        .wrote associateRequest ∈ associated.2.trace) ∧
      (.wrote connectRequest ∉ connected.2.trace ->
        (Exists fun error => connected.1 = .error error) ∧
          (Exists fun error => associated.1 = .error error) ∧ connected.2 = associated.2) := by
  intro connected associated connectRequest associateRequest
  have connect : Ensures (socks5Connect order destIp destPort username password)
      (TcpStream.opened server ending writable) _ :=
    command_cases fun _ => still_checks _ _ _
  have associate : Ensures (socks5UdpAssociate order username password)
      (TcpStream.opened server ending writable) _ :=
    command_cases fun _ => still_checks _ _ _
  have alike := alike_negotiations username password (TcpStream.opened server ending writable)
  rw [← negotiate_connectErrors, ← negotiate_udpAssociateErrors] at alike
  rcases alike with ⟨same, agree⟩
  have absentConnect := request_not_mem_negotiate socks5ConnectErrors username password server
    ending writable socks5CmdConnect order destIp destPort
  have absentAssociate := request_not_mem_negotiate socks5UdpAssociateErrors username password
    server ending writable socks5CmdUdpAssociate order 0 0
  rcases connect with ⟨error, failed, result, stream⟩ | ⟨succeeded, _, after, trace, _⟩
  · rcases associate with ⟨other, _, otherResult, otherStream⟩ | ⟨otherSucceeded, _⟩
    · change connected.1 = _ at result
      change connected.2 = _ at stream
      change associated.1 = _ at otherResult
      change associated.2 = _ at otherStream
      rw [stream, otherStream, exchangeBefore_of_not_mem absentConnect,
        exchangeBefore_of_not_mem absentAssociate, same]
      rw [same] at absentConnect
      exact ⟨rfl, iff_of_false absentConnect absentAssociate,
        fun _ => ⟨⟨error, result⟩, ⟨other, otherResult⟩, rfl⟩⟩
    · rw [(agree ()).mpr otherSucceeded] at failed
      cases failed
  · rcases associate with ⟨other, otherFailed, _⟩ | ⟨_, _, otherAfter, otherTrace, _⟩
    · rw [(agree ()).mp succeeded] at otherFailed
      cases otherFailed
    · change connected.2.trace = _ at trace
      change associated.2.trace = _ at otherTrace
      have written : StreamEvent.wrote connectRequest ∈ connected.2.trace := by
        rw [trace]
        exact List.mem_append_right _ List.mem_cons_self
      have otherWritten : StreamEvent.wrote associateRequest ∈ associated.2.trace := by
        rw [otherTrace]
        exact List.mem_append_right _ List.mem_cons_self
      refine ⟨?_, iff_of_true written otherWritten, fun absent => absurd written absent⟩
      rw [trace, otherTrace, exchangeBefore_append_request absentConnect,
        exchangeBefore_append_request absentAssociate, same]

end ProxyBridge
