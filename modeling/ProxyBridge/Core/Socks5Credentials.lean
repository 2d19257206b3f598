import ProxyBridge.Core.Socks5Handshake

namespace ProxyBridge

open Foundation Text Utf8 Session

/-!
# Credentials of the SOCKS5 handshake

A server that chooses password authentication is sent the user name and the
password, each behind one byte for its length.  A reader of this message gets
back what was meant exactly when both lengths fit in their byte; the client
sends longer ones all the same, with the lengths reduced modulo 256.
-/

/-- A reader of the message: the version, a user name and a password, with
nothing left over. -/
def readCredentials : Octets -> Option (Octets × Octets)
  | [] => none
  | version :: rest =>
      if version = 0x01 then
        match Octets.readPrefixed rest with
        | none => none
        | some (user, rest) =>
            match Octets.readPrefixed rest with
            | some (pass, []) => some (user, pass)
            | _ => none
      else none

theorem credentialsMessage_eq (user pass : Str) :
    credentialsMessage user pass =
      0x01 :: (Octets.prefixed (asBytes user) ++ (Octets.prefixed (asBytes pass) ++ [])) := by
  rw [credentialsMessage, Octets.prefixed, Octets.prefixed, length_asBytes, length_asBytes,
    List.append_nil]
  rfl

/-- The message is read back exactly when both lengths fit in a byte. -/
theorem readCredentials_credentialsMessage_iff (user pass : Str) :
    readCredentials (credentialsMessage user pass) = some (asBytes user, asBytes pass) <->
      len user ≤ 255 ∧ len pass ≤ 255 := by
  rw [← length_asBytes user, ← length_asBytes pass]
  constructor
  · intro decoded
    rw [credentialsMessage_eq, readCredentials, if_pos rfl] at decoded
    split at decoded
    · cases decoded
    · rename_i readUser rest first
      split at decoded
      · rename_i readPass second
        cases decoded
        exact ⟨Octets.length_of_readPrefixed first, Octets.length_of_readPrefixed second⟩
      · cases decoded
  · intro short
    rw [credentialsMessage_eq, readCredentials, if_pos rfl, Octets.readPrefixed_prefixed short.1]
    change (match Octets.readPrefixed (Octets.prefixed (asBytes pass) ++ []) with
      | some (pass, []) => some (asBytes user, pass)
      | _ => none) = _
    rw [Octets.readPrefixed_prefixed short.2]

/-- The exchange in which the server chooses password authentication. -/
def passwordChoice : List StreamEvent :=
  [.wrote (methodsMessage true), .received [0x05, 0x02]]

/-- The client goes on with password authentication. -/
def Authenticates (trace : List StreamEvent) : Prop :=
  passwordChoice <+: trace

/-- The message that answers the choice of the server. -/
def CredentialsSent (trace : List StreamEvent) (message : Octets) : Prop :=
  passwordChoice ++ [.wrote message] <+: trace

theorem CredentialsSent.append {trace : List StreamEvent} {message : Octets}
    (sent : CredentialsSent trace message) (after : List StreamEvent) :
    CredentialsSent (trace ++ after) message :=
  sent.trans (List.prefix_append trace after)

/-- At most one message answers it. -/
theorem CredentialsSent.unique {trace : List StreamEvent} {first second : Octets}
    (sent : CredentialsSent trace first) (other : CredentialsSent trace second) :
    first = second := by
  have same := List.prefix_of_prefix_length_le sent other (Nat.le_refl _)
  have whole := same.eq_of_length rfl
  have last := List.append_cancel_left whole
  cases last
  rfl

/-- Either an error and no credentials on the wire, or a message from which a
reader recovers the two strings. -/
def EncodesFaithfully {A : Type} (user pass : Str) (result : Except ConnectError A)
    (trace : List StreamEvent) : Prop :=
  (Exists fun error => result = .error error) ∧
      (forall message, Not (CredentialsSent trace message)) ∨
    Exists fun message => CredentialsSent trace message ∧
      readCredentials message = some (asBytes user, asBytes pass)

section Negotiation

variable {errors : NegotiationErrors} {user pass : Str} {server : List Octets} {ending : Ending}
  {writable : Nat -> Bool}

/-- Once the server has chosen password authentication the credentials are
written, whatever their lengths. -/
theorem negotiate_sends :
    Ensures (negotiate errors (some user) (some pass)) (TcpStream.opened server ending writable)
      (fun _ later => Authenticates later.trace ->
        CredentialsSent later.trace (credentialsMessage user pass)) := by
  apply ensures_mono negotiate_exchange
  intro result later held chosen
  generalize later.trace = trace at held chosen
  cases held.1 with
  | asked =>
      have size := chosen.length_le
      exact absurd size (by decide : Not (2 ≤ 1))
  | answered reply other =>
      have whole := chosen.eq_of_length rfl
      cases whole
      exact absurd rfl (other rfl)
  | authenticated both => exact List.prefix_rfl
  | judged both result => exact List.prefix_append _ [StreamEvent.received result]

end Negotiation

/-- What the two commands share: in a run that authenticates, the encoding is
faithful exactly for strings of at most 255 bytes. -/
theorem command_encodes_iff {A : Type} {errors : NegotiationErrors} {user pass : Str}
    {server : List Octets} {ending : Ending} {writable : Nat -> Bool} {request : Octets}
    {sendError readError : ConnectError} {checks : Octets -> Session ConnectError A}
    (still : forall reply, Still (checks reply)) :
    Ensures (do
        negotiate errors (some user) (some pass)
        writeAll request sendError
        let reply ← readExact 10 readError
        checks reply)
      (TcpStream.opened server ending writable) (fun result later =>
        Authenticates later.trace ->
          (EncodesFaithfully user pass result later.trace <->
            len user ≤ 255 ∧ len pass ≤ 255)) := by
  apply ensures_mono (command_cases still)
  intro result later cases chosen
  have sends : Ensures (negotiate errors (some user) (some pass))
      (TcpStream.opened server ending writable) _ := negotiate_sends
  have sent : CredentialsSent later.trace (credentialsMessage user pass) := by
    rcases cases with failed | granted
    · rcases failed with ⟨error, _, _, same⟩
      rw [same] at chosen ⊢
      exact sends chosen
    · rcases granted with ⟨_, ⟨method, through⟩, after, whole, _⟩
      cases method with
      | free =>
          rw [whole, through.exchanged] at chosen
          rcases chosen with ⟨rest, same⟩
          cases same
      | password =>
          rw [whole]
          apply CredentialsSent.append
          apply sends
          rw [through.exchanged]
          exact ⟨_, rfl⟩
  rw [← readCredentials_credentialsMessage_iff]
  constructor
  · intro faithful
    rcases faithful with silent | encoded
    · exact absurd sent (silent.2 _)
    · rcases encoded with ⟨message, other, decoded⟩
      rwa [other.unique sent] at decoded
  · intro decoded
    exact Or.inr ⟨_, sent, decoded⟩

/-- In every run that authenticates, against any server, the credentials are
encoded faithfully exactly when neither takes more than 255 bytes. -/
theorem socks5_credentials_faithful_iff (order : Octets.ByteOrder) (destIp : UInt32)
    (destPort : UInt16) (user pass : Str) (server : List Octets) (ending : Ending)
    (writable : Nat -> Bool) :
    let connected := socks5Connect order destIp destPort (some user) (some pass)
      (TcpStream.opened server ending writable)
    let associated := socks5UdpAssociate order (some user) (some pass)
      (TcpStream.opened server ending writable)
    (Authenticates connected.2.trace ->
      (EncodesFaithfully user pass connected.1 connected.2.trace <->
        len user ≤ 255 ∧ len pass ≤ 255)) ∧
    (Authenticates associated.2.trace ->
      (EncodesFaithfully user pass associated.1 associated.2.trace <->
        len user ≤ 255 ∧ len pass ≤ 255)) := by
  intro connected associated
  constructor
  · apply command_encodes_iff
    exact fun _ => still_checks _ _ _
  · apply command_encodes_iff
    exact fun _ => still_checks _ _ _

theorem socks5_credentials_faithful_iff_secret :
    let user := "user".toList
    let pass := "secret".toList
    let server := [[0x05, 0x02], [0x01, 0x00]]
    let connected := socks5Connect .little 0x04030201 443 (some user) (some pass)
      (TcpStream.opened server .closed (fun _ => true))
    let associated := socks5UdpAssociate .little (some user) (some pass)
      (TcpStream.opened server .closed (fun _ => true))
    (EncodesFaithfully user pass connected.1 connected.2.trace <->
      len user ≤ 255 ∧ len pass ≤ 255) ∧
    (EncodesFaithfully user pass associated.1 associated.2.trace <->
      len user ≤ 255 ∧ len pass ≤ 255) :=
  ⟨(socks5_credentials_faithful_iff .little 0x04030201 443 _ _ [[0x05, 0x02], [0x01, 0x00]]
      .closed (fun _ => true)).1 ⟨_, rfl⟩,
    (socks5_credentials_faithful_iff .little 0x04030201 443 _ _ [[0x05, 0x02], [0x01, 0x00]]
      .closed (fun _ => true)).2 ⟨_, rfl⟩⟩

/-- A user name of 256 bytes is sent with the length zero. -/
theorem socks5_credentials_long_user :
    Not (forall (order : Octets.ByteOrder) (destIp : UInt32) (destPort : UInt16)
      (user pass : Str) (server : List Octets) (ending : Ending) (writable : Nat -> Bool),
      let connected := socks5Connect order destIp destPort (some user) (some pass)
        (TcpStream.opened server ending writable)
      Authenticates connected.2.trace ->
        EncodesFaithfully user pass connected.1 connected.2.trace) := by
  intro faithful
  let user := List.replicate 256 'a'
  let connected := socks5Connect .little 0x04030201 443 (some user) (some "secret".toList)
    (TcpStream.opened [[0x05, 0x02]] .closed (fun _ => true))
  have run : EncodesFaithfully user "secret".toList connected.1 connected.2.trace :=
    faithful .little 0x04030201 443 user "secret".toList [[0x05, 0x02]] .closed (fun _ => true)
      ⟨_, rfl⟩
  have sent : CredentialsSent connected.2.trace (credentialsMessage user "secret".toList) :=
    ⟨_, rfl⟩
  rcases run with silent | encoded
  · exact silent.2 _ sent
  · rcases encoded with ⟨message, other, decoded⟩
    rw [other.unique sent] at decoded
    have short := ((readCredentials_credentialsMessage_iff _ _).mp decoded).1
    rw [len_replicate] at short
    revert short
    decide

end ProxyBridge
