import ProxyBridge.Core.Socks5

namespace ProxyBridge

open Foundation Text Utf8 Session

/-!
# Safety and success of the SOCKS5 handshake

The server of a handshake may send anything.  What a client writes is judged
by the exchange before it: `Permitted` lists the only positions at which each
message may stand.  A server lets the client through in one of two ways, and
the handshake succeeds on exactly the streams that take one of them and go on
with a reply that reports success.
-/

inductive Method where
  | free
  | password
  deriving DecidableEq

namespace Method

/-- The client has offered the method. -/
def Offered (username password : Option Str) : Method -> Prop
  | free => True
  | .password => useAuth username password = true

/-- The bytes with which the server lets the client through. -/
def grant : Method -> Octets
  | free => [0x05, 0x00]
  | password => [0x05, 0x02, 0x01, 0x00]

/-- The number of messages that the client writes before its request. -/
def messages : Method -> Nat
  | free => 1
  | password => 2

/-- The exchange up to the request. -/
def dialogue (username password : Option Str) : Method -> List StreamEvent
  | free => [.wrote (methodsMessage (useAuth username password)), .received [0x05, 0x00]]
  | .password => [.wrote (methodsMessage (useAuth username password)), .received [0x05, 0x02],
      .wrote (credentialsMessage (username.getD []) (password.getD [])), .received [0x01, 0x00]]

theorem receivedBytes_dialogue (username password : Option Str) (method : Method) :
    TcpStream.receivedBytes (method.dialogue username password) = method.grant := by
  cases method with
  | free => rfl
  | password => rfl

/-- What is received up to the reply. -/
theorem receivedBytes_exchange (username password : Option Str) (method : Method)
    (request reply : Octets) :
    TcpStream.receivedBytes
        (method.dialogue username password ++ [.wrote request, .received reply]) =
      method.grant ++ reply := by
  rw [TcpStream.receivedBytes_append, receivedBytes_dialogue]
  change method.grant ++ (reply ++ []) = _
  rw [List.append_nil]

theorem messages_eq (username password : Option Str) (method : Method) :
    (method.dialogue username password).countP TcpStream.isWrite = method.messages := by
  cases method with
  | free => rfl
  | password => rfl

/-- The second byte tells the two ways apart. -/
theorem grant_injective {first second : Method} {firstRest secondRest : Octets}
    (same : first.grant ++ firstRest = second.grant ++ secondRest) : first = second := by
  cases first with
  | free =>
      cases second with
      | free => rfl
      | password => cases same
  | password =>
      cases second with
      | free => cases same
      | password => rfl

end Method

/-- The positions at which a message may be written. -/
inductive Permitted (username password : Option Str) (request : Octets) :
    List StreamEvent -> Octets -> Prop where
  | methods : Permitted username password request [] (methodsMessage (useAuth username password))
  | credentials (user pass : Str) (hasUser : username = some user) (hasPass : password = some pass) :
      Permitted username password request
        [.wrote (methodsMessage (useAuth username password)), .received [0x05, 0x02]]
        (credentialsMessage user pass)
  | request (method : Method) (offered : method.Offered username password) :
      Permitted username password request (method.dialogue username password) request

theorem permitted_credentials {username password : Option Str} (request : Octets)
    (both : useAuth username password = true) :
    Permitted username password request
      [.wrote (methodsMessage (useAuth username password)), .received [0x05, 0x02]]
      (credentialsMessage (username.getD []) (password.getD [])) := by
  cases username with
  | none => cases both
  | some user =>
      cases password with
      | none => cases both
      | some pass => exact Permitted.credentials user pass rfl rfl

/-- A reply of two bytes is known by its two bytes. -/
theorem eq_of_take_two {bytes : Octets} {first second : UInt8} (long : 2 ≤ bytes.length)
    (head : (bytes.take 2).getD 0 0 = first) (next : (bytes.take 2).getD 1 0 = second) :
    bytes.take 2 = [first, second] := by
  have size : (bytes.take 2).length = 2 := by
    rw [List.length_take]
    omega
  rcases List.length_eq_two.mp size with ⟨b0, b1, same⟩
  rw [same] at head next ⊢
  rw [← head, ← next]
  rfl

/-- A stream on which the server has just let the client through. -/
structure LetThrough (username password : Option Str) (writable : Nat -> Bool) (method : Method)
    (stream : TcpStream) : Prop where
  offered : method.Offered username password
  exchanged : stream.trace = method.dialogue username password
  through : forall k, k < method.messages -> writable k = true
  same : stream.writable = writable

/-- The exchanges that a negotiation can leave behind. -/
inductive Negotiated (username password : Option Str) : List StreamEvent -> Prop where
  | asked :
      Negotiated username password [.wrote (methodsMessage (useAuth username password))]
  | answered (reply : Octets)
      (other : useAuth username password = true -> reply ≠ [0x05, 0x02]) :
      Negotiated username password
        [.wrote (methodsMessage (useAuth username password)), .received reply]
  | authenticated (both : useAuth username password = true) :
      Negotiated username password
        [.wrote (methodsMessage (useAuth username password)), .received [0x05, 0x02],
          .wrote (credentialsMessage (username.getD []) (password.getD []))]
  | judged (both : useAuth username password = true) (result : Octets) :
      Negotiated username password
        [.wrote (methodsMessage (useAuth username password)), .received [0x05, 0x02],
          .wrote (credentialsMessage (username.getD []) (password.getD [])), .received result]

section Negotiation

variable {username password : Option Str} {errors : NegotiationErrors} {server : List Octets}
  {ending : Ending} {writable : Nat -> Bool}

/-- Whatever the server does, the negotiation leaves one of these exchanges, and
it succeeds only after the server has let the client through. -/
theorem negotiate_exchange :
    Ensures (negotiate errors username password) (TcpStream.opened server ending writable)
      (fun result later =>
        Negotiated username password later.trace ∧
          (result = .ok () -> Exists fun method =>
            LetThrough username password writable method later)) := by
  have refused : forall {error : ConnectError} {goal : Prop}, Except.error error = .ok () -> goal :=
    fun impossible => by cases impossible
  unfold negotiate
  apply ensures_bind
  apply ensures_writeAll
  · intro sentMethods
    apply ensures_bind
    apply ensures_readExact
    · intro long incoming _
      apply ensures_ite
      · intro version
        refine ⟨Negotiated.answered _ ?_, refused⟩
        intro _ bytes
        rw [bytes] at version
        exact version rfl
      · intro version
        have version := Decidable.not_not.mp version
        apply ensures_ite
        · intro authenticate
          have reply := eq_of_take_two long version authenticate.1
          rw [reply]
          apply ensures_bind
          apply ensures_writeAll
          · intro sentCredentials
            apply ensures_bind
            apply ensures_readExact
            · intro long incoming _
              apply ensures_ite
              · intro _
                exact ⟨Negotiated.judged authenticate.2 _, refused⟩
              · intro granted
                have granted := not_or.mp granted
                have result := eq_of_take_two long (Decidable.not_not.mp granted.1)
                  (Decidable.not_not.mp granted.2)
                rw [result]
                refine ⟨Negotiated.judged authenticate.2 _,
                  fun _ => ⟨.password, authenticate.2, rfl, ?_, rfl⟩⟩
                intro k early
                change k < 2 at early
                rcases Nat.lt_succ_iff_lt_or_eq.mp early with earlier | last
                · rw [Nat.lt_one_iff.mp earlier]
                  exact sentMethods
                · rw [last]
                  exact sentCredentials
            · intro _ incoming _
              exact ⟨Negotiated.judged authenticate.2 _, refused⟩
          · intro _
            exact ⟨Negotiated.authenticated authenticate.2, refused⟩
        · intro refuse
          apply ensures_ite
          · intro _
            refine ⟨Negotiated.answered _ ?_, refused⟩
            intro both bytes
            rw [bytes] at refuse
            exact refuse ⟨rfl, both⟩
          · intro free
            have reply := eq_of_take_two long version (Decidable.not_not.mp free)
            rw [reply]
            refine ⟨Negotiated.answered _ (fun _ same => by cases same),
              fun _ => ⟨.free, trivial, rfl, ?_, rfl⟩⟩
            intro k early
            rw [Nat.lt_one_iff.mp early]
            exact sentMethods
    · intro short incoming _
      refine ⟨Negotiated.answered _ ?_, refused⟩
      intro _ bytes
      rw [bytes] at short
      exact absurd short (by decide)
  · intro _
    exact ⟨Negotiated.asked, refused⟩

/-- Each message of a negotiation is at its place. -/
theorem Negotiated.everyWrite {trace : List StreamEvent} (request : Octets)
    (exchange : Negotiated username password trace) :
    EveryWrite (Permitted username password request) trace := by
  have first : EveryWrite (Permitted username password request)
      [.wrote (methodsMessage (useAuth username password))] :=
    everyWrite_wrote everyWrite_nil Permitted.methods
  have second (both : useAuth username password = true) :
      EveryWrite (Permitted username password request)
        [.wrote (methodsMessage (useAuth username password)), .received [0x05, 0x02],
          .wrote (credentialsMessage (username.getD []) (password.getD []))] :=
    everyWrite_wrote (everyWrite_received first) (permitted_credentials request both)
  cases exchange with
  | asked => exact first
  | answered reply other => exact everyWrite_received first
  | authenticated both => exact second both
  | judged both result => exact everyWrite_received (second both)

/-- Whatever the server does, the negotiation writes permitted messages only,
and it succeeds only after the server has let the client through. -/
theorem negotiate_safe (request : Octets) :
    Ensures (negotiate errors username password) (TcpStream.opened server ending writable)
      (fun result later =>
        EveryWrite (Permitted username password request) later.trace ∧
          (result = .ok () -> Exists fun method =>
            LetThrough username password writable method later)) :=
  ensures_mono negotiate_exchange
    (fun _ _ held => ⟨held.1.everyWrite request, held.2⟩)

/-- A server that lets the client through does so, unless a write fails. -/
theorem negotiate_grants {method : Method} (offered : method.Offered username password)
    {rest : Octets} (bytes : server.flatten = method.grant ++ rest)
    (through : forall k, k < method.messages -> writable k = true) :
    Ensures (negotiate errors username password) (TcpStream.opened server ending writable)
      (fun result later => result = .ok () ∧ later.pending = rest ∧
        LetThrough username password writable method later) := by
  unfold negotiate
  cases method with
  | free =>
      apply ensures_bind
      apply ensures_writeAll_of_writable (through 0 (by decide))
      apply ensures_bind
      refine ensures_readExact_of_pending [0x05, 0x00] rest bytes rfl ?_
      intro incoming left
      exact ⟨rfl, left, offered, rfl, through, rfl⟩
  | password =>
      have both : useAuth username password = true := offered
      have parts : server.flatten = [0x05, 0x02] ++ ([0x01, 0x00] ++ rest) := by
        rw [bytes]
        rfl
      apply ensures_bind
      apply ensures_writeAll_of_writable (through 0 (by decide))
      apply ensures_bind
      refine ensures_readExact_of_pending [0x05, 0x02] ([0x01, 0x00] ++ rest) parts rfl ?_
      intro incoming left
      apply ensures_ite
      · intro wrong
        exact absurd rfl wrong
      · intro _
        apply ensures_ite
        · intro _
          apply ensures_bind
          apply ensures_writeAll_of_writable (through 1 (by decide))
          apply ensures_bind
          refine ensures_readExact_of_pending [0x01, 0x00] rest left rfl ?_
          intro later final
          exact ⟨rfl, final, offered, rfl, through, rfl⟩
        · intro notOffered
          exact absurd ⟨rfl, both⟩ notOffered

end Negotiation

theorem conserves_negotiate (errors : NegotiationErrors) (username password : Option Str) :
    Conserves (negotiate errors username password) := by
  apply conserves_bind (conserves_writeAll _ _)
  intro _
  apply conserves_bind (conserves_readExact _ _)
  intro resp
  apply conserves_ite (conserves_fail _)
  apply conserves_ite
  · apply conserves_bind (conserves_writeAll _ _)
    intro _
    apply conserves_bind (conserves_readExact _ _)
    intro authResp
    exact conserves_ite (conserves_fail _) (conserves_pure _)
  · exact conserves_ite (conserves_fail _) (conserves_pure _)

/-! ## The request and its reply -/

/-- Ten bytes that report success to the `CONNECT` command. -/
def ReportsSuccess (reply : Octets) : Prop :=
  reply.length = 10 ∧ reply.getD 0 0 = 0x05 ∧ reply.getD 1 0 = 0x00

/-- A server stream that lets the client through and then reports success. -/
def Accepts (username password : Option Str) (bytes : Octets) : Prop :=
  Exists fun method : Method => method.Offered username password ∧
    Exists fun reply => Exists fun rest =>
      ReportsSuccess reply ∧ bytes = method.grant ++ reply ++ rest

/-! What the two commands share is stated for any checks of the ten bytes that
neither read nor write. -/

section Command

variable {A : Type} {errors : NegotiationErrors} {username password : Option Str}
  {server : List Octets} {ending : Ending} {writable : Nat -> Bool} {request : Octets}
  {sendError readError : ConnectError} {checks : Octets -> Session ConnectError A}

theorem conserves_command (still : forall reply, Still (checks reply)) :
    Conserves (do
      negotiate errors username password
      writeAll request sendError
      let reply ← readExact 10 readError
      checks reply) := by
  apply conserves_bind (conserves_negotiate _ _ _)
  intro _
  apply conserves_bind (conserves_writeAll _ _)
  intro _
  apply conserves_bind (conserves_readExact _ _)
  intro reply
  exact conserves_of_still (still reply)

/-- Either command, against any server: what it writes is permitted, and a
result needs a server that has let the client through, the request, and ten bytes
that pass the checks of the command. -/
theorem command_safe (still : forall reply, Still (checks reply)) :
    Ensures (do
        negotiate errors username password
        writeAll request sendError
        let reply ← readExact 10 readError
        checks reply)
      (TcpStream.opened server ending writable) (fun result later =>
        EveryWrite (Permitted username password request) later.trace ∧
          forall value, result = .ok value -> Exists fun method : Method =>
            method.Offered username password ∧
              (forall k, k < method.messages + 1 -> writable k = true) ∧
              Exists fun reply => reply.length = 10 ∧ (checks reply later).1 = .ok value ∧
                later.trace =
                  method.dialogue username password ++ [.wrote request, .received reply]) := by
  have refused : forall {error : ConnectError} {goal : A -> Prop} (value : A),
      Except.error error = .ok value -> goal value :=
    fun _ impossible => by cases impossible
  apply ensures_bind
  apply ensures_mono (negotiate_safe request)
  intro result later held
  cases result with
  | error error => exact ⟨held.1, refused⟩
  | ok value =>
      rcases held.2 rfl with ⟨method, offered, exchanged, through, same⟩
      have requested : EveryWrite (Permitted username password request)
          (later.trace ++ [.wrote request]) :=
        everyWrite_wrote held.1 (by rw [exchanged]; exact Permitted.request method offered)
      apply ensures_bind
      apply ensures_writeAll
      · intro sentRequest
        rw [same, TcpStream.writes, exchanged, Method.messages_eq] at sentRequest
        apply ensures_bind
        apply ensures_readExact
        · intro long incoming _
          apply ensures_still (still _)
          refine ⟨everyWrite_received requested, ?_⟩
          intro value succeeded
          refine ⟨method, offered, ?_, later.pending.take 10, ?_, succeeded, ?_⟩
          · intro k early
            rcases Nat.lt_succ_iff_lt_or_eq.mp early with earlier | last
            · exact through k earlier
            · rw [last]
              exact sentRequest
          · change 10 ≤ later.pending.length at long
            rw [List.length_take, Nat.min_eq_left long]
          · rw [← exchanged]
            exact List.append_assoc _ _ _
        · intro _ incoming _
          exact ⟨everyWrite_received requested, refused⟩
      · intro _
        exact ⟨requested, refused⟩

/-- Either the negotiation fails and the command with it, on the same stream, or
the request follows the negotiation and nothing more is written. -/
theorem command_cases (still : forall reply, Still (checks reply)) :
    let negotiated := negotiate errors username password (TcpStream.opened server ending writable)
    Ensures (do
        negotiate errors username password
        writeAll request sendError
        let reply ← readExact 10 readError
        checks reply)
      (TcpStream.opened server ending writable) (fun result later =>
        (Exists fun error => negotiated.1 = .error error ∧ result = .error error ∧
          later = negotiated.2) ∨
        (negotiated.1 = .ok () ∧
          (Exists fun method => LetThrough username password writable method negotiated.2) ∧
          Exists fun after => later.trace = negotiated.2.trace ++ .wrote request :: after ∧
            forall message, .wrote message ∉ after)) := by
  intro negotiated
  have safe : Ensures (negotiate errors username password)
      (TcpStream.opened server ending writable) _ := negotiate_safe request
  have run : Ensures (negotiate errors username password)
      (TcpStream.opened server ending writable)
      (fun result later => negotiated.1 = result ∧ negotiated.2 = later) := ⟨rfl, rfl⟩
  apply ensures_bind
  apply ensures_mono run
  intro result later same
  cases result with
  | error error => exact Or.inl ⟨error, same.1, rfl, same.2.symm⟩
  | ok value =>
      have granted := safe.2 same.1
      change Exists fun method => LetThrough username password writable method negotiated.2
        at granted
      rw [same.1, same.2]
      rw [same.2] at granted
      have wrote : forall stream : TcpStream, (stream.sent request).trace =
          stream.trace ++ [.wrote request] := fun _ => rfl
      have silent : forall (bytes message : Octets),
          StreamEvent.wrote message ∉ [StreamEvent.received bytes] := by
        intro bytes message member
        cases List.mem_singleton.mp member
      have answered : forall bytes : Octets,
          (later.trace ++ [StreamEvent.wrote request]) ++ [StreamEvent.received bytes] =
            later.trace ++ .wrote request :: [StreamEvent.received bytes] :=
        fun _ => List.append_assoc _ _ _
      apply ensures_bind
      apply ensures_writeAll
      · intro _
        apply ensures_bind
        apply ensures_readExact
        · intro _ incoming _
          apply ensures_still (still _)
          exact Or.inr ⟨rfl, granted, _, answered _, silent _⟩
        · intro _ incoming _
          exact Or.inr ⟨rfl, granted, _, answered _, silent _⟩
      · intro _
        exact Or.inr ⟨rfl, granted, [], wrote _, fun _ => List.not_mem_nil⟩

/-- A client that has been let through writes its request, and nothing after
it. -/
theorem command_requests (still : forall reply, Still (checks reply)) {method : Method}
    (offered : method.Offered username password) (granted : method.grant <+: server.flatten)
    (through : forall k, k < method.messages -> writable k = true) :
    Ensures (do
        negotiate errors username password
        writeAll request sendError
        let reply ← readExact 10 readError
        checks reply)
      (TcpStream.opened server ending writable) (fun _ later => Exists fun after =>
        later.trace = method.dialogue username password ++ .wrote request :: after ∧
          forall message, .wrote message ∉ after) := by
  rcases granted with ⟨rest, bytes⟩
  have negotiated : Ensures (negotiate errors username password)
      (TcpStream.opened server ending writable) _ := negotiate_grants offered bytes.symm through
  apply ensures_mono (command_cases still)
  intro result later cases
  rcases cases with failed | ⟨_, _, after, written, silent⟩
  · rcases failed with ⟨error, refused, _⟩
    cases refused.symm.trans negotiated.1
  · refine ⟨after, ?_, silent⟩
    rw [written, negotiated.2.2.exchanged]

end Command

theorem conserves_socks5Connect (order : Octets.ByteOrder) (destIp : UInt32) (destPort : UInt16)
    (username password : Option Str) :
    Conserves (socks5Connect order destIp destPort username password) :=
  conserves_command fun _ => still_checks _ _ _

section Connect

variable {order : Octets.ByteOrder} {destIp : UInt32} {destPort : UInt16}
  {username password : Option Str} {server : List Octets} {ending : Ending}
  {writable : Nat -> Bool}

theorem socks5Connect_safe :
    Ensures (socks5Connect order destIp destPort username password)
      (TcpStream.opened server ending writable) (fun result later =>
        EveryWrite (Permitted username password
            (requestMessage socks5CmdConnect order destIp destPort)) later.trace ∧
          (result = .ok () -> Exists fun method : Method =>
            method.Offered username password ∧
              (forall k, k < method.messages + 1 -> writable k = true) ∧
              Exists fun reply => ReportsSuccess reply ∧
                later.trace = method.dialogue username password ++
                  [.wrote (requestMessage socks5CmdConnect order destIp destPort),
                    .received reply])) := by
  refine ensures_mono (command_safe ?_) ?_
  · intro reply
    exact still_checks _ _ _
  · intro result later safe
    refine ⟨safe.1, ?_⟩
    intro succeeded
    rcases safe.2 () succeeded with ⟨method, offered, through, reply, ten, checked, exchanged⟩
    have version := ite_fail_eq_ok_iff.mp checked
    have status := ite_fail_eq_ok_iff.mp version.2
    have reports : ReportsSuccess reply :=
      ⟨ten, Decidable.not_not.mp version.1, Decidable.not_not.mp status.1⟩
    exact ⟨method, offered, through, reply, reports, exchanged⟩

/-- A success leaves exactly what follows the ten bytes of the reply. -/
theorem socks5Connect_ok
    (succeeded : (socks5Connect order destIp destPort username password
      (TcpStream.opened server ending writable)).1 = .ok ()) :
    Exists fun method : Method => method.Offered username password ∧
      (forall k, k < method.messages + 1 -> writable k = true) ∧
      Exists fun reply => ReportsSuccess reply ∧
        server.flatten = method.grant ++ (reply ++ (socks5Connect order destIp destPort username
          password (TcpStream.opened server ending writable)).2.pending) := by
  have safe : Ensures (socks5Connect order destIp destPort username password)
      (TcpStream.opened server ending writable) _ := socks5Connect_safe
  rcases safe.2 succeeded with ⟨method, offered, through, reply, reports, exchanged⟩
  refine ⟨method, offered, through, reply, reports, ?_⟩
  have conserved := conserves_socks5Connect order destIp destPort username password
    (TcpStream.opened server ending writable)
  rw [TcpStream.allBytes, exchanged, Method.receivedBytes_exchange, List.append_assoc] at conserved
  exact conserved.symm

/-- If the stream lets the client through in a known way, a success has gone
that way and has taken ten bytes of what follows. -/
theorem socks5Connect_ok_of_grant {method : Method} {rest : Octets}
    (bytes : server.flatten = method.grant ++ rest)
    (succeeded : (socks5Connect order destIp destPort username password
      (TcpStream.opened server ending writable)).1 = .ok ()) :
    method.Offered username password ∧
      (forall k, k < method.messages + 1 -> writable k = true) ∧
      10 + (socks5Connect order destIp destPort username password
        (TcpStream.opened server ending writable)).2.pending.length = rest.length ∧
      rest.drop 10 = (socks5Connect order destIp destPort username password
        (TcpStream.opened server ending writable)).2.pending := by
  rcases socks5Connect_ok succeeded with ⟨taken, offered, through, reply, reports, whole⟩
  have same : method = taken := Method.grant_injective (bytes.symm.trans whole)
  rw [same] at bytes ⊢
  have split := List.append_cancel_left (bytes.symm.trans whole)
  refine ⟨offered, through, ?_, ?_⟩
  · rw [split, List.length_append, reports.1]
  · rw [split, ← reports.1, List.drop_left]

/-- A stream that grants the request leads to success, unless a write fails. -/
theorem socks5Connect_grants {method : Method} (offered : method.Offered username password)
    {reply rest : Octets} (reports : ReportsSuccess reply)
    (bytes : server.flatten = method.grant ++ (reply ++ rest))
    (through : forall k, k < method.messages + 1 -> writable k = true) :
    (socks5Connect order destIp destPort username password
      (TcpStream.opened server ending writable)).1 = .ok () := by
  change Ensures _ _ (fun result _ => result = .ok ())
  apply ensures_bind
  apply ensures_mono
    (negotiate_grants offered bytes (fun k early => through k (Nat.lt_succ_of_lt early)))
  intro result later held
  rcases held with ⟨succeeded, left, _, exchanged, _, same⟩
  rw [succeeded]
  apply ensures_bind
  apply ensures_writeAll_of_writable
  · rw [same, TcpStream.writes, exchanged, Method.messages_eq]
    exact through _ (Nat.lt_succ_self _)
  · apply ensures_bind
    refine ensures_readExact_of_pending reply rest left reports.1 ?_
    intro incoming _
    apply ensures_ite
    · intro wrong
      exact absurd reports.2.1 wrong
    · intro _
      apply ensures_ite
      · intro wrong
        exact absurd reports.2.2 wrong
      · intro _
        rfl

end Connect

/-- Against every server: each message is written only where the exchange
before it allows it, and the request, which carries the destination in wire
order, is written once the server has let the client through.  The handshake
succeeds on exactly the streams that grant it, after the whole exchange. -/
theorem socks5Connect_handshake (order : Octets.ByteOrder) (b0 b1 b2 b3 : UInt8)
    (destPort : UInt16) (username password : Option Str) (server : List Octets) (ending : Ending)
    (writable : Nat -> Bool) :
    let request := [0x05, 0x01, 0x00, 0x01, b0, b1, b2, b3] ++ Octets.toBeBytes destPort
    let outcome := socks5Connect order (Octets.fromNeBytes order [b0, b1, b2, b3]) destPort
      username password (TcpStream.opened server ending writable)
    EveryWrite (Permitted username password request) outcome.2.trace ∧
      TcpStream.receivedBytes outcome.2.trace ++ outcome.2.pending = server.flatten ∧
      (forall method : Method, method.Offered username password ->
        method.grant <+: server.flatten -> (forall k, k < method.messages -> writable k = true) ->
          Exists fun after =>
            outcome.2.trace = method.dialogue username password ++ .wrote request :: after ∧
              forall message, .wrote message ∉ after) ∧
      (outcome.1 = .ok () -> Accepts username password server.flatten ∧
        Exists fun method : Method => method.Offered username password ∧
          Exists fun reply => ReportsSuccess reply ∧ outcome.2.trace =
            method.dialogue username password ++ [.wrote request, .received reply]) ∧
      (Accepts username password server.flatten -> (forall k, writable k = true) ->
        outcome.1 = .ok ()) := by
  intro request outcome
  have wire : requestMessage socks5CmdConnect order (Octets.fromNeBytes order [b0, b1, b2, b3])
      destPort = request := by
    rw [requestMessage, Octets.toNeBytes_fromNeBytes]
    rfl
  have safe : Ensures (socks5Connect order (Octets.fromNeBytes order [b0, b1, b2, b3]) destPort
      username password) (TcpStream.opened server ending writable) _ := socks5Connect_safe
  rw [wire] at safe
  refine ⟨safe.1, ?_, ?_, ?_, ?_⟩
  · exact conserves_socks5Connect order _ destPort username password _
  · intro method offered granted through
    have requested : Ensures (socks5Connect order (Octets.fromNeBytes order [b0, b1, b2, b3])
        destPort username password) (TcpStream.opened server ending writable) _ :=
      command_requests (fun _ => still_checks _ _ _) offered granted through
    rw [wire] at requested
    exact requested
  · intro succeeded
    constructor
    · rcases socks5Connect_ok succeeded with ⟨method, offered, _, reply, reports, bytes⟩
      rw [← List.append_assoc] at bytes
      exact ⟨method, offered, reply, _, reports, bytes⟩
    · rcases safe.2 succeeded with ⟨method, offered, _, reply, reports, exchanged⟩
      exact ⟨method, offered, reply, reports, exchanged⟩
  · intro accepts through
    rcases accepts with ⟨method, offered, reply, rest, reports, bytes⟩
    rw [List.append_assoc] at bytes
    exact socks5Connect_grants offered reports bytes (fun k _ => through k)

/-! ## The position of the stream after a success -/

/-- The bound address of a reply, in any of the three address types. -/
inductive BoundAddress where
  | ipv4 (a b c d : UInt8)
  | domain (name : Octets) (short : name.length ≤ 255)
  | ipv6 (groups : Octets) (sixteen : groups.length = 16)

def BoundAddress.bytes : BoundAddress -> Octets
  | ipv4 a b c d => [0x01, a, b, c, d]
  | domain name _ => 0x03 :: UInt8.ofNat name.length :: name
  | ipv6 groups _ => 0x04 :: groups

/-- A reply that reports success and has no defect. -/
structure SuccessReply where
  address : BoundAddress
  portHigh : UInt8
  portLow : UInt8

def SuccessReply.bytes (reply : SuccessReply) : Octets :=
  [0x05, 0x00, 0x00] ++ reply.address.bytes ++ [reply.portHigh, reply.portLow]

/-- The length of a reply is set by its address type. -/
theorem SuccessReply.bytes_length (reply : SuccessReply) :
    reply.bytes.length =
      match reply.address with
      | .ipv4 _ _ _ _ => 10
      | .domain name _ => 7 + name.length
      | .ipv6 _ _ => 22 := by
  rcases reply with ⟨address, portHigh, portLow⟩
  cases address with
  | ipv4 a b c d => rfl
  | domain name short =>
      simp only [SuccessReply.bytes, BoundAddress.bytes, List.length_append, List.length_cons,
        List.length_nil]
      omega
  | ipv6 groups sixteen =>
      simp only [SuccessReply.bytes, BoundAddress.bytes, List.length_append, List.length_cons,
        List.length_nil, sixteen]

theorem SuccessReply.reportsSuccess_take (reply : SuccessReply) {rest : Octets}
    (long : 10 ≤ (reply.bytes ++ rest).length) : ReportsSuccess ((reply.bytes ++ rest).take 10) := by
  refine ⟨?_, rfl, rfl⟩
  rw [List.length_take, Nat.min_eq_left long]

/-- After a success the stream stands at the first byte behind the reply
exactly when the reply has ten bytes.  A server that cannot bring the handshake
to a success leaves nothing to ask. -/
theorem socks5Connect_position_iff (order : Octets.ByteOrder) (destIp : UInt32)
    (destPort : UInt16) (username password : Option Str) (method : Method)
    (reply : SuccessReply) (tunnel : Octets) (server : List Octets) (ending : Ending)
    (writable : Nat -> Bool) (bytes : server.flatten = method.grant ++ reply.bytes ++ tunnel) :
    let outcome := socks5Connect order destIp destPort username password
      (TcpStream.opened server ending writable)
    (outcome.1 = .ok () -> outcome.2.pending = tunnel) <->
      reply.bytes.length = 10 ∨ (reply.bytes ++ tunnel).length < 10 ∨
        Not (method.Offered username password) ∨
        Exists fun k => k < method.messages + 1 ∧ writable k = false := by
  intro outcome
  rw [List.append_assoc] at bytes
  constructor
  · intro positioned
    by_cases offered : method.Offered username password
    · by_cases broken : Exists fun k => k < method.messages + 1 ∧ writable k = false
      · exact Or.inr (Or.inr (Or.inr broken))
      · by_cases long : 10 ≤ (reply.bytes ++ tunnel).length
        · left
          have whole := List.take_append_drop 10 (reply.bytes ++ tunnel)
          have through : forall k, k < method.messages + 1 -> writable k = true := by
            intro k early
            exact Bool.eq_true_of_not_eq_false (fun failed => broken ⟨k, early, failed⟩)
          have succeeded : outcome.1 = .ok () := by
            apply socks5Connect_grants offered (reply.reportsSuccess_take long)
              (bytes.trans (congrArg (fun rest => method.grant ++ rest) whole.symm)) through
          have taken := (socks5Connect_ok_of_grant bytes succeeded).2.2.1
          change 10 + outcome.2.pending.length = (reply.bytes ++ tunnel).length at taken
          rw [positioned succeeded, List.length_append] at taken
          omega
        · exact Or.inr (Or.inl (Nat.lt_of_not_le long))
    · exact Or.inr (Or.inr (Or.inl offered))
  · intro conditions succeeded
    have taken := socks5Connect_ok_of_grant bytes succeeded
    rcases conditions with ten | short | notOffered | broken
    · rw [← taken.2.2.2, ← ten, List.drop_left]
    · omega
    · exact absurd taken.1 notOffered
    · rcases broken with ⟨k, early, failed⟩
      rw [taken.2.1 k early] at failed
      cases failed

/-- An IPv6 reply of a server that asks for no authentication. -/
def ipv6Reply : SuccessReply where
  address := .ipv6 (List.replicate 16 0) rfl
  portHigh := 0
  portLow := 80

theorem socks5Connect_position_iff_ipv4 :
    let outcome := socks5Connect .little 0x04030201 443 none none
      (TcpStream.opened [[5, 0], [5, 0, 0, 1, 0, 0, 0, 0, 0, 80, 22]] .closed (fun _ => true))
    (outcome.1 = .ok () -> outcome.2.pending = [22]) <->
      (SuccessReply.mk (.ipv4 0 0 0 0) 0 80).bytes.length = 10 ∨
        ((SuccessReply.mk (.ipv4 0 0 0 0) 0 80).bytes ++ [22]).length < 10 ∨
        Not (Method.free.Offered none none) ∨
        Exists fun k => k < Method.free.messages + 1 ∧ (fun _ => true) k = false :=
  socks5Connect_position_iff .little 0x04030201 443 none none .free (.mk (.ipv4 0 0 0 0) 0 80) [22]
    _ .closed (fun _ => true) rfl

/-- Twelve bytes of an IPv6 reply are left in front of the tunnel. -/
theorem socks5Connect_leaves_ipv6Reply :
    Not (forall (order : Octets.ByteOrder) (destIp : UInt32) (destPort : UInt16)
      (username password : Option Str) (method : Method) (reply : SuccessReply) (tunnel : Octets)
      (server : List Octets) (ending : Ending) (writable : Nat -> Bool),
      server.flatten = method.grant ++ reply.bytes ++ tunnel ->
        let outcome := socks5Connect order destIp destPort username password
          (TcpStream.opened server ending writable)
        outcome.1 = .ok () -> outcome.2.pending = tunnel) := by
  intro transparent
  have position := transparent .little 0x04030201 443 none none .free ipv6Reply [22]
    [[0x05, 0x00], ipv6Reply.bytes, [22]] .closed (fun _ => true) rfl rfl
  revert position
  decide

theorem conserves_socks5UdpAssociate (order : Octets.ByteOrder) (username password : Option Str) :
    Conserves (socks5UdpAssociate order username password) :=
  conserves_command fun _ => still_checks _ _ _

theorem socks5UdpAssociate_safe {order : Octets.ByteOrder} {username password : Option Str}
    {server : List Octets} {ending : Ending} {writable : Nat -> Bool} :
    Ensures (socks5UdpAssociate order username password) (TcpStream.opened server ending writable)
      (fun result later =>
        EveryWrite (Permitted username password
            (requestMessage socks5CmdUdpAssociate order 0 0)) later.trace ∧
          forall relay, result = .ok relay -> Exists fun method : Method =>
            method.Offered username password ∧
              Exists fun reply => reply.length = 10 ∧ reply.getD 3 0 = socks5AtypIpv4 ∧
                TcpStream.receivedBytes later.trace = method.grant ++ reply) := by
  refine ensures_mono (command_safe ?_) ?_
  · intro reply
    exact still_checks _ _ _
  · intro result later safe
    refine ⟨safe.1, ?_⟩
    intro relay succeeded
    rcases safe.2 relay succeeded with ⟨method, offered, _, reply, ten, checked, exchanged⟩
    have status := ite_fail_eq_ok_iff.mp checked
    have ipv4 := ite_fail_eq_ok_iff.mp status.2
    refine ⟨method, offered, reply, ten, Decidable.not_not.mp ipv4.1, ?_⟩
    rw [exchanged, Method.receivedBytes_exchange]

/-- The check of the address type is what `CONNECT` lacks: with it, a success
always leaves the stream behind the reply. -/
theorem socks5UdpAssociate_position (order : Octets.ByteOrder) (username password : Option Str)
    (method : Method) (reply : SuccessReply) (rest : Octets) (server : List Octets)
    (ending : Ending) (writable : Nat -> Bool)
    (bytes : server.flatten = method.grant ++ (reply.bytes ++ rest)) (relay : UInt32 × UInt16)
    (succeeded : (socks5UdpAssociate order username password
      (TcpStream.opened server ending writable)).1 = .ok relay) :
    (socks5UdpAssociate order username password
      (TcpStream.opened server ending writable)).2.pending = rest := by
  have safe : Ensures (socks5UdpAssociate order username password)
      (TcpStream.opened server ending writable) _ := socks5UdpAssociate_safe
  rcases safe.2 relay succeeded with ⟨taken, _, first, ten, ipv4, received⟩
  have conserved := conserves_socks5UdpAssociate order username password
    (TcpStream.opened server ending writable)
  rw [TcpStream.allBytes, received, List.append_assoc] at conserved
  have whole : taken.grant ++ (first ++ _) = method.grant ++ (reply.bytes ++ rest) :=
    conserved.trans bytes
  have same := Method.grant_injective whole
  rw [same] at whole
  have parts := List.append_cancel_left whole
  have size : reply.bytes.length = 10 := by
    rcases reply with ⟨address, portHigh, portLow⟩
    have kind := congrArg (fun s => List.getD s 3 0) parts
    simp only [List.getD_append _ _ _ 3 (by omega : 3 < first.length), ipv4] at kind
    cases address with
    | ipv4 a b c d => rfl
    | domain name short => cases kind
    | ipv6 groups sixteen => cases kind
  exact (List.append_inj parts (ten.trans size.symm)).2

end ProxyBridge
