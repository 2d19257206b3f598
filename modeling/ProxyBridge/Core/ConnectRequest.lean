import ProxyBridge.Core.HttpConnect
import ProxyBridge.Foundation.HttpMessage

namespace ProxyBridge

open Foundation Text Utf8 Session HttpMessage

/-!
# The request of HTTP CONNECT

The text that the client assembles is the rendering of a request with graphic
words and clean header values, whatever the credentials are: they reach the wire
in base64 only.  So a reader of HTTP requests takes the bytes apart as they were
meant.
-/

/-- The destination as it stands in the request line and in the `Host`
header. -/
def destination (destIp : UInt32) (destPort : UInt16) : Str :=
  formatIp destIp ++ ':' :: decimal destPort.toNat

/-- The header with the credentials, when both are there. -/
def authorizationHeaders (username password : Option Str) : List (Str × Str) :=
  match username, password with
  | some user, some pass =>
      [("Proxy-Authorization".toList,
        "Basic".toList ++ ' ' :: Base64.encode (asBytes (user ++ ':' :: pass)))]
  | _, _ => []

/-- What the client means to send. -/
def meantRequest (destIp : UInt32) (destPort : UInt16) (username password : Option Str) :
    Request where
  method := "CONNECT".toList
  target := destination destIp destPort
  version := "HTTP/1.1".toList
  headers := ("Host".toList, destination destIp destPort) ::
    ("Proxy-Connection".toList, "Keep-Alive".toList) :: authorizationHeaders username password

/-- A header that is assembled from a name, a scheme and a value is its line. -/
theorem assembled_header (name scheme value : Str) :
    name ++ ':' :: ' ' :: (scheme ++ [' ']) ++ value ++ crlf =
      renderLines [Request.headerLine (name, scheme ++ ' ' :: value)] := by
  simp only [Request.headerLine, renderLines, List.flatMap_cons, List.flatMap_nil,
    List.append_assoc, List.cons_append, List.nil_append, List.append_nil]

/-- A text that is assembled from a request line and two headers, with further
headers behind them, is the rendering of the request. -/
theorem assembled_request (method target version host connection alive : Str)
    (headers : List (Str × Str)) :
    method ++ [' '] ++ target ++ (' ' :: version ++ crlf ++ host ++ [':', ' ']) ++ target ++
        (crlf ++ connection ++ ':' :: ' ' :: alive ++ crlf) ++
        renderLines (headers.map Request.headerLine) ++ renderLines [[]] =
      (Request.mk method target version
        ((host, target) :: (connection, alive) :: headers)).render := by
  rw [Request.render, Request.lines, renderLines_append]
  simp only [Request.requestLine, Request.headerLine, renderLines, List.map_cons,
    List.flatMap_cons, List.cons_append, List.nil_append, List.append_assoc]

section Request

variable (destIp : UInt32) (destPort : UInt16) (username password : Option Str)

theorem authorization_eq_renderLines :
    (match username, password with
      | some user, some pass =>
          "Proxy-Authorization: Basic ".toList ++
            Base64.encode (asBytes (user ++ ':' :: pass)) ++ "\r\n".toList
      | _, _ => []) =
      renderLines ((authorizationHeaders username password).map Request.headerLine) := by
  have basic : "Proxy-Authorization: Basic ".toList =
      "Proxy-Authorization".toList ++ ':' :: ' ' :: ("Basic".toList ++ [' ']) := rfl
  cases username with
  | none => rfl
  | some user =>
      cases password with
      | none => rfl
      | some pass =>
          rw [basic]
          exact assembled_header _ _ _

theorem connectRequest_eq_render :
    connectRequest Base64.encode destIp destPort username password =
      (meantRequest destIp destPort username password).render := by
  have head : "CONNECT ".toList = "CONNECT".toList ++ [' '] := rfl
  have host : " HTTP/1.1\r\nHost: ".toList =
      ' ' :: "HTTP/1.1".toList ++ crlf ++ "Host".toList ++ [':', ' '] := rfl
  have connection : "\r\nProxy-Connection: Keep-Alive\r\n".toList =
      crlf ++ "Proxy-Connection".toList ++ ':' :: ' ' :: "Keep-Alive".toList ++ crlf := rfl
  have blank : "\r\n".toList = renderLines [[]] := rfl
  have text : connectRequest Base64.encode destIp destPort username password =
      "CONNECT ".toList ++ destination destIp destPort ++ " HTTP/1.1\r\nHost: ".toList ++
        destination destIp destPort ++ "\r\nProxy-Connection: Keep-Alive\r\n".toList ++
        renderLines ((authorizationHeaders username password).map Request.headerLine) ++
        "\r\n".toList := by
    rw [← authorization_eq_renderLines]
    rfl
  rw [text, head, host, connection, blank]
  exact assembled_request _ _ _ _ _ _ _

/-- A destination has digits, dots and a colon only. -/
theorem isVisible_destination {c : Char} (member : c ∈ destination destIp destPort) :
    isVisible c = true := by
  have digit : forall n, c ∈ decimal n -> isVisible c = true :=
    fun n inside => isVisible_of_isDigit (decimal_isDigit inside)
  rw [destination, formatIp] at member
  simp only [List.mem_append, List.mem_cons] at member
  rcases member with (((first | dot | second) | dot | third) | dot | fourth) | colon | port
  · exact digit _ first
  · exact dot ▸ rfl
  · exact digit _ second
  · exact dot ▸ rfl
  · exact digit _ third
  · exact dot ▸ rfl
  · exact digit _ fourth
  · exact colon ▸ rfl
  · exact digit _ port

theorem isVisible_encode {bytes : Octets} {c : Char} (member : c ∈ Base64.encode bytes) :
    isVisible c = true := by
  have all : ('=' :: Base64.alphabet).all isVisible = true := rfl
  exact List.all_eq_true.mp all c (Base64.mem_encode member)

theorem cleanHeader_authorization {header : Str × Str}
    (member : header ∈ authorizationHeaders username password) : CleanHeader header := by
  cases username with
  | none => cases member
  | some user =>
      cases password with
      | none => cases member
      | some pass =>
          have name : "Proxy-Authorization".toList.all isVisible = true := rfl
          have scheme : "Basic".toList.all isVisible = true := rfl
          rw [List.mem_singleton.mp member]
          have colon : ':' ∉ "Proxy-Authorization".toList := by decide
          refine ⟨colon, List.all_eq_true.mp name, ?_, ?_⟩
          · intro c first
            cases first
            decide
          · intro c inside
            rcases List.mem_append.mp inside with word | rest
            · exact Or.inr (List.all_eq_true.mp scheme c word)
            · rcases List.mem_cons.mp rest with blank | encoded
              · exact Or.inl blank
              · exact Or.inr (isVisible_encode encoded)

theorem wellFormed_meantRequest :
    (meantRequest destIp destPort username password).WellFormed := by
  have target : forall c, c ∈ destination destIp destPort -> isVisible c = true :=
    fun c => isVisible_destination destIp destPort
  have known : forall {word : Str}, word.all isVisible = true ->
      forall c, c ∈ word -> isVisible c = true := fun all => List.all_eq_true.mp all
  constructor
  · intro word member
    rcases List.mem_cons.mp member with method | member
    · rw [method]
      exact known rfl
    · rcases List.mem_cons.mp member with address | member
      · rw [address]
        exact target
      · rw [List.mem_singleton.mp member]
        exact known rfl
  · intro header member
    rcases List.mem_cons.mp member with host | member
    · rw [host]
      have colon : ':' ∉ "Host".toList := by decide
      refine ⟨colon, known rfl, ?_, fun c inside => Or.inr (target c inside)⟩
      intro c first
      exact ne_of_isVisible (target c (List.mem_of_head? first)) rfl
    · rcases List.mem_cons.mp member with connection | member
      · rw [connection]
        refine ⟨by decide, known rfl, ?_, fun c inside => Or.inr (known rfl c inside)⟩
        intro c first
        cases first
        decide
      · exact cleanHeader_authorization username password member

theorem valuesOf_host :
    (meantRequest destIp destPort username password).valuesOf "Host".toList =
      [destination destIp destPort] := by
  cases username with
  | none => rfl
  | some user =>
      cases password with
      | none => rfl
      | some pass => rfl

theorem valuesOf_authorization :
    (meantRequest destIp destPort username password).valuesOf "Proxy-Authorization".toList =
      (authorizationHeaders username password).map Prod.snd := by
  cases username with
  | none => rfl
  | some user =>
      cases password with
      | none => rfl
      | some pass => rfl

theorem readAuthority_destination :
    readAuthority (destination destIp destPort) =
      some (Octets.toNeBytes .little destIp, destPort) := by
  rw [destination, formatIp_eq]
  exact readAuthority_decimal _ _ _ _ destPort

end Request

/-- The request is the only message of the exchange. -/
theorem httpConnect_writes (base64Encode : Octets -> Str) (destIp : UInt32) (destPort : UInt16)
    (username password : Option Str) (incoming : List Octets) (ending : Ending)
    (writable : Nat -> Bool) :
    Ensures (httpConnect base64Encode destIp destPort username password)
      (TcpStream.opened incoming ending writable) (fun _ later =>
        later.trace.filter TcpStream.isWrite =
          [.wrote (asBytes (connectRequest base64Encode destIp destPort username password))]) := by
  apply ensures_bind
  apply ensures_writeAll
  · intro _
    apply ensures_bind
    apply ensures_read
    · intro incoming _
      apply ensures_still (still_checkResponse _)
      rfl
    · intro _
      rfl
  · intro _
    rfl

/-- Whatever the credentials contain, the bytes that are written are one request
with its only blank line at the end, from which a reader recovers the method, the
destination, the port, and the credentials when there are both. -/
theorem httpConnect_request_faithful (base64Encode : Octets -> Str)
    (standard : forall bytes, base64Encode bytes = Base64.encode bytes) (destIp : UInt32)
    (destPort : UInt16) (username password : Option Str)
    (plain : forall user, username = some user -> ':' ∉ user) (incoming : List Octets)
    (ending : Ending) (writable : Nat -> Bool) :
    let outcome := httpConnect base64Encode destIp destPort username password
      (TcpStream.opened incoming ending writable)
    Exists fun bytes => outcome.2.trace.filter TcpStream.isWrite = [.wrote bytes] ∧
      Exists fun request => readRequest bytes = some request ∧
        request.method = "CONNECT".toList ∧ request.version = "HTTP/1.1".toList ∧
        (Exists fun quad => Octets.fromNeBytes .little quad = destIp ∧
          readAuthority request.target = some (quad, destPort) ∧
          (request.valuesOf "Host".toList).map readAuthority = [some (quad, destPort)]) ∧
        (request.valuesOf "Proxy-Authorization".toList).map readBasic =
          match username, password with
          | some user, some pass => [some (asBytes user, asBytes pass)]
          | _, _ => [] := by
  intro outcome
  have same : base64Encode = Base64.encode := by
    funext bytes
    exact standard bytes
  refine ⟨_, httpConnect_writes base64Encode destIp destPort username password incoming ending
    writable, meantRequest destIp destPort username password, ?_, rfl, rfl, ?_, ?_⟩
  · rw [same, connectRequest_eq_render]
    exact readRequest_render (wellFormed_meantRequest destIp destPort username password)
  · have address := readAuthority_destination destIp destPort
    refine ⟨_, Octets.fromNeBytes_toNeBytes .little destIp, address, ?_⟩
    rw [valuesOf_host, List.map_singleton, address]
  · rw [valuesOf_authorization]
    cases username with
    | none => rfl
    | some user =>
        cases password with
        | none => rfl
        | some pass => exact congrArg (fun found => [found]) (readBasic_encode (plain user rfl) pass)

/-- Line ends and a colon in the password reach the reader. -/
theorem httpConnect_request_faithful_injection :
    let user := "user".toList
    let pass := "a:b\r\n\r\nX: y".toList
    let outcome := httpConnect Base64.encode 0x04030201 443 (some user) (some pass)
      (TcpStream.opened [] .closed (fun _ => true))
    Exists fun bytes => outcome.2.trace.filter TcpStream.isWrite = [.wrote bytes] ∧
      Exists fun request => readRequest bytes = some request ∧
        request.method = "CONNECT".toList ∧ request.version = "HTTP/1.1".toList ∧
        (Exists fun quad => Octets.fromNeBytes .little quad = 0x04030201 ∧
          readAuthority request.target = some (quad, 443) ∧
          (request.valuesOf "Host".toList).map readAuthority = [some (quad, 443)]) ∧
        (request.valuesOf "Proxy-Authorization".toList).map readBasic =
          [some (asBytes user, asBytes pass)] := by
  have plain : forall user, some "user".toList = some user -> ':' ∉ user := by
    intro user same
    cases same
    decide
  exact httpConnect_request_faithful Base64.encode (fun _ => rfl) 0x04030201 443 _ _ plain []
    .closed (fun _ => true)

end ProxyBridge
