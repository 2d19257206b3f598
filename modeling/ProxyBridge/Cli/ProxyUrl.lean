import ProxyBridge.Core.Config
import ProxyBridge.Foundation.CaseMapping

namespace ProxyBridge

open Foundation Text

/-!
# The proxy URL of the command line

`parseProxyUrl` takes a text apart at the first `://` and at every colon behind
it.  The documented forms are `type://host:port` and
`type://host:port:username:password`; `ProxyUrl` is that grammar, with the parts
of a text as data.

The parser demands a type, two fields and a port.  It accepts more texts than
the grammar has, and forgets the fields that it does not use.  A text is treated
as documented exactly when it fails one of these demands or has the documented
form in all parts (`parsesAsDocumented_iff`).
-/

/-- Parsed proxy URL components. -/
structure ParsedProxy where
  proxyType : ProxyType
  host : Str
  port : UInt16
  username : Option Str
  password : Option Str
  deriving DecidableEq

def parseProxyType (scheme : Str) : Except Str ProxyType :=
  let upper := toUppercase scheme
  if upper = "SOCKS5".toList then .ok .socks5
  else if upper = "HTTP".toList then .ok .http
  else .error ("Invalid proxy type '".toList ++ upper ++ "'. Use 'socks5' or 'http'".toList)

/-- The third and the fourth field, when there are both. -/
def credentialsOf : List Str -> Option Str × Option Str
  | username :: password :: _ => (some username, some password)
  | _ => (none, none)

/-- The fields behind the scheme. -/
def parseProxyFields (proxyType : ProxyType) : List Str -> Except Str ParsedProxy
  | host :: portText :: more =>
      match parseU16 portText with
      | none => .error ("Invalid proxy port '".toList ++ portText ++ "'".toList)
      | some port =>
          if port = 0 then .error "Invalid proxy port '0'".toList
          else .ok {
            proxyType := proxyType
            host := host
            port := port
            username := (credentialsOf more).1
            password := (credentialsOf more).2 }
  | _ => .error "Invalid proxy URL. Missing host or port".toList

/-- Parse a proxy URL.  There is no result when one of the two slices would
leave the text. -/
def parseProxyUrl (url : Str) : Option (Except Str ParsedProxy) :=
  match find "://".toList url with
  | none => some (.error "Invalid proxy URL format. Expected type://host:port".toList)
  | some schemeEnd => do
      let scheme ← getTo url schemeEnd
      let rest ← getFrom url (schemeEnd + 3)
      return (parseProxyType scheme).bind (fun proxyType =>
        parseProxyFields proxyType (split (fun c => c == ':') rest))

def ProxyType.keyword : ProxyType -> Str
  | .socks5 => "socks5".toList
  | .http => "http".toList

/-- The fields behind the port. -/
def credentialFields : Option (Str × Str) -> List Str
  | none => []
  | some (username, password) => [username, password]

/-- A proxy URL in one of the two documented forms.  No field contains the
separator. -/
structure ProxyUrl where
  proxyType : ProxyType
  scheme : Str
  host : Str
  portText : Str
  port : Nat
  credentials : Option (Str × Str)
  typed : eqIgnoreAsciiCase scheme proxyType.keyword = true
  hasHost : host ≠ []
  numeral : Numeral portText port
  positive : 0 < port
  inRange : port < 65536
  clean : forall field, field ∈ host :: portText :: credentialFields credentials -> ':' ∉ field

namespace ProxyUrl

def fields (form : ProxyUrl) : List Str :=
  form.host :: form.portText :: credentialFields form.credentials

/-- The text of a URL. -/
def render (form : ProxyUrl) : Str :=
  form.scheme ++ ("://".toList ++ [':'].intercalate form.fields)

end ProxyUrl

/-- The username and the password as the fields they were; there are no such
fields when one of them is present without the other. -/
def fieldsOf : Option Str -> Option Str -> Option (List Str)
  | none, none => some []
  | some username, some password => some [username, password]
  | _, _ => none

/-- The text behind the first `://` is the host, a spelling of the port, and the
username and password if there are any, joined by colons. -/
def Recovers (url : Str) (parsed : ParsedProxy) : Prop :=
  Exists fun scheme => Exists fun portText => Exists fun more =>
    find "://".toList url = some (len scheme) ∧
      fieldsOf parsed.username parsed.password = some more ∧
      parseU16 portText = some parsed.port ∧
      url = scheme ++ ("://".toList ++ [':'].intercalate (parsed.host :: portText :: more))

/-- The parser accepts exactly the grammar, and drops nothing. -/
structure ParsesAsDocumented (url : Str) : Prop where
  accepts : (Exists fun parsed => parseProxyUrl url = some (.ok parsed)) <->
    Exists fun form : ProxyUrl => form.render = url
  recovers : forall parsed, parseProxyUrl url = some (.ok parsed) -> Recovers url parsed

/-! ## What the parser demands -/

/-- The parts of a text that the parser accepts. -/
structure Reading (url : Str) where
  scheme : Str
  rest : Str
  proxyType : ProxyType
  host : Str
  portText : Str
  port : UInt16
  more : List Str
  whole : url = scheme ++ ("://".toList ++ rest)
  first : find "://".toList url = some (len scheme)
  typed : toUppercase scheme = proxyType.keyword.map Char.toUpper
  divided : split (fun c => c == ':') rest = host :: portText :: more
  parses : parseU16 portText = some port
  nonzero : port ≠ 0

namespace Reading

variable {url : Str}

def parsed (reading : Reading url) : ParsedProxy where
  proxyType := reading.proxyType
  host := reading.host
  port := reading.port
  username := (credentialsOf reading.more).1
  password := (credentialsOf reading.more).2

/-- The parts are as documented: the type in some ASCII letter case, a host, a
port in digits alone, and no other fields than a username and a password. -/
structure Documented (reading : Reading url) : Prop where
  typed : eqIgnoreAsciiCase reading.scheme reading.proxyType.keyword = true
  hasHost : reading.host ≠ []
  digits : forall c, c ∈ reading.portText -> c.isDigit = true
  complete : reading.more.length = 0 ∨ reading.more.length = 2

end Reading

theorem parseProxyType_eq_ok_iff (scheme : Str) (proxyType : ProxyType) :
    parseProxyType scheme = .ok proxyType <->
      toUppercase scheme = proxyType.keyword.map Char.toUpper := by
  unfold parseProxyType
  by_cases isSocks : toUppercase scheme = "SOCKS5".toList
  · rw [if_pos isSocks, isSocks]
    cases proxyType with
    | socks5 => exact iff_of_true rfl rfl
    | http => exact iff_of_false (fun same => by cases same) (fun same => by cases same)
  · rw [if_neg isSocks]
    by_cases isHttp : toUppercase scheme = "HTTP".toList
    · rw [if_pos isHttp, isHttp]
      cases proxyType with
      | socks5 => exact iff_of_false (fun same => by cases same) (fun same => by cases same)
      | http => exact iff_of_true rfl rfl
    · rw [if_neg isHttp]
      cases proxyType with
      | socks5 => exact iff_of_false (fun same => by cases same) isSocks
      | http => exact iff_of_false (fun same => by cases same) isHttp

theorem parseProxyFields_eq_ok_iff (proxyType : ProxyType) (fields : List Str)
    (parsed : ParsedProxy) :
    parseProxyFields proxyType fields = .ok parsed <->
      Exists fun host => Exists fun portText => Exists fun more => Exists fun port =>
        fields = host :: portText :: more ∧ parseU16 portText = some port ∧ port ≠ 0 ∧
          parsed = {
            proxyType := proxyType
            host := host
            port := port
            username := (credentialsOf more).1
            password := (credentialsOf more).2 } := by
  constructor
  · intro accepted
    cases fields with
    | nil => cases accepted
    | cons host fields =>
        cases fields with
        | nil => cases accepted
        | cons portText more =>
            rw [parseProxyFields] at accepted
            cases parses : parseU16 portText with
            | none =>
                rw [parses] at accepted
                cases accepted
            | some port =>
                rw [parses] at accepted
                by_cases zero : port = 0
                · simp only [if_pos zero] at accepted
                  cases accepted
                · simp only [if_neg zero] at accepted
                  cases accepted
                  exact ⟨host, portText, more, port, rfl, parses, zero, rfl⟩
  · rintro ⟨host, portText, more, port, rfl, parses, nonzero, rfl⟩
    rw [parseProxyFields, parses]
    exact if_neg nonzero

/-- The slices around the first `://` exist. -/
theorem parseProxyUrl_of_first {url scheme rest : Str}
    (whole : url = scheme ++ ("://".toList ++ rest))
    (first : find "://".toList url = some (len scheme)) :
    parseProxyUrl url = some ((parseProxyType scheme).bind (fun proxyType =>
      parseProxyFields proxyType (split (fun c => c == ':') rest))) := by
  have before : getTo url (len scheme) = some scheme :=
    (getTo_eq_some_iff url _ scheme).mpr ⟨⟨_, whole.symm⟩, rfl⟩
  have after : getFrom url (len scheme + 3) = some rest := by
    apply (getFrom_eq_some_iff url _ rest).mpr
    rw [whole, ← List.append_assoc]
    refine ⟨⟨_, rfl⟩, ?_⟩
    rw [len_append, len_append]
    rfl
  simp only [parseProxyUrl, first, before, after, Option.bind_eq_bind, Option.bind_some]
  rfl

theorem parseProxyUrl_eq_ok_iff (url : Str) (parsed : ParsedProxy) :
    parseProxyUrl url = some (.ok parsed) <->
      Exists fun reading : Reading url => reading.parsed = parsed := by
  constructor
  · intro accepted
    cases found : find "://".toList url with
    | none =>
        simp only [parseProxyUrl, found] at accepted
        cases accepted
    | some schemeEnd =>
        rcases find_eq_some found with ⟨scheme, rest, whole, rfl⟩
        rw [parseProxyUrl_of_first whole found, Option.some.injEq] at accepted
        cases typed : parseProxyType scheme with
        | error message =>
            rw [typed] at accepted
            cases accepted
        | ok proxyType =>
            rw [typed] at accepted
            rcases (parseProxyFields_eq_ok_iff proxyType _ parsed).mp accepted with
              ⟨host, portText, more, port, divided, parses, nonzero, rfl⟩
            exact ⟨{
              scheme := scheme
              rest := rest
              proxyType := proxyType
              host := host
              portText := portText
              port := port
              more := more
              whole := whole
              first := found
              typed := (parseProxyType_eq_ok_iff scheme proxyType).mp typed
              divided := divided
              parses := parses
              nonzero := nonzero }, rfl⟩
  · rintro ⟨reading, rfl⟩
    rw [parseProxyUrl_of_first reading.whole reading.first,
      (parseProxyType_eq_ok_iff _ _).mpr reading.typed]
    exact congrArg some ((parseProxyFields_eq_ok_iff _ _ _).mpr ⟨reading.host, reading.portText,
      reading.more, reading.port, reading.divided, reading.parses, reading.nonzero, rfl⟩)

theorem ProxyType.keyword_ascii (proxyType : ProxyType) {c : Char}
    (member : c ∈ proxyType.keyword) : c.toNat < 128 := by
  have all : proxyType.keyword.all (fun d => decide (d.toNat < 128)) = true := by
    cases proxyType with
    | socks5 => rfl
    | http => rfl
  exact of_decide_eq_true (List.all_eq_true.mp all c member)

/-- The two keywords differ in upper case. -/
theorem ProxyType.eq_of_upper {left right : ProxyType}
    (same : left.keyword.map Char.toUpper = right.keyword.map Char.toUpper) : left = right := by
  cases left with
  | socks5 =>
      cases right with
      | socks5 => rfl
      | http => cases same
  | http =>
      cases right with
      | socks5 => cases same
      | http => rfl

/-- A text has at most one reading. -/
theorem Reading.eq {url : Str} (left right : Reading url) : left = right := by
  have size : len left.scheme = len right.scheme :=
    Option.some.inj (left.first.symm.trans right.first)
  have sameScheme : left.scheme = right.scheme := by
    have first := (getTo_eq_some_iff url _ left.scheme).mpr ⟨⟨_, left.whole.symm⟩, size⟩
    have second := (getTo_eq_some_iff url _ right.scheme).mpr ⟨⟨_, right.whole.symm⟩, rfl⟩
    exact Option.some.inj (first.symm.trans second)
  cases left with
  | mk scheme rest proxyType host portText port more whole first typed divided parses nonzero =>
      cases right with
      | mk scheme' rest' proxyType' host' portText' port' more' whole' first' typed' divided'
          parses' nonzero' =>
          subst sameScheme
          have sameRest : rest = rest' :=
            List.append_cancel_left (List.append_cancel_left (whole.symm.trans whole'))
          subst sameRest
          have sameFields := divided.symm.trans divided'
          injection sameFields with sameHost sameFields
          injection sameFields with samePortText sameMore
          subst sameHost samePortText sameMore
          cases parses.symm.trans parses'
          have sameType : proxyType = proxyType' :=
            ProxyType.eq_of_upper (typed.symm.trans typed')
          subst sameType
          rfl

theorem colon_not_mem_scheme (form : ProxyUrl) : ':' ∉ form.scheme := by
  apply colon_not_mem_of_keyword form.typed
  cases form.proxyType with
  | socks5 => decide
  | http => decide

theorem split_fields (form : ProxyUrl) :
    split (fun c => c == ':') ([':'].intercalate form.fields) = form.fields := by
  have split := List.splitOn_intercalate ':' form.clean (List.cons_ne_nil _ _)
  rwa [List.splitOn_eq_splitOnP] at split

/-- The reading of a rendered form. -/
def ProxyUrl.reading (form : ProxyUrl) : Reading form.render where
  scheme := form.scheme
  rest := [':'].intercalate form.fields
  proxyType := form.proxyType
  host := form.host
  portText := form.portText
  port := UInt16.ofNat form.port
  more := credentialFields form.credentials
  whole := rfl
  first := find_append (colon_not_mem_scheme form) "//".toList _
  typed := toUppercase_of_eqIgnoreAsciiCase ((eqIgnoreAsciiCase_iff _ _).mp form.typed)
    (fun _ => form.proxyType.keyword_ascii)
  divided := split_fields form
  parses := by rw [parseU16, form.numeral.parse form.inRange, Option.map_some]
  nonzero := by
    intro zero
    have value := congrArg UInt16.toNat zero
    rw [UInt16.toNat_ofNat_of_lt' form.inRange] at value
    exact absurd value (Nat.ne_of_gt form.positive)

theorem ProxyUrl.documented (form : ProxyUrl) : form.reading.Documented where
  typed := form.typed
  hasHost := form.hasHost
  digits := form.numeral.digits
  complete := by
    change (credentialFields form.credentials).length = 0 ∨
      (credentialFields form.credentials).length = 2
    cases form.credentials with
    | none => exact Or.inl rfl
    | some credentials => exact Or.inr rfl

section Reading

variable {url : Str} (reading : Reading url)

/-- Joining the fields undoes the division. -/
theorem intercalate_fields :
    [':'].intercalate (reading.host :: reading.portText :: reading.more) = reading.rest := by
  have joined : [':'].intercalate (reading.rest.splitOn ':') = reading.rest :=
    List.intercalate_splitOn ':'
  rwa [List.splitOn_eq_splitOnP, ← split, reading.divided] at joined

/-- A documented reading has a username and a password, or neither. -/
theorem more_of_documented (documented : reading.Documented) :
    (reading.more = [] ∧ credentialsOf reading.more = (none, none)) ∨
      Exists fun username => Exists fun password => reading.more = [username, password] ∧
        credentialsOf reading.more = (some username, some password) := by
  rcases documented.complete with absent | two
  · left
    rw [List.length_eq_zero_iff.mp absent]
    exact ⟨rfl, rfl⟩
  · right
    rcases List.length_eq_two.mp two with ⟨username, password, same⟩
    rw [same]
    exact ⟨username, password, rfl, rfl⟩

theorem recovers_of_documented (documented : reading.Documented) : Recovers url reading.parsed := by
  refine ⟨reading.scheme, reading.portText, reading.more, reading.first, ?_, reading.parses, ?_⟩
  · unfold Reading.parsed
    rcases more_of_documented reading documented with ⟨absent, known⟩ | ⟨username, password, two, known⟩
    · rw [known, absent]
      rfl
    · rw [known, two]
      rfl
  · have joined := intercalate_fields reading
    exact reading.whole.trans (congrArg (fun rest => reading.scheme ++ ("://".toList ++ rest))
      joined.symm)

/-- A documented reading is the reading of a form of the grammar. -/
theorem exists_form (documented : reading.Documented) :
    Exists fun form : ProxyUrl => form.render = url := by
  have written : Exists fun credentials => credentialFields credentials = reading.more := by
    rcases more_of_documented reading documented with ⟨absent, _⟩ | ⟨username, password, two, _⟩
    · exact ⟨none, absent.symm⟩
    · exact ⟨some (username, password), two.symm⟩
  rcases written with ⟨credentials, written⟩
  rcases Option.map_eq_some_iff.mp reading.parses with ⟨port, parses, same⟩
  have numeral := numeral_of_parseUnsigned parses documented.digits
  let form : ProxyUrl := {
    proxyType := reading.proxyType
    scheme := reading.scheme
    host := reading.host
    portText := reading.portText
    port := port
    credentials := credentials
    typed := documented.typed
    hasHost := documented.hasHost
    numeral := numeral.1
    positive := by
      apply Nat.pos_of_ne_zero
      rintro rfl
      exact reading.nonzero same.symm
    inRange := numeral.2
    clean := by
      rw [written, ← reading.divided]
      exact fun _ => not_mem_of_mem_split }
  refine ⟨form, ?_⟩
  have joined := intercalate_fields reading
  rw [← written] at joined
  exact (congrArg (fun rest => reading.scheme ++ ("://".toList ++ rest)) joined).trans
    reading.whole.symm

/-- What the parser accepts and treats as documented is documented. -/
theorem documented_of_parsesAsDocumented (parses : ParsesAsDocumented url) :
    reading.Documented := by
  have accepted := (parseProxyUrl_eq_ok_iff url reading.parsed).mpr ⟨reading, rfl⟩
  rcases parses.accepts.mp ⟨_, accepted⟩ with ⟨form, rfl⟩
  rw [reading.eq form.reading]
  exact form.documented

end Reading

/-- The parser treats a text as documented exactly when the text has no type,
fields or port that it would accept, or has them as documented. -/
theorem parsesAsDocumented_iff (url : Str) :
    ParsesAsDocumented url <-> forall reading : Reading url, reading.Documented := by
  constructor
  · exact fun parses reading => documented_of_parsesAsDocumented reading parses
  · intro documented
    constructor
    · constructor
      · rintro ⟨parsed, accepted⟩
        rcases (parseProxyUrl_eq_ok_iff url parsed).mp accepted with ⟨reading, _⟩
        exact exists_form reading (documented reading)
      · rintro ⟨form, rfl⟩
        exact ⟨_, (parseProxyUrl_eq_ok_iff _ _).mpr ⟨form.reading, rfl⟩⟩
    · intro parsed accepted
      rcases (parseProxyUrl_eq_ok_iff url parsed).mp accepted with ⟨reading, rfl⟩
      exact recovers_of_documented reading (documented reading)

/-- A username without a password. -/
def threeFields : Reading "socks5://h:80:user".toList where
  scheme := "socks5".toList
  rest := "h:80:user".toList
  proxyType := .socks5
  host := "h".toList
  portText := "80".toList
  port := 80
  more := ["user".toList]
  whole := rfl
  first := rfl
  typed := toUppercase_of_ascii (fun _ => ProxyType.keyword_ascii .socks5)
  divided := rfl
  parses := rfl
  nonzero := by decide

/-- The text is accepted, and the username is dropped. -/
theorem parseProxyUrl_drops_username :
    Not (forall url, ParsesAsDocumented url) := by
  intro parses
  have documented := documented_of_parsesAsDocumented threeFields (parses _)
  rcases documented.complete with absent | two
  · cases absent
  · cases two

end ProxyBridge
