import ProxyBridge.Cli.CommandLine
import ProxyBridge.Linux.NetfilterRuns
import ProxyBridge.Linux.PacketLoop
import ProxyBridge.Linux.Relay

namespace ProxyBridge

open Foundation Text Octets

/-!
# The program from start to end

The program checks who runs it, reads its command line, looks the proxy up,
installs its table and serves.  Nothing is installed before it is configured.  With
a documented proxy URL and rules of the language, the configuration succeeds exactly
when root runs the program and the proxy has an IPv4 address; what is configured
relays to that address and decides as the rules say (`configure_as_told`).  The
set-up, the runtime and the handler for the interrupt may still fail then.

What a life of the program does to the tables is a set-up and perhaps a
clean-up, and how far it gets says which (`main_fst`).
-/

inductive IpAddr where
  | v4 (ip : Ipv4Addr)
  | v6 (bits : BitVec 128)
  deriving DecidableEq

def IpAddr.isIpv4 : IpAddr -> Bool
  | .v4 _ => true
  | .v6 _ => false

namespace Ipv4Addr

def octets (ip : Ipv4Addr) : Octets :=
  [ip.a, ip.b, ip.c, ip.d]

theorem fromNe_fromNeBytes_octets (order : ByteOrder) (ip : Ipv4Addr) :
    fromNe order (fromNeBytes order ip.octets) = ip := by
  rw [fromNe, octets, toNeBytes_fromNeBytes]
  rfl

end Ipv4Addr

/-- What the host answers to one life of the program.  The end of a life that
serves is an interrupt with the answers to the last clean-up, or anything that
kills the process. -/
structure LifeAnswers where
  isRoot : Bool
  toSocketAddrs : Str -> Except Str (List IpAddr)
  leftovers : BatchAnswers
  installation : BatchAnswers
  currentPid : UInt32
  runtime : Except Str Unit
  handler : Except Str Unit
  interrupted : Option BatchAnswers

/-- Why the program gives up before it touches anything. -/
inductive Rejection where
  | exited (code : UInt8)
  | failed (error : Str)
  | panicked
  deriving DecidableEq

/-- What the program serves with. -/
structure Service where
  nfqueue : NfqueueArgs
  verbose : UInt8
  udpRelay : Bool

def proxyConfigOf (parsed : ParsedProxy) : ProxyConfig :=
  { ProxyConfig.new parsed.proxyType parsed.host parsed.port with
    username := parsed.username
    password := parsed.password }

/-- host:port, as it is looked up. -/
def addrStr (proxyConfig : ProxyConfig) : Str :=
  proxyConfig.host ++ ':' :: decimal proxyConfig.port.toNat

/-- The first IPv4 address is taken. -/
def resolvedWith (order : ByteOrder) (proxyConfig : ProxyConfig) (addrs : List IpAddr) :
    ProxyConfig :=
  match addrs.find? IpAddr.isIpv4 with
  | some (.v4 ip) => { proxyConfig with resolvedIp := some (fromNeBytes order ip.octets) }
  | _ => proxyConfig

section Reading

variable (order : ByteOrder) (args : CliArgs) (host : LifeAnswers)

def resolveProxy (proxyConfig : ProxyConfig) : Except Rejection ProxyConfig :=
  match host.toSocketAddrs (addrStr proxyConfig) with
  | .error message => .error (.failed message)
  | .ok addrs =>
      let resolved := resolvedWith order proxyConfig addrs
      if resolved.resolvedIp.isNone then .error (.exited 1) else .ok resolved

/-- The proxy of the command line, resolved. -/
def readProxy : Except Rejection ProxyConfig :=
  match parseProxyUrl args.proxy with
  | none => .error .panicked
  | some (.error message) => .error (.failed message)
  | some (.ok parsed) => resolveProxy order host (proxyConfigOf parsed)

/-- Everything up to the set-up. -/
def configure : Except Rejection Service :=
  if !host.isRoot then .error (.exited 1)
  else do
    let proxyConfig ← readProxy order args host
    let added ← (addRules RuleEngine.new 1 args.rule).mapError Rejection.failed
    return {
      nfqueue := {
        order := order
        ruleEngine := added.1
        proxyConfig := proxyConfig
        dnsViaProxy := args.dnsViaProxy
        currentPid := host.currentPid }
      verbose := args.verbose
      udpRelay := proxyConfig.proxyType = .socks5 }

end Reading

inductive MainEnd where
  | rejected (reason : Rejection)
  | returned (result : Except Str Unit)
  | waits
  | killed

/-- The end of a call of the table's manager. -/
def endOf : Option (Except Str Unit) -> MainEnd
  | none => .waits
  | some result => .returned result

/-- From the set-up on: the runtime and the handler for the interrupt, then
serving until the end, and the clean-up after an interrupt. -/
def serve (filter : NetFilter) (host : LifeAnswers) (ruleset : filter.Ruleset) :
    filter.Ruleset × MainEnd :=
  match host.runtime, host.handler with
  | .error message, _ => (ruleset, .returned (.error message))
  | .ok (), .error message => (ruleset, .returned (.error message))
  | .ok (), .ok () =>
      match host.interrupted with
      | none => (ruleset, .killed)
      | some last =>
          let cleaned := cleanup filter ruleset last
          (cleaned.1, endOf cleaned.2)

/-- One life of the program: what it leaves of the tables, and how it ends. -/
def main (filter : NetFilter) (order : ByteOrder) (encoding : NftnlEncoding) (args : CliArgs)
    (host : LifeAnswers) (ruleset : filter.Ruleset) : filter.Ruleset × MainEnd :=
  if args.cleanup then
    let cleaned := cleanup filter ruleset host.leftovers
    (cleaned.1, endOf cleaned.2)
  else
    match configure order args host with
    | .error reason => (ruleset, .rejected reason)
    | .ok _ =>
        let installed :=
          setup filter (relayArgs order encoding) ruleset host.leftovers host.installation
        match installed.2 with
        | some (.ok ()) => serve filter host installed.1
        | other => (installed.1, endOf other)

/-! ## Starting as told -/

/-- The first IPv4 address among those found for a name. -/
def FirstIpv4 (addrs : List IpAddr) (ip : Ipv4Addr) : Prop :=
  First (fun addr => addr.isIpv4 = true) addrs (.v4 ip)

theorem find?_isIpv4 (addrs : List IpAddr) :
    (addrs.find? IpAddr.isIpv4 = none ∧ forall ip, Not (FirstIpv4 addrs ip)) ∨
      Exists fun ip => addrs.find? IpAddr.isIpv4 = some (.v4 ip) ∧ FirstIpv4 addrs ip := by
  have agree : forall addr image : IpAddr, addr = image ->
      (image.isIpv4 = true <-> addr.isIpv4 = true) := by
    rintro addr image rfl
    exact Iff.rfl
  have search := @find?_corresponds IpAddr IpAddr Eq (fun addr => addr.isIpv4 = true)
    IpAddr.isIpv4 agree addrs addrs (List.forall₂_same.mpr (fun addr _ => Eq.refl addr))
  cases found : addrs.find? IpAddr.isIpv4 with
  | none =>
      rw [found] at search
      exact Or.inl ⟨rfl, fun ip first => search _ first.mem first.1⟩
  | some addr =>
      rw [found] at search
      rcases search with ⟨chosen, same, first⟩
      subst same
      cases chosen with
      | v4 ip => exact Or.inr ⟨ip, rfl, first⟩
      | v6 bits => cases first.1

/-- The name is looked up with success, and the address is taken. -/
def Resolves (host : LifeAnswers) (name : Str) (ip : Ipv4Addr) : Prop :=
  Exists fun addrs => host.toSocketAddrs name = .ok addrs ∧ FirstIpv4 addrs ip

theorem Resolves.unique {host : LifeAnswers} {name : Str} {left right : Ipv4Addr}
    (one : Resolves host name left) (other : Resolves host name right) : left = right := by
  rcases one with ⟨addrs, answered, first⟩
  rcases other with ⟨addrsToo, answeredToo, firstToo⟩
  cases answered.symm.trans answeredToo
  cases First.unique first firstToo
  rfl

section Reading

variable {order : ByteOrder} {args : CliArgs} {host : LifeAnswers}

theorem resolveProxy_eq_ok_iff {proxyConfig : ProxyConfig} (resolved : ProxyConfig)
    (unresolved : proxyConfig.resolvedIp = none) :
    resolveProxy order host proxyConfig = .ok resolved <->
      Exists fun ip => Resolves host (addrStr proxyConfig) ip ∧
        resolved = { proxyConfig with resolvedIp := some (fromNeBytes order ip.octets) } := by
  unfold resolveProxy
  cases answered : host.toSocketAddrs (addrStr proxyConfig) with
  | error message => simp [answered, Resolves]
  | ok addrs =>
      rcases find?_isIpv4 addrs with ⟨found, none⟩ | ⟨ip, found, first⟩
      · simp [answered, Resolves, resolvedWith, found, none, unresolved]
      · have resolves : Resolves host (addrStr proxyConfig) ip := ⟨addrs, answered, first⟩
        simp only [resolvedWith, found, Option.isNone_some, Bool.false_eq_true, if_false,
          Except.ok.injEq]
        constructor
        · rintro rfl
          exact ⟨ip, resolves, rfl⟩
        · rintro ⟨other, resolvesToo, rfl⟩
          rw [resolves.unique resolvesToo]

/-- The proxy is read when its URL parses and its name has an IPv4 address. -/
theorem readProxy_eq_ok_iff {parsed : ParsedProxy}
    (read : parseProxyUrl args.proxy = some (.ok parsed)) (proxyConfig : ProxyConfig) :
    readProxy order args host = .ok proxyConfig <->
      Exists fun ip => Resolves host (addrStr (proxyConfigOf parsed)) ip ∧
        proxyConfig = { proxyConfigOf parsed with
          resolvedIp := some (fromNeBytes order ip.octets) } := by
  simp only [readProxy, read]
  exact resolveProxy_eq_ok_iff proxyConfig rfl

theorem configure_eq_ok_iff (service : Service) :
    configure order args host = .ok service <->
      host.isRoot = true ∧ Exists fun proxyConfig => Exists fun ruleEngine =>
        Exists fun next => readProxy order args host = .ok proxyConfig ∧
          addRules RuleEngine.new 1 args.rule = .ok (ruleEngine, next) ∧
          service = {
            nfqueue := {
              order := order
              ruleEngine := ruleEngine
              proxyConfig := proxyConfig
              dnsViaProxy := args.dnsViaProxy
              currentPid := host.currentPid }
            verbose := args.verbose
            udpRelay := proxyConfig.proxyType = .socks5 } := by
  unfold configure
  cases host.isRoot with
  | false => simp
  | true =>
      cases readProxy order args host with
      | error reason => simp [bind, Except.bind]
      | ok proxyConfig =>
          cases addRules RuleEngine.new 1 args.rule with
          | error message => simp [bind, Except.bind, Except.mapError]
          | ok added =>
              simp [bind, Except.bind, Except.mapError, pure, Except.pure, Prod.ext_iff, eq_comm]

end Reading

/-- A service that does what a URL and lines of rules say, and relays to the
proxy at one address. -/
structure ServesAsTold (order : ByteOrder) (form : ProxyUrl) (lines : List RuleLine)
    (ip : Ipv4Addr) (service : Service) : Prop where
  byteOrder : service.nfqueue.order = order
  proxyType : service.nfqueue.proxyConfig.proxyType = form.proxyType
  host : service.nfqueue.proxyConfig.host = form.host
  port : service.nfqueue.proxyConfig.port.toNat = form.port
  username : service.nfqueue.proxyConfig.username = form.credentials.map Prod.fst
  password : service.nfqueue.proxyConfig.password = form.credentials.map Prod.snd
  hasAuth : service.nfqueue.proxyConfig.hasAuth = form.credentials.isSome
  connects : forall base64Encode connect destIp destPort,
    handleTcpConnection order base64Encode service.nfqueue.proxyConfig connect destIp destPort =
      (connect ⟨ip, service.nfqueue.proxyConfig.port⟩).map
        (proxyHandshake order base64Encode service.nfqueue.proxyConfig destIp destPort)
  udpRelay : service.udpRelay = true <-> form.proxyType = .socks5
  decides : forall connection action,
    service.nfqueue.ruleEngine.matchRule connection.processName connection.destIp
        connection.destPort connection.isUdp = action <-> Decision lines connection action

section Told

variable {order : ByteOrder} {form : ProxyUrl}

theorem port_reading : form.reading.parsed.port.toNat = form.port :=
  UInt16.toNat_ofNat_of_lt' form.inRange

theorem addrStr_reading :
    addrStr (proxyConfigOf form.reading.parsed) = form.host ++ ':' :: decimal form.port := by
  rw [← port_reading]
  rfl

theorem credentialsOf_credentialFields (credentials : Option (Str × Str)) :
    credentialsOf (credentialFields credentials) =
      (credentials.map Prod.fst, credentials.map Prod.snd) := by
  cases credentials with
  | none => rfl
  | some pair => rfl

theorem username_reading :
    form.reading.parsed.username = form.credentials.map Prod.fst :=
  congrArg Prod.fst (credentialsOf_credentialFields form.credentials)

theorem password_reading :
    form.reading.parsed.password = form.credentials.map Prod.snd :=
  congrArg Prod.snd (credentialsOf_credentialFields form.credentials)

/-- The relays connect to the address that was found. -/
theorem handleTcpConnection_resolved {proxyConfig : ProxyConfig} {ip : Ipv4Addr}
    (resolved : proxyConfig.resolvedIp = some (fromNeBytes order ip.octets))
    (base64Encode : Octets -> Str) (connect : SocketAddr -> Option TcpStream) (destIp : UInt32)
    (destPort : UInt16) :
    handleTcpConnection order base64Encode proxyConfig connect destIp destPort =
      (connect ⟨ip, proxyConfig.port⟩).map
        (proxyHandshake order base64Encode proxyConfig destIp destPort) := by
  rw [handleTcpConnection, resolved, Option.bind_eq_bind, Option.bind_some,
    Ipv4Addr.fromNe_fromNeBytes_octets]
  cases connect ⟨ip, proxyConfig.port⟩ with
  | none => rfl
  | some proxyStream => rfl

end Told

/-- The command line of a URL and of lines of rules. -/
def toldArgs (form : ProxyUrl) (lines : List RuleLine) (dnsViaProxy : Bool) (verbose : UInt8)
    (cleanup : Bool) : CliArgs where
  proxy := form.render
  rule := lines.map RuleLine.text
  dnsViaProxy := dnsViaProxy
  verbose := verbose
  cleanup := cleanup

section Told

variable {order : ByteOrder} {form : ProxyUrl} {lines : List RuleLine} {dnsViaProxy : Bool}
  {verbose : UInt8} {cleanup : Bool} {host : LifeAnswers}

theorem readProxy_told (proxyConfig : ProxyConfig) :
    readProxy order (toldArgs form lines dnsViaProxy verbose cleanup) host = .ok proxyConfig <->
      Exists fun ip => Resolves host (form.host ++ ':' :: decimal form.port) ip ∧
        proxyConfig = { proxyConfigOf form.reading.parsed with
          resolvedIp := some (fromNeBytes order ip.octets) } := by
  have read : parseProxyUrl form.render = some (.ok form.reading.parsed) :=
    (parseProxyUrl_eq_ok_iff form.render _).mpr ⟨form.reading, rfl⟩
  rw [← addrStr_reading]
  exact readProxy_eq_ok_iff read proxyConfig

/-- What is configured serves as told. -/
theorem servesAsTold_of_configure {service : Service}
    (configured : configure order (toldArgs form lines dnsViaProxy verbose cleanup) host =
      .ok service) :
    Exists fun ip => Resolves host (form.host ++ ':' :: decimal form.port) ip ∧
      ServesAsTold order form lines ip service := by
  rcases addRules_text lines RuleEngine.new 1 with ⟨rules, next, added, written⟩
  rcases (configure_eq_ok_iff service).mp configured with
    ⟨_, proxyConfig, ruleEngine, nextToo, proxy, addedToo, rfl⟩
  rcases (readProxy_told proxyConfig).mp proxy with ⟨ip, resolves, rfl⟩
  cases added.symm.trans addedToo
  refine ⟨ip, resolves, {
    byteOrder := rfl
    proxyType := rfl
    host := rfl
    port := port_reading
    username := username_reading
    password := password_reading
    hasAuth := ?_
    connects := handleTcpConnection_resolved rfl
    udpRelay := decide_eq_true_iff
    decides := matchRule_iff_decision written }⟩
  change (form.reading.parsed.username.isSome && form.reading.parsed.password.isSome) = _
  rw [username_reading, password_reading, Option.isSome_map, Option.isSome_map, Bool.and_self]

end Told

/-- Told a documented URL and rules of the language, the program is configured
exactly when root runs it and the name of the proxy has an IPv4 address.  What is
configured serves as told, and relays to the first of these addresses. -/
theorem configure_as_told (order : ByteOrder) (form : ProxyUrl) (lines : List RuleLine)
    (dnsViaProxy : Bool) (verbose : UInt8) (cleanup : Bool) (host : LifeAnswers) :
    let args := toldArgs form lines dnsViaProxy verbose cleanup
    ((Exists fun service => configure order args host = .ok service) <->
        host.isRoot = true ∧
          Exists fun ip => Resolves host (form.host ++ ':' :: decimal form.port) ip) ∧
      forall service, configure order args host = .ok service ->
        Exists fun ip => Resolves host (form.host ++ ':' :: decimal form.port) ip ∧
          ServesAsTold order form lines ip service := by
  intro args
  refine ⟨⟨?_, ?_⟩, fun service => servesAsTold_of_configure⟩
  · rintro ⟨service, accepted⟩
    rcases (configure_eq_ok_iff service).mp accepted with ⟨root, proxyConfig, _, _, proxy, _⟩
    rcases (readProxy_told proxyConfig).mp proxy with ⟨ip, resolves, _⟩
    exact ⟨root, ip, resolves⟩
  · rintro ⟨root, ip, resolves⟩
    have proxy : readProxy order args host = .ok _ := (readProxy_told _).mpr ⟨ip, resolves, rfl⟩
    rcases addRules_text lines RuleEngine.new 1 with ⟨rules, next, added, _⟩
    exact ⟨_, (configure_eq_ok_iff _).mpr ⟨root, _, _, next, proxy, added, rfl⟩⟩

/-! ## What a life does to the tables -/

/-- The program gets as far as serving. -/
def LifeAnswers.Serves (host : LifeAnswers) : Prop :=
  ((sendAndProcess host.leftovers).isSome = true ∧
    sendAndProcess host.installation = some (.ok ())) ∧
    host.runtime = .ok () ∧ host.handler = .ok ()

instance (host : LifeAnswers) : Decidable host.Serves :=
  inferInstanceAs (Decidable (_ ∧ _))

/-- The calls of the table's manager in one life. -/
def lifeEvents (filter : NetFilter) (order : ByteOrder) (args : CliArgs) (host : LifeAnswers) :
    List (NetfilterEvent filter) :=
  if args.cleanup then [.cleanup host.leftovers]
  else
    match configure order args host with
    | .error _ => []
    | .ok _ =>
        .setup host.leftovers host.installation ::
          (if host.Serves then host.interrupted.toList.map NetfilterEvent.cleanup else [])

section Tables

variable {filter : NetFilter}

/-- A set-up returns well when both batches are answered so that it does. -/
theorem setup_snd_eq_ok_iff (args : NetfilterArgs) (ruleset : filter.Ruleset)
    (first second : BatchAnswers) :
    (setup filter args ruleset first second).2 = some (.ok ()) <->
      (sendAndProcess first).isSome = true ∧ sendAndProcess second = some (.ok ()) := by
  rcases setup_cases filter args ruleset first second with
    ⟨waits, stopped⟩ | ⟨⟨result, returns⟩, went⟩
  · rw [stopped, waits]
    simp
  · rw [went, returns]
    simp [sendBatch]

theorem serve_fst (args : NetfilterArgs) (host : LifeAnswers) (ruleset : filter.Ruleset) :
    (serve filter host ruleset).1 = run (netfilterStep filter args) ruleset
      (if host.runtime = .ok () ∧ host.handler = .ok () then
        host.interrupted.toList.map NetfilterEvent.cleanup else []) := by
  unfold serve
  cases host.runtime with
  | error message => simp
  | ok =>
      cases host.handler with
      | error message => simp
      | ok =>
          cases host.interrupted with
          | none => simp
          | some last => simp [netfilterStep]

/-- The tables after one life are those after its calls. -/
theorem main_fst (order : ByteOrder) (encoding : NftnlEncoding) (args : CliArgs)
    (host : LifeAnswers) (ruleset : filter.Ruleset) :
    (main filter order encoding args host ruleset).1 =
      run (netfilterStep filter (relayArgs order encoding)) ruleset
        (lifeEvents filter order args host) := by
  unfold main lifeEvents
  cases args.cleanup with
  | true => rfl
  | false =>
      rw [if_neg Bool.false_ne_true, if_neg Bool.false_ne_true]
      cases configure order args host with
      | error reason => rfl
      | ok service =>
          dsimp only
          rw [run_cons]
          change _ = run _ (setup _ _ _ _ _).1 _
          have serves : host.Serves <->
              (setup filter (relayArgs order encoding) ruleset host.leftovers
                host.installation).2 = some (.ok ()) ∧
                  host.runtime = .ok () ∧ host.handler = .ok () := by
            rw [setup_snd_eq_ok_iff]
            rfl
          simp only [serves]
          cases (setup filter (relayArgs order encoding) ruleset host.leftovers
              host.installation).2 with
          | none => simp
          | some result =>
              cases result with
              | error message => simp
              | ok =>
                  simp only [true_and]
                  exact serve_fst _ host _

end Tables

end ProxyBridge
