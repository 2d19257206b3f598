import ProxyBridge.Linux.Startup
import ProxyBridge.Linux.SystemProvenance

namespace ProxyBridge

open Foundation Text

/-!
# From the command line to the traffic

The texts of the command line become the settings of the packet loop and of the
relays, and these decide over whole runs what goes to the proxy.  Together: the
relays carry something for a remote end only if a packet to it was marked before,
and the lines of the command line send that packet's connection of the process
found for it to the proxy (`relayed_as_told`).  The lines are asked for the
transport of that packet, which need not be that of what is carried now.
-/

section Told

variable (lines : List RuleLine) (args : NfqueueArgs) (base64Encode : Octets -> Str)

/-- In the past, a packet on the port and to the remote end was marked.  Its owner
was found, and the lines send this process to the proxy, for the remote end and
the transport of that packet. -/
def ToldToProxy (past : List SystemEvent) (port : UInt16) (dest : UInt32 × UInt16) : Prop :=
  Exists fun before => Exists fun host => Exists fun payload => Exists fun packet =>
    Exists fun pid => Exists fun processName =>
      before ++ [.packet host payload] <+: past ∧ packetOf args.order payload = some packet ∧
        MayBeMarked args host (systemAfter args base64Encode before).loop.now
          (systemAfter args base64Encode before).loop.tables packet ∧
        packet.srcPort = port ∧ (packet.destIp, packet.destPort) = dest ∧
        (getPidFromConnection host (systemAfter args base64Encode before).loop.now
          (systemAfter args base64Encode before).loop.tables.pidCache packet.srcIp packet.srcPort
          packet.isUdp).1 = pid ∧ pid ≠ args.currentPid ∧
        getProcessName host pid = some processName ∧
        Decision lines ⟨processName, dest.1, dest.2, packet.isUdp⟩ .proxy

variable {lines args base64Encode}

/-- What was marked was told to go to the proxy. -/
theorem toldToProxy_of_markedBefore
    (decides : forall connection action, args.ruleEngine.matchRule connection.processName
      connection.destIp connection.destPort connection.isUdp = action <->
        Decision lines connection action)
    {past : List SystemEvent} {port : UInt16} {dest : UInt32 × UInt16}
    (marked : MarkedBefore args base64Encode past port dest) :
    ToldToProxy lines args base64Encode past port dest := by
  rcases marked with ⟨before, host, payload, inside, ⟨packet, parsed, mayBe, onPort, towards⟩, _⟩
  rcases mayBe.owned with ⟨pid, processName, owner, _, other, named, matched⟩
  refine ⟨before, host, payload, packet, pid, processName, inside, parsed, mayBe, onPort, towards,
    owner, other, named, ?_⟩
  subst towards
  exact (decides ⟨processName, _, _, packet.isUdp⟩ .proxy).mp matched

theorem ToldToProxy.mono {past later : List SystemEvent} (inside : past <+: later) {port : UInt16}
    {dest : UInt32 × UInt16} (told : ToldToProxy lines args base64Encode past port dest) :
    ToldToProxy lines args base64Encode later port dest := by
  rcases told with ⟨before, host, payload, packet, pid, processName, earlier, rest⟩
  exact ⟨before, host, payload, packet, pid, processName, earlier.trans inside, rest⟩

end Told

/-- The program is configured with a documented URL and rules of the language.
In every run of its tasks, each datagram for the proxy, each datagram for a client
and each connection through the proxy is on a port and for a remote end of which
a packet was marked, for a process that the lines send to the proxy there.
Connections are made to the address that the name of the proxy resolved to. -/
theorem relayed_as_told {order : Octets.ByteOrder} {form : ProxyUrl} {lines : List RuleLine}
    {dnsViaProxy : Bool} {verbose : UInt8} {cleanup : Bool} {host : LifeAnswers}
    {service : Service}
    (started : configure order (toldArgs form lines dnsViaProxy verbose cleanup) host =
      .ok service) (base64Encode : Octets -> Str) (events : List SystemEvent) :
    let system := systemAfter service.nfqueue base64Encode events
    let told := ToldToProxy lines service.nfqueue base64Encode
    (forall outgoing, outgoing ∈ system.forwarded -> Exists fun data =>
        Carries order outgoing.packet outgoing.dest data ∧
          told events outgoing.client.port outgoing.dest) ∧
      (forall delivery, delivery ∈ system.delivered -> Exists fun packet => Exists fun dest =>
        Carries order packet dest delivery.2 ∧ told events delivery.1.port dest) ∧
      forall tunnel, tunnel ∈ system.tunnels ->
        Exists fun ip => Exists fun connect : SocketAddr -> Option TcpStream =>
          Resolves host (form.host ++ ':' :: decimal form.port) ip ∧
            (connect ⟨ip, UInt16.ofNat form.port⟩).map (proxyHandshake order base64Encode
              service.nfqueue.proxyConfig tunnel.dest.1 tunnel.dest.2) =
                some (.ok (), tunnel.stream) ∧
            told events tunnel.client.port tunnel.dest := by
  intro system told
  rcases servesAsTold_of_configure started with ⟨ip, resolves, serves⟩
  have tolds : forall past port dest, past <+: events ->
      MarkedBefore service.nfqueue base64Encode past port dest -> told events port dest := by
    intro past port dest inside marked
    exact (toldToProxy_of_markedBefore serves.decides marked).mono inside
  have port : service.nfqueue.proxyConfig.port = UInt16.ofNat form.port := by
    rw [← serves.port, UInt16.ofNat_toNat]
  refine ⟨?_, ?_, ?_⟩
  · intro outgoing sent
    rcases fromClient_of_forwarded sent with ⟨past, data, inside, carries, marked, _⟩
    rw [serves.byteOrder] at carries
    exact ⟨data, carries, tolds past _ _ (prefix_of_concat inside) marked⟩
  · intro delivery sent
    rcases fromProxy_of_delivered sent with
      ⟨past, sender, packet, keys, dest, inside, carries, _, marked⟩
    rw [serves.byteOrder] at carries
    exact ⟨packet, dest, carries, tolds past _ _ (prefix_of_concat inside) marked⟩
  · intro tunnel opened
    rcases fromAccept_of_tunnels opened with ⟨past, connect, inside, handled, marked⟩
    rw [serves.byteOrder, serves.connects, port] at handled
    exact ⟨ip, connect, resolves, handled, tolds past _ _ (prefix_of_concat inside) marked⟩

/-! The proxy of the program's defaults, and a rule for everything. -/

def localForm : ProxyUrl where
  proxyType := .socks5
  scheme := "socks5".toList
  host := "127.0.0.1".toList
  portText := "4444".toList
  port := 4444
  credentials := none
  typed := by decide
  hasHost := by decide
  numeral := numeral_decimal 4444
  positive := by decide
  inRange := by decide
  clean := by decide

def everyRule : AbstractRule where
  processes := ⟨.any, []⟩
  hosts := ⟨.every, []⟩
  ports := ⟨.every, []⟩
  protocol := .both
  action := .proxy
  notAny := fun _ same => by cases same
  routed := curlRule.routed

def everyLine : RuleLine :=
  .routed everyRule {
    portSeparators := []
    enough := rfl
    allowed := fun _ member => absurd member List.not_mem_nil
    protocolText := "BOTH".toList
    protocolSame := by decide
    actionText := "PROXY".toList
    actionSame := by decide }

example : localForm.render = CliArgs.defaults.proxy ∧ everyLine.text = "*:*:*:BOTH:PROXY".toList := by
  decide

/-- What the program serves with for that line. -/
def everyService : Service where
  nfqueue := {
    order := .little
    ruleEngine := ⟨[everyLine.ruleWith 1]⟩
    proxyConfig := {
      proxyType := .socks5
      host := "127.0.0.1".toList
      port := 4444
      username := none
      password := none
      resolvedIp := some 0x0100007F }
    dnsViaProxy := true
    currentPid := 1000 }
  verbose := 0
  udpRelay := true

/-- A query that goes through the proxy. -/
theorem relayed_as_told_query :
    let events : List SystemEvent := [.packet systemdHost dnsQuery,
      .associate associatingProxy true, .client (some (⟨Ipv4Addr.localhost, 4096⟩, [1, 2, 3])) true]
    Exists fun outgoing =>
      outgoing ∈ (systemAfter everyService.nfqueue (fun _ => []) events).forwarded ∧
        outgoing.client.port = 4096 ∧ outgoing.dest = (0x08080808, 53) ∧
        ToldToProxy [everyLine] everyService.nfqueue (fun _ => []) events 4096
          outgoing.dest := by
  intro events
  let host : LifeAnswers := {
    isRoot := true
    toSocketAddrs := fun _ => .ok [.v4 Ipv4Addr.localhost]
    leftovers := ⟨none, none, true, []⟩
    installation := ⟨none, none, true, []⟩
    currentPid := 1000
    runtime := .ok ()
    handler := .ok ()
    interrupted := none }
  let outgoing : Forwarded := {
    client := ⟨Ipv4Addr.localhost, 4096⟩
    dest := (0x08080808, 53)
    relayAddr := ⟨⟨10, 0, 0, 9⟩, 8080⟩
    packet := buildSocks5UdpPacket .little 0x08080808 53 [1, 2, 3] }
  have started : configure .little (toldArgs localForm [everyLine] true 0 false) host =
    .ok everyService := rfl
  have sent : outgoing ∈ (systemAfter everyService.nfqueue (fun _ => []) events).forwarded :=
    List.mem_cons_self
  rcases (relayed_as_told started (fun _ => []) events).1 outgoing sent with ⟨_, _, told⟩
  exact ⟨outgoing, sent, rfl, rfl, told⟩

end ProxyBridge
