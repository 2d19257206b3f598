import ProxyBridge.Linux.SelfTraffic
import ProxyBridge.Linux.SocketOwner
import ProxyBridge.Linux.SystemProvenance

namespace ProxyBridge

open Foundation Text

/-!
# Whose packets the program thinks it handles

The owner of a packet is whom the host names for its socket, or whom the host
named for this socket less than ten seconds before.  Over whole runs of the
program the cache holds exactly the second kind: what it answers is what a log of
all questions to the host remembers (`owner_history`).

So everything that the relays carry belongs to a packet that was marked for a
process, and the host, asked about the socket of that packet, had found that
process to hold it, less than ten seconds before the mark.  The name of the
process is the one that it had when the packet was marked (`relayed_for_owners`).
-/

section Lookup

variable {host : HostAnswers} {now : Instant} {cache : PidCache} {socket : PidCacheKey}

theorem getPidFromConnection_of_cached {pid : UInt32}
    (cached : cache.get now socket.srcIp socket.srcPort socket.isUdp = some pid) :
    getPidFromConnection host now cache socket.srcIp socket.srcPort socket.isUdp =
      (pid, cache) := by
  simp only [getPidFromConnection_eq, cached]

theorem getPidFromConnection_of_fresh
    (fresh : cache.get now socket.srcIp socket.srcPort socket.isUdp = none) :
    getPidFromConnection host now cache socket.srcIp socket.srcPort socket.isUdp =
      (host.owner socket,
        if host.owner socket ≠ 0 then
          cache.put now socket.srcIp socket.srcPort (host.owner socket) socket.isUdp
        else cache) := by
  simp only [getPidFromConnection_eq, fresh]

end Lookup

/-- The host is asked about the socket of a packet and knows the owner. -/
def sightingIn (args : NfqueueArgs) (state : LoopState) (host : HostAnswers) (payload : Octets) :
    Option Sighting := do
  let result ← nfqueueIteration args host state.now state.tables payload
  let socket ← result.lookups.head?
  let cached := state.tables.pidCache.get state.now socket.srcIp socket.srcPort socket.isUdp
  if cached = none ∧ host.owner socket ≠ 0 then
    some { now := state.now, socket := socket, pid := host.owner socket }
  else none

section History

variable (args : NfqueueArgs) (base64Encode : Octets -> Str)

def sightingsIn (system : System) : SystemEvent -> List Sighting
  | .packet host payload => (sightingIn args system.loop host payload).toList
  | _ => []

/-- The answers of the host over a run, the latest one first. -/
def sightings (events : List SystemEvent) : List Sighting :=
  (seen (systemStep args base64Encode) (sightingsIn args) .initial events).reverse

/-- The packet asks for its owner, nobody is remembered for its socket, and the
host names the process. -/
def AsksHost (past : List SystemEvent) (host : HostAnswers) (payload : Octets)
    (sighting : Sighting) : Prop :=
  let system := systemAfter args base64Encode past
  system.loop.now = sighting.now ∧ (Exists fun packet =>
    packetOf args.order payload = some packet ∧ packet.socket = sighting.socket ∧
      AsksOwner args system.loop.tables packet) ∧
    remembered sighting.now sighting.socket (sightings args base64Encode past) = none ∧
    host.owner sighting.socket = sighting.pid ∧ sighting.pid ≠ 0

/-- From now on, the cache answers what the questions of the run remember. -/
def CacheRemembers (past : List SystemEvent) : Prop :=
  forall later, (systemAfter args base64Encode past).loop.now ≤ later ->
    forall socket : PidCacheKey,
      (systemAfter args base64Encode past).loop.tables.pidCache.get later socket.srcIp
          socket.srcPort socket.isUdp =
        remembered later socket (sightings args base64Encode past)

variable {args base64Encode}

theorem systemAfter_concat (past : List SystemEvent) (event : SystemEvent) :
    systemAfter args base64Encode (past ++ [event]) =
      systemStep args base64Encode (systemAfter args base64Encode past) event :=
  run_concat _ _ _ _

theorem sightings_concat (past : List SystemEvent) (event : SystemEvent) :
    sightings args base64Encode (past ++ [event]) =
      (sightingsIn args (systemAfter args base64Encode past) event).reverse ++
        sightings args base64Encode past := by
  rw [sightings, seen_concat, List.reverse_append]
  rfl

/-- A payload passes without a question, or its owner is asked for. -/
theorem nfqueueIteration_asks_cases (host : HostAnswers) (now : Instant) (tables : SharedTables)
    (payload : Octets) :
    nfqueueIteration args host now tables payload = some (passUnmarked tables) ∨
      Exists fun packet => packetOf args.order payload = some packet ∧
        AsksOwner args tables packet ∧
        nfqueueIteration args host now tables payload =
          some (decisionPipeline args host now tables packet) := by
  cases parsed : packetOf args.order payload with
  | none => exact Or.inl (nfqueueIteration_of_unparsed args host now tables parsed)
  | some packet =>
      by_cases reaches : ReachesPipeline args tables packet
      · have decided := nfqueueIteration_of_reaches args host now tables parsed reaches
        by_cases dns : packet.DirectDns args
        · rw [decisionPipeline_of_directDns args host now tables dns] at decided
          exact Or.inl decided
        · exact Or.inr ⟨packet, rfl, ⟨reaches, dns⟩, decided⟩
      · exact Or.inl (nfqueueIteration_of_not_reaches args host now tables parsed reaches)

/-- What a packet does to the cache: nothing without a question to the host, or
the answer is stored. -/
theorem sightingIn_cases (state : LoopState) (host : HostAnswers) (payload : Octets) :
    (sightingIn args state host payload = none ∧
        (loopStep state (.packet args host payload)).tables.pidCache = state.tables.pidCache) ∨
      Exists fun packet => packetOf args.order payload = some packet ∧
        AsksOwner args state.tables packet ∧
        state.tables.pidCache.get state.now packet.srcIp packet.srcPort packet.isUdp = none ∧
        host.owner packet.socket ≠ 0 ∧
        sightingIn args state host payload =
          some ⟨state.now, packet.socket, host.owner packet.socket⟩ ∧
        (loopStep state (.packet args host payload)).tables.pidCache =
          state.tables.pidCache.put state.now packet.srcIp packet.srcPort
            (host.owner packet.socket) packet.isUdp := by
  rcases nfqueueIteration_asks_cases host state.now state.tables payload with
    passes | ⟨packet, parsed, asks, decided⟩
  · refine Or.inl ⟨?_, ?_⟩
    · rw [sightingIn, passes]
      rfl
    · rw [loopStep, passes]
      rfl
  · have asked := lookups_decisionPipeline args host state.now state.tables asks.2
    have sighted : sightingIn args state host payload =
        if state.tables.pidCache.get state.now packet.srcIp packet.srcPort packet.isUdp = none ∧
            host.owner packet.socket ≠ 0 then
          some ⟨state.now, packet.socket, host.owner packet.socket⟩
        else none := by
      rw [sightingIn, decided, Option.bind_eq_bind, Option.bind_some, asked]
      rfl
    have after : (loopStep state (.packet args host payload)).tables.pidCache =
        (getPidFromConnection host state.now state.tables.pidCache packet.socket.srcIp
          packet.socket.srcPort packet.socket.isUdp).2 := by
      rw [loopStep, decided]
      exact congrArg Matched.pidCache (if_neg asks.2)
    rw [sighted, after]
    cases cached : state.tables.pidCache.get state.now packet.srcIp packet.srcPort
        packet.isUdp with
    | some pid =>
        refine Or.inl ⟨if_neg (fun both => by cases both.1), ?_⟩
        exact congrArg Prod.snd (getPidFromConnection_of_cached cached)
    | none =>
        have lookup := congrArg Prod.snd (@getPidFromConnection_of_fresh host state.now
          state.tables.pidCache packet.socket cached)
        by_cases unknown : host.owner packet.socket = 0
        · refine Or.inl ⟨if_neg (fun both => both.2 unknown), ?_⟩
          exact lookup.trans (if_neg (fun known => known unknown))
        · refine Or.inr ⟨packet, parsed, asks, cached, unknown, if_pos ⟨rfl, unknown⟩, ?_⟩
          exact lookup.trans (if_pos unknown)

theorem cacheRemembers (events : List SystemEvent) :
    CacheRemembers args base64Encode events := by
  induction events using List.reverseRecOn with
  | nil => exact fun _ _ _ => rfl
  | append_singleton past event ih =>
      intro later after socket
      rw [systemAfter_concat, loop_systemStep] at after ⊢
      rw [sightings_concat]
      cases event with
      | packet host payload =>
          change (loopStep (systemAfter args base64Encode past).loop (.packet args host payload)).now
            ≤ later at after
          change (loopStep (systemAfter args base64Encode past).loop
            (.packet args host payload)).tables.pidCache.get later _ _ _ = _
          rw [now_loopStep_packet] at after
          rcases @sightingIn_cases args (systemAfter args base64Encode past).loop host payload with
            ⟨unseen, kept⟩ | ⟨packet, _, _, _, _, sighted, stored⟩
          · rw [kept, sightingsIn, unseen]
            exact ih later after socket
          · rw [stored, sightingsIn, sighted]
            change _ = remembered later socket (_ :: sightings args base64Encode past)
            rw [remembered]
            by_cases here : socket = packet.socket
            · rw [if_pos here, here]
              exact PidCache.get_put_self _ _ _ _ _
            · rw [if_neg here, ← ih later after socket]
              exact PidCache.get_put_of_ne _ _ _ _ here
      | cleanupConnections => exact ih later after socket
      | cleanupPids =>
          exact (PidCache.get_cleanup _ after _ _ _).trans (ih later after socket)
      | advance nanos => exact ih later (le_trans (Nat.le_add_right _ _) after) socket
      | accept client connect => exact ih later after socket
      | associate connect bound => exact ih later after socket
      | client datagram sent => exact ih later after socket
      | proxy datagram keys => exact ih later after socket

/-- Each answer was given to a packet of the run. -/
theorem asksHost_of_sighting {events : List SystemEvent} {sighting : Sighting}
    (logged : sighting ∈ sightings args base64Encode events) :
    Exists fun past => Exists fun host => Exists fun payload =>
      past ++ [.packet host payload] <+: events ∧
        AsksHost args base64Encode past host payload sighting := by
  induction events using List.reverseRecOn with
  | nil => exact absurd logged List.not_mem_nil
  | append_singleton past event ih =>
      rw [sightings_concat] at logged
      rcases List.mem_append.mp logged with new | old
      · cases event with
        | packet host payload =>
            refine ⟨past, host, payload, List.prefix_refl _, ?_⟩
            rw [List.mem_reverse, sightingsIn] at new
            rcases @sightingIn_cases args (systemAfter args base64Encode past).loop host
              payload with ⟨unseen, _⟩ | ⟨packet, parsed, asks, fresh, known, sighted, _⟩
            · rw [unseen] at new
              exact absurd new List.not_mem_nil
            · rw [sighted] at new
              cases List.mem_singleton.mp new
              have remembers := @cacheRemembers args base64Encode past _ (Nat.le_refl _)
                packet.socket
              exact ⟨rfl, ⟨packet, parsed, rfl, asks⟩, remembers.symm.trans fresh, rfl, known⟩
        | _ => exact absurd (List.mem_reverse.mp new) List.not_mem_nil
      · rcases ih old with ⟨before, host, payload, inside, asks⟩
        exact ⟨before, host, payload, inside.trans (List.prefix_append _ _), asks⟩

/-- What is remembered was answered less than ten seconds ago. -/
theorem sighting_of_remembered {now : Instant} {socket : PidCacheKey} {log : List Sighting}
    {pid : UInt32} (known : remembered now socket log = some pid) :
    Exists fun sighting => sighting ∈ log ∧ sighting.socket = socket ∧ sighting.pid = pid ∧
      elapsedMillis now sighting.now < pidCacheTtlMs := by
  induction log with
  | nil => cases known
  | cons sighting earlier ih =>
      rw [remembered] at known
      by_cases here : socket = sighting.socket
      · rw [if_pos here] at known
        by_cases young : elapsedMillis now sighting.now < pidCacheTtlMs
        · rw [if_pos young] at known
          exact ⟨sighting, List.mem_cons_self, here.symm, Option.some.inj known, young⟩
        · rw [if_neg young] at known
          cases known
      · rw [if_neg here] at known
        rcases ih known with ⟨older, member, rest⟩
        exact ⟨older, List.mem_cons_of_mem _ member, rest⟩

end History

/-! ## Runs on a host -/

/-- The answers of the host are what the program's functions return on it. -/
def SystemEvent.Hosted (order : Octets.ByteOrder) : SystemEvent -> Prop
  | .packet host _ => Exists fun state : HostState order => state.answers = host
  | _ => True

section Hosted

variable {args : NfqueueArgs} {base64Encode : Octets -> Str} {events : List SystemEvent}

theorem hosted_of_prefix {order : Octets.ByteOrder} {past : List SystemEvent} {host : HostAnswers}
    {payload : Octets} (hosted : forall event, event ∈ events -> event.Hosted order)
    (inside : past ++ [.packet host payload] <+: events) :
    Exists fun state : HostState order => state.answers = host :=
  hosted _ (inside.subset (List.mem_append_right _ List.mem_cons_self))

/-- The lookup after a run: what is remembered for the socket, or the host's answer. -/
theorem owner_iff (events : List SystemEvent) (state : HostState args.order)
    (socket : PidCacheKey) {pid : UInt32} (known : pid ≠ 0) :
    let loop := (systemAfter args base64Encode events).loop
    let log := sightings args base64Encode events
    (getPidFromConnection state.answers loop.now loop.tables.pidCache socket.srcIp
          socket.srcPort socket.isUdp).1 = pid <->
      remembered loop.now socket log = some pid ∨
        (remembered loop.now socket log = none ∧ state.Names socket pid) := by
  intro loop log
  have remembers : loop.tables.pidCache.get loop.now socket.srcIp socket.srcPort socket.isUdp =
      remembered loop.now socket log := cacheRemembers events loop.now (Nat.le_refl _) socket
  rw [← remembers]
  cases cached : loop.tables.pidCache.get loop.now socket.srcIp socket.srcPort
      socket.isUdp with
  | some other =>
      rw [getPidFromConnection_of_cached cached]
      constructor
      · rintro rfl
        exact Or.inl rfl
      · rintro (same | impossible)
        · exact Option.some.inj same
        · cases impossible.1
  | none =>
      rw [getPidFromConnection_of_fresh cached]
      constructor
      · intro named
        exact Or.inr ⟨rfl, (HostState.owner_eq_iff_names known).mp named⟩
      · rintro (impossible | named)
        · cases impossible
        · exact (HostState.owner_eq_iff_names known).mpr named.2

/-- Each answer was given by a host that names the process. -/
theorem named_of_sighting (hosted : forall event, event ∈ events -> event.Hosted args.order)
    {sighting : Sighting} (logged : sighting ∈ sightings args base64Encode events) :
    Exists fun past => Exists fun state : HostState args.order => Exists fun payload =>
      past ++ [.packet state.answers payload] <+: events ∧
        AsksHost args base64Encode past state.answers payload sighting ∧
        state.Names sighting.socket sighting.pid := by
  rcases asksHost_of_sighting logged with ⟨past, host, payload, inside, asks⟩
  rcases hosted_of_prefix hosted inside with ⟨state, rfl⟩
  refine ⟨past, state, payload, inside, asks, ?_⟩
  exact (HostState.owner_eq_iff_names asks.2.2.2.2).mp asks.2.2.2.1

/-- After every run, a packet is attributed to whom the host named for its socket
less than ten seconds before, or else to whom the host names now.  Whoever is
remembered was named by the host for an earlier packet that left the socket, when
nobody was remembered for it. -/
theorem owner_history (hosted : forall event, event ∈ events -> event.Hosted args.order) :
    let loop := (systemAfter args base64Encode events).loop
    let log := sightings args base64Encode events
    (forall (state : HostState args.order) (socket : PidCacheKey) (pid : UInt32), pid ≠ 0 ->
      ((getPidFromConnection state.answers loop.now loop.tables.pidCache socket.srcIp
            socket.srcPort socket.isUdp).1 = pid <->
        remembered loop.now socket log = some pid ∨
          (remembered loop.now socket log = none ∧ state.Names socket pid))) ∧
      forall sighting, sighting ∈ log -> Exists fun past =>
        Exists fun state : HostState args.order => Exists fun payload =>
          past ++ [.packet state.answers payload] <+: events ∧
            AsksHost args base64Encode past state.answers payload sighting ∧
            state.Names sighting.socket sighting.pid :=
  ⟨fun state socket _ known => owner_iff events state socket known,
    fun _ logged => named_of_sighting hosted logged⟩

variable (args base64Encode events) in
/-- A packet on the port and to the remote end was marked for the process that
the lookup returned as its owner.  The host, asked about the socket of the packet
less than ten seconds before, had named this process, and the rules send the
packet's connection to the proxy under the name that the process had when the
packet was marked. -/
def MarkedForOwner (port : UInt16) (dest : UInt32 × UInt16) : Prop :=
  Exists fun before => Exists fun state : HostState args.order => Exists fun payload =>
    Exists fun packet => Exists fun pid => Exists fun name =>
      let loop := (systemAfter args base64Encode before).loop
      before ++ [.packet state.answers payload] <+: events ∧
        packetOf args.order payload = some packet ∧
        MarksFor args loop state.answers payload port dest ∧
        (getPidFromConnection state.answers loop.now loop.tables.pidCache packet.srcIp
          packet.srcPort packet.isUdp).1 = pid ∧ pid ≠ args.currentPid ∧
        getProcessName state.answers pid = some name ∧
        args.ruleEngine.matchRule name dest.1 dest.2 packet.isUdp = .proxy ∧
        Exists fun asked => Exists fun askedState : HostState args.order => Exists fun question =>
          let sighting := ⟨(systemAfter args base64Encode asked).loop.now, packet.socket, pid⟩
          asked ++ [.packet askedState.answers question] <+:
              before ++ [.packet state.answers payload] ∧
            AsksHost args base64Encode asked askedState.answers question sighting ∧
            elapsedMillis loop.now sighting.now < pidCacheTtlMs ∧
            askedState.Names packet.socket pid

theorem markedForOwner_of_markedBefore
    (hosted : forall event, event ∈ events -> event.Hosted args.order) {past : List SystemEvent}
    (inside : past <+: events) {port : UInt16} {dest : UInt32 × UInt16}
    (marked : MarkedBefore args base64Encode past port dest) :
    MarkedForOwner args base64Encode events port dest := by
  rcases marked with ⟨before, host, payload, earlier, marks, _⟩
  have here := earlier.trans inside
  rcases hosted_of_prefix hosted here with ⟨state, rfl⟩
  rcases marks with ⟨packet, parsed, mayBe, onPort, towards⟩
  rcases mayBe.owned with ⟨pid, name, owner, known, other, named, matched⟩
  subst towards
  refine ⟨before, state, payload, packet, pid, name, here, parsed,
    ⟨packet, parsed, mayBe, onPort, rfl⟩, owner, other, named, matched, ?_⟩
  have hostedBefore : forall event, event ∈ before -> event.Hosted args.order := by
    intro event member
    exact hosted event (here.subset (List.mem_append_left _ member))
  rcases (owner_iff before state packet.socket known).mp owner with recalled | ⟨fresh, names⟩
  · rcases sighting_of_remembered recalled with ⟨sighting, logged, socket, same, young⟩
    rcases named_of_sighting hostedBefore logged with
      ⟨asked, askedState, question, within, asks, names⟩
    have whole : sighting =
        ⟨(systemAfter args base64Encode asked).loop.now, packet.socket, pid⟩ := by
      rw [asks.1, ← socket, ← same]
    rw [socket, same] at names
    subst whole
    exact ⟨asked, askedState, question, within.trans (List.prefix_append _ _), asks, young, names⟩
  · have asks : AsksHost args base64Encode before state.answers payload
        ⟨(systemAfter args base64Encode before).loop.now, packet.socket, pid⟩ :=
      ⟨rfl, ⟨packet, parsed, rfl, mayBe.reaches, mayBe.notDirectDns⟩, fresh,
        (HostState.owner_eq_iff_names known).mpr names, known⟩
    refine ⟨before, state, payload, List.prefix_refl _, asks, ?_, names⟩
    rw [elapsedMillis_of_le (Nat.le_refl _)]
    decide

/-- In every run, each datagram for the proxy, each datagram for a client and each
connection through the proxy belongs, by its port and its remote end, to a packet
that was marked for a process, which the host had named for the packet's socket
less than ten seconds before. -/
theorem relayed_for_owners (hosted : forall event, event ∈ events -> event.Hosted args.order) :
    let system := systemAfter args base64Encode events
    let owned := MarkedForOwner args base64Encode events
    (forall outgoing, outgoing ∈ system.forwarded ->
        owned outgoing.client.port outgoing.dest) ∧
      (forall delivery, delivery ∈ system.delivered -> Exists fun packet => Exists fun dest =>
        Carries args.order packet dest delivery.2 ∧ owned delivery.1.port dest) ∧
      forall tunnel, tunnel ∈ system.tunnels -> owned tunnel.client.port tunnel.dest := by
  intro system owned
  refine ⟨?_, ?_, ?_⟩
  · intro outgoing sent
    rcases fromClient_of_forwarded sent with ⟨past, data, inside, _, marked, _⟩
    exact markedForOwner_of_markedBefore hosted (prefix_of_concat inside) marked
  · intro delivery sent
    rcases fromProxy_of_delivered sent with
      ⟨past, sender, packet, keys, dest, inside, carries, _, marked⟩
    exact ⟨packet, dest, carries,
      markedForOwner_of_markedBefore hosted (prefix_of_concat inside) marked⟩
  · intro tunnel opened
    rcases fromAccept_of_tunnels opened with ⟨past, connect, inside, _, marked⟩
    exact markedForOwner_of_markedBefore hosted (prefix_of_concat inside) marked

end Hosted

/-- Process 200 holds the socket that `dnsQuery` leaves. -/
def diggingHost : HostState .little where
  kernel := ⟨true, fun _ =>
    some (DiagMessage.bytes .little [.ofSocket 4096 0x0200000A 1000 71] :: [])⟩
  dumps := fun _ => some ⟨[⟨[.ofSocket 4096 0x0200000A 1000 71], by decide, by decide⟩], none⟩
  dumpProc := .ofHolders 1000 [(200, socketLink 71)] (by decide)
  udp := none
  udp6 := none
  tableProc := .ofHolders 1000 [] List.nodup_nil
  readLink := fun path => if path = "/proc/200/exe".toList then some "/usr/bin/dig".toList else none
  answered := fun _ => rfl

/-- The process is gone. -/
def idleHost : HostState .little :=
  { diggingHost with dumpProc := .ofHolders 1000 [] List.nodup_nil }

/-- All UDP goes to the proxy at 10.0.0.9. -/
def proxiedUdp : NfqueueArgs :=
  { mixedArgs with proxyConfig := localProxy }

/-- Five seconds later its packets are still attributed to the process. -/
theorem owner_history_dig :
    let loop := (systemAfter proxiedUdp (fun _ => [])
      [.packet diggingHost.answers dnsQuery, .advance 5000000000]).loop
    (getPidFromConnection idleHost.answers loop.now loop.tables.pidCache 0x0200000A 4096
      true).1 = 200 := by
  intro loop
  have hosted : forall event, event ∈ [SystemEvent.packet diggingHost.answers dnsQuery,
      .advance 5000000000] -> event.Hosted proxiedUdp.order := by
    intro event member
    rcases List.mem_cons.mp member with rfl | later
    · exact ⟨diggingHost, rfl⟩
    · rw [List.mem_singleton.mp later]
      trivial
  refine ((@owner_history proxiedUdp (fun _ => []) _ hosted).1 idleHost ⟨0x0200000A, 4096, true⟩
    200 (by decide)).mpr (Or.inl ?_)
  rw [HostState.answers_eq]
  rfl

/-- The query is relayed for the process that holds its socket. -/
theorem relayed_for_owners_dig :
    let events : List SystemEvent := [.packet diggingHost.answers dnsQuery,
      .associate associatingProxy true, .client (some (⟨Ipv4Addr.localhost, 4096⟩, [1, 2, 3])) true]
    MarkedForOwner proxiedUdp (fun _ => []) events 4096 (0x08080808, 53) := by
  intro events
  have hosted : forall event, event ∈ events -> event.Hosted proxiedUdp.order := by
    intro event member
    rcases List.mem_cons.mp member with rfl | later
    · exact ⟨diggingHost, rfl⟩
    · rcases List.mem_cons.mp later with rfl | last
      · trivial
      · rw [List.mem_singleton.mp last]
        trivial
  let outgoing : Forwarded := {
    client := ⟨Ipv4Addr.localhost, 4096⟩
    dest := (0x08080808, 53)
    relayAddr := ⟨⟨10, 0, 0, 9⟩, 8080⟩
    packet := buildSocks5UdpPacket .little 0x08080808 53 [1, 2, 3] }
  have sent : outgoing ∈ (systemAfter proxiedUdp (fun _ => []) events).forwarded := by
    change outgoing ∈ (systemAfter proxiedUdp (fun _ => [])
      [.packet diggingHost.answers dnsQuery, .associate associatingProxy true,
        .client (some (⟨Ipv4Addr.localhost, 4096⟩, [1, 2, 3])) true]).forwarded
    rw [HostState.answers_eq]
    exact List.mem_cons_self
  exact (relayed_for_owners hosted).1 outgoing sent

end ProxyBridge
