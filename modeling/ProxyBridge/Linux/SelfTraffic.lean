import ProxyBridge.Linux.OwnerLookup
import ProxyBridge.Linux.PacketLoop

namespace ProxyBridge

open Foundation Text

/-!
# The traffic of the bridge itself

The pipeline lets a packet pass when its owner is the bridge.  The owner comes
from the PID cache, where an entry lasts for ten seconds and is filed under the
address, the port and the protocol of a socket; meanwhile the socket may have
been closed, and its port may belong to another process.

The sockets are modelled beside the packet loop, with a log of the owners that
the host has named.  The cache holds what this log remembers
(`cacheMatches_socketStep`), so that a packet of the bridge passes exactly when
no other owner of its socket is remembered, or the packet would pass as that
owner's too (`ownPacketsPass_iff`).
-/

/-- The local socket that a packet leaves. -/
def Packet.socket (packet : Packet) : PidCacheKey where
  srcIp := packet.srcIp
  srcPort := packet.srcPort
  isUdp := packet.isUdp

/-- When the host was asked about a socket, and who owned it then. -/
structure Sighting where
  now : Instant
  socket : PidCacheKey
  pid : UInt32

/-- The packet loop, the owners of the open sockets, and the sightings with the
latest one first. -/
structure SocketWorld where
  loop : LoopState
  owners : KeyedStore PidCacheKey UInt32
  seen : List Sighting

namespace SocketWorld

def initial : SocketWorld where
  loop := .initial
  owners := .empty
  seen := []

end SocketWorld

/-- A step of the loop, or of a process on its sockets. -/
inductive SocketEvent where
  | loop (event : LoopEvent)
  | opened (socket : PidCacheKey) (pid : UInt32)
  | closed (socket : PidCacheKey)

/-- The owner of the packet's socket, if the host is asked for it and knows. -/
def sightingOf (world : SocketWorld) (args : NfqueueArgs) (host : HostAnswers)
    (payload : Octets) : Option Sighting := do
  let result ← nfqueueIteration args host world.loop.now world.loop.tables payload
  let socket ← result.lookups.head?
  let pid ← world.owners.get socket
  let cached := world.loop.tables.pidCache.get world.loop.now socket.srcIp socket.srcPort
    socket.isUdp
  if cached = none ∧ host.owner socket ≠ 0 then
    some { now := world.loop.now, socket := socket, pid := pid }
  else none

def socketStep (world : SocketWorld) : SocketEvent -> SocketWorld
  | .loop event =>
      { world with
        loop := loopStep world.loop event
        seen := match event with
          | .packet args host payload => (sightingOf world args host payload).toList ++ world.seen
          | _ => world.seen }
  | .opened socket pid => { world with owners := world.owners.insert socket pid }
  | .closed socket =>
      { world with owners := world.owners.retain (fun other _ => decide (other ≠ socket)) }

/-- If the host names an owner of the packet's socket, it is the current one. -/
def Truthful (world : SocketWorld) : SocketEvent -> Prop
  | .loop (.packet args host payload) =>
      forall packet, packetOf args.order payload = some packet ->
        host.owner packet.socket = 0 ∨
          world.owners.get packet.socket = some (host.owner packet.socket)
  | _ => True

/-- The owner of a socket at its last sighting, for as long as a cached PID
lasts. -/
def remembered (now : Instant) (socket : PidCacheKey) : List Sighting -> Option UInt32
  | [] => none
  | sighting :: earlier =>
      if socket = sighting.socket then
        if elapsedMillis now sighting.now < pidCacheTtlMs then some sighting.pid else none
      else remembered now socket earlier

/-- From now on, the cache answers what the log remembers. -/
def CacheMatches (world : SocketWorld) : Prop :=
  forall later, world.loop.now ≤ later -> forall socket : PidCacheKey,
    world.loop.tables.pidCache.get later socket.srcIp socket.srcPort socket.isUdp =
      remembered later socket world.seen

/-- An iteration that looks up no owner leaves the cache alone; any other one
looks up the owner of its packet's socket. -/
theorem nfqueueIteration_lookup_cases (args : NfqueueArgs) (host : HostAnswers) (now : Instant)
    (tables : SharedTables) (payload : Octets) :
    Exists fun result => nfqueueIteration args host now tables payload = some result ∧
      ((result.lookups = [] ∧ result.tables.pidCache = tables.pidCache) ∨
        Exists fun packet => packetOf args.order payload = some packet ∧
          result.lookups = [packet.socket] ∧
          result.tables.pidCache =
            (getPidFromConnection host now tables.pidCache packet.srcIp packet.srcPort
              packet.isUdp).2) := by
  cases parsed : packetOf args.order payload with
  | none => exact ⟨_, nfqueueIteration_of_unparsed args host now tables parsed, Or.inl ⟨rfl, rfl⟩⟩
  | some packet =>
      by_cases reaches : ReachesPipeline args tables packet
      · refine ⟨_, nfqueueIteration_of_reaches args host now tables parsed reaches, ?_⟩
        by_cases dns : packet.DirectDns args
        · rw [decisionPipeline_of_directDns args host now tables dns]
          exact Or.inl ⟨rfl, rfl⟩
        · refine Or.inr ⟨packet, rfl, lookups_decisionPipeline args host now tables dns, ?_⟩
          change (matchPacket args host now tables.pidCache packet).pidCache = _
          exact congrArg Matched.pidCache (if_neg dns)
      · exact ⟨_, nfqueueIteration_of_not_reaches args host now tables parsed reaches,
          Or.inl ⟨rfl, rfl⟩⟩

/-- What an iteration does to the cache and to the log of sightings: nothing to
either, or the same entry to both. -/
theorem packet_sighting_cases {world : SocketWorld} {args : NfqueueArgs} {host : HostAnswers}
    {payload : Octets} (truthful : Truthful world (.loop (.packet args host payload))) :
    let next := socketStep world (.loop (.packet args host payload))
    next.loop.now = world.loop.now ∧
      ((next.seen = world.seen ∧ next.loop.tables.pidCache = world.loop.tables.pidCache) ∨
        Exists fun socket : PidCacheKey => Exists fun pid =>
          next.seen = ⟨world.loop.now, socket, pid⟩ :: world.seen ∧
            next.loop.tables.pidCache = world.loop.tables.pidCache.put world.loop.now socket.srcIp
              socket.srcPort pid socket.isUdp) := by
  rcases nfqueueIteration_lookup_cases args host world.loop.now world.loop.tables payload with
    ⟨result, completed, lookup⟩
  simp only [socketStep, loopStep, completed, true_and]
  rcases lookup with ⟨unasked, kept⟩ | ⟨packet, parsed, asked, found⟩
  · have unseen : sightingOf world args host payload = none := by
      simp [sightingOf, completed, unasked]
    rw [unseen]
    exact Or.inl ⟨rfl, kept⟩
  · have lookup := getPidFromConnection_eq host world.loop.now world.loop.tables.pidCache
      packet.socket
    change getPidFromConnection host world.loop.now world.loop.tables.pidCache packet.srcIp
      packet.srcPort packet.isUdp = _ at lookup
    rw [found, lookup]
    cases cached : world.loop.tables.pidCache.get world.loop.now packet.socket.srcIp
        packet.socket.srcPort packet.socket.isUdp with
    | some pid =>
        have unseen : sightingOf world args host payload = none := by
          simp [sightingOf, completed, asked, cached]
        rw [unseen]
        exact Or.inl ⟨rfl, rfl⟩
    | none =>
        by_cases unknown : host.owner packet.socket = 0
        · have unseen : sightingOf world args host payload = none := by
            simp [sightingOf, completed, asked, unknown]
          rw [unseen]
          simp [unknown]
        · have owned := (truthful packet parsed).resolve_left unknown
          have sighted : sightingOf world args host payload =
              some ⟨world.loop.now, packet.socket, host.owner packet.socket⟩ := by
            simp [sightingOf, completed, asked, owned, cached, unknown]
          rw [sighted]
          exact Or.inr ⟨packet.socket, host.owner packet.socket, rfl, if_pos unknown⟩

theorem cacheMatches_socketStep (world : SocketWorld) (event : SocketEvent)
    (matched : CacheMatches world) (truthful : Truthful world event) :
    CacheMatches (socketStep world event) := by
  intro later after socket
  cases event with
  | opened other pid => exact matched later after socket
  | closed other => exact matched later after socket
  | loop event =>
      cases event with
      | cleanupConnections => exact matched later after socket
      | cleanupPids =>
          exact (PidCache.get_cleanup _ after _ _ _).trans (matched later after socket)
      | advance nanos => exact matched later (le_trans (Nat.le_add_right _ _) after) socket
      | packet args host payload =>
          rcases packet_sighting_cases truthful with
            ⟨same, ⟨unseen, kept⟩ | ⟨other, pid, sighted, put⟩⟩
          · rw [unseen, kept]
            exact matched later (same ▸ after) socket
          · rw [sighted, put, remembered]
            by_cases here : socket = other
            · rw [if_pos here, here]
              exact PidCache.get_put_self _ _ _ _ _
            · rw [if_neg here, PidCache.get_put_of_ne _ _ _ _ here]
              exact matched later (same ▸ after) socket

/-! ## Packets of the bridge -/

/-- As a packet of this process, the packet is let pass unmarked: the process is
unknown or the bridge, no rule is against it, or a rule would send it to the
proxy but a guard holds it back. -/
def PassesAs (args : NfqueueArgs) (host : HostAnswers) (packet : Packet) (pid : UInt32) : Prop :=
  pid = 0 ∨ pid = args.currentPid ∨
    forall name, getProcessName host pid = some name ->
      let matched := args.ruleEngine.matchRule name packet.destIp packet.destPort packet.isUdp
      matched = .direct ∨ (matched = .proxy ∧ Withheld args.proxyConfig packet)

theorem staysDirect_iff (args : NfqueueArgs) (host : HostAnswers) (now : Instant)
    (cache : PidCache) (packet : Packet) :
    StaysDirect args host now cache packet <->
      packet.DirectDns args ∨ PassesAs args host packet
        (getPidFromConnection host now cache packet.srcIp packet.srcPort packet.isUdp).1 :=
  Iff.rfl

/-- A packet that leaves a socket of the bridge is accepted without a mark. -/
def OwnPacketPasses (world : SocketWorld) : SocketEvent -> Prop
  | .loop (.packet args host payload) =>
      forall packet, packetOf args.order payload = some packet ->
        world.owners.get packet.socket = some args.currentPid ->
          Exists fun result =>
            nfqueueIteration args host world.loop.now world.loop.tables payload = some result ∧
              result.issued = [⟨.accept, none⟩]
  | _ => True

/-- Where the owner of a packet of the bridge is looked up, no owner of the
socket is remembered from before, or the packet would pass as that owner's. -/
def NoStaleOwner (world : SocketWorld) : SocketEvent -> Prop
  | .loop (.packet args host payload) =>
      forall packet, packetOf args.order payload = some packet ->
        world.owners.get packet.socket = some args.currentPid ->
          AsksOwner args world.loop.tables packet ->
            forall pid, remembered world.loop.now packet.socket world.seen = some pid ->
              PassesAs args host packet pid
  | _ => True

/-- A packet of the bridge stays direct exactly when it passes as any owner that
is remembered. -/
theorem passesAs_own_iff {world : SocketWorld} (matched : CacheMatches world)
    {args : NfqueueArgs} {host : HostAnswers} {packet : Packet}
    (named : host.owner packet.socket = 0 ∨ host.owner packet.socket = args.currentPid) :
    PassesAs args host packet (getPidFromConnection host world.loop.now world.loop.tables.pidCache
        packet.srcIp packet.srcPort packet.isUdp).1 <->
      forall pid, remembered world.loop.now packet.socket world.seen = some pid ->
        PassesAs args host packet pid := by
  have lookup := getPidFromConnection_eq host world.loop.now world.loop.tables.pidCache
    packet.socket
  rw [matched world.loop.now (le_refl _) packet.socket] at lookup
  change getPidFromConnection host world.loop.now world.loop.tables.pidCache packet.srcIp
    packet.srcPort packet.isUdp = _ at lookup
  rw [lookup]
  cases remembered world.loop.now packet.socket world.seen with
  | none =>
      refine iff_of_true ?_ (fun _ impossible => by cases impossible)
      rcases named with unknown | own
      · exact Or.inl unknown
      · exact Or.inr (Or.inl own)
  | some pid =>
      constructor
      · intro passes other same
        cases same
        exact passes
      · intro passes
        exact passes pid rfl

theorem ownPacketPasses_iff (world : SocketWorld) (event : SocketEvent)
    (matched : CacheMatches world) (truthful : Truthful world event) :
    OwnPacketPasses world event <-> NoStaleOwner world event := by
  cases event with
  | opened socket pid => exact Iff.rfl
  | closed socket => exact Iff.rfl
  | loop event =>
      cases event with
      | cleanupConnections => exact Iff.rfl
      | cleanupPids => exact Iff.rfl
      | advance nanos => exact Iff.rfl
      | packet args host payload =>
          apply forall_congr'
          intro packet
          apply forall_congr'
          intro parsed
          apply forall_congr'
          intro own
          have named : host.owner packet.socket = 0 ∨
              host.owner packet.socket = args.currentPid := by
            rcases truthful packet parsed with unknown | owned
            · exact Or.inl unknown
            · exact Or.inr (Option.some.inj (owned.symm.trans own))
          by_cases reaches : ReachesPipeline args world.loop.tables packet
          · have completed :=
              nfqueueIteration_of_reaches args host world.loop.now world.loop.tables parsed reaches
            simp only [completed, Option.some.injEq, exists_eq_left']
            rw [issued_eq_accept_iff, staysDirect_iff, passesAs_own_iff matched named]
            by_cases dns : packet.DirectDns args
            · refine iff_of_true (Or.inl dns) ?_
              intro asks
              exact absurd dns asks.2
            · constructor
              · intro passes _
                exact passes.resolve_left dns
              · intro passes
                exact Or.inr (passes ⟨reaches, dns⟩)
          · have completed :=
              nfqueueIteration_of_not_reaches args host world.loop.now world.loop.tables parsed
                reaches
            refine iff_of_true ⟨_, completed, rfl⟩ ?_
            intro asks
            exact absurd asks.1 reaches

/-- In every run in which the host tells the truth, all packets of the bridge
pass exactly when none of them comes while another owner of its socket is
remembered whose packets would not pass. -/
theorem ownPacketsPass_iff (events : List SocketEvent)
    (truthful : StepsMeet socketStep Truthful .initial events) :
    StepsMeet socketStep OwnPacketPasses .initial events <->
      StepsMeet socketStep NoStaleOwner .initial events :=
  stepsMeet_congr_of_stepsMeet socketStep ownPacketPasses_iff cacheMatches_socketStep
    (fun _ _ _ => rfl) truthful

/-! In the two runs below the rules block everything, the bridge is process 9,
and its packet leaves 10.0.0.2:4096 as a query. -/

def querySocket : PidCacheKey where
  srcIp := 0x0200000A
  srcPort := 4096
  isUdp := true

/-- Every socket belongs to process 9. -/
def bridgeHost : HostAnswers :=
  { systemdHost with pidViaNetlink := fun _ _ _ => some 9 }

theorem socket_of_dnsQuery {packet : Packet} (parsed : packetOf .little dnsQuery = some packet) :
    packet.socket = querySocket := by
  have read : packetOf .little dnsQuery =
      some ⟨0x0200000A, 0x08080808, 4096, 53, false, false⟩ := rfl
  rw [← Option.some.inj (read.symm.trans parsed)]
  rfl

/-- The bridge opens a socket that nobody has used, and its query passes. -/
theorem own_query_passes :
    StepsMeet socketStep OwnPacketPasses .initial
      [.opened querySocket 9, .loop (.packet (blockingArgs true) bridgeHost dnsQuery)] := by
  have truthful : StepsMeet socketStep Truthful .initial
      [.opened querySocket 9, .loop (.packet (blockingArgs true) bridgeHost dnsQuery)] := by
    refine ⟨trivial, ?_, trivial⟩
    intro packet parsed
    rw [socket_of_dnsQuery parsed]
    exact Or.inr rfl
  refine (ownPacketsPass_iff _ truthful).mpr ⟨trivial, ?_, trivial⟩
  intro packet parsed own asks pid impossible
  cases impossible

/-- Another process has queried from the same port before; its PID is still
cached, and the query of the bridge is dropped. -/
theorem own_query_is_dropped :
    Not (forall events, StepsMeet socketStep Truthful .initial events ->
      StepsMeet socketStep OwnPacketPasses .initial events) := by
  intro passes
  let events : List SocketEvent :=
    [.opened querySocket 1, .loop (.packet (blockingArgs true) systemdHost dnsQuery),
      .closed querySocket, .opened querySocket 9,
      .loop (.packet (blockingArgs true) bridgeHost dnsQuery)]
  have truthful : StepsMeet socketStep Truthful .initial events := by
    refine ⟨trivial, ?_, trivial, trivial, ?_, trivial⟩
    · intro packet parsed
      rw [socket_of_dnsQuery parsed]
      exact Or.inr rfl
    · intro packet parsed
      rw [socket_of_dnsQuery parsed]
      exact Or.inr rfl
  have last := (passes events truthful).2.2.2.2.1
  rcases last _ rfl rfl with ⟨result, completed, issued⟩
  cases completed
  cases issued

end ProxyBridge
