import ProxyBridge.Foundation.Runs
import ProxyBridge.Linux.PacketSafety

namespace ProxyBridge

open Foundation Text

/-!
# The packet loop over time

Packets, clean-ups and the passing of time act on the shared tables one after
the other.  The loop keeps a log beside its state, of every packet it marked and
of every clean-up of the tracker.  The log determines what is tracked: a source
port is tracked exactly while its last mark has survived every later clean-up
(`isTracked_eq_liveMark`).

The early exit for tracked connections asks for the source port alone.  A packet
of another flow takes it whenever its port number carries a live mark, and then
it passes, whatever the rules say about it.
-/

/-- What a connection is to the kernel: the protocol and both ends. -/
structure Flow where
  isTcp : Bool
  srcIp : UInt32
  srcPort : UInt16
  destIp : UInt32
  destPort : UInt16
  deriving DecidableEq

def Packet.flow (packet : Packet) : Flow where
  isTcp := packet.isTcp
  srcIp := packet.srcIp
  srcPort := packet.srcPort
  destIp := packet.destIp
  destPort := packet.destPort

/-- A packet is taken from the queue, one of the two tables is cleaned up, or
time passes.  The two clean-ups are separate calls of the clean-up task. -/
inductive LoopEvent where
  | packet (args : NfqueueArgs) (host : HostAnswers) (payload : Octets)
  | cleanupConnections
  | cleanupPids
  | advance (nanos : Nat)

inductive LogEntry where
  | marked (now : Instant) (flow : Flow)
  | cleaned (now : Instant)

/-- The state of the loop, and the log with its latest entry first. -/
structure LoopState where
  now : Instant
  tables : SharedTables
  log : List LogEntry

namespace LoopState

def initial : LoopState where
  now := 0
  tables := ⟨.new, .new⟩
  log := []

end LoopState

/-- The flow of the packet that an iteration marks. -/
def markedFlow (state : LoopState) (args : NfqueueArgs) (host : HostAnswers) (payload : Octets) :
    Option Flow := do
  let result ← nfqueueIteration args host state.now state.tables payload
  let packet ← packetOf args.order payload
  if result.issued.any (fun issued => issued.mark.isSome) then some packet.flow else none

def loopStep (state : LoopState) : LoopEvent -> LoopState
  | .packet args host payload =>
      match nfqueueIteration args host state.now state.tables payload with
      | none => state
      | some result =>
          { state with
            tables := result.tables
            log := match markedFlow state args host payload with
              | some flow => .marked state.now flow :: state.log
              | none => state.log }
  | .cleanupConnections =>
      { state with
        tables.connTracker := state.tables.connTracker.cleanupStale state.now
        log := .cleaned state.now :: state.log }
  | .cleanupPids =>
      { state with tables.pidCache := state.tables.pidCache.cleanup state.now }
  | .advance nanos => { state with now := state.now + nanos }

/-- When the live mark on a port was set.  A mark lasts until a clean-up that
finds it as old as the connection timeout. -/
def liveMark (port : UInt16) : List LogEntry -> Option Instant
  | [] => none
  | .marked now flow :: earlier => if port = flow.srcPort then some now else liveMark port earlier
  | .cleaned now :: earlier =>
      (liveMark port earlier).filter
        (fun stamp => decide (elapsedMillis now stamp < connectionTimeoutMs))

/-- The live mark on a port, with the flow of the packet that it was set for. -/
def liveFlow (port : UInt16) : List LogEntry -> Option (Instant × Flow)
  | [] => none
  | .marked now flow :: earlier =>
      if port = flow.srcPort then some (now, flow) else liveFlow port earlier
  | .cleaned now :: earlier =>
      (liveFlow port earlier).filter
        (fun live => decide (elapsedMillis now live.1 < connectionTimeoutMs))

/-- The entry that a marked packet leaves. -/
def entryOf (live : Instant × Flow) : ConnectionInfo where
  srcIp := live.2.srcIp
  srcPort := live.2.srcPort
  origDestIp := live.2.destIp
  origDestPort := live.2.destPort
  lastActivity := live.1

/-- No packet of the flow has been marked. -/
def Fresh (flow : Flow) (log : List LogEntry) : Prop :=
  forall now, .marked now flow ∉ log

/-- The log is true: the entries of the tracker are those of the live marks. -/
def EntriesMatch (state : LoopState) : Prop :=
  forall port, state.tables.connTracker.connections.get port =
    (liveFlow port state.log).map entryOf

/-- The time stamps of the tracker are the live marks. -/
def LogMatches (state : LoopState) : Prop :=
  forall port, (state.tables.connTracker.connections.get port).map ConnectionInfo.lastActivity =
    liveMark port state.log

/-! ## Which packets are marked -/

/-- A TCP packet that opens a connection, or a UDP packet. -/
def Packet.Opens (packet : Packet) : Prop :=
  (packet.isTcp = true ∧ packet.isSyn = true) ∨ packet.isUdp = true

/-- Such a packet does not belong to an open connection. -/
theorem not_later_of_opens {packet : Packet} (opens : packet.Opens) :
    Not (packet.isTcp = true ∧ packet.isSyn = false) := by
  rintro ⟨tcp, notSyn⟩
  rcases opens with syn | udp
  · exact Bool.false_ne_true (notSyn.symm.trans syn.2)
  · rw [Packet.isUdp, tcp] at udp
    cases udp

/-- One of the four guards holds a `proxy` back. -/
def Withheld (proxyConfig : ProxyConfig) (packet : Packet) : Prop :=
  isBroadcastOrMulticast packet.destIp = true ∨
    (packet.isUdp = true ∧ (packet.destPort = 67 ∨ packet.destPort = 68)) ∨
    (packet.isUdp = true ∧ proxyConfig.proxyType ≠ .socks5) ∨
    proxyConfig.host = [] ∨ proxyConfig.port = 0

theorem not_withheld_iff (proxyConfig : ProxyConfig) (packet : Packet) :
    Not (Withheld proxyConfig packet) <->
      isBroadcastOrMulticast packet.destIp = false ∧
        (packet.isUdp && (packet.destPort == 67 || packet.destPort == 68)) = false ∧
        (packet.isUdp && proxyConfig.proxyType != .socks5) = false ∧
        (proxyConfig.host.isEmpty || proxyConfig.port == 0) = false := by
  simp only [Withheld, ← Bool.not_eq_true, Bool.and_eq_true, Bool.or_eq_true, beq_iff_eq,
    bne_iff_ne, List.isEmpty_iff, not_or]

/-- A packet that may be marked is not let through early. -/
theorem MayBeMarked.reaches {args : NfqueueArgs} {host : HostAnswers} {now : Instant}
    {tables : SharedTables} {packet : Packet} (mayBe : MayBeMarked args host now tables packet) :
    ReachesPipeline args tables packet := by
  rcases mayBe.owned with ⟨pid, name, _, _, _, _, matched⟩
  refine ⟨?_, mayBe.notTcpRelay, mayBe.notUdpRelay, mayBe.untracked,
    not_later_of_opens mayBe.opening⟩
  by_contra inactive
  have direct := RuleEngine.matchRule_of_not_hasActiveRules name packet.destIp packet.destPort
    packet.isUdp (Bool.eq_false_of_not_eq_true inactive)
  rw [matched] at direct
  cases direct

/-- The conditions for a mark are also sufficient. -/
theorem issued_of_mayBeMarked {args : NfqueueArgs} {host : HostAnswers} {now : Instant}
    {tables : SharedTables} {packet : Packet} {payload : Octets}
    (parsed : packetOf args.order payload = some packet)
    (mayBe : MayBeMarked args host now tables packet) :
    Exists fun result => nfqueueIteration args host now tables payload = some result ∧
      result.issued = [⟨.accept, some (if packet.isTcp then tcpMark else udpMark)⟩] := by
  rcases mayBe.owned with ⟨pid, name, owner, known, other, named, matched⟩
  have action : (matchPacket args host now tables.pidCache packet).action = .proxy := by
    unfold matchPacket
    rw [if_neg mayBe.notDirectDns]
    generalize getPidFromConnection host now tables.pidCache packet.srcIp packet.srcPort packet.isUdp
      = found at owner ⊢
    subst owner
    change (if found.1 = 0 ∨ found.1 = args.currentPid then RuleAction.direct else _) = .proxy
    rw [if_neg (not_or.mpr ⟨known, other⟩), named]
    exact matched
  have decided : decidedAction args host now tables.pidCache packet = .proxy := by
    apply (downgrade_eq_proxy_iff _ _ _).mpr
    refine ⟨action, (not_withheld_iff _ _).mp ?_⟩
    rintro (broadcast | dhcp | http | noHost | noPort)
    · exact Bool.false_ne_true (mayBe.unicast.symm.trans broadcast)
    · exact mayBe.notDhcp dhcp
    · exact mayBe.carried http
    · exact mayBe.hasHost noHost
    · exact mayBe.hasPort noPort
  refine ⟨processPacket args host now tables packet, ?_, ?_⟩
  · rw [nfqueueIteration_eq, parsed]
    exact if_pos mayBe.reaches.1
  · rw [processPacket_of_reaches args host now tables mayBe.reaches]
    change (issueAction now tables.connTracker packet
      (decidedAction args host now tables.pidCache packet)).1 = _
    rw [decided]
    rfl

/-- Some verdict was issued without a mark, and the tracker left alone. -/
def LeavesUnmarked (tables : SharedTables) (result : IterationResult) : Prop :=
  (Exists fun verdict => result.issued = [⟨verdict, none⟩]) ∧
    result.tables.connTracker = tables.connTracker

/-- A packet that may be marked is marked. -/
theorem not_mayBeMarked_of_unmarked {args : NfqueueArgs} {host : HostAnswers} {now : Instant}
    {tables : SharedTables} {payload : Octets} {result : IterationResult} {packet : Packet}
    (completed : nfqueueIteration args host now tables payload = some result)
    (unmarked : LeavesUnmarked tables result) (parsed : packetOf args.order payload = some packet) :
    Not (MayBeMarked args host now tables packet) := by
  intro mayBe
  rcases unmarked with ⟨⟨verdict, issued⟩, _⟩
  rcases issued_of_mayBeMarked parsed mayBe with ⟨other, run, marked⟩
  cases completed.symm.trans run
  cases List.singleton_inj.mp (issued.symm.trans marked)

/-- An iteration marks a packet that may be marked and tracks it, and leaves any
other unmarked. -/
theorem nfqueueIteration_outcome (args : NfqueueArgs) (host : HostAnswers) (now : Instant)
    (tables : SharedTables) (payload : Octets) :
    Exists fun result => nfqueueIteration args host now tables payload = some result ∧
      ((Exists fun packet => packetOf args.order payload = some packet ∧
          MayBeMarked args host now tables packet ∧
          result.issued = [⟨.accept, some (if packet.isTcp then tcpMark else udpMark)⟩] ∧
          result.tables.connTracker = tables.connTracker.add now packet.srcPort packet.srcIp
            packet.destIp packet.destPort) ∨
        LeavesUnmarked tables result) := by
  have passed : LeavesUnmarked tables (passUnmarked tables) := ⟨⟨.accept, rfl⟩, rfl⟩
  rw [nfqueueIteration_eq]
  cases parsed : packetOf args.order payload with
  | none => exact ⟨_, rfl, Or.inr passed⟩
  | some packet =>
      by_cases active : args.ruleEngine.hasActiveRules = true
      · refine ⟨processPacket args host now tables packet, if_pos active, ?_⟩
        rcases processPacket_cases args host now tables packet with early | late
        · rw [early]
          exact Or.inr passed
        · rcases late with ⟨same, notTcpRelay, notUdpRelay, untracked, opening⟩
          rw [same]
          rcases decisionPipeline_cases args host now tables packet with marked | unmarked
          · exact Or.inl ⟨packet, rfl,
              mayBeMarked notTcpRelay notUdpRelay untracked opening marked.1, marked.2.1,
              marked.2.2⟩
          · exact Or.inr unmarked.2
      · exact ⟨_, if_neg active, Or.inr passed⟩

/-- What a packet does to the tracker and to the log: nothing to either, when it
may not be marked, or else the same entry to both. -/
theorem loopStep_packet_cases (state : LoopState) (args : NfqueueArgs) (host : HostAnswers)
    (payload : Octets) :
    let later := loopStep state (.packet args host payload)
    (markedFlow state args host payload = none ∧
        (forall packet, packetOf args.order payload = some packet ->
          Not (MayBeMarked args host state.now state.tables packet)) ∧
        later.tables.connTracker = state.tables.connTracker ∧ later.log = state.log) ∨
      Exists fun packet => packetOf args.order payload = some packet ∧
        MayBeMarked args host state.now state.tables packet ∧
        markedFlow state args host payload = some packet.flow ∧
        later.tables.connTracker = state.tables.connTracker.add state.now packet.srcPort
          packet.srcIp packet.destIp packet.destPort ∧
        later.log = .marked state.now packet.flow :: state.log := by
  rcases nfqueueIteration_outcome args host state.now state.tables payload with
    ⟨result, completed, marked | kept⟩
  · simp only [loopStep, completed]
    rcases marked with ⟨packet, parsed, mayBe, issued, added⟩
    have some : markedFlow state args host payload = some packet.flow := by
      simp [markedFlow, completed, parsed, issued]
    right
    refine ⟨packet, parsed, mayBe, some, added, ?_⟩
    rw [some]
  · simp only [loopStep, completed]
    have mayNot := fun packet => @not_mayBeMarked_of_unmarked args host state.now state.tables
      payload result packet completed kept
    rcases kept with ⟨⟨verdict, issued⟩, same⟩
    have none : markedFlow state args host payload = none := by
      cases parsed : packetOf args.order payload with
      | none => simp [markedFlow, completed, parsed]
      | some packet => simp [markedFlow, completed, parsed, issued]
    left
    refine ⟨none, mayNot, same, ?_⟩
    rw [none]

theorem entriesMatch_loopStep (state : LoopState) (event : LoopEvent)
    (matched : EntriesMatch state) : EntriesMatch (loopStep state event) := by
  intro port
  cases event with
  | packet args host payload =>
      rcases loopStep_packet_cases state args host payload with unmarked | marked
      · rcases unmarked with ⟨_, _, kept, logged⟩
        rw [kept, logged]
        exact matched port
      · rcases marked with ⟨packet, _, _, _, added, logged⟩
        rw [added, logged, liveFlow, ConnectionTracker.add]
        change _ = Option.map entryOf
          (if port = packet.srcPort then some (state.now, packet.flow) else liveFlow port state.log)
        by_cases same : port = packet.srcPort
        · rw [if_pos same, same, KeyedStore.get_insert_self]
          rfl
        · rw [if_neg same, KeyedStore.get_insert_of_ne _ _ same]
          exact matched port
  | cleanupConnections =>
      change (state.tables.connTracker.cleanupStale state.now).connections.get port =
        ((liveFlow port state.log).filter _).map entryOf
      rw [ConnectionTracker.connections_cleanupStale, matched port, Option.filter_map]
      rfl
  | cleanupPids => exact matched port
  | advance nanos => exact matched port

theorem entriesMatch_run (events : List LoopEvent) :
    EntriesMatch (run loopStep .initial events) :=
  run_invariant loopStep (fun _ => rfl) entriesMatch_loopStep events

/-- A live mark is the time of a live flow. -/
theorem liveMark_eq_liveFlow (port : UInt16) (log : List LogEntry) :
    liveMark port log = (liveFlow port log).map Prod.fst := by
  induction log with
  | nil => rfl
  | cons entry earlier ih =>
      cases entry with
      | marked now flow =>
          rw [liveMark, liveFlow]
          by_cases same : port = flow.srcPort
          · rw [if_pos same, if_pos same, Option.map_some]
          · rw [if_neg same, if_neg same, ih]
      | cleaned now =>
          rw [liveMark, liveFlow, ih, Option.filter_map]
          rfl

theorem logMatches_of_entriesMatch {state : LoopState} (matched : EntriesMatch state) :
    LogMatches state := by
  intro port
  rw [matched port, liveMark_eq_liveFlow, Option.map_map]
  rfl

/-- In every reachable state, what is tracked follows from the log alone. -/
theorem isTracked_eq_liveMark (events : List LoopEvent) (port : UInt16) :
    let state := run loopStep .initial events
    state.tables.connTracker.isTracked port = (liveMark port state.log).isSome := by
  intro state
  have matched : LogMatches state := logMatches_of_entriesMatch (entriesMatch_run events)
  rw [← matched port, Option.isSome_map]
  rfl

/-! ## The early exit for tracked connections -/

/-- The packet leaves one of the two relays. -/
def Packet.FromRelay (packet : Packet) : Prop :=
  (packet.isTcp = true ∧ packet.srcPort = localProxyPort) ∨
    (packet.isUdp = true ∧ packet.srcPort = localUdpRelayPort)

/-- Nothing is to be done about the packet: it is a DNS query that stays
direct, its owner is unknown or this process, no rule is against it, or a rule
would send it to the proxy but a guard holds it back. -/
def StaysDirect (args : NfqueueArgs) (host : HostAnswers) (now : Instant) (cache : PidCache)
    (packet : Packet) : Prop :=
  let pid := (getPidFromConnection host now cache packet.srcIp packet.srcPort packet.isUdp).1
  (packet.destPort = 53 ∧ args.dnsViaProxy = false) ∨ pid = 0 ∨ pid = args.currentPid ∨
    forall name, getProcessName host pid = some name ->
      let matched := args.ruleEngine.matchRule name packet.destIp packet.destPort packet.isUdp
      matched = .direct ∨ (matched = .proxy ∧ Withheld args.proxyConfig packet)

theorem eq_direct_iff (action : RuleAction) :
    action = .direct <-> action ≠ .proxy ∧ action ≠ .block := by
  cases action with
  | direct => decide
  | proxy => decide
  | block => decide

theorem downgrade_eq_direct_iff (proxyConfig : ProxyConfig) (packet : Packet)
    (matched : RuleAction) :
    downgrade proxyConfig packet matched = .direct <->
      matched = .direct ∨ (matched = .proxy ∧ Withheld proxyConfig packet) := by
  rw [eq_direct_iff, Ne, downgrade_eq_proxy_iff, Ne, downgrade_eq_block_iff, ← not_withheld_iff]
  cases matched with
  | direct => simp
  | proxy => simp
  | block => simp

section Shortcut

variable (args : NfqueueArgs) (host : HostAnswers) (now : Instant) (tables : SharedTables)
  {payload : Octets} {packet : Packet}

theorem decidedAction_eq_direct_iff (cache : PidCache) :
    decidedAction args host now cache packet = .direct <->
      StaysDirect args host now cache packet := by
  rw [decidedAction, downgrade_eq_direct_iff]
  unfold StaysDirect matchPacket
  generalize getPidFromConnection host now cache packet.srcIp packet.srcPort packet.isUdp = owner
  by_cases dns : packet.destPort = 53 ∧ args.dnsViaProxy = false
  · simp [dns]
  · by_cases own : owner.1 = 0 ∨ owner.1 = args.currentPid
    · rcases own with unknown | self
      · simp [dns, unknown]
      · simp [dns, self]
    · have parts := not_or.mp own
      cases named : getProcessName host owner.1 with
      | none => simp [dns, parts.1, parts.2, named]
      | some name => simp [dns, parts.1, parts.2, named]

/-- The pipeline passes a packet unmarked when it stays direct, and only then. -/
theorem issued_eq_accept_iff :
    (decisionPipeline args host now tables packet).issued = [⟨.accept, none⟩] <->
      StaysDirect args host now tables.pidCache packet := by
  rw [← decidedAction_eq_direct_iff]
  change (issueAction now tables.connTracker packet
    (decidedAction args host now tables.pidCache packet)).1 = _ <-> _
  cases decidedAction args host now tables.pidCache packet with
  | direct => exact iff_of_true rfl rfl
  | proxy => exact iff_of_false (by simp [issueAction]) (by decide)
  | block => exact iff_of_false (by simp [issueAction]) (by decide)

/-- Without an enabled rule, everything stays direct. -/
theorem staysDirect_of_inactive (inactive : args.ruleEngine.hasActiveRules = false) :
    StaysDirect args host now tables.pidCache packet := by
  right; right; right
  intro name _
  exact Or.inl (RuleEngine.matchRule_of_not_hasActiveRules name packet.destIp packet.destPort
    packet.isUdp inactive)

theorem processPacket_of_shortcut
    (shortcut : packet.FromRelay ∨ tables.connTracker.isTracked packet.srcPort = true) :
    processPacket args host now tables packet = passUnmarked tables := by
  rcases processPacket_cases args host now tables packet with early | late
  · exact early
  · rcases late with ⟨_, notTcpRelay, notUdpRelay, untracked, _⟩
    rcases shortcut with relay | tracked
    · exact absurd relay (not_or.mpr ⟨notTcpRelay, notUdpRelay⟩)
    · rw [untracked] at tracked
      cases tracked

/-- A packet that opens a flow is treated as the pipeline would treat it exactly
when it reaches the pipeline, or would be passed there too. -/
theorem issued_eq_pipeline_iff (parsed : packetOf args.order payload = some packet)
    (opens : packet.Opens) :
    (Exists fun result => nfqueueIteration args host now tables payload = some result ∧
        result.issued = (decisionPipeline args host now tables packet).issued) <->
      StaysDirect args host now tables.pidCache packet ∨
        (Not packet.FromRelay ∧ tables.connTracker.isTracked packet.srcPort = false) := by
  have passes : (Exists fun result => some (passUnmarked tables) = some result ∧
      result.issued = (decisionPipeline args host now tables packet).issued) <->
        StaysDirect args host now tables.pidCache packet := by
    rw [← issued_eq_accept_iff]
    constructor
    · rintro ⟨result, same, issued⟩
      cases same
      exact issued.symm
    · intro accepted
      exact ⟨_, rfl, accepted.symm⟩
  rw [nfqueueIteration_eq, parsed]
  by_cases active : args.ruleEngine.hasActiveRules = true
  · simp only [if_pos active]
    by_cases shortcut : packet.FromRelay ∨ tables.connTracker.isTracked packet.srcPort = true
    · rw [processPacket_of_shortcut args host now tables shortcut, passes]
      have notReached : Not (Not packet.FromRelay ∧
          tables.connTracker.isTracked packet.srcPort = false) := by
        rw [← Bool.not_eq_true, ← not_or, not_not]
        exact shortcut
      exact (or_iff_left notReached).symm
    · have parts := not_or.mp shortcut
      have untracked := Bool.eq_false_of_not_eq_true parts.2
      have relay := not_or.mp parts.1
      rw [processPacket_of_reaches args host now tables
        ⟨active, relay.1, relay.2, untracked, not_later_of_opens opens⟩]
      exact iff_of_true ⟨_, rfl, rfl⟩ (Or.inr ⟨parts.1, untracked⟩)
  · have inactive := Bool.eq_false_of_not_eq_true active
    simp only [if_neg active]
    have direct : StaysDirect args host now tables.pidCache packet :=
      staysDirect_of_inactive args host now tables inactive
    exact iff_of_true (passes.mpr direct) (Or.inl direct)

end Shortcut

/-- A packet that opens a flow, of which no packet has been marked before, gets
the verdict and the mark of the decision pipeline. -/
def ShortcutSound (state : LoopState) (args : NfqueueArgs) (host : HostAnswers)
    (payload : Octets) : Prop :=
  forall packet, packetOf args.order payload = some packet -> packet.Opens ->
    Fresh packet.flow state.log ->
      Exists fun result => nfqueueIteration args host state.now state.tables payload = some result ∧
        result.issued = (decisionPipeline args host state.now state.tables packet).issued

/-- In every reachable state, the early exit is sound for exactly those packets
that stay direct anyway, or come neither from a relay nor from a source port
with a live mark, of whatever flow the mark was. -/
theorem shortcutSound_iff (events : List LoopEvent) (args : NfqueueArgs) (host : HostAnswers)
    (payload : Octets) :
    let state := run loopStep .initial events
    ShortcutSound state args host payload <->
      forall packet, packetOf args.order payload = some packet -> packet.Opens ->
        Fresh packet.flow state.log ->
          StaysDirect args host state.now state.tables.pidCache packet ∨
            (Not packet.FromRelay ∧ liveMark packet.srcPort state.log = none) := by
  intro state
  apply forall_congr'
  intro packet
  apply forall_congr'
  intro parsed
  apply forall_congr'
  intro opens
  apply forall_congr'
  intro _
  rw [issued_eq_pipeline_iff args host state.now state.tables parsed opens,
    isTracked_eq_liveMark events, Option.isSome_eq_false_iff, Option.isNone_iff_eq_none]

/-! The rules of the counterexample send UDP through the proxy and block TCP. -/

def mixedArgs : NfqueueArgs :=
  { blockingArgs true with
    ruleEngine := ⟨[
      { blockEverything with protocol := .udp, action := .proxy },
      { blockEverything with id := 2, protocol := .tcp }]⟩ }

/-- The opening packet of a TCP connection from 10.0.0.2:4096 to 1.2.3.4:443. -/
def synPacket : Octets :=
  [0x45, 0, 0, 40, 0, 0, 0, 0, 64, 6, 0, 0, 10, 0, 0, 2, 1, 2, 3, 4, 0x10, 0, 1, 0xBB,
    0, 0, 0, 1, 0, 0, 0, 0, 0x50, 2, 0, 0, 0, 0, 0, 0]

/-- A DNS query through the proxy opens its source port to blocked TCP
connections. -/
theorem shortcut_passes_blocked_syn :
    Not (forall (events : List LoopEvent) (args : NfqueueArgs) (host : HostAnswers)
      (payload : Octets), ShortcutSound (run loopStep .initial events) args host payload) := by
  intro sound
  let events := [LoopEvent.packet mixedArgs systemdHost dnsQuery]
  have fresh : Fresh (Flow.mk true 0x0200000A 4096 0x04030201 443)
      (run loopStep .initial events).log := by
    intro now marked
    have only : (run loopStep .initial events).log =
        [.marked 0 ⟨false, 0x0200000A, 4096, 0x08080808, 53⟩] := rfl
    rw [only] at marked
    cases List.mem_singleton.mp marked
  rcases sound events mixedArgs systemdHost synPacket _ rfl (Or.inl ⟨rfl, rfl⟩) fresh with
    ⟨result, completed, issued⟩
  cases completed
  cases issued

end ProxyBridge
