import ProxyBridge.Linux.NetfilterRuns
import ProxyBridge.Linux.OwnerLookup
import ProxyBridge.Linux.PacketLoop

namespace ProxyBridge

open Foundation Text Octets PacketFilter

/-!
# The way of an outgoing packet

A packet that leaves the host goes through the chains of the program's table, if
the table is there: TCP and UDP packets wait for the packet loop, and a new
connection is redirected by the mark that its first packet then carries.  What the
tables of other programs do to the packet is left aside.

The rules name the protocols and the marks by numbers of their own and give the
ports as bytes.  They agree with the packet loop: a new connection goes to the
relay of its protocol exactly when the loop marks its first packet, and is lost
exactly when the loop drops it (`firstPacket_fate`).
-/

/-- The kernel takes the packet for TCP or UDP. -/
def OutPacket.IsQueued (packet : OutPacket) : Prop :=
  packet.l4Proto = 6 ∨ packet.l4Proto = 17

instance (packet : OutPacket) : Decidable packet.IsQueued :=
  inferInstanceAs (Decidable (_ ∨ _))

/-- What is relied on of the kernel when packets are sent: the laws, and how it
loads the two fields that the rules compare.  The crate lays constants out in the
same way. -/
structure PassesPackets (filter : NetFilter) (args : NetfilterArgs) : Prop where
  laws : filter.PassLaws
  l4Proto : forall packet, (filter.load packet .l4Proto).take 1 = [packet.l4Proto]
  mark : forall packet, (filter.load packet .mark).take 4 = toNeBytes args.order packet.mark
  native : args.encoding.Native args.order

/-- A packet through the program's table. -/
def passOutput (filter : NetFilter) (ruleset : filter.Ruleset) (listeners : Listeners OutPacket)
    (passage : Passage OutPacket) : Option (Passage OutPacket) :=
  (filter.table ruleset tableName).elim (some passage) (fun table =>
    filter.passTable listeners table .output passage)

/-- The relay that the connection of a packet is redirected to. -/
def redirection (args : NetfilterArgs) (packet : OutPacket) : Option NatDecision :=
  if packet.l4Proto = 6 ∧ packet.mark = 1 then some (.redirected (some args.tcpRelayPort))
  else if packet.l4Proto = 17 ∧ packet.mark = 2 then some (.redirected (some args.udpRelayPort))
  else none

/-- The way of a packet through the table. -/
def relayedPath (args : NetfilterArgs) (listeners : Listeners OutPacket)
    (passage : Passage OutPacket) : Option (Passage OutPacket) :=
  (if passage.packet.IsQueued then passage.enqueue listeners args.queueNum else some passage).map
    (fun last => { last with nat := last.nat.or (redirection args last.packet) })

section Rules

variable {filter : NetFilter} {args : NetfilterArgs} (passes : PassesPackets filter args)
  (packet : OutPacket)
include passes

theorem l4Proto_matches (protocol : UInt8) :
    ((filter.load packet .l4Proto).take (args.encoding.cmpU8 protocol).length =
      args.encoding.cmpU8 protocol) <-> packet.l4Proto = protocol := by
  rw [passes.native.cmpU8]
  change (filter.load packet .l4Proto).take 1 = [protocol] <-> _
  rw [passes.l4Proto, List.singleton_inj]

theorem mark_matches (mark : UInt32) :
    ((filter.load packet .mark).take (args.encoding.cmpU32 mark).length =
      args.encoding.cmpU32 mark) <-> packet.mark = mark := by
  rw [passes.native.cmpU32, length_toNeBytes, passes.mark]
  exact (toNeBytes_injective args.order).eq_iff

/-- The port that the kernel reads is the one that was meant. -/
theorem portIn_immediate (port : UInt16) :
    portIn (args.encoding.immediateU16 (toBe args.order port)) = port := by
  rw [passes.native.immediateU16, toNeBytes16_toBe, portIn]
  change (fromBeBytes (toBeBytes port)).getD 0 = port
  rw [fromBeBytes_toBeBytes, Option.getD_some]

theorem evaluate_queueRule (protocol : UInt8) (registers : Register -> Octets) :
    filter.evaluate packet registers (queueRule args protocol) =
      if packet.l4Proto = protocol then some (.queue args.queueNum) else none := by
  have laws := passes.laws
  simp only [queueRule, l4ProtoIs, List.cons_append, List.nil_append, laws.load, laws.cmpEq,
    laws.queue, Function.update_self, l4Proto_matches passes]

theorem evaluate_redirRule (protocol : UInt8) (mark : UInt32) (port : UInt16)
    (registers : Register -> Octets) :
    filter.evaluate packet registers (redirRule args protocol mark port) =
      if packet.l4Proto = protocol ∧ packet.mark = mark then some (.redirect (some port))
      else none := by
  have laws := passes.laws
  simp only [redirRule, l4ProtoIs, markIs, List.cons_append, List.nil_append, laws.load,
    laws.cmpEq, laws.immediate, laws.redir, Function.update_self, l4Proto_matches passes,
    mark_matches passes, portIn_immediate passes, ite_and]

theorem firstEffect_mangle :
    filter.firstEffect packet [tcpQueueRule args, udpQueueRule args] =
      if packet.IsQueued then some (.queue args.queueNum) else none := by
  unfold Filter.firstEffect tcpQueueRule udpQueueRule OutPacket.IsQueued
  rw [List.findSome?_cons, List.findSome?_cons, evaluate_queueRule passes,
    evaluate_queueRule passes]
  by_cases tcp : packet.l4Proto = 6
  · simp [tcp]
  · by_cases udp : packet.l4Proto = 17
    · simp [udp]
    · simp [tcp, udp]

theorem firstEffect_nat :
    (filter.firstEffect packet [tcpRedirRule args, udpRedirRule args] = none ∧
        redirection args packet = none) ∨
      Exists fun port =>
        filter.firstEffect packet [tcpRedirRule args, udpRedirRule args] =
            some (.redirect port) ∧
          redirection args packet = some (.redirected port) := by
  unfold Filter.firstEffect tcpRedirRule udpRedirRule redirection
  rw [List.findSome?_cons, List.findSome?_cons, evaluate_redirRule passes,
    evaluate_redirRule passes]
  by_cases tcp : packet.l4Proto = 6 ∧ packet.mark = 1
  · rw [if_pos tcp, if_pos tcp]
    exact Or.inr ⟨_, rfl, rfl⟩
  · rw [if_neg tcp, if_neg tcp]
    by_cases udp : packet.l4Proto = 17 ∧ packet.mark = 2
    · rw [if_pos udp, if_pos udp]
      exact Or.inr ⟨_, rfl, rfl⟩
    · rw [if_neg udp, if_neg udp]
      exact Or.inl ⟨rfl, rfl⟩

omit packet in
theorem pass_mangleOutput (listeners : Listeners OutPacket) (passage : Passage OutPacket)
    (copies : Nat) :
    filter.passChain listeners
        ⟨mangleOutput, (List.replicate (copies + 1) [tcpQueueRule args, udpQueueRule args]).flatten⟩
        passage =
      if passage.packet.IsQueued then passage.enqueue listeners args.queueNum
      else some passage := by
  have effect := (Filter.firstEffect_repeated passage.packet
    [tcpQueueRule args, udpQueueRule args] copies).trans (firstEffect_mangle passes passage.packet)
  by_cases queued : passage.packet.IsQueued
  · rw [if_pos queued] at effect ⊢
    exact passes.laws.queued _ _ _ _ (Or.inl Kind.noConfusion) effect
  · rw [if_neg queued] at effect ⊢
    exact passes.laws.undecided _ _ _ (Or.inl Kind.noConfusion) effect rfl

omit packet in
/-- The nat chain decides for a connection that is not decided yet. -/
theorem pass_natOutput (listeners : Listeners OutPacket) (passage : Passage OutPacket)
    (copies : Nat) :
    filter.passChain listeners
        ⟨natOutput, (List.replicate (copies + 1) [tcpRedirRule args, udpRedirRule args]).flatten⟩
        passage =
      some { passage with nat := passage.nat.or (redirection args passage.packet) } := by
  rcases passage with ⟨packet, known⟩
  cases known with
  | some decision =>
      apply passes.laws.notConsidered
      rintro (other | undecided)
      · exact other rfl
      · cases undecided
  | none =>
      have repeated := @Filter.firstEffect_repeated _ _ _ _ _ filter packet
        [tcpRedirRule args, udpRedirRule args] copies
      rw [Option.none_or]
      rcases firstEffect_nat passes packet with ⟨nothing, untouched⟩ | ⟨port, effect, redirected⟩
      · rw [untouched]
        exact passes.laws.undecided _ _ _ (Or.inr rfl) (repeated.trans nothing) rfl
      · rw [redirected]
        exact passes.laws.redirected _ _ _ _ rfl rfl (repeated.trans effect)

omit packet in
theorem passTable_relayTable (listeners : Listeners OutPacket) (passage : Passage OutPacket)
    (copies : Nat) :
    filter.passTable listeners (relayTable args (copies + 1)) .output passage =
      relayedPath args listeners passage := by
  have chains : (relayTable args (copies + 1)).chainsAt .output =
      [⟨mangleOutput, (List.replicate (copies + 1) [tcpQueueRule args, udpQueueRule args]).flatten⟩,
        ⟨natOutput,
          (List.replicate (copies + 1) [tcpRedirRule args, udpRedirRule args]).flatten⟩] := rfl
  have visited := passes.laws.visits listeners (relayTable args (copies + 1)) .output passage
  rw [chains] at visited
  rw [visited (by simp [mangleOutput, natOutput]), relayedPath, List.foldlM_cons,
    pass_mangleOutput passes]
  cases (if passage.packet.IsQueued then passage.enqueue listeners args.queueNum
      else some passage) with
  | none => rfl
  | some middle =>
      simp only [Option.bind_eq_bind, Option.bind_some, List.foldlM_cons, List.foldlM_nil,
        pass_natOutput passes, Option.pure_def, Option.map_some]

omit packet in
/-- In every history of set-ups, clean-ups and crashes, a packet takes the way
through the table or is left as it is, by whether the table is there. -/
theorem passOutput_history (accepts : AcceptsTable filter args) {start : filter.Ruleset}
    (own : OwnTable filter args start) (events : List (NetfilterEvent filter))
    (listeners : Listeners OutPacket) (passage : Passage OutPacket) :
    passOutput filter (run (netfilterStep filter args) start events) listeners passage =
      if installedAfter (installed filter start) events then relayedPath args listeners passage
      else some passage := by
  rw [← installed_run accepts own events, passOutput, installed]
  rcases ownTable_run accepts own events with absent | ⟨copies, present⟩
  · rw [absent]
    rfl
  · rw [present, Option.elim_some, passTable_relayTable passes]
    rfl

omit packet in
/-- While nobody listens on the queue, the table loses TCP and UDP packets as long
as it is there, and touches nothing else. -/
theorem unattended_output (accepts : AcceptsTable filter args) {start : filter.Ruleset}
    (own : OwnTable filter args start) (events : List (NetfilterEvent filter))
    (passage : Passage OutPacket) :
    passOutput filter (run (netfilterStep filter args) start events) (fun _ => none) passage =
      if installedAfter (installed filter start) events = true ∧ passage.packet.IsQueued then none
      else some passage := by
  rw [passOutput_history passes accepts own events]
  cases present : installedAfter (installed filter start) events with
  | false => simp
  | true =>
      rw [if_pos rfl, relayedPath]
      by_cases queued : passage.packet.IsQueued
      · rw [if_pos queued, if_pos ⟨rfl, queued⟩]
        rfl
      · have parts := not_or.mp queued
        have untouched : redirection args passage.packet = none := by
          rw [redirection, if_neg (fun tcp => parts.1 tcp.1), if_neg (fun udp => parts.2 udp.1)]
        rw [if_neg queued, if_neg (fun both => queued both.2), Option.map_some, untouched,
          Option.or_none]

end Rules

/-! ## The packet loop behind the queue -/

/-- What the loop makes of a packet; one that it does not mark keeps its mark. -/
def nfqueueListener (args : NfqueueArgs) (host : HostAnswers) (now : Instant)
    (tables : SharedTables) (packet : OutPacket) : Option OutPacket :=
  match (nfqueueIteration args host now tables packet.payload).map IterationResult.issued with
  | some [⟨.accept, mark⟩] => some { packet with mark := mark.getD packet.mark }
  | _ => none

/-- Somebody listens on one queue. -/
def listening (queueNum : UInt16) (answer : OutPacket -> Option OutPacket) :
    Listeners OutPacket :=
  fun num => if num = queueNum then some answer else none

/-- A packet as applications send it: the kernel takes it for what its headers
say, and it does not carry one of the two marks yet. -/
structure OutPacket.Ordinary (order : ByteOrder) (packet : OutPacket) : Prop where
  agrees : forall parsed, packetOf order packet.payload = some parsed ->
    packet.l4Proto = if parsed.isTcp then 6 else 17
  notTcpMark : packet.mark ≠ tcpMark
  notUdpMark : packet.mark ≠ udpMark

/-- The relay of a protocol. -/
def relayPort (isTcp : Bool) : UInt16 :=
  if isTcp then localProxyPort else localUdpRelayPort

section Fate

variable {args : NfqueueArgs} {host : HostAnswers} {now : Instant} {tables : SharedTables}
  {encoding : NftnlEncoding} {packet : OutPacket}

theorem nfqueueListener_of_issued {result : IterationResult} {issued : Issued}
    (completed : nfqueueIteration args host now tables packet.payload = some result)
    (single : result.issued = [issued]) :
    nfqueueListener args host now tables packet =
      if issued.verdict = .accept then
        some { packet with mark := issued.mark.getD packet.mark }
      else none := by
  rcases issued with ⟨verdict, mark⟩
  unfold nfqueueListener
  rw [completed, Option.map_some, single]
  cases verdict with
  | accept => rfl
  | drop => rfl

theorem drops_iff_of_issued {result : IterationResult} {verdict : Verdict}
    (completed : nfqueueIteration args host now tables packet.payload = some result)
    (single : result.issued = [⟨verdict, none⟩]) :
    Drops args host now tables packet.payload <-> verdict = .drop := by
  constructor
  · rintro ⟨other, run, dropped⟩
    cases completed.symm.trans run
    rw [single] at dropped
    cases List.mem_singleton.mp dropped
    rfl
  · intro drop
    refine ⟨result, completed, ?_⟩
    rw [single, drop]
    exact List.mem_singleton_self _

/-- A packet whose headers cannot be read is not dropped. -/
theorem exists_packetOf_of_drops (dropped : Drops args host now tables packet.payload) :
    Exists fun parsed => packetOf args.order packet.payload = some parsed := by
  cases unparsed : packetOf args.order packet.payload with
  | some parsed => exact ⟨parsed, rfl⟩
  | none =>
      rcases dropped with ⟨result, run, dropped⟩
      cases (nfqueueIteration_of_unparsed args host now tables unparsed).symm.trans run
      cases List.mem_singleton.mp dropped

/-- The way of an ordinary packet through the table and the loop. -/
def loopPath (args : NfqueueArgs) (encoding : NftnlEncoding) (host : HostAnswers) (now : Instant)
    (tables : SharedTables) (passage : Passage OutPacket) : Option (Passage OutPacket) :=
  relayedPath (relayArgs args.order encoding)
    (listening nfqueueNum (nfqueueListener args host now tables)) passage

theorem redirection_of_unmarked (ordinary : packet.Ordinary args.order) :
    redirection (relayArgs args.order encoding) packet = none := by
  unfold redirection
  rw [if_neg (fun tcp => ordinary.notTcpMark tcp.2), if_neg (fun udp => ordinary.notUdpMark udp.2)]

theorem redirection_of_marked (ordinary : packet.Ordinary args.order) {parsed : Packet}
    (read : packetOf args.order packet.payload = some parsed) :
    redirection (relayArgs args.order encoding)
        { packet with mark := if parsed.isTcp then tcpMark else udpMark } =
      some (.redirected (some (relayPort parsed.isTcp))) := by
  have agrees := ordinary.agrees parsed read
  unfold redirection
  cases tcp : parsed.isTcp with
  | true =>
      rw [tcp, if_pos rfl] at agrees
      exact if_pos ⟨agrees, rfl⟩
  | false =>
      rw [tcp, if_neg Bool.false_ne_true] at agrees
      rw [if_neg, if_pos ⟨agrees, rfl⟩]
      · rfl
      · rintro ⟨other, _⟩
        rw [agrees] at other
        cases other

theorem isQueued_of_packetOf (ordinary : packet.Ordinary args.order) {parsed : Packet}
    (read : packetOf args.order packet.payload = some parsed) : packet.IsQueued := by
  have agrees := ordinary.agrees parsed read
  cases tcp : parsed.isTcp with
  | true =>
      rw [tcp] at agrees
      exact Or.inl agrees
  | false =>
      rw [tcp] at agrees
      exact Or.inr agrees

theorem enqueue_listening (queueNum : UInt16) (answer : OutPacket -> Option OutPacket)
    (passage : Passage OutPacket) :
    passage.enqueue (listening queueNum answer) queueNum =
      (answer passage.packet).map (fun packet => { passage with packet := packet }) := by
  rw [Passage.enqueue, listening, if_pos rfl, Option.bind_eq_bind, Option.bind_some]
  cases answer passage.packet with
  | none => rfl
  | some packet => rfl

theorem loopPath_of_queued (known : Option NatDecision) (queued : packet.IsQueued) :
    loopPath args encoding host now tables ⟨packet, known⟩ =
      (nfqueueListener args host now tables packet).map (fun answer =>
        ⟨answer, known.or (redirection (relayArgs args.order encoding) answer)⟩) := by
  rw [loopPath, relayedPath, if_pos queued, relayArgs, enqueue_listening, Option.map_map]
  rfl

/-- A packet that the loop marks is redirected to the relay of its protocol, if
nothing is decided for its connection; any other is lost or goes on as it is. -/
theorem loopPath_cases (host : HostAnswers) (now : Instant) (tables : SharedTables)
    (ordinary : packet.Ordinary args.order) (known : Option NatDecision) :
    let path := loopPath args encoding host now tables ⟨packet, known⟩
    (Exists fun parsed => packetOf args.order packet.payload = some parsed ∧
        MayBeMarked args host now tables parsed ∧
        Not (Drops args host now tables packet.payload) ∧
        (Exists fun result => nfqueueIteration args host now tables packet.payload = some result ∧
          result.tables.connTracker =
            tables.connTracker.add now parsed.srcPort parsed.srcIp parsed.destIp parsed.destPort) ∧
        Exists fun later => path =
          some ⟨later, known.or (some (.redirected (some (relayPort parsed.isTcp))))⟩) ∨
      (forall parsed, packetOf args.order packet.payload = some parsed ->
          Not (MayBeMarked args host now tables parsed)) ∧
        ((Drops args host now tables packet.payload ∧ path = none) ∨
          Not (Drops args host now tables packet.payload) ∧
            path = some ⟨packet, known⟩) := by
  intro path
  have unmarked := @redirection_of_unmarked args encoding packet ordinary
  rcases nfqueueIteration_outcome args host now tables packet.payload with
    ⟨result, completed, marked | kept⟩
  · rcases marked with ⟨parsed, read, mayBe, single, added⟩
    have redirected := @redirection_of_marked args encoding packet ordinary parsed read
    have dropsNot : Not (Drops args host now tables packet.payload) := by
      rintro ⟨other, run, dropped⟩
      cases completed.symm.trans run
      rw [single] at dropped
      cases List.mem_singleton.mp dropped
    left
    refine ⟨parsed, read, mayBe, dropsNot, ⟨result, completed, added⟩,
      { packet with mark := if parsed.isTcp then tcpMark else udpMark }, ?_⟩
    change loopPath _ _ _ _ _ _ = _
    rw [loopPath_of_queued known (isQueued_of_packetOf ordinary read),
      nfqueueListener_of_issued completed single, if_pos rfl, ← redirected]
    rfl
  · right
    refine ⟨fun parsed read => not_mayBeMarked_of_unmarked completed kept read, ?_⟩
    rcases kept with ⟨⟨verdict, single⟩, _⟩
    by_cases queued : packet.IsQueued
    · have asked := @loopPath_of_queued args host now tables encoding packet known queued
      rw [nfqueueListener_of_issued completed single] at asked
      rw [drops_iff_of_issued completed single]
      cases verdict with
      | drop => exact Or.inl ⟨rfl, asked⟩
      | accept =>
          right
          refine ⟨by decide, asked.trans ?_⟩
          change some (Passage.mk packet (known.or (redirection _ packet))) = _
          rw [unmarked, Option.or_none]
    · right
      refine ⟨?_, ?_⟩
      · intro dropped
        rcases exists_packetOf_of_drops dropped with ⟨parsed, read⟩
        exact queued (isQueued_of_packetOf ordinary read)
      · change Option.map _ (if packet.IsQueued then _ else _) = _
        rw [if_neg queued, Option.map_some, unmarked, Option.or_none]

/-- What the table makes of a connection's first packet, once it is there: the
packet is lost exactly when the loop drops it, its connection is redirected exactly
when the loop marks it, to the relay of the protocol, and the loop has then recorded
where it was going. -/
theorem firstPacket_fate {filter : NetFilter}
    (accepts : AcceptsTable filter (relayArgs args.order encoding))
    (passes : PassesPackets filter (relayArgs args.order encoding)) {start : filter.Ruleset}
    (own : OwnTable filter (relayArgs args.order encoding) start)
    (events : List (NetfilterEvent filter))
    (present : installedAfter (installed filter start) events = true)
    (host : HostAnswers) (now : Instant) (tables : SharedTables)
    (ordinary : packet.Ordinary args.order) :
    let fate := passOutput filter
      (run (netfilterStep filter (relayArgs args.order encoding)) start events)
      (listening nfqueueNum (nfqueueListener args host now tables)) ⟨packet, none⟩
    (fate = none <-> Drops args host now tables packet.payload) ∧
      forall port, (Exists fun last => fate = some last ∧ last.nat = some (.redirected port)) <->
        Exists fun parsed => packetOf args.order packet.payload = some parsed ∧
          MayBeMarked args host now tables parsed ∧ port = some (relayPort parsed.isTcp) ∧
          Exists fun result => nfqueueIteration args host now tables packet.payload = some result ∧
            result.tables.connTracker.get parsed.srcPort =
              some (parsed.destIp, parsed.destPort) := by
  intro fate
  have path : fate = loopPath args encoding host now tables ⟨packet, none⟩ := by
    change passOutput _ _ _ _ = _
    rw [passOutput_history passes accepts own events, present, if_pos rfl]
    rfl
  rcases @loopPath_cases args encoding packet host now tables ordinary none with marked | kept
  · rcases marked with ⟨parsed, read, mayBe, dropsNot, ⟨result, completed, added⟩, later, went⟩
    have fated := path.trans went
    refine ⟨iff_of_false ?_ dropsNot, ?_⟩
    · rw [fated]
      exact Option.some_ne_none _
    · intro port
      constructor
      · rintro ⟨last, same, redirected⟩
        cases fated.symm.trans same
        cases redirected
        refine ⟨parsed, read, mayBe, rfl, result, completed, ?_⟩
        rw [added, ConnectionTracker.get_add_self]
      · rintro ⟨other, readOther, _, rfl, _⟩
        cases read.symm.trans readOther
        exact ⟨_, fated, rfl⟩
  · rcases kept with ⟨mayNot, ⟨dropped, lost⟩ | ⟨dropsNot, went⟩⟩
    · have fated := path.trans lost
      refine ⟨iff_of_true fated dropped, ?_⟩
      intro port
      refine iff_of_false ?_ ?_
      · rintro ⟨last, same, _⟩
        cases fated.symm.trans same
      · rintro ⟨parsed, read, mayBe, _⟩
        exact mayNot parsed read mayBe
    · have fated := path.trans went
      refine ⟨iff_of_false ?_ dropsNot, ?_⟩
      · rw [fated]
        exact Option.some_ne_none _
      · intro port
        refine iff_of_false ?_ ?_
        · rintro ⟨last, same, redirected⟩
          cases fated.symm.trans same
          cases redirected
        · rintro ⟨parsed, read, mayBe, _⟩
          exact mayNot parsed read mayBe

end Fate

theorem ordinary_dnsQuery : OutPacket.Ordinary .little ⟨17, 0, dnsQuery⟩ where
  agrees := by
    intro parsed other
    have read : packetOf .little dnsQuery =
      some ⟨0x0200000A, 0x08080808, 4096, 53, false, false⟩ := rfl
    cases read.symm.trans other
    rfl
  notTcpMark := by decide
  notUdpMark := by decide

theorem passesPackets_kernelFilter (order : ByteOrder) :
    PassesPackets (kernelFilter order) (relayArgs order (.native order)) where
  laws := passLaws_machine
  l4Proto := fun _ => rfl
  mark := by
    intro packet
    change (toNeBytes order packet.mark).take 4 = _
    rw [← length_toNeBytes order packet.mark, List.take_length]
    rfl
  native := ⟨fun _ => rfl, fun _ => rfl, fun _ => rfl⟩

/-- The fate of the packet of a process whose rules say so: a set-up over the
rules of a run that crashed, and a query from 10.0.0.2. -/
theorem firstPacket_fate_query :
    let filter := kernelFilter .little
    let answers : BatchAnswers := ⟨none, none, true, [.block .stop]⟩
    let start : filter.Ruleset := KeyedStore.empty
    let ruleset := run (netfilterStep filter (relayArgs .little (.native .little))) start
      [.setup answers answers, .setup answers answers]
    Exists fun last => passOutput filter ruleset
        (listening nfqueueNum (nfqueueListener mixedArgs systemdHost 0 ⟨.new, .new⟩))
        ⟨⟨17, 0, dnsQuery⟩, none⟩ = some last ∧
      last.nat = some (.redirected (some localUdpRelayPort)) := by
  intro filter answers start ruleset
  let query : Packet := ⟨0x0200000A, 0x08080808, 4096, 53, false, false⟩
  have read : packetOf .little dnsQuery = some query := rfl
  have marked : MayBeMarked mixedArgs systemdHost 0 ⟨.new, .new⟩ query :=
    { opening := Or.inr rfl
      notTcpRelay := by decide
      notUdpRelay := by decide
      untracked := rfl
      notDirectDns := by decide
      owned := ⟨1, "systemd".toList, rfl, by decide, by decide, rfl, rfl⟩
      unicast := by decide
      notDhcp := by decide
      carried := by decide
      hasHost := by decide
      hasPort := by decide }
  have fate := @firstPacket_fate mixedArgs (.native .little) ⟨17, 0, dnsQuery⟩ filter
    (acceptsTable_kernelFilter .little _) (passesPackets_kernelFilter .little) start (Or.inl rfl)
    [.setup answers answers, .setup answers answers] rfl systemdHost 0 ⟨.new, .new⟩
    ordinary_dnsQuery
  exact (fate.2 _).mpr ⟨query, read, marked, rfl, _, rfl, rfl⟩

end ProxyBridge
