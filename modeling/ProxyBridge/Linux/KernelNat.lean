import ProxyBridge.Foundation.Conntrack
import ProxyBridge.Linux.OutputPath
import ProxyBridge.Linux.RelayFidelity

namespace ProxyBridge

open Foundation Text Octets PacketFilter

/-!
# The kernel's decisions for flows

`World` takes the kernel's table of redirected flows for granted: a flow is
redirected if its first packet was marked.  Here the decisions come from the rules
that the program installs, and the kernel keeps them for its connections.  Both the
packet filter and the tracking of connections are parameters.

The two differ for some flows.  A packet that the loop drops never reaches the nat
chain, so nothing is decided for its flow, and a later packet decides.  An entry that
expires is decided anew by the next packet.  A packet may also belong to a connection
that another flow opened, or to none.  All other flows are redirected by the rules
exactly when `World` says so, and no flow is ever redirected without one of its
packets being marked, or to another relay than that of its protocol
(`kernelNat_refines_world`).
-/

/-- The kernel counts an outgoing packet to the connection that its flow opens.  It
does not count one to it that answers on another connection or belongs to none. -/
inductive KernelEvent where
  | outgoing (args : NfqueueArgs) (host : HostAnswers) (packet : OutPacket)
  | uncounted (args : NfqueueArgs) (host : HostAnswers) (packet : OutPacket)
  | expire (flow : Flow)
  | cleanupConnections
  | cleanupPids
  | advance (nanos : Nat)

/-- The event as the packet loop sees it. -/
def KernelEvent.loopEvents : KernelEvent -> List LoopEvent
  | .outgoing args host packet => [.packet args host packet.payload]
  | .uncounted args host packet => [.packet args host packet.payload]
  | .expire _ => []
  | .cleanupConnections => [.cleanupConnections]
  | .cleanupPids => [.cleanupPids]
  | .advance nanos => [.advance nanos]

/-- The packet loop and the kernel's entries, with the flows of which a packet was
lost, and those whose packets and entry did not keep together. -/
structure KernelWorld (conntrack : Conntrack Flow NatDecision) where
  loop : LoopState
  entries : conntrack.Entries
  lost : List Flow
  parted : List Flow

namespace KernelWorld

variable {conntrack : Conntrack Flow NatDecision}

def initial : KernelWorld conntrack where
  loop := .initial
  entries := conntrack.initial
  lost := []
  parted := []

/-- What is decided for a flow. -/
def nat (kernel : KernelWorld conntrack) (flow : Flow) : Option NatDecision :=
  conntrack.decision kernel.entries flow

end KernelWorld

section Kernel

variable (filter : NetFilter) {conntrack : Conntrack Flow NatDecision} (ruleset : filter.Ruleset)

/-- What the table and the loop make of an outgoing packet, of whose flow
something may be known. -/
def outgoingPath (loop : LoopState) (args : NfqueueArgs) (host : HostAnswers)
    (packet : OutPacket) (known : Option NatDecision) : Option (Passage OutPacket) :=
  passOutput filter ruleset
    (listening nfqueueNum (nfqueueListener args host loop.now loop.tables)) ⟨packet, known⟩

/-- The loop gets the packets that are lost when nobody listens. -/
def loopAfter (loop : LoopState) (args : NfqueueArgs) (host : HostAnswers)
    (packet : OutPacket) : LoopState :=
  if (passOutput filter ruleset (fun _ => none) ⟨packet, none⟩).isNone then
    loopStep loop (.packet args host packet.payload)
  else loop

/-- A step under a ruleset that stays as it is.  A packet that goes through settles
what is decided for its flow. -/
def kernelStep (kernel : KernelWorld conntrack) : KernelEvent -> KernelWorld conntrack
  | .outgoing args host packet =>
      let loop := loopAfter filter ruleset kernel.loop args host packet
      match packetOf args.order packet.payload with
      | none => { kernel with loop := loop }
      | some parsed =>
          match outgoingPath filter ruleset kernel.loop args host packet
              (kernel.nat parsed.flow) with
          | some last =>
              { kernel with
                loop := loop
                entries :=
                  conntrack.settle kernel.entries parsed.flow (last.nat.getD .untouched) }
          | none => { kernel with loop := loop, lost := parsed.flow :: kernel.lost }
  | .uncounted args host packet =>
      { kernel with
        loop := loopAfter filter ruleset kernel.loop args host packet
        parted := ((packetOf args.order packet.payload).map Packet.flow).toList ++ kernel.parted }
  | .expire flow =>
      { kernel with
        entries := conntrack.expire kernel.entries flow
        parted := flow :: kernel.parted }
  | .cleanupConnections => { kernel with loop := loopStep kernel.loop .cleanupConnections }
  | .cleanupPids => { kernel with loop := loopStep kernel.loop .cleanupPids }
  | .advance nanos => { kernel with loop := loopStep kernel.loop (.advance nanos) }

end Kernel

/-- Packets are ordinary ones, on a host of one byte order. -/
def OrdinaryEvent (order : ByteOrder) : KernelEvent -> Prop
  | .outgoing args _ packet => args.order = order ∧ packet.Ordinary order
  | .uncounted args _ packet => args.order = order ∧ packet.Ordinary order
  | _ => True

/-! ## Agreement -/

/-- What the rules make of a flow whose packet is marked or not. -/
def decisionFor (flow : Flow) (marked : Bool) : NatDecision :=
  if marked then .redirected (some (relayPort flow.isTcp)) else .untouched

/-- The marked packet is the one that decides for a redirection. -/
theorem decisionFor_eq_redirected {flow : Flow} {marked : Bool} {port : Option UInt16}
    (decided : decisionFor flow marked = .redirected port) :
    port = some (relayPort flow.isTcp) ∧ marked = true := by
  cases marked with
  | true =>
      cases decided
      exact ⟨rfl, rfl⟩
  | false => cases decided

section Agreement

variable {conntrack : Conntrack Flow NatDecision}

/-- The two agree on a flow, or a packet of it was lost before the rules decided
anything, or its packets and its entry did not keep together. -/
inductive AgreesOn (kernel : KernelWorld conntrack) (world : World) (flow : Flow) : Prop where
  | unknown (worldNat : world.nat.get flow = none) (kernelNat : kernel.nat flow = none)
  | decided (marked : Bool) (worldNat : world.nat.get flow = some marked)
      (kernelNat : kernel.nat flow = some (decisionFor flow marked))
  | lost (decision : Option Bool) (worldNat : world.nat.get flow = some false)
      (kernelNat : kernel.nat flow = decision.map (decisionFor flow))
      (member : flow ∈ kernel.lost)
  | parted (decision : Option Bool) (kernelNat : kernel.nat flow = decision.map (decisionFor flow))
      (member : flow ∈ kernel.parted)

/-- The lists of the later state hold the flows of the earlier one. -/
structure Keeps (kernel later : KernelWorld conntrack) : Prop where
  lost : kernel.lost ⊆ later.lost
  parted : kernel.parted ⊆ later.parted

variable {kernel kernelLater : KernelWorld conntrack} {world later : World} {flow : Flow}

namespace AgreesOn

/-- The rules decided for the flow by a mark, if at all. -/
theorem decision (agrees : AgreesOn kernel world flow) :
    Exists fun decision : Option Bool => kernel.nat flow = decision.map (decisionFor flow) := by
  cases agrees with
  | unknown _ kernelNat => exact ⟨none, kernelNat⟩
  | decided marked _ kernelNat => exact ⟨some marked, kernelNat⟩
  | lost decision _ kernelNat _ => exact ⟨decision, kernelNat⟩
  | parted decision kernelNat _ => exact ⟨decision, kernelNat⟩

/-- What happens to other flows does not matter. -/
theorem of_kept (agrees : AgreesOn kernel world flow)
    (kernelKept : kernelLater.nat flow = kernel.nat flow)
    (worldKept : later.nat.get flow = world.nat.get flow)
    (keeps : Keeps kernel kernelLater) : AgreesOn kernelLater later flow := by
  cases agrees with
  | unknown worldNat kernelNat =>
      exact .unknown (worldKept.trans worldNat) (kernelKept.trans kernelNat)
  | decided marked worldNat kernelNat =>
      exact .decided marked (worldKept.trans worldNat) (kernelKept.trans kernelNat)
  | lost decision worldNat kernelNat member =>
      exact .lost decision (worldKept.trans worldNat) (kernelKept.trans kernelNat)
        (keeps.lost member)
  | parted decision kernelNat member =>
      exact .parted decision (kernelKept.trans kernelNat) (keeps.parted member)

/-- A flow whose packet goes through keeps its decision, or gets the one of the
packet's mark. -/
theorem of_passed (agrees : AgreesOn kernel world flow) (marked : Bool)
    (kernelLaterNat : kernelLater.nat flow =
      some ((kernel.nat flow).getD (decisionFor flow marked)))
    (worldLaterNat : later.nat.get flow = some ((world.nat.get flow).getD marked))
    (keeps : Keeps kernel kernelLater) : AgreesOn kernelLater later flow := by
  have mapped : forall decision : Option Bool, kernel.nat flow = decision.map (decisionFor flow) ->
      kernelLater.nat flow = (some (decision.getD marked)).map (decisionFor flow) := by
    intro decision kernelNat
    rw [kernelLaterNat, kernelNat]
    cases decision with
    | none => rfl
    | some before => rfl
  cases agrees with
  | unknown worldNat kernelNat =>
      rw [worldNat] at worldLaterNat
      exact .decided marked worldLaterNat (mapped none kernelNat)
  | decided before worldNat kernelNat =>
      rw [worldNat] at worldLaterNat
      exact .decided before worldLaterNat (mapped (some before) kernelNat)
  | lost decision worldNat kernelNat member =>
      rw [worldNat] at worldLaterNat
      exact .lost _ worldLaterNat (mapped decision kernelNat) (keeps.lost member)
  | parted decision kernelNat member =>
      exact .parted _ (mapped decision kernelNat) (keeps.parted member)

/-- A flow whose packet is lost has no other decision than before. -/
theorem of_lost (agrees : AgreesOn kernel world flow)
    (kernelKept : kernelLater.nat flow = kernel.nat flow)
    (worldLaterNat : later.nat.get flow = some ((world.nat.get flow).getD false))
    (member : flow ∈ kernelLater.lost) (keeps : Keeps kernel kernelLater) :
    AgreesOn kernelLater later flow := by
  cases agrees with
  | unknown worldNat kernelNat =>
      rw [worldNat] at worldLaterNat
      exact .lost none worldLaterNat (kernelKept.trans kernelNat) member
  | decided marked worldNat kernelNat =>
      rw [worldNat] at worldLaterNat
      exact .decided marked worldLaterNat (kernelKept.trans kernelNat)
  | lost decision worldNat kernelNat _ =>
      rw [worldNat] at worldLaterNat
      exact .lost decision worldLaterNat (kernelKept.trans kernelNat) member
  | parted decision kernelNat parted =>
      exact .parted decision (kernelKept.trans kernelNat) (keeps.parted parted)

theorem redirected (agrees : AgreesOn kernel world flow) (sent : world.Redirected flow) :
    kernel.nat flow = some (.redirected (some (relayPort flow.isTcp))) ∨
      flow ∈ kernel.parted := by
  cases agrees with
  | unknown worldNat _ => cases worldNat.symm.trans sent
  | lost _ worldNat _ _ => cases worldNat.symm.trans sent
  | parted _ _ member => exact Or.inr member
  | decided marked worldNat kernelNat =>
      cases worldNat.symm.trans sent
      exact Or.inl kernelNat

theorem redirected_cases {port : Option UInt16} (agrees : AgreesOn kernel world flow)
    (sent : kernel.nat flow = some (.redirected port)) :
    port = some (relayPort flow.isTcp) ∧
      (world.Redirected flow ∨ flow ∈ kernel.lost ∨ flow ∈ kernel.parted) := by
  have toRelay : port = some (relayPort flow.isTcp) := by
    rcases agrees.decision with ⟨decision, kernelNat⟩
    rcases Option.map_eq_some_iff.mp (kernelNat.symm.trans sent) with ⟨marked, _, decided⟩
    exact (decisionFor_eq_redirected decided).1
  refine ⟨toRelay, ?_⟩
  cases agrees with
  | unknown _ kernelNat => cases kernelNat.symm.trans sent
  | lost _ _ _ member => exact Or.inr (Or.inl member)
  | parted _ _ member => exact Or.inr (Or.inr member)
  | decided marked worldNat kernelNat =>
      have decided := Option.some.inj (kernelNat.symm.trans sent)
      exact Or.inl (worldNat.trans (congrArg some (decisionFor_eq_redirected decided).2))

end AgreesOn

/-- The same loop, agreement on all flows, and a marked packet behind every
redirection. -/
structure Refines (kernel : KernelWorld conntrack) (world : World) : Prop where
  loop : kernel.loop = world.loop
  agrees : forall flow, AgreesOn kernel world flow
  marked : forall flow port, kernel.nat flow = some (.redirected port) ->
    Not (Fresh flow kernel.loop.log)

end Agreement

/-- A decision that was made already is kept, whatever the packet. -/
theorem get_decideFlow_self (nat : KeyedStore Flow Bool) (flow : Flow) (marked : Bool) :
    (decideFlow nat flow marked).get flow = some ((nat.get flow).getD marked) := by
  unfold decideFlow KeyedStore.containsKey
  cases known : nat.get flow with
  | some decision => exact known
  | none => exact KeyedStore.get_insert_self _ _ _

theorem get_decideFlow_of_ne (nat : KeyedStore Flow Bool) {flow other : Flow} (marked : Bool)
    (different : other ≠ flow) : (decideFlow nat flow marked).get other = nat.get other := by
  unfold decideFlow
  by_cases known : nat.containsKey flow = true
  · rw [if_pos known]
  · rw [if_neg known, KeyedStore.get_insert_of_ne _ _ different]

/-! ## One step -/

theorem loopStep_of_unparsed (state : LoopState) {args : NfqueueArgs} (host : HostAnswers)
    {payload : Octets} (unparsed : packetOf args.order payload = none) :
    loopStep state (.packet args host payload) = state := by
  have passed := nfqueueIteration_of_unparsed args host state.now state.tables unparsed
  have noFlow : markedFlow state args host payload = none := by
    simp [markedFlow, unparsed]
  simp only [loopStep, passed, noFlow]
  rfl

/-- The world decides by the mark. -/
theorem markedFlow_isSome_iff (state : LoopState) (args : NfqueueArgs) (host : HostAnswers)
    {payload : Octets} {packet : Packet} (parsed : packetOf args.order payload = some packet) :
    (markedFlow state args host payload).isSome = true <->
      MayBeMarked args host state.now state.tables packet := by
  rcases loopStep_packet_cases state args host payload with unmarked | marked
  · rw [unmarked.1]
    exact iff_of_false Bool.false_ne_true (unmarked.2.1 packet parsed)
  · rcases marked with ⟨other, same, mayBe, flow, _⟩
    cases parsed.symm.trans same
    rw [flow]
    exact iff_of_true rfl mayBe

/-- The log only grows. -/
theorem fresh_of_loopStep {state : LoopState} {event : LoopEvent} {flow : Flow}
    (fresh : Fresh flow (loopStep state event).log) : Fresh flow state.log := by
  intro now member
  apply fresh now
  cases event with
  | packet args host payload =>
      rcases loopStep_packet_cases state args host payload with unmarked | marked
      · rw [unmarked.2.2.2]
        exact member
      · rcases marked with ⟨_, _, _, _, _, logged⟩
        rw [logged]
        exact List.mem_cons_of_mem _ member
  | cleanupConnections => exact List.mem_cons_of_mem _ member
  | cleanupPids => exact member
  | advance nanos => exact member

theorem fresh_of_run {state : LoopState} {events : List LoopEvent} {flow : Flow}
    (fresh : Fresh flow (run loopStep state events).log) : Fresh flow state.log := by
  induction events generalizing state with
  | nil => exact fresh
  | cons event events ih => exact fresh_of_loopStep (ih fresh)

/-- Only an entry that is gone, or a packet that does not belong to it, parts a flow. -/
theorem parted_kernelStep_outgoing {filter : NetFilter} {ruleset : filter.Ruleset}
    {conntrack : Conntrack Flow NatDecision} {kernel : KernelWorld conntrack}
    (args : NfqueueArgs) (host : HostAnswers) (packet : OutPacket) :
    (kernelStep filter ruleset kernel (.outgoing args host packet)).parted = kernel.parted := by
  unfold kernelStep
  dsimp only
  cases packetOf args.order packet.payload with
  | none => rfl
  | some parsed =>
      dsimp only
      cases outgoingPath filter ruleset kernel.loop args host packet (kernel.nat parsed.flow) with
      | none => rfl
      | some last => rfl

section Step

variable {order : ByteOrder} {encoding : NftnlEncoding} {filter : NetFilter}
  (accepts : AcceptsTable filter (relayArgs order encoding))
  (passes : PassesPackets filter (relayArgs order encoding))
  {ruleset : filter.Ruleset} (own : OwnTable filter (relayArgs order encoding) ruleset)
  (present : installed filter ruleset = true)
  {conntrack : Conntrack Flow NatDecision} (lawful : conntrack.Lawful)

include accepts passes own present

theorem outgoingPath_eq_loopPath (loop : LoopState) (args : NfqueueArgs) (host : HostAnswers)
    (packet : OutPacket) (known : Option NatDecision) (same : args.order = order) :
    outgoingPath filter ruleset loop args host packet known =
      loopPath args encoding host loop.now loop.tables ⟨packet, known⟩ := by
  subst same
  have path := passOutput_history passes accepts own []
    (listening nfqueueNum (nfqueueListener args host loop.now loop.tables)) ⟨packet, known⟩
  rw [installedAfter, List.foldl_nil, present, if_pos rfl] at path
  exact path

/-- The loop sees every packet that means anything to it. -/
theorem loopAfter_eq (loop : LoopState) {args : NfqueueArgs} (host : HostAnswers)
    {packet : OutPacket} (ordinary : packet.Ordinary args.order) :
    loopAfter filter ruleset loop args host packet =
      loopStep loop (.packet args host packet.payload) := by
  have lost := unattended_output passes accepts own [] ⟨packet, none⟩
  rw [installedAfter, List.foldl_nil, present] at lost
  change passOutput filter ruleset (fun _ => none) ⟨packet, none⟩ = _ at lost
  unfold loopAfter
  by_cases queued : packet.IsQueued
  · rw [if_pos ⟨rfl, queued⟩] at lost
    rw [lost]
    exact if_pos rfl
  · rw [if_neg (fun both => queued both.2)] at lost
    rw [lost]
    change loop = _
    cases read : packetOf args.order packet.payload with
    | none => exact (loopStep_of_unparsed loop host read).symm
    | some parsed => exact absurd (isQueued_of_packetOf ordinary read) queued

theorem loop_kernelStep (kernel : KernelWorld conntrack) (event : KernelEvent)
    (ordinary : OrdinaryEvent order event) :
    (kernelStep filter ruleset kernel event).loop = run loopStep kernel.loop event.loopEvents := by
  cases event with
  | outgoing args host packet =>
      rcases ordinary with ⟨rfl, ordinary⟩
      change _ = loopStep kernel.loop (.packet args host packet.payload)
      rw [← loopAfter_eq accepts passes own present kernel.loop host ordinary]
      unfold kernelStep
      dsimp only
      cases packetOf args.order packet.payload with
      | none => rfl
      | some parsed =>
          dsimp only
          cases outgoingPath filter ruleset kernel.loop args host packet
              (kernel.nat parsed.flow) with
          | none => rfl
          | some last => rfl
  | uncounted args host packet =>
      rcases ordinary with ⟨rfl, ordinary⟩
      exact loopAfter_eq accepts passes own present kernel.loop host ordinary
  | expire flow => rfl
  | cleanupConnections => rfl
  | cleanupPids => rfl
  | advance nanos => rfl

include lawful

/-- What a packet does to the entries, by its mark: it settles its flow, or it is
lost. -/
theorem kernelStep_outgoing_cases (kernel : KernelWorld conntrack) {args : NfqueueArgs}
    (host : HostAnswers) {packet : OutPacket} {parsed : Packet}
    (same : args.order = order) (ordinary : packet.Ordinary args.order)
    (read : packetOf args.order packet.payload = some parsed) :
    let later := kernelStep filter ruleset kernel (.outgoing args host packet)
    let marked := (markedFlow kernel.loop args host packet.payload).isSome
    Keeps kernel later ∧
      (forall flow, flow ≠ parsed.flow -> later.nat flow = kernel.nat flow) ∧
      ((later.nat parsed.flow =
          some ((kernel.nat parsed.flow).getD (decisionFor parsed.flow marked))) ∨
        (parsed.flow ∈ later.lost ∧ later.nat parsed.flow = kernel.nat parsed.flow ∧
          marked = false)) := by
  intro later marked
  have path := outgoingPath_eq_loopPath accepts passes own present kernel.loop args host packet
    (kernel.nat parsed.flow) same
  have stepped : later = kernelStep filter ruleset kernel (.outgoing args host packet) := rfl
  simp only [kernelStep, read] at stepped
  have mark := @markedFlow_isSome_iff kernel.loop args host packet.payload parsed read
  have unmarkedOf (mayNot : forall other, packetOf args.order packet.payload = some other ->
      Not (MayBeMarked args host kernel.loop.now kernel.loop.tables other)) : marked = false :=
    Bool.eq_false_of_not_eq_true (fun sent => mayNot parsed read (mark.mp sent))
  rcases @loopPath_cases args encoding packet host kernel.loop.now kernel.loop.tables ordinary
    (kernel.nat parsed.flow) with
    ⟨other, readOther, mayBe, _, _, last, went⟩ | ⟨mayNot, ⟨_, lost⟩ | ⟨_, went⟩⟩
  · cases read.symm.trans readOther
    have isMarked : marked = true := mark.mpr mayBe
    rw [path.trans went] at stepped
    rw [stepped, isMarked]
    refine ⟨⟨fun _ => id, fun _ => id⟩, fun flow => lawful.settle_other _ _ _ flow, Or.inl ?_⟩
    exact lawful.decision_settle_or kernel.entries parsed.flow
      (some (.redirected (some (relayPort parsed.isTcp)))) .untouched
  · have unmarked := unmarkedOf mayNot
    rw [path.trans lost] at stepped
    rw [stepped]
    exact ⟨⟨fun _ => List.mem_cons_of_mem _, fun _ => id⟩, fun _ _ => rfl,
      Or.inr ⟨List.mem_cons_self, rfl, unmarked⟩⟩
  · have unmarked := unmarkedOf mayNot
    rw [path.trans went] at stepped
    rw [stepped, unmarked]
    refine ⟨⟨fun _ => id, fun _ => id⟩, fun flow => lawful.settle_other _ _ _ flow, Or.inl ?_⟩
    have settled := lawful.decision_settle_or kernel.entries parsed.flow none NatDecision.untouched
    rw [Option.or_none] at settled
    exact settled

theorem agreesOn_outgoing {kernel : KernelWorld conntrack} {world : World}
    (refines : Refines kernel world) {args : NfqueueArgs} (host : HostAnswers)
    {packet : OutPacket} {parsed : Packet} (same : args.order = order)
    (ordinary : packet.Ordinary args.order)
    (read : packetOf args.order packet.payload = some parsed) (flow : Flow) :
    AgreesOn (kernelStep filter ruleset kernel (.outgoing args host packet))
      (worldStep world (.packet args host packet.payload)) flow := by
  have before := refines.agrees flow
  have worldNat : (worldStep world (.packet args host packet.payload)).nat =
      decideFlow world.nat parsed.flow
        (markedFlow kernel.loop args host packet.payload).isSome := by
    simp only [worldStep, read, refines.loop]
  rcases kernelStep_outgoing_cases accepts passes own present lawful kernel host same ordinary
    read with ⟨keeps, others, settled⟩
  by_cases other : flow = parsed.flow
  · subst other
    rcases settled with passed | ⟨member, kept, unmarked⟩
    · refine before.of_passed _ passed ?_ keeps
      rw [worldNat, get_decideFlow_self]
    · refine before.of_lost kept ?_ member keeps
      rw [worldNat, unmarked, get_decideFlow_self]
  · refine before.of_kept (others flow other) ?_ keeps
    rw [worldNat, get_decideFlow_of_ne _ _ other]

/-- A flow is redirected anew only by a packet that is marked. -/
theorem redirected_before_or_marked {kernel : KernelWorld conntrack} (event : KernelEvent)
    (ordinary : OrdinaryEvent order event) {flow : Flow} {port : Option UInt16}
    (sent : (kernelStep filter ruleset kernel event).nat flow = some (.redirected port)) :
    kernel.nat flow = some (.redirected port) ∨
      Not (Fresh flow (kernelStep filter ruleset kernel event).loop.log) := by
  cases event with
  | cleanupConnections => exact Or.inl sent
  | cleanupPids => exact Or.inl sent
  | advance nanos => exact Or.inl sent
  | uncounted args host packet => exact Or.inl sent
  | expire gone =>
      change conntrack.decision (conntrack.expire kernel.entries gone) flow = _ at sent
      by_cases same : flow = gone
      · rw [same, lawful.expire_self] at sent
        cases sent
      · rw [lawful.expire_other _ _ _ same] at sent
        exact Or.inl sent
  | outgoing args host packet =>
      rw [loop_kernelStep accepts passes own present kernel _ ordinary]
      rcases ordinary with ⟨sameOrder, ordinary⟩
      rw [← sameOrder] at ordinary
      cases read : packetOf args.order packet.payload with
      | none =>
          left
          rw [← sent]
          simp only [kernelStep, read]
          rfl
      | some parsed =>
          rcases kernelStep_outgoing_cases accepts passes own present lawful kernel host sameOrder
            ordinary read with ⟨_, others, settled⟩
          by_cases same : flow = parsed.flow
          · subst same
            rcases settled with passed | ⟨_, kept, _⟩
            · rcases loopStep_packet_cases kernel.loop args host packet.payload with
                ⟨unmarked, _⟩ | ⟨other, readOther, _, _, _, logged⟩
              · rw [unmarked] at passed
                have kept := passed.symm.trans sent
                cases known : kernel.nat parsed.flow with
                | none =>
                    rw [known] at kept
                    cases kept
                | some decision =>
                    rw [known] at kept
                    exact Or.inl kept
              · right
                cases read.symm.trans readOther
                intro fresh
                refine fresh kernel.loop.now ?_
                change _ ∈ (loopStep kernel.loop (.packet args host packet.payload)).log
                rw [logged]
                exact List.mem_cons_self
            · exact Or.inl (kept.symm.trans sent)
          · exact Or.inl ((others flow same).symm.trans sent)

/-- A step keeps the agreement. -/
theorem refines_kernelStep {kernel : KernelWorld conntrack} {world : World} (event : KernelEvent)
    (refines : Refines kernel world) (ordinary : OrdinaryEvent order event) :
    Refines (kernelStep filter ruleset kernel event) (run worldStep world event.loopEvents) where
  loop := by
    rw [loop_kernelStep accepts passes own present kernel event ordinary, refines.loop]
    cases event <;> rfl
  marked := by
    intro flow port sent
    rcases redirected_before_or_marked accepts passes own present lawful event ordinary sent with
      before | marked
    · intro fresh
      apply refines.marked flow port before
      rw [loop_kernelStep accepts passes own present kernel event ordinary] at fresh
      exact fresh_of_run fresh
    · exact marked
  agrees := by
    intro flow
    have before := refines.agrees flow
    cases event with
    | cleanupConnections => exact before.of_kept rfl rfl ⟨fun _ => id, fun _ => id⟩
    | cleanupPids => exact before.of_kept rfl rfl ⟨fun _ => id, fun _ => id⟩
    | advance nanos => exact before.of_kept rfl rfl ⟨fun _ => id, fun _ => id⟩
    | expire gone =>
        by_cases same : flow = gone
        · subst same
          exact .parted none (lawful.expire_self _ _) List.mem_cons_self
        · exact before.of_kept (lawful.expire_other _ _ _ same) rfl
            ⟨fun _ => id, fun _ => List.mem_cons_of_mem _⟩
    | uncounted args host packet =>
        have keeps : Keeps kernel
            (kernelStep filter ruleset kernel (.uncounted args host packet)) :=
          ⟨fun _ => id, fun _ => List.mem_append_right _⟩
        by_cases own : (packetOf args.order packet.payload).map Packet.flow = some flow
        · rcases before.decision with ⟨decision, kernelNat⟩
          refine .parted decision kernelNat (List.mem_append_left _ ?_)
          rw [own]
          exact List.mem_singleton_self flow
        · refine before.of_kept rfl ?_ keeps
          change (worldStep world (.packet args host packet.payload)).nat.get flow = _
          cases read : packetOf args.order packet.payload with
          | none => simp only [worldStep, read]
          | some parsed =>
              simp only [worldStep, read]
              refine get_decideFlow_of_ne _ _ ?_
              rintro rfl
              exact own (congrArg (Option.map Packet.flow) read)
    | outgoing args host packet =>
        rcases ordinary with ⟨same, ordinary⟩
        rw [← same] at ordinary
        cases read : packetOf args.order packet.payload with
        | some parsed =>
            exact agreesOn_outgoing accepts passes own present lawful refines host same ordinary
              read flow
        | none =>
            refine before.of_kept ?_ ?_ ?_
            · simp only [kernelStep, read]
              rfl
            · change (worldStep world (.packet args host packet.payload)).nat.get flow = _
              simp only [worldStep, read]
            · simp only [kernelStep, read]
              exact ⟨fun _ => id, fun _ => id⟩

/-- After any run of ordinary packets, with entries that expire at any time, the loop
is in the state that `World` says.  A flow that `World` redirects is redirected to the
relay of its protocol, unless its packets and its entry did not keep together.  The
rules redirect a flow to no other relay, and only after one of its packets was marked;
it is one that `World` redirects, or one of which a packet was lost, or one whose
packets and entry did not keep together. -/
theorem kernelNat_refines_world {events : List KernelEvent}
    (ordinary : forall event, event ∈ events -> OrdinaryEvent order event) :
    let kernel : KernelWorld conntrack := run (kernelStep filter ruleset) .initial events
    let world := run worldStep .initial (events.flatMap KernelEvent.loopEvents)
    kernel.loop = world.loop ∧ forall flow,
      (world.Redirected flow ->
        kernel.nat flow = some (.redirected (some (relayPort flow.isTcp))) ∨
          flow ∈ kernel.parted) ∧
      forall port, kernel.nat flow = some (.redirected port) ->
        port = some (relayPort flow.isTcp) ∧ Not (Fresh flow kernel.loop.log) ∧
          (world.Redirected flow ∨ flow ∈ kernel.lost ∨ flow ∈ kernel.parted) := by
  intro kernel world
  have initial : Refines (KernelWorld.initial : KernelWorld conntrack) .initial :=
    { loop := rfl
      agrees := fun flow => .unknown rfl (lawful.initial flow)
      marked := by
        intro flow port sent
        cases (lawful.initial flow).symm.trans sent }
  have refines : Refines kernel world := run_related (kernelStep filter ruleset) worldStep
    (fun _ _ event => refines_kernelStep accepts passes own present lawful event) initial ordinary
  refine ⟨refines.loop, fun flow => ⟨(refines.agrees flow).redirected, fun port sent => ?_⟩⟩
  rcases (refines.agrees flow).redirected_cases sent with ⟨toRelay, origin⟩
  exact ⟨toRelay, refines.marked flow port sent, origin⟩

end Step

/-- A query that is marked, and again after the tracker was cleaned up and the entry
of another flow has expired. -/
theorem kernelNat_refines_world_query :
    let filter := kernelFilter .little
    let args := relayArgs .little (.native .little)
    let ruleset : filter.Ruleset := KeyedStore.empty.assign tableName (some (relayTable args 1))
    let flow : Flow := ⟨false, 0x0200000A, 4096, 0x08080808, 53⟩
    let query := KernelEvent.outgoing mixedArgs systemdHost ⟨17, 0, dnsQuery⟩
    let kernel : KernelWorld (.ofStore Flow NatDecision) := run (kernelStep filter ruleset) .initial
      [query, .advance 60000000000, .cleanupConnections, .expire { flow with srcPort := 1 }, query]
    kernel.nat flow = some (.redirected (some localUdpRelayPort)) ∧
      Not (Fresh flow kernel.loop.log) := by
  intro filter args ruleset flow query kernel
  have own : OwnTable filter args ruleset :=
    Or.inr ⟨0, KeyedStore.get_assign_self KeyedStore.empty tableName (some (relayTable args 1))⟩
  have ordinary : forall event, event ∈ [query, .advance 60000000000, .cleanupConnections,
      .expire { flow with srcPort := 1 }, query] -> OrdinaryEvent .little event := by
    intro event member
    simp only [List.mem_cons, List.not_mem_nil, or_false] at member
    rcases member with rfl | rfl | rfl | rfl | rfl
    · exact ⟨rfl, ordinary_dnsQuery⟩
    · trivial
    · trivial
    · trivial
    · exact ⟨rfl, ordinary_dnsQuery⟩
  have refined := kernelNat_refines_world (acceptsTable_kernelFilter .little _)
    (passesPackets_kernelFilter .little) own rfl
    (Conntrack.lawful_ofStore : (Conntrack.ofStore Flow NatDecision).Lawful) ordinary
  have kept (kernel : KernelWorld (.ofStore Flow NatDecision)) :
      (kernelStep filter ruleset kernel query).parted = kernel.parted :=
    parted_kernelStep_outgoing _ _ _
  have parted : kernel.parted = [{ flow with srcPort := 1 }] := by
    change (kernelStep filter ruleset _ query).parted = _
    rw [kept]
    change _ :: (kernelStep filter ruleset .initial query).parted = _
    rw [kept]
    rfl
  rcases (refined.2 flow).1 rfl with redirected | member
  · exact ⟨redirected, ((refined.2 flow).2 _ redirected).2.1⟩
  · change flow ∈ kernel.parted at member
    rw [parted] at member
    exact absurd member (by decide)

end ProxyBridge
