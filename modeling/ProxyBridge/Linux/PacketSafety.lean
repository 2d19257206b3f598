import ProxyBridge.Linux.Nfqueue

namespace ProxyBridge

open Foundation Text

/-!
# Safety of one iteration

Every payload is handled without an access out of range, and exactly one
verdict is issued.  A mark needs all of the conditions in `MayBeMarked`, and the
tracker changes by the entry of a marked packet and by nothing else.

The guards behind the match can only withdraw a `proxy`.  The configuration of
the proxy therefore has no part in what is dropped; the DNS gate does, because
it stands in front of the match.
-/

/-- The packet that the payload holds, if its headers can be read. -/
def packetOf (order : Octets.ByteOrder) (payload : Octets) : Option Packet :=
  if payload.length < 20 then none
  else (readIpHeader order payload).bind (fun ip => (readTransport payload ip).join)

theorem exists_getElem? {payload : Octets} {index : Nat} (inside : index < payload.length) :
    Exists fun b => payload[index]? = some b :=
  ⟨_, List.getElem?_eq_getElem inside⟩

theorem exists_readIpHeader (order : Octets.ByteOrder) {payload : Octets}
    (long : 20 ≤ payload.length) : Exists fun ip => readIpHeader order payload = some ip := by
  rcases exists_getElem? (show 0 < payload.length by omega) with ⟨versionIhl, first⟩
  rcases exists_getElem? (show 9 < payload.length by omega) with ⟨protocol, tenth⟩
  have src := Octets.slice_of_le (show 12 ≤ 16 by omega) (show 16 ≤ payload.length by omega)
  have dest := Octets.slice_of_le (show 16 ≤ 20 by omega) long
  unfold readIpHeader
  rw [first, tenth, src, dest]
  exact ⟨_, rfl⟩

/-- Ports are read inside the length that has been checked before. -/
theorem exists_readPort {payload : Octets} {offset : Nat} (inside : offset + 2 ≤ payload.length) :
    Exists fun port => readPort payload offset = some port :=
  Octets.exists_fromBeBytes_slice inside

theorem exists_readTransport (payload : Octets) (ip : IpHeader) :
    Exists fun read => readTransport payload ip = some read := by
  unfold readTransport
  by_cases tcp : ip.protocol = ipprotoTcp
  · rw [if_pos tcp]
    by_cases short : payload.length < ip.ihl + 20
    · rw [if_pos short]
      exact ⟨_, rfl⟩
    · rcases exists_readPort (show ip.ihl + 2 ≤ payload.length by omega) with ⟨srcPort, src⟩
      rcases exists_readPort (show ip.ihl + 2 + 2 ≤ payload.length by omega) with ⟨destPort, dest⟩
      rcases exists_getElem? (show ip.ihl + 13 < payload.length by omega) with ⟨flags, held⟩
      rw [if_neg short, src, dest, held]
      exact ⟨_, rfl⟩
  · rw [if_neg tcp]
    by_cases udp : ip.protocol = ipprotoUdp
    · rw [if_pos udp]
      by_cases short : payload.length < ip.ihl + 8
      · rw [if_pos short]
        exact ⟨_, rfl⟩
      · rcases exists_readPort (show ip.ihl + 2 ≤ payload.length by omega) with ⟨srcPort, src⟩
        rcases exists_readPort (show ip.ihl + 2 + 2 ≤ payload.length by omega) with
          ⟨destPort, dest⟩
        rw [if_neg short, src, dest]
        exact ⟨_, rfl⟩
    · rw [if_neg udp]
      exact ⟨_, rfl⟩

section Iteration

variable (args : NfqueueArgs) (host : HostAnswers) (now : Instant) (tables : SharedTables)

/-- What an iteration comes to: only a packet whose headers can be read, under
at least one enabled rule, is processed at all. -/
theorem nfqueueIteration_eq (payload : Octets) :
    nfqueueIteration args host now tables payload =
      match packetOf args.order payload with
      | some packet =>
          if args.ruleEngine.hasActiveRules = true then
            some (processPacket args host now tables packet)
          else some (passUnmarked tables)
      | none => some (passUnmarked tables) := by
  unfold nfqueueIteration packetOf
  by_cases short : payload.length < 20
  · rw [if_pos short, if_pos short]
  · rcases exists_readIpHeader args.order (show 20 ≤ payload.length by omega) with ⟨ip, header⟩
    rcases exists_readTransport payload ip with ⟨read, transport⟩
    rw [if_neg short, if_neg short, header, Option.bind_some, transport]
    cases args.ruleEngine.hasActiveRules with
    | false =>
        cases read with
        | none => rfl
        | some packet => rfl
    | true =>
        change (readTransport payload ip).bind _ = _
        rw [transport]
        cases read with
        | none => rfl
        | some packet => rfl

end Iteration

theorem directIf_eq_proxy_iff (condition : Bool) (action : RuleAction) :
    directIf condition action = .proxy <-> action = .proxy ∧ condition = false := by
  unfold directIf
  cases condition with
  | false => simp
  | true =>
      cases action with
      | proxy => simp
      | direct => simp
      | block => simp

/-- A guard neither makes nor withdraws a `block`. -/
theorem directIf_eq_block_iff (condition : Bool) (action : RuleAction) :
    directIf condition action = .block <-> action = .block := by
  unfold directIf
  cases condition with
  | false => simp
  | true =>
      cases action with
      | proxy => simp
      | direct => simp
      | block => simp

theorem downgrade_eq_proxy_iff (proxyConfig : ProxyConfig) (packet : Packet)
    (matched : RuleAction) :
    downgrade proxyConfig packet matched = .proxy <->
      matched = .proxy ∧ isBroadcastOrMulticast packet.destIp = false ∧
        (packet.isUdp && (packet.destPort == 67 || packet.destPort == 68)) = false ∧
        (packet.isUdp && proxyConfig.proxyType != .socks5) = false ∧
        (proxyConfig.host.isEmpty || proxyConfig.port == 0) = false := by
  unfold downgrade
  rw [directIf_eq_proxy_iff, directIf_eq_proxy_iff, directIf_eq_proxy_iff, directIf_eq_proxy_iff,
    and_assoc, and_assoc, and_assoc]

theorem downgrade_eq_block_iff (proxyConfig : ProxyConfig) (packet : Packet)
    (matched : RuleAction) : downgrade proxyConfig packet matched = .block <-> matched = .block := by
  unfold downgrade
  rw [directIf_eq_block_iff, directIf_eq_block_iff, directIf_eq_block_iff, directIf_eq_block_iff]

/-! ## Who may be marked -/

/-- The conditions under which a packet may be marked. -/
structure MayBeMarked (args : NfqueueArgs) (host : HostAnswers) (now : Instant)
    (tables : SharedTables) (packet : Packet) : Prop where
  opening : (packet.isTcp = true ∧ packet.isSyn = true) ∨ packet.isUdp = true
  notTcpRelay : Not (packet.isTcp = true ∧ packet.srcPort = localProxyPort)
  notUdpRelay : Not (packet.isUdp = true ∧ packet.srcPort = localUdpRelayPort)
  untracked : tables.connTracker.isTracked packet.srcPort = false
  notDirectDns : Not (packet.destPort = 53 ∧ args.dnsViaProxy = false)
  owned : Exists fun pid => Exists fun name =>
    (getPidFromConnection host now tables.pidCache packet.srcIp packet.srcPort packet.isUdp).1 =
        pid ∧ pid ≠ 0 ∧ pid ≠ args.currentPid ∧ getProcessName host pid = some name ∧
      args.ruleEngine.matchRule name packet.destIp packet.destPort packet.isUdp = .proxy
  unicast : isBroadcastOrMulticast packet.destIp = false
  notDhcp : Not (packet.isUdp = true ∧ (packet.destPort = 67 ∨ packet.destPort = 68))
  carried : Not (packet.isUdp = true ∧ args.proxyConfig.proxyType ≠ .socks5)
  hasHost : args.proxyConfig.host ≠ []
  hasPort : args.proxyConfig.port ≠ 0

section Conditions

variable {args : NfqueueArgs} {host : HostAnswers} {now : Instant} {tables : SharedTables}
  {packet : Packet}

/-- Only the match itself yields `proxy`, for a known owner other than this
process, and not for a DNS query that stays direct. -/
theorem matchPacket_eq_proxy {cache : PidCache}
    (matched : (matchPacket args host now cache packet).action = .proxy) :
    Not (packet.destPort = 53 ∧ args.dnsViaProxy = false) ∧
      Exists fun pid => Exists fun name =>
        (getPidFromConnection host now cache packet.srcIp packet.srcPort packet.isUdp).1 = pid ∧
          pid ≠ 0 ∧ pid ≠ args.currentPid ∧ getProcessName host pid = some name ∧
          args.ruleEngine.matchRule name packet.destIp packet.destPort packet.isUdp = .proxy := by
  unfold matchPacket at matched
  generalize getPidFromConnection host now cache packet.srcIp packet.srcPort packet.isUdp = owner
    at matched ⊢
  by_cases dns : packet.destPort = 53 ∧ args.dnsViaProxy = false
  · rw [if_pos dns] at matched
    cases matched
  · rw [if_neg dns] at matched
    change (if owner.1 = 0 ∨ owner.1 = args.currentPid then RuleAction.direct else _) = .proxy
      at matched
    by_cases own : owner.1 = 0 ∨ owner.1 = args.currentPid
    · rw [if_pos own] at matched
      cases matched
    · rw [if_neg own] at matched
      have parts := not_or.mp own
      cases named : getProcessName host owner.1 with
      | none =>
          rw [named] at matched
          cases matched
      | some name =>
          rw [named] at matched
          exact ⟨dns, owner.1, name, rfl, parts.1, parts.2, named, matched⟩

/-- The pipeline marks a packet exactly when it decides `proxy`, and only then
does it change the tracker. -/
theorem decisionPipeline_cases (args : NfqueueArgs) (host : HostAnswers) (now : Instant)
    (tables : SharedTables) (packet : Packet) :
    (decidedAction args host now tables.pidCache packet = .proxy ∧
        (decisionPipeline args host now tables packet).issued =
          [⟨.accept, some (if packet.isTcp then tcpMark else udpMark)⟩] ∧
        (decisionPipeline args host now tables packet).tables.connTracker =
          tables.connTracker.add now packet.srcPort packet.srcIp packet.destIp packet.destPort) ∨
      (decidedAction args host now tables.pidCache packet ≠ .proxy ∧
        (Exists fun verdict => (decisionPipeline args host now tables packet).issued =
          [⟨verdict, none⟩]) ∧
        (decisionPipeline args host now tables packet).tables.connTracker = tables.connTracker) := by
  unfold decisionPipeline
  generalize decidedAction args host now tables.pidCache packet = action
  cases action with
  | proxy => exact Or.inl ⟨rfl, rfl, rfl⟩
  | direct => exact Or.inr ⟨by decide, ⟨.accept, rfl⟩, rfl⟩
  | block => exact Or.inr ⟨by decide, ⟨.drop, rfl⟩, rfl⟩

/-- A processed packet passes unmarked, or goes through the pipeline because
none of the early exits applies. -/
theorem processPacket_cases (args : NfqueueArgs) (host : HostAnswers) (now : Instant)
    (tables : SharedTables) (packet : Packet) :
    processPacket args host now tables packet = passUnmarked tables ∨
      (processPacket args host now tables packet = decisionPipeline args host now tables packet ∧
        Not (packet.isTcp = true ∧ packet.srcPort = localProxyPort) ∧
        Not (packet.isUdp = true ∧ packet.srcPort = localUdpRelayPort) ∧
        tables.connTracker.isTracked packet.srcPort = false ∧
        Not (packet.isTcp = true ∧ packet.isSyn = false)) := by
  unfold processPacket
  by_cases tcpRelay : packet.isTcp = true ∧ packet.srcPort = localProxyPort
  · exact Or.inl (if_pos tcpRelay)
  · rw [if_neg tcpRelay]
    by_cases udpRelay : packet.isUdp = true ∧ packet.srcPort = localUdpRelayPort
    · exact Or.inl (if_pos udpRelay)
    · rw [if_neg udpRelay]
      by_cases tracked : tables.connTracker.isTracked packet.srcPort = true
      · exact Or.inl (if_pos tracked)
      · rw [if_neg tracked]
        by_cases later : packet.isTcp = true ∧ packet.isSyn = false
        · exact Or.inl (if_pos later)
        · rw [if_neg later]
          exact Or.inr ⟨rfl, tcpRelay, udpRelay, Bool.eq_false_of_not_eq_true tracked, later⟩

/-- Behind the early exits, `proxy` is decided only under all conditions. -/
theorem mayBeMarked (notTcpRelay : Not (packet.isTcp = true ∧ packet.srcPort = localProxyPort))
    (notUdpRelay : Not (packet.isUdp = true ∧ packet.srcPort = localUdpRelayPort))
    (untracked : tables.connTracker.isTracked packet.srcPort = false)
    (opening : Not (packet.isTcp = true ∧ packet.isSyn = false))
    (decided : decidedAction args host now tables.pidCache packet = .proxy) :
    MayBeMarked args host now tables packet := by
  have parts := (downgrade_eq_proxy_iff _ _ _).mp decided
  have matched := matchPacket_eq_proxy parts.1
  rcases parts with ⟨_, unicast, dhcp, carried, configured⟩
  rw [Bool.or_eq_false_iff] at configured
  refine ⟨?_, notTcpRelay, notUdpRelay, untracked, matched.1, matched.2, unicast, ?_, ?_, ?_, ?_⟩
  · cases tcp : packet.isTcp with
    | true =>
        have syn : packet.isSyn = true := by
          by_contra other
          exact opening ⟨tcp, Bool.eq_false_of_not_eq_true other⟩
        exact Or.inl ⟨rfl, syn⟩
    | false =>
        right
        rw [Packet.isUdp, tcp]
        rfl
  · intro both
    rw [both.1, Bool.true_and, Bool.or_eq_false_iff, beq_eq_false_iff_ne, beq_eq_false_iff_ne]
      at dhcp
    exact both.2.elim dhcp.1 dhcp.2
  · intro both
    rw [both.1, Bool.true_and, bne_eq_false_iff_eq] at carried
    exact both.2 carried
  · exact List.isEmpty_eq_false_iff.mp configured.1
  · exact beq_eq_false_iff_ne.mp configured.2

end Conditions

/-- One iteration on any payload: it completes, it issues one verdict, it marks
a packet only under all conditions, and it changes the tracker by the entry of a
marked packet and by nothing else. -/
theorem nfqueueIteration_safe (args : NfqueueArgs) (host : HostAnswers) (now : Instant)
    (tables : SharedTables) (payload : Octets) :
    Exists fun result => nfqueueIteration args host now tables payload = some result ∧
      Exists fun issued => result.issued = [issued] ∧
        ((issued.mark = none ∧ result.tables.connTracker = tables.connTracker) ∨
          Exists fun packet => packetOf args.order payload = some packet ∧
            MayBeMarked args host now tables packet ∧
            issued = ⟨.accept, some (if packet.isTcp then tcpMark else udpMark)⟩ ∧
            result.tables.connTracker =
              tables.connTracker.add now packet.srcPort packet.srcIp packet.destIp
                packet.destPort) := by
  have passed : Exists fun issued => (passUnmarked tables).issued = [issued] ∧
      issued.mark = none ∧ (passUnmarked tables).tables.connTracker = tables.connTracker :=
    ⟨_, rfl, rfl, rfl⟩
  rw [nfqueueIteration_eq]
  cases parsed : packetOf args.order payload with
  | none =>
      rcases passed with ⟨issued, single, unmarked⟩
      exact ⟨_, rfl, issued, single, Or.inl unmarked⟩
  | some packet =>
      by_cases active : args.ruleEngine.hasActiveRules = true
      · refine ⟨processPacket args host now tables packet, if_pos active, ?_⟩
        rcases processPacket_cases args host now tables packet with early | late
        · rcases passed with ⟨issued, single, unmarked⟩
          rw [early]
          exact ⟨issued, single, Or.inl unmarked⟩
        · rcases late with ⟨same, notTcpRelay, notUdpRelay, untracked, opening⟩
          rw [same]
          rcases decisionPipeline_cases args host now tables packet with marked | unmarked
          · exact ⟨_, marked.2.1, Or.inr ⟨packet, rfl,
              mayBeMarked notTcpRelay notUdpRelay untracked opening marked.1, rfl, marked.2.2⟩⟩
          · rcases unmarked with ⟨_, ⟨verdict, single⟩, kept⟩
            exact ⟨_, single, Or.inl ⟨rfl, kept⟩⟩
      · rcases passed with ⟨issued, single, unmarked⟩
        exact ⟨_, if_neg active, issued, single, Or.inl unmarked⟩

/-- The iteration drops the packet. -/
def Drops (args : NfqueueArgs) (host : HostAnswers) (now : Instant) (tables : SharedTables)
    (payload : Octets) : Prop :=
  Exists fun result => nfqueueIteration args host now tables payload = some result ∧
    ⟨.drop, none⟩ ∈ result.issued

/-- The packet reaches the pipeline: none of the early exits applies. -/
def ReachesPipeline (args : NfqueueArgs) (tables : SharedTables) (packet : Packet) : Prop :=
  args.ruleEngine.hasActiveRules = true ∧
    Not (packet.isTcp = true ∧ packet.srcPort = localProxyPort) ∧
    Not (packet.isUdp = true ∧ packet.srcPort = localUdpRelayPort) ∧
    tables.connTracker.isTracked packet.srcPort = false ∧
    Not (packet.isTcp = true ∧ packet.isSyn = false)

section Drops

variable (args : NfqueueArgs) (host : HostAnswers) (now : Instant) (tables : SharedTables)
  (payload : Octets)

theorem processPacket_of_reaches {packet : Packet} (reaches : ReachesPipeline args tables packet) :
    processPacket args host now tables packet = decisionPipeline args host now tables packet := by
  rcases reaches with ⟨_, notTcpRelay, notUdpRelay, untracked, opening⟩
  have notTracked : Not (tables.connTracker.isTracked packet.srcPort = true) := by
    rw [untracked]
    exact Bool.false_ne_true
  unfold processPacket
  rw [if_neg notTcpRelay, if_neg notUdpRelay, if_neg notTracked, if_neg opening]

/-- Only a match that says `block` drops a packet; the guards behind it do not
matter. -/
theorem drops_iff :
    Drops args host now tables payload <->
      Exists fun packet => packetOf args.order payload = some packet ∧
        ReachesPipeline args tables packet ∧
        (matchPacket args host now tables.pidCache packet).action = .block := by
  have passes : Not (⟨.drop, none⟩ ∈ (passUnmarked tables).issued) := by
    intro member
    cases List.mem_singleton.mp member
  have pipeline : forall packet,
      ⟨.drop, none⟩ ∈ (decisionPipeline args host now tables packet).issued <->
        (matchPacket args host now tables.pidCache packet).action = .block := by
    intro packet
    rw [← downgrade_eq_block_iff args.proxyConfig packet]
    change ⟨.drop, none⟩ ∈ (issueAction now tables.connTracker packet
      (decidedAction args host now tables.pidCache packet)).1 <->
        decidedAction args host now tables.pidCache packet = .block
    cases decidedAction args host now tables.pidCache packet with
    | proxy => exact iff_of_false (fun member => by cases List.mem_singleton.mp member) (by decide)
    | direct => exact iff_of_false (fun member => by cases List.mem_singleton.mp member) (by decide)
    | block => exact iff_of_true (List.mem_singleton_self _) rfl
  unfold Drops
  rw [nfqueueIteration_eq]
  constructor
  · intro dropped
    rcases dropped with ⟨result, run, member⟩
    cases parsed : packetOf args.order payload with
    | none =>
        rw [parsed] at run
        cases run
        exact absurd member passes
    | some packet =>
        rw [parsed] at run
        by_cases active : args.ruleEngine.hasActiveRules = true
        · cases (if_pos active).symm.trans run
          rcases processPacket_cases args host now tables packet with early | late
          · rw [early] at member
            exact absurd member passes
          · rw [late.1] at member
            exact ⟨packet, rfl, ⟨active, late.2⟩, (pipeline packet).mp member⟩
        · cases (if_neg active).symm.trans run
          exact absurd member passes
  · intro blocked
    rcases blocked with ⟨packet, parsed, reaches, matched⟩
    rw [parsed]
    refine ⟨_, if_pos reaches.1, ?_⟩
    rw [processPacket_of_reaches args host now tables reaches]
    exact (pipeline packet).mpr matched

/-- A DNS query that stays direct is never dropped. -/
theorem not_drops_of_direct_dns {packet : Packet} (parsed : packetOf args.order payload = some packet)
    (dns : packet.destPort = 53) (off : args.dnsViaProxy = false) :
    Not (Drops args host now tables payload) := by
  intro dropped
  rcases (drops_iff args host now tables payload).mp dropped with ⟨other, same, _, blocked⟩
  rw [parsed] at same
  cases same
  rw [matchPacket, if_pos ⟨dns, off⟩] at blocked
  cases blocked

/-- The match does not look at the settings of the proxy, and at the DNS flag
only for destination port 53. -/
theorem matchPacket_of_settings (proxyConfig : ProxyConfig) {dnsViaProxy : Bool} (cache : PidCache)
    {packet : Packet} (agree : packet.destPort = 53 -> args.dnsViaProxy = dnsViaProxy) :
    matchPacket { args with proxyConfig := proxyConfig, dnsViaProxy := dnsViaProxy } host now cache
      packet = matchPacket args host now cache packet := by
  unfold matchPacket
  by_cases dns : packet.destPort = 53
  · rw [agree dns]
  · rw [if_neg (fun both => dns both.1), if_neg (fun both => dns both.1)]

end Drops

/-- The settings of the proxy have no part in what is dropped.  The DNS flag
matters for destination port 53 alone, and there the configuration without DNS
through the proxy drops nothing. -/
theorem drops_iff_of_settings (args : NfqueueArgs) (proxyConfig : ProxyConfig)
    (dnsViaProxy : Bool) (host : HostAnswers) (now : Instant) (tables : SharedTables)
    (payload : Octets) :
    let other := { args with proxyConfig := proxyConfig, dnsViaProxy := dnsViaProxy }
    ((forall packet, packetOf args.order payload = some packet -> packet.destPort = 53 ->
        args.dnsViaProxy = dnsViaProxy) ->
      (Drops args host now tables payload <-> Drops other host now tables payload)) ∧
    forall packet, packetOf args.order payload = some packet -> packet.destPort = 53 ->
      (args.dnsViaProxy = false -> Not (Drops args host now tables payload)) ∧
      (dnsViaProxy = false -> Not (Drops other host now tables payload)) := by
  intro other
  refine ⟨?_, ?_⟩
  · intro agree
    rw [drops_iff, drops_iff]
    apply exists_congr
    intro packet
    apply and_congr_right
    intro parsed
    apply and_congr_right
    intro _
    rw [matchPacket_of_settings args host now proxyConfig tables.pidCache (agree packet parsed)]
  · intro packet parsed dns
    exact ⟨not_drops_of_direct_dns args host now tables payload parsed dns,
      not_drops_of_direct_dns other host now tables payload parsed dns⟩

/-! The two configurations of the counterexample block everything, and differ in
the DNS flag alone. -/

/-- A rule that blocks every connection. -/
def blockEverything : Rule where
  id := 1
  processName := "*".toList
  targetHosts := "*".toList
  targetPorts := "*".toList
  protocol := .both
  action := .block
  enabled := true

def blockingArgs (dnsViaProxy : Bool) : NfqueueArgs where
  order := .little
  ruleEngine := ⟨[blockEverything]⟩
  proxyConfig :=
    { proxyType := .socks5, host := "proxy".toList, port := 1080, username := none,
      password := none, resolvedIp := none }
  dnsViaProxy := dnsViaProxy
  currentPid := 9

/-- Every socket belongs to process 1. -/
def systemdHost : HostAnswers where
  pidViaNetlink := fun _ _ _ => some 1
  pidFromProcNetUdp := fun _ => none
  exeLink := fun _ => none

/-- A UDP packet from 10.0.0.2:4096 to 8.8.8.8:53. -/
def dnsQuery : Octets :=
  [0x45, 0, 0, 28, 0, 0, 0, 0, 64, 17, 0, 0, 10, 0, 0, 2, 8, 8, 8, 8, 0x10, 0, 0, 53, 0, 8, 0, 0]

/-- Switching DNS through the proxy off lets a blocked query pass. -/
theorem dns_flag_weakens_blocking :
    Not (forall (args : NfqueueArgs) (proxyConfig : ProxyConfig) (dnsViaProxy : Bool)
      (host : HostAnswers) (now : Instant) (tables : SharedTables) (payload : Octets),
      Drops args host now tables payload <->
        Drops { args with proxyConfig := proxyConfig, dnsViaProxy := dnsViaProxy } host now tables
          payload) := by
  intro independent
  let tables : SharedTables := ⟨.new, .new⟩
  have same := independent (blockingArgs true) (blockingArgs true).proxyConfig false systemdHost 0
    tables dnsQuery
  have dropped : Drops (blockingArgs true) systemdHost 0 tables dnsQuery :=
    ⟨_, rfl, List.mem_singleton_self _⟩
  exact not_drops_of_direct_dns (blockingArgs false) systemdHost 0 tables dnsQuery rfl rfl rfl
    (same.mp dropped)

end ProxyBridge
