import ProxyBridge.Linux.PacketSafety

namespace ProxyBridge

open Foundation Text

/-!
# When the owner of a packet is looked up

An iteration looks up an owner for a packet that reaches the decision pipeline,
unless the packet is a DNS query that stays direct.  For every other payload it
does what `passUnmarked` does.

A lookup takes the cached PID if there is one.  Only without one is the host
asked, and a known owner is then cached.
-/

/-- A DNS query that stays direct by configuration. -/
def Packet.DirectDns (args : NfqueueArgs) (packet : Packet) : Prop :=
  packet.destPort = 53 ∧ args.dnsViaProxy = false

/-- The owner of the socket is looked up for the packet. -/
def AsksOwner (args : NfqueueArgs) (tables : SharedTables) (packet : Packet) : Prop :=
  ReachesPipeline args tables packet ∧ Not (packet.DirectDns args)

section Iteration

variable (args : NfqueueArgs) (host : HostAnswers) (now : Instant) (tables : SharedTables)
  {payload : Octets} {packet : Packet}

theorem nfqueueIteration_of_reaches (parsed : packetOf args.order payload = some packet)
    (reaches : ReachesPipeline args tables packet) :
    nfqueueIteration args host now tables payload =
      some (decisionPipeline args host now tables packet) := by
  rw [nfqueueIteration_eq, parsed]
  simp only [if_pos reaches.1, processPacket_of_reaches args host now tables reaches]

theorem nfqueueIteration_of_not_reaches (parsed : packetOf args.order payload = some packet)
    (passes : Not (ReachesPipeline args tables packet)) :
    nfqueueIteration args host now tables payload = some (passUnmarked tables) := by
  rw [nfqueueIteration_eq, parsed]
  by_cases active : args.ruleEngine.hasActiveRules = true
  · rcases processPacket_cases args host now tables packet with early | late
    · simp only [if_pos active, early]
    · exact absurd ⟨active, late.2⟩ passes
  · exact if_neg active

theorem nfqueueIteration_of_unparsed (unparsed : packetOf args.order payload = none) :
    nfqueueIteration args host now tables payload = some (passUnmarked tables) := by
  rw [nfqueueIteration_eq, unparsed]

/-- A direct DNS query goes through the pipeline as if it had passed before. -/
theorem decisionPipeline_of_directDns (dns : packet.DirectDns args) :
    decisionPipeline args host now tables packet = passUnmarked tables := by
  have matched : matchPacket args host now tables.pidCache packet =
      { action := .direct, lookups := [], pidCache := tables.pidCache } := if_pos dns
  have decided : decidedAction args host now tables.pidCache packet = .direct := by
    rw [decidedAction, matched]
    unfold downgrade directIf
    simp
  simp only [decisionPipeline, decided, matched]
  rfl

/-- Behind the DNS gate the pipeline looks up the owner of the packet's socket. -/
theorem lookups_decisionPipeline (other : Not (packet.DirectDns args)) :
    (decisionPipeline args host now tables packet).lookups =
      [⟨packet.srcIp, packet.srcPort, packet.isUdp⟩] := by
  change (matchPacket args host now tables.pidCache packet).lookups = _
  exact congrArg Matched.lookups (if_neg other)

end Iteration

/-- What the host says about the owner of a socket; 0 when it does not know. -/
def HostAnswers.owner (host : HostAnswers) (key : PidCacheKey) : UInt32 :=
  match host.pidViaNetlink key.srcIp key.srcPort key.isUdp with
  | some pid => pid
  | none => if key.isUdp then (host.pidFromProcNetUdp key.srcPort).getD 0 else 0

/-- A lookup takes the cached PID, or asks the host and caches what it says. -/
theorem getPidFromConnection_eq (host : HostAnswers) (now : Instant) (cache : PidCache)
    (key : PidCacheKey) :
    getPidFromConnection host now cache key.srcIp key.srcPort key.isUdp =
      match cache.get now key.srcIp key.srcPort key.isUdp with
      | some pid => (pid, cache)
      | none => (host.owner key,
          if host.owner key ≠ 0 then
            cache.put now key.srcIp key.srcPort (host.owner key) key.isUdp
          else cache) :=
  rfl

end ProxyBridge
