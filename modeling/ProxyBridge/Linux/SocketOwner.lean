import ProxyBridge.Foundation.FirstMatch
import ProxyBridge.Linux.NetlinkScan
import ProxyBridge.Linux.OwnerLookup
import ProxyBridge.Linux.UdpFallback

namespace ProxyBridge

open Foundation Text Netlink Octets

/-!
# Whom the host names as the owner of a socket

The packet loop takes the answers of the host as given.  Here they come from what
the host is like while a packet is handled: the dump of its sockets, the tables
in `/proc/net`, and the directories of `/proc`.

A known owner is the first process that holds a certain inode, among those that a
UID lets pass.  Which inode this is depends on the first socket in the dump with
the address and the port of the packet, and for UDP, without an owner for that
socket, on the first line of the tables with the port (`owner_eq_iff_names`).
-/

/-- The state of the host while a packet is handled.  The dump is absent when no
socket for it can be opened or the request cannot be sent.  The two scans of
`/proc` come one after the other and may find different processes. -/
structure HostState (order : ByteOrder) where
  kernel : NetlinkKernel
  dumps : Bool -> Option (Dump order)
  dumpProc : ProcSnapshot
  udp : NetTable
  udp6 : NetTable
  tableProc : ProcSnapshot
  readLink : Str -> Option Str
  answered : forall isUdp, kernel.answers (nlRequest order isUdp) =
    (dumps isUdp).map Dump.datagrams

/-- The link to the executable of a process. -/
def exePath (pid : UInt32) : Str :=
  "/proc/".toList ++ decimal pid.toNat ++ "/exe".toList

namespace HostState

variable {order : ByteOrder} (state : HostState order)

/-- A number of messages that the loops over the dump do not reach. -/
def enoughMessages (isUdp : Bool) : Nat :=
  (state.dumps isUdp).elim 0 (fun dump => dump.messages.length) + 1

/-- What the functions of the program return on this host. -/
def answers : HostAnswers where
  pidViaNetlink := fun srcIp srcPort isUdp =>
    (getPidViaNetlink (state.enoughMessages isUdp) order state.kernel state.dumpProc srcIp srcPort
      isUdp).join
  pidFromProcNetUdp := getPidFromProcNetUdp state.udp state.udp6 state.tableProc
  exeLink := fun pid => state.readLink (exePath pid)

/-- The dump as the program sees it. -/
def seenDump (isUdp : Bool) : Option (Dump order) :=
  if state.kernel.opens then state.dumps isUdp else none

/-- The first message of the dump about the socket leads to this answer. -/
def dumpOwner (socket : PidCacheKey) : Option UInt32 :=
  (state.seenDump socket.isUdp).bind fun dump =>
    (dump.messages.find? (DiagMessage.concerns socket.srcIp socket.srcPort)).bind fun message =>
      if message.record.inode.toUInt64 ≠ 0 then
        findPidFromInode state.dumpProc message.record.inode.toUInt64 message.record.uid
      else none

/-- The loops end, and nothing is read beyond the buffer. -/
theorem getPidViaNetlink_eq (socket : PidCacheKey) {fuel : Nat}
    (enough : state.enoughMessages socket.isUdp ≤ fuel) :
    getPidViaNetlink fuel order state.kernel state.dumpProc socket.srcIp socket.srcPort
      socket.isUdp = some (state.dumpOwner socket) := by
  rw [getPidViaNetlink, dumpOwner, seenDump, state.answered]
  cases state.kernel.opens with
  | false => rfl
  | true =>
      rw [enoughMessages] at enough
      cases dumped : state.dumps socket.isUdp with
      | none => rfl
      | some dump =>
          rw [dumped] at enough
          have scanned := receiveLoop_dump socket.srcIp socket.srcPort dump enough .zeroed
          simp only [Option.map_some, scanned, Dump.expected]
          cases found : dump.messages.find?
              (DiagMessage.concerns socket.srcIp socket.srcPort) with
          | none => simp [found]
          | some message => simp [found, DiagMessage.answer]

/-- The loops of the program answer what can be read off the dump. -/
theorem answers_eq :
    state.answers = {
      pidViaNetlink := fun srcIp srcPort isUdp => state.dumpOwner ⟨srcIp, srcPort, isUdp⟩
      pidFromProcNetUdp := getPidFromProcNetUdp state.udp state.udp6 state.tableProc
      exeLink := fun pid => state.readLink (exePath pid) } := by
  have named : state.answers.pidViaNetlink =
      fun srcIp srcPort isUdp => state.dumpOwner ⟨srcIp, srcPort, isUdp⟩ := by
    funext srcIp srcPort isUdp
    exact congrArg Option.join (state.getPidViaNetlink_eq ⟨srcIp, srcPort, isUdp⟩ (Nat.le_refl _))
  rw [← named]
  rfl

end HostState

/-! ## The named owner -/

/-- The first process that holds the inode and that the UID lets pass. -/
def FirstHolder (proc : ProcSnapshot) (inode : UInt64) (uid pid : UInt32) : Prop :=
  Exists fun listed => proc.entries = some listed ∧ Exists fun holder =>
    First (fun entry : ProcEntry => entry.holds inode = true ∧ entry.admitted uid = true) listed
      holder ∧ holder.name = decimal pid.toNat

theorem findPidFromInode_eq_some_iff_firstHolder {proc : ProcSnapshot} {inode : UInt64}
    {uid pid : UInt32} :
    findPidFromInode proc inode uid = some pid <-> FirstHolder proc inode uid pid := by
  have chosen : (fun entry : ProcEntry => entry.holds inode = true ∧ entry.admitted uid = true) =
      fun entry => entry.chosen inode uid = true := by
    funext entry
    exact propext ProcEntry.chosen_iff.symm
  rw [findPidFromInode_eq_some_iff, FirstHolder, chosen]
  simp only [find?_eq_some_iff_first]

namespace HostState

variable {order : ByteOrder} (state : HostState order)

/-- The dump leads to the process: its first socket with this address and port
has an inode, and the process is the first that holds it. -/
def NamesByDump (socket : PidCacheKey) (pid : UInt32) : Prop :=
  state.kernel.opens = true ∧ Exists fun dump => state.dumps socket.isUdp = some dump ∧
    Exists fun message : DiagMessage =>
      First (fun other : DiagMessage => other.record.source = socket.srcIp ∧
        other.record.sourcePort = socket.srcPort) dump.messages message ∧
      message.record.inode ≠ 0 ∧
      FirstHolder state.dumpProc message.record.inode.toUInt64 message.record.uid pid

/-- The search of the tables for the port of the socket. -/
def udpLookup (socket : PidCacheKey) : UdpLookup where
  order := order
  udp := state.udp
  udp6 := state.udp6
  proc := state.tableProc
  srcIp := socket.srcIp
  srcPort := socket.srcPort

/-- The tables lead to the process: it is the first that holds the inode of the
first line with the port and an inode. -/
def NamesByTables (socket : PidCacheKey) (pid : UInt32) : Prop :=
  Exists fun inode => Exists fun uid => (state.udpLookup socket).Decides inode uid ∧
    FirstHolder state.tableProc inode uid pid

/-- The dump names the process, or nobody; then for UDP the tables may. -/
inductive Names (socket : PidCacheKey) (pid : UInt32) : Prop where
  | byDump (named : state.NamesByDump socket pid)
  | byTables (udp : socket.isUdp = true) (silent : forall other, Not (state.NamesByDump socket other))
      (named : state.NamesByTables socket pid)

variable {state} {socket : PidCacheKey} {pid : UInt32}

theorem dumpOwner_eq_some_iff :
    state.dumpOwner socket = some pid <-> state.NamesByDump socket pid := by
  have concerned : forall message : DiagMessage,
      message.concerns socket.srcIp socket.srcPort = true <->
        message.record.source = socket.srcIp ∧ message.record.sourcePort = socket.srcPort := by
    intro message
    rw [DiagMessage.concerns, Bool.and_eq_true, beq_iff_eq, beq_iff_eq]
  have inode : forall number : UInt32, number.toUInt64 ≠ 0 <-> number ≠ 0 := by
    intro number
    refine not_congr ⟨fun zero => ?_, fun zero => by rw [zero]; rfl⟩
    exact UInt32.toNat_inj.mp (by rw [← UInt32.toNat_toUInt64, zero]; rfl)
  rw [dumpOwner, seenDump, NamesByDump]
  cases state.kernel.opens with
  | false =>
      refine iff_of_false ?_ (fun named => Bool.false_ne_true named.1)
      intro impossible
      cases impossible
  | true =>
      simp only [if_true, true_and, Option.bind_eq_some_iff, find?_eq_some_iff_first, concerned,
        Option.ite_none_right_eq_some, findPidFromInode_eq_some_iff_firstHolder, inode]

theorem getPidFromProcNetUdp_eq_some_iff :
    getPidFromProcNetUdp state.udp state.udp6 state.tableProc socket.srcPort = some pid <->
      state.NamesByTables socket pid := by
  change (state.udpLookup socket).answer = some pid <-> _
  constructor
  · intro named
    cases searched : (state.udpLookup socket).lines.findSome? (selectUdpLine socket.srcPort) with
    | none =>
        rw [UdpLookup.answer_of_undecided searched] at named
        cases named
    | some found =>
        have decides := ((state.udpLookup socket).decides_iff found.1 found.2).mpr searched
        rw [UdpLookup.answer_of_decides decides] at named
        exact ⟨found.1, found.2, decides, findPidFromInode_eq_some_iff_firstHolder.mp named⟩
  · rintro ⟨inode, uid, decides, holder⟩
    rw [UdpLookup.answer_of_decides decides]
    exact findPidFromInode_eq_some_iff_firstHolder.mpr holder

/-- The owner that the host is said to know is the one that its dump or its
tables lead to. -/
theorem owner_eq_iff_names (known : pid ≠ 0) :
    state.answers.owner socket = pid <-> state.Names socket pid := by
  rw [HostAnswers.owner, answers_eq]
  dsimp only
  cases dumped : state.dumpOwner socket with
  | some other =>
      have named := dumpOwner_eq_some_iff.mp dumped
      constructor
      · rintro rfl
        exact .byDump named
      · rintro (again | ⟨_, silent, _⟩)
        · exact Option.some.inj (dumped.symm.trans (dumpOwner_eq_some_iff.mpr again))
        · exact absurd named (silent other)
  | none =>
      have silent : forall other, Not (state.NamesByDump socket other) := by
        intro other named
        cases dumped.symm.trans (dumpOwner_eq_some_iff.mpr named)
      cases udp : socket.isUdp with
      | false =>
          refine iff_of_false (fun zero => known zero.symm) ?_
          rintro (named | ⟨isUdp, _, _⟩)
          · exact silent pid named
          · cases udp.symm.trans isUdp
      | true =>
          rw [if_pos rfl]
          constructor
          · intro named
            refine .byTables udp silent (getPidFromProcNetUdp_eq_some_iff.mp ?_)
            cases found : getPidFromProcNetUdp state.udp state.udp6 state.tableProc socket.srcPort with
            | none =>
                rw [found] at named
                exact absurd named.symm known
            | some other =>
                rw [found] at named
                exact congrArg some named
          · rintro (named | ⟨_, _, named⟩)
            · exact absurd named (silent pid)
            · rw [getPidFromProcNetUdp_eq_some_iff.mpr named, Option.getD_some]

/-- Whoever is named holds a socket. -/
theorem Names.owns (named : state.Names socket pid) :
    Exists fun inode => Owns state.dumpProc inode pid ∨ Owns state.tableProc inode pid := by
  rcases named with ⟨_, dump, _, message, _, _, holder⟩ | ⟨_, _, inode, uid, _, holder⟩
  · exact ⟨_, Or.inl (findPidFromInode_owns
      (findPidFromInode_eq_some_iff_firstHolder.mpr holder))⟩
  · exact ⟨inode, Or.inr (findPidFromInode_owns
      (findPidFromInode_eq_some_iff_firstHolder.mpr holder))⟩

end HostState

end ProxyBridge
