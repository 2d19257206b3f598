import ProxyBridge.Foundation.Bytes
import ProxyBridge.Linux.ProcScan

namespace ProxyBridge

open Foundation Text

/-!
# The owner of a UDP packet from the socket tables

A line of a socket table lists a socket when all the fields in question can be
read: the local address in the words that the kernel prints, the port in four
hexadecimal digits, the UID and the inode in decimals.

The search compares ports only, and the first line for the port decides.  Its
answer is right when that line serves the packet: its process owns a socket that
receives on the address as well, or no other line leads to one.
-/

/-- A local address, in the words that it is printed in. -/
inductive LocalAddress where
  | v4 (word : UInt32)
  | v6 (first second third fourth : UInt32)
  deriving DecidableEq

/-- The address is the wildcard or the given one; either may be mapped into
IPv6. -/
def LocalAddress.Covers (order : Octets.ByteOrder) (srcIp : UInt32) : LocalAddress -> Prop
  | .v4 word => word = srcIp ∨ word = 0
  | .v6 first second third fourth =>
      first = 0 ∧ second = 0 ∧
        ((third = 0 ∧ fourth = 0) ∨
          (third = Octets.fromNeBytes order [0, 0, 0xFF, 0xFF] ∧ (fourth = srcIp ∨ fourth = 0)))

/-- A socket as a line lists it. -/
structure UdpSocket where
  address : LocalAddress
  port : UInt16
  uid : UInt32
  inode : UInt64
  deriving DecidableEq

def readHexWord (s : Str) : Option UInt32 :=
  if s.length = 8 then (ofHexDigits s).map UInt32.ofNat else none

/-- The addresses of `/proc/net/udp`. -/
def readAddressV4 (s : Str) : Option LocalAddress :=
  (readHexWord s).map LocalAddress.v4

/-- The addresses of `/proc/net/udp6`. -/
def readAddressV6 (s : Str) : Option LocalAddress :=
  match readHexWord (s.take 8), readHexWord ((s.drop 8).take 8), readHexWord ((s.drop 16).take 8),
      readHexWord (s.drop 24) with
  | some first, some second, some third, some fourth => some (.v6 first second third fourth)
  | _, _, _, _ => none

def readHexPort (s : Str) : Option UInt16 :=
  if s.length = 4 ∧ s.all (fun c => (hexDigitValue c).isSome) = true then parseHexU16 s else none

/-- The socket that a line lists, if all of it can be read. -/
def readUdpSocket (readAddress : Str -> Option LocalAddress) (line : Str) : Option UdpSocket :=
  let fields := splitWhitespace line
  if fields.length < 10 then none
  else
    match splitOnce ':' (fields.getD 1 []) with
    | none => none
    | some (addressHex, portHex) =>
        match readAddress addressHex, readHexPort portHex, parseU32 (fields.getD 7 []),
            parseU64 (fields.getD 9 []) with
        | some address, some port, some uid, some inode => some ⟨address, port, uid, inode⟩
        | _, _, _, _ => none

/-- The readable lines of a file, without its header. -/
def tableLines : NetTable -> List Str
  | none => []
  | some lines => (lines.drop 1).reduceOption

def listedSockets (udp udp6 : NetTable) : List UdpSocket :=
  (tableLines udp).filterMap (readUdpSocket readAddressV4) ++
    (tableLines udp6).filterMap (readUdpSocket readAddressV6)

theorem searchUdpLines_eq (srcPort : UInt16) (lines : List (Option Str)) :
    searchUdpLines srcPort lines = lines.reduceOption.findSome? (selectUdpLine srcPort) := by
  induction lines with
  | nil => rfl
  | cons line rest ih =>
      cases line with
      | none =>
          rw [searchUdpLines, List.reduceOption_cons_of_none]
          exact ih
      | some line =>
          rw [searchUdpLines, List.reduceOption_cons_of_some, List.findSome?_cons, ih]
          cases selectUdpLine srcPort line with
          | none => rfl
          | some found => rfl

theorem searchUdpTables_eq (srcPort : UInt16) (tables : List NetTable) :
    searchUdpTables srcPort tables =
      (tables.flatMap tableLines).findSome? (selectUdpLine srcPort) := by
  induction tables with
  | nil => rfl
  | cons table rest ih =>
      rw [List.flatMap_cons, List.findSome?_append, ← ih]
      cases table with
      | none => rfl
      | some lines =>
          rw [searchUdpTables, searchUdpLines_eq, tableLines]
          cases (lines.drop 1).reduceOption.findSome? (selectUdpLine srcPort) with
          | none => rfl
          | some found => rfl

/-- A line that lists a socket with an inode ends the search for its port. -/
theorem selectUdpLine_of_read {readAddress : Str -> Option LocalAddress} {line : Str}
    {socket : UdpSocket} (read : readUdpSocket readAddress line = some socket)
    (numbered : socket.inode ≠ 0) :
    selectUdpLine socket.port line = some (socket.inode, socket.uid) := by
  rw [readUdpSocket] at read
  rw [selectUdpLine]
  by_cases short : (splitWhitespace line).length < 10
  · simp only [if_pos short] at read
    cases read
  · simp only [if_neg short] at read ⊢
    cases parts : splitOnce ':' ((splitWhitespace line).getD 1 []) with
    | none =>
        simp only [parts] at read
        cases read
    | some parts' =>
        rcases parts' with ⟨addressHex, portHex⟩
        simp only [parts] at read ⊢
        split at read
        · rename_i address port uid inode address_eq port_eq uid_eq inode_eq
          cases read
          have parsed : parseHexU16 portHex = some port := by
            rw [readHexPort] at port_eq
            split at port_eq
            · exact port_eq
            · cases port_eq
          simp only [parsed, uid_eq, inode_eq, Option.getD_some, if_pos, if_pos numbered]
        · cases read

/-! ## Which answers are right -/

/-- A UDP packet whose owner is looked for in the tables. -/
structure UdpLookup where
  order : Octets.ByteOrder
  udp : NetTable
  udp6 : NetTable
  proc : ProcSnapshot
  srcIp : UInt32
  srcPort : UInt16

namespace UdpLookup

def answer (lookup : UdpLookup) : Option UInt32 :=
  getPidFromProcNetUdp lookup.udp lookup.udp6 lookup.proc lookup.srcPort

def lines (lookup : UdpLookup) : List Str :=
  tableLines lookup.udp ++ tableLines lookup.udp6

/-- A listed socket that is bound to the port and to the address or the
wildcard. -/
def Receives (lookup : UdpLookup) (socket : UdpSocket) : Prop :=
  socket ∈ listedSockets lookup.udp lookup.udp6 ∧ socket.port = lookup.srcPort ∧
    socket.address.Covers lookup.order lookup.srcIp

/-- An answer is the PID of a process that owns such a socket. -/
def Sound (lookup : UdpLookup) : Prop :=
  forall pid, lookup.answer = some pid -> Exists fun socket =>
    lookup.Receives socket ∧ Owns lookup.proc socket.inode pid

/-- There is an answer when such a socket has an inode that is resolved. -/
def Complete (lookup : UdpLookup) : Prop :=
  forall socket, lookup.Receives socket -> socket.inode ≠ 0 ->
    (Exists fun pid => findPidFromInode lookup.proc socket.inode socket.uid = some pid) ->
    Exists fun pid => lookup.answer = some pid

/-- The first line that names the port and an inode. -/
def Decides (lookup : UdpLookup) (inode : UInt64) (uid : UInt32) : Prop :=
  Exists fun before => Exists fun line => Exists fun after =>
    lookup.lines = before ++ line :: after ∧
      selectUdpLine lookup.srcPort line = some (inode, uid) ∧
      forall earlier, earlier ∈ before -> selectUdpLine lookup.srcPort earlier = none

/-- The first holder that the UID does not pass over also holds a socket that
receives the packet. -/
def FirstHolderReceives (lookup : UdpLookup) (inode : UInt64) (uid : UInt32) : Prop :=
  forall listed first, lookup.proc.entries = some listed ->
    listed.find? (ProcEntry.chosen inode uid) = some first ->
    Exists fun socket => lookup.Receives socket ∧ first.holds socket.inode = true

/-- No socket that receives the packet has a holder that its UID does not pass
over. -/
def NoneReachable (lookup : UdpLookup) : Prop :=
  forall socket, lookup.Receives socket -> socket.inode ≠ 0 ->
    Not (AdmitsHolder lookup.proc socket.inode socket.uid)

/-- The deciding line, if there is one, leads to a process that receives the
packet, or neither it nor any socket that receives the packet leads to a
process. -/
def DecidedRightly (lookup : UdpLookup) : Prop :=
  forall inode uid, lookup.Decides inode uid ->
    lookup.FirstHolderReceives inode uid ∧
      (AdmitsHolder lookup.proc inode uid ∨ lookup.NoneReachable)

theorem decides_iff (lookup : UdpLookup) (inode : UInt64) (uid : UInt32) :
    lookup.Decides inode uid <->
      lookup.lines.findSome? (selectUdpLine lookup.srcPort) = some (inode, uid) :=
  List.findSome?_eq_some_iff.symm

theorem search_eq (lookup : UdpLookup) :
    searchUdpTables lookup.srcPort [lookup.udp, lookup.udp6] =
      lookup.lines.findSome? (selectUdpLine lookup.srcPort) := by
  rw [searchUdpTables_eq, lines, List.flatMap_cons, List.flatMap_cons, List.flatMap_nil,
    List.append_nil]

theorem answer_of_decides {lookup : UdpLookup} {inode : UInt64} {uid : UInt32}
    (decides : lookup.Decides inode uid) :
    lookup.answer = findPidFromInode lookup.proc inode uid := by
  rw [answer, getPidFromProcNetUdp, search_eq, (lookup.decides_iff inode uid).mp decides]

theorem answer_of_undecided {lookup : UdpLookup}
    (undecided : lookup.lines.findSome? (selectUdpLine lookup.srcPort) = none) :
    lookup.answer = none := by
  rw [answer, getPidFromProcNetUdp, search_eq, undecided]

/-- A socket on the port with an inode stands on a line that names both. -/
theorem selected_of_receives {lookup : UdpLookup} {socket : UdpSocket}
    (receives : lookup.Receives socket) (numbered : socket.inode ≠ 0) :
    Exists fun line => line ∈ lookup.lines ∧
      selectUdpLine lookup.srcPort line = some (socket.inode, socket.uid) := by
  rcases receives with ⟨listed, port, _⟩
  rw [← port]
  rcases List.mem_append.mp listed with inUdp | inUdp6
  · rcases List.mem_filterMap.mp inUdp with ⟨line, member, read⟩
    exact ⟨line, List.mem_append_left _ member, selectUdpLine_of_read read numbered⟩
  · rcases List.mem_filterMap.mp inUdp6 with ⟨line, member, read⟩
    exact ⟨line, List.mem_append_right _ member, selectUdpLine_of_read read numbered⟩

theorem sound_iff_of_decides {lookup : UdpLookup} {inode : UInt64} {uid : UInt32}
    (decides : lookup.Decides inode uid) :
    lookup.Sound <-> lookup.FirstHolderReceives inode uid := by
  rw [Sound, answer_of_decides decides]
  constructor
  · intro sound listed first readable first_eq
    rcases findPidFromInode_of_find readable first_eq with ⟨pid, name, found⟩
    rcases sound pid found with
      ⟨socket, receives, listed', readable', entry, entry_member, entry_holds, entry_name⟩
    have listings : listed' = listed := Option.some.inj (readable'.symm.trans readable)
    rw [listings] at entry_member
    have same : entry = first :=
      lookup.proc.eq_of_name readable entry_member (List.mem_of_find?_eq_some first_eq)
        (entry_name.trans name.symm)
    rw [same] at entry_holds
    exact ⟨socket, receives, entry_holds⟩
  · intro serves pid found
    rcases findPidFromInode_eq_some_iff.mp found with ⟨listed, readable, first, first_eq, name⟩
    rcases serves listed first readable first_eq with ⟨socket, receives, holds⟩
    exact ⟨socket, receives, listed, readable, first, List.mem_of_find?_eq_some first_eq, holds,
      name⟩

theorem complete_iff_of_decides {lookup : UdpLookup} {inode : UInt64} {uid : UInt32}
    (decides : lookup.Decides inode uid) :
    lookup.Complete <-> AdmitsHolder lookup.proc inode uid ∨ lookup.NoneReachable := by
  rw [Complete, answer_of_decides decides, resolves_iff]
  constructor
  · intro complete
    by_cases admits : AdmitsHolder lookup.proc inode uid
    · exact Or.inl admits
    · refine Or.inr ?_
      intro socket receives numbered reachable
      exact admits (complete socket receives numbered ((resolves_iff _ _ _).mpr reachable))
  · intro right socket receives numbered resolved
    rcases right with admits | unreachable
    · exact admits
    · exact absurd ((resolves_iff _ _ _).mp resolved) (unreachable socket receives numbered)

end UdpLookup

/-- The search is sound and complete exactly when the deciding line is right. -/
theorem udpFallback_right_iff (lookup : UdpLookup) :
    lookup.Sound ∧ lookup.Complete <-> lookup.DecidedRightly := by
  cases search : lookup.lines.findSome? (selectUdpLine lookup.srcPort) with
  | none =>
      have silent := UdpLookup.answer_of_undecided search
      constructor
      · rintro _ inode uid decides
        rw [UdpLookup.decides_iff, search] at decides
        cases decides
      · intro _
        constructor
        · intro pid found
          rw [silent] at found
          cases found
        · intro socket receives numbered _
          rcases UdpLookup.selected_of_receives receives numbered with ⟨line, member, selected⟩
          rw [List.findSome?_eq_none_iff.mp search line member] at selected
          cases selected
  | some found =>
      rcases found with ⟨inode, uid⟩
      have decides : lookup.Decides inode uid := (lookup.decides_iff inode uid).mpr search
      rw [UdpLookup.sound_iff_of_decides decides, UdpLookup.complete_iff_of_decides decides]
      constructor
      · rintro right inode' uid' decides'
        rw [UdpLookup.decides_iff, search] at decides'
        cases decides'
        exact right
      · intro right
        exact right inode uid decides

/-- Port 5353 is bound to 127.0.0.1 with inode 11 and to the wildcard with inode
12; the packet comes from 10.0.0.2. -/
def boundTwice (holders : List (UInt32 × Str)) (distinct : (holders.map Prod.fst).Nodup) :
    UdpLookup where
  order := .little
  udp := some [some "  sl  local_address rem_address".toList,
    some ("  10: 0100007F:14E9 00000000:0000 07 00000000:00000000 00:00000000 " ++
      "00000000  1000        0 11 2 0000000000000000 0").toList,
    some ("  11: 00000000:14E9 00000000:0000 07 00000000:00000000 00:00000000 " ++
      "00000000  1000        0 12 2 0000000000000000 0").toList]
  udp6 := none
  proc := ProcSnapshot.ofHolders 1000 holders distinct
  srcIp := 0x0200000A
  srcPort := 5353

/-- With both sockets held, the packet is attributed to the process that is bound
to the loopback address. -/
def bothHeld : UdpLookup :=
  boundTwice [(100, "socket:[11]".toList), (200, "socket:[12]".toList)] (by decide)

/-- With only the second held, the first line hides it. -/
def secondHeld : UdpLookup :=
  boundTwice [(200, "socket:[12]".toList)] (by decide)

theorem boundTwice_listed (holders : List (UInt32 × Str))
    (distinct : (holders.map Prod.fst).Nodup) :
    listedSockets (boundTwice holders distinct).udp (boundTwice holders distinct).udp6 =
      [⟨.v4 0x0100007F, 5353, 1000, 11⟩, ⟨.v4 0, 5353, 1000, 12⟩] := by
  change listedSockets (boundTwice [] List.nodup_nil).udp (boundTwice [] List.nodup_nil).udp6 = _
  decide +kernel

theorem boundTwice_decides (holders : List (UInt32 × Str))
    (distinct : (holders.map Prod.fst).Nodup) :
    (boundTwice holders distinct).Decides 11 1000 := by
  apply (UdpLookup.decides_iff _ _ _).mpr
  change (boundTwice [] List.nodup_nil).lines.findSome? (selectUdpLine 5353) = some (11, 1000)
  decide +kernel

/-- The first line for the port gives a process that is bound elsewhere, or hides
the process that receives the packet. -/
theorem udpFallback_loopback_first :
    Not bothHeld.Sound ∧ Not secondHeld.Complete := by
  constructor
  · intro sound
    have misled : bothHeld.answer = some 100 := by
      rw [bothHeld, UdpLookup.answer_of_decides (boundTwice_decides _ _)]
      decide
    rcases sound 100 misled with ⟨socket, ⟨listed, _, covers⟩, owner⟩
    rw [bothHeld, boundTwice_listed, List.mem_cons, List.mem_singleton] at listed
    rcases listed with loopback | wildcard
    · rw [loopback] at covers
      rcases covers with own | zero
      · exact absurd own (by decide)
      · exact absurd zero (by decide)
    · rw [wildcard] at owner
      rcases owner with ⟨listed', readable, entry, member, holds, name⟩
      rw [← Option.some.inj readable] at member
      rcases List.mem_cons.mp member with first | second
      · rw [first] at holds
        exact absurd holds (by decide)
      · rw [List.mem_singleton.mp second] at name
        exact absurd name (by decide)
  · intro complete
    have receives : secondHeld.Receives ⟨.v4 0, 5353, 1000, 12⟩ := by
      refine ⟨?_, rfl, Or.inr rfl⟩
      rw [secondHeld, boundTwice_listed]
      exact List.mem_cons_of_mem _ (List.mem_singleton_self _)
    rcases complete _ receives (by decide) ⟨200, by decide⟩ with ⟨pid, answer⟩
    have silent : secondHeld.answer = none := by
      rw [secondHeld, UdpLookup.answer_of_decides (boundTwice_decides _ _)]
      decide
    rw [silent] at answer
    cases answer

end ProxyBridge
