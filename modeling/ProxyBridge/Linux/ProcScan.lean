import ProxyBridge.Foundation.Text

namespace ProxyBridge

open Foundation Text

/-!
# Scanning /proc

The owner of a socket is found through its inode: a process owns the socket when
one of its descriptor links reads `socket:[inode]`.  The scan goes through the
directories of `/proc` that start with a digit.  A UID hint lets it pass over the
directories that belong to somebody else.

For UDP the inode can come from the socket tables in `/proc/net`.  Their lines are
text, and fields that do not parse are replaced by defaults.
-/

/-- A directory of `/proc`: the owner is absent when its metadata cannot be read,
the descriptors when they cannot be listed, and a link when it cannot be
followed. -/
structure ProcEntry where
  name : Str
  owner : Option UInt32
  fdLinks : Option (List (Option Str))

namespace ProcEntry

def startsWithDigit (entry : ProcEntry) : Bool :=
  entry.name.head?.any Char.isDigit

/-- One of the descriptor links reads as expected. -/
def hasLink (entry : ProcEntry) (expected : Str) : Bool :=
  entry.fdLinks.any (fun links => links.any (fun link => link == some expected))

end ProcEntry

/-- A listing of `/proc`, absent when the directory cannot be read.  Names are
those of a directory, so none occurs twice, and a name that starts with a digit
is a PID. -/
structure ProcSnapshot where
  entries : Option (List ProcEntry)
  pids : forall listed, entries = some listed -> forall entry, entry ∈ listed ->
    entry.startsWithDigit = true -> Exists fun pid : UInt32 => entry.name = decimal pid.toNat
  distinct : forall listed, entries = some listed -> (listed.map ProcEntry.name).Nodup

/-- Processes of one user with one socket each. -/
def ProcSnapshot.ofHolders (owner : UInt32) (holders : List (UInt32 × Str))
    (distinct : (holders.map Prod.fst).Nodup) : ProcSnapshot where
  entries := some (holders.map fun holder =>
    ⟨decimal holder.1.toNat, some owner, some [some holder.2]⟩)
  pids := by
    intro listed readable entry member _
    rw [← Option.some.inj readable] at member
    rcases List.mem_map.mp member with ⟨holder, _, same⟩
    exact ⟨holder.1, by rw [← same]⟩
  distinct := by
    intro listed readable
    rw [← Option.some.inj readable, List.map_map]
    have injective : Function.Injective fun pid : UInt32 => decimal pid.toNat :=
      fun _ _ same => UInt32.toNat_inj.mp (decimal_injective same)
    have mapped := distinct.map injective
    rw [List.map_map] at mapped
    exact mapped

def socketLink (inode : UInt64) : Str :=
  "socket:[".toList ++ decimal inode.toNat ++ "]".toList

/-- The loop over the directories. -/
def scanProcesses (expected : Str) (uidHint : UInt32) : List ProcEntry -> Option UInt32
  | [] => none
  | entry :: rest =>
      if !entry.startsWithDigit then scanProcesses expected uidHint rest
      else if uidHint ≠ 0xFFFFFFFF ∧ entry.owner.any (fun uid => uid != uidHint) = true then
        scanProcesses expected uidHint rest
      else
        match entry.fdLinks with
        | none => scanProcesses expected uidHint rest
        | some links =>
            if links.any (fun link => link == some expected) then parseU32 entry.name
            else scanProcesses expected uidHint rest

def findPidFromInode (proc : ProcSnapshot) (targetInode : UInt64) (uidHint : UInt32) :
    Option UInt32 :=
  match proc.entries with
  | none => none
  | some listed => scanProcesses (socketLink targetInode) uidHint listed

/-- A file of `/proc/net`, absent when it cannot be opened; a line is absent when
it cannot be read. -/
abbrev NetTable := Option (List (Option Str))

/-- The inode and the UID of a line that ends the search for a port. -/
def selectUdpLine (srcPort : UInt16) (line : Str) : Option (UInt64 × UInt32) :=
  let fields := splitWhitespace line
  if fields.length < 10 then none
  else
    match splitOnce ':' (fields.getD 1 []) with
    | none => none
    | some (_, portHex) =>
        let port := (parseHexU16 portHex).getD 0
        if port = srcPort then
          let inode := (parseU64 (fields.getD 9 [])).getD 0
          if inode ≠ 0 then some (inode, (parseU32 (fields.getD 7 [])).getD 0xFFFFFFFF) else none
        else none

/-- The loop over the lines of one file. -/
def searchUdpLines (srcPort : UInt16) : List (Option Str) -> Option (UInt64 × UInt32)
  | [] => none
  | none :: rest => searchUdpLines srcPort rest
  | some line :: rest =>
      match selectUdpLine srcPort line with
      | some found => some found
      | none => searchUdpLines srcPort rest

/-- The loop over the two files; the first line of each is a header. -/
def searchUdpTables (srcPort : UInt16) : List NetTable -> Option (UInt64 × UInt32)
  | [] => none
  | none :: rest => searchUdpTables srcPort rest
  | some lines :: rest =>
      match searchUdpLines srcPort (lines.drop 1) with
      | some found => some found
      | none => searchUdpTables srcPort rest

/-- The line that ends the search decides, also when no process is found for
it. -/
def getPidFromProcNetUdp (udp udp6 : NetTable) (proc : ProcSnapshot) (srcPort : UInt16) :
    Option UInt32 :=
  match searchUdpTables srcPort [udp, udp6] with
  | some (inode, uid) => findPidFromInode proc inode uid
  | none => none

/-! ## What a scan finds -/

namespace ProcEntry

/-- The process has a readable link to the socket. -/
def holds (inode : UInt64) (entry : ProcEntry) : Bool :=
  entry.startsWithDigit && entry.hasLink (socketLink inode)

/-- The hint does not pass over the directory. -/
def admitted (uidHint : UInt32) (entry : ProcEntry) : Bool :=
  uidHint == 0xFFFFFFFF || !entry.owner.any (fun uid => uid != uidHint)

/-- The process is found through the inode and the hint. -/
def chosen (inode : UInt64) (uidHint : UInt32) (entry : ProcEntry) : Bool :=
  entry.holds inode && entry.admitted uidHint

theorem chosen_iff {inode : UInt64} {uidHint : UInt32} {entry : ProcEntry} :
    entry.chosen inode uidHint = true <->
      entry.holds inode = true ∧ entry.admitted uidHint = true :=
  Bool.and_eq_true_iff

theorem holds_of_startsWithDigit {inode : UInt64} {entry : ProcEntry}
    (digit : entry.startsWithDigit = true) :
    entry.holds inode = entry.hasLink (socketLink inode) := by
  rw [holds, digit, Bool.true_and]

theorem admitted_iff {uidHint : UInt32} {entry : ProcEntry} :
    entry.admitted uidHint = true <->
      Not (uidHint ≠ 0xFFFFFFFF ∧ entry.owner.any (fun uid => uid != uidHint) = true) := by
  rw [admitted, Bool.or_eq_true, beq_iff_eq, Bool.not_eq_true', not_and_or, ne_eq,
    Decidable.not_not, Bool.not_eq_true]

end ProcEntry

/-- The scan takes the first directory that holds the socket and is not passed
over. -/
theorem scanProcesses_eq (inode : UInt64) (uidHint : UInt32) (listed : List ProcEntry) :
    scanProcesses (socketLink inode) uidHint listed =
      (listed.find? (ProcEntry.chosen inode uidHint)).bind
        (fun entry => parseU32 entry.name) := by
  induction listed with
  | nil => rfl
  | cons entry rest ih =>
      by_cases selected : entry.chosen inode uidHint = true
      · have parts := ProcEntry.chosen_iff.mp selected
        have digit : entry.startsWithDigit = true := (Bool.and_eq_true_iff.mp parts.1).1
        have linked : entry.hasLink (socketLink inode) = true :=
          (Bool.and_eq_true_iff.mp parts.1).2
        rw [List.find?_cons_of_pos selected, Option.bind_some, scanProcesses, digit,
          Bool.not_true, if_neg Bool.false_ne_true, if_neg (ProcEntry.admitted_iff.mp parts.2)]
        cases links : entry.fdLinks with
        | none =>
            rw [ProcEntry.hasLink, links] at linked
            exact absurd linked Bool.false_ne_true
        | some links' =>
            rw [ProcEntry.hasLink, links] at linked
            exact if_pos linked
      · rw [List.find?_cons_of_neg selected, ← ih, scanProcesses]
        cases digit : entry.startsWithDigit with
        | false => rfl
        | true =>
            rw [Bool.not_true, if_neg Bool.false_ne_true]
            split
            · rfl
            · rename_i kept
              have unlinked : Not (entry.hasLink (socketLink inode) = true) := by
                intro linked
                apply selected
                rw [ProcEntry.chosen, ProcEntry.holds_of_startsWithDigit digit, linked,
                  ProcEntry.admitted_iff.mpr kept, Bool.true_and]
              cases links : entry.fdLinks with
              | none => rfl
              | some links' =>
                  rw [ProcEntry.hasLink, links] at unlinked
                  exact if_neg unlinked

/-- A process that owns the socket: one of its links reads `socket:[inode]`. -/
def Owns (proc : ProcSnapshot) (inode : UInt64) (pid : UInt32) : Prop :=
  Exists fun listed => proc.entries = some listed ∧ Exists fun entry => entry ∈ listed ∧
    entry.holds inode = true ∧ entry.name = decimal pid.toNat

/-- A holder's name is a PID. -/
theorem ProcSnapshot.pid_of_holds {proc : ProcSnapshot} {listed : List ProcEntry}
    (readable : proc.entries = some listed) {entry : ProcEntry} (member : entry ∈ listed)
    {inode : UInt64} (holds : entry.holds inode = true) :
    Exists fun pid : UInt32 => entry.name = decimal pid.toNat :=
  proc.pids listed readable entry member (Bool.and_eq_true_iff.mp holds).1

theorem findPidFromInode_eq {proc : ProcSnapshot} {listed : List ProcEntry}
    (readable : proc.entries = some listed) (inode : UInt64) (uidHint : UInt32) :
    findPidFromInode proc inode uidHint =
      (listed.find? (ProcEntry.chosen inode uidHint)).bind (fun entry => parseU32 entry.name) := by
  rw [findPidFromInode, readable]
  exact scanProcesses_eq inode uidHint listed

/-- One directory has a name. -/
theorem ProcSnapshot.eq_of_name {proc : ProcSnapshot} {listed : List ProcEntry}
    (readable : proc.entries = some listed) {left right : ProcEntry} (left_member : left ∈ listed)
    (right_member : right ∈ listed) (same : left.name = right.name) : left = right :=
  List.inj_on_of_nodup_map (proc.distinct listed readable) left_member right_member same

theorem ProcEntry.of_find_chosen {inode : UInt64} {uidHint : UInt32} {listed : List ProcEntry}
    {first : ProcEntry} (first_eq : listed.find? (ProcEntry.chosen inode uidHint) = some first) :
    first ∈ listed ∧ first.holds inode = true ∧ first.admitted uidHint = true :=
  ⟨List.mem_of_find?_eq_some first_eq, chosen_iff.mp (List.find?_some first_eq)⟩

/-- The first holder that is not passed over is returned by its PID. -/
theorem findPidFromInode_of_find {proc : ProcSnapshot} {listed : List ProcEntry}
    (readable : proc.entries = some listed) {inode : UInt64} {uidHint : UInt32}
    {first : ProcEntry} (first_eq : listed.find? (ProcEntry.chosen inode uidHint) = some first) :
    Exists fun pid : UInt32 => first.name = decimal pid.toNat ∧
      findPidFromInode proc inode uidHint = some pid := by
  rcases ProcEntry.of_find_chosen first_eq with ⟨member, holds, _⟩
  rcases proc.pid_of_holds readable member holds with ⟨pid, name⟩
  refine ⟨pid, name, ?_⟩
  rw [findPidFromInode_eq readable, first_eq, Option.bind_some, name]
  exact parseU32_decimal pid

/-- The answer of a scan is the PID of the first holder that is not passed
over. -/
theorem findPidFromInode_eq_some_iff {proc : ProcSnapshot} {inode : UInt64}
    {uidHint pid : UInt32} :
    findPidFromInode proc inode uidHint = some pid <->
      Exists fun listed => proc.entries = some listed ∧ Exists fun first =>
        listed.find? (ProcEntry.chosen inode uidHint) = some first ∧
          first.name = decimal pid.toNat := by
  constructor
  · intro found
    cases readable : proc.entries with
    | none =>
        rw [findPidFromInode, readable] at found
        cases found
    | some listed =>
        have scanned := found
        rw [findPidFromInode_eq readable, Option.bind_eq_some_iff] at scanned
        rcases scanned with ⟨first, first_eq, _⟩
        rcases findPidFromInode_of_find readable first_eq with ⟨pid', name, found'⟩
        rw [Option.some.inj (found'.symm.trans found)] at name
        exact ⟨listed, rfl, first, first_eq, name⟩
  · rintro ⟨listed, readable, first, first_eq, name⟩
    rw [findPidFromInode_eq readable, first_eq, Option.bind_some, name]
    exact parseU32_decimal pid

/-- Whatever the hint, only an owner is returned. -/
theorem findPidFromInode_owns {proc : ProcSnapshot} {inode : UInt64} {uidHint pid : UInt32}
    (found : findPidFromInode proc inode uidHint = some pid) : Owns proc inode pid := by
  rcases findPidFromInode_eq_some_iff.mp found with ⟨listed, readable, first, first_eq, name⟩
  rcases ProcEntry.of_find_chosen first_eq with ⟨member, holds, _⟩
  exact ⟨listed, readable, first, member, holds, name⟩

/-- The hint does not pass over every holder. -/
def AdmitsHolder (proc : ProcSnapshot) (inode : UInt64) (uidHint : UInt32) : Prop :=
  Exists fun listed => proc.entries = some listed ∧ Exists fun entry => entry ∈ listed ∧
    entry.holds inode = true ∧ entry.admitted uidHint = true

theorem resolves_iff (proc : ProcSnapshot) (inode : UInt64) (uidHint : UInt32) :
    (Exists fun pid => findPidFromInode proc inode uidHint = some pid) <->
      AdmitsHolder proc inode uidHint := by
  constructor
  · rintro ⟨pid, found⟩
    rcases findPidFromInode_eq_some_iff.mp found with ⟨listed, readable, first, first_eq, _⟩
    exact ⟨listed, readable, first, ProcEntry.of_find_chosen first_eq⟩
  · rintro ⟨listed, readable, entry, member, chosen⟩
    have present : (listed.find? (ProcEntry.chosen inode uidHint)).isSome = true :=
      List.find?_isSome.mpr ⟨entry, member, ProcEntry.chosen_iff.mpr chosen⟩
    rcases Option.isSome_iff_exists.mp present with ⟨first, first_eq⟩
    rcases findPidFromInode_of_find readable first_eq with ⟨pid, _, found⟩
    exact ⟨pid, found⟩

end ProxyBridge
