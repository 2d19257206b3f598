import ProxyBridge.Linux.ProcScan

namespace ProxyBridge

open Foundation Text

/-!
# The UID hint

A scan with a hint passes over the directories that belong to other users.  A
directory belongs to the effective user of its process, or to root when the
process cannot be dumped, while the UID of a socket is that of its creator.  So
the directory of a holder can be passed over, and the scan then finds another
holder or none.
-/

/-- Some process has a readable link to the socket. -/
def Held (proc : ProcSnapshot) (inode : UInt64) : Prop :=
  Exists fun pid => Owns proc inode pid

/-- The scan returns the PID of a process that has a link to the socket. -/
def FindsOwner (proc : ProcSnapshot) (inode : UInt64) (uidHint : UInt32) : Prop :=
  Exists fun pid => findPidFromInode proc inode uidHint = some pid ∧ Owns proc inode pid

/-- The hint does not pass over the holder that is listed first. -/
def AdmitsFirstHolder (proc : ProcSnapshot) (inode : UInt64) (uidHint : UInt32) : Prop :=
  Exists fun listed => proc.entries = some listed ∧ Exists fun first =>
    listed.find? (ProcEntry.holds inode) = some first ∧ first.admitted uidHint = true

theorem findsOwner_iff (proc : ProcSnapshot) (inode : UInt64) (uidHint : UInt32) :
    FindsOwner proc inode uidHint <-> AdmitsHolder proc inode uidHint := by
  rw [← resolves_iff]
  constructor
  · rintro ⟨pid, found, _⟩
    exact ⟨pid, found⟩
  · rintro ⟨pid, found⟩
    exact ⟨pid, found, findPidFromInode_owns found⟩

/-- Without a hint every directory is looked at. -/
theorem ProcEntry.admitted_noHint (entry : ProcEntry) : entry.admitted 0xFFFFFFFF = true := by
  rw [admitted, beq_self_eq_true, Bool.true_or]

theorem chosen_noHint (inode : UInt64) :
    ProcEntry.chosen inode 0xFFFFFFFF = ProcEntry.holds inode := by
  funext entry
  rw [ProcEntry.chosen, entry.admitted_noHint, Bool.and_true]

theorem findsOwner_noHint {proc : ProcSnapshot} {inode : UInt64} (held : Held proc inode) :
    FindsOwner proc inode 0xFFFFFFFF := by
  rcases held with ⟨_, listed, readable, entry, member, holds, _⟩
  exact (findsOwner_iff proc inode 0xFFFFFFFF).mpr
    ⟨listed, readable, entry, member, holds, entry.admitted_noHint⟩

/-- When the first holder is not passed over, it is also the first one that the
hint leaves. -/
theorem find_chosen_of_admitted {inode : UInt64} {uidHint : UInt32} {listed : List ProcEntry}
    {first : ProcEntry} (first_eq : listed.find? (ProcEntry.holds inode) = some first)
    (admitted : first.admitted uidHint = true) :
    listed.find? (ProcEntry.chosen inode uidHint) = some first := by
  rcases List.find?_eq_some_iff_append.mp first_eq with ⟨holds, before, after, parts, none_before⟩
  apply List.find?_eq_some_iff_append.mpr
  refine ⟨ProcEntry.chosen_iff.mpr ⟨holds, admitted⟩, before, after, parts, ?_⟩
  intro entry member
  have unheld : entry.holds inode = false := (Bool.not_eq_true' _).mp (none_before entry member)
  rw [ProcEntry.chosen, unheld, Bool.false_and, Bool.not_false]

theorem sameAnswer_iff {proc : ProcSnapshot} {inode : UInt64} (held : Held proc inode)
    (uidHint : UInt32) :
    findPidFromInode proc inode uidHint = findPidFromInode proc inode 0xFFFFFFFF <->
      AdmitsFirstHolder proc inode uidHint := by
  rcases findsOwner_noHint held with ⟨pid, unhinted, _⟩
  rcases findPidFromInode_eq_some_iff.mp unhinted with
    ⟨listed, readable, first, first_eq, name⟩
  rw [chosen_noHint] at first_eq
  rw [unhinted, findPidFromInode_eq_some_iff]
  constructor
  · rintro ⟨listed', readable', entry, entry_eq, entry_name⟩
    have listings : listed' = listed := Option.some.inj (readable'.symm.trans readable)
    rw [listings] at entry_eq
    rcases ProcEntry.of_find_chosen entry_eq with ⟨entry_member, _, admitted⟩
    have same : entry = first :=
      proc.eq_of_name readable entry_member (List.mem_of_find?_eq_some first_eq)
        (entry_name.trans name.symm)
    rw [same] at admitted
    exact ⟨listed, readable, first, first_eq, admitted⟩
  · rintro ⟨listed', readable', first', first_eq', admitted⟩
    have listings : listed' = listed := Option.some.inj (readable'.symm.trans readable)
    rw [listings] at first_eq'
    have firsts : first' = first := Option.some.inj (first_eq'.symm.trans first_eq)
    rw [firsts] at admitted
    exact ⟨listed, readable, first, find_chosen_of_admitted first_eq admitted, name⟩

/-- For a socket that some process holds, the scan without a hint finds an owner.
With a hint it finds one exactly when some holder is not passed over, and the same
one exactly when the first holder is not. -/
theorem uidHint_pure_iff (proc : ProcSnapshot) (inode : UInt64) (uidHint : UInt32)
    (held : Held proc inode) :
    FindsOwner proc inode 0xFFFFFFFF ∧
      (FindsOwner proc inode uidHint <-> AdmitsHolder proc inode uidHint) ∧
      (findPidFromInode proc inode uidHint = findPidFromInode proc inode 0xFFFFFFFF <->
        AdmitsFirstHolder proc inode uidHint) :=
  ⟨findsOwner_noHint held, findsOwner_iff proc inode uidHint, sameAnswer_iff held uidHint⟩

/-- A single process that holds the socket 7, with its directory owned by root. -/
def rootOwnedHolder : ProcSnapshot :=
  ProcSnapshot.ofHolders 0 [(42, "socket:[7]".toList)] (by decide)

theorem rootOwnedHolder_owns : Owns rootOwnedHolder 7 42 :=
  ⟨_, rfl, _, List.mem_singleton_self _, by decide, by decide⟩

theorem uidHint_pure_iff_root :
    Held rootOwnedHolder 7 ∧
      (FindsOwner rootOwnedHolder 7 0 <-> AdmitsHolder rootOwnedHolder 7 0) :=
  ⟨⟨42, rootOwnedHolder_owns⟩,
    (uidHint_pure_iff rootOwnedHolder 7 0 ⟨42, rootOwnedHolder_owns⟩).2.1⟩

/-- The socket was created by user 1000 and is held by a process whose directory
belongs to root: only the scan without the hint finds it. -/
theorem uidHint_misses_holder :
    Owns rootOwnedHolder 7 42 ∧ findPidFromInode rootOwnedHolder 7 0xFFFFFFFF = some 42 ∧
      findPidFromInode rootOwnedHolder 7 1000 = none :=
  ⟨rootOwnedHolder_owns, by decide, by decide⟩

end ProxyBridge
