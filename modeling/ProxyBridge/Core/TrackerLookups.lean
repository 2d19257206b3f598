import ProxyBridge.Core.Connection
import ProxyBridge.Foundation.Runs

namespace ProxyBridge

open Foundation

/-!
# The two directions of the tracker

The tracker is asked for the destination of a source port, and for a source port
that wanted to go to a destination.  The second answer is read from the entry
that is found and not from its key.  The two directions agree because an entry is
filed under the source port that it records, which no operation changes.
-/

/-- The operations that change a tracker, with the readings of the clock. -/
inductive TrackerUpdate where
  | add (now : Instant) (srcPort : UInt16) (srcIp destIp : UInt32) (destPort : UInt16)
  | cleanupStale (now : Instant)
  | clear
  deriving DecidableEq

namespace ConnectionTracker

def update (tracker : ConnectionTracker) : TrackerUpdate -> ConnectionTracker
  | .add now srcPort srcIp destIp destPort => tracker.add now srcPort srcIp destIp destPort
  | .cleanupStale now => tracker.cleanupStale now
  | .clear => tracker.clear

/-- Every entry is filed under the source port that it records. -/
def FiledBySrcPort (tracker : ConnectionTracker) : Prop :=
  forall port info, tracker.connections.get port = some info -> info.srcPort = port

theorem filedBySrcPort_update (tracker : ConnectionTracker) (change : TrackerUpdate)
    (filed : tracker.FiledBySrcPort) : (tracker.update change).FiledBySrcPort := by
  intro port info held
  cases change with
  | add now srcPort srcIp destIp destPort =>
      change (tracker.connections.insert srcPort _).get port = some info at held
      by_cases same : port = srcPort
      · rw [same, KeyedStore.get_insert_self] at held
        cases held
        exact same.symm
      · rw [KeyedStore.get_insert_of_ne _ _ same] at held
        exact filed port info held
  | cleanupStale now =>
      exact filed port info ((KeyedStore.get_retain_eq_some_iff _ _ _ _).mp held).1
  | clear => cases held

theorem filedBySrcPort_run (updates : List TrackerUpdate) :
    (run update .new updates).FiledBySrcPort :=
  run_invariant update (fun _ _ held => by cases held) filedBySrcPort_update updates

section Lookups

variable {tracker : ConnectionTracker} {keys : List UInt16} {dest : UInt32 × UInt16}
  {port : UInt16}

/-- A port that the search finds is tracked towards the destination. -/
theorem FiledBySrcPort.get_of_findByDest (filed : tracker.FiledBySrcPort)
    (found : tracker.findByDest keys dest.1 dest.2 = some port) : tracker.get port = some dest := by
  rcases Option.map_eq_some_iff.mp found with ⟨info, selected, recorded⟩
  rcases KeyedStore.findValue_eq_some selected with ⟨key, _, held, passes⟩
  rw [Bool.and_eq_true, beq_iff_eq, beq_iff_eq] at passes
  have same : key = port := (filed key info held).symm.trans recorded
  rw [← same, get, held, Option.map_some, passes.1, passes.2]

theorem isTracked_of_get (held : tracker.get port = some dest) : tracker.isTracked port = true := by
  rcases Option.map_eq_some_iff.mp held with ⟨info, stored, _⟩
  exact (KeyedStore.containsKey_iff _ _).mpr ⟨info, stored⟩

/-- The search succeeds when it goes through a port that is tracked towards the
destination. -/
theorem isSome_findByDest (member : port ∈ keys) (held : tracker.get port = some dest) :
    (tracker.findByDest keys dest.1 dest.2).isSome = true := by
  rcases Option.map_eq_some_iff.mp held with ⟨info, stored, towards⟩
  have passes : (info.origDestIp == dest.1 && info.origDestPort == dest.2) = true := by
    rw [← towards, beq_self_eq_true, beq_self_eq_true, Bool.and_self]
  rw [findByDest, Option.isSome_map]
  exact KeyedStore.isSome_findValue member stored passes

end Lookups
end ConnectionTracker

/-- After any operations and in any iteration order, the search finds a port
exactly when one is tracked towards the destination, and then such a port. -/
theorem trackerLookups_agree (updates : List TrackerUpdate) (keys : List UInt16)
    (order : (run ConnectionTracker.update .new updates).connections.Enumerates keys)
    (destIp : UInt32) (destPort : UInt16) :
    let tracker := run ConnectionTracker.update .new updates
    (forall port, tracker.findByDest keys destIp destPort = some port ->
      tracker.isTracked port = true ∧ tracker.get port = some (destIp, destPort)) ∧
    (tracker.findByDest keys destIp destPort = none ->
      forall port, tracker.get port ≠ some (destIp, destPort)) := by
  intro tracker
  have filed : tracker.FiledBySrcPort := ConnectionTracker.filedBySrcPort_run updates
  constructor
  · intro port found
    have held : tracker.get port = some (destIp, destPort) := filed.get_of_findByDest found
    exact ⟨ConnectionTracker.isTracked_of_get held, held⟩
  · intro absent port held
    have tracked := ConnectionTracker.isTracked_of_get held
    have present : (tracker.findByDest keys destIp destPort).isSome = true :=
      ConnectionTracker.isSome_findByDest ((order.complete port).mpr tracked) held
    rw [absent] at present
    cases present

/-- Port 7 is tracked towards one destination and then towards another. -/
theorem trackerLookups_agree_overwritten :
    let tracker := run ConnectionTracker.update .new
      [.add 0 7 1 2 53, .add 5 7 1 3 443, .cleanupStale 9]
    tracker.findByDest [7] 3 443 = some 7 ∧ tracker.isTracked 7 = true ∧
      tracker.get 7 = some (3, 443) ∧ forall port, tracker.get port ≠ some (2, 53) := by
  intro tracker
  have order : tracker.connections.Enumerates [7] := by
    refine ⟨List.nodup_singleton 7, ?_⟩
    intro key
    rw [List.mem_singleton]
    by_cases same : key = 7
    · rw [same]
      exact iff_of_true rfl (by decide)
    · refine iff_of_false same ?_
      intro held
      rcases (KeyedStore.containsKey_iff _ key).mp held with ⟨info, stored⟩
      have kept := ((KeyedStore.get_retain_eq_some_iff _ _ key info).mp stored).1
      change ((KeyedStore.empty.insert 7 _).insert 7 _).get key = some info at kept
      rw [KeyedStore.get_insert_of_ne _ _ same, KeyedStore.get_insert_of_ne _ _ same] at kept
      cases kept
  have found : tracker.findByDest [7] 3 443 = some 7 := by decide
  have tracked := (trackerLookups_agree _ _ order 3 443).1 7 found
  exact ⟨found, tracked.1, tracked.2, (trackerLookups_agree _ _ order 2 53).2 (by decide)⟩

end ProxyBridge
