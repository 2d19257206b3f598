import ProxyBridge.Core.TrackerLookups

namespace ProxyBridge

open Foundation

/-!
# What a clean-up removes

An entry of the tracker carries a stamp for its last activity.  A connection is
active when it is added, when a relay looks it up, and when one of its packets
passes because its port is tracked.  Only the first of the three sets the stamp,
and a clean-up goes by the stamp.

The activity is recorded beside the tracker here.  The clean-ups of a run remove
exactly the idle connections when, at each of them, no connection has outlived
the time since it was added (`cleanupFaithful_iff`).
-/

/-- The calls of the tracker, and the passing of time.  `get` and `isTracked`
are the calls made for the connection of the port. -/
inductive TrackerOp where
  | add (srcPort : UInt16) (srcIp destIp : UInt32) (destPort : UInt16)
  | get (srcPort : UInt16)
  | isTracked (srcPort : UInt16)
  | cleanupStale
  | clear
  | advance (nanos : Nat)

/-- When a connection was added, and when it was last active. -/
structure Activity where
  added : Instant
  last : Instant

structure TrackerState where
  now : Instant
  tracker : ConnectionTracker
  activity : KeyedStore UInt16 Activity

namespace TrackerState

def initial : TrackerState where
  now := 0
  tracker := .new
  activity := .empty

/-- The connection of a port is active now, if there is one. -/
def touch (state : TrackerState) (srcPort : UInt16) : TrackerState :=
  match state.activity.get srcPort with
  | some seen =>
      { state with activity := state.activity.insert srcPort { seen with last := state.now } }
  | none => state

/-- The activity of a connection is forgotten with its entry. -/
def step (state : TrackerState) : TrackerOp -> TrackerState
  | .add srcPort srcIp destIp destPort =>
      { state with
        tracker := state.tracker.add state.now srcPort srcIp destIp destPort
        activity := state.activity.insert srcPort { added := state.now, last := state.now } }
  | .get srcPort => state.touch srcPort
  | .isTracked srcPort => state.touch srcPort
  | .cleanupStale =>
      let cleaned := state.tracker.cleanupStale state.now
      { state with
        tracker := cleaned
        activity := state.activity.retain (fun srcPort _ => cleaned.isTracked srcPort) }
  | .clear => { state with tracker := state.tracker.clear, activity := .empty }
  | .advance nanos => { state with now := state.now + nanos }

end TrackerState

/-- The activity recorded for a port is not in the future, and belongs to an
entry that is stamped with its addition. -/
structure Stamped (state : TrackerState) : Prop where
  stamp : forall srcPort,
    (state.tracker.connections.get srcPort).map ConnectionInfo.lastActivity =
      (state.activity.get srcPort).map Activity.added
  ordered : forall srcPort seen, state.activity.get srcPort = some seen ->
    seen.added ≤ seen.last ∧ seen.last ≤ state.now

theorem stamped_initial : Stamped .initial where
  stamp := fun _ => rfl
  ordered := fun _ _ held => by cases held

theorem stamped_touch {state : TrackerState} (stamped : Stamped state) (srcPort : UInt16) :
    Stamped (state.touch srcPort) := by
  unfold TrackerState.touch
  cases known : state.activity.get srcPort with
  | none => exact stamped
  | some seen =>
      have before := stamped.ordered srcPort seen known
      constructor
      · intro other
        by_cases same : other = srcPort
        · rw [same, KeyedStore.get_insert_self, stamped.stamp, known]
          rfl
        · rw [KeyedStore.get_insert_of_ne _ _ same]
          exact stamped.stamp other
      · intro other activity held
        by_cases same : other = srcPort
        · rw [same, KeyedStore.get_insert_self] at held
          cases held
          exact ⟨Nat.le_trans before.1 before.2, Nat.le_refl _⟩
        · rw [KeyedStore.get_insert_of_ne _ _ same] at held
          exact stamped.ordered other activity held

theorem stamped_step (state : TrackerState) (op : TrackerOp) (stamped : Stamped state) :
    Stamped (state.step op) := by
  cases op with
  | add srcPort srcIp destIp destPort =>
      constructor
      · intro other
        by_cases same : other = srcPort
        · subst same
          simp only [TrackerState.step, ConnectionTracker.add, KeyedStore.get_insert_self,
            Option.map_some]
        · simp only [TrackerState.step, ConnectionTracker.add,
            KeyedStore.get_insert_of_ne _ _ same]
          exact stamped.stamp other
      · intro other seen held
        by_cases same : other = srcPort
        · simp only [TrackerState.step, same, KeyedStore.get_insert_self] at held
          cases held
          exact ⟨Nat.le_refl _, Nat.le_refl _⟩
        · simp only [TrackerState.step, KeyedStore.get_insert_of_ne _ _ same] at held
          exact stamped.ordered other seen held
  | get srcPort => exact stamped_touch stamped srcPort
  | isTracked srcPort => exact stamped_touch stamped srcPort
  | cleanupStale =>
      constructor
      · intro srcPort
        have before := stamped.stamp srcPort
        change ((state.tracker.cleanupStale state.now).connections.get srcPort).map _ =
          ((state.activity.get srcPort).filter
            (fun _ => (state.tracker.cleanupStale state.now).isTracked srcPort)).map _
        unfold ConnectionTracker.isTracked KeyedStore.containsKey
        rw [ConnectionTracker.connections_cleanupStale]
        cases held : state.tracker.connections.get srcPort with
        | none =>
            rw [held] at before
            cases known : state.activity.get srcPort with
            | none => rfl
            | some seen =>
                rw [known] at before
                cases before
        | some info =>
            rw [held] at before
            cases known : state.activity.get srcPort with
            | none =>
                rw [known] at before
                cases before
            | some seen =>
                rw [known] at before
                by_cases young : elapsedMillis state.now info.lastActivity < connectionTimeoutMs
                · simpa [Option.filter_some, young] using before
                · simp [Option.filter_some, young]
      · intro srcPort seen held
        exact stamped.ordered srcPort seen
          ((state.activity.get_retain_eq_some_iff _ srcPort seen).mp held).1
  | clear =>
      constructor
      · exact fun _ => rfl
      · intro srcPort seen held
        cases held
  | advance nanos =>
      constructor
      · exact stamped.stamp
      · intro srcPort seen held
        have before := stamped.ordered srcPort seen held
        exact ⟨before.1, Nat.le_trans before.2 (Nat.le_add_right _ _)⟩

/-! ## Faithful clean-ups -/

/-- A clean-up keeps the connections that were active within the timeout, and
removes the others. -/
def CleanupSound (state : TrackerState) : Prop :=
  forall srcPort seen, state.activity.get srcPort = some seen ->
    let cleaned := state.tracker.cleanupStale state.now
    (elapsedMillis state.now seen.last < connectionTimeoutMs ->
      cleaned.connections.get srcPort = state.tracker.connections.get srcPort) ∧
    (connectionTimeoutMs ≤ elapsedMillis state.now seen.last ->
      cleaned.isTracked srcPort = false)

/-- No connection that was active within the timeout was added before that. -/
def NoneOutlived (state : TrackerState) : Prop :=
  forall srcPort seen, state.activity.get srcPort = some seen ->
    elapsedMillis state.now seen.last < connectionTimeoutMs ->
      elapsedMillis state.now seen.added < connectionTimeoutMs

/-- The step is no clean-up, or one in a state with the property. -/
def AtCleanup (property : TrackerState -> Prop) (state : TrackerState) (op : TrackerOp) : Prop :=
  op = .cleanupStale -> property state

theorem cleanupSound_iff {state : TrackerState} (stamped : Stamped state) :
    CleanupSound state <-> NoneOutlived state := by
  apply forall_congr'
  intro srcPort
  apply forall_congr'
  intro seen
  apply forall_congr'
  intro known
  have stamp := stamped.stamp srcPort
  have later := elapsedMillis_anti state.now (stamped.ordered srcPort seen known).1
  rw [known, Option.map_some, Option.map_eq_some_iff] at stamp
  rcases stamp with ⟨info, held, same⟩
  simp only [ConnectionTracker.isTracked, KeyedStore.containsKey,
    ConnectionTracker.connections_cleanupStale, held, Option.filter_some, same]
  by_cases young : elapsedMillis state.now seen.added < connectionTimeoutMs
  · simp [young]
    omega
  · simp [young]

/-- The step keeps the connection of a port busy: it does not replace it, and if
it is a clean-up, the connection was active within the timeout. -/
def KeepsBusy (srcPort : UInt16) (state : TrackerState) : TrackerOp -> Prop
  | .add other _ _ _ => other ≠ srcPort
  | .cleanupStale => Exists fun seen => state.activity.get srcPort = some seen ∧
      elapsedMillis state.now seen.last < connectionTimeoutMs
  | .clear => False
  | _ => True

/-- A connection that is busy from some point on keeps its entry, and a search
for its destination finds a client in every iteration order. -/
def BusyFlowsKept (ops : List TrackerOp) : Prop :=
  forall past later, ops = past ++ later ->
    let start := run TrackerState.step .initial past
    let state := run TrackerState.step start later
    forall srcPort info, start.tracker.connections.get srcPort = some info ->
      StepsMeet TrackerState.step (KeepsBusy srcPort) start later ->
        state.tracker.connections.get srcPort = some info ∧
          forall keys, state.tracker.connections.Enumerates keys ->
            (state.tracker.findByDest keys info.origDestIp info.origDestPort).isSome = true

theorem tracker_touch (state : TrackerState) (srcPort : UInt16) :
    (state.touch srcPort).tracker = state.tracker := by
  unfold TrackerState.touch
  cases state.activity.get srcPort with
  | none => rfl
  | some seen => rfl

/-- A step that keeps a connection busy keeps its entry, if it is no clean-up or
a sound one. -/
theorem connections_step_of_keepsBusy {state : TrackerState} {op : TrackerOp} {srcPort : UInt16}
    {info : ConnectionInfo} (held : state.tracker.connections.get srcPort = some info)
    (sound : AtCleanup CleanupSound state op) (busy : KeepsBusy srcPort state op) :
    (state.step op).tracker.connections.get srcPort = some info := by
  cases op with
  | add other srcIp destIp destPort =>
      rw [← held]
      exact KeyedStore.get_insert_of_ne _ _ (Ne.symm busy)
  | get other => rwa [TrackerState.step, tracker_touch]
  | isTracked other => rwa [TrackerState.step, tracker_touch]
  | cleanupStale =>
      rcases busy with ⟨seen, known, recent⟩
      exact ((sound rfl srcPort seen known).1 recent).trans held
  | clear => exact False.elim busy
  | advance nanos => exact held

theorem busyFlowsKept_of_sound {ops : List TrackerOp}
    (sound : StepsMeet TrackerState.step (AtCleanup CleanupSound) .initial ops) :
    BusyFlowsKept ops := by
  intro past later whole start state srcPort info held busy
  rw [whole, stepsMeet_append] at sound
  have kept : state.tracker.connections.get srcPort = some info :=
    run_invariant_of_stepsMeet TrackerState.step
      (fun state => state.tracker.connections.get srcPort = some info) held
      (fun _ _ held both => connections_step_of_keepsBusy held both.1 both.2)
      ((stepsMeet_and TrackerState.step).mpr ⟨sound.2, busy⟩)
  refine ⟨kept, ?_⟩
  intro keys order
  have tracked : state.tracker.get srcPort = some (info.origDestIp, info.origDestPort) :=
    congrArg _ kept
  exact ConnectionTracker.isSome_findByDest (order.mem kept) tracked

/-- Every clean-up of the run removes exactly the idle connections, and busy
connections are kept. -/
structure CleanupFaithful (ops : List TrackerOp) : Prop where
  sound : StepsMeet TrackerState.step (AtCleanup CleanupSound) .initial ops
  kept : BusyFlowsKept ops

/-- A run cleans up faithfully exactly when, at each of its clean-ups, no
connection that was active within the timeout was added before that. -/
theorem cleanupFaithful_iff (ops : List TrackerOp) :
    CleanupFaithful ops <-> StepsMeet TrackerState.step (AtCleanup NoneOutlived) .initial ops := by
  have agree : forall state op, Stamped state ->
      (AtCleanup CleanupSound state op <-> AtCleanup NoneOutlived state op) :=
    fun _ _ stamped => imp_congr_right (fun _ => cleanupSound_iff stamped)
  rw [← stepsMeet_congr TrackerState.step agree stamped_step stamped_initial]
  exact ⟨CleanupFaithful.sound, fun sound => ⟨sound, busyFlowsKept_of_sound sound⟩⟩

/-- A relay looks a connection up 59 seconds after it was added, and a clean-up
one second later removes it. -/
theorem cleanup_removes_active_connection :
    Not (CleanupFaithful [.add 4096 0x0200000A 0x08080808 53, .advance 59000000000, .get 4096,
      .advance 1000000000, .cleanupStale]) := by
  intro faithful
  have sound : CleanupSound _ := faithful.sound.2.2.2.2.1 rfl
  have kept := (sound 4096 ⟨0, 59000000000⟩ rfl).1 (by decide)
  cases kept

end ProxyBridge
