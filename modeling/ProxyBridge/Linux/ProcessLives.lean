import ProxyBridge.Linux.OutputPath
import ProxyBridge.Linux.Startup

namespace ProxyBridge

open Foundation Text Octets PacketFilter

/-!
# One life of the program after the other

A host runs the program again and again: with a command line that is rejected,
until an interrupt, until something kills it, or only to clean up.  A life that
is not interrupted leaves its table behind, and nobody listens on the queue
then.

What is left after any sequence of lives follows from the last one that decided
it.  The table that is left loses all TCP and UDP packets until the program serves
again, and touches nothing else (`lives_history`).  What the tables of other programs
do to a packet is left aside.
-/

/-- The program is run once, or another program changes its own tables. -/
inductive HostEvent (filter : NetFilter) where
  | life (args : CliArgs) (host : LifeAnswers)
  | foreign (other : filter.Foreign tableName)

section Lives

variable {filter : NetFilter} (order : ByteOrder) (encoding : NftnlEncoding)

def hostStep (ruleset : filter.Ruleset) : HostEvent filter -> filter.Ruleset
  | .life args host => (main filter order encoding args host ruleset).1
  | .foreign other => foreignStep filter ruleset other

/-- The changes of the tables. -/
def HostEvent.changes : HostEvent filter -> List (NetfilterEvent filter)
  | .life args host => lifeEvents filter order args host
  | .foreign other => [.foreign other]

/-- Whether the table is left, where the event decides it: it goes with an
interrupt or with `--cleanup`, and it stays when a life that installed it ends
in another way. -/
def HostEvent.leaves : HostEvent filter -> Option Bool
  | .foreign _ => none
  | .life args host =>
      if args.cleanup then (if host.leftovers.arrives then some false else none)
      else
        match configure order args host with
        | .error _ => none
        | .ok _ =>
            if host.Serves ∧ host.interrupted.any BatchAnswers.arrives = true then some false
            else if host.installation.arrives ∧ (sendAndProcess host.leftovers).isSome then
              some true
            else if host.leftovers.arrives then some false
            else none

/-- Whether the table is left after a history. -/
def leftAfter (before : Bool) (events : List (HostEvent filter)) : Bool :=
  events.foldl (fun left event => (event.leaves order).getD left) before

theorem run_hostStep (start : filter.Ruleset) (events : List (HostEvent filter)) :
    run (hostStep order encoding) start events =
      run (netfilterStep filter (relayArgs order encoding)) start
        (events.flatMap (HostEvent.changes order)) := by
  have follows : forall (ruleset : filter.Ruleset) (event : HostEvent filter),
      hostStep order encoding ruleset event =
        run (netfilterStep filter (relayArgs order encoding)) ruleset (event.changes order) := by
    intro ruleset event
    cases event with
    | life args host => exact main_fst order encoding args host ruleset
    | foreign other => rfl
  rw [← seen_eq_flatMap (hostStep order encoding) (HostEvent.changes order) start]
  exact @run_simulates _ _ _ _ (hostStep order encoding)
    (netfilterStep filter (relayArgs order encoding)) id (fun _ event => event.changes order)
    follows start events

/-- What a life leaves is what its calls leave. -/
theorem installedAfter_changes (before : Bool) (event : HostEvent filter) :
    installedAfter before (event.changes order) = (event.leaves order).getD before := by
  cases event with
  | foreign other => rfl
  | life args host =>
      change installedAfter before (lifeEvents filter order args host) = _
      unfold lifeEvents HostEvent.leaves installedAfter
      dsimp only
      by_cases cleaning : args.cleanup = true
      · rw [if_pos cleaning, if_pos cleaning]
        rfl
      · rw [if_neg cleaning, if_neg cleaning]
        cases configure order args host with
        | error reason => rfl
        | ok service =>
            dsimp only
            by_cases serves : host.Serves
            · cases host.interrupted with
              | none => simp [serves, NetfilterEvent.decides]
              | some last =>
                  cases arrives : last.arrives with
                  | true => simp [serves, arrives, NetfilterEvent.decides]
                  | false => simp [serves, arrives, NetfilterEvent.decides]
            · simp [serves, NetfilterEvent.decides]

theorem installedAfter_flatMap (before : Bool) (events : List (HostEvent filter)) :
    installedAfter before (events.flatMap (HostEvent.changes order)) =
      leftAfter order before events := by
  induction events generalizing before with
  | nil => rfl
  | cons event events ih =>
      rw [List.flatMap_cons, installedAfter, List.foldl_append]
      change installedAfter (installedAfter before (event.changes order)) _ = _
      rw [ih, installedAfter_changes]
      rfl

variable {order encoding}

/-- After any sequence of lives, the table is absent or holds whole copies of the
rules, and it is left exactly when the last life that decided it left it.  While the
program is not running, the table loses TCP and UDP packets as long as it is left, and
touches nothing else. -/
theorem lives_history (accepts : AcceptsTable filter (relayArgs order encoding))
    (passes : PassesPackets filter (relayArgs order encoding)) {start : filter.Ruleset}
    (own : OwnTable filter (relayArgs order encoding) start) (events : List (HostEvent filter)) :
    let later := run (hostStep order encoding) start events
    let left := leftAfter order (installed filter start) events
    OwnTable filter (relayArgs order encoding) later ∧ installed filter later = left ∧
      forall passage, passOutput filter later (fun _ => none) passage =
        if left = true ∧ passage.packet.IsQueued then none else some passage := by
  intro later left
  have changed : later = run (netfilterStep filter (relayArgs order encoding)) start
      (events.flatMap (HostEvent.changes order)) := run_hostStep order encoding start events
  have decided : installedAfter (installed filter start)
      (events.flatMap (HostEvent.changes order)) = left := installedAfter_flatMap order _ events
  rw [changed, ← decided]
  exact ⟨ownTable_run accepts own _, installed_run accepts own _,
    fun passage => unattended_output passes accepts own _ passage⟩

end Lives

/-- A host on which everything goes well until the process is killed. -/
def killedHost : LifeAnswers where
  isRoot := true
  toSocketAddrs := fun _ => .ok [.v4 Ipv4Addr.localhost]
  leftovers := ⟨none, none, true, [.block (.error enoent "No such file or directory".toList)]⟩
  installation := ⟨none, none, true, [.block .stop]⟩
  currentPid := 1000
  runtime := .ok ()
  handler := .ok ()
  interrupted := none

/-- A life that is killed, and then a life that cleans up. -/
theorem lives_history_killed :
    let filter := kernelFilter .little
    let start : filter.Ruleset := KeyedStore.empty
    let killed : HostEvent filter :=
      .life { CliArgs.defaults with rule := ["curl:*:*:TCP:PROXY".toList] } killedHost
    let cleaned : HostEvent filter := .life { CliArgs.defaults with cleanup := true } killedHost
    let step := @hostStep filter .little (.native .little)
    let passage : Passage OutPacket := ⟨⟨6, 0, []⟩, none⟩
    passOutput filter (run step start [killed]) (fun _ => none) passage = none ∧
      passOutput filter (run step start [killed, cleaned]) (fun _ => none) passage =
        some passage := by
  intro filter start killed cleaned step passage
  have accepts := acceptsTable_kernelFilter .little (relayArgs .little (.native .little))
  have passes := passesPackets_kernelFilter .little
  have own : OwnTable filter (relayArgs .little (.native .little)) start := Or.inl rfl
  have left : leftAfter .little false [killed] = true := by decide
  have gone : leftAfter .little false [killed, cleaned] = false := by decide
  have first := (lives_history accepts passes own [killed]).2.2 passage
  have second := (lives_history accepts passes own [killed, cleaned]).2.2 passage
  constructor
  · exact first.trans (if_pos ⟨left, Or.inl rfl⟩)
  · exact second.trans (if_neg (fun both => Bool.false_ne_true (gone.symm.trans both.1)))

end ProxyBridge
