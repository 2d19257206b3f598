import ProxyBridge.Foundation.PacketFilterMachine
import ProxyBridge.Foundation.Simulation
import ProxyBridge.Linux.Netfilter

namespace ProxyBridge

open Foundation Text Octets PacketFilter

/-!
# The table over whole histories

Set-ups and clean-ups happen in any order, each of them may fail at any point or
go unnoticed, a crash may leave the table behind, and other programs change
their own tables in between.  The program's table is absent, or it holds one or
more whole copies of the rules, and nobody else's table is touched
(`ruleset_history`).

A second copy comes from a clean-up that fails before a set-up: it leaves the old
rules in place, and the new ones are added behind them.  Copies make no difference
to any packet, so a ruleset is described by whether the table is there.
-/

/-- The two chains of the program with some rules. -/
def twoChains (mangleRules natRules : List FilterRule) : FilterTable where
  chains :=
    [(mangleOutputName, ⟨mangleOutput, mangleRules⟩), (natOutputName, ⟨natOutput, natRules⟩)]

/-- The table after its rules have been added a number of times. -/
def relayTable (args : NetfilterArgs) (copies : Nat) : FilterTable :=
  twoChains
    (List.replicate copies [tcpQueueRule args, udpQueueRule args]).flatten
    (List.replicate copies [tcpRedirRule args, udpRedirRule args]).flatten

/-- The table with another copy of the rules behind those that are there. -/
theorem relayTable_succ (args : NetfilterArgs) (copies : Nat) :
    relayTable args (copies + 1) = twoChains
      ((List.replicate copies [tcpQueueRule args, udpQueueRule args]).flatten ++
        [tcpQueueRule args] ++ [udpQueueRule args])
      ((List.replicate copies [tcpRedirRule args, udpRedirRule args]).flatten ++
        [tcpRedirRule args] ++ [udpRedirRule args]) := by
  rw [relayTable, List.replicate_succ', List.replicate_succ', List.flatten_append,
    List.flatten_append, List.append_assoc, List.append_assoc]
  rfl

section Batches

variable {filter : NetFilter} {args : NetfilterArgs} (accepts : AcceptsTable filter args)
include accepts

/-- The rules of the batch go behind those of the two chains. -/
theorem makes_setupBatch_some (mangleRules natRules : List FilterRule) :
    filter.Makes tableName (setupBatch args) (some (twoChains mangleRules natRules))
      (some (twoChains (mangleRules ++ [tcpQueueRule args] ++ [udpQueueRule args])
        (natRules ++ [tcpRedirRule args] ++ [udpRedirRule args]))) := by
  have laws := accepts.laws
  apply Filter.makes_cons laws (laws.addTable _)
  apply Filter.makes_cons laws (laws.addChainAgain (twoChains mangleRules natRules)
    mangleOutputName ⟨mangleOutput, mangleRules⟩ rfl)
  apply Filter.makes_cons laws (laws.addRule (twoChains mangleRules natRules) mangleOutputName
    ⟨mangleOutput, mangleRules⟩ _ rfl accepts.tcpQueue)
  apply Filter.makes_cons laws (laws.addRule
    (twoChains (mangleRules ++ [tcpQueueRule args]) natRules) mangleOutputName
    ⟨mangleOutput, mangleRules ++ [tcpQueueRule args]⟩ _ rfl accepts.udpQueue)
  let mangled := mangleRules ++ [tcpQueueRule args] ++ [udpQueueRule args]
  apply Filter.makes_cons laws (laws.addChainAgain (twoChains mangled natRules) natOutputName
    ⟨natOutput, natRules⟩ rfl)
  apply Filter.makes_cons laws (laws.addRule (twoChains mangled natRules) natOutputName
    ⟨natOutput, natRules⟩ _ rfl accepts.tcpRedir)
  apply Filter.makes_cons laws (laws.addRule
    (twoChains mangled (natRules ++ [tcpRedirRule args])) natOutputName
    ⟨natOutput, natRules ++ [tcpRedirRule args]⟩ _ rfl accepts.udpRedir)
  exact Filter.makes_nil laws _

/-- Without a table, the batch builds it with one copy of the rules. -/
theorem makes_setupBatch_none :
    filter.Makes tableName (setupBatch args) none (some (relayTable args 1)) := by
  have laws := accepts.laws
  let mangled : List FilterRule := [tcpQueueRule args, udpQueueRule args]
  let only (rules : List FilterRule) : FilterTable :=
    ⟨[(mangleOutputName, ⟨mangleOutput, rules⟩)]⟩
  apply Filter.makes_cons laws (laws.addTable _)
  apply Filter.makes_cons laws (laws.addChain ⟨[]⟩ mangleOutputName mangleOutput rfl)
  apply Filter.makes_cons laws (laws.addRule (only []) mangleOutputName ⟨mangleOutput, []⟩ _ rfl
    accepts.tcpQueue)
  apply Filter.makes_cons laws (laws.addRule (only [tcpQueueRule args]) mangleOutputName
    ⟨mangleOutput, [tcpQueueRule args]⟩ _ rfl accepts.udpQueue)
  apply Filter.makes_cons laws (laws.addChain (only mangled) natOutputName natOutput rfl)
  apply Filter.makes_cons laws (laws.addRule (twoChains mangled []) natOutputName
    ⟨natOutput, []⟩ _ rfl accepts.tcpRedir)
  apply Filter.makes_cons laws (laws.addRule (twoChains mangled [tcpRedirRule args]) natOutputName
    ⟨natOutput, [tcpRedirRule args]⟩ _ rfl accepts.udpRedir)
  exact Filter.makes_nil laws _

end Batches

/-! ## One event -/

section Events

variable (filter : NetFilter) (args : NetfilterArgs)

/-- The table is absent, or holds one or more whole copies of the rules. -/
def OwnTable (ruleset : filter.Ruleset) : Prop :=
  filter.table ruleset tableName = none ∨ Exists fun copies =>
    filter.table ruleset tableName = some (relayTable args (copies + 1))

/-- The table is there. -/
def installed (ruleset : filter.Ruleset) : Bool :=
  (filter.table ruleset tableName).isSome

inductive NetfilterEvent where
  | setup (first second : BatchAnswers)
  | cleanup (answers : BatchAnswers)
  | foreign (other : filter.Foreign tableName)

def foreignStep (ruleset : filter.Ruleset) (other : filter.Foreign tableName) : filter.Ruleset :=
  other.change ruleset

def netfilterStep (ruleset : filter.Ruleset) : NetfilterEvent filter -> filter.Ruleset
  | .setup first second => (setup filter args ruleset first second).1
  | .cleanup answers => (cleanup filter ruleset answers).1
  | .foreign other => foreignStep filter ruleset other

variable {filter}

/-- The changes of other programs among the events. -/
def NetfilterEvent.foreignChange : NetfilterEvent filter -> List (filter.Foreign tableName)
  | .foreign other => [other]
  | _ => []

/-- Whether the table is there afterwards, where the event decides it.  A set-up
waits for the answer to its clean-up before it sends anything else. -/
def NetfilterEvent.decides : NetfilterEvent filter -> Option Bool
  | .setup first second =>
      if second.arrives ∧ (sendAndProcess first).isSome then some true
      else if first.arrives then some false
      else none
  | .cleanup answers => if answers.arrives then some false else none
  | .foreign _ => none

/-- Whether the table is there after a history: the last event that decides it
does. -/
def installedAfter (before : Bool) (events : List (NetfilterEvent filter)) : Bool :=
  events.foldl (fun present event => event.decides.getD present) before

variable (filter) in
/-- The tables of all other programs are the same. -/
def SameOthers (first second : filter.Ruleset) : Prop :=
  forall other, other ≠ tableName -> filter.table first other = filter.table second other

variable {args}

/-- A batch that makes something of the table does so when it arrives. -/
theorem sendBatch_makes {ruleset : filter.Ruleset} {batch : List FilterMessage}
    {after : Option FilterTable}
    (makes : filter.Makes tableName batch (filter.table ruleset tableName) after)
    (answers : BatchAnswers) :
    SameOthers filter (sendBatch filter ruleset batch answers).1 ruleset ∧
      filter.table (sendBatch filter ruleset batch answers).1 tableName =
        if answers.arrives then after else filter.table ruleset tableName := by
  unfold sendBatch carryOut
  cases answers.arrives with
  | false => exact ⟨fun _ _ => rfl, rfl⟩
  | true =>
      rcases makes ruleset rfl with ⟨later, carried, made, kept⟩
      rw [if_pos rfl, if_pos rfl, carried, Option.getD_some]
      exact ⟨kept, made⟩

variable (accepts : AcceptsTable filter args)
include accepts

theorem cleanup_own (ruleset : filter.Ruleset) (answers : BatchAnswers) :
    SameOthers filter (cleanup filter ruleset answers).1 ruleset ∧
      filter.table (cleanup filter ruleset answers).1 tableName =
        if answers.arrives then none else filter.table ruleset tableName := by
  cases present : filter.table ruleset tableName with
  | some table =>
      have makes := accepts.laws.deleteTable table
      rw [← present] at makes ⊢
      exact sendBatch_makes makes answers
  | none =>
      have refused : carryOut filter ruleset cleanupBatch = ruleset := by
        rw [carryOut, cleanupBatch, accepts.laws.deleteAbsent ruleset present, Option.getD_none]
      have unchanged : (cleanup filter ruleset answers).1 = ruleset := by
        change (if answers.arrives then carryOut filter ruleset cleanupBatch else ruleset) = ruleset
        rw [refused, ite_self]
      rw [unchanged, present, ite_self]
      exact ⟨fun _ _ => rfl, rfl⟩

theorem OwnTable.makes {ruleset : filter.Ruleset} (own : OwnTable filter args ruleset) :
    Exists fun copies => filter.Makes tableName (setupBatch args)
      (filter.table ruleset tableName) (some (relayTable args (copies + 1))) := by
  rcases own with absent | ⟨copies, present⟩
  · rw [absent]
    exact ⟨0, makes_setupBatch_none accepts⟩
  · rw [present]
    refine ⟨copies + 1, ?_⟩
    rw [relayTable_succ args (copies + 1)]
    exact makes_setupBatch_some accepts _ _

/-- A batch that sets the table up completes it. -/
theorem sendBatch_setup {ruleset : filter.Ruleset} (own : OwnTable filter args ruleset)
    (answers : BatchAnswers) :
    let later := (sendBatch filter ruleset (setupBatch args) answers).1
    SameOthers filter later ruleset ∧ OwnTable filter args later ∧
      installed filter later = (answers.arrives || installed filter ruleset) := by
  intro later
  rcases own.makes accepts with ⟨copies, makes⟩
  have sent := sendBatch_makes makes answers
  refine ⟨sent.1, ?_⟩
  have made : filter.table later tableName = _ := sent.2
  rw [OwnTable, installed, made]
  cases answers.arrives with
  | false => exact ⟨own, rfl⟩
  | true => exact ⟨Or.inr ⟨copies, rfl⟩, rfl⟩

omit accepts in
/-- A set-up stops at its clean-up or goes on to its batch. -/
theorem setup_cases (filter : NetFilter) (args : NetfilterArgs) (ruleset : filter.Ruleset)
    (first second : BatchAnswers) :
    (sendAndProcess first = none ∧
        setup filter args ruleset first second = ((cleanup filter ruleset first).1, none)) ∨
      (Exists fun result => sendAndProcess first = some result) ∧
        setup filter args ruleset first second =
          sendBatch filter (cleanup filter ruleset first).1 (setupBatch args) second := by
  have returned : (cleanup filter ruleset first).2 =
      (sendAndProcess first).map (fun _ => .ok ()) := rfl
  simp only [setup, returned]
  cases sendAndProcess first with
  | none => exact Or.inl ⟨rfl, rfl⟩
  | some result => exact Or.inr ⟨⟨result, rfl⟩, rfl⟩

/-- An event keeps the table whole, and decides whether it is there. -/
theorem netfilterStep_own {ruleset : filter.Ruleset} (own : OwnTable filter args ruleset)
    (event : NetfilterEvent filter) :
    let later := netfilterStep filter args ruleset event
    OwnTable filter args later ∧
      installed filter later = event.decides.getD (installed filter ruleset) := by
  cases event with
  | setup first second =>
      have cleaned := cleanup_own accepts ruleset first
      have ownCleaned : OwnTable filter args (cleanup filter ruleset first).1 := by
        rw [OwnTable, cleaned.2]
        cases first.arrives with
        | false => exact own
        | true => exact Or.inl rfl
      have whether : installed filter (cleanup filter ruleset first).1 =
          (!first.arrives && installed filter ruleset) := by
        rw [installed, cleaned.2]
        cases first.arrives with
        | false => rfl
        | true => rfl
      change OwnTable filter args (setup filter args ruleset first second).1 ∧
        installed filter (setup filter args ruleset first second).1 = _
      rcases setup_cases filter args ruleset first second with
        ⟨waits, stopped⟩ | ⟨⟨result, returns⟩, went⟩
      · rw [stopped, NetfilterEvent.decides, waits]
        refine ⟨ownCleaned, whether.trans ?_⟩
        cases first.arrives <;> simp
      · have sent := sendBatch_setup accepts ownCleaned second
        rw [went, NetfilterEvent.decides, returns]
        refine ⟨sent.2.1, sent.2.2.trans ?_⟩
        rw [whether]
        cases first.arrives <;> cases second.arrives <;> simp
  | cleanup answers =>
      have cleaned := cleanup_own accepts ruleset answers
      change OwnTable filter args (cleanup filter ruleset answers).1 ∧
        installed filter (cleanup filter ruleset answers).1 = _
      rw [OwnTable, installed, cleaned.2, NetfilterEvent.decides]
      cases answers.arrives with
      | false => exact ⟨own, rfl⟩
      | true => exact ⟨Or.inl rfl, rfl⟩
  | foreign other =>
      change OwnTable filter args (other.change ruleset) ∧
        installed filter (other.change ruleset) = _
      rw [OwnTable, installed, other.keeps]
      exact ⟨own, rfl⟩

/-- The program's own calls do not show in the tables of the others. -/
theorem sameOthers_netfilterStep {first second : filter.Ruleset}
    (own : OwnTable filter args first) (same : SameOthers filter first second)
    (event : NetfilterEvent filter) :
    SameOthers filter (netfilterStep filter args first event)
      (run (foreignStep filter) second event.foreignChange) := by
  cases event with
  | setup before after =>
      have cleaned := cleanup_own accepts first before
      intro other different
      change filter.table (setup filter args first before after).1 other = filter.table second other
      rw [← same other different, ← cleaned.1 other different]
      rcases setup_cases filter args first before after with ⟨_, stopped⟩ | ⟨_, went⟩
      · rw [stopped]
      · have ownCleaned := (netfilterStep_own accepts own (.cleanup before)).1
        rw [went]
        exact (sendBatch_setup accepts ownCleaned after).1 other different
  | cleanup answers =>
      intro other different
      exact ((cleanup_own accepts first answers).1 other different).trans (same other different)
  | foreign other => exact other.blind first second same

theorem installed_run {start : filter.Ruleset} (own : OwnTable filter args start)
    (events : List (NetfilterEvent filter)) :
    installed filter (run (netfilterStep filter args) start events) =
      installedAfter (installed filter start) events := by
  induction events generalizing start with
  | nil => rfl
  | cons event events ih =>
      have here := netfilterStep_own accepts own event
      rw [run_cons, ih here.1, here.2]
      rfl

theorem ownTable_run {start : filter.Ruleset} (own : OwnTable filter args start)
    (events : List (NetfilterEvent filter)) :
    OwnTable filter args (run (netfilterStep filter args) start events) :=
  run_invariant _ own (fun _ event held => (netfilterStep_own accepts held event).1) events

theorem sameOthers_run {first second : filter.Ruleset} (own : OwnTable filter args first)
    (same : SameOthers filter first second) (events : List (NetfilterEvent filter)) :
    SameOthers filter (run (netfilterStep filter args) first events)
      (run (foreignStep filter) second (events.flatMap NetfilterEvent.foreignChange)) := by
  induction events generalizing first second with
  | nil => exact same
  | cons event events ih =>
      have later := sameOthers_netfilterStep accepts own same event
      rw [run_cons, List.flatMap_cons, run_append]
      exact ih (netfilterStep_own accepts own event).1 later

/-- Whatever happens, from a state where the table is absent or was left behind:
it is absent or holds whole copies of the rules, the last event that got through
to the kernel says which, and the tables of the others are as their own changes
alone would have left them. -/
theorem ruleset_history {start : filter.Ruleset} (own : OwnTable filter args start)
    (events : List (NetfilterEvent filter)) :
    let later := run (netfilterStep filter args) start events
    OwnTable filter args later ∧
      installed filter later = installedAfter (installed filter start) events ∧
      SameOthers filter later
        (run (foreignStep filter) start (events.flatMap NetfilterEvent.foreignChange)) :=
  ⟨ownTable_run accepts own events, installed_run accepts own events,
    sameOthers_run accepts own (fun _ _ => rfl) events⟩

end Events

/-- The fields as the kernel loads them into a register. -/
def OutPacket.load (order : ByteOrder) (packet : OutPacket) : MetaField -> Octets
  | .l4Proto => [packet.l4Proto, 0, 0, 0]
  | .mark => toNeBytes order packet.mark

def kernelFilter (order : ByteOrder) : NetFilter :=
  machine (OutPacket.load order)

theorem acceptsTable_kernelFilter (order : ByteOrder) (args : NetfilterArgs) :
    AcceptsTable (kernelFilter order) args where
  laws := tableLaws_machine _
  tcpQueue := rfl
  udpQueue := rfl
  tcpRedir := rfl
  udpRedir := rfl

/-- A table that a crash left behind, found by a start whose clean-up fails: it
stays until a clean-up gets through, and so does what another program adds. -/
theorem ruleset_history_restart :
    let filter := kernelFilter .little
    let args := relayArgs .little (.native .little)
    let lost : BatchAnswers := ⟨some "Too many open files".toList, none, true, []⟩
    let sent : BatchAnswers := ⟨none, none, true, [.block .stop]⟩
    let left : filter.Ruleset := KeyedStore.empty.assign tableName (some (relayTable args 1))
    let other : ProtoFamily × Str := (.ipv4, "filter".toList)
    let adds : filter.Foreign tableName := assignOther tableName other (by decide) (some ⟨[]⟩)
    let started := run (netfilterStep filter args) left [.setup lost sent, .foreign adds]
    let stopped := run (netfilterStep filter args) left
      [.setup lost sent, .foreign adds, .cleanup sent]
    installed filter started = true ∧ installed filter stopped = false ∧
      filter.table stopped other = some ⟨[]⟩ := by
  intro filter args lost sent left other adds started stopped
  have accepts := acceptsTable_kernelFilter .little args
  have own : OwnTable filter args left :=
    Or.inr ⟨0, KeyedStore.get_assign_self KeyedStore.empty tableName (some (relayTable args 1))⟩
  have first := ruleset_history accepts own [.setup lost sent, .foreign adds]
  have second := ruleset_history accepts own [.setup lost sent, .foreign adds, .cleanup sent]
  refine ⟨first.2.1, second.2.1, ?_⟩
  exact (second.2.2 other (by decide)).trans
    (KeyedStore.get_assign_self (left : KeyedStore _ _) other _)

end ProxyBridge
