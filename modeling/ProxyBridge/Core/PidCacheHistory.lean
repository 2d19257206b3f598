import ProxyBridge.Core.Connection
import ProxyBridge.Foundation.TwoRuns

namespace ProxyBridge

open Foundation

/-!
# The PID cache against its history

The specification of the cache is a log that never forgets an entry by itself:
it keeps the latest entry stored under each key and the time of it, and a lookup
compares that time with the clock.  The cache drops expired entries when it is
cleaned up, and it measures ages in whole milliseconds, but as long as the clock
does not go back no lookup can tell it from the log.

In the log a clean-up is nothing at all, and an entry depends on its own key
only.  Both carry over to the cache.
-/

inductive CacheOperation where
  | put (socket : PidCacheKey) (pid : UInt32)
  | get (socket : PidCacheKey)
  | cleanup
  | clear
  deriving DecidableEq

/-- An operation and the reading of the clock when it takes place. -/
structure CacheEvent where
  instant : Instant
  operation : CacheOperation
  deriving DecidableEq

/-- The clock does not go back. -/
def Clocked (history : List CacheEvent) : Prop :=
  history.Pairwise (fun first second => first.instant ≤ second.instant)

namespace PidCache

def step (cache : PidCache) (event : CacheEvent) : PidCache :=
  match event.operation with
  | .put socket pid => cache.put event.instant socket.srcIp socket.srcPort pid socket.isUdp
  | .get _ => cache
  | .cleanup => cache.cleanup event.instant
  | .clear => cache.clear

/-- The answer to a lookup, with the key that was looked up. -/
def answer (cache : PidCache) (event : CacheEvent) : Option (PidCacheKey × Option UInt32) :=
  match event.operation with
  | .get socket =>
      some (socket, cache.get event.instant socket.srcIp socket.srcPort socket.isUdp)
  | _ => none

end PidCache

/-- The latest entry stored under each key, however old. -/
structure PidLog where
  entries : KeyedStore PidCacheKey PidCacheEntry

namespace PidLog

def new : PidLog :=
  ⟨KeyedStore.empty⟩

def step (log : PidLog) (event : CacheEvent) : PidLog :=
  match event.operation with
  | .put socket pid => ⟨log.entries.insert socket { pid := pid, timestamp := event.instant }⟩
  | .get _ => log
  | .cleanup => log
  | .clear => new

/-- An entry counts for as long as the lifetime, given in milliseconds. -/
def lookup (log : PidLog) (now : Instant) (socket : PidCacheKey) : Option UInt32 :=
  (log.entries.get socket).bind (fun entry =>
    if now - entry.timestamp < pidCacheTtlMs * 1000000 then some entry.pid else none)

def answer (log : PidLog) (event : CacheEvent) : Option (PidCacheKey × Option UInt32) :=
  match event.operation with
  | .get socket => some (socket, log.lookup event.instant socket)
  | _ => none

end PidLog

/-- The two ways of measuring an age agree about the lifetime. -/
theorem elapsedMillis_lt_iff (now stamp : Instant) (bound : Nat) :
    elapsedMillis now stamp < bound <-> now - stamp < bound * 1000000 :=
  Nat.div_lt_iff_lt_mul (by decide)

/-- From this instant on no lookup can tell the cache from the log. -/
def Agree (now : Instant) (cache : PidCache) (log : PidLog) : Prop :=
  forall later, now ≤ later -> forall socket : PidCacheKey,
    cache.get later socket.srcIp socket.srcPort socket.isUdp = log.lookup later socket

theorem agree_new (now : Instant) : Agree now .new .new :=
  fun _ _ _ => rfl

theorem Agree.step {now : Instant} {cache : PidCache} {log : PidLog} {event : CacheEvent}
    (agree : Agree now cache log) (after : now ≤ event.instant) :
    Agree event.instant (cache.step event) (log.step event) := by
  rcases event with ⟨instant, operation⟩
  intro later reached socket
  have before := agree later (Nat.le_trans after reached)
  cases operation with
  | put stored pid =>
      by_cases same : socket = stored
      · rw [same]
        change (cache.put instant stored.srcIp stored.srcPort pid stored.isUdp).get later _ _ _ = _
        rw [PidCache.get_put_self, PidLog.lookup, PidLog.step, KeyedStore.get_insert_self,
          Option.bind_some]
        simp only [elapsedMillis_lt_iff]
      · change (cache.put instant stored.srcIp stored.srcPort pid stored.isUdp).get later _ _ _ = _
        rw [PidCache.get_put_of_ne _ _ _ _ same, before, PidLog.lookup, PidLog.lookup,
          PidLog.step, KeyedStore.get_insert_of_ne _ _ same]
  | get asked => exact before socket
  | cleanup =>
      change (cache.cleanup instant).get later _ _ _ = _
      rw [PidCache.get_cleanup _ reached]
      exact before socket
  | clear => rfl

theorem Agree.answer_eq {now : Instant} {cache : PidCache} {log : PidLog} {event : CacheEvent}
    (agree : Agree now cache log) (after : now ≤ event.instant) :
    cache.answer event = log.answer event := by
  rcases event with ⟨instant, operation⟩
  cases operation with
  | put stored pid => rfl
  | get asked => exact congrArg (fun found => some (asked, found)) (agree instant after asked)
  | cleanup => rfl
  | clear => rfl

/-- Along a run the cache and the log stay together. -/
theorem Agree.run {now finish : Instant} {cache : PidCache} {log : PidLog}
    {history : List CacheEvent} (agree : Agree now cache log) (clocked : Clocked history)
    (start : forall event, event ∈ history -> now ≤ event.instant)
    (past : forall event, event ∈ history -> event.instant ≤ finish) (ordered : now ≤ finish) :
    Agree finish (run PidCache.step cache history) (run PidLog.step log history) := by
  induction history generalizing now cache log with
  | nil => exact fun later reached => agree later (Nat.le_trans ordered reached)
  | cons event history ih =>
      have clock := List.pairwise_cons.mp clocked
      have here := start event List.mem_cons_self
      refine ih (agree.step here) clock.2 clock.1 ?_ (past event List.mem_cons_self)
      intro other member
      exact past other (List.mem_cons_of_mem event member)

theorem Agree.outputs {now : Instant} {cache : PidCache} {log : PidLog}
    {history : List CacheEvent} (agree : Agree now cache log) (clocked : Clocked history)
    (start : forall event, event ∈ history -> now ≤ event.instant) :
    outputs PidCache.step PidCache.answer cache history =
      Foundation.outputs PidLog.step PidLog.answer log history := by
  induction history generalizing now cache log with
  | nil => rfl
  | cons event history ih =>
      have clock := List.pairwise_cons.mp clocked
      have here := start event List.mem_cons_self
      rw [Foundation.outputs, Foundation.outputs, agree.answer_eq here,
        ih (agree.step here) clock.2 clock.1]

/-! ## What the log remembers -/

/-- The operations that change what is stored under a key. -/
def Touches (socket : PidCacheKey) (event : CacheEvent) : Prop :=
  event.operation = .clear ∨ Exists fun pid => event.operation = .put socket pid

theorem log_get_iff (history : List CacheEvent) (socket : PidCacheKey) (pid : UInt32)
    (stamp : Instant) :
    (run PidLog.step .new history).entries.get socket = some ⟨pid, stamp⟩ <->
      LatestAmong (Touches socket) history ⟨stamp, .put socket pid⟩ := by
  induction history using List.reverseRecOn with
  | nil => exact iff_of_false (fun impossible => by cases impossible) not_latestAmong_nil
  | append_singleton history last ih =>
      rw [run_concat]
      rcases last with ⟨instant, operation⟩
      cases operation with
      | put stored other =>
          by_cases same : socket = stored
          · rw [same, latestAmong_concat_of_relevant history (Or.inr ⟨other, rfl⟩), PidLog.step,
              KeyedStore.get_insert_self, Option.some.injEq]
            constructor
            · intro entry
              cases entry
              rfl
            · intro event
              cases event
              rfl
          · have untouched : Not (Touches socket ⟨instant, .put stored other⟩) := by
              rintro (impossible | ⟨_, stores⟩)
              · cases impossible
              · cases stores
                exact same rfl
            rw [latestAmong_concat_of_not_relevant history untouched, PidLog.step,
              KeyedStore.get_insert_of_ne _ _ same, ih]
      | get asked =>
          have untouched : Not (Touches socket ⟨instant, .get asked⟩) := by
            rintro (impossible | ⟨_, impossible⟩) <;> cases impossible
          rw [latestAmong_concat_of_not_relevant history untouched]
          exact ih
      | cleanup =>
          have untouched : Not (Touches socket ⟨instant, .cleanup⟩) := by
            rintro (impossible | ⟨_, impossible⟩) <;> cases impossible
          rw [latestAmong_concat_of_not_relevant history untouched]
          exact ih
      | clear =>
          rw [latestAmong_concat_of_relevant history (Or.inl rfl)]
          exact iff_of_false (fun impossible => by cases impossible)
            (fun impossible => by cases impossible)

theorem log_lookup_iff (history : List CacheEvent) (now : Instant) (socket : PidCacheKey)
    (pid : UInt32) :
    (run PidLog.step .new history).lookup now socket = some pid <->
      Exists fun stamp => LatestAmong (Touches socket) history ⟨stamp, .put socket pid⟩ ∧
        now - stamp < pidCacheTtlMs * 1000000 := by
  rw [PidLog.lookup, Option.bind_eq_some_iff]
  constructor
  · rintro ⟨⟨stored, stamp⟩, held, counts⟩
    split at counts
    · rename_i young
      cases counts
      exact ⟨stamp, (log_get_iff history socket stored stamp).mp held, young⟩
    · cases counts
  · rintro ⟨stamp, latest, young⟩
    exact ⟨⟨pid, stamp⟩, (log_get_iff history socket pid stamp).mpr latest, if_pos young⟩

/-- The operations that matter to lookups of the watched keys. -/
def concerns (watched : PidCacheKey -> Bool) (event : CacheEvent) : Bool :=
  match event.operation with
  | .put socket _ => watched socket
  | .get socket => watched socket
  | .cleanup => false
  | .clear => true

/-- The answers to the lookups of the watched keys, in order. -/
def answersFor (watched : PidCacheKey -> Bool)
    (answers : List (PidCacheKey × Option UInt32)) : List (PidCacheKey × Option UInt32) :=
  answers.filter (fun answer => watched answer.1)

/-- Both logs hold the same under the watched keys. -/
def SameFor (watched : PidCacheKey -> Bool) (log other : PidLog) : Prop :=
  forall socket, watched socket = true -> log.entries.get socket = other.entries.get socket

section SameFor

variable {watched : PidCacheKey -> Bool} {log other : PidLog}

theorem SameFor.step (same : SameFor watched log other) (event : CacheEvent) :
    SameFor watched (log.step event) (other.step event) := by
  rcases event with ⟨instant, operation⟩
  cases operation with
  | put stored pid =>
      intro socket seen
      by_cases key : socket = stored
      · rw [key, PidLog.step, PidLog.step, KeyedStore.get_insert_self, KeyedStore.get_insert_self]
      · rw [PidLog.step, PidLog.step, KeyedStore.get_insert_of_ne _ _ key,
          KeyedStore.get_insert_of_ne _ _ key, same socket seen]
  | get asked => exact same
  | cleanup => exact same
  | clear => exact fun _ _ => rfl

/-- An operation that does not concern the watched keys can be left out. -/
theorem SameFor.skip (same : SameFor watched log other) {event : CacheEvent}
    (unconcerned : concerns watched event = false) : SameFor watched (log.step event) other := by
  rcases event with ⟨instant, operation⟩
  cases operation with
  | put stored pid =>
      intro socket seen
      have key : socket ≠ stored := by
        intro equal
        rw [equal] at seen
        cases seen.symm.trans unconcerned
      rw [PidLog.step, KeyedStore.get_insert_of_ne _ _ key, same socket seen]
  | get asked => exact same
  | cleanup => exact same
  | clear => cases unconcerned

theorem SameFor.answer_eq (same : SameFor watched log other) (event : CacheEvent) :
    answersFor watched (log.answer event).toList =
      answersFor watched (other.answer event).toList := by
  rcases event with ⟨instant, operation⟩
  cases operation with
  | put stored pid => rfl
  | get asked =>
      change answersFor watched [(asked, log.lookup instant asked)] =
        answersFor watched [(asked, other.lookup instant asked)]
      by_cases seen : watched asked = true
      · rw [PidLog.lookup, PidLog.lookup, same asked seen]
      · have hidden : forall found, answersFor watched [(asked, found)] = [] :=
          fun found => List.filter_cons_of_neg seen
        rw [hidden, hidden]
  | cleanup => rfl
  | clear => rfl

theorem answersFor_of_unconcerned (log : PidLog) {event : CacheEvent}
    (unconcerned : concerns watched event = false) :
    answersFor watched (log.answer event).toList = [] := by
  rcases event with ⟨instant, operation⟩
  cases operation with
  | put stored pid => rfl
  | get asked =>
      have unseen : Not (watched asked = true) := Bool.eq_false_iff.mp unconcerned
      exact List.filter_cons_of_neg unseen
  | cleanup => rfl
  | clear => rfl

/-- The log answers lookups of the watched keys without the operations that do
not concern them. -/
theorem SameFor.answers (same : SameFor watched log other) (history : List CacheEvent) :
    answersFor watched (outputs PidLog.step PidLog.answer log history) =
      answersFor watched
        (outputs PidLog.step PidLog.answer other (history.filter (concerns watched))) := by
  induction history generalizing log other with
  | nil => rfl
  | cons event history ih =>
      rw [outputs, answersFor, List.filter_append]
      cases kept : concerns watched event with
      | true =>
          rw [List.filter_cons_of_pos kept, outputs, answersFor, List.filter_append]
          exact congrArg₂ _ (same.answer_eq event) (ih (same.step event))
      | false =>
          have silent := answersFor_of_unconcerned log kept
          rw [answersFor] at silent
          rw [List.filter_cons_of_neg (Bool.eq_false_iff.mp kept), silent, List.nil_append]
          exact ih (same.skip kept)

end SameFor

/-- The answers of a new cache over a history. -/
def cacheAnswers (history : List CacheEvent) : List (PidCacheKey × Option UInt32) :=
  outputs PidCache.step PidCache.answer .new history

theorem cacheAnswers_eq_log {history : List CacheEvent} (clocked : Clocked history) :
    cacheAnswers history = outputs PidLog.step PidLog.answer .new history :=
  (agree_new 0).outputs clocked (fun _ _ => Nat.zero_le _)

/-- A lookup returns what the latest operation on its key has stored, while it is
younger than the lifetime.  The answers for any keys are those of every other
history with the same operations on these keys and the same clearings, whatever
is cleaned up and whatever happens under other keys. -/
theorem pidCache_meets_specification :
    (forall (history : List CacheEvent) (now : Instant) (socket : PidCacheKey) (pid : UInt32),
      Clocked (history ++ [⟨now, .get socket⟩]) ->
        ((run PidCache.step .new history).get now socket.srcIp socket.srcPort socket.isUdp =
            some pid <->
          Exists fun stamp => LatestAmong (Touches socket) history ⟨stamp, .put socket pid⟩ ∧
            now - stamp < pidCacheTtlMs * 1000000)) ∧
    (forall (watched : PidCacheKey -> Bool) (history other : List CacheEvent),
      Clocked history -> Clocked other ->
        history.filter (concerns watched) = other.filter (concerns watched) ->
          answersFor watched (cacheAnswers history) = answersFor watched (cacheAnswers other)) := by
  constructor
  · intro history now socket pid clocked
    have parts := List.pairwise_append.mp clocked
    have past : forall event, event ∈ history -> event.instant ≤ now := by
      intro event member
      exact parts.2.2 event member _ List.mem_cons_self
    have agree := (agree_new 0).run parts.1 (fun _ _ => Nat.zero_le _) past (Nat.zero_le now)
    rw [agree now (Nat.le_refl now) socket]
    exact log_lookup_iff history now socket pid
  · intro watched history other clocked otherClocked same
    rw [cacheAnswers_eq_log clocked, cacheAnswers_eq_log otherClocked,
      SameFor.answers (fun _ _ => rfl) history, same]
    exact (SameFor.answers (fun _ _ => rfl) other).symm

/-- A socket that is stored at 0 s and again at 5 s: at 12 s the second entry is
found, at 15 s it has expired, and a clean-up in between is not noticed. -/
theorem pidCache_meets_specification_overwritten :
    let socket : PidCacheKey := ⟨0x0200000A, 4096, false⟩
    let history : List CacheEvent := [⟨0, .put socket 7⟩, ⟨5000000000, .put socket 9⟩]
    let cache := run PidCache.step .new history
    cache.get 12000000000 socket.srcIp socket.srcPort socket.isUdp = some 9 ∧
      cache.get 15000000000 socket.srcIp socket.srcPort socket.isUdp ≠ some 9 ∧
      answersFor (fun _ => true)
          (cacheAnswers (history ++ [⟨11000000000, .cleanup⟩, ⟨12000000000, .get socket⟩])) =
        answersFor (fun _ => true) (cacheAnswers (history ++ [⟨12000000000, .get socket⟩])) := by
  intro socket history cache
  have touches : Touches socket ⟨5000000000, .put socket 9⟩ := Or.inr ⟨9, rfl⟩
  have latest : forall event, LatestAmong (Touches socket)
      ([⟨0, .put socket 7⟩] ++ [⟨5000000000, .put socket 9⟩]) event <->
        ⟨5000000000, .put socket 9⟩ = event :=
    fun _ => latestAmong_concat_of_relevant _ touches
  refine ⟨?_, ?_, ?_⟩
  · apply (pidCache_meets_specification.1 history _ socket 9 (by simp [Clocked, history])).mpr
    exact ⟨5000000000, (latest _).mpr rfl, by decide⟩
  · intro found
    rcases (pidCache_meets_specification.1 history _ socket 9
      (by simp [Clocked, history])).mp found with ⟨stamp, stored, young⟩
    cases (latest _).mp stored
    exact absurd young (by decide)
  · apply pidCache_meets_specification.2
    · simp [Clocked, history]
    · simp [Clocked, history]
    · rfl

end ProxyBridge
