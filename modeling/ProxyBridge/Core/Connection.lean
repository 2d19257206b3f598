import ProxyBridge.Core.Config
import ProxyBridge.Foundation.KeyedStore

namespace ProxyBridge

open Foundation

/-!
# Connection tracker and PID cache

Both tables stamp their entries with the monotonic clock.  The tracker is keyed
by the source port alone and remembers where a redirected connection was going.
The cache is keyed by source address, source port and protocol.

An instant counts nanoseconds, and an age is taken in whole milliseconds, as
`Instant::elapsed` and `as_millis` do.  Every operation that reads the clock
takes the instant as an argument.
-/

/-- A reading of the monotonic clock in nanoseconds. -/
abbrev Instant := Nat

/-- `stamp.elapsed().as_millis()` at the instant `now`. -/
def elapsedMillis (now stamp : Instant) : Nat :=
  (now - stamp) / 1000000

theorem elapsedMillis_mono {now later : Instant} (after : now ≤ later) (stamp : Instant) :
    elapsedMillis now stamp ≤ elapsedMillis later stamp :=
  Nat.div_le_div_right (Nat.sub_le_sub_right after stamp)

theorem elapsedMillis_anti (now : Instant) {first second : Instant} (ordered : first ≤ second) :
    elapsedMillis now second ≤ elapsedMillis now first :=
  Nat.div_le_div_right (Nat.sub_le_sub_left ordered now)

/-- A tracked connection: the original destination before the redirect. -/
structure ConnectionInfo where
  srcIp : UInt32
  srcPort : UInt16
  origDestIp : UInt32
  origDestPort : UInt16
  lastActivity : Instant
  deriving DecidableEq

structure ConnectionTracker where
  connections : KeyedStore UInt16 ConnectionInfo

namespace ConnectionTracker

def new : ConnectionTracker :=
  ⟨KeyedStore.empty⟩

/-- Add or update the entry of a source port. -/
def add (tracker : ConnectionTracker) (now : Instant) (srcPort : UInt16) (srcIp destIp : UInt32)
    (destPort : UInt16) : ConnectionTracker :=
  ⟨tracker.connections.insert srcPort
    { srcIp := srcIp
      srcPort := srcPort
      origDestIp := destIp
      origDestPort := destPort
      lastActivity := now }⟩

/-- The original destination recorded for a source port. -/
def get (tracker : ConnectionTracker) (srcPort : UInt16) : Option (UInt32 × UInt16) :=
  (tracker.connections.get srcPort).map (fun info => (info.origDestIp, info.origDestPort))

def isTracked (tracker : ConnectionTracker) (srcPort : UInt16) : Bool :=
  tracker.connections.containsKey srcPort

/-- Keep the entries younger than the connection timeout. -/
def cleanupStale (tracker : ConnectionTracker) (now : Instant) : ConnectionTracker :=
  ⟨tracker.connections.retain
    (fun _ info => decide (elapsedMillis now info.lastActivity < connectionTimeoutMs))⟩

def clear (_tracker : ConnectionTracker) : ConnectionTracker :=
  new

/-- Search the entries, in the iteration order `keys` of the map, for an
original destination, and return the source port recorded in the entry. -/
def findByDest (tracker : ConnectionTracker) (keys : List UInt16) (destIp : UInt32)
    (destPort : UInt16) : Option UInt16 :=
  (tracker.connections.findValue keys
    (fun info => info.origDestIp == destIp && info.origDestPort == destPort)).map
    ConnectionInfo.srcPort

theorem get_add_self (tracker : ConnectionTracker) (now : Instant) (srcPort : UInt16)
    (srcIp destIp : UInt32) (destPort : UInt16) :
    (tracker.add now srcPort srcIp destIp destPort).get srcPort = some (destIp, destPort) := by
  rw [get, add, KeyedStore.get_insert_self, Option.map_some]

theorem get_add_of_ne (tracker : ConnectionTracker) (now : Instant) {srcPort other : UInt16}
    (srcIp destIp : UInt32) (destPort : UInt16) (different : other ≠ srcPort) :
    (tracker.add now srcPort srcIp destIp destPort).get other = tracker.get other := by
  rw [get, add, KeyedStore.get_insert_of_ne _ _ different, get]

theorem connections_cleanupStale (tracker : ConnectionTracker) (now : Instant)
    (srcPort : UInt16) :
    (tracker.cleanupStale now).connections.get srcPort =
      (tracker.connections.get srcPort).filter
        (fun info => decide (elapsedMillis now info.lastActivity < connectionTimeoutMs)) :=
  rfl

/-- A clean-up invents no destination. -/
theorem get_cleanupStale {tracker : ConnectionTracker} {now : Instant} {srcPort : UInt16}
    {dest : UInt32 × UInt16} (kept : (tracker.cleanupStale now).get srcPort = some dest) :
    tracker.get srcPort = some dest := by
  rw [get, Option.map_eq_some_iff] at kept
  rcases kept with ⟨info, held, same⟩
  rw [connections_cleanupStale, Option.filter_eq_some_iff] at held
  rw [get, held.1, Option.map_some, same]

end ConnectionTracker

/-! ## PID cache -/

structure PidCacheEntry where
  pid : UInt32
  timestamp : Instant
  deriving DecidableEq

structure PidCacheKey where
  srcIp : UInt32
  srcPort : UInt16
  isUdp : Bool
  deriving DecidableEq

structure PidCache where
  cache : KeyedStore PidCacheKey PidCacheEntry

namespace PidCache

def new : PidCache :=
  ⟨KeyedStore.empty⟩

/-- The cached PID unless it has expired. -/
def get (cache : PidCache) (now : Instant) (srcIp : UInt32) (srcPort : UInt16) (isUdp : Bool) :
    Option UInt32 :=
  (cache.cache.get ⟨srcIp, srcPort, isUdp⟩).bind (fun entry =>
    if elapsedMillis now entry.timestamp < pidCacheTtlMs then some entry.pid else none)

def put (cache : PidCache) (now : Instant) (srcIp : UInt32) (srcPort : UInt16) (pid : UInt32)
    (isUdp : Bool) : PidCache :=
  ⟨cache.cache.insert ⟨srcIp, srcPort, isUdp⟩ { pid := pid, timestamp := now }⟩

/-- Remove expired entries. -/
def cleanup (cache : PidCache) (now : Instant) : PidCache :=
  ⟨cache.cache.retain (fun _ entry => decide (elapsedMillis now entry.timestamp < pidCacheTtlMs))⟩

/-- Clear all entries. -/
def clear (_cache : PidCache) : PidCache :=
  new

theorem get_put_self (cache : PidCache) (now later : Instant) (socket : PidCacheKey)
    (pid : UInt32) :
    (cache.put now socket.srcIp socket.srcPort pid socket.isUdp).get later socket.srcIp
        socket.srcPort socket.isUdp =
      if elapsedMillis later now < pidCacheTtlMs then some pid else none := by
  rw [get, put, KeyedStore.get_insert_self]
  rfl

theorem get_put_of_ne (cache : PidCache) (now later : Instant) {socket other : PidCacheKey}
    (pid : UInt32) (different : other ≠ socket) :
    (cache.put now socket.srcIp socket.srcPort pid socket.isUdp).get later other.srcIp
        other.srcPort other.isUdp =
      cache.get later other.srcIp other.srcPort other.isUdp := by
  rw [get, put, KeyedStore.get_insert_of_ne _ _ different]
  rfl

/-- A clean-up removes nothing that could be taken later. -/
theorem get_cleanup (cache : PidCache) {now later : Instant} (after : now ≤ later)
    (srcIp : UInt32) (srcPort : UInt16) (isUdp : Bool) :
    (cache.cleanup now).get later srcIp srcPort isUdp = cache.get later srcIp srcPort isUdp := by
  change ((cache.cache.get ⟨srcIp, srcPort, isUdp⟩).filter _).bind _ =
    (cache.cache.get ⟨srcIp, srcPort, isUdp⟩).bind _
  cases cache.cache.get ⟨srcIp, srcPort, isUdp⟩ with
  | none => rfl
  | some entry =>
      rw [Option.filter_some]
      by_cases kept : elapsedMillis now entry.timestamp < pidCacheTtlMs
      · rw [if_pos (decide_eq_true kept)]
      · have expired : Not (elapsedMillis later entry.timestamp < pidCacheTtlMs) := by
          intro fresh
          exact kept (lt_of_le_of_lt (elapsedMillis_mono after entry.timestamp) fresh)
        rw [if_neg (fun held => kept (of_decide_eq_true held))]
        exact (if_neg expired).symm

end PidCache
end ProxyBridge
