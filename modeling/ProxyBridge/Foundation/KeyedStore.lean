import Mathlib

namespace Foundation

universe u v

/-!
# Hash maps and their iteration order

A hash map holds at most one value under each key, and that is all its lookups
reveal.  Iterating over it visits every key once, in an order the map does not
specify.  `KeyedStore` is the map seen through its lookups; an `Enumerates` list
is one possible iteration order, and a result that must not depend on the order
is stated for every such list.
-/

@[ext] structure KeyedStore (K : Type u) (V : Type v) where
  get : K -> Option V

namespace KeyedStore

variable {K : Type u} {V : Type v}

def empty : KeyedStore K V :=
  ⟨fun _ => none⟩

/-- `HashMap::contains_key` -/
def containsKey (store : KeyedStore K V) (key : K) : Bool :=
  (store.get key).isSome

/-- `HashMap::insert`: the new value replaces an old one under its key. -/
def insert [DecidableEq K] (store : KeyedStore K V) (key : K) (value : V) : KeyedStore K V :=
  ⟨fun other => if other = key then some value else store.get other⟩

/-- Set or clear what is under one key. -/
def assign [DecidableEq K] (store : KeyedStore K V) (key : K) (value : Option V) :
    KeyedStore K V :=
  ⟨fun other => if other = key then value else store.get other⟩

/-- `HashMap::retain` -/
def retain (store : KeyedStore K V) (keep : K -> V -> Bool) : KeyedStore K V :=
  ⟨fun key => (store.get key).filter (keep key)⟩

@[simp] theorem get_insert_self [DecidableEq K] (store : KeyedStore K V) (key : K) (value : V) :
    (store.insert key value).get key = some value :=
  if_pos rfl

theorem get_insert_of_ne [DecidableEq K] (store : KeyedStore K V) {key other : K} (value : V)
    (different : other ≠ key) : (store.insert key value).get other = store.get other :=
  if_neg different

@[simp] theorem get_assign_self [DecidableEq K] (store : KeyedStore K V) (key : K)
    (value : Option V) : (store.assign key value).get key = value :=
  if_pos rfl

theorem get_assign_of_ne [DecidableEq K] (store : KeyedStore K V) {key other : K}
    (value : Option V) (different : other ≠ key) :
    (store.assign key value).get other = store.get other :=
  if_neg different

theorem get_retain_eq_some_iff (store : KeyedStore K V) (keep : K -> V -> Bool) (key : K)
    (value : V) :
    (store.retain keep).get key = some value <->
      store.get key = some value ∧ keep key value = true :=
  Option.filter_eq_some_iff

theorem containsKey_iff (store : KeyedStore K V) (key : K) :
    store.containsKey key = true <-> Exists fun value => store.get key = some value :=
  Option.isSome_iff_exists

/-! ## Iteration -/

/-- One possible iteration order: every key of the map, each one once. -/
structure Enumerates (store : KeyedStore K V) (keys : List K) : Prop where
  nodup : keys.Nodup
  complete : forall key, key ∈ keys <-> store.containsKey key = true

/-- Every finite map has an iteration order. -/
theorem exists_enumeration [Finite K] (store : KeyedStore K V) :
    Exists fun keys => store.Enumerates keys := by
  have := Fintype.ofFinite K
  classical
  refine ⟨(Finset.univ.filter (fun key => store.containsKey key = true)).toList, ?_, ?_⟩
  · exact Finset.nodup_toList _
  · intro key
    rw [Finset.mem_toList, Finset.mem_filter]
    exact and_iff_right (Finset.mem_univ key)

/-- Any key of the map can come first. -/
theorem Enumerates.moveFront [DecidableEq K] {store : KeyedStore K V} {keys : List K}
    (order : store.Enumerates keys) {key : K} (member : key ∈ keys) :
    store.Enumerates (key :: keys.erase key) where
  nodup := List.nodup_cons.mpr
    ⟨order.nodup.not_mem_erase, order.nodup.erase key⟩
  complete := fun other =>
    (List.perm_cons_erase member).symm.mem_iff.trans (order.complete other)

theorem Enumerates.mem {store : KeyedStore K V} {keys : List K}
    (order : store.Enumerates keys) {key : K} {value : V} (held : store.get key = some value) :
    key ∈ keys :=
  (order.complete key).mpr ((store.containsKey_iff key).mpr ⟨value, held⟩)

/-- The first value in iteration order that satisfies a test. -/
def findValue (store : KeyedStore K V) (keys : List K) (test : V -> Bool) : Option V :=
  keys.findSome? (fun key => (store.get key).filter test)

theorem findValue_eq_some {store : KeyedStore K V} {keys : List K} {test : V -> Bool} {value : V}
    (found : store.findValue keys test = some value) :
    Exists fun key => key ∈ keys ∧ store.get key = some value ∧ test value = true := by
  rcases List.exists_of_findSome?_eq_some found with ⟨key, member, selected⟩
  exact ⟨key, member, Option.filter_eq_some_iff.mp selected⟩

/-- When the first key in iteration order passes the test, it is selected. -/
theorem findValue_cons {store : KeyedStore K V} {key : K} {value : V} (keys : List K)
    {test : V -> Bool} (held : store.get key = some value) (passes : test value = true) :
    store.findValue (key :: keys) test = some value := by
  rw [findValue, List.findSome?_cons, held, Option.filter_some, if_pos passes]

/-- A search succeeds when a value under one of its keys passes the test. -/
theorem isSome_findValue {store : KeyedStore K V} {keys : List K} {key : K} (member : key ∈ keys)
    {value : V} {test : V -> Bool} (held : store.get key = some value)
    (passes : test value = true) : (store.findValue keys test).isSome = true := by
  rw [findValue, List.findSome?_isSome_iff]
  refine ⟨key, member, ?_⟩
  rw [held, Option.filter_some, if_pos passes, Option.isSome_some]

end KeyedStore
end Foundation
