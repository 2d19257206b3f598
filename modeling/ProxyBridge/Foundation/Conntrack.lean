import ProxyBridge.Foundation.KeyedStore

namespace Foundation

universe u v

/-!
# Decisions for flows

A kernel that tracks connections makes a decision for each of them once, with the
first packet that goes through, and keeps it until the entry of the connection is
gone.  The tracking is a parameter (`Conntrack`), and `Conntrack.Lawful` says what
is relied on.  A store of decisions is one that keeps the laws.
-/

structure Conntrack (Flow : Type u) (Decision : Type v) where
  Entries : Type (max u v)
  initial : Entries
  /-- What is decided for the connection that this flow opened. -/
  decision : Entries -> Flow -> Option Decision
  /-- A packet of the flow went through, and this is what was made of it. -/
  settle : Entries -> Flow -> Decision -> Entries
  /-- The entry of the connection expires or is removed. -/
  expire : Entries -> Flow -> Entries

namespace Conntrack

variable {Flow : Type u} {Decision : Type v}

/-- A decision that was made is kept, and connections of other flows are not
touched. -/
structure Lawful (conntrack : Conntrack Flow Decision) : Prop where
  initial : forall flow, conntrack.decision conntrack.initial flow = none
  settle_self : forall entries flow made,
    conntrack.decision (conntrack.settle entries flow made) flow =
      some ((conntrack.decision entries flow).getD made)
  settle_other : forall entries flow made other, other ≠ flow ->
    conntrack.decision (conntrack.settle entries flow made) other =
      conntrack.decision entries other
  expire_self : forall entries flow,
    conntrack.decision (conntrack.expire entries flow) flow = none
  expire_other : forall entries flow other, other ≠ flow ->
    conntrack.decision (conntrack.expire entries flow) other = conntrack.decision entries other

/-- A packet carries the decision of its flow, or else a new one or the fallback, and
these are settled only where nothing was decided. -/
theorem Lawful.decision_settle_or {conntrack : Conntrack Flow Decision}
    (lawful : conntrack.Lawful) (entries : conntrack.Entries) (flow : Flow)
    (made : Option Decision) (fallback : Decision) :
    conntrack.decision (conntrack.settle entries flow
        (((conntrack.decision entries flow).or made).getD fallback)) flow =
      some ((conntrack.decision entries flow).getD (made.getD fallback)) := by
  rw [lawful.settle_self]
  cases conntrack.decision entries flow with
  | none => rfl
  | some known => rfl

/-- A store of decisions. -/
def ofStore (Flow : Type u) (Decision : Type v) [DecidableEq Flow] : Conntrack Flow Decision where
  Entries := KeyedStore Flow Decision
  initial := .empty
  decision := KeyedStore.get
  settle := fun entries flow made => entries.insert flow ((entries.get flow).getD made)
  expire := fun entries flow => entries.assign flow none

theorem lawful_ofStore [DecidableEq Flow] : (ofStore Flow Decision).Lawful where
  initial := fun _ => rfl
  settle_self := fun _ _ _ => KeyedStore.get_insert_self _ _ _
  settle_other := fun _ _ _ _ different => KeyedStore.get_insert_of_ne _ _ different
  expire_self := fun _ _ => KeyedStore.get_assign_self _ _ _
  expire_other := fun _ _ _ different => KeyedStore.get_assign_of_ne _ _ different

end Conntrack
end Foundation
