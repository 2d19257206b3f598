import Mathlib.Data.List.Forall2

namespace Foundation

universe u v

/-!
# The first element with a property

Rules, table lines and directory entries are all searched for the first one that
fits.  The first element is described here by what stands before it, there is
only one, and a search finds it (`find?_eq_some_iff_first`), also through a list
of images (`find?_corresponds`).
-/

variable {A : Type u} {B : Type v}

/-- The first element of a list that has a property. -/
def First (property : A -> Prop) (list : List A) (element : A) : Prop :=
  property element ∧ Exists fun before => Exists fun after => list = before ++ element :: after ∧
    forall earlier, earlier ∈ before -> Not (property earlier)

/-- A search through a list finds what corresponds to the first element of
another list, if the two correspond element by element. -/
theorem find?_corresponds {corresponds : A -> B -> Prop} {property : A -> Prop}
    {test : B -> Bool} (agree : forall element image, corresponds element image ->
      (test image = true <-> property element))
    {list : List A} {images : List B} (pairs : List.Forall₂ corresponds list images) :
    match images.find? test with
    | some image => Exists fun element => corresponds element image ∧ First property list element
    | none => forall element, element ∈ list -> Not (property element) := by
  induction pairs with
  | nil => exact fun element member => absurd member List.not_mem_nil
  | @cons element image list images pair _ ih =>
      cases passes : test image with
      | true =>
          rw [List.find?_cons_of_pos passes]
          exact ⟨element, pair, (agree element image pair).mp passes, [], list, rfl,
            fun earlier member => absurd member List.not_mem_nil⟩
      | false =>
          have fails : Not (property element) := by
            rw [← agree element image pair, passes]
            exact Bool.false_ne_true
          rw [List.find?_cons_of_neg (Bool.not_eq_true _ ▸ passes)]
          cases found : images.find? test with
          | none =>
              rw [found] at ih
              exact List.forall_mem_cons.mpr ⟨fails, ih⟩
          | some later =>
              rw [found] at ih
              rcases ih with ⟨first, paired, held, before, after, whole, none⟩
              refine ⟨first, paired, held, element :: before, after, ?_, ?_⟩
              · rw [whole, List.cons_append]
              · exact List.forall_mem_cons.mpr ⟨fails, none⟩

/-- There is only one first element. -/
theorem First.unique {property : A -> Prop} {list : List A} {left right : A}
    (first : First property list left) (second : First property list right) : left = right := by
  rcases first with ⟨held, before, after, whole, none⟩
  rcases second with ⟨heldToo, beforeToo, afterToo, wholeToo, noneToo⟩
  rcases List.append_eq_append_iff.mp (whole.symm.trans wholeToo) with
    ⟨between, same, rest⟩ | ⟨between, same, rest⟩
  · cases between with
    | nil => exact (List.cons_eq_cons.mp rest).1
    | cons next between =>
        cases rest
        rw [same] at noneToo
        exact absurd held (noneToo left (List.mem_append_right _ List.mem_cons_self))
  · cases between with
    | nil => exact (List.cons_eq_cons.mp rest).1.symm
    | cons next between =>
        cases rest
        rw [same] at none
        exact absurd heldToo (none right (List.mem_append_right _ List.mem_cons_self))

theorem First.mem {property : A -> Prop} {list : List A} {element : A}
    (first : First property list element) : element ∈ list := by
  rcases first.2 with ⟨before, after, whole, _⟩
  rw [whole]
  exact List.mem_append_right _ List.mem_cons_self

theorem find?_eq_some_iff_first {test : A -> Bool} {list : List A} {element : A} :
    list.find? test = some element <->
      First (fun candidate => test candidate = true) list element := by
  rw [List.find?_eq_some_iff_append]
  refine and_congr_right fun _ => exists_congr fun before => exists_congr fun after =>
    and_congr_right fun _ => forall_congr' fun earlier => imp_congr_right fun _ => ?_
  rw [Bool.not_eq_true', Bool.not_eq_true]

end Foundation
