import Mathlib.Data.List.Basic
import Mathlib.Logic.Function.Basic

/-! # What stays the same around a hole

A frame statement compares two maps, or two lists, everywhere but at one place, the hole; without a
hole they are the same. Such statements compose, and an update at the hole has no effect on them.
-/

namespace Frame

variable {ι α : Type*} {hole : Option ι}

/-- The second map has the values of the first, except in the hole. -/
def SameOff (hole : Option ι) (f g : ι → α) : Prop := ∀ i, some i ≠ hole → g i = f i

namespace SameOff

variable {f g h : ι → α}

theorem refl (hole : Option ι) (f : ι → α) : SameOff hole f f := fun _ _ => rfl

theorem trans (first : SameOff hole f g) (second : SameOff hole g h) : SameOff hole f h :=
  fun i outside => (second i outside).trans (first i outside)

theorem update [DecidableEq ι] (f : ι → α) (i : ι) (value : α) : SameOff (some i) f (Function.update f i value) := by
  intro j outside
  exact Function.update_of_ne (fun same => outside (congrArg some same)) ..

end SameOff

/-- The elements outside the hole. -/
def others [DecidableEq ι] (hole : Option ι) (l : List ι) : List ι := l.filter fun i => some i ≠ hole

variable [DecidableEq ι]

@[simp] theorem mem_others {i : ι} {l : List ι} : i ∈ others hole l ↔ i ∈ l ∧ some i ≠ hole := by
  simp [others]

/-- Nobody outside notices an element of the hole leave. -/
theorem others_erase (i : ι) (l : List ι) : others (some i) (l.erase i) = others (some i) l := by
  induction l with
  | nil => rfl
  | cons head tail ih =>
    by_cases here : head = i
    · subst here
      simp [others]
    · have kept : (head :: tail).erase i = head :: tail.erase i := List.erase_cons_tail (by simpa using here)
      rw [kept, others, others, List.filter_cons, List.filter_cons]
      exact if_congr Iff.rfl (congrArg (List.cons head) ih) ih

end Frame
