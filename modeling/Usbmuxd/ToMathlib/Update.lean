import Mathlib.Logic.Function.Basic

/-! # Maps with one value changed

What is found in a map after one store: the value that was stored, or what was there before. Properties of
all values, and what all values keep, need to be checked at the place of the store only.
-/

namespace Update

variable {ι α β : Type*} [DecidableEq ι] {i j : ι}

section Lookup

variable {f : ι → Option α} {a b : α}

theorem stored : Function.update f i (some a) j = some b ↔ j = i ∧ a = b ∨ j ≠ i ∧ f j = some b := by
  by_cases here : j = i
  · subst here
    simp
  · simp [here]

theorem removed : Function.update f i none j = some b ↔ j ≠ i ∧ f j = some b := by
  by_cases here : j = i
  · subst here
    simp
  · simp [here]

end Lookup

variable {f : ι → α} {a : α}

/-- What the new value has in common with the old one. -/
theorem related {r : α → α → Prop} (same : ∀ a, r a a) (here : r (f i) a) (j : ι) :
    r (f j) (Function.update f i a j) := by
  by_cases same : j = i
  · subst same
    rwa [Function.update_self]
  · rw [Function.update_of_ne same]
    exact ‹∀ a, r a a› _

section Pairs

variable (f : ι → α) (g : ι → β) (i : ι) (a : α) (b : β)

theorem pair : (fun j => (Function.update f i a j, Function.update g i b j)) =
    Function.update (fun j => (f j, g j)) i (a, b) := by
  funext j
  by_cases here : j = i
  · subst here
    simp
  · simp [here]

theorem pair_left : (fun j => (Function.update f i a j, g j)) = Function.update (fun j => (f j, g j)) i (a, g i) := by
  simpa using pair f g i a (g i)

theorem pair_right : (fun j => (f j, Function.update g i b j)) = Function.update (fun j => (f j, g j)) i (f i, b) := by
  simpa using pair f g i (f i) b

end Pairs

theorem same (view : α → β) (here : view a = view (f i)) (j : ι) : view (Function.update f i a j) = view (f j) :=
  related (r := fun x y => view y = view x) (fun _ => rfl) here j

end Update
