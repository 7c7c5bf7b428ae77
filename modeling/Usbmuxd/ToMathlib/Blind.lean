import Mathlib.Logic.Basic

/-! # Operations that do not see a part of the state

An operation is blind to a family of changes of the state if it answers the same before and after a
change, and leaves the change in place. Whatever is put together from blind operations, and from tests
and reads of what the changes keep, is blind too.
-/

variable {ι σ ρ τ : Type*} {touch : ι → σ → σ}

/-- The operation commutes with every change. -/
def Blind (touch : ι → σ → σ) (f : σ → ρ × σ) : Prop := ∀ g s, f (touch g s) = ((f s).1, touch g (f s).2)

namespace Blind

theorem pure (r : ρ) : Blind touch fun s => (r, s) := fun _ _ => rfl

theorem bind {f : σ → ρ × σ} {h : ρ → σ → τ × σ} (first : Blind touch f) (next : ∀ r, Blind touch (h r)) :
    Blind touch fun s => h (f s).1 (f s).2 := by
  intro g s
  simp only [first g s]
  exact next _ g _

/-- The state may be updated first in a way that commutes with the changes. -/
theorem update {u : σ → σ} {f : σ → ρ × σ} (next : Blind touch f) (moves : ∀ g s, u (touch g s) = touch g (u s)) :
    Blind touch fun s => f (u s) := by
  intro g s
  simp only [moves]
  exact next g (u s)

/-- What the changes keep may be read. -/
theorem read {v : σ → τ} {h : τ → σ → ρ × σ} (next : ∀ x, Blind touch (h x)) (same : ∀ g s, v (touch g s) = v s) :
    Blind touch fun s => h (v s) s := by
  intro g s
  simp only [same]
  exact next (v s) g s

protected theorem ite {p : Prop} [Decidable p] {f h : σ → ρ × σ} (yes : Blind touch f) (no : Blind touch h) :
    Blind touch fun s => if p then f s else h s := by
  split
  · exact yes
  · exact no

end Blind
