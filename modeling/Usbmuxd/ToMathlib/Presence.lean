import Mathlib.Data.List.Infix
import Mathlib.Data.Set.Insert

/-! # Announcing members that come and go

An observer of a changing set of members gets a note when a member is attached and one when it is
detached. The notes are in order when every member is attached at most once and detached at most once,
in that order. An observer follows the shown members when it has been told of exactly these: of a
member that is still to come it has heard nothing, and a member that is gone was either never
announced or has been called off. What is stated here holds for any kind of member.
-/

namespace Presence

/-- What an observer is told about a member. -/
inductive Note (ι : Type*) where
  | attached (i : ι)
  | detached (i : ι)
deriving DecidableEq, Repr

variable {ι : Type*}

def Note.subject : Note ι → ι
  | attached i | detached i => i

@[simp] theorem Note.subject_attached (i : ι) : (attached i).subject = i := rfl

@[simp] theorem Note.subject_detached (i : ι) : (detached i).subject = i := rfl

open Note

/-- The members that were attached and not yet detached. -/
def present (notes : List (Note ι)) : Set ι := {i | attached i ∈ notes ∧ detached i ∉ notes}

variable [DecidableEq ι]

/-- The notes about one member. -/
def about (i : ι) (notes : List (Note ι)) : List (Note ι) := notes.filter fun note => note.subject = i

@[simp] theorem about_nil (i : ι) : about i ([] : List (Note ι)) = [] := rfl

theorem about_snoc_self (i : ι) {note : Note ι} (subject : note.subject = i) (notes : List (Note ι)) :
    about i (notes ++ [note]) = about i notes ++ [note] := by
  simp [about, subject]

theorem about_snoc_of_ne {i j : ι} (other : i ≠ j) {note : Note ι} (subject : note.subject = i)
    (notes : List (Note ι)) :
    about j (notes ++ [note]) = about j notes := by
  simp [about, subject, other]

theorem mem_about {i : ι} {note : Note ι} (subject : note.subject = i) {notes : List (Note ι)} :
    note ∈ about i notes ↔ note ∈ notes := by
  simp [about, subject]

/-- Every member is attached at most once and detached at most once, in that order. -/
def InOrder (notes : List (Note ι)) : Prop := ∀ i, about i notes <+: [attached i, detached i]

/-- The observer has been told of exactly the shown members. A live member is one that is still to
come or has not gone. -/
structure Follows (live shown : Set ι) (notes : List (Note ι)) : Prop where
  told : ∀ i ∈ shown, about i notes = [attached i]
  untold : ∀ i ∈ live, i ∉ shown → about i notes = []
  gone : ∀ i ∉ live, about i notes = [] ∨ about i notes = [attached i, detached i]

namespace Follows

variable {live shown : Set ι} {notes : List (Note ι)}

theorem nil (live : Set ι) : Follows live ∅ ([] : List (Note ι)) where
  told _ member := member.elim
  untold _ _ _ := rfl
  gone _ _ := .inl rfl

theorem inOrder (follows : Follows live shown notes) : InOrder notes := by
  intro i
  by_cases known : i ∈ shown
  · rw [follows.told i known]
    exact ⟨[detached i], rfl⟩
  · by_cases alive : i ∈ live
    · rw [follows.untold i alive known]
      exact List.nil_prefix
    · rcases follows.gone i alive with unseen | ended
      · rw [unseen]
        exact List.nil_prefix
      · rw [ended]

theorem present_eq (follows : Follows live shown notes) : present notes = shown := by
  ext i
  have here : i ∈ present notes ↔ attached i ∈ about i notes ∧ detached i ∉ about i notes := by
    rw [mem_about (subject_attached i), mem_about (subject_detached i)]
    rfl
  rw [here]
  by_cases known : i ∈ shown
  · simp [follows.told i known, known]
  · by_cases alive : i ∈ live
    · simp [follows.untold i alive known, known]
    · rcases follows.gone i alive with unseen | ended
      · simp [unseen, known]
      · simp [ended, known]

/-- Members that were never shown go unnoticed. -/
theorem forget (follows : Follows live shown notes) {live' : Set ι} (fewer : live' ⊆ live) (known : shown ⊆ live') :
    Follows live' shown notes where
  told := follows.told
  untold i alive := follows.untold i (fewer alive)
  gone i dead := by
    by_cases alive : i ∈ live
    · exact .inl (follows.untold i alive fun member => dead (known member))
    · exact follows.gone i alive

theorem attach (follows : Follows live shown notes) {i : ι} (alive : i ∈ live) (unknown : i ∉ shown) :
    Follows live (insert i shown) (notes ++ [attached i]) where
  told j member := by
    rcases Set.mem_insert_iff.mp member with rfl | member
    · rw [about_snoc_self j rfl, follows.untold j alive unknown, List.nil_append]
    · have other : i ≠ j := fun same => unknown (same ▸ member)
      rw [about_snoc_of_ne other rfl, follows.told j member]
  untold j alive' unknown' := by
    have other : i ≠ j := fun same => unknown' (.inl same.symm)
    rw [about_snoc_of_ne other rfl]
    exact follows.untold j alive' fun member => unknown' (.inr member)
  gone j dead := by
    have other : i ≠ j := fun same => dead (same ▸ alive)
    rw [about_snoc_of_ne other rfl]
    exact follows.gone j dead

theorem detach (follows : Follows live shown notes) {i : ι} (known : i ∈ shown) :
    Follows (live \ {i}) (shown \ {i}) (notes ++ [detached i]) where
  told j member := by
    rw [about_snoc_of_ne (Ne.symm member.2) rfl]
    exact follows.told j member.1
  untold j alive unknown := by
    rw [about_snoc_of_ne (Ne.symm alive.2) rfl]
    exact follows.untold j alive.1 fun member => unknown ⟨member, alive.2⟩
  gone j dead := by
    by_cases same : j = i
    · subst same
      rw [about_snoc_self j rfl, follows.told j known]
      exact .inr rfl
    · rw [about_snoc_of_ne (Ne.symm same) rfl]
      exact follows.gone j fun alive => dead ⟨alive, same⟩

end Follows

end Presence
