import Mathlib.Data.List.Basic
import Mathlib.Data.List.Induction

/-! # Properties of every entry of a history

A history grows at its end. `Each P` says that every entry satisfies `P` together with the entries
that came before it, so it is preserved when an entry justified by the whole history so far is
appended. This is the form in which safety of a log is carried through a run.
-/

namespace History

variable {α β : Type*}

/-- Every entry is justified by the entries before it. -/
def Each (P : List α → α → Prop) (log : List α) : Prop :=
  ∀ before entry after, log = before ++ entry :: after → P before entry

/-- An entry of a history that has just grown is the new one or an earlier one. -/
theorem split_snoc {log before after : List α} {entry last : α} (split : log ++ [last] = before ++ entry :: after) :
    after = [] ∧ before = log ∧ entry = last ∨ ∃ rest, after = rest ++ [last] ∧ log = before ++ entry :: rest := by
  rcases List.eq_nil_or_concat after with rfl | ⟨rest, other, rfl⟩
  · obtain ⟨rfl, same⟩ := List.append_inj' split rfl
    exact .inl ⟨rfl, rfl, (List.singleton_inj.mp same).symm⟩
  · have shape : log ++ [last] = (before ++ entry :: rest) ++ [other] := by simpa using split
    obtain ⟨known, same⟩ := List.append_inj' shape rfl
    exact .inr ⟨rest, by simp [List.singleton_inj.mp same], known⟩

/-- An entry that is not among the latest ones is an earlier one. -/
theorem split_append {log batch before after : List α} {entry : α} (split : log ++ batch = before ++ entry :: after)
    (absent : entry ∉ batch) : ∃ rest, after = rest ++ batch ∧ log = before ++ entry :: rest := by
  rcases List.append_eq_append_iff.mp split with ⟨front, _, later⟩ | ⟨back, earlier, same⟩
  · exact absurd (by simp [later]) absent
  · cases back with
    | nil => exact absurd (by simp [show batch = entry :: after from same.symm]) absent
    | cons head rest =>
      obtain ⟨rfl, rfl⟩ := List.cons.inj same
      exact ⟨rest, rfl, earlier⟩

theorem each_nil (P : List α → α → Prop) : Each P [] := by
  intro before entry after split
  simp at split

theorem each_snoc {P : List α → α → Prop} {log : List α} {entry : α} (prior : Each P log)
    (justified : P log entry) : Each P (log ++ [entry]) := by
  intro before other after split
  rcases split_snoc split with ⟨_, rfl, rfl⟩ | ⟨rest, _, known⟩
  · exact justified
  · exact prior before other rest known

/-- A batch of entries may be appended when each is justified in its place. -/
theorem each_append {P : List α → α → Prop} {log batch : List α} (prior : Each P log)
    (justified : Each (fun before entry => P (log ++ before) entry) batch) : Each P (log ++ batch) := by
  induction batch using List.reverseRecOn with
  | nil => simpa using prior
  | append_singleton batch entry ih =>
    rw [← List.append_assoc]
    apply each_snoc
    · apply ih
      intro before other after split
      exact justified before other (after ++ [entry]) (by simp [split])
    · exact justified batch entry [] rfl

theorem Each.of_append {P : List α → α → Prop} {log batch : List α} (all : Each P (log ++ batch)) :
    Each P log := by
  intro before entry after split
  exact all before entry (after ++ batch) (by simp [split])

theorem Each.last {P : List α → α → Prop} {log : List α} {entry : α} (all : Each P (log ++ [entry])) : P log entry :=
  all log entry [] rfl

theorem Each.mono {P Q : List α → α → Prop} {log : List α} (all : Each P log)
    (weaken : ∀ before entry, P before entry → Q before entry) : Each Q log :=
  fun before entry after split => weaken _ _ (all before entry after split)

/-- The entries of a rest, each behind what precedes it. -/
def eachFrom (P : List α → α → Prop) : List α → List α → Prop
  | _, [] => True
  | before, entry :: rest => P before entry ∧ eachFrom P (before ++ [entry]) rest

theorem eachFrom_iff (P : List α → α → Prop) (log rest : List α) :
    eachFrom P log rest ↔ Each (fun before entry => P (log ++ before) entry) rest := by
  induction rest generalizing log with
  | nil => exact iff_of_true trivial (each_nil _)
  | cons first rest ih =>
    rw [eachFrom, ih]
    constructor
    · rintro ⟨justified, all⟩ before entry after split
      cases before with
      | nil =>
        obtain ⟨rfl, _⟩ := List.cons.inj split
        simpa using justified
      | cons head before =>
        obtain ⟨rfl, later⟩ := List.cons.inj split
        simpa using all before entry after later
    · intro all
      refine ⟨by simpa using all [] first rest rfl, fun before entry after split => ?_⟩
      simpa using all (first :: before) entry after (by simp [split])

instance (P : List α → α → Prop) [∀ before entry, Decidable (P before entry)] (log : List α) : Decidable (Each P log) :=
  have check (before rest : List α) : Decidable (eachFrom P before rest) := by
    induction rest generalizing before with
    | nil => exact .isTrue trivial
    | cons entry rest ih =>
      have := ih (before ++ [entry])
      exact inferInstanceAs (Decidable (P before entry ∧ eachFrom P (before ++ [entry]) rest))
  have := check [] log
  decidable_of_iff (eachFrom P [] log) (eachFrom_iff P [] log)

end History
