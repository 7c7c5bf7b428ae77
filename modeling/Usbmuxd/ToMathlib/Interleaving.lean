import Mathlib.Data.List.Forall2

/-! # Sequences that several sources feed

A sequence is interleaved from the sequences of several sources if each of its elements can be attributed
to one source, or to none, so that what is attributed to a source corresponds to the sequence of that
source, element by element and in order.
-/

namespace Interleaving

variable {ι α β : Type*} [DecidableEq ι]

/-- What is attributed to one source. -/
def share (i : ι) (tagged : List (Option ι × α)) : List α :=
  (tagged.filter fun entry => entry.1 = some i).map Prod.snd

/-- The sources that feed a sequence, what may stand in it without a source, and how an element carries
one of a source. -/
structure Rule (ι α β : Type*) where
  feeds : ι → Prop
  stray : α → Prop
  carries : ι → α → β → Prop

/-- The whole is interleaved from the parts. -/
def Interleaves (rule : Rule ι α β) (parts : ι → List β) (whole : List α) : Prop :=
  ∃ tagged : List (Option ι × α), tagged.map Prod.snd = whole ∧ (∀ a, (none, a) ∈ tagged → rule.stray a) ∧
    ∀ i, (rule.feeds i → List.Forall₂ (rule.carries i) (share i tagged) (parts i)) ∧
      (¬rule.feeds i → share i tagged = [])

variable {rule rule' : Rule ι α β} {parts parts' : ι → List β} {whole : List α} {a : α} {b : β} {i : ι}

theorem share_snoc (tagged : List (Option ι × α)) (source : Option ι) (a : α) :
    share i (tagged ++ [(source, a)]) = share i tagged ++ if source = some i then [a] else [] := by
  simp only [share, List.filter_append, List.map_append]
  congr 1
  split
  · next own => simp [own]
  · next foreign => simp [foreign]

theorem interleaves_nil : Interleaves rule (fun _ => []) [] :=
  ⟨[], rfl, by simp, fun _ => ⟨fun _ => .nil, fun _ => rfl⟩⟩

/-- An element without a source. -/
theorem Interleaves.stray (interleaves : Interleaves rule parts whole) (stray : rule.stray a) :
    Interleaves rule parts (whole ++ [a]) := by
  obtain ⟨tagged, rfl, strays, shares⟩ := interleaves
  refine ⟨tagged ++ [(none, a)], by simp, fun other member => ?_, fun i => ?_⟩
  · rcases List.mem_append.mp member with old | new
    · exact strays other old
    · obtain rfl : other = a := by simpa using new
      exact stray
  · rw [share_snoc, if_neg (by simp), List.append_nil]
    exact shares i

theorem Interleaves.strays (interleaves : Interleaves rule parts whole) {rest : List α}
    (stray : ∀ a ∈ rest, rule.stray a) : Interleaves rule parts (whole ++ rest) := by
  induction rest generalizing whole with
  | nil => simpa using interleaves
  | cons a rest ih =>
    have grown := ih (interleaves.stray (stray a (by simp))) fun b member => stray b (by simp [member])
    simpa using grown

/-- An element of a source that feeds the sequence. -/
theorem Interleaves.carried (interleaves : Interleaves rule parts whole) (feeds : rule.feeds i)
    (carries : rule.carries i a b) (own : parts' i = parts i ++ [b]) (others : ∀ j ≠ i, parts' j = parts j) :
    Interleaves rule parts' (whole ++ [a]) := by
  obtain ⟨tagged, rfl, strays, shares⟩ := interleaves
  refine ⟨tagged ++ [(some i, a)], by simp, fun other member => ?_, fun j => ?_⟩
  · exact strays other (by simpa using member)
  rw [share_snoc]
  by_cases same : i = j
  · subst same
    rw [if_pos rfl, own]
    exact ⟨fun _ => List.rel_append ((shares i).1 feeds) (.cons carries .nil), fun foreign => absurd feeds foreign⟩
  · rw [if_neg (by simpa using same), List.append_nil, others j (Ne.symm same)]
    exact shares j

/-- Nothing changes for the sources that feed the sequence, except for some that have not begun. -/
theorem Interleaves.congr (interleaves : Interleaves rule parts whole) (stray : ∀ a, rule.stray a → rule'.stray a)
    (same : ∀ i, parts i = [] ∧ parts' i = [] ∨
      (rule'.feeds i ↔ rule.feeds i) ∧ rule'.carries i = rule.carries i ∧ (rule.feeds i → parts' i = parts i)) :
    Interleaves rule' parts' whole := by
  obtain ⟨tagged, rfl, strays, shares⟩ := interleaves
  refine ⟨tagged, rfl, fun a member => stray a (strays a member), fun i => ?_⟩
  rcases same i with ⟨empty, empty'⟩ | ⟨feeds, carries, grown⟩
  · have nothing : share i tagged = [] := by
      by_cases feeds : rule.feeds i
      · simpa [empty] using (shares i).1 feeds
      · exact (shares i).2 feeds
    rw [nothing, empty']
    exact ⟨fun _ => .nil, fun _ => rfl⟩
  · rw [feeds, carries]
    exact ⟨fun own => grown own ▸ (shares i).1 own, (shares i).2⟩

end Interleaving
