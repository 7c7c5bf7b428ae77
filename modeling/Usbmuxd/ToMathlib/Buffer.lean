import Mathlib.Data.List.Infix
import Mathlib.Data.Vector.Basic

/-! # Texts in arrays of fixed size

A block of entries is stored in an array, or moved within it, if it stays inside; otherwise there is no
result. What an array begins with is known after a store that begins inside the known part, and a text
that ends in a terminator can be read back.
-/

namespace Buffer

variable {α : Type*} {n : ℕ}

theorem size_stored (array : Vector α n) {offset : ℕ} {block : List α} (fits : offset + block.length ≤ n) :
    (array.toList.take offset ++ block ++ array.toList.drop (offset + block.length)).toArray.size = n := by
  simp only [List.size_toArray, List.length_append, List.length_take, List.length_drop, Vector.length_toList]
  omega

/-- Store a block at an offset; no result if it would leave the array. -/
def store (array : Vector α n) (offset : ℕ) (block : List α) : Option (Vector α n) :=
  if fits : offset + block.length ≤ n then
    some ⟨(array.toList.take offset ++ block ++ array.toList.drop (offset + block.length)).toArray,
      size_stored array fits⟩
  else none

/-- Copy `count` entries from one offset to another, where the two ranges may overlap. -/
def move (array : Vector α n) (target source count : ℕ) : Option (Vector α n) :=
  if source + count ≤ n then store array target ((array.toList.drop source).take count) else none

/-- The entries before the first terminator. -/
def textUntil [DecidableEq α] (terminator : α) (array : Vector α n) : List α :=
  array.toList.takeWhile (· ≠ terminator)

variable {array : Vector α n} {text : List α}

/-- A store that begins within a known text, or right behind it. -/
theorem store_of_prefix (known : text <+: array.toList) (offset : ℕ) (inside : offset ≤ text.length)
    (block : List α) (fits : offset + block.length ≤ n) :
    ∃ array', store array offset block = some array' ∧
      text.take offset ++ block ++ text.drop (offset + block.length) <+: array'.toList := by
  refine ⟨_, dif_pos fits, ?_⟩
  obtain ⟨rest, whole⟩ := known
  change _ <+: array.toList.take offset ++ block ++ array.toList.drop (offset + block.length)
  rw [← whole, List.take_append_of_le_length inside, List.drop_append]
  exact ⟨_, by rw [List.append_assoc]⟩

/-- A text is extended by what is stored behind it. -/
theorem store_append (known : text <+: array.toList) (block : List α) (fits : text.length + block.length ≤ n) :
    ∃ array', store array text.length block = some array' ∧ text ++ block <+: array'.toList := by
  obtain ⟨array', stored, begins⟩ := store_of_prefix known text.length (Nat.le_refl _) block fits
  refine ⟨array', stored, ?_⟩
  rwa [List.take_length, List.drop_eq_nil_of_le (Nat.le_add_right ..), List.append_nil] at begins

/-- Moving the end of a text up by one entry leaves a gap. -/
theorem move_up {front back : List α} (known : front ++ back <+: array.toList)
    (fits : front.length + 1 + back.length ≤ n) (nonempty : back ≠ []) :
    ∃ array' gap, move array (front.length + 1) front.length back.length = some array' ∧
      front ++ gap :: back <+: array'.toList := by
  have within : front.length + back.length ≤ n := by omega
  have block : (array.toList.drop front.length).take back.length = back := by
    obtain ⟨rest, whole⟩ := known
    rw [← whole, List.append_assoc, List.drop_left, List.take_left]
  obtain ⟨gap, tail, rfl⟩ := List.exists_cons_of_ne_nil nonempty
  obtain ⟨array', stored, begins⟩ := store_of_prefix known (front.length + 1) (by simp) (gap :: tail) fits
  refine ⟨array', gap, by rw [move, if_pos within, block, stored], ?_⟩
  have start : (front ++ gap :: tail).take (front.length + 1) = front ++ [gap] := by
    rw [List.append_cons, List.take_left' (by simp)]
  rw [start, ← List.append_cons] at begins
  exact (List.prefix_append _ _).trans begins

/-- The text in front of a terminator is read back. -/
theorem textUntil_eq [DecidableEq α] {terminator : α} (known : text ++ [terminator] <+: array.toList)
    (clean : terminator ∉ text) : textUntil terminator array = text := by
  obtain ⟨rest, whole⟩ := known
  have all : ∀ entry ∈ text, decide (entry ≠ terminator) = true := fun entry member =>
    decide_eq_true fun same => clean (same ▸ member)
  rw [textUntil, ← whole, List.append_assoc, List.takeWhile_append_of_pos all]
  simp

end Buffer
