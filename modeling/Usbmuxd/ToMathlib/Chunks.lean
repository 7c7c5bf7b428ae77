import Mathlib.Data.List.Basic
import Mathlib.Tactic.Basic

/-! # Cutting a list into pieces

Pieces of a fixed size, followed by what is left if it is not empty. A list whose last piece is short
can be told apart from the lists behind it; the others need an empty piece as their end.
-/

namespace Chunks

variable {α : Type*}

/-- The pieces of `l`; a size of zero leaves it whole. -/
def cut (size : ℕ) (l : List α) : List (List α) :=
  if 0 < size ∧ size < l.length then l.take size :: cut size (l.drop size) else [l]
termination_by l.length
decreasing_by
  rw [List.length_drop]
  omega

theorem cut_of_le {size : ℕ} {l : List α} (small : l.length ≤ size) : cut size l = [l] := by
  rw [cut, if_neg (by omega)]

theorem cut_of_lt {size : ℕ} {l : List α} (positive : 0 < size) (large : size < l.length) :
    cut size l = l.take size :: cut size (l.drop size) := by
  rw [cut, if_pos ⟨positive, large⟩]

theorem cut_flatten (size : ℕ) (l : List α) : (cut size l).flatten = l := by
  fun_induction cut size l with
  | case1 l large ih => rw [List.flatten_cons, ih, List.take_append_drop]
  | case2 l small => simp

/-- The first piece. -/
theorem exists_cut_eq_cons {size : ℕ} (positive : 0 < size) (l : List α) :
    ∃ rest, cut size l = l.take size :: rest := by
  rcases Nat.lt_or_ge size l.length with large | small
  · exact ⟨_, cut_of_lt positive large⟩
  · exact ⟨[], by rw [cut_of_le small, List.take_of_length_le small]⟩

/-- Whole pieces in front of something are cut off on their own. -/
theorem cut_append {size n : ℕ} {front back : List α} (positive : 0 < size) (whole : front.length = size * (n + 1))
    (more : back ≠ []) : cut size (front ++ back) = cut size front ++ cut size back := by
  have rest := List.length_pos_of_ne_nil more
  induction n generalizing front with
  | zero =>
    have single : front.length = size := by omega
    rw [cut_of_lt positive (by rw [List.length_append]; omega), cut_of_le (Nat.le_of_eq single),
      List.take_left' single, List.drop_left' single, List.singleton_append]
  | succ n ih =>
    have longer : size + size * (n + 1) = front.length := by rw [whole, Nat.mul_succ size (n + 1), Nat.add_comm]
    have another : size ≤ size * (n + 1) := Nat.le_mul_of_pos_right size (Nat.succ_pos n)
    rw [cut_of_lt positive (by rw [List.length_append]; omega), List.take_append_of_le_length (by omega),
      List.drop_append_of_le_length (by omega), ih (by rw [List.length_drop]; omega),
      cut_of_lt (l := front) positive (by omega), List.cons_append]

/-- Join pieces up to every short one. What is pending when the pieces end is given back. -/
def join (size : ℕ) : List (List α) → List α → List (List α) × List α
  | [], pending => ([], pending)
  | piece :: rest, pending =>
    if piece.length < size then
      let r := join size rest []
      ((pending ++ piece) :: r.1, r.2)
    else join size rest (pending ++ piece)

/-- The pieces of a list, which end in a short one. -/
def terminated (size : ℕ) (l : List α) : List (List α) := cut size l ++ if l.length % size = 0 then [[]] else []

/-- The pieces of a list are joined to it whatever comes behind them. -/
theorem join_terminated {size : ℕ} {l : List α} (positive : 0 < size) (more : l ≠ []) (rest : List (List α))
    (pending : List α) :
    join size (terminated size l ++ rest) pending = ((pending ++ l) :: (join size rest []).1,
      (join size rest []).2) := by
  rw [terminated]
  fun_induction cut size l generalizing pending with
  | case1 l large ih =>
    have longer := Nat.le_of_lt large.2
    have front : (l.take size).length = size := List.length_take_of_le longer
    have back : l.drop size ≠ [] := by simpa using large.2
    have whole : (l.drop size).length % size = l.length % size := by
      rw [List.length_drop, ← Nat.mod_eq_sub_mod longer]
    have joined := ih back (pending ++ l.take size)
    rw [whole, List.append_assoc, List.append_assoc, List.take_append_drop] at joined
    rw [List.append_assoc, List.cons_append, join, if_neg (by omega), joined]
  | case2 l small =>
    have nonempty := List.length_pos_of_ne_nil more
    by_cases full : l.length = size
    · simp [full, join, positive]
    · have short : l.length < size := by omega
      rw [if_neg (by rw [Nat.mod_eq_of_lt short]; omega)]
      simp [join, short]

/-- A sequence of lists is recovered from their pieces. -/
theorem join_flatMap_terminated {size : ℕ} (positive : 0 < size) {lists : List (List α)} (more : ∀ l ∈ lists, l ≠ []) :
    join size (lists.flatMap (terminated size)) [] = (lists, []) := by
  induction lists with
  | nil => rfl
  | cons l lists ih =>
    rw [List.flatMap_cons, join_terminated positive (more l List.mem_cons_self),
      ih fun other member => more other (List.mem_cons_of_mem l member), List.nil_append]

end Chunks
