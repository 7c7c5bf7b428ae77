import Mathlib.Data.List.GetD
import Mathlib.Data.Nat.ModEq
import Mathlib.Tactic.Ring

/-! # Fixed-width byte encodings read from a buffer

A natural becomes exactly `w` bytes, most significant first, and any byte list becomes a
natural. Buffers are finite lists whose missing tail reads as zero, so a read past the end of
the supplied bytes is total and its value is visible in the statement. Round trips are stated
for reads at an offset, which is how packet headers are taken apart.
-/

namespace BigEndian

/-- The `w` big-endian bytes of `n`; higher bits are dropped. -/
def encode : ℕ → ℕ → List UInt8
  | 0, _ => []
  | w + 1, n => encode w (n / 256) ++ [UInt8.ofNat n]

/-- The natural denoted by a big-endian byte list. -/
def decode (bytes : List UInt8) : ℕ :=
  bytes.foldl (fun acc byte => acc * 256 + byte.toNat) 0

/-- Read `w` bytes at an offset, using zero past the end of the buffer. -/
def peek (buffer : List UInt8) (offset w : ℕ) : List UInt8 :=
  (List.range w).map fun i => buffer.getD (offset + i) 0

@[simp] theorem encode_length (w n : ℕ) : (encode w n).length = w := by
  induction w generalizing n with
  | zero => rfl
  | succ w ih => simp [encode, ih]

@[simp] theorem decode_nil : decode [] = 0 := rfl

theorem decode_snoc (bytes : List UInt8) (byte : UInt8) :
    decode (bytes ++ [byte]) = decode bytes * 256 + byte.toNat := by
  simp [decode, List.foldl_append]

/-- Decoding keeps exactly the encoded low-order bytes. -/
theorem decode_encode (w n : ℕ) : decode (encode w n) = n % 256 ^ w := by
  induction w generalizing n with
  | zero => simp [encode, Nat.mod_one]
  | succ w ih =>
    have low : (UInt8.ofNat n).toNat = n % 256 := by simp
    rw [encode, decode_snoc, ih, low, pow_succ', Nat.mod_mul]
    ring

theorem decode_encode_of_lt {w n : ℕ} (bound : n < 256 ^ w) : decode (encode w n) = n := by
  rw [decode_encode, Nat.mod_eq_of_lt bound]

@[simp] theorem peek_length (buffer : List UInt8) (offset w : ℕ) :
    (peek buffer offset w).length = w := by
  simp [peek]

/-- Inside the buffer a read is an ordinary slice. -/
theorem peek_eq_slice {buffer : List UInt8} {offset w : ℕ} (inside : offset + w ≤ buffer.length) :
    peek buffer offset w = (buffer.drop offset).take w := by
  apply List.ext_getElem
  · simp only [peek_length, List.length_take, List.length_drop]
    omega
  · intro i left right
    have bound : offset + i < buffer.length := by
      simp only [peek_length] at left
      omega
    simp [peek, List.getD_eq_getElem?_getD, List.getElem?_eq_getElem bound]

/-- A read that starts after a known block skips the block. -/
theorem peek_append_right (block rest : List UInt8) (offset w : ℕ) :
    peek (block ++ rest) (block.length + offset) w = peek rest offset w := by
  apply List.map_congr_left
  intro i _
  rw [Nat.add_assoc, List.getD_append_right _ _ _ _ (by omega), Nat.add_sub_cancel_left]

/-- A read that ends before a known suffix ignores the suffix. -/
theorem peek_append_left {block : List UInt8} {offset w : ℕ} (inside : offset + w ≤ block.length)
    (rest : List UInt8) : peek (block ++ rest) offset w = peek block offset w := by
  apply List.map_congr_left
  intro i member
  have bound : offset + i < block.length := by
    have := List.mem_range.mp member
    omega
  rw [List.getD_append _ _ _ _ bound]

theorem peek_self (block : List UInt8) : peek block 0 block.length = block := by
  rw [peek_eq_slice (by omega), List.drop_zero, List.take_length]

/-- A read inside a common beginning of two buffers. -/
theorem peek_of_take {one two : List UInt8} {offset w n : ℕ} (same : one.take n = two.take n)
    (inside : offset + w ≤ n) : peek one offset w = peek two offset w := by
  apply List.map_congr_left
  intro i member
  have bound : offset + i < n := by
    have := List.mem_range.mp member
    omega
  rw [List.getD_eq_getElem?_getD, ← List.getElem?_take_of_lt bound, same, List.getElem?_take_of_lt bound,
    List.getD_eq_getElem?_getD]

end BigEndian
