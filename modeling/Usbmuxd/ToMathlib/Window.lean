import Mathlib.Data.UInt
import Mathlib.Tactic.Basic

/-! # Senders under a credit window

A sender counts what it has sent and what has been acknowledged, and may have at most `limit` bytes
outstanding. Acknowledgements are cumulative and carry one more than the count modulo `2 ^ 32`.
Whatever delays them, the sender never believes more than has been consumed, so a receiver that
acknowledges on consumption never has to buffer more than `limit`.
-/

namespace Window

/-- Bytes sent, and bytes known to be consumed. -/
structure Sender where
  sent : ℕ
  acked : ℕ
deriving DecidableEq, Repr

namespace Sender

/-- Sending this much keeps within the window. -/
def MaySend (s : Sender) (limit size : ℕ) : Prop := s.sent + size ≤ s.acked + limit

instance (s : Sender) (limit size : ℕ) : Decidable (s.MaySend limit size) :=
  inferInstanceAs (Decidable (s.sent + size ≤ s.acked + limit))

def send (s : Sender) (size : ℕ) : Sender := { s with sent := s.sent + size }

/-- How far an acknowledgement number is ahead of what is known. -/
def progress (s : Sender) (ack : UInt32) : ℕ := (ack - 1 - UInt32.ofNat s.acked).toNat

/-- An acknowledgement counts if it covers no more than is outstanding; otherwise it is old. -/
def hear (s : Sender) (ack : UInt32) : Sender :=
  if s.progress ack ≤ s.sent - s.acked then { s with acked := s.acked + s.progress ack } else s

/-- The sender keeps to its window and believes no more than has been consumed. -/
structure Within (s : Sender) (limit consumed : ℕ) : Prop where
  window : s.sent ≤ s.acked + limit
  known : s.acked ≤ consumed

variable {s : Sender} {limit consumed consumed' : ℕ}

@[simp] theorem hear_sent (ack : UInt32) : (s.hear ack).sent = s.sent := by
  rw [hear]
  split <;> rfl

theorem acked_le_hear (ack : UInt32) : s.acked ≤ (s.hear ack).acked := by
  rw [hear]
  split
  · exact Nat.le_add_right _ _
  · exact Nat.le_refl _

/-- The distance to a later count is that count modulo `2 ^ 32`. -/
theorem progress_of_count (behind : s.acked ≤ consumed) :
    s.progress (1 + UInt32.ofNat consumed) = (consumed - s.acked) % 2 ^ 32 := by
  obtain ⟨ahead, rfl⟩ := Nat.exists_eq_add_of_le behind
  rw [progress, UInt32.ofNat_add, UInt32.add_comm 1, UInt32.add_sub_cancel, UInt32.add_comm, UInt32.add_sub_cancel,
    UInt32.toNat_ofNat', Nat.add_sub_cancel_left]

namespace Within

theorem initial (limit consumed : ℕ) : Within ⟨0, 0⟩ limit consumed := ⟨Nat.zero_le _, Nat.zero_le _⟩

theorem send (within : s.Within limit consumed) {size : ℕ} (room : s.MaySend limit size) :
    (s.send size).Within limit consumed := ⟨room, within.known⟩

theorem consume (within : s.Within limit consumed) (more : consumed ≤ consumed') : s.Within limit consumed' :=
  ⟨within.window, within.known.trans more⟩

/-- An acknowledgement of what has been consumed by now. -/
theorem hear (within : s.Within limit consumed) : (s.hear (1 + UInt32.ofNat consumed)).Within limit consumed := by
  have ahead := progress_of_count within.known
  have bound := Nat.mod_le (consumed - s.acked) (2 ^ 32)
  have known := within.known
  refine ⟨?_, ?_⟩
  · have grows := acked_le_hear (s := s) (1 + UInt32.ofNat consumed)
    have window := within.window
    rw [hear_sent]
    omega
  · rw [Sender.hear]
    split
    · rw [ahead]
      change s.acked + (consumed - s.acked) % 2 ^ 32 ≤ consumed
      omega
    · exact known

/-- With a window below `2 ^ 32`, an acknowledgement of bytes that were sent is understood exactly. -/
theorem hear_acked (within : s.Within limit consumed) (small : limit < 2 ^ 32) (sent : consumed ≤ s.sent) :
    (s.hear (1 + UInt32.ofNat consumed)).acked = consumed := by
  have known := within.known
  have window := within.window
  have ahead := progress_of_count known
  rw [Nat.mod_eq_of_lt (by omega)] at ahead
  rw [Sender.hear, ahead, if_pos (by omega)]
  change s.acked + (consumed - s.acked) = consumed
  omega

/-- Before anything is known to be consumed, the number zero of an opening segment is no acknowledgement. -/
theorem hear_zero (within : s.Within limit 0) (small : limit < 2 ^ 32 - 1) : s.hear 0 = s := by
  have known : s.acked = 0 := Nat.le_zero.mp within.known
  have window := within.window
  have ahead : s.progress 0 = 2 ^ 32 - 1 := by
    rw [progress, known]
    decide
  rw [Sender.hear, ahead, if_neg (by omega)]

/-- What has arrived and is not yet consumed fits the window. -/
theorem buffered_le (within : s.Within limit consumed) {arrived : ℕ} (sent : arrived ≤ s.sent) :
    arrived - consumed ≤ limit := by
  have known := within.known
  have window := within.window
  omega

end Within

end Sender

end Window
