import Mathlib.Data.List.Basic

/-! # Length-prefixed frames

A format says how many entries of a stream announce the length of its first frame, how, and which
lengths it admits. `parse` cuts whole frames off the front of a stream until the next one is not
complete or not admitted. A stream that was put together from frames is taken apart into the same
frames, whatever follows them. A reader that gets the stream in pieces and never takes more than its
current frame keeps `Reads`, so it finds the frames of `parse` however the pieces fall.
-/

namespace Framing

/-- Where a stream announces the length of its first frame, and the lengths that are admitted. -/
structure Format (α : Type*) where
  header : ℕ
  size : List α → ℕ
  admits : ℕ → Bool
  size_append : ∀ stream more, header ≤ stream.length → size (stream ++ more) = size stream
  header_pos : 0 < header
  header_le : ∀ n, admits n → header ≤ n

namespace Format

variable {α : Type*} (F : Format α)

/-- One whole frame. -/
structure Frame (frame : List α) : Prop where
  admitted : F.admits frame.length
  announced : F.size frame = frame.length

/-- The stream starts with a whole frame. -/
def ready (stream : List α) : Bool :=
  F.header ≤ stream.length && F.admits (F.size stream) && F.size stream ≤ stream.length

/-- At most `n` frames from the front of a stream, and what is left of it. -/
def parse : ℕ → List α → List (List α) × List α
  | 0, stream => ([], stream)
  | n + 1, stream =>
    if F.ready stream then
      let r := parse n (stream.drop (F.size stream))
      (stream.take (F.size stream) :: r.1, r.2)
    else ([], stream)

variable {F}

namespace Frame

variable {frame : List α} (whole : F.Frame frame) (rest : List α)
include whole

theorem size_append : F.size (frame ++ rest) = frame.length := by
  rw [F.size_append frame rest (F.header_le _ whole.admitted), whole.announced]

theorem ready : F.ready (frame ++ rest) := by
  have header := F.header_le _ whole.admitted
  simp only [Format.ready, whole.size_append, whole.admitted, List.length_append]
  simp only [Bool.and_true, Bool.and_eq_true, decide_eq_true_iff]
  omega

end Frame

/-- Frames come off the front of a stream one by one. -/
theorem parse_append {frames : List (List α)} (whole : ∀ frame ∈ frames, F.Frame frame) (n : ℕ) (rest : List α) :
    F.parse (frames.length + n) (frames.flatten ++ rest) = (frames ++ (F.parse n rest).1, (F.parse n rest).2) := by
  induction frames with
  | nil => simp
  | cons frame frames ih =>
    have first := whole frame (List.mem_cons_self ..)
    have length : (frame :: frames).length + n = frames.length + n + 1 := by
      rw [List.length_cons]
      omega
    rw [List.flatten_cons, List.append_assoc, length, parse, if_pos (first.ready _), first.size_append,
      List.drop_left, List.take_left, ih fun other member => whole other (List.mem_cons_of_mem _ member)]
    rfl

/-- Nothing can be cut off a stream that does not start with a whole frame. -/
theorem parse_of_not_ready {rest : List α} (partly : F.ready rest = false) (n : ℕ) : F.parse n rest = ([], rest) := by
  cases n with
  | zero => rfl
  | succ n => rw [parse, if_neg (by simp [partly])]

variable (F) in
/-- A reader has found `frames` in a stream and holds the beginning of the next one. -/
structure Reads (stream : List α) (frames : List (List α)) (rest : List α) : Prop where
  whole : ∀ frame ∈ frames, F.Frame frame
  split : stream = frames.flatten ++ rest
  partly : F.ready rest = false

namespace Reads

variable {stream rest : List α} {frames : List (List α)}

theorem start : F.Reads [] [] [] := by
  refine ⟨by simp, rfl, ?_⟩
  have positive := F.header_pos
  simp [ready]
  omega

/-- A piece that does not complete the frame. -/
theorem extend (reads : F.Reads stream frames rest) {piece : List α} (partly : F.ready (rest ++ piece) = false) :
    F.Reads (stream ++ piece) frames (rest ++ piece) :=
  ⟨reads.whole, by rw [reads.split, List.append_assoc], partly⟩

/-- A piece that completes the frame and takes nothing behind it. -/
theorem complete (reads : F.Reads stream frames rest) {piece : List α} (frame : F.Frame (rest ++ piece)) :
    F.Reads (stream ++ piece) (frames ++ [rest ++ piece]) [] := by
  refine ⟨fun other member => ?_, by simp [reads.split], start.partly⟩
  rcases List.mem_append.mp member with old | new
  · exact reads.whole other old
  · rwa [List.mem_singleton.mp new]

private theorem length_le {frames : List (List α)} (whole : ∀ frame ∈ frames, F.Frame frame) :
    frames.length ≤ frames.flatten.length := by
  induction frames with
  | nil => simp
  | cons frame frames ih =>
    have first := F.header_le _ (whole frame (List.mem_cons_self ..)).admitted
    have later := ih fun other member => whole other (List.mem_cons_of_mem _ member)
    have positive := F.header_pos
    rw [List.length_cons, List.flatten_cons, List.length_append]
    omega

/-- The reader has found the frames of the stream. -/
theorem parse_eq (reads : F.Reads stream frames rest) : F.parse stream.length stream = (frames, rest) := by
  have fewer := length_le reads.whole
  have length : stream.length = frames.length + (stream.length - frames.length) := by
    rw [reads.split, List.length_append]
    omega
  rw [length]
  conv_lhs => rw [reads.split]
  rw [parse_append reads.whole, parse_of_not_ready reads.partly, List.append_nil]

end Reads

end Format

end Framing
