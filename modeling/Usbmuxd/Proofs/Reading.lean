import Usbmuxd.Machine.Reading
import Usbmuxd.Proofs.MessageLayout

/-! # The resumable reader

`input_buffer_process` remembers nothing but `ib_size`: below 16 it is in the header, above in the
body. One call adds one piece to the beginning of a frame, and the frame is handed on, the client
closed or the rest awaited exactly as the announced length says.
-/

namespace Usbmuxd

/-- The frames a client may send. -/
def commandFormat : Framing.Format UInt8 := usbmuxdFormat cmdBufSize.toNat

/-- The command buffer of a client holds the beginning of its next frame, which has been admitted if its
header is complete. -/
structure MuxClient.Awaits (client : MuxClient) (rest : Bytes) : Prop where
  capacity : client.ibCapacity = cmdBufSize
  stored : ∃ buffer, client.ibBuf = some buffer ∧ client.ibSize.toNat ≤ buffer.length ∧
    buffer.take client.ibSize.toNat = rest
  partly : commandFormat.ready rest = false
  admitted : 16 ≤ rest.length → commandFormat.admits (commandFormat.size rest)

theorem commandFormat_admits (n : ℕ) : commandFormat.admits n ↔ 16 ≤ n ∧ n ≤ 65536 := by
  have bounds : commandFormat.admits n = (decide (16 ≤ n) && decide (n ≤ 65536)) := rfl
  simp [bounds]

theorem commandFormat_size (stream : Bytes) : commandFormat.size stream = (le32At stream 0).toNat := rfl

private theorem commandFormat_ready (stream : Bytes) :
    commandFormat.ready stream = true ↔ 16 ≤ commandFormat.size stream ∧ commandFormat.size stream ≤ 65536 ∧
      commandFormat.size stream ≤ stream.length := by
  have admits := commandFormat_admits (commandFormat.size stream)
  simp only [Framing.Format.ready, Bool.and_eq_true, admits, decide_eq_true_iff]
  have header : commandFormat.header = 4 := rfl
  omega

/-- The announced length only depends on the first four bytes. -/
theorem commandFormat_size_take {buffer : Bytes} {n : ℕ} (header : 4 ≤ n) (inside : n ≤ buffer.length) :
    commandFormat.size (buffer.take n) = (le32At buffer 0).toNat := by
  have whole := commandFormat.size_append (buffer.take n) (buffer.drop n) (by
    rw [List.length_take, Nat.min_eq_left inside]
    exact header)
  rw [List.take_append_drop] at whole
  exact whole.symm

/-- What a call of `input_buffer_process` makes of the bytes it has then. -/
inductive CommandRead (k : ClientPtr) (rest : Bytes) : Framing × Clients → Prop
  | closed {s : Clients} (partly : commandFormat.ready rest = false) : CommandRead k rest (.close, s)
  | waiting {s : Clients} {client : MuxClient} (present : s.client k = some client) (awaits : client.Awaits rest) :
      CommandRead k rest (.waiting, s)
  | frame {s : Clients} {bytes : Bytes} (whole : commandFormat.Frame rest)
      (cut : bytes.take (le32At bytes 0).toNat = rest) : CommandRead k rest (.frame bytes, s)

section Reading

variable (env : Env) {k : ClientPtr} {s : Clients} {client : MuxClient} {buffer rest : Bytes}

private theorem receiveCommand_eq (present : s.client k = some client) (stored : client.ibBuf = some buffer)
    {offset len : ℕ}
    (range : client.recvRange = some (offset, len)) :
    receiveCommand env k len s =
      if client.receives env s.tick = [] then (false, s.bump)
      else (true, s.bump.setClient k { client with
        ibBuf := some (overwrite buffer client.ibSize.toNat (client.receives env s.tick))
        ibSize := client.ibSize + UInt32.ofNat (client.receives env s.tick).length }) := by
  simp only [receiveCommand, present, stored, MuxClient.receives, range]
  cases (env.sock s.tick).recv <;> simp

private theorem MuxClient.receives_length_le {offset len : ℕ} (range : client.recvRange = some (offset, len)) (tick : ℕ)
    :
    (client.receives env tick).length ≤ len := by
  simp only [receives, range]
  split
  · next same _ =>
    obtain rfl := Option.some.inj same
    exact List.length_take_le ..
  · exact Nat.zero_le _

namespace MuxClient.Awaits

variable (awaits : client.Awaits rest)
include awaits

theorem length_eq : rest.length = client.ibSize.toNat := by
  obtain ⟨buffer, _, inside, rfl⟩ := awaits.stored
  rw [List.length_take, Nat.min_eq_left inside]

/-- A call asks for the rest of the header or of the frame, and the buffer has room for it. -/
theorem range {offset len : ℕ} (range : client.recvRange = some (offset, len)) :
    offset = rest.length ∧ offset + len ≤ cmdBufSize.toNat ∧
      (offset + len = 16 ∨ 16 ≤ rest.length ∧ offset + len = commandFormat.size rest) := by
  have length := awaits.length_eq
  obtain ⟨buffer, stored, inside, taken⟩ := awaits.stored
  have bound : cmdBufSize.toNat = 65536 := rfl
  simp only [recvRange, stored, awaits.capacity] at range
  split at range
  · next header =>
    obtain ⟨rfl, rfl⟩ := Prod.ext_iff.mp (Option.some.inj range)
    have asked : (16 - client.ibSize).toNat = 16 - client.ibSize.toNat :=
      UInt32.toNat_sub_of_le _ _ (UInt32.le_of_lt header)
    have small : client.ibSize.toNat < 16 := UInt32.lt_iff_toNat_lt.mp header
    simp only [asked]
    omega
  next header =>
  split at range
  · cases range
  split at range
  swap
  · cases range
  next more =>
  obtain ⟨rfl, rfl⟩ := Prod.ext_iff.mp (Option.some.inj range)
  have large : 16 ≤ client.ibSize.toNat := by
    rw [UInt32.lt_iff_toNat_lt] at header
    exact Nat.not_lt.mp header
  have asked : (le32At buffer 0 - client.ibSize).toNat = (le32At buffer 0).toNat - client.ibSize.toNat :=
    UInt32.toNat_sub_of_le _ _ (UInt32.le_of_lt more)
  have announced : commandFormat.size rest = (le32At buffer 0).toNat := by
    rw [← commandFormat_size_take (n := rest.length) (by omega) (by omega), length, taken]
  have admitted := (commandFormat_admits _).mp (awaits.admitted (by omega))
  rw [UInt32.lt_iff_toNat_lt] at more
  simp only [asked]
  omega

private theorem refill (stored : client.ibBuf = some buffer) {piece : Bytes} (fits : rest.length + piece.length ≤ 65536)
    :
    (client.ibSize + UInt32.ofNat piece.length).toNat = (rest ++ piece).length ∧
      (rest ++ piece).length ≤ (overwrite buffer client.ibSize.toNat piece).length ∧
      (overwrite buffer client.ibSize.toNat piece).take (rest ++ piece).length = rest ++ piece := by
  have length := awaits.length_eq
  obtain ⟨other, same, inside, taken⟩ := awaits.stored
  obtain rfl : buffer = other := Option.some.inj (stored.symm.trans same)
  have small : piece.length < 2 ^ 32 := by omega
  have put := overwrite_take inside piece
  rw [taken] at put
  refine ⟨?_, ?_, ?_⟩
  · rw [UInt32.toNat_add, UInt32.toNat_ofNat_of_lt' small, List.length_append, length]
    omega
  · have sizes := congrArg List.length put
    rw [List.length_take, List.length_append] at sizes
    rw [List.length_append]
    omega
  · rw [List.length_append, length]
    exact put

end MuxClient.Awaits

/-- The header is there and nothing more may be received in this call. -/
private theorem readFrame_spec (present : s.client k = some client) (stored : client.ibBuf = some buffer)
    (capacity : client.ibCapacity = cmdBufSize) (size : client.ibSize.toNat = rest.length) (header : 16 ≤ rest.length)
    (inside : rest.length ≤ buffer.length) (taken : buffer.take rest.length = rest)
    (within : rest.length = 16 ∨ rest.length ≤ (le32At buffer 0).toNat) :
    CommandRead k rest (readFrame env k true s) := by
  have announced : commandFormat.size rest = (le32At buffer 0).toNat := by
    rw [← commandFormat_size_take (n := rest.length) (by omega) inside, taken]
  have ready := commandFormat_ready rest
  rw [announced] at ready
  have bound : cmdBufSize.toNat = 65536 := rfl
  have least : (16 : UInt32).toNat = 16 := rfl
  simp only [readFrame, present, stored, capacity, gt_iff_lt, UInt32.lt_iff_toNat_lt, bound, least, size]
  split
  · refine .closed (Bool.eq_false_iff.mpr fun whole => ?_)
    have sizes := ready.mp whole
    omega
  next good =>
  split
  · next short =>
    refine .waiting present ⟨capacity, ⟨buffer, stored, by omega, by rw [size, taken]⟩, ?_, fun _ => ?_⟩
    · refine Bool.eq_false_iff.mpr fun whole => ?_
      have sizes := ready.mp whole
      omega
    · rw [commandFormat_admits, announced]
      omega
  · next whole =>
    have exactly : (le32At buffer 0).toNat = rest.length := by omega
    refine .frame ⟨(commandFormat_admits _).mpr (by omega), announced.trans exactly⟩ ?_
    rw [exactly, taken]

/-- One call of `input_buffer_process` for a client with a command buffer. -/
theorem readCommand_spec (present : s.client k = some client) (awaits : client.Awaits rest) :
    CommandRead k (rest ++ client.receives env s.tick) (readCommand env k s) := by
  have length := awaits.length_eq
  have capacity := awaits.capacity
  obtain ⟨buffer, stored, inside, taken⟩ := awaits.stored
  have bound : cmdBufSize.toNat = 65536 := rfl
  have least : (16 : UInt32).toNat = 16 := rfl
  have total : (rest ++ client.receives env s.tick).length = rest.length + (client.receives env s.tick).length :=
    List.length_append
  have failed (none : client.receives env s.tick = []) (s' : Clients) :
      CommandRead k (rest ++ client.receives env s.tick) (.close, s') := by
    rw [none, List.append_nil]
    exact .closed awaits.partly
  by_cases header : client.ibSize < 16
  · have small : client.ibSize.toNat < 16 := UInt32.lt_iff_toNat_lt.mp header
    have asked : (16 - client.ibSize).toNat = 16 - client.ibSize.toNat :=
      UInt32.toNat_sub_of_le _ _ (UInt32.le_of_lt header)
    have range : client.recvRange = some (client.ibSize.toNat, (16 - client.ibSize).toNat) := by
      simp [MuxClient.recvRange, stored, header]
    have piece := client.receives_length_le env range s.tick
    simp only [readCommand, present, if_pos header, receiveCommand_eq env present stored range]
    by_cases lost : client.receives env s.tick = []
    · rw [if_pos lost]
      exact failed lost _
    obtain ⟨size, inside', taken'⟩ := awaits.refill stored (by omega :
      rest.length + (client.receives env s.tick).length ≤ _)
    rw [if_neg lost]
    simp only [if_true, Clients.setClient, Function.update_self, UInt32.lt_iff_toNat_lt, size, least]
    split
    · next short =>
      refine .waiting (Function.update_self ..) ⟨capacity, ⟨_, rfl, by rwa [size], by rwa [size]⟩, ?_, fun long => ?_⟩
      · refine Bool.eq_false_iff.mpr fun whole => ?_
        have sizes := (commandFormat_ready _).mp whole
        omega
      · omega
    · next complete =>
      exact readFrame_spec env (Function.update_self ..) rfl capacity size (by omega) inside' taken' (by omega)
  · have large : 16 ≤ client.ibSize.toNat := by
      rw [UInt32.lt_iff_toNat_lt] at header
      omega
    have announced : commandFormat.size rest = (le32At buffer 0).toNat := by
      rw [← commandFormat_size_take (n := rest.length) (by omega) (by omega), length, taken]
    -- the header was admitted when it was complete, and the frame is not complete yet
    have admitted := (commandFormat_admits _).mp (awaits.admitted (by omega))
    have unready : ¬commandFormat.ready rest = true := by simp [awaits.partly]
    rw [commandFormat_ready] at unready
    have more : client.ibSize < le32At buffer 0 := UInt32.lt_iff_toNat_lt.mpr (by omega)
    have asked : (le32At buffer 0 - client.ibSize).toNat = (le32At buffer 0).toNat - client.ibSize.toNat :=
      UInt32.toNat_sub_of_le _ _ (UInt32.le_of_lt more)
    have good : ¬(le32At buffer 0 > client.ibCapacity ∨ le32At buffer 0 < 16) := by
      rw [capacity, gt_iff_lt, UInt32.lt_iff_toNat_lt, UInt32.lt_iff_toNat_lt, bound, least]
      omega
    have range : client.recvRange = some (client.ibSize.toNat, (le32At buffer 0 - client.ibSize).toNat) := by
      simp only [MuxClient.recvRange, stored, if_neg header, if_neg good, if_pos more]
    have piece := client.receives_length_le env range s.tick
    simp only [readCommand, present, if_neg header, readFrame, stored, if_neg good, if_pos more, Bool.false_eq_true,
      if_false, receiveCommand_eq env present stored range]
    by_cases lost : client.receives env s.tick = []
    · rw [if_pos lost]
      exact failed lost _
    obtain ⟨size, inside', taken'⟩ := awaits.refill stored (by omega :
      rest.length + (client.receives env s.tick).length ≤ _)
    have announced' : commandFormat.size (rest ++ client.receives env s.tick) = (le32At buffer 0).toNat := by
      rw [commandFormat.size_append rest _ (by change 4 ≤ _; omega), announced]
    rw [if_neg lost]
    simp only [if_true, Clients.setClient, Function.update_self, UInt32.lt_iff_toNat_lt, size, Option.getD_some]
    split
    · next short =>
      refine .waiting (Function.update_self ..) ⟨capacity, ⟨_, rfl, by rwa [size], by rwa [size]⟩, ?_, fun _ => ?_⟩
      · refine Bool.eq_false_iff.mpr fun whole => ?_
        have sizes := (commandFormat_ready _).mp whole
        omega
      · rw [commandFormat_admits]
        omega
    · next complete =>
      have exactly : (rest ++ client.receives env s.tick).length = (le32At buffer 0).toNat := by omega
      refine .frame ⟨(commandFormat_admits _).mpr (by omega), announced'.trans exactly.symm⟩ ?_
      have field := commandFormat_size_take (n := (rest ++ client.receives env s.tick).length) (by omega) inside'
      rw [taken', announced'] at field
      rw [← field, ← exactly, taken']

end Reading

end Usbmuxd
