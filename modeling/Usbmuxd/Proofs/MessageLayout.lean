import Usbmuxd.Machine.ClientInvariant
import Usbmuxd.ToMathlib.Framing

/-! # Layout of a message

Commands and replies are framed alike: a header of 16 bytes in host order, whose first word is the
length of the whole message, and a payload.
-/

namespace Usbmuxd

private theorem lengthField_le {bound n : ℕ} (admitted : (16 ≤ n && n ≤ bound) = true) : 4 ≤ n := by
  simp only [Bool.and_eq_true, decide_eq_true_iff] at admitted
  omega

/-- Messages of at most `bound` bytes. -/
def usbmuxdFormat (bound : ℕ) : Framing.Format UInt8 where
  header := 4
  size stream := (le32At stream 0).toNat
  admits n := 16 ≤ n && n ≤ bound
  size_append stream more inside := by rw [le32At, BigEndian.peek_append_left (by simpa using inside), ← le32At]
  header_pos := by decide
  header_le _ := lengthField_le

section Header

variable (length version message tag : UInt32) (payload : Bytes)

@[simp] theorem usbmuxdHeader_size : le32At (usbmuxdHeader length version message tag ++ payload) 0 = length := by
  simp only [usbmuxdHeader, List.append_assoc]
  exact le32At_append [] _ _

@[simp] theorem usbmuxdHeader_message : le32At (usbmuxdHeader length version message tag ++ payload) 8 = message := by
  have shape : usbmuxdHeader length version message tag ++ payload =
      (le32 length ++ le32 version) ++ (le32 message ++ (le32 tag ++ payload)) := by simp [usbmuxdHeader]
  rw [shape]
  exact le32At_append _ _ _

@[simp] theorem usbmuxdHeader_tag : le32At (usbmuxdHeader length version message tag ++ payload) 12 = tag := by
  have shape : usbmuxdHeader length version message tag ++ payload =
      (le32 length ++ le32 version ++ le32 message) ++ (le32 tag ++ payload) := by simp [usbmuxdHeader]
  rw [shape]
  exact le32At_append _ _ _

end Header

/-- The length of a message fits its field when the payload fits an `int`. -/
theorem messageLength_toNat {payload : Bytes} (short : payload.length < 2 ^ 31) :
    (MuxClient.messageLength payload).toNat = 16 + payload.length := by
  have fits : payload.length < 2 ^ 32 := by omega
  rw [MuxClient.messageLength, UInt32.toNat_add, UInt32.toNat_ofNat_of_lt' fits]
  simp
  omega

/-- What a frame says of its message: tag, type and payload. -/
def readMessage (frame : Bytes) : UInt32 × UInt32 × Bytes := (le32At frame 12, le32At frame 8, frame.drop 16)

/-- The bytes of a message: a header that holds its whole length, then the payload. -/
def FrameOf (frame : Bytes) (message : UInt32 × MsgType × Bytes) : Prop :=
  ∃ length version, frame = usbmuxdHeader length version message.2.1.code message.1 ++ message.2.2 ∧
    length.toNat = 16 + message.2.2.length

variable {frame : Bytes} {message : UInt32 × MsgType × Bytes}

theorem Encodes.frameOf (encodes : Encodes frame message) (short : message.2.2.length < 2 ^ 31) :
    FrameOf frame message := by
  obtain ⟨version, rfl⟩ := encodes
  exact ⟨_, version, rfl, messageLength_toNat short⟩

theorem FrameOf.read (encoded : FrameOf frame message) :
    readMessage frame = (message.1, message.2.1.code, message.2.2) := by
  obtain ⟨length, version, rfl, _⟩ := encoded
  simp [readMessage, List.drop_left' (usbmuxdHeader_length ..)]

theorem FrameOf.whole (encoded : FrameOf frame message) : (usbmuxdFormat (2 ^ 32 - 1)).Frame frame := by
  obtain ⟨length, version, rfl, fits⟩ := encoded
  have bound := length.toNat_lt
  have total : (usbmuxdHeader length version message.2.1.code message.1 ++ message.2.2).length =
      16 + message.2.2.length := by rw [List.length_append, usbmuxdHeader_length]
  refine ⟨?_, ?_⟩
  · rw [total]
    simp only [usbmuxdFormat, Bool.and_eq_true, decide_eq_true_iff]
    omega
  · rw [total, ← fits]
    simp [usbmuxdFormat]

end Usbmuxd
