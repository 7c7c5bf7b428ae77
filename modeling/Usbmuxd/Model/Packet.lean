import Usbmuxd.ToMathlib.BigEndian

/-! # Mux and TCP packet layout

Constants of `device.c`, `usb.h` and `usbmuxd-proto.h`, and the byte layout of the two headers
that travel over USB. Header fields are kept in host order; `htonl` and `htons` appear only as the
big-endian encoding of the wire form. Proxy-protocol headers towards clients are in host order
(little-endian) on the wire too.
-/

namespace Usbmuxd

abbrev Bytes := List UInt8

/-- `USB_MRU`: the size of one receive transfer. -/
def usbMru : ℕ := 16384
/-- `USB_MTU`: the largest packet handed to USB. -/
def usbMtu : ℕ := 3 * 16384
/-- `DEV_MRU`: the size of a device's reassembly buffer. -/
def devMru : ℕ := 65536
/-- `CONN_INBUF_SIZE`. -/
def connInbufSize : UInt32 := 262144
/-- `CONN_OUTBUF_SIZE`. -/
def connOutbufSize : UInt32 := 65536
/-- `ACK_TIMEOUT`, in milliseconds. -/
def ackTimeout : UInt64 := 30
/-- `CMD_BUF_SIZE`. -/
def cmdBufSize : UInt32 := 0x10000
/-- `REPLY_BUF_SIZE`. -/
def replyBufSize : UInt32 := 0x10000
/-- `PID_APPLE_T2_COPROCESSOR`. -/
def pidAppleT2Coprocessor : UInt16 := 0x8600

/-- `enum mux_protocol`. -/
inductive MuxProtocol where
  | version
  | control
  | setup
  | tcp
deriving DecidableEq, Repr

namespace MuxProtocol

/-- The protocol number in a mux header. -/
def code : MuxProtocol → UInt32
  | version => 0
  | control => 1
  | setup => 2
  | tcp => 6

/-- The protocol header that `send_packet` copies; there is no outgoing control packet. -/
def headerLength? : MuxProtocol → Option ℕ
  | version => some 12
  | control => none
  | setup => some 0
  | tcp => some 20

end MuxProtocol

/-- TCP flag bits. -/
def thSyn : UInt8 := 0x02
def thRst : UInt8 := 0x04
def thAck : UInt8 := 0x10

/-- `enum usbmuxd_result`, as the number in a reply. -/
def resultOk : UInt32 := 0
def resultBadCommand : UInt32 := 1
def resultBadDev : UInt32 := 2
def resultConnRefused : UInt32 := 3
def resultBadVersion : UInt32 := 6

def be16 (value : UInt16) : Bytes := BigEndian.encode 2 value.toNat
def be32 (value : UInt32) : Bytes := BigEndian.encode 4 value.toNat
def be16At (buffer : Bytes) (offset : ℕ) : UInt16 := UInt16.ofNat (BigEndian.decode (BigEndian.peek buffer offset 2))
def be32At (buffer : Bytes) (offset : ℕ) : UInt32 := UInt32.ofNat (BigEndian.decode (BigEndian.peek buffer offset 4))

def le32 (value : UInt32) : Bytes := (be32 value).reverse
def le32At (buffer : Bytes) (offset : ℕ) : UInt32 :=
  UInt32.ofNat (BigEndian.decode (BigEndian.peek buffer offset 4).reverse)

/-- `memcpy(buffer + offset, data, length)`, where the buffer reads as zero past its known bytes. -/
def overwrite (buffer : Bytes) (offset : ℕ) (data : Bytes) : Bytes :=
  buffer.take offset ++ List.replicate (offset - buffer.length) 0 ++ data ++ buffer.drop (offset + data.length)

/-- `struct tcphdr`; `off` is the whole byte that holds the four-bit data offset. -/
structure TcpHdr where
  sport : UInt16
  dport : UInt16
  seq : UInt32
  ack : UInt32
  off : UInt8
  flags : UInt8
  win : UInt16
  sum : UInt16
  urp : UInt16
deriving DecidableEq, Repr, Inhabited

namespace TcpHdr

def encode (th : TcpHdr) : Bytes :=
  be16 th.sport ++ be16 th.dport ++ be32 th.seq ++ be32 th.ack ++ [th.off, th.flags] ++
    be16 th.win ++ be16 th.sum ++ be16 th.urp

def decode (bytes : Bytes) : TcpHdr where
  sport := be16At bytes 0
  dport := be16At bytes 2
  seq := be32At bytes 4
  ack := be32At bytes 8
  off := bytes.getD 12 0
  flags := bytes.getD 13 0
  win := be16At bytes 14
  sum := be16At bytes 16
  urp := be16At bytes 18

/-- `th_flags & TH_RST`. -/
def isRst (th : TcpHdr) : Bool := th.flags &&& thRst != 0

end TcpHdr

/-- `sizeof(struct mux_header)` from version 2 on, its first two words before. -/
def muxHeaderSize (version : ℕ) : ℕ := if version < 2 then 8 else 16

theorem muxHeaderSize_of_le {version : ℕ} (numbered : 2 ≤ version) : muxHeaderSize version = 16 :=
  if_neg (Nat.not_lt.mpr numbered)

@[simp] theorem be16_length (value : UInt16) : (be16 value).length = 2 := BigEndian.encode_length _ _
@[simp] theorem be32_length (value : UInt32) : (be32 value).length = 4 := BigEndian.encode_length _ _

/-- Reading back an encoded half word after any block and before any rest. -/
theorem be16At_append (block rest : Bytes) (value : UInt16) :
    be16At (block ++ (be16 value ++ rest)) block.length = value := by
  have slice : BigEndian.peek (block ++ (be16 value ++ rest)) block.length 2 = be16 value := by
    rw [← Nat.add_zero block.length, BigEndian.peek_append_right,
      BigEndian.peek_append_left (by simp)]
    simpa using BigEndian.peek_self (be16 value)
  rw [be16At, slice, be16, BigEndian.decode_encode_of_lt value.toNat_lt]
  exact UInt16.ofNat_toNat

/-- Reading back an encoded word after any block and before any rest. -/
theorem be32At_append (block rest : Bytes) (value : UInt32) :
    be32At (block ++ (be32 value ++ rest)) block.length = value := by
  have slice : BigEndian.peek (block ++ (be32 value ++ rest)) block.length 4 = be32 value := by
    rw [← Nat.add_zero block.length, BigEndian.peek_append_right,
      BigEndian.peek_append_left (by simp)]
    simpa using BigEndian.peek_self (be32 value)
  rw [be32At, slice, be32, BigEndian.decode_encode_of_lt value.toNat_lt]
  exact UInt32.ofNat_toNat

@[simp] theorem le32_length (value : UInt32) : (le32 value).length = 4 := by
  simp [le32]

/-- The same for a word in host order. -/
theorem le32At_append (block rest : Bytes) (value : UInt32) :
    le32At (block ++ (le32 value ++ rest)) block.length = value := by
  have slice : BigEndian.peek (block ++ (le32 value ++ rest)) block.length 4 = le32 value := by
    rw [← Nat.add_zero block.length, BigEndian.peek_append_right,
      BigEndian.peek_append_left (by simp)]
    simpa using BigEndian.peek_self (le32 value)
  rw [le32At, slice, le32, List.reverse_reverse, be32, BigEndian.decode_encode_of_lt value.toNat_lt]
  exact UInt32.ofNat_toNat

section Take

variable {one two : Bytes} {offset n : ℕ} (same : one.take n = two.take n)
include same

/-- Words inside a common beginning of two buffers. -/
theorem be16At_of_take (inside : offset + 2 ≤ n) : be16At one offset = be16At two offset := by
  rw [be16At, BigEndian.peek_of_take same inside, be16At]

theorem be32At_of_take (inside : offset + 4 ≤ n) : be32At one offset = be32At two offset := by
  rw [be32At, BigEndian.peek_of_take same inside, be32At]

theorem le32At_of_take (inside : offset + 4 ≤ n) : le32At one offset = le32At two offset := by
  rw [le32At, BigEndian.peek_of_take same inside, le32At]

end Take

/-- What a copy leaves in front of its end. -/
theorem overwrite_take {buffer : Bytes} {offset : ℕ} (inside : offset ≤ buffer.length) (data : Bytes) :
    (overwrite buffer offset data).take (offset + data.length) = buffer.take offset ++ data := by
  have size : (buffer.take offset ++ data).length = offset + data.length := by
    rw [List.length_append, List.length_take]
    omega
  have shape : overwrite buffer offset data = (buffer.take offset ++ data) ++ buffer.drop (offset + data.length) := by
    rw [overwrite, Nat.sub_eq_zero_of_le inside, List.replicate_zero, List.append_nil]
  rw [shape, ← size, List.take_left]

/-- A read in front of a copy. -/
theorem overwrite_peek {offset start w : ℕ} (inside : start + w ≤ offset) (buffer data : Bytes) :
    BigEndian.peek (overwrite buffer offset data) start w = BigEndian.peek buffer start w := by
  apply List.map_congr_left
  intro i member
  have bound : start + i < offset := by
    have := List.mem_range.mp member
    omega
  have front : (buffer.take offset ++ List.replicate (offset - buffer.length) (0 : UInt8)).length = offset := by
    rw [List.length_append, List.length_take, List.length_replicate]
    omega
  rw [overwrite, List.append_assoc, List.getD_append _ _ _ _ (by omega)]
  by_cases known : start + i < buffer.length
  · rw [List.getD_append _ _ _ _ (by rw [List.length_take]; omega)]
    simp [List.getD_eq_getElem?_getD, List.getElem?_take_of_lt bound]
  · rw [List.getD_append_right _ _ _ _ (by rw [List.length_take]; omega)]
    simp [List.getD_eq_getElem?_getD, List.getElem?_eq_none (Nat.not_lt.mp known)]

@[simp] theorem TcpHdr.encode_length (th : TcpHdr) : th.encode.length = 20 := by
  simp [TcpHdr.encode]

end Usbmuxd
