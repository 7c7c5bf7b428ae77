import Usbmuxd.Model.Device.Send

/-! # Layout of an outgoing packet

Where the fields of the two headers lie in the buffer that `send_packet` builds, and the round trip
of the TCP header.
-/

namespace Usbmuxd

namespace MuxDevice

variable (dev : MuxDevice) (proto : MuxProtocol) (header data : Bytes)

@[simp] theorem restart_version : (dev.restart proto).version = dev.version := by
  simp only [restart]
  split <;> rfl

@[simp] theorem restart_tcp : dev.restart .tcp = dev := by
  simp [restart]

@[simp] theorem restart_versionProtocol : dev.restart .version = dev := by
  simp [restart]

@[simp] theorem muxHeader_length (total : ℕ) :
    (dev.muxHeader proto total).length = muxHeaderSize dev.version := by
  by_cases numbered : 2 ≤ dev.version
  · simp [muxHeader, muxHeaderSize, numbered, Nat.not_lt.mpr numbered]
  · simp [muxHeader, muxHeaderSize, numbered, Nat.lt_of_not_le numbered]

@[simp] theorem packet_length :
    (dev.packet proto header data).length = muxHeaderSize dev.version + header.length + data.length := by
  simp [packet, Nat.add_assoc]

theorem packet_protocol : be32At (dev.packet proto header data) 0 = proto.code := by
  simp only [packet, muxHeader, List.append_assoc]
  exact be32At_append [] _ _

theorem packet_total : be32At (dev.packet proto header data) 4 =
    UInt32.ofNat (muxHeaderSize dev.version + header.length + data.length) := by
  simp only [packet, muxHeader, List.append_assoc]
  exact be32At_append (be32 proto.code) _ _

section Numbered

variable {dev proto} {tx rx : UInt16} (numbered : 2 ≤ dev.version)
include numbered

theorem packet_magic : be32At (dev.packet proto header data) 8 = 0xfeedface := by
  have shape : dev.packet proto header data =
      (be32 proto.code ++ be32 (UInt32.ofNat (muxHeaderSize dev.version + header.length + data.length))) ++
        (be32 0xfeedface ++ (be16 ((dev.restart proto).txSeq.getD 0) ++
          (be16 ((dev.restart proto).rxSeq.getD 0) ++ (header ++ data)))) := by
    simp [packet, muxHeader, numbered]
  rw [shape]
  exact be32At_append _ _ _

theorem packet_txSeq (known : (dev.restart proto).txSeq = some tx) :
    be16At (dev.packet proto header data) 12 = tx := by
  have shape : dev.packet proto header data =
      (be32 proto.code ++ be32 (UInt32.ofNat (muxHeaderSize dev.version + header.length + data.length)) ++
        be32 0xfeedface) ++ (be16 tx ++ (be16 ((dev.restart proto).rxSeq.getD 0) ++ (header ++ data))) := by
    simp [packet, muxHeader, numbered, known]
  rw [shape]
  exact be16At_append _ _ _

theorem packet_rxSeq (known : (dev.restart proto).rxSeq = some rx) :
    be16At (dev.packet proto header data) 14 = rx := by
  have shape : dev.packet proto header data =
      (be32 proto.code ++ be32 (UInt32.ofNat (muxHeaderSize dev.version + header.length + data.length)) ++
        be32 0xfeedface ++ be16 ((dev.restart proto).txSeq.getD 0)) ++ (be16 rx ++ (header ++ data)) := by
    simp [packet, muxHeader, numbered, known]
  rw [shape]
  exact be16At_append _ _ _

end Numbered

end MuxDevice

/-- The TCP header survives its wire form. -/
theorem TcpHdr.decode_encode (th : TcpHdr) : TcpHdr.decode th.encode = th := by
  have ports : be16At th.encode 0 = th.sport ∧ be16At th.encode 2 = th.dport := by
    simp only [encode, List.append_assoc]
    exact ⟨be16At_append [] _ _, by simpa using be16At_append (be16 th.sport) _ th.dport⟩
  have seq : be32At th.encode 4 = th.seq := by
    have shape : th.encode = (be16 th.sport ++ be16 th.dport) ++ (be32 th.seq ++ (be32 th.ack ++ [th.off, th.flags] ++
        be16 th.win ++ be16 th.sum ++ be16 th.urp)) := by simp [encode]
    rw [shape]
    exact be32At_append _ _ _
  have ack : be32At th.encode 8 = th.ack := by
    have shape : th.encode = (be16 th.sport ++ be16 th.dport ++ be32 th.seq) ++ (be32 th.ack ++ ([th.off, th.flags] ++
        be16 th.win ++ be16 th.sum ++ be16 th.urp)) := by simp [encode]
    rw [shape]
    exact be32At_append _ _ _
  have single : th.encode.getD 12 0 = th.off ∧ th.encode.getD 13 0 = th.flags := by
    have shape : th.encode = (be16 th.sport ++ be16 th.dport ++ be32 th.seq ++ be32 th.ack) ++ ([th.off, th.flags] ++
        (be16 th.win ++ be16 th.sum ++ be16 th.urp)) := by simp [encode]
    rw [shape]
    refine ⟨?_, ?_⟩
    · rw [List.getD_append_right _ _ _ _ (by simp)]
      simp
    · rw [List.getD_append_right _ _ _ _ (by simp)]
      simp
  have win : be16At th.encode 14 = th.win := by
    have shape : th.encode = (be16 th.sport ++ be16 th.dport ++ be32 th.seq ++ be32 th.ack ++ [th.off, th.flags]) ++
        (be16 th.win ++ (be16 th.sum ++ be16 th.urp)) := by simp [encode]
    rw [shape]
    exact be16At_append _ _ _
  have sum : be16At th.encode 16 = th.sum := by
    have shape : th.encode = (be16 th.sport ++ be16 th.dport ++ be32 th.seq ++ be32 th.ack ++ [th.off, th.flags] ++
        be16 th.win) ++ (be16 th.sum ++ be16 th.urp) := by simp [encode]
    rw [shape]
    exact be16At_append _ _ _
  have urp : be16At th.encode 18 = th.urp := by
    have shape : th.encode = (be16 th.sport ++ be16 th.dport ++ be32 th.seq ++ be32 th.ack ++ [th.off, th.flags] ++
        be16 th.win ++ be16 th.sum) ++ (be16 th.urp ++ []) := by simp [encode]
    rw [shape]
    exact be16At_append _ _ _
  rw [decode, ports.1, ports.2, seq, ack, single.1, single.2, win, sum, urp]

end Usbmuxd
