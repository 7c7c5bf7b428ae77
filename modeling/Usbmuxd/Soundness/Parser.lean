import Usbmuxd.Soundness.Reassembly

/-! # The packet parser and the end of the packet

`device_data_input` lays header structures over a buffer that may hold more than the packet. Packets
that are long enough for the mux header of the device are taken apart inside their own bytes, except
for control packets of devices without the long header.
-/

namespace Usbmuxd

/-- The header fields that `device_data_input` reads in a packet of `length` bytes, as offsets and widths. -/
def fieldsRead (version : ℕ) (buffer : Bytes) (length : ℕ) : List (ℕ × ℕ) :=
  (4, 4) ::
    if (be32At buffer 4).toNat ≠ length then []
    else
      (if 2 ≤ version then [(14, 2)] else []) ++ (0, 4) ::
        match dispatch version buffer length with
        | .versionInput .. => [(muxHeaderSize version, 12)]
        | .tcpInput .. => [(muxHeaderSize version, 20)]
        | _ => []

/-- The places of the buffer that are handed on as the payload of a control packet or of a segment. -/
def payloadRead (version : ℕ) (buffer : Bytes) (length : ℕ) : List ℕ :=
  match dispatch version buffer length with
  | .controlInput payload => List.range' 16 payload.length
  | .tcpInput _ payload => List.range' (muxHeaderSize version + 20) payload.length
  | _ => []

/-- A packet is taken apart inside its own bytes. -/
structure ParsedInside (version : ℕ) (buffer : Bytes) (length : ℕ) : Prop where
  fields : ∀ field ∈ fieldsRead version buffer length, field.1 + field.2 ≤ length
  control : (be32At buffer 4).toNat = length → ∀ payload, dispatch version buffer length = .controlInput payload →
    payloadRead version buffer length = List.range' (muxHeaderSize version) (length - muxHeaderSize version) ∧
      payload.length + muxHeaderSize version = length ∧ payload = (buffer.take length).drop (muxHeaderSize version)
  tcp : (be32At buffer 4).toNat = length → ∀ th payload, dispatch version buffer length = .tcpInput th payload →
    payloadRead version buffer length = List.range' (muxHeaderSize version + 20) (length - muxHeaderSize version - 20) ∧
      payload.length + 20 + muxHeaderSize version = length ∧
      th = ((buffer.take length).drop (muxHeaderSize version)).take 20 ∧
      payload = (buffer.take length).drop (muxHeaderSize version + 20)

/-- A packet that contains the header of its device, and whose payload, if it is a control packet, is
where `device_data_input` looks for it. -/
structure WellSized (version : ℕ) (buffer : Bytes) (length : ℕ) : Prop where
  field : 8 ≤ length
  header : (be32At buffer 4).toNat = length → muxHeaderSize version ≤ length
  control : (be32At buffer 4).toNat = length → be32At buffer 0 = MuxProtocol.control.code → version < 2 → length = 8

section Parser

variable {version length : ℕ} {buffer : Bytes}

/-- What stands behind an offset of the packet. -/
theorem peek_rest {offset : ℕ} (held : length ≤ buffer.length) (inside : offset ≤ length) :
    BigEndian.peek buffer offset (length - offset) = (buffer.take length).drop offset := by
  rw [BigEndian.peek_eq_slice (by omega), List.drop_take]

private theorem controlSize (bound : length < 2 ^ 32) (header : muxHeaderSize version ≤ length) :
    (UInt32.ofNat length - UInt32.ofNat (muxHeaderSize version)).toNat = length - muxHeaderSize version := by
  have small : muxHeaderSize version < 2 ^ 32 := by omega
  rw [UInt32.toNat_sub_of_le]
  · rw [UInt32.toNat_ofNat', UInt32.toNat_ofNat', Nat.mod_eq_of_lt bound, Nat.mod_eq_of_lt small]
  · rw [UInt32.le_iff_toNat_le, UInt32.toNat_ofNat', UInt32.toNat_ofNat', Nat.mod_eq_of_lt bound,
      Nat.mod_eq_of_lt small]
    exact header

private theorem peek_control (bound : length < 2 ^ 32) (held : length ≤ buffer.length)
    (header : muxHeaderSize version ≤ length) (short : version < 2 → length = 8) :
    BigEndian.peek buffer 16 (UInt32.ofNat length - UInt32.ofNat (muxHeaderSize version)).toNat =
      (buffer.take length).drop (muxHeaderSize version) := by
  rw [controlSize bound header]
  by_cases old : version < 2
  · have eight : muxHeaderSize version = 8 := by simp [muxHeaderSize, old]
    rw [short old, eight, List.drop_eq_nil_of_le (List.length_take_le ..)]
    rfl
  · have sixteen := muxHeaderSize_of_le (Nat.not_lt.mp old)
    rw [sixteen] at header ⊢
    exact peek_rest held header

private theorem dispatch_control {payload : Bytes} (control : dispatch version buffer length = .controlInput payload) :
    be32At buffer 0 = MuxProtocol.control.code ∧
      payload = BigEndian.peek buffer 16 (UInt32.ofNat length - UInt32.ofNat (muxHeaderSize version)).toNat := by
  simp only [dispatch] at control
  split at control
  · split at control <;> cases control
  split at control
  · next isControl => exact ⟨isControl, (Dispatch.controlInput.inj control).symm⟩
  split at control
  · split at control <;> cases control
  · cases control

/-- When `dispatch` hands on a segment. -/
theorem dispatch_tcp {th payload : Bytes} (tcp : dispatch version buffer length = .tcpInput th payload) :
    muxHeaderSize version + 20 ≤ length ∧ th = BigEndian.peek buffer (muxHeaderSize version) 20 ∧
      payload = BigEndian.peek buffer (muxHeaderSize version + 20) (length - muxHeaderSize version - 20) := by
  simp only [dispatch] at tcp
  split at tcp
  · split at tcp <;> cases tcp
  split at tcp
  · cases tcp
  split at tcp
  · split at tcp
    · cases tcp
    next enough =>
    obtain ⟨rfl, rfl⟩ := Dispatch.tcpInput.inj tcp
    exact ⟨by omega, rfl, rfl⟩
  · cases tcp

private theorem peek_eq_places (buffer : Bytes) (offset size : ℕ) :
    BigEndian.peek buffer offset size = (List.range' offset size).map fun place => buffer.getD place 0 := by
  rw [BigEndian.peek, List.range'_eq_map_range, List.map_map]
  rfl

private theorem payloadRead_places {payload : Bytes} (handed : dispatch version buffer length = .controlInput payload ∨
    ∃ th, dispatch version buffer length = .tcpInput th payload) :
    payload = (payloadRead version buffer length).map fun place => buffer.getD place 0 := by
  rcases handed with control | ⟨th, tcp⟩
  · obtain ⟨-, rfl⟩ := dispatch_control control
    simp only [payloadRead, control, BigEndian.peek_length]
    exact peek_eq_places ..
  · obtain ⟨-, -, rfl⟩ := dispatch_tcp tcp
    simp only [payloadRead, tcp, BigEndian.peek_length]
    exact peek_eq_places ..

private theorem dispatch_version {vh payload : Bytes}
    (hello : dispatch version buffer length = .versionInput vh payload) :
    muxHeaderSize version + 12 ≤ length := by
  simp only [dispatch] at hello
  split at hello
  · split at hello
    · cases hello
    · omega
  split at hello
  · cases hello
  split at hello
  · split at hello <;> cases hello
  · cases hello

section Sized

variable (bound : length < 2 ^ 32) (held : length ≤ buffer.length) (sized : WellSized version buffer length)
include bound held sized

private theorem WellSized.parsedInside : ParsedInside version buffer length where
  fields := by
    intro field member
    have eight := sized.field
    rw [fieldsRead] at member
    rcases List.mem_cons.mp member with rfl | member
    · exact eight
    split at member
    · cases member
    next whole =>
    have header := sized.header (not_not.mp whole)
    rcases List.mem_append.mp member with seen | member
    · split at seen
      next numbered =>
        rw [List.mem_singleton.mp seen]
        have sixteen := muxHeaderSize_of_le numbered
        omega
      next => cases seen
    rcases List.mem_cons.mp member with rfl | member
    · omega
    split at member
    next hello =>
      rw [List.mem_singleton.mp member]
      exact dispatch_version hello
    next tcp =>
      rw [List.mem_singleton.mp member]
      exact (dispatch_tcp tcp).1
    next => cases member
  control := by
    intro whole payload control
    obtain ⟨isControl, slice⟩ := dispatch_control control
    have header := sized.header whole
    have short := sized.control whole isControl
    have exactly := slice.trans (peek_control bound held header short)
    have size : payload.length = length - muxHeaderSize version := by
      rw [slice, BigEndian.peek_length, controlSize bound header]
    refine ⟨?_, by omega, exactly⟩
    simp only [payloadRead, control, size, List.range'_inj, true_and]
    simp only [muxHeaderSize] at header ⊢
    split
    · next old => exact .inl (by rw [short old])
    · exact .inr rfl
  tcp := by
    intro whole th payload tcp
    obtain ⟨enough, head, rest⟩ := dispatch_tcp tcp
    have size : payload.length = length - muxHeaderSize version - 20 := by rw [rest, BigEndian.peek_length]
    refine ⟨?_, by omega, ?_, ?_⟩
    · simp only [payloadRead, tcp, size]
    · rw [head, BigEndian.peek_eq_slice (by omega), List.drop_take, List.take_take, Nat.min_eq_left (by omega)]
    · rw [rest, Nat.sub_sub, peek_rest held enough]

omit bound held sized

/-- A packet that is taken apart inside its own bytes contains its header, and the payload of a control
packet can only be where it should be if the header is long or there is no payload. -/
private theorem ParsedInside.wellSized (parsed : ParsedInside version buffer length) :
    WellSized version buffer length := by
  have eight : 8 ≤ length := parsed.fields (4, 4) (by simp [fieldsRead])
  have header (whole : (be32At buffer 4).toNat = length) : muxHeaderSize version ≤ length := by
    by_cases numbered : 2 ≤ version
    · rw [muxHeaderSize_of_le numbered]
      exact parsed.fields (14, 2) (by simp [fieldsRead, whole, numbered])
    · simpa [muxHeaderSize, Nat.not_le.mp numbered] using eight
  refine ⟨eight, header, fun whole isControl old => ?_⟩
  have control : dispatch version buffer length =
      .controlInput (BigEndian.peek buffer 16 (UInt32.ofNat length - UInt32.ofNat (muxHeaderSize version)).toNat) := by
    simp [dispatch, isControl, MuxProtocol.code]
  have places := (parsed.control whole _ control).1
  have short : muxHeaderSize version = 8 := by simp [muxHeaderSize, old]
  simp only [payloadRead, control, BigEndian.peek_length, List.range'_inj, short] at places
  omega

end Sized

private theorem dispatch_congr {other : Bytes} (bound : length < 2 ^ 32) (held : length ≤ buffer.length)
    (sized : WellSized version buffer length) (whole : (be32At buffer 4).toNat = length)
    (same : other.take length = buffer.take length) :
    dispatch version other length = dispatch version buffer length := by
  have eight := sized.field
  have header := sized.header whole
  have also : length ≤ other.length := by
    have sizes := congrArg List.length same
    rw [List.length_take, List.length_take] at sizes
    omega
  have protocol : be32At other 0 = be32At buffer 0 := be32At_of_take same (by omega)
  have reads {offset width : ℕ} (inside : offset + width ≤ length) :
      BigEndian.peek other offset width = BigEndian.peek buffer offset width :=
    BigEndian.peek_of_take same inside
  simp only [dispatch, protocol]
  split
  · split
    · rfl
    · rw [reads (by omega), reads (by omega)]
  split
  next isControl =>
    have short := sized.control whole isControl
    rw [peek_control bound also header short, peek_control bound held header short, same]
  split
  · split
    · rfl
    · rw [reads (by omega), reads (by omega)]
  · rfl

end Parser

/-- Packets are taken apart inside their own bytes, whatever stands behind them in the buffer, exactly if
they are long enough. -/
theorem packet_parsed_inside (env : Env) (d : DevPtr) (s : Daemon) (buffer : Bytes) (length : ℕ)
    (bound : length < 2 ^ 32) (held : length ≤ buffer.length) :
    let version := (s.mux.dev d).version
    (∀ payload, (dispatch version buffer length = .controlInput payload ∨
      ∃ th, dispatch version buffer length = .tcpInput th payload) →
      payload = (payloadRead version buffer length).map fun place => buffer.getD place 0) ∧
    ((ParsedInside version buffer length ∧
      ∀ other : Bytes, other.take length = buffer.take length →
        packetInput env d other length s = packetInput env d buffer length s) ↔
      WellSized version buffer length) := by
  refine ⟨fun payload => payloadRead_places, fun parsed => parsed.1.wellSized, fun sized =>
    ⟨sized.parsedInside bound held, fun other same => ?_⟩⟩
  have eight := sized.field
  have field : be32At other 4 = be32At buffer 4 := be32At_of_take same (by omega)
  simp only [packetInput, field]
  split
  · rfl
  next whole =>
  have whole := not_not.mp whole
  have rxSeq (contained : 16 ≤ length) : be16At other 14 = be16At buffer 14 := be16At_of_take same (by omega)
  have header := sized.header whole
  have tracked : (s.mux.dev d).track other = (s.mux.dev d).track buffer := by
    simp only [MuxDevice.track]
    split
    next numbered =>
      have sixteen := muxHeaderSize_of_le numbered
      rw [rxSeq (by omega)]
    next => rfl
  have seen : (s.mux.dev d).rxSeqSeen other length = (s.mux.dev d).rxSeqSeen buffer length := by
    simp only [MuxDevice.rxSeqSeen]
    split
    next long =>
      refine rxSeq (long.elim (fun numbered => ?_) id)
      have sixteen := muxHeaderSize_of_le numbered
      omega
    next => rfl
  rw [dispatch_congr bound held sized whole same, tracked, seen, same]

/-- The answer to the first connection request does not depend on what was received before it. -/
theorem acceptance_parsed_inside :
    let s := run sessionEnv (session.take 5)
    ParsedInside (s.mux.dev 0).version (acceptance ++ [1, 2, 3]) 36 ∧
      packetInput sessionEnv 0 acceptance 36 s = packetInput sessionEnv 0 (acceptance ++ [1, 2, 3]) 36 s := by
  intro s
  have sized : WellSized (s.mux.dev 0).version (acceptance ++ [1, 2, 3]) 36 := by
    have version : (s.mux.dev 0).version = 2 := by decide +kernel
    rw [version]
    exact ⟨by decide, fun _ => by decide, fun _ _ => by decide⟩
  obtain ⟨parsed, rest⟩ := (packet_parsed_inside sessionEnv 0 s (acceptance ++ [1, 2, 3]) 36 (by decide)
    (by decide)).2.mpr sized
  exact ⟨parsed, rest acceptance (by decide +kernel)⟩

/-- The version reply of a version 1 device. -/
def oldVersionReply : Bytes := be32 0 ++ be32 20 ++ be32 1 ++ be32 0 ++ be32 0

/-- A control packet of nine bytes for a version 1 device, with one more byte eight places behind its payload. -/
def noted (residue : UInt8) : Bytes := be32 1 ++ be32 9 ++ [7] ++ List.replicate 7 0 ++ [residue]

/-- The payload of a control packet of a version 1 device is taken from behind the packet, so that the
outcome depends on residual bytes; the payload length of a short control packet of a version 2 device
wraps around, and its sequence number is read behind its end; and so is the length of a packet of four
bytes. -/
theorem noted_beyond_packet :
    let s := run sessionEnv [.deviceAdd 0, .dataInput 0 (.full oldVersionReply)]
    ((s.mux.dev 0).version = 1 ∧ (noted 3).take 9 = (noted 5).take 9 ∧
      dispatch 1 (noted 3) 9 = .controlInput [3] ∧
      (packetInput sessionEnv 0 (noted 3) 9 s).mux.devLog 0 ≠ (packetInput sessionEnv 0 (noted 5) 9 s).mux.devLog 0) ∧
    ((be32At (be32 1 ++ be32 8) 4).toNat = 8 ∧ (14, 2) ∈ fieldsRead 2 (be32 1 ++ be32 8) 8 ∧
      (UInt32.ofNat 8 - UInt32.ofNat (muxHeaderSize 2)).toNat = 4294967288) ∧
    (4, 4) ∈ fieldsRead 1 (be32 1) 4 := by
  decide +kernel

end Usbmuxd
