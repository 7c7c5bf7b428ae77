import Usbmuxd.Soundness.Reassembly

/-! # Packets that are too large

A packet that does not fit the reassembly buffer is dropped with its fifth transfer, and collecting
starts afresh. A packet of at most five transfers is therefore dropped whole, and a longer one has its
sixth transfer taken for the beginning of a packet.
-/

namespace Usbmuxd

open WireLog

/-- The bytes at which `device_data_input` looks for a mux header when it handles a transfer, and their
place in the stream of all transfers, of which `offset` bytes came before this one. -/
def headerRead (dev : MuxDevice) (offset : ℕ) (t : Transfer) : Option (ℕ × Bytes) :=
  if t.length = 0 ∨ usbMru < t.length ∨ devMru < t.length then none
  else if dev.pktlen ≠ 0 then
    if devMru < t.length + dev.pktlen then none
    else some (offset - dev.pktlen, (overwrite dev.pktbuf dev.pktlen t.data).take 16)
  else some (offset, t.buffer.take 16)

/-- The headers that are read while transfers are handled. -/
def headersRead (env : Env) (u : UsbPtr) (d : DevPtr) (offset : ℕ) : List Transfer → Daemon → List (ℕ × Bytes)
  | [], _ => []
  | t :: rest, s => (headerRead (s.mux.dev d) offset t).toList ++
      headersRead env u d (offset + t.length) rest (deviceDataInput env u t s)

/-- A packet with the right length field that does not fit the reassembly buffer. -/
structure Oversized (packet : Bytes) : Prop where
  large : devMru < packet.length
  length : (be32At packet 4).toNat = packet.length

/-- The part of a packet from an offset on is dropped: no header is read but at the beginning of the
packet, and nothing but the reassembly buffer of the device changes. -/
structure Dropped (env : Env) (u : UsbPtr) (d : DevPtr) (packet : Bytes) (offset : ℕ) (transfers : List Transfer)
    (s : Daemon) : Prop where
  headers : ∀ header ∈ headersRead env u d offset transfers s, header = (0, packet.take 16)
  outcome : ∃ pktbuf, feed env u transfers s =
    s.setMux (s.mux.setDev d { s.mux.dev d with pktbuf := pktbuf, pktlen := 0 })

section Dropping

variable {env : Env} {u : UsbPtr} {d : DevPtr} {s : Daemon} {t : Transfer} {packet : Bytes} {n : ℕ}

private theorem headersRead_append (one two : List Transfer) :
    headersRead env u d n (one ++ two) s = headersRead env u d n one s ++
      headersRead env u d (n + (one.flatMap Transfer.data).length) two (feed env u one s) := by
  induction one generalizing s n with
  | nil => rfl
  | cons t one ih =>
    simp only [List.cons_append, headersRead, feed_cons, ih, List.append_assoc, List.flatMap_cons, List.length_append,
      Transfer.data_length, Nat.add_assoc]

/-- The header of a packet is the same in every buffer that begins like it. -/
private theorem header_of_take {buffer : Bytes} (same : buffer.take n = packet.take n) (enough : 16 ≤ n) :
    buffer.take 16 = packet.take 16 := by
  have shorter := congrArg (List.take 16) same
  rwa [List.take_take, List.take_take, Nat.min_eq_left enough] at shorter

private theorem reassemble_held {dev : MuxDevice} (held : (reassemble dev t).1 = .held) :
    ∃ pktbuf pktlen, (reassemble dev t).2 = { dev with pktbuf := pktbuf, pktlen := pktlen } := by
  simp only [reassemble] at held ⊢
  split at held
  next busy =>
    rw [if_pos busy]
    split at held
    next exceeds =>
      rw [if_pos exceeds]
      exact ⟨_, _, rfl⟩
    next exceeds =>
      rw [if_neg exceeds]
      split at held
      next => cases held
      next more =>
        rw [if_neg more]
        exact ⟨_, _, rfl⟩
  next idle =>
    rw [if_neg idle]
    split at held
    next more =>
      rw [if_pos more]
      exact ⟨_, _, rfl⟩
    next => cases held

private theorem Dropped.of_held {transfers : List Transfer} (found : findDevice u s.mux = some d)
    (filled : t.length ≠ 0)
    (fits : t.length ≤ usbMru) (held : (reassemble (s.mux.dev d) t).1 = .held)
    (header : ∀ header ∈ headerRead (s.mux.dev d) n t, header = (0, packet.take 16))
    (later : Dropped env u d packet (n + t.length) transfers
      (s.setMux (s.mux.setDev d (reassemble (s.mux.dev d) t).2))) :
    Dropped env u d packet n (t :: transfers) s := by
  have handled := deviceDataInput_held env found filled fits (Prod.ext held rfl)
  refine ⟨?_, ?_⟩
  · intro bytes member
    rw [headersRead, handled] at member
    rcases List.mem_append.mp member with now | after
    · exact header bytes (Option.mem_toList.mp now)
    · exact later.headers bytes after
  · obtain ⟨pktbuf, outcome⟩ := later.outcome
    obtain ⟨buffer, size, record⟩ := reassemble_held held
    refine ⟨pktbuf, ?_⟩
    rw [feed_cons, handled, outcome, record]
    simp [Daemon.setMux, Mux.setDev, Function.update_idem]

private theorem reassemble_overflow {dev : MuxDevice} (collecting : Collecting dev packet n)
    (exceeds : devMru < t.length + n) :
    reassemble dev t = (.held, { dev with pktlen := 0 }) := by
  have header := collecting.header
  rw [reassemble, if_pos (by rw [collecting.pktlen]; omega), if_pos (by rwa [collecting.pktlen])]

/-- The rest of a packet that is too large, up to the transfer that does not fit. -/
private theorem feed_overflowing {k : ℕ} {transfers : List Transfer} (oversized : Oversized packet)
    (found : findDevice u s.mux = some d) (collecting : Collecting (s.mux.dev d) packet n)
    (aligned : n + k * usbMru = devMru) (started : usbMru ≤ n)
    (rest : transfers.map Transfer.data = Chunks.cut usbMru ((packet.drop n).take ((k + 1) * usbMru))) :
    Dropped env u d packet n transfers s := by
  -- `k` more transfers fit the buffer
  have large := oversized.large
  have mru : usbMru = 16384 := rfl
  have bound : devMru = 65536 := rfl
  have reach : ((packet.drop n).take ((k + 1) * usbMru)).length = min ((k + 1) * usbMru) (packet.length - n) := by
    rw [List.length_take, List.length_drop]
  induction k generalizing n s transfers with
  | zero =>
    rw [Chunks.cut_of_le (by omega)] at rest
    obtain ⟨t, rfl, piece⟩ := List.map_eq_singleton_iff.mp rest
    have size : t.length = min (1 * usbMru) (packet.length - n) := by rw [← t.data_length, piece, reach]
    have overflow := reassemble_overflow collecting (t := t) (by omega)
    refine Dropped.of_held found (by omega) (by omega) (congrArg Prod.fst overflow) ?_
      ⟨?_, (s.mux.dev d).pktbuf, ?_⟩
    · intro header member
      rw [headerRead, if_neg (by omega), if_pos (by rw [collecting.pktlen]; omega),
        if_pos (by rw [collecting.pktlen]; omega)] at member
      cases member
    · intro header member
      cases member
    · rw [feed_nil, overflow]
      simp [Daemon.setMux, Mux.setDev, Function.update_idem]
  | succ k ih =>
    have split : (k + 1) * usbMru = k * usbMru + usbMru := Nat.succ_mul k usbMru
    have again : (k + 1 + 1) * usbMru = (k + 1) * usbMru + usbMru := Nat.succ_mul (k + 1) usbMru
    rw [Chunks.cut_of_lt (by decide) (by omega), List.take_take, Nat.min_eq_left (by omega), List.drop_take,
      List.drop_drop] at rest
    obtain ⟨t, transfers, rfl, piece, rest⟩ := List.map_eq_cons_iff.mp rest
    have size : t.length = usbMru := by
      rw [← t.data_length, piece, List.length_take, List.length_drop]
      omega
    obtain ⟨held, further⟩ := reassemble_next oversized.length collecting (by omega) (by omega) piece
    have core := reassemble_core (s.mux.dev d) t
    refine Dropped.of_held found (by omega) (by omega) held ?_ (size ▸ ih (n := n + usbMru)
      (findDevice_setDev found core.usbdev) (by simpa [Mux.setDev, Daemon.setMux] using further) (by omega)
      (by omega) ?_ ?_)
    · intro header member
      rw [headerRead, if_neg (by omega), if_pos (by rw [collecting.pktlen]; omega),
        if_neg (by rw [collecting.pktlen]; omega)] at member
      rw [← Option.some.inj member, collecting.pktlen, Nat.sub_self]
      exact congrArg _ (header_of_take (collecting.overwrite piece) (by omega))
    · rw [rest, again, Nat.add_sub_cancel]
    · rw [List.length_take, List.length_drop]

/-- The first five transfers of a packet that is too large are dropped. -/
private theorem feed_oversized {transfers : List Transfer} (oversized : Oversized packet)
    (found : findDevice u s.mux = some d)
    (idle : (s.mux.dev d).pktlen = 0)
    (front : transfers.map Transfer.data = Chunks.cut usbMru (packet.take (5 * usbMru))) :
    Dropped env u d packet 0 transfers s := by
  have large := oversized.large
  have mru : usbMru = 16384 := rfl
  have bound : devMru = 65536 := rfl
  rw [Chunks.cut_of_lt (by decide) (by rw [List.length_take]; omega), List.take_take, Nat.min_eq_left (by omega),
    List.drop_take] at front
  obtain ⟨t, transfers, rfl, piece, rest⟩ := List.map_eq_cons_iff.mp front
  have size : t.length = usbMru := by
    rw [← t.data_length, piece, List.length_take]
    omega
  obtain ⟨held, further⟩ := reassemble_first oversized.length idle (by omega) piece
  have core := reassemble_core (s.mux.dev d) t
  refine Dropped.of_held found (by omega) (by omega) held ?_ (feed_overflowing (k := 3) oversized
    (findDevice_setDev found core.usbdev) (by simpa [Mux.setDev, Daemon.setMux, size] using further) (by omega)
    (by omega) ?_)
  · intro header member
    rw [headerRead, if_neg (by omega), if_neg (by simp [idle])] at member
    rw [← Option.some.inj member]
    refine congrArg _ (header_of_take (n := usbMru) ?_ (by omega))
    rw [← piece, Transfer.data, size]
  · rw [size, Nat.zero_add]
    exact rest

private theorem headersRead_after {front rest : List Transfer} (oversized : Oversized packet)
    (found : findDevice u s.mux = some d) (idle : (s.mux.dev d).pktlen = 0)
    (five : front.map Transfer.data = Chunks.cut usbMru (packet.take (5 * usbMru))) (long : 5 * usbMru ≤ packet.length)
    (filled : t.length ≠ 0) (fits : t.length ≤ usbMru) :
    (5 * usbMru, t.buffer.take 16) ∈ headersRead env u d 0 (front ++ t :: rest) s := by
  have dropped : Dropped env u d packet 0 front s := feed_oversized oversized found idle five
  obtain ⟨pktbuf, outcome⟩ := dropped.outcome
  have empty : ((feed env u front s).mux.dev d).pktlen = 0 := by
    rw [outcome]
    simp [Daemon.setMux, Mux.setDev]
  have size : (front.flatMap Transfer.data).length = 5 * usbMru := by
    rw [List.flatMap_def, five, Chunks.cut_flatten, List.length_take, Nat.min_eq_left long]
  have small : ¬(t.length = 0 ∨ usbMru < t.length ∨ devMru < t.length) := by
    have mru : usbMru = 16384 := rfl
    have bound : devMru = 65536 := rfl
    omega
  have read : headerRead ((feed env u front s).mux.dev d) (5 * usbMru) t = some (5 * usbMru, t.buffer.take 16) := by
    rw [headerRead, if_neg small, if_neg (not_not.mpr empty)]
  rw [headersRead_append, size, Nat.zero_add, headersRead, read]
  exact List.mem_append_right _ (List.mem_cons_self ..)

/-- A packet of more than five transfers has its sixth read as a header. -/
private theorem headersRead_sixth {transfers : List Transfer} (oversized : Oversized packet)
    (found : findDevice u s.mux = some d) (idle : (s.mux.dev d).pktlen = 0)
    (carried : transfers.map Transfer.data = Chunks.cut usbMru packet) (long : 5 * usbMru < packet.length) :
    ∃ bytes, (5 * usbMru, bytes) ∈ headersRead env u d 0 transfers s := by
  have size : (packet.take (5 * usbMru)).length = usbMru * (4 + 1) := by
    rw [List.length_take]
    omega
  have more : packet.drop (5 * usbMru) ≠ [] := by simpa using long
  rw [← List.take_append_drop (5 * usbMru) packet, Chunks.cut_append (by decide) size more] at carried
  obtain ⟨front, back, rfl, five, six⟩ := List.map_eq_append_iff.mp carried
  obtain ⟨pieces, cut⟩ := Chunks.exists_cut_eq_cons (by decide : 0 < usbMru) (packet.drop (5 * usbMru))
  obtain ⟨t, rest, rfl, data, -⟩ := List.map_eq_cons_iff.mp (six.trans cut)
  have sixth : t.length = min usbMru (packet.length - 5 * usbMru) := by
    rw [← t.data_length, data, List.length_take, List.length_drop]
  have positive : 0 < usbMru := by decide
  exact ⟨_, headersRead_after oversized found idle five long.le (by omega) (by omega)⟩

end Dropping

/-- A packet that is too large is dropped whole exactly if it takes no more than five transfers: none of
its bytes but the header is taken for a header, and nothing but the reassembly buffer of the device
changes. The packet after it is handed on as if it had come instead. -/
theorem oversized_dropped (env : Env) (u : UsbPtr) (d : DevPtr) (s : Daemon) (packet : Bytes)
    (transfers : List Transfer) (found : findDevice u s.mux = some d) (idle : (s.mux.dev d).pktlen = 0)
    (oversized : Oversized packet) (carried : transfers.map Transfer.data = Chunks.cut usbMru packet) :
    (Dropped env u d packet 0 transfers s ∧
      ∀ next following, Framed next → following.map Transfer.data = Chunks.cut usbMru next →
        Completes env d next s (feed env u following (feed env u transfers s))) ↔
    packet.length ≤ 5 * usbMru := by
  constructor
  · rintro ⟨dropped, -⟩
    by_contra! long
    obtain ⟨bytes, read⟩ : ∃ bytes, (5 * usbMru, bytes) ∈ headersRead env u d 0 transfers s :=
      headersRead_sixth oversized found idle carried long
    cases congrArg Prod.fst (dropped.headers _ read)
  intro few
  rw [← List.take_of_length_le few] at carried
  have dropped : Dropped env u d packet 0 transfers s := feed_oversized oversized found idle carried
  refine ⟨dropped, fun next following framed cutting => ?_⟩
  obtain ⟨pktbuf, outcome⟩ := dropped.outcome
  rw [outcome]
  set dev : MuxDevice := { s.mux.dev d with pktbuf := pktbuf, pktlen := 0 }
  have core : (s.mux.dev d).SameCore dev := ⟨rfl, rfl, rfl, rfl, rfl, rfl, rfl, rfl, id⟩
  refine .of_held env core (feed_packet env framed (findDevice_setDev found rfl) ?_ cutting)
  simp [Daemon.setMux, Mux.setDev, dev]

/-- Full transfers that carry a packet. -/
def carrying (packet : Bytes) : List Transfer := (Chunks.cut usbMru packet).map Transfer.full

private theorem carrying_data (packet : Bytes) : (carrying packet).map Transfer.data = Chunks.cut usbMru packet := by
  have whole : Transfer.data ∘ Transfer.full = id := funext fun data => List.take_length ..
  rw [carrying, List.map_map, whole, List.map_id]

/-- A packet of an unknown protocol with zeros behind its header and then some bytes. -/
def stuffed (zeros : ℕ) (rest : Bytes) : Bytes :=
  be32 6 ++ (be32 (UInt32.ofNat (8 + zeros + rest.length)) ++ List.replicate zeros 0) ++ rest

private theorem stuffed_length (zeros : ℕ) (rest : Bytes) : (stuffed zeros rest).length = 8 + zeros + rest.length := by
  simp [stuffed]
  omega

private theorem stuffed_shape (zeros : ℕ) (rest : Bytes) :
    ∃ front : Bytes, stuffed zeros rest = front ++ rest ∧ front.length = 8 + zeros := by
  refine ⟨_, rfl, ?_⟩
  simp
  omega

private theorem stuffed_oversized {zeros : ℕ} {rest : Bytes} (large : devMru < 8 + zeros + rest.length)
    (small : 8 + zeros + rest.length < 2 ^ 32) : Oversized (stuffed zeros rest) := by
  have field : be32At (stuffed zeros rest) 4 = UInt32.ofNat (8 + zeros + rest.length) := by
    simp only [stuffed, List.append_assoc]
    exact be32At_append (be32 6) _ _
  refine ⟨by rwa [stuffed_length], ?_⟩
  rw [field, stuffed_length, UInt32.toNat_ofNat', Nat.mod_eq_of_lt small]

/-- A packet of one byte too many is dropped, and the version reply behind it gets through. -/
theorem stuffed_dropped :
    Dropped sessionEnv 0 0 (stuffed 65529 []) 0 (carrying (stuffed 65529 [])) (run sessionEnv [.deviceAdd 0]) ∧
    Completes sessionEnv 0 versionReply (run sessionEnv [.deviceAdd 0]) (feed sessionEnv 0 (carrying versionReply)
      (feed sessionEnv 0 (carrying (stuffed 65529 [])) (run sessionEnv [.deviceAdd 0]))) := by
  have oversized : Oversized (stuffed 65529 []) := stuffed_oversized (by decide) (by decide)
  have few : (stuffed 65529 []).length ≤ 5 * usbMru := by
    rw [stuffed_length]
    decide
  obtain ⟨dropped, following⟩ := (oversized_dropped sessionEnv 0 0 (run sessionEnv [.deviceAdd 0]) (stuffed 65529 [])
    (carrying (stuffed 65529 [])) (by decide +kernel) (by decide +kernel) oversized (carrying_data _)).mpr few
  exact ⟨dropped, following versionReply (carrying versionReply) versionReply_framed (carrying_data _)⟩

/-- A packet of six transfers, the last of which looks like a version reply. -/
def smuggled : Bytes := stuffed 81912 versionReply

/-- The sixth transfer of a packet that is too large is taken for a packet of its own: its first bytes
are read as a header, and the version reply in it is handled. -/
theorem smuggled_dispatched :
    let s := run sessionEnv [.deviceAdd 0]
    Oversized smuggled ∧ findDevice 0 s.mux = some 0 ∧ (s.mux.dev 0).pktlen = 0 ∧
    (carrying smuggled).map Transfer.data = Chunks.cut usbMru smuggled ∧
    (81920, versionReply.take 16) ∈ headersRead sessionEnv 0 0 0 (carrying smuggled) s ∧
    versionReply.take 16 ≠ smuggled.take 16 ∧
    inputs (s.mux.devLog 0) = [] ∧
    inputs ((feed sessionEnv 0 (carrying smuggled) s).mux.devLog 0) = [versionReply] := by
  intro s
  have oversized : Oversized smuggled := stuffed_oversized (by decide) (by decide)
  have found : findDevice 0 s.mux = some 0 := by decide +kernel
  have idle : (s.mux.dev 0).pktlen = 0 := by decide +kernel
  have silent : inputs (s.mux.devLog 0) = [] := by decide +kernel
  -- the first five transfers are dropped, and the rest starts from an empty buffer
  obtain ⟨front, shape, length⟩ := stuffed_shape 81912 versionReply
  have shape : smuggled = front ++ versionReply := shape
  have size : front.length = usbMru * (4 + 1) := length
  have parts : carrying smuggled = carrying front ++ [.full versionReply] := by
    rw [carrying, shape, Chunks.cut_append (by decide) size (by decide),
      Chunks.cut_of_le (l := versionReply) (by decide), List.map_append]
    rfl
  have five : (carrying front).map Transfer.data = Chunks.cut usbMru (smuggled.take (5 * usbMru)) := by
    rw [carrying_data, shape, Nat.mul_comm, List.take_left' size]
  have dropped : Dropped sessionEnv 0 0 smuggled 0 (carrying front) s := feed_oversized oversized found idle five
  obtain ⟨pktbuf, outcome⟩ := dropped.outcome
  have still : findDevice 0 (feed sessionEnv 0 (carrying front) s).mux = some 0 := by
    rw [outcome]
    exact findDevice_setDev found rfl
  have empty : ((feed sessionEnv 0 (carrying front) s).mux.dev 0).pktlen = 0 := by
    rw [outcome]
    simp [Daemon.setMux, Mux.setDev]
  have completes : Completes sessionEnv 0 versionReply (feed sessionEnv 0 (carrying front) s)
      (feed sessionEnv 0 [.full versionReply] (feed sessionEnv 0 (carrying front) s)) :=
    feed_packet sessionEnv versionReply_framed still empty (by rw [Chunks.cut_of_le (by decide)]; rfl)
  obtain ⟨-, reached⟩ := completes.inputs (feed_sound (run_sound_anything sessionEnv [.deviceAdd 0]).1)
    (List.mem_of_find?_eq_some still) versionReply_framed
  have same : (feed sessionEnv 0 (carrying front) s).mux.devLog = s.mux.devLog := by
    rw [outcome]
    rfl
  refine ⟨oversized, found, idle, carrying_data smuggled, ?_, ?_, silent, ?_⟩
  · rw [parts]
    refine headersRead_after oversized found idle five ?_ (by decide) (by decide)
    rw [shape, List.length_append, size]
    decide
  · intro equal
    have protocol : (smuggled.take 16).take 4 = be32 6 := by
      rw [List.take_take, smuggled, stuffed, List.append_assoc]
      exact List.take_left' rfl
    rw [← equal] at protocol
    revert protocol
    decide +kernel
  · rw [parts, feed_append, reached, same, silent]
    rfl

end Usbmuxd
