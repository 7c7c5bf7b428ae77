import Usbmuxd.ToMathlib.Chunks
import Usbmuxd.Proofs.Delivery

/-! # Reassembly of packets

A packet that arrives in several transfers is collected in the buffer of its device and dispatched
when it is complete. Transfers that complete nothing change nothing but that buffer.
-/

namespace Usbmuxd

open WireLog

/-- A packet that a device may send: its length field is right and it fits the reassembly buffer. -/
structure Framed (packet : Bytes) : Prop where
  header : 8 ≤ packet.length
  fits : packet.length ≤ devMru
  length : (be32At packet 4).toNat = packet.length

section Transfers

variable {dev : MuxDevice} {t : Transfer} {packet : Bytes} {n : ℕ}

theorem Transfer.data_length (t : Transfer) : t.data.length = t.length := by
  rw [Transfer.data, List.length_take]
  exact Nat.min_eq_left t.fits

/-- A buffer begins with a packet. -/
def Begins (buffer packet : Bytes) : Prop := buffer.take packet.length = packet

theorem Begins.length {buffer : Bytes} (begins : Begins buffer packet) (framed : Framed packet) :
    (be32At buffer 4).toNat = packet.length := by
  rw [be32At_of_take (begins.trans (List.take_length ..).symm) framed.header]
  exact framed.length

/-- The first bytes of a packet are in the reassembly buffer of a device. -/
structure Collecting (dev : MuxDevice) (packet : Bytes) (n : ℕ) : Prop where
  pktlen : dev.pktlen = n
  stored : dev.pktbuf.take n = packet.take n
  header : 8 ≤ n
  part : n < packet.length

/-- What a transfer adds to the buffer. -/
theorem Collecting.overwrite (collecting : Collecting dev packet n) {size : ℕ}
    (next : t.data = (packet.drop n).take size) :
    (Usbmuxd.overwrite dev.pktbuf n t.data).take (n + t.length) = packet.take (n + t.length) := by
  have inside : n ≤ dev.pktbuf.length := by
    have sizes := congrArg List.length collecting.stored
    have part := collecting.part
    rw [List.length_take, List.length_take] at sizes
    omega
  have taken : t.data = (packet.drop n).take t.length := by
    rw [← t.data_length, next, List.length_take, List.take_eq_take_iff]
    omega
  rw [← t.data_length, overwrite_take inside, collecting.stored, t.data_length, List.take_add, taken]

private theorem reassemble_whole (framed : Framed packet) (idle : dev.pktlen = 0) (all : t.data = packet) :
    reassemble dev t = (.packet t.buffer packet.length, dev) ∧ Begins t.buffer packet := by
  have size : t.length = packet.length := by rw [← t.data_length, all]
  have begins : Begins t.buffer packet := by
    rw [Begins, ← size]
    exact all
  have field := begins.length framed
  refine ⟨?_, begins⟩
  rw [reassemble, if_neg (by simp [idle]), if_neg (by omega), size]

/-- The first transfer of a longer packet is kept. -/
theorem reassemble_first (whole : (be32At packet 4).toNat = packet.length) (idle : dev.pktlen = 0)
    (more : usbMru < packet.length) (first : t.data = packet.take usbMru) :
    (reassemble dev t).1 = .held ∧ Collecting (reassemble dev t).2 packet usbMru := by
  have size : t.length = usbMru := by
    rw [← t.data_length, first, List.length_take]
    omega
  have same : t.buffer.take usbMru = packet.take usbMru := by
    rw [← first, Transfer.data, size]
  have field : (be32At t.buffer 4).toNat = packet.length := by
    rw [be32At_of_take same (by decide)]
    exact whole
  have stored := overwrite_take (Nat.zero_le dev.pktbuf.length) t.data
  rw [Nat.zero_add, t.data_length, List.take_zero, List.nil_append, size, first] at stored
  rw [reassemble, if_neg (by simp [idle]), if_pos ⟨size, by omega⟩]
  exact ⟨rfl, size, by rw [first]; exact stored, by decide, more⟩

/-- A transfer from the middle of a packet is kept too. -/
theorem reassemble_next (whole : (be32At packet 4).toNat = packet.length) (collecting : Collecting dev packet n)
    (room : n + usbMru ≤ devMru) (more : n + usbMru < packet.length) (next : t.data = (packet.drop n).take usbMru) :
    (reassemble dev t).1 = .held ∧ Collecting (reassemble dev t).2 packet (n + usbMru) := by
  have size : t.length = usbMru := by
    rw [← t.data_length, next, List.length_take, List.length_drop]
    omega
  have stored := collecting.overwrite next
  rw [size] at stored
  have header := collecting.header
  have field : (be32At (Usbmuxd.overwrite dev.pktbuf n t.data) 4).toNat = packet.length := by
    rw [be32At_of_take stored (by omega)]
    exact whole
  rw [reassemble, if_pos (by rw [collecting.pktlen]; omega), if_neg (by rw [collecting.pktlen]; omega)]
  simp only [collecting.pktlen, size, Nat.lt_irrefl, false_or]
  rw [if_neg (by omega)]
  exact ⟨rfl, rfl, stored, by omega, more⟩

private theorem reassemble_last (framed : Framed packet) (collecting : Collecting dev packet n)
    (last : t.data = packet.drop n) :
    ∃ buffer, reassemble dev t = (.packet buffer packet.length, { dev with pktbuf := buffer, pktlen := 0 }) ∧
      Begins buffer packet := by
  have part := collecting.part
  have size : t.length + n = packet.length := by
    rw [← t.data_length, last, List.length_drop]
    omega
  have fits := framed.fits
  have whole : t.data = (packet.drop n).take (packet.length - n) := by
    rw [last, ← List.length_drop, List.take_length]
  have stored := collecting.overwrite whole
  rw [Nat.add_comm n, size, List.take_length] at stored
  have header := collecting.header
  have begins : Begins (Usbmuxd.overwrite dev.pktbuf n t.data) packet := stored
  have field := begins.length framed
  refine ⟨Usbmuxd.overwrite dev.pktbuf n t.data, ?_, begins⟩
  rw [reassemble, if_pos (by rw [collecting.pktlen]; omega), if_neg (by rw [collecting.pktlen]; omega)]
  simp only [collecting.pktlen, size]
  rw [if_pos (.inr field)]

/-- After a short transfer nothing is collected, whatever came before. -/
theorem reassemble_short (short : t.length < usbMru) : (reassemble dev t).2.pktlen = 0 := by
  simp only [reassemble]
  split
  · split
    · rfl
    · rw [if_pos (.inl short)]
  · next idle =>
    rw [if_neg (by omega)]
    exact not_not.mp idle

end Transfers

/-- Hand transfers of a USB device to `device_data_input`, one after the other. -/
def feed (env : Env) (u : UsbPtr) (transfers : List Transfer) (s : Daemon) : Daemon :=
  transfers.foldl (fun s t => deviceDataInput env u t s) s

/-- The bytes of the transfers that are not empty. -/
def pieces (transfers : List Transfer) : List Bytes := (transfers.filter fun t => t.length ≠ 0).map Transfer.data

section Feed

variable (env : Env) {u : UsbPtr} {d : DevPtr} {s : Daemon} {t : Transfer} {packet : Bytes}

@[simp] theorem feed_nil (s : Daemon) : feed env u [] s = s := rfl

@[simp] theorem feed_cons (t : Transfer) (rest : List Transfer) (s : Daemon) :
    feed env u (t :: rest) s = feed env u rest (deviceDataInput env u t s) := rfl

@[simp] theorem feed_append (one two : List Transfer) (s : Daemon) :
    feed env u (one ++ two) s = feed env u two (feed env u one s) := List.foldl_append

/-- An empty transfer is ignored. -/
theorem deviceDataInput_empty (empty : t.length = 0) : deviceDataInput env u t s = s := by
  rw [deviceDataInput]
  split
  · rfl
  · rw [if_pos empty]

section Registered

variable (found : findDevice u s.mux = some d) (filled : t.length ≠ 0) (fits : t.length ≤ usbMru)
include found filled fits

theorem deviceDataInput_held {dev : MuxDevice} (held : reassemble (s.mux.dev d) t = (.held, dev)) :
    deviceDataInput env u t s = s.setMux (s.mux.setDev d dev) := by
  have small : ¬(usbMru < t.length ∨ devMru < t.length) := by
    have : usbMru ≤ devMru := by decide
    omega
  simp only [deviceDataInput, found, if_neg filled, if_neg small, held]

theorem deviceDataInput_complete {dev : MuxDevice} {buffer : Bytes} {length : ℕ}
    (complete : reassemble (s.mux.dev d) t = (.packet buffer length, dev)) :
    deviceDataInput env u t s = packetInput env d buffer length (s.setMux (s.mux.setDev d dev)) := by
  have small : ¬(usbMru < t.length ∨ devMru < t.length) := by
    have : usbMru ≤ devMru := by decide
    omega
  simp only [deviceDataInput, found, if_neg filled, if_neg small, complete]

end Registered

/-- Storing a record of the same USB device does not hide it. -/
theorem findDevice_setDev (found : findDevice u s.mux = some d) {dev : MuxDevice}
    (same : dev.usbdev = (s.mux.dev d).usbdev) : findDevice u (s.mux.setDev d dev) = some d := by
  have pointwise : ∀ d', ((s.mux.setDev d dev).dev d').usbdev = (s.mux.dev d').usbdev :=
    Update.same MuxDevice.usbdev same
  simp only [findDevice, pointwise]
  exact found

/-- The outcome of a whole packet: it is handed on from a state that differs in bookkeeping only. -/
def Completes (env : Env) (d : DevPtr) (packet : Bytes) (s s' : Daemon) : Prop :=
  ∃ buffer dev, Begins buffer packet ∧ (s.mux.dev d).SameCore dev ∧ dev.pktlen = 0 ∧
    s' = packetInput env d buffer packet.length (s.setMux (s.mux.setDev d dev))

/-- A transfer that is kept does not matter for the outcome. -/
theorem Completes.of_held {dev : MuxDevice} {s' : Daemon} (same : (s.mux.dev d).SameCore dev)
    (later : Completes env d packet (s.setMux (s.mux.setDev d dev)) s') : Completes env d packet s s' := by
  obtain ⟨buffer, dev', begins, core, idle, outcome⟩ := later
  have record : (s.mux.setDev d dev).dev d = dev := by simp [Mux.setDev]
  have core : dev.SameCore dev' := record ▸ core
  refine ⟨buffer, dev', begins, ⟨core.usbdev.trans same.usbdev, core.id.trans same.id, core.state.trans same.state,
    core.initialised.trans same.initialised, core.connections.trans same.connections, core.version.trans same.version,
    core.rxSeq.trans same.rxSeq, core.txSeq.trans same.txSeq,
    core.visible ∘ same.visible⟩, idle, ?_⟩
  rw [outcome]
  simp [Daemon.setMux, Mux.setDev, Function.update_idem]

private theorem feed_collecting (framed : Framed packet) {n : ℕ} {transfers : List Transfer}
    (found : findDevice u s.mux = some d) (collecting : Collecting (s.mux.dev d) packet n)
    (rest : transfers.map Transfer.data = Chunks.cut usbMru (packet.drop n)) :
    Completes env d packet s (feed env u transfers s) := by
  -- every transfer but the last is kept and moves the collected part on
  induction transfers generalizing s n with
  | nil =>
    rw [Chunks.cut] at rest
    split at rest <;> cases rest
  | cons t transfers ih =>
    have part := collecting.part
    have size := t.data_length
    by_cases last : packet.length ≤ n + usbMru
    · rw [Chunks.cut_of_le (by rw [List.length_drop]; omega), List.map_cons] at rest
      obtain ⟨piece, none⟩ := List.cons.inj rest
      rw [List.map_eq_nil_iff.mp none, feed_cons, feed_nil]
      rw [piece, List.length_drop] at size
      obtain ⟨buffer, complete, begins⟩ := reassemble_last framed collecting piece
      rw [deviceDataInput_complete env found (by omega) (by omega) complete]
      exact ⟨buffer, { s.mux.dev d with pktbuf := buffer, pktlen := 0 }, begins,
        ⟨rfl, rfl, rfl, rfl, rfl, rfl, rfl, rfl, id⟩, rfl, rfl⟩
    · rw [Chunks.cut_of_lt (by decide) (by rw [List.length_drop]; omega), List.map_cons, List.drop_drop] at rest
      obtain ⟨piece, rest⟩ := List.cons.inj rest
      rw [piece, List.length_take, List.length_drop] at size
      have fits := framed.fits
      obtain ⟨held, collecting⟩ := reassemble_next framed.length collecting (by omega) (by omega) piece
      have mru : usbMru = 16384 := rfl
      have core := reassemble_core (s.mux.dev d) t
      rw [feed_cons, deviceDataInput_held env found (by omega) (by omega) (Prod.ext held rfl)]
      refine .of_held env core (ih (findDevice_setDev found core.usbdev) ?_ rest)
      simpa [Mux.setDev, Daemon.setMux] using collecting

/-- A packet that is cut into transfers is handed on when the last one has arrived. -/
theorem feed_packet (framed : Framed packet) {transfers : List Transfer} (found : findDevice u s.mux = some d)
    (idle : (s.mux.dev d).pktlen = 0) (all : transfers.map Transfer.data = Chunks.cut usbMru packet) :
    Completes env d packet s (feed env u transfers s) := by
  cases transfers with
  | nil =>
    rw [Chunks.cut] at all
    split at all <;> cases all
  | cons t transfers =>
    have header := framed.header
    have size := t.data_length
    by_cases single : packet.length ≤ usbMru
    · rw [Chunks.cut_of_le single, List.map_cons] at all
      obtain ⟨piece, none⟩ := List.cons.inj all
      obtain ⟨complete, begins⟩ := reassemble_whole framed idle piece
      rw [piece] at size
      rw [List.map_eq_nil_iff.mp none, feed_cons, feed_nil,
        deviceDataInput_complete env found (by omega) (by omega) complete]
      exact ⟨t.buffer, _, begins, ⟨rfl, rfl, rfl, rfl, rfl, rfl, rfl, rfl, id⟩, idle, rfl⟩
    · rw [Chunks.cut_of_lt (by decide) (by omega), List.map_cons] at all
      obtain ⟨piece, rest⟩ := List.cons.inj all
      obtain ⟨held, collecting⟩ := reassemble_first framed.length idle (by omega) piece
      rw [piece, List.length_take] at size
      have mru : usbMru = 16384 := rfl
      have core := reassemble_core (s.mux.dev d) t
      rw [feed_cons, deviceDataInput_held env found (by omega) (by omega) (Prod.ext held rfl)]
      refine .of_held env core (feed_collecting env framed (findDevice_setDev found core.usbdev) ?_ rest)
      simpa [Mux.setDev, Daemon.setMux] using collecting

end Feed

section Dispatch

variable {lax : Laxity} (env : Env) {d : DevPtr} {s : Daemon}

/-- What a device has collected and what has reached its dispatch are the same. -/
def Undisturbed (d : DevPtr) (s s' : Mux) : Prop :=
  (s'.dev d).pktlen = (s.dev d).pktlen ∧ inputs (s'.devLog d) = inputs (s.devLog d)

private theorem Undisturbed.trans {s s' s'' : Mux} (one : Undisturbed d s s') (two : Undisturbed d s' s'') :
    Undisturbed d s s'' := ⟨two.1.trans one.1, two.2.trans one.2⟩

private theorem Calm.undisturbed {served : Option ClientPtr} {s' : Daemon} (calm : Calm lax served s.sys s'.sys) :
    Undisturbed d s.mux s'.mux := ⟨(calm.quiet d).pktlen, (calm.quiet d).inputs⟩

private theorem sendPacket_undisturbed (proto : MuxProtocol) (header data : Bytes) (x : Mux) :
    Undisturbed d x (sendPacket env d proto header data x).2 := by
  obtain ⟨tick, rxSeq, txSeq, transfers, events, faults, state, handed⟩ := sendPacket_state env d proto header data x
  have outputs : inputs events = [] := by
    refine List.filterMap_eq_nil_iff.mpr fun event member => ?_
    obtain ⟨packet, rfl | rfl⟩ := handed event member <;> rfl
  rw [state]
  refine ⟨by simp, ?_⟩
  simp only [Function.update_self, inputs_append, outputs, List.append_nil]

private theorem deviceVersionInput_undisturbed (vh : Bytes) :
    Undisturbed d s.mux (deviceVersionInput env d vh s).mux := by
  simp only [deviceVersionInput]
  split
  · exact ⟨rfl, rfl⟩
  split
  · exact ⟨rfl, rfl⟩
  set x := (s.mux.setDev d { s.mux.dev d with version := (be32At vh 0).toNat }).logDev d (.version (be32At vh 0))
  have noted : Undisturbed d s.mux x := by simp [Undisturbed, x, Mux.logDev, Mux.setDev]
  have activated (y : Mux) : Undisturbed d y (y.activate d) := by
    simp only [Mux.activate]
    split <;> simp [Undisturbed, Mux.setDev, Mux.fault]
  set y := if 2 ≤ (be32At vh 0).toNat then (sendPacket env d .setup [] [7] x).2 else x with telling
  have told : Undisturbed d x y := by
    rw [telling]
    split
    · exact sendPacket_undisturbed env .setup [] [7] x
    · exact ⟨rfl, rfl⟩
  have announced : Calm anything none (s.setMux (y.activate d)).sys _ :=
    preflightWorkerDeviceAdd_calm env announces_anything none (deviceInfo env ((y.activate d).dev d))
  exact (noted.trans told).trans ((activated y).trans announced.undisturbed)

private theorem runDispatch_undisturbed (sound : Sound anything s.sys) (listed : d ∈ s.mux.deviceList)
    (dispatched : Dispatch) :
    Undisturbed d s.mux (runDispatch env d dispatched s).mux := by
  cases dispatched with
  | versionInput vh _ => exact deviceVersionInput_undisturbed env vh
  | controlInput payload => simp [Undisturbed, runDispatch, Daemon.setMux, Mux.logDev]
  | tcpInput th payload =>
    have calm : Calm anything none s.sys _ := deviceTcpInput_calm env (grants_anything env) sound listed
      (TcpHdr.decode th) payload
      fun _ _ _ => ⟨trivial, .inl trivial⟩
    exact calm.undisturbed
  | tooSmall => exact ⟨rfl, rfl⟩
  | unknown => exact ⟨rfl, rfl⟩

/-- A packet with the right length reaches the dispatch once. -/
theorem packetInput_inputs (sound : Sound anything s.sys) (listed : d ∈ s.mux.deviceList) {buffer : Bytes}
    {length : ℕ} (whole : (be32At buffer 4).toNat = length) :
    ((packetInput env d buffer length s).mux.dev d).pktlen = (s.mux.dev d).pktlen ∧
      inputs ((packetInput env d buffer length s).mux.devLog d) = inputs (s.mux.devLog d) ++ [buffer.take length] := by
  have sound₁ : Sound anything (s.receive d buffer length).sys :=
    Steady.sound (receive_steady listed buffer length) sound
  have handled := runDispatch_undisturbed env sound₁ listed (dispatch (s.mux.dev d).version buffer length)
  have tracked : ((s.receive d buffer length).mux.dev d).pktlen = (s.mux.dev d).pktlen := by
    simp only [Daemon.receive, Daemon.setMux, Mux.logDev, Mux.setDev, Function.update_self, MuxDevice.track]
    split <;> rfl
  rw [packetInput_whole env whole]
  refine ⟨handled.1.trans tracked, handled.2.trans ?_⟩
  simp [Daemon.receive, Daemon.setMux, Mux.logDev, Mux.setDev]

end Dispatch

end Usbmuxd
