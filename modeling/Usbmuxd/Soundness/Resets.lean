import Usbmuxd.Proofs.ResetEvents
import Usbmuxd.Soundness.Isolation

/-! # Resets

A segment with `TH_RST` is never answered. A connection that is removed has sent one reset, unless its
device is dead or has reset it. A segment that belongs to no connection of an active device is answered
with a reset for its ports and otherwise only counted.
-/

namespace Usbmuxd

open Collection Frame WireLog

/-- The segment that an event hands to `device_tcp_input`, with its device. -/
def Daemon.segment? (s : Daemon) : Event → Option (DevPtr × TcpHdr × Bytes)
  | .dataInput u t => if enabled s (.dataInput u t) then transferSegment u t s.mux else none
  | _ => none

/-- The connection that the device resets with an event. -/
def Daemon.reset? (s : Daemon) (event : Event) : Option ConnPtr :=
  (s.segment? event).bind fun segment => resetConnection segment.1 segment.2.1 s.mux

/-- The header of the reset for a segment that belongs to no connection. -/
def TcpHdr.anonRst (th : TcpHdr) : TcpHdr := ⟨th.dport, th.sport, 0, th.seq, 0x50, thRst, 0, 0, 0⟩

/-- The segment is answered with one reset, which is submitted once if libusb takes it. Apart from that
the numbers of the device go on, and the packet has left the reassembly buffer. -/
def Rejected (env : Env) (d : DevPtr) (th : TcpHdr) (s s' : Daemon) : Prop :=
  ∃ tick rxSeq txSeq pktbuf packet seen result transfers reset,
    reset = ({ s.mux.dev d with rxSeq := rxSeq } : MuxDevice).packet .tcp th.anonRst.encode [] ∧
    Submission env (s.mux.dev d).usbdev reset s.mux.tick result transfers ∧
    s' = s.setMux { s.mux with
      tick := tick
      dev := Function.update s.mux.dev d
        { s.mux.dev d with rxSeq := rxSeq, txSeq := txSeq, pktbuf := pktbuf, pktlen := 0 }
      devLog := Function.update s.mux.devLog d
        (s.mux.devLog d ++ [.received packet seen, if result < 0 then .failed reset else .sent reset])
      txXfers := Function.update s.mux.txXfers (s.mux.dev d).usbdev
        (s.mux.txXfers (s.mux.dev d).usbdev ++ transfers) }

/-- How an event deals with resets. -/
structure ResetDiscipline (env : Env) (s : Daemon) (event : Event) : Prop where
  silent : ∀ d th payload, s.segment? event = some (d, th, payload) → th.isRst →
    (∀ d', packets ((step env s event).mux.devLog d') = packets (s.mux.devLog d')) ∧
      (step env s event).mux.txXfers = s.mux.txXfers
  removed : ∀ c m, s.mux.conn c = some m → (step env s event).mux.conn c = none →
    (step env s event).mux.resets c = s.mux.resets c +
      if ((step env s event).mux.dev m.dev).state = .dead ∨ s.reset? event = some c then 0 else 1
  kept : ∀ c m m', s.mux.conn c = some m → (step env s event).mux.conn c = some m' →
    (step env s event).mux.resets c = s.mux.resets c
  unmatched : ∀ d th payload, s.segment? event = some (d, th, payload) → th.isRst = false →
    (s.mux.dev d).state = .active → (∀ c ∈ (s.mux.dev d).connections, ∀ m, s.mux.conn c = some m →
      ¬(m.sport = th.dport ∧ m.dport = th.sport)) → Rejected env d th s (step env s event)

section Retirement

/-- Connections end only with their devices, and nothing is sent for them. -/
inductive Parting (s s' : Mux) (c : ConnPtr) : Prop
  | kept {m m' : MuxConnection} (before : s.conn c = some m) (after : s'.conn c = some m') (dev : m'.dev = m.dev)
      (resets : s'.resets c = s.resets c)
  | removed {m : MuxConnection} (before : s.conn c = some m) (after : s'.conn c = none)
      (dead : (s'.dev m.dev).state = .dead) (resets : s'.resets c = s.resets c)
  | absent (before : s.conn c = none) (after : s'.conn c = none) (resets : s'.resets c = s.resets c)

/-- What the removal of devices does to connections. -/
structure Retires (s s' : Mux) : Prop where
  dead : ∀ d, (s.dev d).state = .dead → (s'.dev d).state = .dead
  nextConn : s.nextConn ≤ s'.nextConn
  parting : ∀ c, c < s.nextConn → Parting s s' c

private theorem Parting.trans {s s' s'' : Mux} {c : ConnPtr}
    (dead : ∀ d, (s'.dev d).state = .dead → (s''.dev d).state = .dead)
    (first : Parting s s' c) (second : Parting s' s'' c) : Parting s s'' c := by
  cases first with
  | kept before after dev resets =>
    cases second with
    | kept before' after' dev' resets' =>
      obtain rfl := Option.some.inj (after.symm.trans before')
      exact .kept before after' (dev'.trans dev) (resets'.trans resets)
    | removed before' after' dead' resets' =>
      obtain rfl := Option.some.inj (after.symm.trans before')
      exact .removed before after' (dev ▸ dead') (resets'.trans resets)
    | absent before' => simp [after] at before'
  | removed before after gone resets =>
    cases second with
    | kept before' => simp [after] at before'
    | removed before' => simp [after] at before'
    | absent before' after' resets' => exact .removed before after' (dead _ gone) (resets'.trans resets)
  | absent before after resets =>
    cases second with
    | kept before' => simp [after] at before'
    | removed before' => simp [after] at before'
    | absent before' after' resets' => exact .absent before after' (resets'.trans resets)

namespace Retires

variable {s s' s'' : Mux}

private theorem of_same (dead : ∀ d, (s.dev d).state = .dead → (s'.dev d).state = .dead)
    (nextConn : s'.nextConn = s.nextConn)
    (conn : s'.conn = s.conn) (connLog : s'.connLog = s.connLog) : Retires s s' where
  dead := dead
  nextConn := nextConn.ge
  parting c _ := by
    have resets : s'.resets c = s.resets c := by rw [Mux.resets, connLog, Mux.resets]
    rcases before : s.conn c with _ | m
    · exact .absent before (by rw [conn, before]) resets
    · exact .kept before (by rw [conn, before]) rfl resets

private theorem refl (s : Mux) : Retires s s := .of_same (fun _ => id) rfl rfl rfl

private theorem trans (first : Retires s s') (second : Retires s' s'') : Retires s s'' where
  dead d gone := second.dead d (first.dead d gone)
  nextConn := first.nextConn.trans second.nextConn
  parting c known := (first.parting c known).trans second.dead (second.parting c (known.trans_le first.nextConn))

end Retires

variable {lax : Laxity} (env : Env) {s : Daemon} {d : DevPtr}

private theorem teardownAll_others (grants : Grants env lax) (sound : Sound lax s.sys) (listed : d ∈ s.mux.deviceList)
    {c : ConnPtr}
    {m : MuxConnection} (present : s.mux.conn c = some m) (elsewhere : m.dev ≠ d) :
    (teardownAll env d s).mux.conn c = some m := by
  have loop : Calm lax none s.sys (teardownAll env d s).sys ∧ (teardownAll env d s).mux.conn c = some m := by
    refine forEach_induct (motive := fun current : Daemon => Calm lax none s.sys current.sys ∧
      current.mux.conn c = some m)
      ⟨.refl _, present⟩ fun c' current ⟨calm, still⟩ member => ?_
    have holds : current.sys.Holds d c' := ⟨calm.list ▸ listed, member⟩
    have sound' := calm.sound sound
    obtain ⟨m', k, _, record, dev, owner, _⟩ := sound'.linked.links.held d c' holds
    have inside := sound'.inScope holds record owner
    have torn : Does env (Scope.reach ⟨d, some c', some k, m'.sport, m'.dport⟩) current
        (connectionTeardown env c' current) := connectionTeardown_does env rfl
    have isolated := torn.isolated inside
    have other : c ≠ c' := by
      rintro rfl
      obtain rfl : m = m' := Option.some.inj (still.symm.trans record)
      exact elsewhere dev
    refine ⟨calm.trans (connectionTeardown_held env grants sound' holds).1, ?_⟩
    exact (isolated.mux.conns c (by simpa using other)).trans still
  exact loop.2

private theorem deactivate_retires (grants : Grants env lax) (announces : lax.Announces) (sound : Sound lax s.sys)
    (listed : d ∈ s.mux.deviceList) (active : (s.mux.dev d).state = .active) :
    Retires s.mux (deactivate env d s).mux := by
  set s₁ := s.retire d
  have sound₁ : Sound lax s₁.sys := (retire_run announces listed active).sound sound
  have own : (s₁.mux.dev d).state = .dead := by simp [s₁, Daemon.retire, Daemon.setMux, Mux.logDev, Mux.setDev]
  have died (d' : DevPtr) (gone : (s.mux.dev d').state = .dead) : (s₁.mux.dev d').state = .dead := by
    by_cases same : d' = d
    · exact same ▸ own
    · simpa [s₁, Daemon.retire, Daemon.setMux, Mux.logDev, Mux.setDev, same] using gone
  set s₂ := teardownAll env d s₁ with tearing
  have obeys : MuxResets (fun _ => True) s₁.mux s₂.mux := (teardownAll_obeys env d).mux
  have emptied : Retires s₂.mux (deactivate env d s).mux := by
    have states : ∀ d', ((deactivate env d s).mux.dev d').state = (s₂.mux.dev d').state :=
      Update.same MuxDevice.state rfl
    exact .of_same (fun d' gone => (states d').trans gone) rfl rfl rfl
  refine Retires.trans ⟨fun d' gone => (obeys.dead d').mpr (died d' gone), obeys.nextConn, fun c known => ?_⟩ emptied
  cases obeys.fate c trivial known with
  | kept before after same resets => exact .kept before after same.dev resets
  | @removed m before alive after resets =>
    by_cases here : m.dev = d
    · subst here
      have silent : m.sendsRst (s₁.mux.dev m.dev) = false := by simp [MuxConnection.sendsRst, own]
      rw [silent, if_neg (by simp)] at resets
      exact .removed before after ((obeys.dead m.dev).mpr own) resets
    · have survives := teardownAll_others env grants sound₁ (s := s₁) listed before here
      rw [← tearing, after] at survives
      cases survives
  | absent before after resets => exact .absent before after resets

private theorem deviceRemove_retires (grants : Grants env lax) (announces : lax.Announces) (sound : Sound lax s.sys)
    (u : UsbPtr) :
    Retires s.mux (deviceRemove env u s).mux := by
  simp only [deviceRemove]
  split
  · exact .refl _
  next d found =>
  have listed : d ∈ s.mux.deviceList := List.mem_of_find?_eq_some found
  split
  · next active =>
    exact (deactivate_retires env grants announces sound listed active).trans (.of_same (fun _ => id) rfl rfl rfl)
  · exact .of_same (fun _ => id) rfl rfl rfl

private theorem deviceShutdown_retires (grants : Grants env lax) (announces : lax.Announces) (sound : Sound lax s.sys)
    (alive : Alive s.sys) : Retires s.mux (deviceShutdown env s).mux := by
  set usbs := s.mux.deviceList.map fun d => (s.mux.dev d).usbdev with naming
  obtain ⟨_, empty, _⟩ := removeAll_spec env grants announces usbs sound alive (.refl _)
  have each (pending : List UsbPtr) (current : Daemon) (sound : Sound lax current.sys) (alive : Alive current.sys) :
      Retires current.mux (pending.foldl (fun s u => deviceRemove env u s) current).mux := by
    induction pending generalizing current with
    | nil => exact .refl _
    | cons u rest ih =>
      have steady := deviceRemove_steady env grants announces sound alive u
      exact (deviceRemove_retires env grants announces sound u).trans (ih _ (steady.sound sound) (steady.alive alive))
  have removed := each usbs s sound alive
  set s₁ := usbs.foldl (fun s u => deviceRemove env u s) s
  have skipped : forEach (fun s : Daemon => s.mux.deviceList) (shutdownDevice env) s₁ = s₁ := forEach_nil empty
  simp only [deviceShutdown, ← naming]
  rw [show usbs.foldl (fun s u => deviceRemove env u s) s = s₁ from rfl, skipped]
  exact removed

end Retirement

section Silence

/-- Nothing is handed to USB. -/
structure Silent (s s' : Daemon) : Prop where
  devLog : s'.mux.devLog = s.mux.devLog
  txXfers : s'.mux.txXfers = s.mux.txXfers

private theorem Silent.refl (s : Daemon) : Silent s s := ⟨rfl, rfl⟩

private theorem Silent.trans {s s' s'' : Daemon} (first : Silent s s') (second : Silent s' s'') : Silent s s'' :=
  ⟨second.devLog.trans first.devLog, second.txXfers.trans first.txXfers⟩

variable {scope : Scope} (env : Env) {s : Daemon} {c : ConnPtr}

/-- Closing the client of a connection already being torn down sends nothing. -/
private theorem clientClose_silent (inside : InScope scope s.mux) (named : scope.connection = some c) {k : ClientPtr}
    (owned : scope.client = some k) {m : MuxConnection} (present : s.mux.conn c = some m) (dead : m.state = .dead) :
    Silent s (clientClose env k s) := by
  have only (deviceId : ℕ) (c' : ConnPtr) (found : getMuxConnection deviceId k s.mux = some c') : c' = c := by
    obtain ⟨d, listed, member, mine⟩ := getMuxConnection_held found
    exact Option.some.inj ((inside.sole d listed c' member k owned mine).symm.trans named)
  obtain ⟨faults, m', state⟩ := clientClose_dead env only present dead
  refine ⟨?_, ?_⟩
  · rw [state]
  · rw [state]

private theorem connectionTeardown_silent (inside : InScope scope s.mux) (named : scope.connection = some c)
    {m : MuxConnection}
    (present : s.mux.conn c = some m) (marks : m.state = .refused ∨ m.state = .dying) :
    Silent s (connectionTeardown env c s) := by
  have alive : m.state ≠ .dead := by rcases marks with state | state <;> simp [state]
  have unsent : m.sendsRst (s.mux.dev m.dev) = false := by
    rcases marks with state | state <;> simp [MuxConnection.sendsRst, state]
  simp only [connectionTeardown, connectionTeardownWith, present, if_neg alive, unsent, Bool.false_eq_true, if_false]
  split
  · exact ⟨rfl, rfl⟩
  next k owner =>
  have owned := inside.owner c named m present k owner
  split
  · exact ⟨rfl, rfl⟩
  set s₁ := s.setMux (s.mux.modifyConn c fun m => { m with state := .dead }) with marking
  have marked : s₁.mux = s.mux.setConn c { m with state := .dead } := by
    simp only [marking, Mux.modifyConn, present, Daemon.setMux]
  have inside₁ : InScope scope s₁.mux := by
    rw [marked]
    exact inside.kept (.setConn named present ⟨rfl, rfl, rfl, .inr rfl⟩)
  obtain ⟨tick, flushes, state, _⟩ := @flushClient_mux env s₁ c k m
  have inside₂ : InScope scope (flushClient env c k m s₁).mux := by
    rw [state]
    exact inside₁.kept (.of_same rfl rfl rfl rfl rfl rfl rfl)
  have present₂ : (flushClient env c k m s₁).mux.conn c = some { m with state := .dead } := by
    rw [state, marked]
    exact Function.update_self ..
  have flushed : Silent s (flushClient env c k m s₁) := by
    refine ⟨?_, ?_⟩
    · rw [state, marked]
      rfl
    · rw [state, marked]
      rfl
  have closed := flushed.trans (clientClose_silent env inside₂ named owned present₂ rfl)
  exact ⟨closed.devLog, closed.txXfers⟩

private theorem connectionInput_silent (inside : InScope scope s.mux) (named : scope.connection = some c) {th : TcpHdr}
    (reset : th.isRst) (payload : Bytes) : Silent s (connectionInput env c th payload s) := by
  have differs {flags : UInt8} (plain : flags &&& thRst = 0) : th.flags ≠ flags := fun same => by
    simp [TcpHdr.isRst_of_flags same plain] at reset
  have notOpening : th.flags ≠ thSyn ||| thAck := differs (by decide)
  have notCarrying : th.flags ≠ thAck := differs (by decide)
  simp only [connectionInput, reset, if_true, if_pos notOpening, if_pos notCarrying]
  split
  · exact ⟨rfl, rfl⟩
  next m present =>
  set s₁ := s.setMux ((s.mux.setConn c (m.receive th)).logConn c (.rx (m.receive th).rxAck (m.receive th).rxWin))
  have ended {state : ConnState} (marks : state = .refused ∨ state = .dying) : Silent s
      (connectionTeardown env c (s₁.setMux (s₁.mux.setConn c { m.receive th with state := state }))) := by
    set m₂ : MuxConnection := { m.receive th with state := state }
    have received := (Isolated.storeLog named present (m.receive th) (.rx (m.receive th).rxAck (m.receive th).rxWin)
      ⟨rfl, rfl, rfl, .inr rfl⟩).mux
    have present₁ : s₁.mux.conn c = some (m.receive th) := Function.update_self ..
    have stored := (Isolated.store named present₁ m₂ ⟨rfl, rfl, rfl, .inr rfl⟩).mux
    have inside₂ := (inside.kept received).kept stored
    have torn := connectionTeardown_silent env inside₂ named (m := m₂) (Function.update_self ..) marks
    exact ⟨torn.devLog, torn.txXfers⟩
  split
  · exact ended (.inl rfl)
  · exact ended (.inr rfl)
  · exact ⟨rfl, rfl⟩

end Silence

section Events

variable (env : Env) {s : Daemon} {d : DevPtr}

private theorem MuxDevice.advance_txSeq (dev : MuxDevice) : ∃ txSeq, dev.advance = { dev with txSeq := txSeq } := by
  simp only [MuxDevice.advance]
  split
  · exact ⟨_, rfl⟩
  · exact ⟨dev.txSeq, rfl⟩

/-- `send_anon_rst` on the device of a packet that has just been taken in. -/
private theorem sendAnonRst_rejected (th : TcpHdr) (rxSeq : Option UInt16) (pktbuf packet : Bytes) (seen : UInt16)
    (numbered : ({ s.mux.dev d with rxSeq := rxSeq } : MuxDevice).unnumbered = false) :
    let s₁ := s.taking d rxSeq pktbuf packet seen
    Rejected env d th s (s₁.setMux (sendAnonRst env d th.dport th.sport th.seq s₁.mux).2) := by
  intro s₁
  set dev : MuxDevice := { s.mux.dev d with rxSeq := rxSeq, pktbuf := pktbuf, pktlen := 0 }
  have record : s₁.mux.dev d = dev := by simp [s₁, dev, Daemon.taking, Daemon.setMux, Mux.logDev, Mux.setDev]
  obtain ⟨txSeq, advanced⟩ := dev.advance_txSeq
  have small : ¬usbMtu < muxHeaderSize dev.version + 20 + ([] : Bytes).length := by
    have : muxHeaderSize dev.version ≤ 16 := by
      simp only [muxHeaderSize]
      split <;> omega
    have : usbMtu = 49152 := rfl
    simp only [List.length_nil]
    omega
  have sized : th.anonRst.encode.take 20 = th.anonRst.encode := List.take_of_length_le (by simp)
  have built : dev.packet .tcp th.anonRst.encode [] =
      ({ s.mux.dev d with rxSeq := rxSeq } : MuxDevice).packet .tcp th.anonRst.encode [] := by
    simp only [MuxDevice.packet, MuxDevice.restart_tcp]
    rfl
  have ready : dev.unnumbered = false := numbered
  set packet' := dev.packet .tcp th.anonRst.encode []
  obtain ⟨tick, transfers, submission, state⟩ :=
    usbSend_submission env dev.usbdev packet' (s₁.mux.setDev d dev.advance)
  have outcome : (sendAnonRst env d th.dport th.sport th.seq s₁.mux).2 =
      let r := usbSend env dev.usbdev packet' (s₁.mux.setDev d dev.advance)
      r.2.logDev d (if r.1 < 0 then .failed packet' else .sent packet') := by
    have header : TcpHdr.encode ⟨th.dport, th.sport, 0, th.seq, 0x50, thRst, 0, 0, 0⟩ = th.anonRst.encode := rfl
    simp only [sendAnonRst, sendPacket, MuxProtocol.headerLength?, record, if_neg small, MuxDevice.restart_tcp, ready,
      Bool.false_eq_true, if_false, header, sized]
    split <;> rfl
  refine ⟨tick, rxSeq, txSeq, pktbuf, packet, seen, _, transfers, packet', built, submission, ?_⟩
  rw [outcome]
  simp only
  rw [state, advanced]
  simp [s₁, dev, Daemon.taking, Daemon.setMux, Mux.submitted, Mux.logDev, Mux.setDev]

private theorem MuxResets.removed {lax : Laxity} {who : ConnPtr → Prop} {s' : Daemon}
    (resets : MuxResets who s.mux s'.mux)
    (sound : Sound lax s.sys) {c : ConnPtr} (concerned : who c) {m : MuxConnection} (present : s.mux.conn c = some m)
    (gone : s'.mux.conn c = none) :
    s'.mux.resets c = s.mux.resets c + if (s'.mux.dev m.dev).state = .dead then 0 else 1 := by
  have viewed : s.sys.conn c = (some m, s.mux.connLog c) := congrArg (·, s.mux.connLog c) present
  cases resets.fate c concerned (sound.linked.links.allocated viewed) with
  | kept before after => simp [gone] at after
  | removed before alive after count =>
    obtain rfl := Option.some.inj (present.symm.trans before)
    have marked : m.state ≠ .dying ∧ m.state ≠ .refused := by
      rcases sound.not_dead viewed with waiting | opened
      · simp [waiting]
      · simp [opened]
    rw [count]
    simp [MuxConnection.sendsRst, marked, resets.dead]
  | absent before => simp [present] at before

private theorem MuxResets.kept {lax : Laxity} {who : ConnPtr → Prop} {s' : Daemon} (resets : MuxResets who s.mux s'.mux)
    (sound : Sound lax s.sys) {c : ConnPtr} (concerned : who c) {m m' : MuxConnection} (present : s.mux.conn c = some m)
    (still : s'.mux.conn c = some m') : s'.mux.resets c = s.mux.resets c := by
  have viewed : s.sys.conn c = (some m, s.mux.connLog c) := congrArg (·, s.mux.connLog c) present
  cases resets.fate c concerned (sound.linked.links.allocated viewed) with
  | kept before after same count => exact count
  | removed before alive after => simp [still] at after
  | absent before => simp [present] at before

private theorem ResetDiscipline.of_obeys {lax : Laxity} (sound : Sound lax s.sys) {event : Event}
    (plain : s.segment? event = none)
    (obeys : MuxResets (fun _ => True) s.mux (step env s event).mux) : ResetDiscipline env s event where
  silent d th payload segment := by simp [plain] at segment
  removed c m present gone := by
    have unreset : s.reset? event ≠ some c := by simp [Daemon.reset?, plain]
    simp only [unreset, or_false]
    exact obeys.removed sound trivial present gone
  kept c m m' present still := obeys.kept sound trivial present still
  unmatched d th payload segment := by simp [plain] at segment

private theorem ResetDiscipline.of_retires {lax : Laxity} (sound : Sound lax s.sys) {event : Event}
    (plain : s.segment? event = none) (retires : Retires s.mux (step env s event).mux) :
    ResetDiscipline env s event := by
  have known {c : ConnPtr} {m : MuxConnection} (present : s.mux.conn c = some m) : c < s.mux.nextConn :=
    sound.linked.links.allocated (congrArg (·, s.mux.connLog c) present : s.sys.conn c = _)
  refine ⟨fun d th payload segment => ?_, fun c m present gone => ?_, fun c m m' present still => ?_,
    fun d th payload segment => ?_⟩
  · simp [plain] at segment
  · cases retires.parting c (known present) with
    | kept before after => simp [gone] at after
    | removed before after dead resets =>
      obtain rfl := Option.some.inj (present.symm.trans before)
      rw [resets, if_pos (.inl dead), Nat.add_zero]
    | absent before => simp [present] at before
  · cases retires.parting c (known present) with
    | kept before after dev resets => exact resets
    | removed before after => simp [still] at after
    | absent before => simp [present] at before
  · simp [plain] at segment

private theorem InScope.congr {scope : Scope} {x y : Mux} (inside : InScope scope x) (conn : y.conn = x.conn)
    (list : y.deviceList = x.deviceList) (connections : ∀ d, (y.dev d).connections = (x.dev d).connections) :
    InScope scope y where
  dev := conn ▸ inside.dev
  ports := conn ▸ inside.ports
  owner := conn ▸ inside.owner
  sole d listed c member k named owned :=
    inside.sole d (list ▸ listed) c (connections d ▸ member) k named (by rwa [Mux.hasClient, ← conn])

section Segment

variable {rxSeq : Option UInt16} {pktbuf packet : Bytes} {seen : UInt16}

private theorem taking_connections (s : Daemon) (d : DevPtr) (rxSeq : Option UInt16) (pktbuf packet : Bytes)
    (seen : UInt16)
    (d' : DevPtr) : ((s.taking d rxSeq pktbuf packet seen).mux.dev d').connections = (s.mux.dev d').connections := by
  revert d'
  exact Update.same MuxDevice.connections rfl

private theorem findConnection_taking (sport dport : UInt16) :
    findConnection d sport dport (s.taking d rxSeq pktbuf packet seen).mux = findConnection d sport dport s.mux :=
  @findConnection_setDev d s.mux { s.mux.dev d with rxSeq := rxSeq, pktbuf := pktbuf, pktlen := 0 } rfl sport dport

private theorem deviceTcpInput_silent {lax : Laxity} (sound : Sound lax s.sys) (listed : d ∈ s.mux.deviceList)
    {th : TcpHdr}
    (reset : th.isRst) (payload : Bytes) :
    Silent (s.taking d rxSeq pktbuf packet seen) (deviceTcpInput env d th payload
      (s.taking d rxSeq pktbuf packet seen)) := by
  simp only [deviceTcpInput, findConnection_taking, reset, if_true]
  split
  · exact .refl _
  split
  · exact .refl _
  next c found =>
  have holds : s.sys.Holds d c := ⟨listed, List.mem_of_find?_eq_some found⟩
  obtain ⟨m, k, _, record, _, owner, _⟩ := sound.linked.links.held d c holds
  have inside : InScope _ (s.taking d rxSeq pktbuf packet seen).mux :=
    (sound.inScope holds record owner).congr rfl rfl (taking_connections s d rxSeq pktbuf packet seen)
  exact connectionInput_silent env inside rfl reset payload

end Segment

private theorem dataInput_discipline {lax : Laxity} (sound : Sound lax s.sys) (u : UsbPtr) (t : Transfer)
    (ready : enabled s (.dataInput u t)) : ResetDiscipline env s (.dataInput u t) := by
  have shape : s.segment? (.dataInput u t) = transferSegment u t s.mux := if_pos ready
  have stepped : step env s (.dataInput u t) = deviceDataInput env u t s := if_pos ready
  rcases @deviceDataInput_cases env s u t with ⟨without, obeys, _⟩ | ⟨d, th, payload, rxSeq, pktbuf, packet, seen,
    found,
    brought, known, input⟩
  · exact .of_obeys env sound (shape.trans without) (stepped ▸ obeys)
  have listed : d ∈ s.mux.deviceList := List.mem_of_find?_eq_some found
  set s₁ := s.taking d rxSeq pktbuf packet seen
  have reset : s.reset? (.dataInput u t) = resetConnection d th s.mux := by simp [Daemon.reset?, shape, brought]
  have same : resetConnection d th s₁.mux = resetConnection d th s.mux := by
    simp only [resetConnection]
    rw [findConnection_taking]
  obtain ⟨others, excused⟩ := @deviceTcpInput_resets env s₁ d th payload
  rw [same] at others excused
  have taken : Obeys s s₁ := taking_obeys s d rxSeq pktbuf packet seen
  have resets : Resets (fun c => resetConnection d th s.mux ≠ some c) s (deviceTcpInput env d th payload s₁) :=
    taken.exempt.trans others
  have allocated {c : ConnPtr} {m : MuxConnection} (present : s.mux.conn c = some m) : c < s.mux.nextConn :=
    sound.linked.links.allocated (congrArg (·, s.mux.connLog c) present : s.sys.conn c = _)
  refine ⟨fun d' th' payload' segment isRst => ?_, fun c m present gone => ?_, fun c m m' present still => ?_,
    fun d' th' payload' segment plain active foreign => ?_⟩
  · cases brought.symm.trans (shape.symm.trans segment)
    have silent : Silent s₁ (deviceTcpInput env d th payload s₁) := deviceTcpInput_silent env sound listed isRst payload
    rw [stepped, input, silent.devLog, silent.txXfers]
    refine ⟨fun d' => ?_, rfl⟩
    by_cases here : d' = d
    · subst here
      simp [s₁, Daemon.taking, Daemon.setMux, Mux.logDev, Mux.setDev]
    · simp [s₁, Daemon.taking, Daemon.setMux, Mux.logDev, Mux.setDev, here]
  · rw [stepped, input] at gone ⊢
    rw [reset]
    by_cases own : resetConnection d th s.mux = some c
    · rw [if_pos (.inr own), Nat.add_zero]
      exact excused c own (allocated present)
    · simp only [own, or_false]
      exact resets.mux.removed sound own present gone
  · rw [stepped, input] at still ⊢
    by_cases own : resetConnection d th s.mux = some c
    · exact excused c own (allocated present)
    · exact resets.mux.kept sound own present still
  · cases brought.symm.trans (shape.symm.trans segment)
    have missing : findConnection d th.dport th.sport s₁.mux = none := by
      rw [findConnection_taking]
      refine List.find?_eq_none.mpr fun c member matched => ?_
      rcases present : s.mux.conn c with _ | m
      · simp [present] at matched
      · exact foreign c member m present (by simpa [present] using matched)
    have ready : ¬(s₁.mux.dev d).state ≠ .active := by
      simp [s₁, Daemon.taking, Daemon.setMux, Mux.logDev, Mux.setDev, active]
    have numbered : ({ s.mux.dev d with rxSeq := rxSeq } : MuxDevice).unnumbered = false := by
      by_cases versioned : 2 ≤ (s.mux.dev d).version
      · obtain ⟨tx, rx, txSeq, before⟩ := (sound.wires d).seqs versioned
        obtain ⟨rx', after⟩ := Option.isSome_iff_exists.mp (known
          (by rw [show (s.mux.dev d).rxSeq = some rx from before]; rfl))
        have numbered : (s.mux.dev d).txSeq = some tx := txSeq
        simp [MuxDevice.unnumbered, numbered, after]
      · simp [MuxDevice.unnumbered, versioned]
    rw [stepped, input]
    simp only [deviceTcpInput, if_neg ready, missing, plain, Bool.false_eq_true, if_false]
    exact sendAnonRst_rejected env th rxSeq pktbuf packet seen numbered

end Events

/-- Every event of every run deals with resets as it should. -/
theorem run_resets (env : Env) (events : List Event) (event : Event) : ResetDiscipline env (run env events) event := by
  obtain ⟨sound, alive⟩ := run_sound_anything env events
  set s := run env events
  cases ready : enabled s event with
  | false =>
    have idle : step env s event = s := by simp [step, ready]
    have plain : s.segment? event = none := by
      cases event with
      | dataInput u t => simp [Daemon.segment?, ready]
      | _ => rfl
    exact .of_obeys env sound plain (idle.symm ▸ .refl s.mux)
  | true =>
    have obeys (plain : s.segment? event = none) {s' : Daemon} (stepped : step env s event = s')
        (obeys : MuxResets (fun _ => True) s.mux s'.mux) : ResetDiscipline env s event :=
      .of_obeys env sound plain (stepped ▸ obeys)
    have retires (plain : s.segment? event = none) {s' : Daemon} (stepped : step env s event = s')
        (retires : Retires s.mux s'.mux) : ResetDiscipline env s event :=
          .of_retires env sound plain (stepped ▸ retires)
    cases event with
    | accept => exact obeys rfl (if_pos ready) (.refl s.mux)
    | clientProcess fd events => exact obeys rfl (if_pos ready) (clientProcess_obeys env fd events).mux
    | deviceAdd u =>
      have unused : s.sys.dev s.mux.nextDev = (default, []) := sound.linked.registry.fresh _ (Nat.le_refl _)
      have waiting : (s.mux.dev s.mux.nextDev).state = .init := congrArg (fun view : DevView => view.1.state) unused
      exact obeys rfl (if_pos ready) (deviceAdd_obeys env u (by simp [waiting])).mux
    | dataInput u t => exact dataInput_discipline env sound u t ready
    | deviceRemove u => exact retires rfl (if_pos ready) (deviceRemove_retires env (grants_anything env)
        announces_anything sound u)
    | checkTimeouts => exact obeys rfl (if_pos ready) (deviceCheckTimeouts_obeys env).mux
    | workerDeviceAdd info =>
      exact obeys rfl (if_pos ready)
        (clientDeviceAdd_does env Reach.all_wide (s := { s with workers := s.workers.erase info }) info).obeys.mux
    | workerCbData deviceId data => exact obeys rfl (if_pos ready) (deviceSetPreflightCbData_obeys deviceId data).mux
    | killConnections => exact obeys rfl (if_pos ready) (deviceKillConnections_obeys env).mux
    | deviceShutdown =>
      exact retires rfl (if_pos ready) (deviceShutdown_retires env (grants_anything env) announces_anything sound alive)
    | clientShutdown => exact obeys rfl (if_pos ready) (clientShutdown_obeys env).mux

/-- A packet of the device of the session with this header and no payload. -/
def headerPacket (th : TcpHdr) : Bytes :=
  be32 6 ++ be32 36 ++ be32 0xfeedface ++ be16 1 ++ be16 2 ++ th.encode

/-- The device resets the connection of the session. -/
def resetSegment : TcpHdr := { dataSegment with flags := thRst ||| thAck }

/-- A segment that belongs to no connection of the session. -/
def strangeSegment : TcpHdr := { dataSegment with dport := 9 }

/-- The session after the reset of its device. -/
def tunnelReset : Daemon := step sessionEnv (run sessionEnv tunnel) (.dataInput 0 (.full (headerPacket resetSegment)))

/-- The session after `device_kill_connections`. -/
def tunnelKilled : Daemon := step sessionEnv (run sessionEnv tunnel) .killConnections

/-- In the session a reset of the device is taken without an answer and the connection is gone, the end
of all connections sends one reset, and so does a segment that belongs to none. -/
theorem tunnel_resets :
    (packets (tunnelReset.mux.devLog 0) = packets ((run sessionEnv tunnel).mux.devLog 0) ∧
      tunnelReset.mux.conn 0 = none ∧ tunnelReset.mux.resets 0 = (run sessionEnv tunnel).mux.resets 0) ∧
    (tunnelKilled.mux.conn 0 = none ∧ tunnelKilled.mux.resets 0 = (run sessionEnv tunnel).mux.resets 0 + 1) ∧
    Rejected sessionEnv 0 strangeSegment (run sessionEnv tunnel)
      (step sessionEnv (run sessionEnv tunnel) (.dataInput 0 (.full (headerPacket strangeSegment)))) := by
  have present : (run sessionEnv tunnel).mux.conn 0 =
      some (((run sessionEnv tunnel).mux.conn 0).get (by decide +kernel)) := by simp
  refine ⟨?_, ?_, ?_⟩
  · have ended := run_resets sessionEnv tunnel (.dataInput 0 (.full (headerPacket resetSegment)))
    have segment : (run sessionEnv tunnel).segment? (.dataInput 0 (.full (headerPacket resetSegment))) =
        some (0, resetSegment, []) := by decide +kernel
    have gone : tunnelReset.mux.conn 0 = none := by decide +kernel
    have silent := (ended.silent 0 resetSegment [] segment (by decide)).1 0
    have count := ended.removed 0 _ present gone
    rw [if_pos (.inr (by decide +kernel)), Nat.add_zero] at count
    exact ⟨silent, gone, count⟩
  · have dropped := run_resets sessionEnv tunnel .killConnections
    have gone : tunnelKilled.mux.conn 0 = none := by decide +kernel
    have count := dropped.removed 0 _ present gone
    rw [if_neg (by decide +kernel)] at count
    exact ⟨gone, count⟩
  · have strange := run_resets sessionEnv tunnel (.dataInput 0 (.full (headerPacket strangeSegment)))
    have segment : (run sessionEnv tunnel).segment? (.dataInput 0 (.full (headerPacket strangeSegment))) =
        some (0, strangeSegment, []) := by decide +kernel
    have foreign : ∀ c ∈ ((run sessionEnv tunnel).mux.dev 0).connections, ∀ m ∈ (run sessionEnv tunnel).mux.conn c,
        ¬(m.sport = strangeSegment.dport ∧ m.dport = strangeSegment.sport) := by
      decide +kernel
    exact strange.unmatched 0 strangeSegment [] segment (by decide) (by decide +kernel) foreign

end Usbmuxd
