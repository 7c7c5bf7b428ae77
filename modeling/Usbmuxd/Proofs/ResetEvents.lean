import Usbmuxd.Proofs.Events
import Usbmuxd.Proofs.Resets

/-! # Removals in one event

The entry points of the daemon obey the rule about resets. A segment with `TH_RST` exempts the
connection it belongs to, and `device_remove` makes the device dead before it removes the connections.
-/

namespace Usbmuxd

open Collection

/-- The connection that a segment resets. -/
def resetConnection (d : DevPtr) (th : TcpHdr) (s : Mux) : Option ConnPtr :=
  if th.isRst then findConnection d th.dport th.sport s else none

section Input

variable (env : Env) {s : Daemon} {d : DevPtr}

/-- `device_tcp_input`: only the connection that the device resets is exempt, and sends nothing. -/
theorem deviceTcpInput_resets (th : TcpHdr) (payload : Bytes) :
    Resets (fun c => resetConnection d th s.mux ≠ some c) s (deviceTcpInput env d th payload s) ∧
      ∀ c, resetConnection d th s.mux = some c → c < s.mux.nextConn →
        (deviceTcpInput env d th payload s).mux.resets c = s.mux.resets c := by
  by_cases ready : (s.mux.dev d).state ≠ .active
  · have ignored : deviceTcpInput env d th payload s = s := by simp only [deviceTcpInput, if_pos ready]
    rw [ignored]
    exact ⟨.refl s, fun _ _ _ => rfl⟩
  simp only [deviceTcpInput, if_neg ready, resetConnection]
  cases reset : th.isRst with
  | true =>
    rcases found : findConnection d th.dport th.sport s.mux with _ | c
    · exact ⟨.refl s, fun _ _ _ => rfl⟩
    obtain ⟨others, own⟩ := @connectionInput_reset env s c th payload reset
    refine ⟨⟨others.mux.mono fun c' other same => other (by rw [same]; rfl), others.workers⟩, fun c' same => ?_⟩
    obtain rfl := Option.some.inj same
    exact own
  | false =>
    refine ⟨?_, by simp⟩
    rcases found : findConnection d th.dport th.sport s.mux with _ | c
    · have sent : Touches none s.mux (sendAnonRst env d th.dport th.sport th.seq s.mux).2 := sendPacket_touches ..
      exact .setMux (sent.resets (by simp))
    · exact (connectionInput_obeys env c payload reset).exempt

theorem deviceSetPreflightCbData_obeys (deviceId : ℕ) (data : Option ℕ) :
    Obeys s (s.setMux (deviceSetPreflightCbData deviceId data s.mux)) := by
  refine .setMux ?_
  simp only [deviceSetPreflightCbData]
  split
  · exact .refl _
  · exact .setDev s.mux _ _ .rfl

/-- `device_add` takes a record that was not in use. -/
theorem deviceAdd_obeys (u : UsbPtr) (unused : (s.mux.dev s.mux.nextDev).state ≠ .dead) :
    Obeys s (s.setMux (deviceAdd env u s.mux).2) := by
  have counted : MuxResets (fun _ => True) s.mux (getNextDeviceId s.mux).2 := .of_same (fun _ => .rfl) rfl rfl rfl
  have filled : MuxResets (fun _ => True) (getNextDeviceId s.mux).2
      ((getNextDeviceId s.mux).2.setDev s.mux.nextDev (newDevice u (getNextDeviceId s.mux).1)) :=
    .setDev _ _ _ (by simp [newDevice, getNextDeviceId, unused])
  set x : Mux := { (getNextDeviceId s.mux).2.setDev s.mux.nextDev (newDevice u (getNextDeviceId s.mux).1) with
    nextDev := s.mux.nextDev + 1 }
  have created : MuxResets (fun _ => True) s.mux x :=
    (counted.trans filled).trans (.of_same (fun _ => .rfl) rfl rfl rfl)
  have asked : Touches none x (sendPacket env s.mux.nextDev .version versionRequest [] x).2 := sendPacket_touches ..
  have sent := created.trans (asked.resets (by simp))
  refine .setMux ?_
  simp only [deviceAdd]
  split
  · exact sent
  · exact sent.trans (.of_same (fun _ => .rfl) rfl rfl rfl)

private theorem Daemon.Reacts.resets {s' : Daemon} (reacts : s.Reacts env .all d s') :
    MuxResets (fun _ => True) s.mux s'.mux := by
  obtain ⟨x, list, workers, does, rfl, -⟩ := reacts
  exact does.obeys.mux.trans (.of_same (fun _ => .rfl) rfl rfl rfl)

theorem taking_obeys (s : Daemon) (d : DevPtr) (rxSeq : Option UInt16) (pktbuf packet : Bytes) (seen : UInt16) :
    Obeys s (s.taking d rxSeq pktbuf packet seen) := by
  have stored : MuxResets (fun _ => True) s.mux
      (s.mux.setDev d { s.mux.dev d with rxSeq := rxSeq, pktbuf := pktbuf, pktlen := 0 }) := .setDev s.mux d _ .rfl
  exact .setMux (stored.trans (.of_same (fun _ => .rfl) rfl rfl rfl))

/-- A packet that is no segment obeys the rule, and only a version packet may start a worker. -/
private theorem runDispatch_resets (dispatched : Dispatch) (other : ∀ th payload, dispatched ≠ .tcpInput th payload) :
    MuxResets (fun _ => True) s.mux (runDispatch env d dispatched s).mux ∧
      ((∀ vh payload, dispatched ≠ .versionInput vh payload) →
        (runDispatch env d dispatched s).workers = s.workers) := by
  cases dispatched with
  | versionInput vh payload =>
    exact ⟨(deviceVersionInput_reacts env Reach.all_wide vh).resets, fun silent => absurd rfl (silent vh payload)⟩
  | controlInput payload => exact ⟨.of_same (fun _ => .rfl) rfl rfl rfl, fun _ => rfl⟩
  | tcpInput th payload => exact absurd rfl (other th payload)
  | tooSmall => exact ⟨.refl s.mux, fun _ => rfl⟩
  | unknown => exact ⟨.refl s.mux, fun _ => rfl⟩

/-- A transfer hands a segment to `device_tcp_input`, or it concerns no connection; then only a version
packet may start a worker. -/
theorem deviceDataInput_cases (u : UsbPtr) (t : Transfer) :
    (transferSegment u t s.mux = none ∧ MuxResets (fun _ => True) s.mux (deviceDataInput env u t s).mux ∧
        (greets u t s.mux = false → (deviceDataInput env u t s).workers = s.workers)) ∨
      ∃ d th payload rxSeq pktbuf packet seen, findDevice u s.mux = some d ∧
        transferSegment u t s.mux = some (d, th, payload) ∧ ((s.mux.dev d).rxSeq.isSome → rxSeq.isSome) ∧
        deviceDataInput env u t s = deviceTcpInput env d th payload (s.taking d rxSeq pktbuf packet seen) := by
  rcases @deviceDataInput_reception env s u t with ⟨silent, same⟩ | @⟨silent, d, dev, ties, stored⟩ |
    @⟨d, buffer, length, rxSeq, pktbuf, found, held, known, segment, greeting, dispatched⟩
  · rw [same]
    exact .inl ⟨silent, .refl s.mux, fun _ => rfl⟩
  · rw [stored]
    exact .inl ⟨silent, .setDev s.mux d dev ties.dead, fun _ => rfl⟩
  rw [segment, dispatched]
  have noted := taking_obeys s d rxSeq pktbuf (buffer.take length) ((s.mux.dev d).rxSeqSeen buffer length)
  set s₁ := s.taking d rxSeq pktbuf (buffer.take length) ((s.mux.dev d).rxSeqSeen buffer length)
  have other (concerns : ∀ th payload, dispatch (s.mux.dev d).version buffer length ≠ .tcpInput th payload) :
      MuxResets (fun _ => True) s.mux (runDispatch env d (dispatch (s.mux.dev d).version buffer length) s₁).mux ∧
        (greets u t s.mux = false →
          (runDispatch env d (dispatch (s.mux.dev d).version buffer length) s₁).workers = s.workers) := by
    obtain ⟨resets, workers⟩ := runDispatch_resets env (s := s₁) (d := d) _ concerns
    refine ⟨noted.mux.trans resets, fun silent => (workers fun vh payload greets => ?_).trans noted.workers⟩
    exact absurd (greeting vh payload greets) (by simp [silent])
  rcases kind : dispatch (s.mux.dev d).version buffer length with _ | _ | ⟨th, payload⟩ | _ | _
  · exact .inl ⟨rfl, kind ▸ other (by simp [kind])⟩
  · exact .inl ⟨rfl, kind ▸ other (by simp [kind])⟩
  · exact .inr ⟨d, TcpHdr.decode th, payload, rxSeq, pktbuf, _, _, found, rfl, known, rfl⟩
  · exact .inl ⟨rfl, kind ▸ other (by simp [kind])⟩
  · exact .inl ⟨rfl, kind ▸ other (by simp [kind])⟩

end Input

section Loops

variable (env : Env) {s : Daemon}

theorem teardownAll_obeys (d : DevPtr) : Obeys s (teardownAll env d s) :=
  (teardownAll_does env Reach.all_wide.conns d).obeys

theorem deviceCheckTimeouts_obeys : Obeys s (deviceCheckTimeouts env s) :=
  (deviceCheckTimeouts_does env Reach.all_wide.conns).obeys

theorem deviceKillConnections_obeys : Obeys s (deviceKillConnections env s) := by
  obtain ⟨x, does, killed⟩ := @deviceKillConnections_does env .all Reach.all_wide.conns s
  rw [killed]
  exact ⟨does.obeys.mux, does.obeys.workers⟩

theorem clientShutdown_obeys : Obeys s (clientShutdown env s) := by
  obtain ⟨x, does, closed⟩ := @clientShutdown_does env .all Reach.all_wide s
  rw [closed]
  exact ⟨does.obeys.mux, does.obeys.workers⟩

theorem clientProcess_obeys (fd : ℤ) (events : PollMask) : Obeys s (clientProcess env fd events s) :=
  (clientProcess_does env Reach.all_wide fd events fun _ _ _ _ _ _ _ _ _ _ => trivial).obeys

end Loops

section Workers

variable (env : Env) {s : Daemon}

theorem deviceRemove_workers (u : UsbPtr) : (deviceRemove env u s).workers = s.workers := by
  simp only [deviceRemove]
  split
  · rfl
  next d _ =>
  split
  · exact (teardownAll_obeys (s := s.retire d) env d).workers
  · rfl

theorem deviceShutdown_workers : (deviceShutdown env s).workers = s.workers := by
  have removed (usbs : List UsbPtr) (current : Daemon) :
      (usbs.foldl (fun s u => deviceRemove env u s) current).workers = current.workers := by
    induction usbs generalizing current with
    | nil => rfl
    | cons u rest ih => rw [List.foldl_cons, ih, deviceRemove_workers env u]
  have closed (current : Daemon) :
      (forEach (fun s => s.mux.deviceList) (shutdownDevice env) current).workers = current.workers := by
    refine forEach_induct (motive := fun final : Daemon => final.workers = current.workers) rfl fun d inner kept _ => ?_
    exact (teardownAll_obeys (s := inner.setMux (inner.mux.touchConnections d)) env d).workers.trans kept
  exact (closed _).trans (removed _ s)

/-- Workers are only started by a version packet and only end with an announcement. -/
theorem step_workers {event : Event} (silent : ∀ u t, event = .dataInput u t → greets u t s.mux = false)
    (other : ∀ info, event ≠ .workerDeviceAdd info) : (step env s event).workers = s.workers := by
  simp only [step]
  split
  swap
  · rfl
  cases event with
  | accept => rfl
  | clientProcess fd events => exact (clientProcess_obeys env fd events).workers
  | deviceAdd u => rfl
  | dataInput u t =>
    rcases @deviceDataInput_cases env s u t with ⟨_, _, workers⟩ | ⟨d, th, payload, rxSeq, pktbuf, packet, seen, _, _,
      _, input⟩
    · exact workers (silent u t rfl)
    · have taken : Obeys s (s.taking d rxSeq pktbuf packet seen) := taking_obeys s d rxSeq pktbuf packet seen
      simp only [input]
      exact (deviceTcpInput_resets env th payload).1.workers.trans taken.workers
  | deviceRemove u => exact deviceRemove_workers env u
  | checkTimeouts => exact (deviceCheckTimeouts_obeys env).workers
  | workerDeviceAdd info => exact absurd rfl (other info)
  | workerCbData deviceId data => rfl
  | killConnections => exact (deviceKillConnections_obeys env).workers
  | deviceShutdown => exact deviceShutdown_workers env
  | clientShutdown => exact (clientShutdown_obeys env).workers

end Workers

end Usbmuxd
