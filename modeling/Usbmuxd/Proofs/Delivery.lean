import Usbmuxd.Proofs.Runs

/-! # Payload that reaches a connection

An event brings payload to at most one connection, and that connection takes it at most once; every
other connection takes nothing.
-/

namespace Usbmuxd

open ConnLog ConnEvent

section Delivery

variable (lax : Laxity) (env : Env) {s : Daemon} {d : DevPtr} {c : ConnPtr} {payload : Bytes}

/-- What is left of an event that brings payload, in a state `x` with the same connections: the input
of an open connection of an active device. -/
structure Reaching (lax : Laxity) (env : Env) (s s' : Daemon) (c : ConnPtr) (payload : Bytes) (d : DevPtr) (th : TcpHdr)
    (m : MuxConnection) (x : Daemon) : Prop where
  rest : s' = connectionInput env c th payload x
  steady : Steady lax none s.sys x.sys
  conns : x.sys.conn = s.sys.conn
  holds : x.sys.Holds d c
  record : x.mux.conn c = some m
  opened : m.state = .connected
  plain : th.flags = thAck
  active : (x.sys.dev d).1.state = .active

private theorem deviceTcpInput_reaches (listed : d ∈ s.mux.deviceList) {th : TcpHdr} {bytes : Bytes}
    (arrives : segmentArrival d th bytes s.mux = some (c, payload)) :
    ∃ m, Reaching lax env s (deviceTcpInput env d th bytes s) c payload d th m s := by
  rw [segmentArrival] at arrives
  split at arrives
  · cases arrives
  next active =>
  split at arrives
  · cases arrives
  next c' reached =>
  split at arrives
  swap
  · cases arrives
  next opened =>
  obtain ⟨rfl, rfl⟩ := Prod.mk.inj (Option.some.inj arrives)
  obtain ⟨opened, plain⟩ := opened
  obtain ⟨m, record, state⟩ := (Option.any_eq_true ..).mp opened
  refine ⟨m, ?_, .refl _, rfl, ⟨listed, List.mem_of_find?_eq_some reached⟩, record, by simpa using state, plain,
    not_not.mp active⟩
  simp only [deviceTcpInput, if_neg active, reached]

variable {lax env} in
private theorem Reaching.after {s₀ s' x : Daemon} {th : TcpHdr} {m : MuxConnection}
    (earlier : Steady lax none s₀.sys s.sys)
    (conns : s.sys.conn = s₀.sys.conn) (reaching : Reaching lax env s s' c payload d th m x) :
    Reaching lax env s₀ s' c payload d th m x :=
  { reaching with steady := earlier.trans reaching.steady, conns := reaching.conns.trans conns }

private theorem packetInput_reaches (listed : d ∈ s.mux.deviceList) {buffer : Bytes} {length : ℕ}
    (arrives : packetArrival d buffer length s.mux = some (c, payload)) :
    ∃ th m x, Reaching lax env s (packetInput env d buffer length s) c payload d th m x := by
  rw [packetArrival] at arrives
  split at arrives
  · cases arrives
  next whole =>
  split at arrives
  swap
  · cases arrives
  next th bytes dispatched =>
  have unmoved : segmentArrival d (TcpHdr.decode th) bytes (s.receive d buffer length).mux = some (c, payload) :=
    (segmentArrival_setDev (track_core (s.mux.dev d) buffer).1 (track_core (s.mux.dev d) buffer).2).trans arrives
  obtain ⟨m, reaching⟩ := deviceTcpInput_reaches lax env (s := s.receive d buffer length) listed unmoved
  refine ⟨TcpHdr.decode th, m, s.receive d buffer length, ?_⟩
  have rest : packetInput env d buffer length s =
      deviceTcpInput env d (TcpHdr.decode th) bytes (s.receive d buffer length) := by
    simp only [packetInput, if_neg whole, dispatched, runDispatch]
    rfl
  exact rest ▸ reaching.after (receive_steady listed buffer length) rfl

/-- An event that brings payload comes down to the input of its connection. -/
private theorem step_reaches {event : Event} (arrives : arrival s event = some (c, payload)) :
    ∃ d th m x, Reaching lax env s (step env s event) c payload d th m x := by
  cases event with
  | dataInput u t =>
    rw [arrival] at arrives
    split at arrives
    swap
    · cases arrives
    next possible =>
    rw [transferArrival] at arrives
    split at arrives
    · cases arrives
    next d found =>
    have listed : d ∈ s.mux.deviceList := List.mem_of_find?_eq_some found
    split at arrives
    · cases arrives
    next filled =>
    split at arrives
    · cases arrives
    next fits =>
    split at arrives
    · cases arrives
    next buffer length complete =>
    have core := reassemble_core (s.mux.dev d) t
    have unmoved : packetArrival d buffer length (s.mux.setDev d (reassemble (s.mux.dev d) t).2) = some (c, payload) :=
      (packetArrival_setDev core.version core.state core.connections).trans arrives
    obtain ⟨th, m, x, reaching⟩ := packetInput_reaches lax env
      (s := s.setMux (s.mux.setDev d (reassemble (s.mux.dev d) t).2)) listed unmoved
    refine ⟨d, th, m, x, ?_⟩
    have rest : step env s (.dataInput u t) =
        packetInput env d buffer length (s.setMux (s.mux.setDev d (reassemble (s.mux.dev d) t).2)) := by
      simp only [step, if_pos possible, deviceDataInput, found, if_neg filled, if_neg fits, complete]
    exact rest ▸ reaching.after (store_steady listed t) rfl
  | _ => cases arrives

/-- A connection only takes payload that arrives for it. -/
theorem step_connRun (sound : Sound anything s.sys) (alive : Alive s.sys) (event : Event) (c : ConnPtr) :
    ConnRun (fun bytes => arrival s event = some (c, bytes)) (s.sys.conn c) ((step env s event).sys.conn c) := by
  let lax : Laxity := { anything with hears := fun c bytes => arrival s event = some (c, bytes) }
  have hearing : Sound lax s.sys := sound.hearing _
  have grants : Grants env lax := ⟨.inl trivial, fun _ _ _ => trivial, fun _ _ _ _ => trivial⟩
  have admitted : Admitted lax env s event :=
    ⟨fun _ => trivial, fun _ => trivial, fun _ _ => trivial, fun _ => trivial,
      fun _ => ⟨fun _ _ => trivial, trivial, trivial⟩, .inl trivial, .inl trivial,
        fun _ _ arrives => ⟨arrives, .inl trivial⟩⟩
  exact SysRun.connRun (step_steady env grants hearing alive admitted).run hearing c

/-- Arriving payload is taken at most once. -/
theorem step_accepted (sound : Sound anything s.sys) {event : Event} (arrives : arrival s event = some (c, payload)) :
    accepted ((step env s event).mux.connLog c) = accepted (s.mux.connLog c) ∨
      accepted ((step env s event).mux.connLog c) = accepted (s.mux.connLog c) ++ payload := by
  let lax : Laxity := { anything with hears := fun _ _ => False }
  obtain ⟨d, th, m, x, reaching⟩ := step_reaches lax env arrives
  have sound₁ : Sound lax x.sys := reaching.steady.sound (sound.hearing _)
  have sameLog : x.mux.connLog c = s.mux.connLog c := congrArg Prod.snd (congrFun reaching.conns c)
  obtain ⟨log, present⟩ : ∃ log, x.sys.conn c = (some m, log) :=
    ⟨x.mux.connLog c, congrArg (·, x.mux.connLog c) reaching.record⟩
  have logged : log = s.mux.connLog c := (congrArg Prod.snd present).symm.trans sameLog
  obtain ⟨rfl, ⟨k, client, clientLog, attempting⟩ | carrying⟩ := sound₁.attempting_or_carrying reaching.holds present
  · exact absurd (attempting.waiting.symm.trans reaching.opened) (by decide)
  rw [← logged, reaching.rest]
  have state : (m.receive th).state = .connected := reaching.opened
  simp only [connectionInput, reaching.record, state, reaching.plain, ne_eq, not_true_eq_false, if_false]
  have grants : Grants env lax := ⟨.inl trivial, fun _ _ _ => trivial, fun _ _ _ _ => trivial⟩
  refine connectionDeviceInput_accepted env grants carrying (.inl reaching.active) ?_ (.single (.receive m log th))
    rfl rfl
    state (.inl trivial) (fun _ => id) payload
  rw [Working, sys_logConn, sys_setConn, setMux_mux, Sys.setConn_conn, present, Sys.setConn_setConn]

end Delivery

end Usbmuxd
