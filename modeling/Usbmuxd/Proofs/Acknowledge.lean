import Usbmuxd.Proofs.Resets

/-! # What an acknowledgement does

`send_tcp_ack` on a connection sends one ACK. If USB takes it the connection has none pending any more;
if not the connection is torn down, and whatever is noted for it after that is no ACK. Every other
connection is left alone, because the teardown meets no other connection of the client.
-/

namespace Usbmuxd

open Frame ConnEvent

/-- An ACK is passed to `send_packet`. -/
def ConnEvent.isAck : ConnEvent → Bool
  | segment th _ _ => th.flags = thAck
  | _ => false

/-- No other connection of a listed device has this client. -/
def Mux.Sole (s : Mux) (c : ConnPtr) (k : ClientPtr) : Prop :=
  ∀ d ∈ s.deviceList, ∀ c' ∈ (s.dev d).connections, s.hasClient k c' → c' = c

/-- Only one connection is concerned, these events are noted for it, and every device keeps its state and its
connections. -/
structure Beside (c : ConnPtr) (events : List ConnEvent) (s s' : Mux) : Prop where
  deviceList : s'.deviceList = s.deviceList
  states : ∀ d, (s'.dev d).state = (s.dev d).state
  connections : ∀ d, (s'.dev d).connections = (s.dev d).connections
  conns : SameOff (some c) s.conn s'.conn
  logs : s'.connLog = Function.update s.connLog c (s.connLog c ++ events)

namespace Beside

variable {c : ConnPtr} {events events' : List ConnEvent} {s s' s'' : Mux}

private theorem quiet (deviceList : s'.deviceList = s.deviceList) (dev : s'.dev = s.dev)
    (conns : SameOff (some c) s.conn s'.conn) (connLog : s'.connLog = s.connLog) : Beside c [] s s' :=
  ⟨deviceList, fun _ => by rw [dev], fun _ => by rw [dev], conns, by
    rw [connLog, List.append_nil, Function.update_eq_self]⟩

private theorem refl (s : Mux) : Beside c [] s s := .quiet rfl rfl (.refl _ _) rfl

private theorem trans (first : Beside c events s s') (second : Beside c events' s' s'') :
    Beside c (events ++ events') s s'' :=
  ⟨second.deviceList.trans first.deviceList, fun d => (second.states d).trans (first.states d),
    fun d => (second.connections d).trans (first.connections d), first.conns.trans second.conns, by
    rw [second.logs, first.logs, Function.update_self, Function.update_idem, List.append_assoc]⟩

private theorem setConn (s : Mux) (c : ConnPtr) (m : MuxConnection) : Beside c [] s (s.setConn c m) :=
  .quiet rfl rfl (.update s.conn c _) rfl

theorem log (beside : Beside c events s s') : s'.connLog c = s.connLog c ++ events := by
  rw [beside.logs, Function.update_self]

theorem otherLogs (beside : Beside c events s s') : SameOff (some c) s.connLog s'.connLog := by
  rw [beside.logs]
  exact .update s.connLog c _

private theorem sole (beside : Beside c events s s') {k : ClientPtr} (alone : s.Sole c k) : s'.Sole c k := by
  intro d listed c' member owned
  by_contra other
  have record := beside.conns c' (by simpa using other)
  rw [Mux.hasClient, record] at owned
  exact other (alone d (beside.deviceList ▸ listed) c' (beside.connections d ▸ member) owned)

end Beside

private theorem Mux.Sole.found {s : Mux} {c c' : ConnPtr} {k : ClientPtr} (sole : s.Sole c k) {deviceId : ℕ}
    (found : getMuxConnection deviceId k s = some c') : c' = c := by
  obtain ⟨d, listed, member, owned⟩ := getMuxConnection_held found
  exact sole d listed c' member owned

section Sending

variable (env : Env) {s : Mux} {c : ConnPtr} {m : MuxConnection} (present : s.conn c = some m) (flags : UInt8)
  (data : Bytes)
include present

private theorem sendTcp_beside :
    Beside c [.segment (m.header flags) data (sendTcp env c flags data s).1] s (sendTcp env c flags data s).2 := by
  obtain ⟨tick, rxSeq, txSeq, transfers, events, faults, state, -⟩ :=
    sendPacket_state env m.dev .tcp (m.header flags).encode data s
  have packet : Beside c [] s (sendPacket env m.dev .tcp (m.header flags).encode data s).2 := by
    rw [state]
    exact ⟨rfl, Update.same MuxDevice.state rfl, Update.same MuxDevice.connections rfl, .refl _ _,
      by rw [List.append_nil, Function.update_eq_self]⟩
  simp only [sendTcp, present]
  generalize sendPacket env m.dev .tcp (m.header flags).encode data s = r at packet
  have logged : Beside c [.segment (m.header flags) data r.1] r.2
      (r.2.logConn c (.segment (m.header flags) data r.1)) := ⟨rfl, fun _ => rfl, fun _ => rfl, .refl _ _, rfl⟩
  split
  · exact packet.trans (logged.trans (.quiet rfl rfl (.update _ c _) rfl))
  · exact packet.trans logged

/-- What a `send_tcp` that succeeds does to the record. -/
theorem sendTcp_sent (sent : ¬(sendTcp env c flags data s).1 < 0) :
    ∃ now, (sendTcp env c flags data s).2.conn c = some (m.acked now) := by
  simp only [sendTcp, present] at sent ⊢
  generalize sendPacket env m.dev .tcp (m.header flags).encode data s = r at sent ⊢
  rcases Int.lt_or_le r.1 0 with negative | positive
  · rw [if_neg (not_le.mpr negative)] at sent
    exact absurd negative sent
  · rw [if_pos positive]
    exact ⟨_, Function.update_self ..⟩

private theorem sendTcp_refused (refused : (sendTcp env c flags data s).1 < 0) :
    (sendTcp env c flags data s).2.conn c = some m := by
  have untouched := sendPacket_conn env m.dev .tcp (m.header flags).encode data s
  simp only [sendTcp, present] at refused ⊢
  generalize sendPacket env m.dev .tcp (m.header flags).encode data s = r at refused untouched ⊢
  rcases Int.lt_or_le r.1 0 with negative | positive
  · rw [if_neg (not_le.mpr negative), ← present, ← untouched]
    rfl
  · rw [if_pos positive] at refused
    exact absurd refused (not_lt.mpr positive)

end Sending

section Teardown

variable (env : Env) {s : Daemon} {c : ConnPtr} {m : MuxConnection}

/-- Up to the release of the record, the teardown of a connected pair concerns that connection, and it sends
no ACK. -/
private theorem connectionTeardown_beside (present : s.mux.conn c = some m) (connected : m.state = .connected)
    (sole : ∀ k ∈ m.client, s.mux.Sole c k) :
    ∃ events x, Beside c events s.mux x ∧ (∀ event ∈ events, event.isAck = false) ∧
      (connectionTeardown env c s).mux = x.unlink c m.dev := by
  have alive : m.state ≠ .dead := by simp [connected]
  simp only [connectionTeardown, connectionTeardownWith, present, if_neg alive]
  obtain ⟨reset, m₁, beside₁, silent₁, present₁⟩ : ∃ reset m₁,
      Beside c reset s.mux (if m.sendsRst (s.mux.dev m.dev) then s.setMux (sendTcp env c thRst [] s.mux).2 else s).mux ∧
        (∀ event ∈ reset, event.isAck = false) ∧
        (if m.sendsRst (s.mux.dev m.dev) then s.setMux (sendTcp env c thRst [] s.mux).2 else s).mux.conn c =
          some m₁ := by
    split
    · obtain ⟨m₁, after, -⟩ := sendTcp_record env thRst [] present
      exact ⟨_, m₁, sendTcp_beside env present thRst [], by simp [ConnEvent.isAck, MuxConnection.header, thRst, thAck],
        after⟩
    · exact ⟨[], m, .refl _, by simp, present⟩
  generalize (if m.sendsRst (s.mux.dev m.dev) then s.setMux (sendTcp env c thRst [] s.mux).2 else s) = s₁ at *
  split
  · exact ⟨reset, s₁.mux, beside₁, silent₁, rfl⟩
  next k owner =>
  rw [if_neg (by simp [connected])]
  have marked : s₁.mux.modifyConn c (fun m => { m with state := .dead }) =
      s₁.mux.setConn c { m₁ with state := .dead } := by simp only [Mux.modifyConn, present₁]
  rw [marked]
  obtain ⟨tick, flushes, flushed, written⟩ :=
    @flushClient_mux env (s₁.setMux (s₁.mux.setConn c { m₁ with state := .dead })) c k m
  have beside₂ : Beside c flushes s₁.mux
      (flushClient env c k m (s₁.setMux (s₁.mux.setConn c { m₁ with state := .dead }))).mux := by
    rw [flushed]
    exact ⟨rfl, fun _ => rfl, fun _ => rfl, .update s₁.mux.conn c _, rfl⟩
  have present₂ : (flushClient env c k m (s₁.setMux (s₁.mux.setConn c { m₁ with state := .dead }))).mux.conn c =
      some { m₁ with state := .dead } := by
    rw [flushed]
    exact Function.update_self ..
  generalize flushClient env c k m (s₁.setMux (s₁.mux.setConn c { m₁ with state := .dead })) = s₂ at beside₂ present₂ ⊢
  have alone := (beside₁.trans beside₂).sole (sole k owner)
  obtain ⟨faults, m₃, closed⟩ := clientClose_dead env (fun _ _ found => alone.found found) present₂ rfl
  have beside₃ : Beside c [] s₂.mux (clientClose env k s₂).mux := by
    rw [closed]
    exact .quiet rfl rfl (.update _ c _) rfl
  refine ⟨_, _, beside₁.trans (beside₂.trans beside₃), fun event member => ?_, rfl⟩
  rw [List.append_nil] at member
  rcases List.mem_append.mp member with early | late
  · exact silent₁ event early
  · obtain ⟨bytes, rfl⟩ := written event late
    rfl

end Teardown

/-- What becomes of a connection whose ACK is sent: USB takes it and none is pending any more, or the
connection is torn down. -/
inductive AckEffect (c : ConnPtr) (m : MuxConnection) (s s' : Mux) : Prop
  | sent {res : ℤ} {m' : MuxConnection} (accepted : 0 ≤ res)
      (beside : Beside c [.segment (m.header thAck) [] res] s s') (record : s'.conn c = some m')
      (cleared : m'.ackPending = false) (owner : m'.client = m.client)
  | failed {res : ℤ} {tail : List ConnEvent} {x : Mux} (refused : res < 0)
      (beside : Beside c (.segment (m.header thAck) [] res :: tail) s x) (silent : ∀ event ∈ tail, event.isAck = false)
      (released : s' = x.unlink c m.dev)

theorem updateConnection_mux {s : Daemon} {c : ConnPtr} {m : MuxConnection} (present : s.mux.conn c = some m) :
    (updateConnection c s).mux = s.mux.setConn c m.refresh := by
  simp only [updateConnection, present]
  split
  · rfl
  · rfl

/-- `send_tcp_ack` on a connected pair. -/
theorem sendTcpAck_effect (env : Env) {s : Daemon} {c : ConnPtr} {m : MuxConnection} (present : s.mux.conn c = some m)
    (connected : m.state = .connected) (sole : ∀ k ∈ m.client, s.mux.Sole c k) :
    AckEffect c m s.mux (sendTcpAck env c s).mux := by
  have beside := sendTcp_beside env present thAck []
  simp only [sendTcpAck]
  split
  next refused =>
    have present₁ : (s.setMux (sendTcp env c thAck [] s.mux).2).mux.conn c = some m :=
      sendTcp_refused env present thAck [] refused
    obtain ⟨events, x, torn, silent, released⟩ :=
      connectionTeardown_beside env present₁ connected fun k owner => beside.sole (sole k owner)
    exact .failed refused (beside.trans torn) silent released
  next accepted =>
    obtain ⟨now, after⟩ := sendTcp_sent env present thAck [] accepted
    have present₁ : (s.setMux (sendTcp env c thAck [] s.mux).2).mux.conn c = some (m.acked now) := after
    rw [updateConnection_mux present₁]
    refine .sent (not_lt.mp accepted) (beside.trans (.setConn _ c _)) (Function.update_self ..) ?_ rfl
    simp [MuxConnection.refresh, MuxConnection.acked]

end Usbmuxd
