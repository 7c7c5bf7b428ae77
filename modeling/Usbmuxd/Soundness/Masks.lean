import Usbmuxd.Soundness.Streams

/-! # Poll masks and owed acknowledgements

Six fields of two records say what the daemon waits for: the masks of a connection and of its
client, the masks that wait for a reply to be sent, the sizes of the two buffers and the flag of an
owed acknowledgement. Between any two events they are coherent, so nothing that could move on is
left without the event that moves it.
-/

namespace Usbmuxd

open ConnLog ConnEvent

/-- The acknowledgement number in the last segment that was handed to USB. -/
def lastAck (log : List ConnEvent) : Option UInt32 := (sentAcks log).getLast?

/-- An open connection is polled for what it can do, and knows whether it owes an acknowledgement. -/
structure MuxConnection.Coherent (m : MuxConnection) (log : List ConnEvent) : Prop where
  readable : m.events.pollin = true ↔ m.rxWin > m.txSeq - m.rxAck
  writable : m.events.pollout = true ↔ m.ibSize > 0
  owed : ∃ ack, lastAck log = some ack ∧ (m.ackPending = true ↔ m.txAck ≠ ack)

namespace Daemon

/-- No message for this client was written past the end of its output buffer, which C leaves undefined. -/
def Intact (s : Daemon) (k : ClientPtr) : Prop := .overrun k ∉ s.clients.faults

/-- The client of an open connection is polled for what the connection asks for, at once or when the
reply to its request has left. -/
structure Follows (s : Daemon) (m : MuxConnection) (k : ClientPtr) (client : MuxClient) : Prop where
  state : client.state = .connecting2 ∨ client.state = .connected
  connected : client.state = .connected → client.events = m.events
  replying : client.state = .connecting2 → client.devents = m.events ∧
    (s.Intact k → client.events = ⟨false, true⟩ ∧ client.obSize > 0)

/-- The masks of a state. -/
structure Coherent (s : Daemon) : Prop where
  connections : ∀ c m, s.mux.conn c = some m → m.state = .connected →
    m.Coherent (s.mux.connLog c) ∧ ∃ k ∈ s.clients.clientList, ∃ client,
      m.client = some k ∧ s.clients.client k = some client ∧ s.Follows m k client
  clients : ∀ k client, s.clients.client k = some client →
    client.state = .command ∨ client.state = .listen ∨ client.state = .connecting1 →
      client.events.pollin = true ∧ (s.Intact k → (client.events.pollout = true ↔ client.obSize > 0))

end Daemon

/-- The allowance is only cut off by the window: the out-buffer and the largest payload are not empty. -/
private theorem MuxConnection.sendableNow_pos {m : MuxConnection} (obCapacity : 0 < m.obCapacity)
    (maxPayload : 0 < m.maxPayload) :
    m.sendableNow > 0 ↔ m.rxWin > m.txSeq - m.rxAck := by
  simp only [sendableNow]
  by_cases inside : m.rxWin > m.txSeq - m.rxAck
  · have room : 0 < m.rxWin - (m.txSeq - m.rxAck) := by
      rw [gt_iff_lt, UInt32.lt_iff_toNat_lt] at inside
      rw [UInt32.lt_iff_toNat_lt, UInt32.toNat_sub_of_le _ _ (UInt32.le_iff_toNat_le.mpr (by omega))]
      simpa using inside
    refine iff_of_true ?_ inside
    rw [if_pos inside]
    split
    · split <;> assumption
    · split <;> assumption
  · refine iff_of_false ?_ inside
    rw [if_neg inside, if_neg (by simp), if_neg (by simp)]
    simp

private theorem Established.lastAck {log : List ConnEvent} (shown : Established log) :
    ∃ ack, lastAck log = some ack := by
  obtain ⟨before, seq, th, res, after, rfl, _, sent⟩ := shown
  have member : th.ack ∈ sentAcks (before ++ synAck seq :: segment th [] res :: after) :=
    List.mem_filterMap.mpr ⟨segment th [] res, by simp, by simp [sent]⟩
  exact ⟨_, List.getLast?_eq_some_getLast (List.ne_nil_of_mem member)⟩

section Masks

variable {lax : Laxity} {s : Daemon} (sound : Sound lax s.sys)
include sound

private theorem Sound.connection_coherent {c : ConnPtr} {m : MuxConnection} (record : s.mux.conn c = some m)
    (opened : m.state = .connected) : m.Coherent (s.mux.connLog c) := by
  have viewed : s.sys.conn c = (some m, s.mux.connLog c) := Prod.ext record rfl
  have known := sound.conns c
  have acked := sound.acked c
  rw [viewed] at known acked
  obtain ⟨⟨live, _⟩, settled⟩ := known
  obtain ⟨shown, fresh⟩ : Established (s.mux.connLog c) ∧ m.refresh = m := by
    rcases settled with ⟨waiting, _⟩ | ⟨_, settled⟩
    · simp [opened] at waiting
    · exact settled
  have pollin : m.events.pollin = decide (m.sendableNow > 0) := congrArg (·.events.pollin) fresh.symm
  have pollout : m.events.pollout = decide (m.ibSize ≠ 0) := congrArg (·.events.pollout) fresh.symm
  have pending : m.ackPending = decide (m.txAcked ≠ m.txAck) := congrArg (·.ackPending) fresh.symm
  have buffered : 0 < m.obCapacity := by
    rw [live.obCapacity]
    decide
  have payload : 0 < m.maxPayload := by
    rw [live.maxPayload]
    decide
  obtain ⟨ack, last⟩ := shown.lastAck
  have acked : m.txAcked = ack := by
    have acked : m.txAcked = (lastAck (s.mux.connLog c)).getD 0 := acked
    rw [acked, last, Option.getD_some]
  refine ⟨?_, ?_, ack, last, ?_⟩
  · rw [pollin, decide_eq_true_iff]
    exact MuxConnection.sendableNow_pos buffered payload
  · rw [pollout, decide_eq_true_iff]
    exact UInt32.pos_iff_ne_zero.symm
  · rw [pending, decide_eq_true_iff, acked]
    exact ne_comm

theorem Sound.client_ok {k : ClientPtr} {client : MuxClient} (present : s.clients.client k = some client) :
    ClientOk (.overrun k ∈ s.sys.harm) client (s.clients.log k) := by
  have viewed : s.sys.client k = (some client, s.clients.log k) := Prod.ext present rfl
  have ok := sound.clients k
  rwa [viewed] at ok

omit sound in
theorem Daemon.Intact.unhurt {k : ClientPtr} (intact : s.Intact k) : .overrun k ∉ s.sys.harm :=
  fun member => intact (List.mem_of_mem_filter member)

private theorem Sound.follows {c : ConnPtr} {m : MuxConnection} (record : s.mux.conn c = some m)
    (opened : m.state = .connected) :
    ∃ k ∈ s.clients.clientList, ∃ client, m.client = some k ∧ s.clients.client k = some client ∧
      s.Follows m k client := by
  have holds : s.sys.Holds m.dev c := sound.rooted.held c m record opened
  obtain ⟨m', k, client, record', _, owner, present, _, fits⟩ := sound.linked.links.held m.dev c holds
  obtain rfl : m' = m := Option.some.inj (record'.symm.trans record)
  have present : s.clients.client k = some client := present
  have ok := sound.client_ok present
  have devents := fits.masks opened
  refine ⟨k, (sound.linked.roster.listed k).mpr (by simp [Daemon.sys, present]), client, owner, present,
    ConnState.fits_connected (opened ▸ fits.state), fun connected => ?_, fun replying => ⟨devents, fun intact => ?_⟩⟩
  · rw [ok.masks.tunnel connected, devents]
  · obtain ⟨events, unsent⟩ := (ok.sizes.resolve_left intact.unhurt).told replying
    exact ⟨events, UInt32.pos_iff_ne_zero.mpr unsent⟩

private theorem Sound.coherent : s.Coherent where
  connections c m record opened := ⟨sound.connection_coherent record opened, sound.follows record opened⟩
  clients k client present state := by
    have ok := sound.client_ok present
    have framed : client.state.framed := by rcases state with state | state | state <;> rw [state] <;> rfl
    refine ⟨ok.masks.framed framed, fun intact => ?_⟩
    rw [(ok.sizes.resolve_left intact.unhurt).framed framed, decide_eq_true_iff]
    exact UInt32.pos_iff_ne_zero.symm

end Masks

/-- In every state of every run, each buffered byte, each open window and each owed acknowledgement
comes with the event or the flag that will serve it. -/
theorem run_masks_coherent (env : Env) (events : List Event) : (run env events).Coherent :=
  (run_sound_anything env events).1.coherent

/-- The session leaves an open connection whose client is still being sent its reply. -/
example : ((run sessionEnv session).mux.conn 0).map (fun m => (m.state, m.events, m.ackPending)) =
      some (.connected, ⟨true, false⟩, false) ∧
    ((run sessionEnv session).clients.client 0).map (fun client => (client.state, client.events, client.devents)) =
      some (.connecting2, ⟨false, true⟩, ⟨true, false⟩) := by
  decide +kernel

end Usbmuxd
