import Usbmuxd.Proofs.Feeding
import Usbmuxd.Proofs.Wires
import Usbmuxd.Soundness.Pairing

/-! # The two byte streams of a connection

What the device sends reaches the client in order and is acknowledged only when it has been written;
what the client sends reaches the device in order and within its window. Runs are arbitrary:
allocations may fail, USB may refuse packets, and clients may ask for any device.
-/

namespace Usbmuxd

open History ConnLog ConnEvent

section Connection

variable (env : Env) (events : List Event) (c : ConnPtr)

/-- The log of a connection keeps its properties whether or not the record still exists. -/
theorem run_logOk : LogOk ((run env events).mux.connLog c) :=
  viewOk_logOk ((run_sound_anything env events).1.conns c).1

variable {env events c} in
/-- An allocated record agrees with its log. -/
theorem run_live {m : MuxConnection} (record : (run env events).mux.conn c = some m) :
    Live m ((run env events).mux.connLog c) := by
  have ok := ((run_sound_anything env events).1.conns c).1
  have viewed : (run env events).sys.conn c = (some m, (run env events).mux.connLog c) := Prod.ext record rfl
  rw [viewed] at ok
  exact ok.1

/-- From the accepted `SYN|ACK` on, what was written to the client and what is buffered is what was
accepted; the counters follow the stream, no segment acknowledges more than was written, and what
is delivered is always a prefix of what was accepted. What a client gets through its tunnel is what its
connection delivers, and nothing else. -/
theorem device_to_client_stream :
    (∀ m seq, (run env events).mux.conn c = some m → synAcks ((run env events).mux.connLog c) = [seq] →
      wrote ((run env events).mux.connLog c) ++ m.ibBuf = accepted ((run env events).mux.connLog c) ∧
      delivered ((run env events).mux.connLog c) = wrote ((run env events).mux.connLog c) ∧
      m.txAck = 1 + UInt32.ofNat (wrote ((run env events).mux.connLog c)).length ∧
      m.rxRecvd = seq + UInt32.ofNat (accepted ((run env events).mux.connLog c)).length ∧
      m.rxRecvd - seq = m.txAck - 1 + m.ibSize) ∧
    (∀ before th data res after, (run env events).mux.connLog c = before ++ segment th data res :: after →
      (synAcks before = [] → th.ack = 0) ∧
      (synAcks before ≠ [] → th.ack = 1 + UInt32.ofNat (wrote before).length)) ∧
    delivered ((run env events).mux.connLog c) <+: accepted ((run env events).mux.connLog c) ∧
    (synAcks ((run env events).mux.connLog c)).length ≤ 1 ∧
    (∃ feed, Fed feed (run env events)) := by
  have ok := run_logOk env events c
  refine ⟨fun m seq record opened => ?_, fun before th data res after split => ?_, ok.delivered, ok.once,
    run_fed env events⟩
  · have live := run_live record
    obtain ⟨_, txAck, rxRecvd⟩ := live.counters seq opened
    have stream : wrote ((run env events).mux.connLog c) ++ m.ibBuf = accepted ((run env events).mux.connLog c) := by
      rw [live.counted, live.stream]
    refine ⟨stream, live.counted.symm, txAck, rxRecvd, ?_⟩
    have total := congrArg List.length stream
    rw [List.length_append] at total
    rw [rxRecvd, txAck, ← total, MuxConnection.ibSize, UInt32.ofNat_add, UInt32.add_comm seq, UInt32.add_sub_cancel,
      UInt32.add_comm 1, UInt32.add_sub_cancel]
  · obtain ⟨unopened, opened⟩ := ok.numbered before _ after split
    exact ⟨fun early => (unopened early).2.1, fun late => (opened late).2⟩

/-- Every data segment fits the window the device announced last, the out-buffer and the largest USB
packet, and the allowance that the next one is cut to is never stale. -/
theorem data_segments_fit :
    (∀ before th data res after, (run env events).mux.connLog c = before ++ segment th data res :: after → data ≠ [] →
      ∃ ack win, lastRx before = some (ack, win) ∧ (th.seq - ack).toNat + data.length ≤ win.toNat ∧
        data.length ≤ connOutbufSize.toNat ∧ ∀ version, muxHeaderSize version + 20 + data.length ≤ usbMtu) ∧
    (∀ m, (run env events).mux.conn c = some m → m.state = .connected → ∀ size, 0 < size → size ≤ m.sendable.toNat →
      lastRx ((run env events).mux.connLog c) = some (m.rxAck, m.rxWin) ∧
      (m.txSeq - m.rxAck).toNat + size ≤ m.rxWin.toNat ∧ size ≤ m.obCapacity.toNat ∧
      ∀ version, muxHeaderSize version + 20 + size ≤ usbMtu) := by
  have header (version : ℕ) : muxHeaderSize version ≤ 16 := by
    simp only [muxHeaderSize]
    split <;> omega
  refine ⟨fun before th data res after split carries => ?_, fun m record opened size positive room => ?_⟩
  · obtain ⟨ack, win, seen, inside, buffered, packet⟩ := (run_logOk env events c).fits before _ after split carries
    refine ⟨ack, win, seen, inside, buffered, fun version => ?_⟩
    have := header version
    omega
  · have live := run_live record
    have viewed : (run env events).sys.conn c = (some m, (run env events).mux.connLog c) := Prod.ext record rfl
    have settled := ((run_sound_anything env events).1.conns c).2
    rw [viewed] at settled
    have fresh : m.sendable = m.sendableNow := by
      rcases settled with ⟨waiting, _⟩ | ⟨_, _, fresh⟩
      · simp [opened] at waiting
      · exact congrArg MuxConnection.sendable fresh.symm
    rw [fresh] at room
    have inside := m.sendableNow_window positive room
    have buffered := UInt32.le_iff_toNat_le.mp m.sendableNow_le_obCapacity
    have packet := UInt32.le_iff_toNat_le.mp m.sendableNow_le_maxPayload
    have largest : m.maxPayload.toNat = usbMtu - 36 := by
      rw [live.maxPayload]
      decide
    refine ⟨?_, inside, by omega, fun version => ?_⟩
    · rcases live.window with seen | ⟨_, closed⟩
      · exact seen
      · simp [closed] at inside
        omega
    · have := header version
      have : usbMtu = 49152 := rfl
      omega

end Connection

end Usbmuxd
