import Usbmuxd.Machine.ConnectionLog

/-! # Streams, numbers and windows of a connection

Every step of the connection machine keeps the record in agreement with its log. What remains of
the agreement when the record is gone is a property of the log alone.
-/

namespace Usbmuxd

open History ConnLog ConnEvent

namespace MuxConnection

theorem sendableNow_le_obCapacity (m : MuxConnection) : m.sendableNow ≤ m.obCapacity := by
  simp only [sendableNow]
  split_ifs with h1 h2 h2 <;> simp only [UInt32.le_iff_toNat_le, GT.gt, UInt32.lt_iff_toNat_lt] at * <;> omega

theorem sendableNow_le_maxPayload (m : MuxConnection) : m.sendableNow ≤ m.maxPayload := by
  simp only [sendableNow]
  split_ifs with h1 h2 h2 <;> simp only [UInt32.le_iff_toNat_le, GT.gt, UInt32.lt_iff_toNat_lt] at * <;> omega

/-- Whatever may be sent fits into the peer's window behind what is in flight. -/
theorem sendableNow_window (m : MuxConnection) {size : ℕ} (positive : 0 < size)
    (room : size ≤ m.sendableNow.toNat) : (m.txSeq - m.rxAck).toNat + size ≤ m.rxWin.toNat := by
  have cut : m.sendableNow ≤ if m.rxWin > m.txSeq - m.rxAck then m.rxWin - (m.txSeq - m.rxAck) else 0 := by
    simp only [sendableNow]
    split_ifs <;> simp only [UInt32.le_iff_toNat_le, GT.gt, UInt32.lt_iff_toNat_lt] at * <;> omega
  rw [UInt32.le_iff_toNat_le] at cut
  split_ifs at cut with inside
  · rw [UInt32.toNat_sub_of_le _ _ (UInt32.le_of_lt inside)] at cut
    rw [gt_iff_lt, UInt32.lt_iff_toNat_lt] at inside
    omega
  · simp at cut
    omega

end MuxConnection

/-- The properties a log keeps for ever. -/
structure LogOk (log : List ConnEvent) : Prop where
  numbered : Each SegmentNumbered log
  fits : Each SegmentFits log
  delivered : delivered log <+: accepted log
  forwarded : Unfailed log → payload log = read log
  failures : FailuresFinal log
  once : (synAcks log).length ≤ 1

/-- The agreement of an allocated record with its log. -/
structure Live (m : MuxConnection) (log : List ConnEvent) : Prop where
  stream : delivered log ++ m.ibBuf = accepted log
  counted : wrote log = delivered log
  forwarded : payload log = read log
  closed : synAcks log = [] → m.txSeq = 0 ∧ m.txAck = 0 ∧ accepted log = [] ∧ payload log = []
  counters : ∀ seq, synAcks log = [seq] →
    m.txSeq = 1 + UInt32.ofNat (payload log).length ∧ m.txAck = 1 + UInt32.ofNat (wrote log).length ∧
      m.rxRecvd = seq + UInt32.ofNat (accepted log).length
  window : lastRx log = some (m.rxAck, m.rxWin) ∨ lastRx log = none ∧ m.rxWin = 0
  ibCapacity : m.ibCapacity = connInbufSize
  obCapacity : m.obCapacity = connOutbufSize
  maxPayload : m.maxPayload = UInt32.ofNat (usbMtu - 16 - 20)
  txWin : m.txWin = 131072
  unfailed : Unfailed log

/-- The invariant of a connection as seen from outside. -/
def ViewOk : ConnView → Prop
  | (some m, log) => Live m log ∧ LogOk log
  | (none, log) => LogOk log

theorem viewOk_logOk {view : ConnView} (ok : ViewOk view) : LogOk view.2 := by
  rcases view with ⟨_ | m, log⟩
  · exact ok
  · exact ok.2

theorem logOk_nil : LogOk [] where
  numbered := each_nil _
  fits := each_nil _
  delivered := List.nil_prefix
  forwarded := fun _ => rfl
  failures := by intro before th data res after split; simp at split
  once := by simp [synAcks]

/-- A log without failed data segments cannot violate their finality. -/
private theorem failuresFinal_of_unfailed {log : List ConnEvent} (unfailed : Unfailed log) : FailuresFinal log := by
  intro before th data res after split nonempty negative
  have := unfailed th data res (by simp [split]) nonempty
  omega

private theorem unfailed_append {log batch : List ConnEvent} (prior : Unfailed log) (later : Unfailed batch) :
    Unfailed (log ++ batch) := by
  intro th data res member
  rcases List.mem_append.mp member with member | member
  · exact prior th data res member
  · exact later th data res member

/-- A live agreement supplies the parts of the log property that speak about the streams. -/
private theorem logOk_of_live {m : MuxConnection} {log : List ConnEvent} (live : Live m log)
    (numbered : Each SegmentNumbered log) (fits : Each SegmentFits log) (once : (synAcks log).length ≤ 1) :
    LogOk log where
  numbered := numbered
  fits := fits
  delivered := ⟨m.ibBuf, live.stream⟩
  forwarded := fun _ => live.forwarded
  failures := failuresFinal_of_unfailed live.unfailed
  once := once

private theorem synAcks_cases {log : List ConnEvent} (ok : LogOk log) :
    synAcks log = [] ∨ ∃ seq, synAcks log = [seq] := by
  have once := ok.once
  rcases h : synAcks log with _ | ⟨seq, _ | ⟨other, rest⟩⟩
  · exact .inl rfl
  · exact .inr ⟨seq, rfl⟩
  · simp [h] at once

private theorem header_numbered {m : MuxConnection} {log : List ConnEvent} (live : Live m log) (ok : LogOk log)
    (flags : UInt8) (data : Bytes) (res : ℤ) (silent : synAcks log = [] → data = []) :
    SegmentNumbered log (segment (m.header flags) data res) := by
  refine ⟨fun unopened => ?_, fun isOpen => ?_⟩
  · obtain ⟨seq, ack, nothing, _⟩ := live.closed unopened
    have unwritten : delivered log = [] := (List.append_eq_nil_iff.mp (live.stream.trans nothing)).1
    exact ⟨seq, ack, silent unopened, live.counted.trans unwritten⟩
  · obtain unopened | ⟨seq, isOpened⟩ := synAcks_cases ok
    · exact absurd unopened isOpen
    · obtain ⟨txSeq, txAck, _⟩ := live.counters seq isOpened
      exact ⟨txSeq, txAck⟩

private theorem newConnection_live (d : DevPtr) (k : ClientPtr) (sport dport : UInt16) :
    Live (newConnection d k sport dport) [] where
  stream := rfl
  counted := rfl
  forwarded := rfl
  closed := fun _ => ⟨rfl, rfl, rfl, rfl⟩
  counters := by simp
  window := .inr ⟨rfl, rfl⟩
  ibCapacity := rfl
  obCapacity := rfl
  maxPayload := rfl
  txWin := rfl
  unfailed := by simp [Unfailed]

private theorem live_congr {m m' : MuxConnection} {log : List ConnEvent} (live : Live m log)
    (ibBuf : m'.ibBuf = m.ibBuf) (txSeq : m'.txSeq = m.txSeq) (txAck : m'.txAck = m.txAck)
    (rxRecvd : m'.rxRecvd = m.rxRecvd) (rxAck : m'.rxAck = m.rxAck) (rxWin : m'.rxWin = m.rxWin)
    (ibCapacity : m'.ibCapacity = m.ibCapacity) (obCapacity : m'.obCapacity = m.obCapacity)
    (maxPayload : m'.maxPayload = m.maxPayload)
    (txWin : m'.txWin = m.txWin) : Live m' log where
  stream := by rw [ibBuf]; exact live.stream
  counted := live.counted
  forwarded := live.forwarded
  closed := by rw [txSeq, txAck]; exact live.closed
  counters := by rw [txSeq, txAck, rxRecvd]; exact live.counters
  window := by rw [rxAck, rxWin]; exact live.window
  ibCapacity := ibCapacity.trans live.ibCapacity
  obCapacity := obCapacity.trans live.obCapacity
  maxPayload := maxPayload.trans live.maxPayload
  txWin := txWin.trans live.txWin
  unfailed := live.unfailed

section Steps

variable {m : MuxConnection} {log : List ConnEvent}

private theorem live_receive (live : Live m log) (th : TcpHdr) :
    Live (m.receive th) (log ++ [rx (m.receive th).rxAck (m.receive th).rxWin]) where
  stream := by simpa [MuxConnection.receive] using live.stream
  counted := by simpa using live.counted
  forwarded := by simpa using live.forwarded
  closed := by simpa [MuxConnection.receive] using live.closed
  counters := by simpa [MuxConnection.receive] using live.counters
  window := .inl (by simp)
  ibCapacity := live.ibCapacity
  obCapacity := live.obCapacity
  maxPayload := live.maxPayload
  txWin := live.txWin
  unfailed := unfailed_append live.unfailed (by simp [Unfailed])

private theorem live_opened (live : Live m log) (first : synAcks log = []) :
    Live m.opened (log ++ [synAck m.rxSeq]) := by
  obtain ⟨txSeq, txAck, noAccepted, noPayload⟩ := live.closed first
  have noDelivered : delivered log = [] :=
    (List.append_eq_nil_iff.mp (live.stream.trans noAccepted)).1
  have noWrote : wrote log = [] := live.counted.trans noDelivered
  refine ⟨?_, ?_, ?_, ?_, ?_, ?_, live.ibCapacity, live.obCapacity, live.maxPayload, live.txWin,
    unfailed_append live.unfailed (by simp [Unfailed])⟩
  · simpa [MuxConnection.opened] using live.stream
  · simpa using live.counted
  · simpa using live.forwarded
  · simp [first]
  · intro seq only
    have same : m.rxSeq = seq := by simpa [first] using only
    simp [MuxConnection.opened, txSeq, txAck, noPayload, noWrote, noAccepted, same]
  · simpa [MuxConnection.opened] using live.window

private theorem live_segment (live : Live m log) (flags : UInt8) (res : ℤ) :
    Live m (log ++ [segment (m.header flags) [] res]) where
  stream := by simpa using live.stream
  counted := by simpa using live.counted
  forwarded := by simpa using live.forwarded
  closed := by simpa using live.closed
  counters := by simpa using live.counters
  window := by simpa using live.window
  ibCapacity := live.ibCapacity
  obCapacity := live.obCapacity
  maxPayload := live.maxPayload
  txWin := live.txWin
  unfailed := unfailed_append live.unfailed (by simp +contextual [Unfailed])

private theorem live_accept (live : Live m log) (isOpen : synAcks log ≠ []) (bytes : Bytes) :
    Live (m.accept bytes) (log ++ [accepted bytes]) where
  stream := by simp [MuxConnection.accept, ← live.stream]
  counted := by simpa using live.counted
  forwarded := by simpa using live.forwarded
  closed := by simpa using fun unopened => absurd unopened isOpen
  counters := by
    intro seq only
    obtain ⟨txSeq, txAck, rxRecvd⟩ := live.counters seq (by simpa using only)
    simp [MuxConnection.accept, txSeq, txAck, rxRecvd, UInt32.ofNat_add, UInt32.add_assoc]
  window := by simpa [MuxConnection.accept] using live.window
  ibCapacity := live.ibCapacity
  obCapacity := live.obCapacity
  maxPayload := live.maxPayload
  txWin := live.txWin
  unfailed := unfailed_append live.unfailed (by simp [Unfailed])

private theorem live_drain (live : Live m log) {size : ℕ} (bound : size ≤ m.ibBuf.length) :
    Live { m.shift size with txAck := m.txAck + UInt32.ofNat size } (log ++ [wrote (m.ibBuf.take size)]) := by
  refine ⟨?_, ?_, ?_, ?_, ?_, ?_, live.ibCapacity, live.obCapacity, live.maxPayload, live.txWin,
    unfailed_append live.unfailed (by simp [Unfailed])⟩
  · simpa [MuxConnection.shift] using live.stream
  · simp [live.counted]
  · simpa using live.forwarded
  · intro unopened
    obtain ⟨txSeq, txAck, noAccepted, noPayload⟩ := live.closed (by simpa using unopened)
    have empty : m.ibBuf = [] := (List.append_eq_nil_iff.mp (live.stream.trans noAccepted)).2
    have zero : size = 0 := by simpa [empty] using bound
    simp [MuxConnection.shift, txSeq, txAck, noAccepted, noPayload, zero]
  · intro seq only
    obtain ⟨txSeq, txAck, rxRecvd⟩ := live.counters seq (by simpa using only)
    simp [MuxConnection.shift, txSeq, txAck, rxRecvd, UInt32.ofNat_add, UInt32.add_assoc, Nat.min_eq_left bound]
  · simpa [MuxConnection.shift] using live.window

private theorem live_data (live : Live m log) (isOpen : synAcks log ≠ []) (bytes : Bytes) {res : ℤ}
    (sent : 0 ≤ res) (now : UInt64) :
    Live { m.acked now with txSeq := m.txSeq + UInt32.ofNat bytes.length }
      (log ++ [read bytes, segment (m.header thAck) bytes res]) := by
  refine ⟨?_, ?_, ?_, ?_, ?_, ?_, live.ibCapacity, live.obCapacity, live.maxPayload, live.txWin,
    unfailed_append live.unfailed (by simp +contextual [Unfailed, sent])⟩
  · simpa [MuxConnection.acked] using live.stream
  · simpa using live.counted
  · simp [live.forwarded, sent]
  · simpa using fun unopened => absurd unopened isOpen
  · intro seq only
    obtain ⟨txSeq, txAck, rxRecvd⟩ := live.counters seq (by simpa using only)
    simp [MuxConnection.acked, txSeq, txAck, rxRecvd, sent, UInt32.ofNat_add, UInt32.add_assoc]
  · simpa [MuxConnection.acked] using live.window

private theorem logOk_segment (live : Live m log) (ok : LogOk log) (flags : UInt8) (res : ℤ) :
    LogOk (log ++ [segment (m.header flags) [] res]) :=
  logOk_of_live (live_segment live flags res)
    (each_snoc ok.numbered (header_numbered live ok flags [] res fun _ => rfl))
    (each_snoc ok.fits fun nonempty => absurd rfl nonempty) (by simpa using ok.once)

/-- A data segment of a fresh record respects the window last received. -/
private theorem data_fits (live : Live m log) (bytes : Bytes) (flags : UInt8) (res : ℤ)
    (fresh : m.sendable = m.sendableNow) (room : bytes.length ≤ m.sendable.toNat) :
    SegmentFits log (segment (m.header flags) bytes res) := by
  intro nonempty
  have positive : 0 < bytes.length := List.length_pos_iff.mpr nonempty
  rw [fresh] at room
  have inside := m.sendableNow_window positive room
  have capacity := UInt32.le_iff_toNat_le.mp m.sendableNow_le_obCapacity
  have largest := UInt32.le_iff_toNat_le.mp m.sendableNow_le_maxPayload
  rw [live.obCapacity] at capacity
  rw [live.maxPayload] at largest
  rcases live.window with known | ⟨_, shut⟩
  · refine ⟨m.rxAck, m.rxWin, known, inside, by omega, ?_⟩
    have : (UInt32.ofNat (usbMtu - 16 - 20)).toNat = 49116 := by decide
    simp only [usbMtu]
    omega
  · rw [shut] at inside
    exact absurd inside (by simp only [UInt32.toNat_zero]; omega)

/-- Both entries of a data transmission, whatever becomes of it, are numbered and fit. -/
private theorem data_entries (live : Live m log) (ok : LogOk log) (isOpen : synAcks log ≠ []) (bytes : Bytes) (res : ℤ)
    (fresh : m.sendable = m.sendableNow) (room : bytes.length ≤ m.sendable.toNat) :
    Each SegmentNumbered (log ++ [read bytes, segment (m.header thAck) bytes res]) ∧
      Each SegmentFits (log ++ [read bytes, segment (m.header thAck) bytes res]) := by
  have numbered : SegmentNumbered (log ++ [read bytes]) (segment (m.header thAck) bytes res) := by
    simpa [SegmentNumbered] using header_numbered live ok thAck bytes res fun unopened => absurd unopened isOpen
  have fits : SegmentFits (log ++ [read bytes]) (segment (m.header thAck) bytes res) := by
    simpa [SegmentFits] using data_fits live bytes thAck res fresh room
  rw [List.append_cons]
  exact ⟨each_snoc (each_snoc ok.numbered trivial) numbered, each_snoc (each_snoc ok.fits trivial) fits⟩

end Steps

private theorem Flushes.spec {buffer : Bytes} {flushes : List ConnEvent} (flush : Flushes buffer flushes) :
    delivered flushes <+: buffer ∧ accepted flushes = [] ∧ synAcks flushes = [] ∧
      ∀ event ∈ flushes, ∃ bytes, event = flushed bytes := by
  induction flush with
  | nil buffer => exact ⟨List.nil_prefix, rfl, rfl, by simp⟩
  | @cons buffer size rest positive bound later ih =>
    obtain ⟨⟨remaining, pieces⟩, noAccepted, noSynAck, events⟩ := ih
    refine ⟨⟨remaining, ?_⟩, by simpa using noAccepted, by simpa using noSynAck, ?_⟩
    · simp only [delivered_cons, deliveredBytes, List.append_assoc]
      rw [pieces, List.take_append_drop]
    · intro event member
      rcases List.mem_cons.mp member with rfl | member
      · exact ⟨_, rfl⟩
      · exact events event member

/-- What a teardown appends: no new stream data, no segment but a reset. -/
private theorem TearLog.spec {m : MuxConnection} {tail : List ConnEvent} (tear : TearLog m tail) :
    delivered tail <+: m.ibBuf ∧ accepted tail = [] ∧ synAcks tail = [] ∧
      ∀ th data res, segment th data res ∈ tail → data = [] ∧ th = m.header thRst := by
  cases tear with
  | silent flush =>
    obtain ⟨pieces, noAccepted, noSynAck, events⟩ := flush.spec
    refine ⟨pieces, noAccepted, noSynAck, fun th data res member => ?_⟩
    obtain ⟨bytes, same⟩ := events _ member
    cases same
  | reset res flush =>
    obtain ⟨pieces, noAccepted, noSynAck, events⟩ := flush.spec
    refine ⟨by simpa using pieces, by simpa using noAccepted, by simpa using noSynAck, ?_⟩
    intro th data res' member
    rcases List.mem_cons.mp member with same | member
    · cases same
      exact ⟨rfl, rfl⟩
    · obtain ⟨bytes, same⟩ := events _ member
      cases same

private theorem TearLog.onlyRst {m : MuxConnection} {tail : List ConnEvent} (tear : TearLog m tail) : OnlyRst tail := by
  intro th data res member
  obtain ⟨silent, same⟩ := tear.spec.2.2.2 th data res member
  exact ⟨silent, by rw [same]; rfl⟩

private theorem TearLog.payload_eq_nil {m : MuxConnection} {tail : List ConnEvent} (tear : TearLog m tail) :
    payload tail = [] := by
  apply List.flatMap_eq_nil_iff.mpr
  intro event member
  cases event with
  | segment th data res => simp [(tear.spec.2.2.2 th data res member).1]
  | _ => rfl

private theorem TearLog.read_eq_nil {m : MuxConnection} {tail : List ConnEvent} (tear : TearLog m tail) :
    read tail = [] := by
  have silent {flushes : List ConnEvent} {buffer : Bytes} (flush : Flushes buffer flushes) : read flushes = [] := by
    apply List.flatMap_eq_nil_iff.mpr
    intro event member
    obtain ⟨bytes, rfl⟩ := flush.spec.2.2.2 event member
    rfl
  cases tear with
  | silent flush => exact silent flush
  | reset res flush => simpa using silent flush

private theorem tail_numbered {m : MuxConnection} {log tail : List ConnEvent} (numbers :
    ∀ res, SegmentNumbered log (segment (m.header thRst) [] res)) (tear : TearLog m tail) :
    Each (fun before entry => SegmentNumbered (log ++ before) entry ∧ SegmentFits (log ++ before) entry) tail := by
  intro before event after split
  cases event with
  | segment th data res =>
    -- the only segment is the reset at the head, so nothing of the tail precedes it
    have member : segment th data res ∈ tail := by simp [split]
    obtain ⟨rfl, rfl⟩ := tear.spec.2.2.2 th data res member
    have first : before = [] := by
      cases tear with
      | silent flush =>
        obtain ⟨bytes, same⟩ := flush.spec.2.2.2 _ member
        cases same
      | reset res' flush =>
        cases before with
        | nil => rfl
        | cons head before =>
          have later := (List.cons.inj split).2
          obtain ⟨bytes, same⟩ := flush.spec.2.2.2 (segment (m.header thRst) [] res) (by simp [later])
          cases same
    subst first
    exact ⟨by simpa using numbers res, fun nonempty => absurd rfl nonempty⟩
  | _ => exact ⟨trivial, trivial⟩

private theorem tail_unfailed {m : MuxConnection} {tail : List ConnEvent} (tear : TearLog m tail) : Unfailed tail := by
  intro th data res member nonempty
  exact absurd (tear.spec.2.2.2 th data res member).1 nonempty

/-- Teardown of a record whose last transmissions all went through. -/
private theorem logOk_tear {m : MuxConnection} {log tail : List ConnEvent} (live : Live m log) (ok : LogOk log)
    (tear : TearLog m tail) : LogOk (log ++ tail) := by
  obtain ⟨⟨remaining, pieces⟩, noAccepted, noSynAck, resets⟩ := tear.spec
  have entries := tail_numbered (fun res => header_numbered live ok thRst [] res fun _ => rfl) tear
  refine ⟨each_append ok.numbered (entries.mono fun _ _ both => both.1),
    each_append ok.fits (entries.mono fun _ _ both => both.2), ⟨remaining, ?_⟩, fun _ => ?_, ?_, ?_⟩
  · rw [delivered_append, accepted_append, noAccepted, List.append_nil, List.append_assoc, pieces]
    exact live.stream
  · rw [payload_append, read_append, tear.payload_eq_nil, tear.read_eq_nil, live.forwarded]
  · exact failuresFinal_of_unfailed (unfailed_append live.unfailed (tail_unfailed tear))
  · simpa [noSynAck] using ok.once

/-- Teardown of a record whose last transmission was lost. -/
private theorem logOk_dataFailed {m : MuxConnection} {log tail : List ConnEvent} (live : Live m log) (ok : LogOk log)
    (isOpen : synAcks log ≠ []) (bytes : Bytes) {res : ℤ} (lost : res < 0) (fresh : m.sendable = m.sendableNow)
    (room : bytes.length ≤ m.sendable.toNat) (tear : TearLog m tail) :
    LogOk (log ++ [read bytes, segment (m.header thAck) bytes res] ++ tail) := by
  obtain ⟨⟨remaining, pieces⟩, noAccepted, noSynAck, resets⟩ := tear.spec
  have notSent : ¬0 ≤ res := by omega
  obtain ⟨numbered, fits⟩ := data_entries live ok isOpen bytes res fresh room
  -- the lost segment changes none of the counters, so the reset is numbered as before it
  have resetNumbered (again : ℤ) : SegmentNumbered
      (log ++ [read bytes, segment (m.header thAck) bytes res]) (segment (m.header thRst) [] again) := by
    simpa [SegmentNumbered, notSent] using header_numbered live ok thRst [] again fun _ => rfl
  have entries := tail_numbered resetNumbered tear
  refine ⟨each_append numbered (entries.mono fun _ _ both => both.1),
    each_append fits (entries.mono fun _ _ both => both.2), ⟨remaining, ?_⟩, fun unfailed => ?_, ?_, ?_⟩
  · simpa [noAccepted, pieces] using live.stream
  · have empty : bytes = [] := by
      by_contra nonempty
      exact notSent (unfailed (m.header thAck) bytes res (by simp) nonempty)
    simp [empty, tear.payload_eq_nil, tear.read_eq_nil, live.forwarded]
  · intro before th data res' after split nonempty negative
    have shape : (log ++ [read bytes]) ++ segment (m.header thAck) bytes res :: tail =
        before ++ segment th data res' :: after := by simpa using split
    -- a lost data segment is the one in the middle: those before were sent, those behind are empty
    rcases List.append_eq_append_iff.mp shape with ⟨extra, _, rest⟩ | ⟨extra, start, rest⟩
    · cases extra with
      | nil =>
        obtain ⟨_, rfl⟩ := List.cons.inj rest
        exact tear.onlyRst
      | cons head extra =>
        have member : segment th data res' ∈ tail := by simp [(List.cons.inj rest).2]
        exact absurd (resets th data res' member).1 nonempty
    · cases extra with
      | nil =>
        obtain ⟨_, rfl⟩ := List.cons.inj rest
        exact tear.onlyRst
      | cons head extra =>
        have member : segment th data res' ∈ log ++ [read bytes] := by
          rw [start]
          simp [(List.cons.inj rest).1]
        have sent := live.unfailed th data res' (by simpa using member) nonempty
        omega
  · simpa [noSynAck] using ok.once

private theorem ConnStep.viewOk {hears : Bytes → Prop} {view view' : ConnView} (change : ConnStep hears view view')
    (ok : ViewOk view) : ViewOk view' := by
  cases change with
  | create d k sport dport => exact ⟨newConnection_live d k sport dport, logOk_nil⟩
  | receive m log th =>
    have live := live_receive ok.1 th
    exact ⟨live, logOk_of_live live (each_snoc ok.2.numbered trivial) (each_snoc ok.2.fits trivial)
      (by simpa using ok.2.once)⟩
  | opened m log first =>
    have live := live_opened ok.1 first
    exact ⟨live, logOk_of_live live (each_snoc ok.2.numbered trivial) (each_snoc ok.2.fits trivial)
      (by simp [first])⟩
  | mark m log state => exact ⟨live_congr ok.1 rfl rfl rfl rfl rfl rfl rfl rfl rfl rfl, ok.2⟩
  | forget m log => exact ⟨live_congr ok.1 rfl rfl rfl rfl rfl rfl rfl rfl rfl rfl, ok.2⟩
  | segmentSent m log flags res now sent =>
    have live : Live (m.acked now) (log ++ [segment (m.header flags) [] res]) :=
      live_congr (live_segment ok.1 flags res) rfl rfl rfl rfl rfl rfl rfl rfl rfl rfl
    exact ⟨live, logOk_segment ok.1 ok.2 flags res⟩
  | segmentFailed m log flags res lost => exact ⟨live_segment ok.1 flags res, logOk_segment ok.1 ok.2 flags res⟩
  | accept m log payload isOpen given =>
    have live := live_accept ok.1 isOpen payload
    exact ⟨live, logOk_of_live live (each_snoc ok.2.numbered trivial) (each_snoc ok.2.fits trivial)
      (by simpa using ok.2.once)⟩
  | refresh m log => exact ⟨live_congr ok.1 rfl rfl rfl rfl rfl rfl rfl rfl rfl rfl, ok.2⟩
  | drain m log size bound =>
    have live := live_drain ok.1 bound
    exact ⟨live, logOk_of_live live (each_snoc ok.2.numbered trivial) (each_snoc ok.2.fits trivial)
      (by simpa using ok.2.once)⟩
  | data m log bytes res now isOpen sent fresh room =>
    have live := live_data ok.1 isOpen bytes sent now
    obtain ⟨numbered, fits⟩ := data_entries ok.1 ok.2 isOpen bytes res fresh room
    exact ⟨live, logOk_of_live live numbered fits (by simpa using ok.2.once)⟩
  | dataFailed m log tail bytes res isOpen lost fresh room tear =>
    exact logOk_dataFailed ok.1 ok.2 isOpen bytes lost fresh room tear
  | tear m log tail tear => exact logOk_tear ok.1 ok.2 tear

/-- The invariant holds along every run of the machine. -/
theorem ConnRun.viewOk {hears : Bytes → Prop} {view view' : ConnView} (changes : ConnRun hears view view')
    (ok : ViewOk view) : ViewOk view' := by
  induction changes with
  | refl => exact ok
  | tail _ change ih => exact change.viewOk ih

/-- The record knows the acknowledgement number of the last segment handed over. -/
def Acked : ConnView → Prop
  | (some m, log) => m.txAcked = (sentAcks log).getLast?.getD 0
  | (none, _) => True

private theorem ConnStep.acked {hears : Bytes → Prop} {view view' : ConnView} (change : ConnStep hears view view')
    (known : Acked view) : Acked view' := by
  cases change with
  | create d k sport dport => rfl
  | segmentSent m log flags res now sent =>
    simp [Acked, sentAcks, sent, MuxConnection.acked, MuxConnection.header]
  | segmentFailed m log flags res lost =>
    have failed : ¬0 ≤ res := by omega
    simpa [Acked, sentAcks, failed] using known
  | data m log bytes res now isOpen sent fresh room =>
    simp [Acked, sentAcks, sent, MuxConnection.acked, MuxConnection.header]
  | dataFailed m log tail bytes res isOpen lost fresh room tear => trivial
  | tear m log tail tear => trivial
  | _ =>
    simpa [Acked, sentAcks, MuxConnection.receive, MuxConnection.opened, MuxConnection.accept, MuxConnection.refresh,
      MuxConnection.shift] using known

theorem ConnRun.acked {hears : Bytes → Prop} {view view' : ConnView} (changes : ConnRun hears view view')
    (known : Acked view) : Acked view' := by
  induction changes with
  | refl => exact known
  | tail _ change ih => exact change.acked ih

private theorem ConnStep.mono {hears hears' : Bytes → Prop} {view view' : ConnView}
    (more : ∀ bytes, hears bytes → hears' bytes)
    (change : ConnStep hears view view') : ConnStep hears' view view' := by
  cases change with
  | accept m log payload isOpen given => exact .accept m log payload isOpen (more payload given)
  | _ => constructor <;> assumption

theorem ConnRun.mono {hears hears' : Bytes → Prop} {view view' : ConnView} (more : ∀ bytes, hears bytes → hears' bytes)
    (changes : ConnRun hears view view') : ConnRun hears' view view' :=
  changes.lift id fun _ _ change => change.mono more

/-- A connection that hears nothing takes nothing. -/
theorem ConnRun.deaf {hears : Bytes → Prop} {view view' : ConnView} (silent : ∀ bytes, ¬hears bytes)
    (changes : ConnRun hears view view') : accepted view'.2 = accepted view.2 := by
  induction changes with
  | refl => rfl
  | tail _ change ih =>
    rw [← ih]
    cases change with
    | accept m log payload isOpen given => exact absurd given (silent payload)
    | dataFailed m log tail bytes res isOpen lost fresh room tear => simp [tear.spec.2.1]
    | tear m log tail tear => simp [tear.spec.2.1]
    | _ => simp

/-- Logs only grow. -/
theorem ConnRun.log_grows {hears : Bytes → Prop} {view view' : ConnView} (changes : ConnRun hears view view') :
    view.2 <+: view'.2 := by
  induction changes with
  | refl => exact List.prefix_refl _
  | tail _ change ih =>
    refine ih.trans ?_
    cases change with
    | dataFailed m log tail bytes res isOpen lost fresh room tear =>
      exact ⟨[read bytes, segment (m.header thAck) bytes res] ++ tail, by simp⟩
    | _ => simp

end Usbmuxd
