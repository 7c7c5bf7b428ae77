import Usbmuxd.Proofs.Acknowledge
import Usbmuxd.Soundness.Isolation
import Usbmuxd.Soundness.Window

/-! # Sockets that would block

`client_write` gives zero when the socket would block, and `client_read` gives a negative number. The
flush of `connection_teardown` takes zero for a reason to try again, but `device_client_process` takes
either for a reason to tear the connection down. A call that is not answered so leaves connection and
client open, with the bytes accounted for that were transferred, unless there is a real reason not to.
-/

namespace Usbmuxd

/-- A connection that `device_client_process` finds for its client, both connected. -/
structure JoinedPair (deviceId : ℕ) (k : ClientPtr) (c : ConnPtr) (m : MuxConnection) (client : MuxClient)
    (s : Daemon) : Prop where
  found : getMuxConnection deviceId k s.mux = some c
  record : s.mux.conn c = some m
  connected : m.state = .connected
  present : s.clients.client k = some client
  ready : client.state = .connected

/-- How many bytes a socket takes out of those it is offered. -/
def SendResult.taken (offered : ℕ) : SendResult → ℕ
  | sent size => min size offered
  | error | wouldBlock => 0

section Call

variable (env : Env) (events : PollMask) (m : MuxConnection) (s : Clients)

/-- What the socket answers to `send`, if there is something to send. -/
def sendAnswer : Option SendResult :=
  if events.pollout ∧ m.ibBuf ≠ [] then some (env.sock s.tick).send else none

/-- How many bytes are written to the client. -/
def bytesWritten : ℕ := ((sendAnswer env events m s).map (·.taken m.ibBuf.length)).getD 0

/-- What the socket answers to `recv`, if it is called: a `send` that takes nothing ends the call. -/
def recvAnswer : Option RecvResult :=
  if events.pollin ∧ m.sendable > 0 then
    match sendAnswer env events m s with
    | none => some (env.sock s.tick).recv
    | some answer => if answer.taken m.ibBuf.length = 0 then none else some (env.sock (s.tick + 1)).recv
  else none

/-- The bytes read from the client. -/
def bytesRead : Bytes :=
  match recvAnswer env events m s with
  | some (.received data) => data.take m.sendable.toNat
  | _ => []

/-- The socket reports that it would block. -/
def Blocks : Prop := sendAnswer env events m s = some .wouldBlock ∨ recvAnswer env events m s = some .wouldBlock

end Call

/-- Connection and client are open, with this in-buffer and these counters. -/
structure OpenWith (c : ConnPtr) (k : ClientPtr) (ibBuf : Bytes) (txAck txSeq : UInt32) (s : Daemon) : Prop where
  record : ∃ m, s.mux.conn c = some m ∧ m.state = .connected ∧ m.ibBuf = ibBuf ∧
    m.ibSize = UInt32.ofNat ibBuf.length ∧ m.txAck = txAck ∧ m.txSeq = txSeq
  client : ∃ client, s.clients.client k = some client ∧ client.state = .connected

/-- The daemon when `device_client_process` turns to reading. -/
def afterWrite (env : Env) (deviceId : ℕ) (k : ClientPtr) (c : ConnPtr) (events : PollMask) (m : MuxConnection)
    (s : Daemon) : Daemon :=
  let s := s.setMux (touchNamed deviceId s.mux)
  if events.pollout ∧ m.ibBuf ≠ [] then
    let w := clientWrite env k m.ibBuf s.clients
    let size := w.1.toNat
    let drained := { m.shift size with txAck := m.txAck + UInt32.ofNat size }
    (s.setClients w.2).setMux ((s.mux.setConn c drained).logConn c (.wrote (m.ibBuf.take size)))
  else s

/-- What ends a connection: a hard error, the end of the stream, or a failed USB send. -/
inductive Ends (env : Env) (deviceId : ℕ) (k : ClientPtr) (c : ConnPtr) (events : PollMask) (m : MuxConnection)
    (s : Daemon) : Prop
  | sendError (failed : sendAnswer env events m s.clients = some .error)
  | recvError (failed : recvAnswer env events m s.clients = some .error)
  | endOfStream (ended : recvAnswer env events m s.clients = some (.received []))
  | usbError {data : Bytes} (read : recvAnswer env events m s.clients = some (.received data))
      (failed : (sendData env c (data.take m.sendable.toNat) (afterWrite env deviceId k c events m s).mux).1 < 0)

section Steps

variable (env : Env) {k : ClientPtr} {c : ConnPtr} {m : MuxConnection} {client : MuxClient} {s : Daemon}

private theorem updateConnection_open (record : s.mux.conn c = some m) (owner : m.client = some k)
    (connected : m.state = .connected) (present : s.clients.client k = some client)
    (ready : client.state = .connected) : OpenWith c k m.ibBuf m.txAck m.txSeq (updateConnection c s) := by
  refine ⟨⟨m.refresh, ?_, connected, rfl, rfl, rfl, rfl⟩,
    ⟨{ client with devents := m.refresh.events, events := m.refresh.events }, ?_, ready⟩⟩
  · rw [updateConnection_mux record]
    exact Function.update_self ..
  · simp [updateConnection, record, owner, Daemon.setMux, Daemon.setClients, clientSetEvents, Clients.modify, present,
      Clients.setClient, ready]

private theorem sendData_sent (record : s.mux.conn c = some m) {data : Bytes}
    (sent : ¬(sendData env c data s.mux).1 < 0) :
    ∃ now, (sendData env c data s.mux).2.conn c =
      some { m.acked now with txSeq := m.txSeq + UInt32.ofNat data.length } := by
  have present : (s.mux.logConn c (.read data)).conn c = some m := record
  simp only [sendData] at sent ⊢
  split at sent
  next refused => exact absurd refused sent
  next accepted =>
    obtain ⟨now, after⟩ := sendTcp_sent env present thAck data accepted
    rw [if_neg accepted, after]
    exact ⟨now, Function.update_self ..⟩

private theorem clientWrite_answer (present : s.clients.client k = some client) (ready : client.state = .connected)
    (buffer : Bytes) :
    (clientWrite env k buffer s.clients).1 = ((env.sock s.clients.tick).send.taken buffer.length : ℕ) ∨
      (env.sock s.clients.tick).send = .error ∧ (clientWrite env k buffer s.clients).1 = -1 := by
  simp only [clientWrite, present, ready, ne_eq, not_true_eq_false, if_false]
  cases (env.sock s.clients.tick).send with
  | error => exact .inr ⟨rfl, rfl⟩
  | wouldBlock => exact .inl rfl
  | sent size => exact .inl rfl

private theorem clientWrite_toNat (present : s.clients.client k = some client) (ready : client.state = .connected)
    (buffer : Bytes) :
    (clientWrite env k buffer s.clients).1.toNat = (env.sock s.clients.tick).send.taken buffer.length := by
  rcases clientWrite_answer env present ready buffer with taken | ⟨failed, negative⟩
  · rw [taken, Int.toNat_natCast]
  · rw [failed, negative]
    rfl

private theorem clientWrite_next (present : s.clients.client k = some client) (ready : client.state = .connected)
    (buffer : Bytes) :
    (clientWrite env k buffer s.clients).2.client = s.clients.client ∧
      (clientWrite env k buffer s.clients).2.tick = s.clients.tick + 1 := by
  simp only [clientWrite, present, ready, ne_eq, not_true_eq_false, if_false]
  cases (env.sock s.clients.tick).send with
  | error => exact ⟨rfl, rfl⟩
  | wouldBlock => exact ⟨rfl, rfl⟩
  | sent size => exact ⟨rfl, rfl⟩

section Input

variable {events : PollMask} (record : s.mux.conn c = some m) (owner : m.client = some k)
  (connected : m.state = .connected) (present : s.clients.client k = some client) (ready : client.state = .connected)

include record owner connected present ready

private theorem clientInput_idle (idle : ¬(events.pollin ∧ m.sendable > 0)) :
    OpenWith c k m.ibBuf m.txAck m.txSeq (clientInput env c k events s) := by
  have update : clientInput env c k events s = updateConnection c s := by
    simp only [clientInput, record, if_neg idle]
  rw [update]
  exact updateConnection_open record owner connected present ready

omit owner in
private theorem clientInput_barren (reads : events.pollin ∧ m.sendable > 0)
    (barren : (env.sock s.clients.tick).recv ∈ [.error, .wouldBlock, .received []]) :
    (clientInput env c k events s).mux.conn c = none := by
  have nothing : (clientRead env k m.sendable s.clients).1 = none := by
    simp only [clientRead, present, ready, ne_eq, not_true_eq_false, if_false]
    simp only [List.mem_cons, List.not_mem_nil, or_false] at barren
    rcases barren with answer | answer | answer <;> simp [answer]
  simp only [clientInput, record, if_pos reads, nothing]
  exact connectionTeardown_released env record (by simp [connected])

private theorem clientInput_carried (reads : events.pollin ∧ m.sendable > 0) {data : Bytes}
    (got : (env.sock s.clients.tick).recv = .received data) (some : data ≠ []) :
    (sendData env c (data.take m.sendable.toNat) s.mux).1 < 0 ∨
      OpenWith c k m.ibBuf m.txAck (m.txSeq + UInt32.ofNat (data.take m.sendable.toNat).length)
        (clientInput env c k events s) := by
  have positive : m.sendable.toNat ≠ 0 := (UInt32.lt_iff_toNat_lt.mp reads.2).ne'
  have nonempty : data.take m.sendable.toNat ≠ [] := fun empty =>
    (List.take_eq_nil_iff.mp empty).elim positive some
  have read : (clientRead env k m.sendable s.clients).1 = .some (data.take m.sendable.toNat) := by
    simp only [clientRead, present, ready, ne_eq, not_true_eq_false, if_false, got, if_neg nonempty]
  have kept : (clientRead env k m.sendable s.clients).2.client k = .some client := by
    rw [(clientRead_untouched env present m.sendable).client, present]
  refine Classical.or_iff_not_imp_left.mpr fun sent => ?_
  obtain ⟨now, after⟩ := sendData_sent env record sent
  have goes : clientInput env c k events s = updateConnection c
      ((s.setClients (clientRead env k m.sendable s.clients).2).setMux
        (sendData env c (data.take m.sendable.toNat) s.mux).2) := by
    simp only [clientInput, record, if_pos reads, read]
    exact if_neg sent
  rw [goes]
  exact updateConnection_open (s := (s.setClients (clientRead env k m.sendable s.clients).2).setMux _) after owner
    connected kept ready

end Input

end Steps

section Process

variable {env : Env} {deviceId : ℕ} {k : ClientPtr} {c : ConnPtr} {m : MuxConnection} {client : MuxClient}
  {s : Daemon} {events : PollMask}

private theorem JoinedPair.owner (pair : JoinedPair deviceId k c m client s) : m.client = some k := by
  obtain ⟨d, -, held⟩ := Option.bind_eq_some_iff.mp pair.found
  have owner := List.find?_some held
  simpa [Mux.hasClient, pair.record] using owner

private theorem sendAnswer_of_writes (writes : events.pollout ∧ m.ibBuf ≠ []) :
    sendAnswer env events m s.clients = some (env.sock s.clients.tick).send := if_pos writes

private theorem sendAnswer_of_not (idle : ¬(events.pollout ∧ m.ibBuf ≠ [])) :
    sendAnswer env events m s.clients = none :=
  if_neg idle

/-- A `send` that takes nothing. -/
def Fruitless (env : Env) (events : PollMask) (m : MuxConnection) (s : Clients) : Prop :=
  ∃ answer, sendAnswer env events m s = some answer ∧ answer.taken m.ibBuf.length = 0

private theorem deviceClientProcess_found (pair : JoinedPair deviceId k c m client s) :
    deviceClientProcess env deviceId k events s =
      if events.pollout ∧ m.ibBuf ≠ [] ∧ (clientWrite env k m.ibBuf s.clients).1 ≤ 0 then
        connectionTeardown env c ((s.setMux (touchNamed deviceId s.mux)).setClients
          (clientWrite env k m.ibBuf s.clients).2)
      else clientInput env c k events (afterWrite env deviceId k c events m s) := by
  obtain ⟨faults, touched⟩ := touchNamed_faults deviceId s.mux
  have found : getMuxConnection deviceId k (touchNamed deviceId s.mux) = some c := by
    rw [touched]
    exact pair.found
  have record : (touchNamed deviceId s.mux).conn c = some m := by
    rw [touched]
    exact pair.record
  simp only [deviceClientProcess, afterWrite, Daemon.setMux, Daemon.setClients, found, record]
  by_cases writes : events.pollout ∧ m.ibBuf ≠ []
  · rw [if_pos writes, if_pos writes]
    by_cases fails : (clientWrite env k m.ibBuf s.clients).1 ≤ 0
    · exact (if_pos fails).trans (if_pos ⟨writes.1, writes.2, fails⟩).symm
    · exact (if_neg fails).trans (if_neg fun all => fails all.2.2).symm
  · rw [if_neg writes, if_neg writes, if_neg fun all => writes ⟨all.1, all.2.1⟩]

private theorem deviceClientProcess_fruitless (pair : JoinedPair deviceId k c m client s)
    (fruitless : Fruitless env events m s.clients) :
    (deviceClientProcess env deviceId k events s).mux.conn c = none := by
  obtain ⟨answer, sends, nothing⟩ := fruitless
  by_cases writes : events.pollout ∧ m.ibBuf ≠ []
  · rw [sendAnswer_of_writes writes, Option.some_inj] at sends
    have result := clientWrite_answer env pair.present pair.ready m.ibBuf
    rw [sends, nothing] at result
    have fails : (clientWrite env k m.ibBuf s.clients).1 ≤ 0 := by
      rcases result with zero | ⟨-, negative⟩ <;> omega
    rw [deviceClientProcess_found pair, if_pos ⟨writes.1, writes.2, fails⟩]
    obtain ⟨faults, touched⟩ := touchNamed_faults deviceId s.mux
    refine connectionTeardown_released env (m := m) ?_ (by simp [pair.connected])
    simp only [Daemon.setMux, Daemon.setClients, touched, pair.record]
  · rw [sendAnswer_of_not writes] at sends
    cases sends

private theorem deviceClientProcess_goes_on (pair : JoinedPair deviceId k c m client s)
    (goes : ¬Fruitless env events m s.clients) :
    deviceClientProcess env deviceId k events s =
      clientInput env c k events (afterWrite env deviceId k c events m s) := by
  rw [deviceClientProcess_found pair, if_neg]
  rintro ⟨pollout, waiting, fails⟩
  refine goes ⟨_, sendAnswer_of_writes ⟨pollout, waiting⟩, ?_⟩
  have size := clientWrite_toNat env pair.present pair.ready m.ibBuf
  omega

private theorem afterWrite_spec (pair : JoinedPair deviceId k c m client s) (goes : ¬Fruitless env events m s.clients) :
    (∃ m', (afterWrite env deviceId k c events m s).mux.conn c = some m' ∧ m'.state = .connected ∧
        m'.client = some k ∧ m'.ibBuf = m.ibBuf.drop (bytesWritten env events m s.clients) ∧
        m'.txAck = m.txAck + UInt32.ofNat (bytesWritten env events m s.clients) ∧ m'.txSeq = m.txSeq ∧
        m'.sendable = m.sendable) ∧
      (afterWrite env deviceId k c events m s).clients.client k = some client ∧
      recvAnswer env events m s.clients =
        if events.pollin ∧ m.sendable > 0 then
          some (env.sock (afterWrite env deviceId k c events m s).clients.tick).recv
        else none := by
  by_cases writes : events.pollout ∧ m.ibBuf ≠ []
  · have sends : sendAnswer env events m s.clients = some (env.sock s.clients.tick).send := sendAnswer_of_writes writes
    have some : (env.sock s.clients.tick).send.taken m.ibBuf.length ≠ 0 := fun none => goes ⟨_, sends, none⟩
    have size := clientWrite_toNat env pair.present pair.ready m.ibBuf
    obtain ⟨clients, tick⟩ := clientWrite_next env pair.present pair.ready m.ibBuf
    have written : bytesWritten env events m s.clients = (clientWrite env k m.ibBuf s.clients).1.toNat := by
      rw [bytesWritten, sends, size]
      rfl
    rw [written, recvAnswer, sends]
    simp only [afterWrite, if_pos writes, Daemon.setMux, Daemon.setClients, if_neg some]
    refine ⟨⟨_, Function.update_self .., pair.connected, pair.owner, rfl, rfl, rfl, rfl⟩, ?_, ?_⟩
    · rw [clients, pair.present]
    · rw [tick]
  · have sends : sendAnswer env events m s.clients = none := sendAnswer_of_not writes
    have written : bytesWritten env events m s.clients = 0 := by
      rw [bytesWritten, sends]
      rfl
    obtain ⟨faults, touched⟩ := touchNamed_faults deviceId s.mux
    rw [written, recvAnswer, sends]
    simp only [afterWrite, if_neg writes, Daemon.setMux, touched]
    refine ⟨⟨m, pair.record, pair.connected, pair.owner, rfl, ?_, rfl, rfl⟩, pair.present, trivial⟩
    exact (UInt32.add_zero _).symm

private theorem recvAnswer_fruitless (fruitless : Fruitless env events m s.clients) :
    recvAnswer env events m s.clients = none := by
  obtain ⟨answer, sends, nothing⟩ := fruitless
  rw [recvAnswer, sends]
  simp only [nothing, if_true, ite_self]

private theorem deviceClientProcess_barren (pair : JoinedPair deviceId k c m client s)
    (blocks : recvAnswer env events m s.clients = some .wouldBlock) :
    (deviceClientProcess env deviceId k events s).mux.conn c = none := by
  have goes : ¬Fruitless env events m s.clients := fun fruitless => by
    rw [recvAnswer_fruitless fruitless] at blocks
    cases blocks
  obtain ⟨⟨m', record, connected, -, -, -, -, room⟩, present, answer⟩ := afterWrite_spec pair goes
  rw [answer] at blocks
  split at blocks
  next reads =>
    rw [deviceClientProcess_goes_on pair goes]
    refine clientInput_barren env record connected present pair.ready (by rwa [room]) ?_
    rw [Option.some_inj.mp blocks]
    simp
  next => cases blocks

private theorem Fruitless.answers (fruitless : Fruitless env events m s.clients) :
    sendAnswer env events m s.clients ∈ [some .error, some .wouldBlock, some (.sent 0)] := by
  obtain ⟨answer, sends, nothing⟩ := fruitless
  have waiting : m.ibBuf ≠ [] := by
    intro empty
    rw [sendAnswer, if_neg fun writes => writes.2 empty] at sends
    cases sends
  rw [sends]
  cases answer with
  | error => simp
  | wouldBlock => simp
  | sent size =>
    have zero : size = 0 := by
      have offered := List.length_pos_iff.mpr waiting
      simp only [SendResult.taken] at nothing
      omega
    simp [zero]

end Process

/-- The buffer, the counters and the state that the socket's answers account for. -/
def StaysOpen (env : Env) (events : PollMask) (c : ConnPtr) (k : ClientPtr) (m : MuxConnection) (s s' : Daemon) :
    Prop :=
  OpenWith c k (m.ibBuf.drop (bytesWritten env events m s.clients))
    (m.txAck + UInt32.ofNat (bytesWritten env events m s.clients))
    (m.txSeq + UInt32.ofNat (bytesRead env events m s.clients).length) s'

/-- A call whose socket does not block goes through, or there is a reason to end the connection. -/
private theorem deviceClientProcess_unblocked {env : Env} {deviceId : ℕ} {k : ClientPtr} {c : ConnPtr}
    {m : MuxConnection}
    {client : MuxClient} {s : Daemon} {events : PollMask} (pair : JoinedPair deviceId k c m client s)
    (sendPasses : sendAnswer env events m s.clients ≠ some .wouldBlock)
    (sendTakes : sendAnswer env events m s.clients ≠ some (.sent 0))
    (recvPasses : recvAnswer env events m s.clients ≠ some .wouldBlock) :
    StaysOpen env events c k m s (deviceClientProcess env deviceId k events s) ∨ Ends env deviceId k c events m s := by
  by_cases fruitless : Fruitless env events m s.clients
  · have answers := fruitless.answers
    simp only [List.mem_cons, sendPasses, sendTakes, List.not_mem_nil, or_false] at answers
    exact .inr (.sendError answers)
  · obtain ⟨⟨m', record, connected, owner, buffer, txAck, txSeq, room⟩, present, answer⟩ :=
      afterWrite_spec pair fruitless
    rw [deviceClientProcess_goes_on pair fruitless, StaysOpen, ← buffer, ← txAck, ← txSeq, bytesRead]
    by_cases reads : events.pollin ∧ m.sendable > 0
    · rw [if_pos reads] at answer
      rcases got : (env.sock (afterWrite env deviceId k c events m s).clients.tick).recv with _ | _ | data
      · exact .inr (.recvError (answer.trans (congrArg some got)))
      · exact absurd (answer.trans (congrArg some got)) recvPasses
      · rw [got] at answer
        rcases List.eq_nil_or_concat data with rfl | ⟨front, last, filled⟩
        · exact .inr (.endOfStream answer)
        · have nonempty : data ≠ [] := by simp [filled]
          rw [← room] at reads
          rcases clientInput_carried env record owner connected present pair.ready reads got nonempty with
            failed | stays
          · exact .inr (.usbError answer (by rwa [room] at failed))
          · rw [room] at stays
            exact .inl (by rw [answer]; exact stays)
    · rw [if_neg reads] at answer
      rw [← room] at reads
      have stays := clientInput_idle env record owner connected present pair.ready reads
      have nothing : m'.txSeq + UInt32.ofNat ([] : Bytes).length = m'.txSeq := UInt32.add_zero _
      rw [answer]
      exact .inl (by rw [nothing]; exact stays)

/-- A connected pair outlives a socket that would block, with the counters of what was transferred, and only
a hard error, the end of the stream or a failed USB send ends it. That holds of a call of
`device_client_process` if, and only if, no `send` of the call would block or takes nothing, and no `recv` of
the call would block. -/
theorem blocking_survived_iff (env : Env) (deviceId : ℕ) (k : ClientPtr) (c : ConnPtr) (events : PollMask)
    (m : MuxConnection) (client : MuxClient) (s : Daemon) (pair : JoinedPair deviceId k c m client s) :
    ((Blocks env events m s.clients →
        StaysOpen env events c k m s (deviceClientProcess env deviceId k events s)) ∧
      (StaysOpen env events c k m s (deviceClientProcess env deviceId k events s) ∨
        Ends env deviceId k c events m s)) ↔
      sendAnswer env events m s.clients ≠ some .wouldBlock ∧
        sendAnswer env events m s.clients ≠ some (.sent 0) ∧
          recvAnswer env events m s.clients ≠ some .wouldBlock := by
  have torn : (deviceClientProcess env deviceId k events s).mux.conn c = none →
      ¬StaysOpen env events c k m s (deviceClientProcess env deviceId k events s) := by
    intro gone stays
    obtain ⟨m', record, -⟩ := stays.record
    rw [gone] at record
    cases record
  constructor
  · rintro ⟨survives, justified⟩
    refine ⟨fun blocks => ?_, fun zero => ?_, fun blocks => ?_⟩
    · exact torn (deviceClientProcess_fruitless pair ⟨_, blocks, rfl⟩) (survives (.inl blocks))
    · have fruitless : Fruitless env events m s.clients := ⟨_, zero, Nat.zero_min _⟩
      have unread := recvAnswer_fruitless fruitless
      rcases justified.resolve_left (torn (deviceClientProcess_fruitless pair fruitless)) with
        failed | failed | ended | ⟨read, -⟩
      · rw [zero] at failed
        cases failed
      · rw [unread] at failed
        cases failed
      · rw [unread] at ended
        cases ended
      · rw [unread] at read
        cases read
    · exact torn (deviceClientProcess_barren pair blocks) (survives (.inr blocks))
  · rintro ⟨sendPasses, sendTakes, recvPasses⟩
    refine ⟨fun blocks => (blocks.elim sendPasses recvPasses).elim, ?_⟩
    exact deviceClientProcess_unblocked pair sendPasses sendTakes recvPasses

/-- The session's world, with these answers of the client's socket once the tunnel is up. -/
def tunnelEnv (send : SendResult) (recv : RecvResult) : Env :=
  { sessionEnv with
    sock := fun n => if n < 4 then sessionEnv.sock n else { sessionEnv.sock n with send := send, recv := recv } }

/-- Three bytes wait for the client of the tunnel. -/
def loaded : List Event := tunnel ++ [.dataInput 0 (.full dataPacket)]

/-- The socket takes two of the bytes and delivers one. -/
theorem loaded_survives :
    let env := tunnelEnv (.sent 2) (.received [7])
    let s := run env loaded
    ∃ m client, JoinedPair 1 0 0 m client s ∧ bytesWritten env ⟨true, true⟩ m s.clients = 2 ∧
      bytesRead env ⟨true, true⟩ m s.clients = [7] ∧
      (StaysOpen env ⟨true, true⟩ 0 0 m s (deviceClientProcess env 1 0 ⟨true, true⟩ s) ∨
        Ends env 1 0 0 ⟨true, true⟩ m s) := by
  intro env s
  have pair : JoinedPair 1 0 0 ((s.mux.conn 0).get (by decide +kernel))
      ((s.clients.client 0).get (by decide +kernel)) s :=
    ⟨by decide +kernel, by simp, by decide +kernel, by simp, by decide +kernel⟩
  refine ⟨_, _, pair, by decide +kernel, by decide +kernel, ?_⟩
  exact ((blocking_survived_iff env 1 0 0 ⟨true, true⟩ _ _ s pair).mpr
    ⟨by decide +kernel, by decide +kernel, by decide +kernel⟩).2

/-- A tunnel whose socket would block is torn down: when there is something to write, and when there is
nothing to read after all. -/
theorem blocked_torn_down :
    let env := tunnelEnv .wouldBlock .wouldBlock
    let s := run env loaded
    ∃ m client, JoinedPair 1 0 0 m client s ∧
      sendAnswer env ⟨false, true⟩ m s.clients = some .wouldBlock ∧
      (deviceClientProcess env 1 0 ⟨false, true⟩ s).mux.conn 0 = none ∧
      recvAnswer env ⟨true, false⟩ m s.clients = some .wouldBlock ∧
      (deviceClientProcess env 1 0 ⟨true, false⟩ s).mux.conn 0 = none := by
  intro env s
  have pair : JoinedPair 1 0 0 ((s.mux.conn 0).get (by decide +kernel))
      ((s.clients.client 0).get (by decide +kernel)) s :=
    ⟨by decide +kernel, by simp, by decide +kernel, by simp, by decide +kernel⟩
  have sends : sendAnswer env ⟨false, true⟩ ((s.mux.conn 0).get (by decide +kernel)) s.clients = some .wouldBlock := by
    decide +kernel
  have receives : recvAnswer env ⟨true, false⟩ ((s.mux.conn 0).get (by decide +kernel)) s.clients =
      some .wouldBlock := by decide +kernel
  refine ⟨_, _, pair, sends, deviceClientProcess_fruitless pair ⟨_, sends, rfl⟩, receives, ?_⟩
  exact deviceClientProcess_barren pair receives

end Usbmuxd
