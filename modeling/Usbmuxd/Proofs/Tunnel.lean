import Usbmuxd.Machine.Requests
import Usbmuxd.Proofs.Teardown

/-! # Data through an open connection

`update_connection`, `send_tcp_ack`, `device_client_process` and `connection_device_input` on a
connection that a device holds. Each of them is a sequence of steps of the system, whether the
data gets through or the connection is torn down on the way.
-/

namespace Usbmuxd

open Collection ConnLog ConnEvent

/-- An open connection in a sound system. -/
structure Carrying (lax : Laxity) (S : Sys) (c : ConnPtr) (m : MuxConnection) (log : List ConnEvent) : Prop where
  sound : Sound lax S
  holds : S.Holds m.dev c
  present : S.conn c = (some m, log)
  opened : m.state = .connected

namespace Carrying

variable {lax : Laxity} {S : Sys} {c : ConnPtr} {m : MuxConnection} {log : List ConnEvent}
  (carrying : Carrying lax S c m log)
include carrying

private theorem settled : Established log ∧ m.refresh = m := by
  have settled := (carrying.sound.conns c).2
  rw [carrying.present] at settled
  rcases settled with ⟨waiting, _⟩ | ⟨_, known, fresh⟩
  · simp [carrying.opened] at waiting
  · exact ⟨known, fresh⟩

private theorem fresh : m.sendable = m.sendableNow := congrArg MuxConnection.sendable carrying.settled.2.symm

private theorem client : ∃ k client clientLog, m.client = some k ∧ S.client k = (some client, clientLog) := by
  obtain ⟨_, k, client, owner, known, _⟩ := carrying.sound.linked.links.record carrying.holds carrying.present
  exact ⟨k, client, _, owner, Prod.ext known rfl⟩

private theorem setDev {served : Option ClientPtr} {view : DevView} (calm : Calm lax served S (S.setDev m.dev view))
    (connections : view.1.connections = (S.dev m.dev).1.connections) : Carrying lax (S.setDev m.dev view) c m log :=
  ⟨calm.sound carrying.sound, (Sys.holds_setDev connections _ _).mpr carrying.holds, carrying.present, carrying.opened⟩

end Carrying

/-- Nothing is left to do after `update_connection`. -/
@[simp] theorem refresh_refresh (m : MuxConnection) : m.refresh.refresh = m.refresh := rfl

/-- `update_connection` stores the allowance and passes the events on. -/
theorem updateConnection_sys {s : Daemon} {c : ConnPtr} {m : MuxConnection} {log : List ConnEvent} {k : ClientPtr}
    {client : MuxClient} {clientLog : List ClientEvent} (record : s.sys.conn c = (some m, log))
    (owner : m.client = some k) (calling : s.sys.client k = (some client, clientLog)) :
    (updateConnection c s).sys = (s.sys.setConn c (some m.refresh, log)).setClient k
      (some (client.masked m.refresh.events), clientLog) := by
  have stored : s.mux.conn c = some m := congrArg Prod.fst record
  have present : (s.setMux (s.mux.setConn c m.refresh)).clients.client k = some client := congrArg Prod.fst calling
  simp only [updateConnection, stored, owner]
  rw [Appended.sys _ _ (clientSetEvents_appended present m.refresh.events), List.append_nil,
    sys_setConn, setMux_mux, record]
  have view : (s.sys.setConn c (some m.refresh, log)).client k = (some client, clientLog) := calling
  rw [view]

section Open

variable {lax : Laxity} {served : Option ClientPtr} (env : Env) {S : Sys} {s : Daemon} {c : ConnPtr}
  {m₀ m : MuxConnection} {log₀ log : List ConnEvent}

private theorem Carrying.shown (carrying : Carrying lax S c m₀ log₀)
    (run : ConnRun (lax.hears c) (some m₀, log₀) (some m, log)) :
    Established log := carrying.settled.1.mono run.log_grows

/-- Work on an open connection that ends with `update_connection`. -/
private theorem settle (carrying : Carrying lax S c m₀ log₀) (work : Working S c m log s)
    (run : ConnRun (lax.hears c) (some m₀, log₀) (some m, log)) (dev : m.dev = m₀.dev) (owned : m.client = m₀.client)
    (opened : m.state = .connected) : Calm lax served S (updateConnection c s).sys := by
  obtain ⟨k, client, clientLog, owner, calling⟩ := carrying.client
  rw [updateConnection_sys work.view (owned.trans owner) ((work.clientView k).trans calling), work.sys,
    Sys.setConn_setConn]
  refine .of_run (.single ?_) rfl rfl rfl
  exact .conn S c k carrying.holds carrying.present owner calling (run.tail (.refresh m log))
    (.inr ⟨opened, carrying.shown run, rfl⟩) dev owned (opened.trans carrying.opened.symm)

/-- Work on an open connection that ends with its teardown. -/
theorem abandon (carrying : Carrying lax S c m₀ log₀) (grants : Grants env lax)
    (work : Working S c m log s) (gone : ∀ tail, TearLog m tail →
      ConnRun (lax.hears c) (some m₀, log₀) (none, log ++ tail))
    (dev : m.dev = m₀.dev) (owned : m.client = m₀.client) (opened : m.state = .connected ∨ m.state = .dying) :
    Calm lax served S (connectionTeardown env c s).sys :=
  (connectionTeardown_calm env carrying.sound carrying.holds carrying.present work dev owned
    (.inr ⟨carrying.opened, opened⟩) gone (fun waiting => by simp [carrying.opened] at waiting)
    (.inr carrying.opened) grants).1

/-- Teardown at the end of a run of the connection machine. -/
theorem gone_of_run (run : ConnRun (lax.hears c) (some m₀, log₀) (some m, log)) :
    ∀ tail, TearLog m tail → ConnRun (lax.hears c) (some m₀, log₀) (none, log ++ tail) :=
  fun tail tear => run.tail (.tear m log tail tear)

/-- A segment leaves over the device of an open connection, which stays open. -/
private theorem Carrying.sends (carrying : Carrying lax S c m₀ log₀)
    (ready : (S.dev m₀.dev).1.state = .active ∨ lax.early)
    (work : Working S c m log s) (dev : m.dev = m₀.dev) (flags : UInt8) (data : Bytes) :
    ∃ view now, Calm lax served S (S.setDev m₀.dev view) ∧ Carrying lax (S.setDev m₀.dev view) c m₀ log₀ ∧
      Working (S.setDev m₀.dev view) c (if 0 ≤ (sendTcp env c flags data s.mux).1 then m.acked now else m)
        (log ++ [segment (m.header flags) data (sendTcp env c flags data s.mux).1])
        (s.setMux (sendTcp env c flags data s.mux).2) := by
  obtain ⟨view, now, sent, after⟩ := work.sendTcp carrying.sound.wires env flags data
  rw [dev] at sent after
  have calm : Calm lax served S (S.setDev m₀.dev view) :=
    .of_setDev (sent.run carrying.holds.1 ready) sent.quiet
  exact ⟨view, now, calm, carrying.setDev calm sent.core.2, after⟩

/-- `send_tcp_ack` on an open connection. -/
theorem sendTcpAck_calm (grants : Grants env lax) (carrying : Carrying lax S c m₀ log₀)
    (ready : (S.dev m₀.dev).1.state = .active ∨ lax.early) (work : Working S c m log s)
    (run : ConnRun (lax.hears c) (some m₀, log₀) (some m, log)) (dev : m.dev = m₀.dev) (owned : m.client = m₀.client)
    (opened : m.state = .connected) : Calm lax served S (sendTcpAck env c s).sys := by
  obtain ⟨view, now, calm, carrying', after⟩ := carrying.sends env ready work dev thAck []
  refine calm.trans ?_
  simp only [sendTcpAck]
  split
  · next lost =>
    rw [if_neg (by omega)] at after
    exact abandon env carrying' grants after (gone_of_run (run.tail (.segmentFailed m log thAck _ lost))) dev owned
      (.inl opened)
  · next ok =>
    rw [if_pos (by omega)] at after
    exact settle carrying' after (run.tail (.segmentSent m log thAck _ now (by omega))) dev owned opened

private theorem clientInput_calm (grants : Grants env lax) (carrying : Carrying lax S c m₀ log₀)
    (ready : (S.dev m₀.dev).1.state = .active ∨ lax.early) (work : Working S c m log s)
    (run : ConnRun (lax.hears c) (some m₀, log₀) (some m, log)) (dev : m.dev = m₀.dev) (owned : m.client = m₀.client)
    (opened : m.state = .connected) (fresh : m.sendable = m.sendableNow) {k : ClientPtr} {client : MuxClient}
    (known : (S.client k).1 = some client) (events : PollMask) :
    Calm lax served S (clientInput env c k events s).sys := by
  simp only [clientInput, work.record]
  split
  swap
  · exact settle carrying work run dev owned opened
  have reading : Working S c m log (s.setClients (clientRead env k m.sendable s.clients).2) := by
    have present : s.clients.client k = some client := (work.client k).trans known
    rw [Working, (clientRead_untouched env present m.sendable).sys]
    exact work
  split
  · exact abandon env carrying grants reading (gone_of_run run) dev owned (.inl opened)
  · next data got =>
    obtain ⟨_, room⟩ := clientRead_data env k s.clients got
    have isOpen := (carrying.shown run).isOpen
    set s₁ := s.setClients (clientRead env k m.sendable s.clients).2 with definition
    have noted : Working S c m (log ++ [read data]) (s₁.setMux (s₁.mux.logConn c (.read data))) := by
      rw [Working, sys_logConn, setMux_mux, reading.view, reading.sys, Sys.setConn_setConn]
    obtain ⟨view, now, calm, carrying', after⟩ := carrying.sends env ready noted dev thAck data
    refine calm.trans ?_
    rw [List.append_assoc, List.singleton_append, setMux_setMux] at after
    have mux : (s₁.setMux (s₁.mux.logConn c (.read data))).mux = s₁.mux.logConn c (.read data) := rfl
    rw [mux] at after
    set r := sendTcp env c thAck data (s₁.mux.logConn c (.read data)) with sending
    by_cases lost : r.1 < 0
    · have result : sendData env c data s₁.mux = r := by
        simp only [sendData, ← sending, if_pos lost]
      simp only [result, if_pos lost]
      rw [if_neg (by omega)] at after
      refine abandon env carrying' grants after (fun tail tear => ?_) dev owned (.inl opened)
      exact run.tail (.dataFailed m log tail data r.1 isOpen lost fresh room tear)
    · rw [if_pos (by omega)] at after
      have stored : r.2.conn c = some (m.acked now) := Working.record after
      have result : sendData env c data s₁.mux =
          (r.1, r.2.setConn c { m.acked now with txSeq := m.txSeq + UInt32.ofNat data.length }) := by
        simp only [sendData, ← sending, if_neg lost, stored]
        rfl
      simp only [result, if_neg lost]
      have worked : Working (S.setDev m₀.dev view) c
          { m.acked now with txSeq := m.txSeq + UInt32.ofNat data.length }
          (log ++ [read data, segment (m.header thAck) data r.1])
          (s₁.setMux (r.2.setConn c { m.acked now with txSeq := m.txSeq + UInt32.ofNat data.length })) := by
        rw [Working, sys_setConn, after, Sys.setConn_conn, Sys.setConn_setConn]
      exact settle carrying' worked (run.tail (.data m log data r.1 now isOpen (by omega) fresh room)) dev owned opened

end Open

/-- A connection that is being served by the daemon itself: its record is the one of the system. -/
theorem working_self {s : Daemon} {c : ConnPtr} {m : MuxConnection} {log : List ConnEvent}
    (present : s.sys.conn c = (some m, log)) : Working s.sys c m log s := by
  rw [Working, ← present, Sys.setConn_self]

/-- No device of the list is on its way out. -/
def Alive (S : Sys) : Prop := ∀ d ∈ S.deviceList, (S.dev d).1.state ≠ .dead

private theorem Sound.writable {lax : Laxity} {S : Sys} (sound : Sound lax S) (alive : Alive S) {d : DevPtr}
    {c : ConnPtr}
    (holding : S.Holds d c) : (S.dev d).1.state = .active ∨ lax.early := by
  cases state : (S.dev d).1.state with
  | init => exact .inr (sound.ready holding state)
  | active => exact .inl rfl
  | dead => exact absurd state (alive d holding.1)

/-- `device_client_process` for a client in `CLIENT_CONNECTED`. -/
theorem deviceClientProcess_calm {lax : Laxity} (served : Option ClientPtr) (env : Env) {s : Daemon}
    (sound : Sound lax s.sys) (alive : Alive s.sys) (grants : Grants env lax) {k : ClientPtr}
    {client : MuxClient} (present : s.clients.client k = some client) (connected : client.state = .connected)
    (events : PollMask) :
    Calm lax served s.sys (deviceClientProcess env client.connectDevice k events s).sys := by
  have engaged : client.state.engaged := by simp [connected, ClientState.engaged]
  have devices := (sameMux_sys s).toSameDevices
  obtain ⟨faults, touched, run⟩ := touchNamed_run served sound.wires devices rfl client.connectDevice
    (sound.device_ready devices present engaged)
  set s₁ := s.setMux (touchNamed client.connectDevice s.mux) with definition
  have state₁ : s₁.sys = { s.sys with faults := faults } := by
    rw [definition, touched]
    rfl
  have calm₁ : Calm lax served s.sys s₁.sys := by
    rw [state₁]
    exact .of_run run rfl rfl rfl
  have sound₁ := calm₁.sound sound
  have alive₁ : Alive s₁.sys := by
    rw [state₁]
    exact alive
  have present₁ : (s₁.sys.client k).1 = some client := present
  refine calm₁.trans ?_
  simp only [deviceClientProcess, ← definition]
  rcases getMuxConnection_spec sound₁.linked (sameMux_sys s₁) present₁
    with ⟨nothing, _⟩ | ⟨d, c, found, holding, named, _⟩
  · rw [nothing]
    exact .refl _
  obtain ⟨m, k', client', record, dev, owner, present', _, fits⟩ := sound₁.linked.links.held d c holding
  obtain rfl : k' = k := by simpa [Sys.clientOf, record, owner] using named
  obtain rfl : client = client' := Option.some.inj (present₁.symm.trans present')
  subst dev
  obtain ⟨log, viewed⟩ : ∃ log, s₁.sys.conn c = (some m, log) := ⟨_, Prod.ext record rfl⟩
  have opened : m.state = .connected := by
    rcases sound₁.not_dead viewed with waiting | opened
    · simpa [waiting, connected, ConnState.fits] using fits.state
    · exact opened
  have carrying : Carrying lax s₁.sys c m log := ⟨sound₁, holding, viewed, opened⟩
  have ready := sound₁.writable alive₁ holding
  have stored : s₁.mux.conn c = some m := record
  simp only [found, stored]
  split
  · have moved : ClientsMove lax served s₁.clients (clientWrite env k' m.ibBuf s₁.clients).2 :=
      clientWrite_move env served present₁ m.ibBuf
    have calm₂ : Calm lax served s₁.sys (s₁.setClients (clientWrite env k' m.ibBuf s₁.clients).2).sys :=
      .of_run (moved.run s₁ _) rfl rfl rfl
    have bound := clientWrite_le env k' s₁.clients m.ibBuf
    set w := clientWrite env k' m.ibBuf s₁.clients with writing
    have carrying₂ : Carrying lax (s₁.setClients w.2).sys c m log := ⟨calm₂.sound sound₁, holding, viewed, opened⟩
    obtain ⟨client₂, _, present₂, _⟩ := moved.present present₁
    have work₂ : Working (s₁.setClients w.2).sys c m log (s₁.setClients w.2) := working_self viewed
    refine calm₂.trans ?_
    split
    · exact abandon env carrying₂ grants work₂ (gone_of_run .refl) rfl rfl (.inl opened)
    · next positive =>
      refine clientInput_calm env grants carrying₂ ready ?_ (.single (.drain m log w.1.toNat (by omega))) rfl rfl opened
        carrying.fresh present₂ events
      rw [Working, sys_logConn, sys_setConn, setMux_mux, Sys.setConn_conn, work₂.view, Sys.setConn_setConn]
  · exact clientInput_calm env grants carrying ready (working_self viewed) .refl rfl rfl opened carrying.fresh
      present₁ events

/-- A torn down connection is released. -/
theorem connectionTeardown_released (env : Env) {c : ConnPtr} {s : Daemon} {m : MuxConnection}
    (record : s.mux.conn c = some m) (alive : m.state ≠ .dead) : (connectionTeardown env c s).mux.conn c = none := by
  simp only [connectionTeardown, connectionTeardownWith, record, if_neg alive]
  simp [Daemon.setMux, Mux.unlink, Mux.setDev, Mux.freeConn]

/-- `send_tcp_ack` on a released connection: C leaves it undefined, the model records it twice. -/
private theorem sendTcpAck_released {lax : Laxity} (served : Option ClientPtr) (env : Env) {c : ConnPtr} {s : Daemon}
    (released : s.mux.conn c = none) (free : lax.rash ∨ lax.poor) : Calm lax served s.sys (sendTcpAck env c s).sys := by
  have result : sendTcpAck env c s =
      s.setMux ((s.mux.fault (.releasedConnection c)).fault (.releasedConnection c)) := by
    have still : (s.mux.fault (.releasedConnection c)).conn c = none := released
    simp [sendTcpAck, sendTcp, released, connectionTeardown, connectionTeardownWith, Daemon.setMux, still]
  rw [result, sys_fault, sys_fault, setMux_mux]
  refine .of_run ?_ rfl rfl rfl
  exact .tail (.single (.fault s.sys (.releasedConnection c) free))
    (.fault { s.sys with faults := s.sys.faults ++ [.releasedConnection c] } (.releasedConnection c) free)

private theorem updateConnection_frame {c : ConnPtr} {s : Daemon} {m : MuxConnection} (record : s.mux.conn c = some m) :
    (updateConnection c s).sys.deviceList = s.sys.deviceList ∧ (updateConnection c s).sys.dev = s.sys.dev ∧
      (updateConnection c s).sys.conn c = (some m.refresh, s.mux.connLog c) := by
  have frame (x : Clients) : ((s.setMux (s.mux.setConn c m.refresh)).setClients x).sys.conn c =
      (some m.refresh, s.mux.connLog c) := by
    simp [Daemon.sys, Daemon.setMux, Daemon.setClients, Mux.setConn]
  simp only [updateConnection, record]
  split <;> exact ⟨rfl, rfl, frame _⟩

/-- What arrives at a connection is admitted: it is heard, and there is room for it. -/
def Laxity.Welcomes (lax : Laxity) (s : Mux) (c : ConnPtr) (payload : Bytes) : Prop :=
  lax.hears c payload ∧ (lax.rash ∨ s.Accepts c payload)

section Input

variable {lax : Laxity} {served : Option ClientPtr} (env : Env) {S : Sys} {s : Daemon} {c : ConnPtr}
  {m₀ m : MuxConnection} {log₀ log : List ConnEvent} (grants : Grants env lax)
  (carrying : Carrying lax S c m₀ log₀) (ready : (S.dev m₀.dev).1.state = .active ∨ lax.early)
  (work : Working S c m log s) (run : ConnRun (lax.hears c) (some m₀, log₀) (some m, log)) (dev : m.dev = m₀.dev)
  (owned : m.client = m₀.client) (opened : m.state = .connected)

include carrying work run dev owned opened in
private theorem accept_calm (served : Option ClientPtr) (payload : Bytes) (heard : lax.hears c payload) :
    let x := updateConnection c (s.setMux ((s.mux.setConn c (m.accept payload)).logConn c (.accepted payload)))
    Calm lax served S x.sys ∧ Carrying lax x.sys c (m.accept payload).refresh (log ++ [.accepted payload]) ∧
      x.sys.dev = S.dev := by
  intro x
  set s₁ := s.setMux ((s.mux.setConn c (m.accept payload)).logConn c (.accepted payload)) with storing
  have work₁ : Working S c (m.accept payload) (log ++ [.accepted payload]) s₁ := by
    rw [Working, storing, sys_logConn, sys_setConn, setMux_mux, Sys.setConn_conn, work.view, Sys.setConn_setConn,
      work.sys, Sys.setConn_setConn]
  have run₁ := run.tail (.accept m log payload (carrying.shown run).isOpen heard)
  have calm : Calm lax served S x.sys := settle carrying work₁ run₁ dev owned opened
  obtain ⟨lists, devs, viewed⟩ := updateConnection_frame work₁.record
  have sameDev : x.sys.dev = S.dev := devs.trans (funext fun d => work₁.devView d)
  have sameList : x.sys.deviceList = S.deviceList := calm.list
  have holding : x.sys.Holds (m.accept payload).refresh.dev c := by
    rw [Sys.Holds, sameList, sameDev]
    exact dev ▸ carrying.holds
  rw [work₁.connLog] at viewed
  exact ⟨calm, ⟨calm.sound carrying.sound, holding, viewed, opened⟩, sameDev⟩

include carrying ready work run dev owned opened grants in
/-- `connection_device_input` and the acknowledgement behind it. -/
theorem connectionDeviceInput_calm (payload : Bytes) (heard : lax.hears c payload)
    (room : lax.rash ∨ m.Accepts payload) :
    Calm lax served S (sendTcpAck env c (connectionDeviceInput env c payload s)).sys := by
  simp only [connectionDeviceInput, work.record]
  split
  · next full =>
    have calm : Calm lax served S (connectionTeardown env c s).sys :=
      abandon env carrying grants work (gone_of_run run) dev owned (.inl opened)
    exact calm.trans (sendTcpAck_released served env
      (connectionTeardown_released env work.record (by simp [opened])) (room.imp_right fun fits => absurd full fits))
  · obtain ⟨calm, carrying₁, sameDev⟩ := accept_calm carrying work run dev owned opened served payload heard
    refine calm.trans (sendTcpAck_calm env grants carrying₁ ?_ (working_self carrying₁.present) .refl rfl rfl opened)
    rw [sameDev]
    exact dev ▸ ready

include carrying ready work run dev owned opened grants in
/-- Where nothing else is heard, payload is taken at most once. -/
theorem connectionDeviceInput_accepted (free : lax.rash ∨ lax.poor) (silent : ∀ bytes, ¬lax.hears c bytes)
    (payload : Bytes) :
    let log' := (sendTcpAck env c (connectionDeviceInput env c payload s)).mux.connLog c
    accepted log' = accepted log₀ ∨ accepted log' = accepted log₀ ++ payload := by
  intro log'
  have unmoved : accepted log = accepted log₀ := run.deaf silent
  simp only [log', connectionDeviceInput, work.record]
  split
  · have calm : Calm lax none S (connectionTeardown env c s).sys :=
      abandon env carrying grants work (gone_of_run run) dev owned (.inl opened)
    have calm := calm.trans (sendTcpAck_released none env
      (connectionTeardown_released env work.record (by simp [opened])) free)
    have same := (calm.run.connRun carrying.sound c).deaf silent
    rw [carrying.present] at same
    exact .inl same
  · -- storing the payload is the only change for which the connection must be able to hear
    have wide : Carrying { lax with hears := fun _ _ => True } S c m₀ log₀ :=
      ⟨carrying.sound.hearing _, carrying.holds, carrying.present, carrying.opened⟩
    obtain ⟨_, carrying₁, sameDev⟩ := accept_calm wide work
      (ConnRun.mono (fun _ _ => trivial) run) dev owned opened none payload trivial
    have carrying₂ : Carrying lax _ c _ _ :=
      ⟨carrying₁.sound.hearing lax.hears, carrying₁.holds, carrying₁.present, carrying₁.opened⟩
    have calm : Calm lax none _ _ := sendTcpAck_calm env grants carrying₂ (by rw [sameDev]; exact dev ▸ ready)
      (working_self carrying₂.present) .refl rfl rfl opened
    have same := (calm.run.connRun carrying₂.sound c).deaf silent
    rw [carrying₂.present] at same
    refine .inr (same.trans ?_)
    simp [unmoved]

end Input

end Usbmuxd
