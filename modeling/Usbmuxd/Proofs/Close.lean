import Usbmuxd.Proofs.Clients
import Usbmuxd.Proofs.Send

/-! # How clients end

`client_close` releases a client and aborts the connection it was waiting for. On the way there:
the lookups by device id and client, the flush of buffered data, a daemon at work on one
connection, and the teardown of a connection that has no client any more.
-/

namespace Usbmuxd

open Collection ConnLog ConnEvent

/-- A run in which no device comes, goes or changes its state, and no connection is added. -/
structure Calm (lax : Laxity) (served : Option ClientPtr) (S S' : Sys) : Prop where
  run : SysRun lax served S S'
  list : S'.deviceList = S.deviceList
  phase : S'.phase = S.phase
  quiet : ∀ d, Quiet (S.dev d) (S'.dev d)

namespace Calm

variable {lax : Laxity} {served : Option ClientPtr} {S S' S'' : Sys}

theorem identity (calm : Calm lax served S S') (d : DevPtr) : (S.dev d).1.SameIdentity (S'.dev d).1 :=
  (calm.quiet d).identity

theorem refl (S : Sys) : Calm lax served S S := ⟨.refl, rfl, rfl, fun _ => .refl _⟩

theorem trans (one : Calm lax served S S') (two : Calm lax served S' S'') : Calm lax served S S'' :=
  ⟨one.run.trans two.run, two.list.trans one.list, two.phase.trans one.phase,
    fun d => (one.quiet d).trans (two.quiet d)⟩

/-- A run that leaves all devices alone. -/
theorem of_run (run : SysRun lax served S S') (list : S'.deviceList = S.deviceList) (phase : S'.phase = S.phase)
    (dev : S'.dev = S.dev) : Calm lax served S S' :=
  ⟨run, list, phase, fun d => by rw [dev]; exact .refl _⟩

/-- A run that changes one device quietly. -/
theorem of_setDev {d : DevPtr} {view : DevView} (run : SysRun lax served S (S.setDev d view))
    (quiet : Quiet (S.dev d) view) : Calm lax served S (S.setDev d view) := by
  refine ⟨run, rfl, rfl, fun d' => ?_⟩
  by_cases same : d' = d
  · subst same
    simpa using quiet
  · simpa [Sys.setDev, same] using .refl _

theorem sound (calm : Calm lax served S S') (before : Sound lax S) : Sound lax S' := calm.run.sound before

/-- A run whose effect on the devices is that one of them loses a connection. -/
theorem of_unhold {c : ConnPtr} {d : DevPtr} (run : SysRun lax served S S') (list : S'.deviceList = S.deviceList)
    (phase : S'.phase = S.phase) (dev : S'.dev = (S.unhold d c).dev) (once : (S.dev d).1.connections.Nodup) :
    Calm lax served S S' ∧ c ∉ (S'.dev d).1.connections := by
  refine ⟨⟨run, list, phase, fun d' => ?_⟩, ?_⟩
  · rw [dev]
    by_cases same : d' = d
    · subst same
      rw [Sys.unhold, Sys.setDev_dev]
      exact ⟨⟨rfl, rfl, rfl⟩, List.erase_subset, rfl, rfl⟩
    · simpa [Sys.unhold, Sys.setDev, same] using .refl _
  · rw [dev]
    simpa [Sys.unhold] using once.not_mem_erase

end Calm

theorem getMuxDeviceForId_mem {deviceId : ℕ} {d : DevPtr} {x : Mux} (found : getMuxDeviceForId deviceId x = some d) :
    d ∈ x.deviceList ∧ (x.dev d).id = deviceId := by
  refine ⟨List.mem_of_find?_eq_some found, ?_⟩
  simpa using List.find?_some found

/-- The devices of a state agree with a system. -/
structure SameDevices (S : Sys) (x : Mux) : Prop where
  list : x.deviceList = S.deviceList
  dev : ∀ d, (x.dev d, x.devLog d) = S.dev d

/-- Devices and connections of a state agree with a system. -/
structure SameMux (S : Sys) (x : Mux) : Prop extends SameDevices S x where
  conn : ∀ c, (x.conn c, x.connLog c) = S.conn c

theorem sameMux_sys (s : Daemon) : SameMux s.sys s.mux := ⟨⟨rfl, fun _ => rfl⟩, fun _ => rfl⟩

section Lookup

variable {S : Sys} {x : Mux}

private theorem getMuxDeviceForId_eq (registry : Registry S) (same : SameDevices S x) {d : DevPtr}
    (listed : d ∈ S.deviceList) :
    getMuxDeviceForId (S.dev d).1.id x = some d := by
  rcases h : getMuxDeviceForId (S.dev d).1.id x with _ | d'
  · have none := List.find?_eq_none.mp h d (same.list ▸ listed)
    simp [← same.dev d] at none
  · obtain ⟨listed', equal⟩ := getMuxDeviceForId_mem h
    rw [registry.ids d' (same.list ▸ listed') d listed (by rw [← equal, ← same.dev d'])]

/-- What `get_mux_connection` finds for the device a client asked for: its connection, if it has one. -/
theorem getMuxConnection_spec (linked : Linked S) (same : SameMux S x) {k : ClientPtr} {client : MuxClient}
    (present : (S.client k).1 = some client) :
    (getMuxConnection client.connectDevice k x = none ∧ ∀ d c, S.Holds d c → S.clientOf c ≠ some k) ∨
      ∃ d c, getMuxConnection client.connectDevice k x = some c ∧ S.Holds d c ∧ S.clientOf c = some k ∧
        getMuxDeviceForId client.connectDevice x = some d := by
  have records (c : ConnPtr) : x.conn c = (S.conn c).1 := congrArg Prod.fst (same.conn c)
  have connections (d : DevPtr) : (x.dev d).connections = (S.dev d).1.connections := by rw [← same.dev d]
  rcases found : getMuxConnection client.connectDevice k x with _ | c
  · refine .inl ⟨rfl, fun d c holding named => ?_⟩
    obtain ⟨m, k', client', record, _, owner, present', device, _⟩ := linked.links.held d c holding
    obtain rfl : k' = k := by simpa [Sys.clientOf, record, owner] using named
    obtain rfl : client = client' := Option.some.inj (present.symm.trans present')
    have lookup := getMuxDeviceForId_eq linked.registry same.toSameDevices holding.1
    rw [← device] at lookup
    simp only [getMuxConnection, lookup, Option.bind_some, List.find?_eq_none, connections] at found
    exact found c holding.2 (by simp [Mux.hasClient, records, record, owner])
  · right
    obtain ⟨d, lookup, search⟩ := Option.bind_eq_some_iff.mp found
    have mine : x.hasClient k c = true := List.find?_some search
    obtain ⟨m, record, owner⟩ := (Option.any_eq_true ..).mp mine
    refine ⟨d, c, rfl, ⟨same.list ▸ (getMuxDeviceForId_mem lookup).1, ?_⟩, ?_, lookup⟩
    · rw [← connections]
      exact List.mem_of_find?_eq_some search
    · rw [records] at record
      simpa [Sys.clientOf, record] using owner

/-- Looking up a client's connection reads a collection; before the handshake that is a fault. -/
theorem touchNamed_run {lax : Laxity} (served : Option ClientPtr) (wires : ∀ d, WireOk lax.early (S.dev d))
    (same : SameDevices S x) (faults : x.faults = S.faults) (deviceId : ℕ)
    (ready : ∀ d, getMuxDeviceForId deviceId x = some d → (S.dev d).1.state = .init → lax.early) :
    ∃ faults', touchNamed deviceId x = { x with faults := faults' } ∧
      SysRun lax served S { S with faults := faults' } := by
  rcases found : getMuxDeviceForId deviceId x with _ | d
  · exact ⟨x.faults, by simp [touchNamed, found], by rw [faults]⟩
  · have dev : x.dev d = (S.dev d).1 := congrArg Prod.fst (same.dev d)
    by_cases initialised : (x.dev d).initialised = true
    · exact ⟨x.faults, by simp [touchNamed, found, Mux.touchConnections, initialised], by rw [faults]⟩
    · refine ⟨x.faults ++ [.uninitialisedConnections d], ?_, ?_⟩
      · simp [touchNamed, found, Mux.touchConnections, initialised, Mux.fault]
      · rw [faults]
        refine .single (.fault S _ (ready d found ?_))
        by_contra begun
        rw [dev] at initialised
        exact initialised ((wires d).initialised.mpr begun)

end Lookup

section Flush

variable (env : Env) (c : ConnPtr) (k : ClientPtr)

/-- What writes to the tunnel leave in the log: nothing, unless the tunnel is open. -/
def Tunnels (client : MuxClient) (traffic : List ClientEvent) : Prop :=
  traffic = [] ∨ client.state = .connected ∧ ∀ event ∈ traffic, event.isTunnelled

private theorem Tunnels.append {client : MuxClient} {one two : List ClientEvent} (first : Tunnels client one)
    (second : Tunnels client two) : Tunnels client (one ++ two) := by
  rcases first with rfl | ⟨connected, all⟩
  · exact second
  · refine .inr ⟨connected, fun event member => ?_⟩
    rcases second with rfl | ⟨_, all'⟩
    · exact all event (by simpa using member)
    · exact (List.mem_append.mp member).elim (all event) (all' event)

theorem Tunnels.farewell {client : MuxClient} {traffic : List ClientEvent} (tunnels : Tunnels client traffic)
    (rules : ClientRules) : Farewell rules client traffic := by
  rcases tunnels with rfl | ⟨connected, all⟩
  · exact .quiet
  · exact .flushed connected all

variable {client : MuxClient}

private theorem clientWrite_sys (buffer : Bytes) (s : Daemon) (present : (s.sys.client k).1 = some client) :
    ∃ traffic, Tunnels client traffic ∧ (s.setClients (clientWrite env k buffer s.clients).2).sys =
      s.sys.setClient k (some client, (s.sys.client k).2 ++ traffic) := by
  rcases clientWrite_spec env (k := k) (s := s.clients) present buffer with same | ⟨connected, bytes, appended⟩
  · refine ⟨[], .inl rfl, ?_⟩
    rw [same.sys, List.append_nil, ← present, Sys.setClient_self]
  · exact ⟨[.tunnelled bytes], .inr ⟨connected, by simp⟩, appended.sys⟩

/-- The flush loop writes successive pieces of the buffer, whatever the socket and the clock say. -/
private theorem flushLoop_sys (rounds : ℕ) (last : UInt64) (buffer : Bytes) (s : Daemon)
    (present : (s.sys.client k).1 = some client) :
    ∃ (flushes : List ConnEvent) (traffic : List ClientEvent), Flushes buffer flushes ∧ Tunnels client traffic ∧
      (flushLoop env c k rounds last buffer s).sys =
        (s.sys.setConn c ((s.sys.conn c).1, (s.sys.conn c).2 ++ flushes)).setClient k
          (some client, (s.sys.client k).2 ++ traffic) := by
  induction rounds generalizing last buffer s with
  | zero => exact ⟨[], [], .nil _, .inl rfl, by simp [flushLoop, ← present]⟩
  | succ rounds ih =>
    obtain ⟨traffic, silent, wrote⟩ := clientWrite_sys env k buffer s present
    have bound := clientWrite_le env k s.clients buffer
    simp only [flushLoop]
    set w := clientWrite env k buffer s.clients with definition
    split
    · exact ⟨[], traffic, .nil _, silent, by rw [wrote]; simp⟩
    · split
      · split
        · exact ⟨[], traffic, .nil _, silent, by rw [sys_bump, setMux_mux, wrote]; simp⟩
        · obtain ⟨flushes, later, flush, silent', after⟩ := ih last buffer
            ((s.setClients w.2).setMux (s.setClients w.2).mux.bump) (by rw [sys_bump, setMux_mux, wrote]; simp)
          refine ⟨flushes, traffic ++ later, flush, silent.append silent', ?_⟩
          · rw [after, sys_bump, setMux_mux, wrote]
            simp [Sys.setClient, Sys.setConn]
      · next negative zero =>
        have positive : 0 < w.1.toNat := by omega
        have inside : w.1.toNat ≤ buffer.length := by omega
        have written : ((s.setClients w.2).setMux
            ((s.setClients w.2).mux.logConn c (.flushed (buffer.take w.1.toNat)))).sys =
            (s.sys.setConn c ((s.sys.conn c).1, (s.sys.conn c).2 ++ [.flushed (buffer.take w.1.toNat)])).setClient k
              (some client, (s.sys.client k).2 ++ traffic) := by
          rw [sys_logConn, setMux_mux, wrote]
          simp [Sys.setClient, Sys.setConn]
        split
        · exact ⟨[.flushed (buffer.take w.1.toNat)], traffic, .cons positive inside (.nil _), silent, written⟩
        · obtain ⟨flushes, later, flush, silent', after⟩ := ih
            (env.usb ((s.setClients w.2).mux.logConn c (.flushed (buffer.take w.1.toNat))).tick).now
            (buffer.drop w.1.toNat)
            (((s.setClients w.2).setMux ((s.setClients w.2).mux.logConn c (.flushed (buffer.take w.1.toNat)))).setMux
              ((s.setClients w.2).mux.logConn c (.flushed (buffer.take w.1.toNat))).bump)
            (by rw [setMux_setMux, sys_bump, written]; simp)
          refine ⟨.flushed (buffer.take w.1.toNat) :: flushes, traffic ++ later, .cons positive inside flush,
            silent.append silent', ?_⟩
          · refine after.trans ?_
            rw [setMux_setMux, sys_bump]
            rw [written]
            simp [Sys.setClient, Sys.setConn]

/-- The flush of a teardown. -/
theorem flushClient_sys (m : MuxConnection) (s : Daemon) (present : (s.sys.client k).1 = some client) :
    ∃ (flushes : List ConnEvent) (traffic : List ClientEvent), Flushes m.ibBuf flushes ∧ Tunnels client traffic ∧
      (flushClient env c k m s).sys =
        (s.sys.setConn c ((s.sys.conn c).1, (s.sys.conn c).2 ++ flushes)).setClient k
          (some client, (s.sys.client k).2 ++ traffic) := by
  simp only [flushClient]
  split
  · exact flushLoop_sys env c k _ _ m.ibBuf (s.setMux s.mux.bump) present
  · exact ⟨[], [], .nil _, .inl rfl, by simp [← present]⟩

end Flush

/-- The daemon is at work on one connection; the rest of the system is `S`. -/
def Working (S : Sys) (c : ConnPtr) (m : MuxConnection) (log : List ConnEvent) (s : Daemon) : Prop :=
  s.sys = S.setConn c (some m, log)

/-- A held connection is never on a device in its handshake, unless the run is lax. -/
theorem Sound.ready {lax : Laxity} {S : Sys} (sound : Sound lax S) {d : DevPtr} {c : ConnPtr} (holding : S.Holds d c) :
    (S.dev d).1.state = .init → lax.early := by
  intro waiting
  rcases sound.strict with free | strict
  · exact free
  · have empty := strict.inert d holding.1 waiting
    simpa [empty] using holding.2

namespace Working

variable {S : Sys} {c : ConnPtr} {m : MuxConnection} {log : List ConnEvent} {s : Daemon} (work : Working S c m log s)
include work

theorem sys : s.sys = S.setConn c (some m, log) := work

theorem view : s.sys.conn c = (some m, log) := by rw [work.sys, Sys.setConn_conn]

theorem record : s.mux.conn c = some m := congrArg Prod.fst work.view

theorem connLog : s.mux.connLog c = log := congrArg Prod.snd work.view

theorem devView (d : DevPtr) : s.sys.dev d = S.dev d := by rw [work.sys]; rfl

private theorem dev (d : DevPtr) : s.mux.dev d = (S.dev d).1 := congrArg Prod.fst (work.devView d)

theorem clientView (k : ClientPtr) : s.sys.client k = S.client k := by rw [work.sys]; rfl

theorem client (k : ClientPtr) : s.clients.client k = (S.client k).1 := congrArg Prod.fst (work.clientView k)

/-- A segment leaves, with or without data. -/
theorem sendTcp {lax : Laxity} (wires : ∀ d, WireOk lax.early (S.dev d)) (env : Env) (flags : UInt8) (data : Bytes) :
    ∃ view now, Sent (S.dev m.dev) view ∧ (s.setMux (sendTcp env c flags data s.mux).2).sys =
      (S.setDev m.dev view).setConn c (some (if 0 ≤ (Usbmuxd.sendTcp env c flags data s.mux).1 then m.acked now else m),
        log ++ [.segment (m.header flags) data (Usbmuxd.sendTcp env c flags data s.mux).1]) := by
  have numbered : (s.mux.dev m.dev).unnumbered = false := by
    rw [work.dev]
    exact (wires m.dev).not_unnumbered
  obtain ⟨view, now, sent, after⟩ := sendTcp_sys env c flags data s work.record numbered
  refine ⟨view, now, work.devView m.dev ▸ sent, ?_⟩
  rw [after, work.sys, work.connLog, Sys.setConn_setDev, Sys.setConn_setConn]

/-- The reset of a teardown, if one is sent. -/
theorem sendRst {lax : Laxity} (wires : ∀ d, WireOk lax.early (S.dev d)) (env : Env) :
    ∃ view m' reset, Sent (S.dev m.dev) view ∧ ((S.dev m.dev).1.state = .dead → view = S.dev m.dev) ∧
      (m' = m ∨ ∃ now, m' = m.acked now) ∧ (reset = [] ∨ ∃ res, reset = [.segment (m.header thRst) [] res]) ∧
      (if m.sendsRst (s.mux.dev m.dev) then s.setMux (Usbmuxd.sendTcp env c thRst [] s.mux).2 else s).sys =
        (S.setDev m.dev view).setConn c (some m', log ++ reset) := by
  split
  · next announced =>
    obtain ⟨view, now, sent, after⟩ := work.sendTcp wires env thRst []
    refine ⟨view, _, _, sent, fun dead => ?_, ?_, .inr ⟨_, rfl⟩, after⟩
    · simp [MuxConnection.sendsRst, work.dev, dead] at announced
    · split
      · exact .inr ⟨now, rfl⟩
      · exact .inl rfl
  · exact ⟨S.dev m.dev, m, [], .inl rfl, fun _ => rfl, .inl rfl, .inl rfl, by simp [work.sys]⟩

end Working

/-- A reset is only sent on a device that is not dead. -/
theorem Sent.reset_run {lax : Laxity} {served : Option ClientPtr} {S : Sys} {d : DevPtr} {view : DevView}
    (sent : Sent (S.dev d) view) (listed : d ∈ S.deviceList) (ready : (S.dev d).1.state = .init → lax.early)
    (silent : (S.dev d).1.state = .dead → view = S.dev d) : SysRun lax served S (S.setDev d view) := by
  cases state : (S.dev d).1.state with
  | init => exact sent.run listed (.inr (ready state))
  | active => exact sent.run listed (.inl state)
  | dead =>
    rw [silent state, Sys.setDev_self]

/-- `free` and `collection_remove`. -/
theorem sys_unlink (s : Daemon) (x : Mux) (c : ConnPtr) (d : DevPtr) :
    (s.setMux (x.unlink c d)).sys = ((s.setMux x).sys.setConn c (none, ((s.setMux x).sys.conn c).2)).unhold d c := by
  simp only [Mux.unlink, sys_setDev, sys_freeConn]
  rfl

/-- Teardown of a connection without client. -/
theorem teardown_noClient {lax : Laxity} (close : ClientPtr → Daemon → Daemon) (env : Env) {S : Sys} {c : ConnPtr}
    {m : MuxConnection} {log : List ConnEvent} {s : Daemon} (work : Working S c m log s)
    (wires : ∀ d, WireOk lax.early (S.dev d)) (noClient : m.client = none) (alive : m.state ≠ .dead) :
    ∃ view tail, Sent (S.dev m.dev) view ∧ ((S.dev m.dev).1.state = .dead → view = S.dev m.dev) ∧ TearLog m tail ∧
      (connectionTeardownWith close env c s).sys =
        ((S.setDev m.dev view).setConn c (none, log ++ tail)).unhold m.dev c := by
  obtain ⟨view, m', reset, sent, silent, _, shape, after⟩ := work.sendRst wires env
  refine ⟨view, reset, sent, silent, ?_, ?_⟩
  · rcases shape with rfl | ⟨res, rfl⟩
    · exact .silent (.nil _)
    · exact .reset res (.nil _)
  · simp only [connectionTeardownWith, work.record, if_neg alive, noClient]
    rw [sys_unlink, setMux_mux, after]
    simp

/-- The device a waiting client asked for has completed its handshake, unless the run is lax. -/
theorem Sound.device_ready {lax : Laxity} {S : Sys} (sound : Sound lax S) {x : Mux} (same : SameDevices S x)
    {k : ClientPtr}
    {client : MuxClient} (present : (S.client k).1 = some client) (engaged : client.state.engaged) :
    ∀ d, getMuxDeviceForId client.connectDevice x = some d → (S.dev d).1.state = .init → lax.early := by
  intro d found waiting
  rcases sound.strict with free | strict
  · exact free
  obtain ⟨listed, named⟩ := getMuxDeviceForId_mem found
  have named : (S.dev d).1.id = client.connectDevice := by rw [← same.dev d, named]
  exact absurd named ((strict.asked k client present engaged).2 d (same.list ▸ listed) waiting)

theorem sameMux_of_post {S : Sys} {s : Daemon} {k : ClientPtr} {view : ClientView} {harm : List ClientFault}
    (state : s.sys = S.post k view harm) : SameMux S s.mux ∧ s.mux.faults = S.faults :=
  ⟨⟨⟨congrArg Sys.deviceList state, fun d => congrFun (congrArg Sys.dev state) d⟩,
    fun c => congrFun (congrArg Sys.conn state) c⟩, congrArg Sys.faults state⟩

/-- Between steps no connection is dead. -/
theorem Sound.not_dead {lax : Laxity} {S : Sys} (sound : Sound lax S) {c : ConnPtr} {m : MuxConnection}
    {log : List ConnEvent} (present : S.conn c = (some m, log)) : m.state = .connecting ∨ m.state = .connected := by
  have settled := (sound.conns c).2
  rw [present] at settled
  exact settled.imp And.left And.left

/-- `device_abort_connect` for a client that is about to be closed: its connection goes, if it has one. -/
private theorem deviceAbortConnect_sys {lax : Laxity} (served : Option ClientPtr) (env : Env) {S : Sys} {s : Daemon}
    (sound : Sound lax S) {k : ClientPtr} {client : MuxClient} {clientLog : List ClientEvent} {view : ClientView}
    {harm : List ClientFault} (present : S.client k = (some client, clientLog)) (engaged : client.state.engaged)
    (state : s.sys = S.post k view harm) :
    ∃ S', Calm lax served S S' ∧ S'.client = S.client ∧ S'.harm = S.harm ∧
      (((deviceAbortConnect env client.connectDevice k s).sys = S'.post k view harm ∧
          ∀ d c, S'.Holds d c → S'.clientOf c ≠ some k) ∨
        ∃ c m log log', S'.Holds m.dev c ∧ S'.conn c = (some m, log) ∧ m.client = some k ∧
          ConnRun (lax.hears c) (some m, log) (none, log') ∧
          (deviceAbortConnect env client.connectDevice k s).sys =
            ((S'.setConn c (none, log')).unhold m.dev c).post k view harm) := by
  obtain ⟨same, faults⟩ := sameMux_of_post state
  have known : (S.client k).1 = some client := by rw [present]
  obtain ⟨faults', touched, run⟩ := touchNamed_run served sound.wires same.toSameDevices faults
    client.connectDevice (sound.device_ready same.toSameDevices known engaged)
  set S₁ : Sys := { S with faults := faults' } with definition
  have calm : Calm lax served S S₁ := .of_run run rfl rfl rfl
  have sound₁ : Sound lax S₁ := calm.sound sound
  have state₁ : (s.setMux (touchNamed client.connectDevice s.mux)).sys = S₁.post k view harm := by
    rw [touched]
    exact congrArg (fun T : Sys => { T with faults := faults' }) state
  have same₁ : SameMux S₁ (touchNamed client.connectDevice s.mux) := (sameMux_of_post state₁).1
  rcases getMuxConnection_spec sound₁.linked same₁ known with ⟨nothing, free⟩ | ⟨d, c, found, holding, named, _⟩
  · refine ⟨S₁, calm, rfl, rfl, .inl ⟨?_, free⟩⟩
    simp only [deviceAbortConnect, Daemon.setMux] at nothing ⊢
    rw [nothing]
    exact state₁
  · obtain ⟨m, k', _, record, dev, owner, _⟩ := sound₁.linked.links.held d c holding
    obtain rfl : k' = k := by simpa [Sys.clientOf, record, owner] using named
    subst dev
    obtain ⟨log, viewed⟩ : ∃ log, S₁.conn c = (some m, log) := ⟨_, Prod.ext record rfl⟩
    have stored : (touchNamed client.connectDevice s.mux).conn c = some m :=
      (congrArg Prod.fst (same₁.conn c)).trans record
    have forgotten : ConnRun (lax.hears c) (some m, log) (some { m with client := none }, log) :=
      .single (.forget m log)
    have work : Working (S₁.post k' view harm) c { m with client := none } log
        (s.setMux ((touchNamed client.connectDevice s.mux).setConn c { m with client := none })) := by
      rw [Working, sys_setConn, state₁]
      exact congrArg (fun l => (S₁.post k' view harm).setConn c (some { m with client := none }, l))
        (congrArg Prod.snd viewed)
    have alive : ({ m with client := none } : MuxConnection).state ≠ .dead := by
      rcases sound₁.not_dead viewed with waiting | opened
      · simp [waiting]
      · simp [opened]
    obtain ⟨devView, tail, sent, silent, tear, after⟩ :=
      teardown_noClient (fun _ s => s) env work sound₁.wires rfl alive
    have sent : Sent (S₁.dev m.dev) devView := sent
    have reset : Calm lax served S₁ (S₁.setDev m.dev devView) :=
      .of_setDev (sent.reset_run holding.1 (sound₁.ready holding) silent) sent.quiet
    refine ⟨S₁.setDev m.dev devView, calm.trans reset, rfl, rfl,
      .inr ⟨c, m, log, log ++ tail, ?_, viewed, owner, forgotten.tail (.tear _ _ _ tear), ?_⟩⟩
    · exact (Sys.holds_setDev sent.core.2 m.dev c).mpr holding
    · have unfolded : deviceAbortConnect env client.connectDevice k' s =
          connectionTeardownWith (fun _ s => s) env c
            (s.setMux ((touchNamed client.connectDevice s.mux).setConn c { m with client := none })) := by
        simp only [deviceAbortConnect, Daemon.setMux, found, stored]
      rw [unfolded, after]
      rfl

/-- `client_close` of a client whose connection, if any, is still being set up. Messages queued for it
since the last step are part of its farewell. -/
theorem clientClose_calm {lax : Laxity} {served : Option ClientPtr} (env : Env) {S : Sys} {s : Daemon}
    (sound : Sound lax S) {k : ClientPtr} {client client' : MuxClient} {clientLog events : List ClientEvent}
    {harm : List ClientFault} (cause : served = some k ∨ lax.ends) (present : S.client k = (some client, clientLog))
    (state : s.sys = S.post k (some client', clientLog ++ events) harm) (hurt : S.Hurt harm)
    (sameState : client'.state = client.state) (sameDevice : client'.connectDevice = client.connectDevice)
    (farewell : Farewell (lax.rules served harm k) client events)
    (apart : client.state ≠ .connecting1 → client.state ≠ .connecting2 → ∀ d c, S.Holds d c → S.clientOf c ≠ some k) :
    Calm lax served S (clientClose env k s).sys := by
  have view : s.sys.client k = (some client', clientLog ++ events) := by rw [state, Sys.post, Sys.setClient_client]
  have stored : s.clients.client k = some client' := congrArg Prod.fst view
  have listed : k ∈ s.clients.clientList := by
    have lists : s.clients.clientList = S.clientList := congrArg Sys.clientList state
    rw [lists]
    exact (sound.linked.roster.listed k).mpr (by simp [present])
  simp only [clientClose, if_pos listed, stored, sameState]
  split
  · next waiting =>
    have engaged : client.state.engaged := by
      rcases waiting with waiting | waiting <;> simp [waiting, ClientState.engaged]
    have dying : (s.setClients (s.clients.setClient k { client' with state := .dead })).sys =
        S.post k (some { client' with state := .dead }, clientLog ++ events) harm := by
      rw [sys_setClient, setClients_clients, view, state]
      simp [Sys.post, Sys.setClient]
    obtain ⟨S', calm, clients, same, outcome⟩ :=
      deviceAbortConnect_sys served env sound present engaged dying
    rw [← sameDevice] at outcome
    refine calm.trans ?_
    rw [sys_release, setClients_clients]
    have present' : S'.client k = (some client, clientLog) := by rw [clients, present]
    have hurt' : S'.Hurt harm := ⟨same ▸ hurt.grown, same ▸ hurt.mild⟩
    rcases outcome with ⟨after, free⟩ | ⟨c, m, log, log', holds, viewed, owner, gone, after⟩
    · rw [after, Sys.post, Sys.setClient_client]
      have step : SysStep lax served S' _ := .close S' k harm hurt' cause present' free farewell
      refine .of_run (.single ?_) rfl rfl rfl
      simpa [Sys.release, Sys.setClient] using step
    · rw [after, Sys.post, Sys.setClient_client]
      have step : SysStep lax served S' _ := .dropped S' c k harm hurt' holds viewed owner gone present' farewell
      have once := (calm.sound sound).linked.links.once _ holds.1
      have parted := (Calm.of_unhold (.single step) rfl rfl rfl once).1
      simpa [Sys.release, Sys.setClient, Sys.unhold, Sys.setDev, Sys.setConn] using parted
  · next idle =>
    rw [not_or] at idle
    rw [sys_release, setClients_clients, view, state]
    have step : SysStep lax served S _ := .close S k harm hurt cause present (apart idle.1 idle.2) farewell
    refine .of_run (.single ?_) rfl rfl rfl
    simpa [Sys.post, Sys.release, Sys.setClient] using step

/-- The same, for a client that was told nothing. -/
theorem clientClose_quiet {lax : Laxity} {served : Option ClientPtr} (env : Env) {s : Daemon} (sound : Sound lax s.sys)
    {k : ClientPtr} {client : MuxClient} (cause : served = some k ∨ lax.ends)
    (present : s.clients.client k = some client)
    (apart : client.state ≠ .connecting1 → client.state ≠ .connecting2 →
      ∀ d c, s.sys.Holds d c → s.sys.clientOf c ≠ some k) : Calm lax served s.sys (clientClose env k s).sys := by
  have view : s.sys.client k = (some client, (s.sys.client k).2) := Prod.ext present rfl
  have unsent : s.sys = s.sys.post k (some client, (s.sys.client k).2 ++ []) s.sys.harm := by
    rw [List.append_nil, ← view, Sys.post, Sys.setClient_self]
  exact clientClose_calm env sound cause view unsent (.refl _) rfl rfl .quiet apart

end Usbmuxd
