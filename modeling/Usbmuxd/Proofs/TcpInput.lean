import Usbmuxd.Proofs.Tunnel

/-! # Segments from the device

`device_tcp_input`: the reset for a segment nobody waits for, the answer to a connection request,
and data. The client of a request that the device accepts is told so in the same step in which the
connection opens.
-/

namespace Usbmuxd

open Collection ConnLog ConnEvent

/-- A connection attempt in a sound system, with the client that waits for it. -/
structure Attempting (lax : Laxity) (S : Sys) (c : ConnPtr) (m : MuxConnection) (log : List ConnEvent) (k : ClientPtr)
    (client : MuxClient) (clientLog : List ClientEvent) : Prop where
  sound : Sound lax S
  holds : S.Holds m.dev c
  present : S.conn c = (some m, log)
  waiting : m.state = .connecting
  owner : m.client = some k
  calling : S.client k = (some client, clientLog)
  pending : client.state = .connecting1

/-- A held connection is an attempt or an open connection. -/
theorem Sound.attempting_or_carrying {lax : Laxity} {S : Sys} (sound : Sound lax S) {d : DevPtr} {c : ConnPtr}
    {m : MuxConnection} {log : List ConnEvent} (holds : S.Holds d c) (present : S.conn c = (some m, log)) :
    m.dev = d ∧ ((∃ k client clientLog, Attempting lax S c m log k client clientLog) ∨ Carrying lax S c m log) := by
  obtain ⟨dev, k, client, owner, known, _, fits⟩ := sound.linked.links.record holds present
  subst dev
  refine ⟨rfl, ?_⟩
  rcases sound.not_dead present with waiting | opened
  · have pending : client.state = .connecting1 := ConnState.fits_connecting (waiting ▸ fits.state)
    exact .inl ⟨k, client, (S.client k).2, sound, holds, present, waiting, owner, Prod.ext known rfl, pending⟩
  · exact .inr ⟨sound, holds, present, opened⟩

namespace Attempting

variable {lax : Laxity} {S : Sys} {c : ConnPtr} {m : MuxConnection} {log : List ConnEvent} {k : ClientPtr}
  {client : MuxClient} {clientLog : List ClientEvent} (attempting : Attempting lax S c m log k client clientLog)
include attempting

theorem unopened : synAcks log = [] := by
  have settled := (attempting.sound.conns c).2
  rw [attempting.present] at settled
  rcases settled with ⟨_, unopened⟩ | ⟨opened, _⟩
  · exact unopened
  · simp [attempting.waiting] at opened

private theorem buffer : client.obBuf.isSome :=
  attempting.sound.linked.roster.output k client (by rw [attempting.calling]) (by simp [attempting.pending])

private theorem setDev {served : Option ClientPtr} {view : DevView} (calm : Calm lax served S (S.setDev m.dev view))
    (connections : view.1.connections = (S.dev m.dev).1.connections) :
    Attempting lax (S.setDev m.dev view) c m log k client clientLog :=
  { attempting with
    sound := calm.sound attempting.sound
    holds := (Sys.holds_setDev connections _ _).mpr attempting.holds }

private theorem abandon (env : Env) {s : Daemon} {m' : MuxConnection} {log' : List ConnEvent}
    (grants : Grants env lax) (work : Working S c m' log' s)
    (run : ConnRun (lax.hears c) (some m, log) (some m', log')) (dev : m'.dev = m.dev) (owned : m'.client = m.client)
    (state : m'.state = .connecting ∨ m'.state = .refused) (hopeless : Hopeless log') :
    Calm lax none S (connectionTeardown env c s).sys :=
  (connectionTeardown_calm env attempting.sound attempting.holds attempting.present work dev owned
    (.inl ⟨attempting.waiting, state⟩) (gone_of_run run) (fun _ => hopeless) (.inl rfl) grants).1

/-- A connection that opens although its client cannot be told is given up; the last store to it
comes too late. -/
private theorem unannounced {served : Option ClientPtr} (env : Env) {s : Daemon} {m' : MuxConnection}
    {log' : List ConnEvent}
    (free : lax.poor) (work : Working S c m' log' s) (run : ConnRun (lax.hears c) (some m, log) (some m', log'))
    (dev : m'.dev = m.dev) (state : m'.state = .connected) (noClient : m'.client = none) :
    Calm lax served S (updateConnection c (connectionTeardown env c s)).sys := by
  have alive : m'.state ≠ .dead := by simp [state]
  obtain ⟨view, tail, sent, silent, tear, after⟩ :=
    teardown_noClient (clientClose env) env work attempting.sound.wires noClient alive
  have ended : (connectionTeardown env c s).sys =
      ((S.setDev m.dev view).setConn c (none, log' ++ tail)).unhold m.dev c := by
    rw [← dev]
    exact after
  rw [dev] at sent silent
  have calm : Calm lax served S (S.setDev m.dev view) :=
    .of_setDev (sent.reset_run attempting.holds.1 (attempting.sound.ready attempting.holds) silent) sent.quiet
  have attempting' := attempting.setDev calm sent.core.2
  have dropped : Calm lax served (S.setDev m.dev view) (connectionTeardown env c s).sys := by
    rw [ended]
    have step : SysStep lax served (S.setDev m.dev view) _ :=
      .orphaned _ c attempting'.holds attempting.present (gone_of_run run tail tear) free
    exact (Calm.of_unhold (.single step) rfl rfl rfl (attempting'.sound.linked.links.once _ attempting'.holds.1)).1
  have released := connectionTeardown_released env work.record alive
  have late : (updateConnection c (connectionTeardown env c s)).sys =
      { (connectionTeardown env c s).sys with
        faults := (connectionTeardown env c s).sys.faults ++ [.releasedConnection c] } := by
    simp only [updateConnection, released]
    rfl
  refine calm.trans (dropped.trans ?_)
  rw [late]
  exact .of_run (.single (.fault _ (.releasedConnection c) (.inr free))) rfl rfl rfl

private theorem announced (env : Env) {s : Daemon} {m' : MuxConnection} {log' : List ConnEvent}
    (grants : Grants env lax) (active : (S.dev m.dev).1.state = .active) (work : Working S c m' log' s)
    (run : ConnRun (lax.hears c) (some m, log) (some m', log')) (dev : m'.dev = m.dev) (owned : m'.client = m.client)
    (state : m'.state = .connected) (shown : Established log') :
    let n := clientNotifyConnect env k resultOk s.clients
    Calm lax none S (if n.1 < 0 then
        updateConnection c (connectionTeardown env c
          ((s.setClients n.2).setMux ((s.setClients n.2).mux.setConn c { m' with client := none })))
      else updateConnection c (s.setClients n.2)).sys := by
  intro n
  have view : s.sys.client k = (some client, clientLog) := (work.clientView k).trans attempting.calling
  have stored : s.clients.client k = some client := congrArg Prod.fst view
  have notified : Notified env k s.clients client resultOk n :=
    clientNotifyConnect_notified env stored attempting.pending resultOk
  generalize n = r at notified
  cases notified with
  | failed same why =>
    have free : lax.poor := grants.plenty.resolve_right (why attempting.buffer)
    rw [if_pos (by simp)]
    refine attempting.unannounced env free ?_ (run.tail (.forget m' log')) dev state rfl
    rw [Working, sys_setConn, setMux_mux, same.sys, work.view, work.sys, Sys.setConn_setConn]
  | @done x y capacity msg payload queues result appended =>
    rw [if_neg (by simp)]
    set client₁ := client.grown capacity client.connectTag msg payload with growing
    have posts : Posts (lax.rules none x.harm k) client capacity msg payload :=
      queues.posts (grants.routine _ _ result.routine)
    have step : SysStep lax none S _ := .established S c k attempting.holds attempting.present attempting.owner
      attempting.waiting (run.tail (.refresh m' log')) (.inr ⟨state, shown, rfl⟩) dev owned state active shown
      attempting.calling attempting.pending (queues.hurt (congrArg Sys.harm work.sys).symm) posts
      (grants.answers _ _ _ result)
    have notified := sys_notified view queues appended
    have calling : (s.setClients y).sys.client k = (some (client₁.notified resultOk),
        clientLog ++ [.queued client.connectTag msg payload, .result client.connectTag resultOk]) := by
      rw [notified]
      exact Sys.setClient_client ..
    have told : (client₁.notified resultOk).masked m'.refresh.events =
        { client₁ with
          state := .connecting2, events := ⟨false, true⟩, devents := m'.refresh.events, ibBuf := none } := rfl
    refine .of_run (.single ?_) ?_ ?_ ?_
    all_goals rw [updateConnection_sys (s := s.setClients y) work.view (owned.trans attempting.owner) calling, notified,
      work.sys, told]
    · simpa [Sys.post, Sys.setClient, Sys.setConn, growing] using step
    all_goals rfl

private theorem opens (env : Env) {s : Daemon} {m' : MuxConnection} {log' : List ConnEvent}
    (grants : Grants env lax) (active : (S.dev m.dev).1.state = .active)
    (work : Working S c m' log' s) (run : ConnRun (lax.hears c) (some m, log) (some m', log')) (dev : m'.dev = m.dev)
    (owned : m'.client = m.client) (state : m'.state = .connecting) (unopened : synAcks log' = []) :
    Calm lax none S (connectionOpen env c m' s).sys := by
  set s₁ := s.setMux ((s.mux.setConn c m'.opened).logConn c (.synAck m'.rxSeq)) with opening
  have work₁ : Working S c m'.opened (log' ++ [synAck m'.rxSeq]) s₁ := by
    rw [Working, opening, sys_logConn, sys_setConn, setMux_mux, Sys.setConn_conn, work.view, Sys.setConn_setConn,
      work.sys, Sys.setConn_setConn]
  have run₁ := run.tail (.opened m' log' unopened)
  obtain ⟨view, now, sent, after⟩ := work₁.sendTcp attempting.sound.wires env thAck []
  have dev₁ : m'.opened.dev = m.dev := dev
  rw [dev₁] at sent after
  have calm : Calm lax none S (S.setDev m.dev view) :=
    .of_setDev (sent.run attempting.holds.1 (.inl active)) sent.quiet
  have attempting' := attempting.setDev calm sent.core.2
  have active' : ((S.setDev m.dev view).dev m.dev).1.state = .active := by
    rw [Sys.setDev_dev, sent.core.1.state, active]
  refine calm.trans ?_
  rw [opening, setMux_setMux, List.append_assoc, List.singleton_append] at after
  simp only [connectionOpen]
  have mux : s₁.mux = (s.mux.setConn c m'.opened).logConn c (.synAck m'.rxSeq) := rfl
  rw [← opening, mux] at after
  set r := sendTcp env c thAck [] ((s.mux.setConn c m'.opened).logConn c (.synAck m'.rxSeq)) with sending
  split
  · next lost =>
    rw [if_neg (by omega)] at after
    refine attempting'.abandon env grants after ?_ dev owned (.inl state) (hopeless_of_lost unopened _ _ lost)
    simpa using run₁.tail (.segmentFailed _ _ thAck r.1 lost)
  · next ok =>
    rw [if_pos (by omega)] at after
    have record : (s.setMux r.2).mux.conn c = some (m'.opened.acked now) := Working.record after
    have client : (m'.opened.acked now).client = some k := owned.trans attempting.owner
    have work₂ : Working (S.setDev m.dev view) c { m'.opened.acked now with state := .connected }
        (log' ++ [synAck m'.rxSeq, segment (m'.opened.header thAck) [] r.1])
        ((s.setMux r.2).setMux ((s.setMux r.2).mux.setConn c { m'.opened.acked now with state := .connected })) := by
      rw [Working, sys_setConn, setMux_mux, after, Sys.setConn_conn, Sys.setConn_setConn]
    have run₂ : ConnRun (lax.hears c) (some m, log) (some { m'.opened.acked now with state := .connected },
        log' ++ [synAck m'.rxSeq, segment (m'.opened.header thAck) [] r.1]) := by
      refine .tail ?_ (.mark _ _ .connected)
      simpa using run₁.tail (.segmentSent _ _ thAck r.1 now (by omega))
    have shown : Established (log' ++ [synAck m'.rxSeq, segment (m'.opened.header thAck) [] r.1]) :=
      ⟨log', m'.rxSeq, m'.opened.header thAck, r.1, [], rfl, rfl, by omega⟩
    simp only [record]
    split
    · next absent => simp [client] at absent
    · next k' present =>
      obtain rfl : k = k' := Option.some.inj (client.symm.trans present)
      have told := attempting'.announced env grants active' work₂ run₂ dev owned rfl shown
      dsimp only at told
      exact told

end Attempting

private theorem connectionInput_calm {lax : Laxity} (env : Env) {s : Daemon} (grants : Grants env lax)
    (sound : Sound lax s.sys) {d : DevPtr} {c : ConnPtr} {m : MuxConnection} (holds : s.sys.Holds d c)
    (record : s.mux.conn c = some m) (active : (s.sys.dev d).1.state = .active) (th : TcpHdr) (payload : Bytes)
    (heard : m.state = .connected → th.flags = thAck → lax.hears c payload ∧ (lax.rash ∨ m.Accepts payload)) :
    Calm lax none s.sys (connectionInput env c th payload s).sys := by
  obtain ⟨log, present⟩ : ∃ log, s.sys.conn c = (some m, log) := ⟨s.mux.connLog c, congrArg (·, s.mux.connLog c) record⟩
  set s₁ := s.setMux ((s.mux.setConn c (m.receive th)).logConn c (.rx (m.receive th).rxAck (m.receive th).rxWin))
    with receiving
  have work : Working s.sys c (m.receive th) (log ++ [rx (m.receive th).rxAck (m.receive th).rxWin]) s₁ := by
    rw [Working, receiving, sys_logConn, sys_setConn, setMux_mux, Sys.setConn_conn, present, Sys.setConn_setConn]
  have run : ConnRun (lax.hears c) (some m, log) (some (m.receive th),
    log ++ [rx (m.receive th).rxAck (m.receive th).rxWin]) :=
    .single (.receive m log th)
  have state : (m.receive th).state = m.state := rfl
  -- a reset only marks the record before the teardown
  have marked (cond : Bool) (mark : ConnState) :
      let m' := if cond then { m.receive th with state := mark } else m.receive th
      Working s.sys c m' (log ++ [rx (m.receive th).rxAck (m.receive th).rxWin]) (s₁.setMux (s₁.mux.setConn c m')) ∧
        ConnRun (lax.hears c) (some m, log) (some m', log ++ [rx (m.receive th).rxAck (m.receive th).rxWin]) := by
    intro m'
    refine ⟨?_, ?_⟩
    · rw [Working, sys_setConn, setMux_mux, work.view, work.sys, Sys.setConn_setConn]
    · simp only [m']
      split
      · exact run.tail (.mark _ _ mark)
      · exact run
  simp only [connectionInput, record, state]
  rw [← receiving]
  obtain ⟨rfl, ⟨k, client, clientLog, attempting⟩ | carrying⟩ := sound.attempting_or_carrying holds present
  · have unopened : synAcks (log ++ [rx (m.receive th).rxAck (m.receive th).rxWin]) = [] := by
      simp [attempting.unopened]
    simp only [attempting.waiting]
    split
    · obtain ⟨work', run'⟩ := marked th.isRst .refused
      refine attempting.abandon env grants work' run' ?_ ?_ ?_ (hopeless_of_unopened unopened)
      · split <;> rfl
      · split <;> rfl
      · split
        · exact .inr rfl
        · exact .inl attempting.waiting
    · exact attempting.opens env grants active work run rfl rfl attempting.waiting unopened
  · simp only [carrying.opened]
    split
    · obtain ⟨work', run'⟩ := marked th.isRst .dying
      refine abandon env carrying grants work' (gone_of_run run') ?_ ?_ ?_
      · split <;> rfl
      · split <;> rfl
      · split
        · exact .inr rfl
        · exact .inl carrying.opened
    · next plain =>
      obtain ⟨heard, room⟩ := heard carrying.opened (not_not.mp plain)
      exact connectionDeviceInput_calm env grants carrying (.inl active) work run rfl rfl carrying.opened payload
        heard room

/-- `device_tcp_input` for a listed device. -/
theorem deviceTcpInput_calm {lax : Laxity} (env : Env) {s : Daemon} (grants : Grants env lax)
    (sound : Sound lax s.sys) {d : DevPtr} (listed : d ∈ s.mux.deviceList) (th : TcpHdr) (payload : Bytes)
    (heard : ∀ c bytes, segmentArrival d th payload s.mux = some (c, bytes) → lax.Welcomes s.mux c bytes) :
    Calm lax none s.sys (deviceTcpInput env d th payload s).sys := by
  simp only [deviceTcpInput]
  split
  · exact .refl _
  · next active =>
    have ready : (s.sys.dev d).1.state = .active := not_not.mp active
    split
    · split
      · exact .refl _
      · have numbered : (s.mux.dev d).unnumbered = false := (sound.wires d).not_unnumbered
        obtain ⟨view, sent, after⟩ := sendPacket_tcp env d [] s (TcpHdr.encode_length
          ⟨th.dport, th.sport, 0, th.seq, 0x50, thRst, 0, 0, 0⟩) numbered
        rw [sendAnonRst, after]
        exact .of_setDev (sent.run listed (.inl ready)) sent.quiet
    · next c reached =>
      have found := reached
      have member : c ∈ (s.mux.dev d).connections := List.mem_of_find?_eq_some found
      rw [findConnection] at found
      have ports := List.find?_some found
      obtain ⟨m, record, _⟩ := (Option.any_eq_true ..).mp ports
      refine connectionInput_calm env grants sound ⟨listed, member⟩ record ready th payload fun opened plain => ?_
      obtain ⟨heard, room⟩ := heard c payload (by simp [segmentArrival, active, reached, record, opened, plain])
      exact ⟨heard, room.imp_right fun accepts => accepts m record⟩

end Usbmuxd
