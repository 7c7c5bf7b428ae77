import Usbmuxd.Proofs.Close

/-! # How connections end

`connection_teardown` is one step of the system: the attempt is refused, or connection and client
end together. Only an allocation failure leaves a client behind.
-/

namespace Usbmuxd

open Collection ConnLog ConnEvent

/-- However the log goes on after its teardown, the connection was never established. -/
def Hopeless (log : List ConnEvent) : Prop := ∀ tail, synAcks tail = [] → ¬Established (log ++ tail)

theorem hopeless_of_unopened {log : List ConnEvent} (unopened : synAcks log = []) : Hopeless log := by
  rintro tail silent ⟨before, seq, th, res, after, split, _⟩
  have none : synAcks (log ++ tail) = [] := by rw [synAcks_append, unopened, silent]; rfl
  rw [split] at none
  simp at none

/-- The acknowledgement of the `SYN|ACK` was lost. -/
theorem hopeless_of_lost {log : List ConnEvent} (unopened : synAcks log = []) (seq : UInt32) (th : TcpHdr) {res : ℤ}
    (lost : res < 0) : Hopeless (log ++ [synAck seq, segment th [] res]) := by
  rintro tail silent ⟨before, seq', th', res', after, split, _, sent⟩
  have shape : log ++ synAck seq :: (segment th [] res :: tail) =
      before ++ synAck seq' :: (segment th' [] res' :: after) := by simpa using split
  have other (same : segment th [] res = segment th' [] res') : False := by
    cases same
    omega
  rcases List.append_eq_append_iff.mp shape with ⟨extra, _, rest⟩ | ⟨extra, start, rest⟩
  · cases extra with
    | nil => exact other (List.cons.inj (List.cons.inj rest).2).1
    | cons head extra =>
      have later := (List.cons.inj rest).2
      have none : synAcks (segment th [] res :: tail) = [] := by simpa using silent
      rw [later] at none
      simp at none
  · cases extra with
    | nil => exact other (List.cons.inj (List.cons.inj rest).2).1.symm
    | cons head extra =>
      rw [start, (List.cons.inj rest).1.symm] at unopened
      simp at unopened

section Teardown

variable {lax : Laxity} {served : Option ClientPtr} {S S' : Sys} {c : ConnPtr} {d : DevPtr}

/-- The end of an attempt whose client is still waiting: the client is told, unless memory runs out. -/
private theorem refusal_run (env : Env) {s : Daemon} {m₀ m : MuxConnection} {log₀ log : List ConnEvent} {k : ClientPtr}
    {client : MuxClient} {clientLog : List ClientEvent} (sound : Sound lax S) (holds : S.Holds m₀.dev c)
    (present : S.conn c = (some m₀, log₀)) (owner : m₀.client = some k) (state : s.sys = S.setConn c (some m, log))
    (gone : ConnRun (lax.hears c) (some m₀, log₀) (none, log)) (unseen : ¬Established log)
    (calling : S.client k = (some client, clientLog)) (pending : client.state = .connecting1)
    (foreign : served ≠ some k)
    (grants : Grants env lax) :
    let s' := s.setClients (clientNotifyConnect env k resultConnRefused s.clients).2
    Calm lax served S (s'.setMux (s'.mux.unlink c m₀.dev)).sys ∧
      c ∉ ((s'.setMux (s'.mux.unlink c m₀.dev)).sys.dev m₀.dev).1.connections := by
  intro s'
  have once := sound.linked.links.once _ holds.1
  have view : s.sys.client k = (some client, clientLog) := by rw [state]; exact calling
  have stored : s.clients.client k = some client := congrArg Prod.fst view
  have buffer := sound.linked.roster.output k client (by rw [calling]) (by simp [pending])
  have notified := clientNotifyConnect_notified env stored pending resultConnRefused
  have unlinked (y : Clients) : ((s.setClients y).setMux ((s.setClients y).mux.unlink c m₀.dev)).sys =
      ((s.setClients y).sys.setConn c (none, ((s.setClients y).sys.conn c).2)).unhold m₀.dev c := by
    rw [sys_unlink, setMux_mux]
  simp only [s', unlinked]
  generalize clientNotifyConnect env k resultConnRefused s.clients = r at notified
  cases notified with
  | failed same why =>
    have free : lax.poor := grants.plenty.resolve_right (why buffer)
    rw [same.sys, state]
    have step : SysStep lax served S _ := .orphaned S c holds present gone free
    refine Calm.of_unhold (.single ?_) rfl rfl rfl once
    simpa using step
  | @done x y capacity msg payload queues result appended =>
    rw [sys_notified view queues appended, state]
    have posts : Posts (lax.rules served x.harm k) client capacity msg payload :=
      queues.posts (grants.routine _ _ result.routine)
    have step : SysStep lax served S _ := .refused S c k holds present owner gone unseen calling pending foreign
      (queues.hurt (congrArg Sys.harm state).symm) posts (grants.answers _ _ _ result)
    refine Calm.of_unhold (.single ?_) rfl rfl rfl once
    have told : (client.grown capacity client.connectTag msg payload).notified resultConnRefused =
        { client.grown capacity client.connectTag msg payload with state := .command } := if_neg (by decide)
    simpa [Sys.post, Sys.setClient, Sys.setConn, Sys.unhold, Sys.setDev, told] using step

/-- An abort that meets a connection already being torn down only forgets its client. -/
private theorem abort_dead (served : Option ClientPtr) (env : Env) {s : Daemon} {m : MuxConnection}
    {log : List ConnEvent} {k : ClientPtr}
    {client : MuxClient} {view : ClientView} (sound : Sound lax S) (linked : Linked (S.setConn c (some m, log)))
    (holds : S.Holds d c) (owner : m.client = some k) (dead : m.state = .dead) (present : (S.client k).1 = some client)
    (engaged : client.state.engaged) (state : s.sys = (S.setConn c (some m, log)).post k view S.harm) :
    ∃ faults, SysRun lax served S { S with faults := faults } ∧
      (deviceAbortConnect env client.connectDevice k s).sys =
        (({ S with faults := faults } : Sys).setConn c (some { m with client := none }, log)).setClient k view := by
  obtain ⟨same, faults⟩ := sameMux_of_post state
  have devices : SameDevices S s.mux := ⟨same.list, same.dev⟩
  obtain ⟨faults', touched, run⟩ := touchNamed_run served sound.wires devices faults client.connectDevice
    (sound.device_ready devices present engaged)
  refine ⟨faults', run, ?_⟩
  have state' : (s.setMux (touchNamed client.connectDevice s.mux)).sys =
      (({ S with faults := faults' } : Sys).setConn c (some m, log)).setClient k view := by
    rw [touched]
    exact congrArg (fun T : Sys => { T with faults := faults' }) state
  have same' : SameMux (S.setConn c (some m, log)) (touchNamed client.connectDevice s.mux) := by
    rw [touched]
    exact ⟨⟨same.list, same.dev⟩, same.conn⟩
  have named : (S.setConn c (some m, log)).clientOf c = some k := by simp [Sys.clientOf, owner]
  rcases getMuxConnection_spec linked same' present with ⟨_, free⟩ | ⟨d', c', found, holding, mine, _⟩
  · exact absurd named (free d c holds)
  · obtain rfl : c' = c := linked.links.unique d' c' d c holding holds (mine.trans named.symm)
    have stored : (touchNamed client.connectDevice s.mux).conn c' = some m := by
      have viewed := congrArg Prod.fst (same'.conn c')
      simpa using viewed
    have unfolded : deviceAbortConnect env client.connectDevice k s =
        connectionTeardownWith (fun _ s => s) env c'
          (s.setMux ((touchNamed client.connectDevice s.mux).setConn c' { m with client := none })) := by
      simp only [deviceAbortConnect, Daemon.setMux, found, stored]
    rw [unfolded, connectionTeardownWith_dead (m := { m with client := none }) _ env (Function.update_self ..) dead,
      sys_setConn, state']
    simp [Sys.setConn, Sys.setClient]

/-- The end of an open connection: what is buffered is flushed and the client is closed with it. -/
private theorem parting_run (env : Env) {s : Daemon} {m₀ m m' : MuxConnection} {log₀ log : List ConnEvent}
    {k : ClientPtr} {client : MuxClient} {clientLog : List ClientEvent} (sound : Sound lax S) (holds : S.Holds m₀.dev c)
    (present : S.conn c = (some m₀, log₀)) (owner : m₀.client = some k) (opened : m₀.state = .connected)
    (dev : m'.dev = m₀.dev) (owner' : m'.client = some k) (state : s.sys = S.setConn c (some m', log))
    (gone : ∀ flushes, Flushes m.ibBuf flushes → ConnRun (lax.hears c) (some m₀, log₀) (none, log ++ flushes))
    (calling : S.client k = (some client, clientLog)) (engaged : client.state = .connecting2 ∨
      client.state = .connected) :
    let s' := clientClose env k (flushClient env c k m (s.setMux
      (s.mux.modifyConn c fun m => { m with state := .dead })))
    Calm lax served S (s'.setMux (s'.mux.unlink c m₀.dev)).sys ∧
      c ∉ ((s'.setMux (s'.mux.unlink c m₀.dev)).sys.dev m₀.dev).1.connections := by
  intro s'
  have once := sound.linked.links.once _ holds.1
  have stored : s.mux.conn c = some m' := by
    have viewed : s.sys.conn c = (some m', log) := by rw [state, Sys.setConn_conn]
    exact congrArg Prod.fst viewed
  have marked : (s.setMux (s.mux.modifyConn c fun m => { m with state := .dead })).sys =
      S.setConn c (some { m' with state := .dead }, log) := by
    simp only [Mux.modifyConn, stored]
    rw [sys_setConn, setMux_mux, state]
    simp
  have known : ((s.setMux (s.mux.modifyConn c fun m => { m with state := .dead })).sys.client k).1 = some client := by
    rw [marked]
    exact congrArg Prod.fst calling
  obtain ⟨flushes, traffic, flush, tunnels, flushed⟩ := flushClient_sys env c k m _ known
  rw [marked] at flushed
  set s₁ := flushClient env c k m (s.setMux (s.mux.modifyConn c fun m => { m with state := .dead })) with flushing
  have state₁ : s₁.sys = (S.setConn c (some { m' with state := .dead }, log ++ flushes)).setClient k
      (some client, clientLog ++ traffic) := by
    rw [flushed]
    simp [Sys.setConn, calling]
  have listed : k ∈ s₁.clients.clientList := by
    have lists : s₁.clients.clientList = S.clientList := congrArg Sys.clientList state₁
    rw [lists]
    exact (sound.linked.roster.listed k).mpr (by simp [calling])
  have view₁ : s₁.sys.client k = (some client, clientLog ++ traffic) := by rw [state₁, Sys.setClient_client]
  have stored₁ : s₁.clients.client k = some client := congrArg Prod.fst view₁
  -- both ways to close the client leave it released and the record still to be freed
  have finish (faults : List MuxFault) (x : Daemon) (record : Option MuxConnection) (last : Option MuxClient)
      (run : SysRun lax served S { S with faults := faults })
      (closed : x.sys = ((({ S with faults := faults } : Sys).setConn c (record, log ++ flushes)).setClient k
        (last, clientLog ++ traffic)).release k (clientLog ++ traffic ++ [.closed])) :
      Calm lax served S (x.setMux (x.mux.unlink c m₀.dev)).sys ∧
        c ∉ ((x.setMux (x.mux.unlink c m₀.dev)).sys.dev m₀.dev).1.connections := by
    rw [sys_unlink, setMux_mux, closed]
    have step : SysStep lax served { S with faults := faults } _ :=
      .dropped { S with faults := faults } c k S.harm (.refl _) holds present owner (gone flushes flush) calling
        (tunnels.farewell _)
    refine Calm.of_unhold (run.tail ?_) ?_ ?_ ?_ once
    · simpa [Sys.release, Sys.setClient, Sys.setConn, Sys.unhold, Sys.setDev] using step
    · rfl
    · rfl
    · rfl
  have closing : s' = clientClose env k s₁ := rfl
  rw [closing]
  simp only [clientClose, if_pos listed, stored₁]
  rcases engaged with waiting | open_
  · rw [if_pos (.inr waiting)]
    have fits (client : MuxClient) (fits : m₀.Fits client) :
      ({ m' with state := .dead } : MuxConnection).Fits client := by
      refine ⟨?_, by simp⟩
      have before := fits.state
      rw [opened] at before
      cases state : client.state <;> simp_all [ConnState.fits]
    have linked : Linked (S.setConn c (some { m' with state := .dead }, log ++ flushes)) :=
      ⟨{ sound.linked.registry with }, { sound.linked.roster with },
        sound.linked.links.setConn present dev (owner'.trans owner.symm) fits⟩
    have dying : (s₁.setClients (s₁.clients.setClient k { client with state := .dead })).sys =
        (S.setConn c (some { m' with state := .dead }, log ++ flushes)).setClient k
          (some { client with state := .dead }, clientLog ++ traffic) := by
      rw [sys_setClient, setClients_clients, view₁, state₁, Sys.setClient_setClient]
    obtain ⟨faults, run, aborted⟩ := abort_dead served env sound linked holds owner' rfl
      (by rw [calling]) (by simp [waiting, ClientState.engaged]) dying
    refine finish faults _ (some { m' with state := .dead, client := none }) (some { client with state := .dead }) run
      ?_
    rw [sys_release, setClients_clients, aborted, Sys.setClient_client]
  · rw [if_neg (by simp [open_])]
    refine finish S.faults _ (some { m' with state := .dead }) (some client) .refl ?_
    rw [sys_release, setClients_clients, state₁, Sys.setClient_client]

/-- The states a connection is torn down from, and what it may have been marked with. -/
def Leaving (before now : ConnState) : Prop :=
  before = .connecting ∧ (now = .connecting ∨ now = .refused) ∨ before = .connected ∧ (now = .connected ∨ now = .dying)

/-- `connection_teardown` of a held connection, from the middle of the daemon's work on it. -/
theorem connectionTeardown_calm (env : Env) {s : Daemon} {m₀ m : MuxConnection} {log₀ log : List ConnEvent}
    (sound : Sound lax S) (holds : S.Holds m₀.dev c) (present : S.conn c = (some m₀, log₀))
    (work : Working S c m log s) (dev : m.dev = m₀.dev) (owned : m.client = m₀.client)
    (leaving : Leaving m₀.state m.state)
    (gone : ∀ tail, TearLog m tail → ConnRun (lax.hears c) (some m₀, log₀) (none, log ++ tail))
    (hopeless : m₀.state = .connecting → Hopeless log) (foreign : served = none ∨ m₀.state = .connected)
    (grants : Grants env lax) :
    Calm lax served S (connectionTeardown env c s).sys ∧
      c ∉ ((connectionTeardown env c s).sys.dev m₀.dev).1.connections := by
  obtain ⟨_, k, client, owner, known, _, fits⟩ := sound.linked.links.record holds present
  obtain ⟨clientLog, calling⟩ : ∃ clientLog, S.client k = (some client, clientLog) := ⟨_, Prod.ext known rfl⟩
  obtain ⟨view, m', reset, sent, silent, kept, shape, after⟩ := work.sendRst sound.wires env
  rw [dev] at sent silent after
  have calm : Calm lax served S (S.setDev m₀.dev view) :=
    .of_setDev (sent.reset_run holds.1 (sound.ready holds) silent) sent.quiet
  have sound' := calm.sound sound
  have holds' : (S.setDev m₀.dev view).Holds m₀.dev c := (Sys.holds_setDev sent.core.2 _ _).mpr holds
  have tears {flushes : List ConnEvent} (flush : Flushes m.ibBuf flushes) : TearLog m (reset ++ flushes) := by
    rcases shape with rfl | ⟨res, rfl⟩
    · exact .silent flush
    · exact .reset res flush
  have same : m'.dev = m.dev ∧ m'.client = m.client := by
    rcases kept with rfl | ⟨now, rfl⟩ <;> exact ⟨rfl, rfl⟩
  have alive : m.state ≠ .dead := by
    rcases leaving with ⟨_, now | now⟩ | ⟨_, now | now⟩ <;> simp [now]
  simp only [connectionTeardown, connectionTeardownWith, work.record, if_neg alive, owned, owner, dev]
  rcases leaving with ⟨before, now⟩ | ⟨before, now⟩
  · have pending : client.state = .connecting1 := ConnState.fits_connecting (before ▸ fits.state)
    have elsewhere : served ≠ some k := by
      rcases foreign with none | opened
      · simp [none]
      · simp [before] at opened
    have ends : ConnRun (lax.hears c) (some m₀, log₀) (none, log ++ reset) := by
      simpa using gone _ (tears (.nil _))
    have unseen : ¬Established (log ++ reset) := by
      refine hopeless before reset ?_
      rcases shape with rfl | ⟨res, rfl⟩ <;> rfl
    rw [if_pos now.symm]
    obtain ⟨calm', removed⟩ := refusal_run env sound' holds' present owner after ends unseen calling pending elsewhere
      grants
    exact ⟨calm.trans calm', removed⟩
  · have engaged : client.state = .connecting2 ∨ client.state = .connected :=
      ConnState.fits_connected (before ▸ fits.state)
    have ends (flushes : List ConnEvent) (flush : Flushes m.ibBuf flushes) :
        ConnRun (lax.hears c) (some m₀, log₀) (none, log ++ reset ++ flushes) := by
      rw [List.append_assoc]
      exact gone _ (tears flush)
    rw [if_neg (by rcases now with now | now <;> simp [now])]
    obtain ⟨calm', removed⟩ := parting_run (m := m) env sound' holds' present owner before (same.1.trans dev)
      (same.2.trans (owned.trans owner)) after ends calling engaged
    exact ⟨calm.trans calm', removed⟩

end Teardown

end Usbmuxd
