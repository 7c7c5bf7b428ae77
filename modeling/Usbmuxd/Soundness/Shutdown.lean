import Usbmuxd.Model.Threads
import Usbmuxd.Soundness.Commands
import Usbmuxd.Soundness.Pairing

/-! # Nothing is left after shutdown

`main` kills the connections, removes the devices and closes the clients, while preflight workers may
still be running. Afterwards there is no client, no device and no open connection, and every client that
was ever accepted has been closed exactly once.
-/

namespace Usbmuxd

open Collection History

variable {lax : Laxity} {served : Option ClientPtr} {S S' : Sys} {env : Env} {s : Daemon}

/-- A client that is there has not been closed, and one that is gone has been closed once, or has not
come yet. -/
def Accounted (S : Sys) : Prop :=
  ∀ k, ((S.client k).1.isSome → (S.client k).2.count .closed = 0) ∧
    ((S.client k).1 = none → S.nextClient ≤ k ∧ (S.client k).2 = [] ∨ (S.client k).2.count .closed = 1)

private theorem SysStep.nextClient_cases (change : SysStep lax served S S') :
    S'.nextClient = S.nextClient ∨ S'.nextClient = S.nextClient + 1 ∧ (S'.client S.nextClient).1.isSome := by
  cases change with
  | accept => exact .inr ⟨rfl, by simp [Sys.setClient]⟩
  | _ => exact .inl rfl

/-- The log of a client that goes on does not say that it was closed. -/
private theorem ClientKept.unclosed {rules : ClientRules} {client client' : MuxClient} {events : List ClientEvent}
    (kept : ClientKept rules client client' events) : events.count .closed = 0 :=
  List.count_eq_zero.mpr fun closed => kept.events _ closed

private theorem Farewell.unclosed {rules : ClientRules} {client : MuxClient} {events : List ClientEvent}
    (farewell : Farewell rules client events) : events.count .closed = 0 := by
  refine List.count_eq_zero.mpr fun closed => ?_
  cases farewell with
  | quiet => simp at closed
  | flushed connected flush => simpa [ClientEvent.isTunnelled] using flush _ closed
  | rebuked => simp at closed

private theorem SysStep.accounted (change : SysStep lax served S S') (linked : Linked S) (before : Accounted S) :
    Accounted S' := by
  intro k
  obtain ⟨present, absent⟩ := before k
  -- a client that goes on
  have goes {client client' : MuxClient} {log events : List ClientEvent} (known : S.client k = (some client, log))
      (unclosed : events.count .closed = 0) (after : S'.client k = (some client', log ++ events)) :
      ((S'.client k).1.isSome → (S'.client k).2.count .closed = 0) ∧
        ((S'.client k).1 = none → S'.nextClient ≤ k ∧ (S'.client k).2 = [] ∨ (S'.client k).2.count .closed = 1) := by
    rw [known] at present
    rw [after]
    exact ⟨fun _ => by rw [List.count_append, present rfl, unclosed], by simp⟩
  cases change.turn linked.roster k with
  | moved move =>
    rcases known : (S.client k).1 with _ | client
    · have same : S'.client k = S.client k := by
        rw [show S.client k = (none, (S.client k).2) from Prod.ext known rfl] at move ⊢
        exact move.gone_eq
      rw [same, known]
      refine ⟨by simp, fun _ => (absent known).imp_left fun ⟨later, empty⟩ => ⟨?_, empty⟩⟩
      rcases change.nextClient_cases with kept | ⟨grown, there⟩
      · exact kept.le.trans later
      · rw [grown]
        refine Nat.succ_le_of_lt (lt_of_le_of_ne later fun here => ?_)
        rw [here, same, known] at there
        cases there
    · obtain ⟨client', events, after, kept⟩ := move.forward known
      exact goes (Prod.ext known rfl) kept.unclosed after
  | polled events before after => exact goes before List.count_nil (by rw [after, List.append_nil])
  | accepted fd number next fresh free after =>
    rw [after]
    exact ⟨fun _ => rfl, by simp⟩
  | requested tag device own before idle holds record owner after => exact goes before (by simp) after
  | told c devents before pending holds record owner shown posts answers after => exact goes before (by simp) after
  | refused c before pending foreign holds record owner gone unseen posts answers after =>
    exact goes before (by simp) after
  | closed before cause farewell after =>
    rw [before] at present
    rw [after]
    refine ⟨by simp, fun _ => .inr ?_⟩
    rw [List.count_append, List.count_append, present rfl, farewell.unclosed]
    rfl

/-- As long as nobody connects to a device in its handshake, every connection is in the collection of
its device. -/
def Collected (S : Sys) : Prop := ∀ c m, (S.conn c).1 = some m → S.Holds m.dev c

private theorem SysStep.collected (change : SysStep lax served S S') (prompt : ¬lax.early) (linked : Linked S)
    (before : Collected S) : Collected S' := by
  intro c m' record
  rcases change.record record with ⟨m, known, dev, -⟩ | ⟨rfl, log, began⟩
  · rw [dev]
    exact (change.held_after linked.registry (before c m known) (by simp [record])).resolve_right (prompt ·.2)
  · exact began.holds

private theorem deviceAbortConnect_without_devices (deviceId : ℕ) (k : ClientPtr) (empty : s.mux.deviceList = []) :
    deviceAbortConnect env deviceId k s = s := by
  have lookup : getMuxDeviceForId deviceId s.mux = none := by simp [getMuxDeviceForId, empty]
  simp only [deviceAbortConnect, touchNamed, getMuxConnection, Daemon.setMux, lookup, Option.bind_none]

private theorem clientClose_erases {k : ClientPtr} (empty : s.mux.deviceList = []) (listed : k ∈ s.clients.clientList)
    {client : MuxClient} (present : s.clients.client k = some client) :
    (clientClose env k s).clients.clientList = s.clients.clientList.erase k := by
  simp only [clientClose, if_pos listed, present]
  split
  · rw [deviceAbortConnect_without_devices _ k (by exact empty)]
    rfl
  · rfl

private theorem clientShutdown_empties (sound : Sound anything s.sys) (closing : s.phase = .closing) :
    (clientShutdown env s).clients.clientList = [] := by
  have empty : s.mux.deviceList = [] := sound.linked.registry.ended (.inl closing)
  let clients (current : Daemon) : List ClientPtr := current.clients.clientList
  have closes : clients (forEach clients (clientClose env) s) = [] := by
    refine forEach_empties (motive := fun current => SysRun anything none s.sys current.sys ∧ current.mux = s.mux)
      ⟨.refl, rfl⟩ fun k current ⟨run, mux⟩ listed => ?_
    have nothing : current.mux.deviceList = [] := by rw [mux, empty]
    have roster := (run.sound sound).linked.roster
    obtain ⟨client, present⟩ := Option.isSome_iff_exists.mp ((roster.listed k).mp listed)
    have erased : clients (clientClose env k current) = (clients current).erase k :=
      clientClose_erases nothing listed present
    refine ⟨⟨run.trans (clientClose_quiet env (run.sound sound) (.inr trivial) present ?_).run,
      (clientClose_without_devices env k nothing).1.trans mux⟩, ?_, ?_⟩
    · intro _ _ d c holding
      have listed : d ∈ current.mux.deviceList := holding.1
      simp [nothing] at listed
    · rw [erased]
      exact roster.nodup.not_mem_erase
    · rw [erased]
      exact fun other => List.mem_of_mem_erase
  exact closes

private theorem worker_tells_nobody {event : Event} (foreign : event.byWorker = true)
    (empty : s.clients.clientList = []) :
    (step env s event).clients = s.clients := by
  simp only [step]
  split
  swap
  · rfl
  cases event with
  | workerDeviceAdd info => exact forEach_nil empty
  | workerCbData deviceId data => rfl
  | _ => cases foreign

private theorem worker_phase {event : Event} (foreign : event.byWorker = true) :
    (step env s event).phase = s.phase := by
  simp only [step]
  split
  swap
  · rfl
  cases event with
  | workerDeviceAdd | workerCbData => rfl
  | _ => cases foreign

private theorem run_stopped (env : Env) (events : List Event) (closing : (run env events).phase = .closing)
    (late : List Event) (workers : ∀ event ∈ late, event.byWorker = true) :
    (run env (events ++ .clientShutdown :: late)).clients.clientList = [] ∧
      (run env (events ++ .clientShutdown :: late)).phase = .stopped := by
  induction late using List.reverseRecOn with
  | nil =>
    have shut : step env (run env events) .clientShutdown = clientShutdown env (run env events) :=
      if_pos (by simp [enabled, closing])
    rw [run_snoc, shut]
    exact ⟨clientShutdown_empties (run_sound_anything env events).1 closing, rfl⟩
  | append_singleton earlier last ih =>
    obtain ⟨empty, stopped⟩ := ih fun event member => workers event (List.mem_append_left _ member)
    have foreign := workers last (by simp)
    rw [← List.cons_append, ← List.append_assoc, run_snoc, worker_tells_nobody foreign empty, worker_phase foreign]
    exact ⟨empty, stopped⟩

private theorem run_accounted (env : Env) (events : List Event) : Accounted (run env events).sys :=
  (run_keeps anything env events (.inl trivial) (.inl trivial) (.inl trivial) (grants_anything env) open_anything
    (motive := Accounted)
    (fun _ => ⟨by simp [Daemon.sys, Daemon.initial, Clients.initial], fun _ => .inl ⟨Nat.zero_le _, rfl⟩⟩)
    fun _ _ _ sound change before => change.accounted sound.linked before).2

/-- Requests for devices that have completed their handshake leave no connection behind. -/
private theorem run_collected (env : Env) (events : List Event)
    (prudent : Each (fun before event => Prudent env (run env before) event) events) :
    Collected (run env events).sys := by
  have free : Laxity.Open { early := False, poor := True } :=
    ⟨⟨fun _ _ => trivial, trivial, trivial⟩, fun _ _ => trivial, fun _ => trivial, trivial, trivial, trivial⟩
  refine (run_keeps { early := False, poor := True } env events (.inr prudent) (.inl trivial) (.inl trivial)
    ⟨.inl trivial, fun _ _ _ => trivial, fun _ _ _ _ => trivial⟩ free (motive := Collected) ?_
    fun _ _ _ sound change before => change.collected id sound.linked before).2
  intro c m there
  cases there

/-- When `device_shutdown` has returned, in whatever state the daemon was before, `client_shutdown` leaves
no client and no device, whatever preflight workers still do. Every client that was accepted has been
closed exactly once, and no connection is left, but for requests for devices in their handshake, which
the handshake has lost. -/
theorem shutdown_leaves_nothing (env : Env) (events : List Event) (closing : (run env events).phase = .closing)
    (late : List Event) (workers : ∀ event ∈ late, event.byWorker = true) :
    let s := run env (events ++ .clientShutdown :: late)
    s.clients.clientList = [] ∧ s.mux.deviceList = [] ∧
      (∀ k < s.clients.nextClient, s.clients.client k = none ∧ (s.clients.log k).count .closed = 1) ∧
      (∀ c m, s.mux.conn c = some m → m.state = .connecting) ∧
      (Each (fun before event => Prudent env (run env before) event) (events ++ .clientShutdown :: late) →
        ∀ c, s.mux.conn c = none) := by
  intro s
  obtain ⟨empty, stopped⟩ := run_stopped env events closing late workers
  have sound : Sound anything s.sys := (run_sound_anything env _).1
  have devices : s.mux.deviceList = [] := sound.linked.registry.ended (.inr stopped)
  have unheld {d : DevPtr} {c : ConnPtr} (holds : s.sys.Holds d c) : False := by
    have listed : d ∈ s.mux.deviceList := holds.1
    simp [devices] at listed
  refine ⟨empty, devices, fun k accepted => ?_, fun c m there => ?_, fun prudent c => ?_⟩
  · have gone : s.clients.client k = none := by
      rcases there : s.clients.client k with _ | client
      · rfl
      · have listed : k ∈ s.clients.clientList := (sound.linked.roster.listed k).mpr (congrArg Option.isSome there)
        simp [s, empty] at listed
    refine ⟨gone, ((run_accounted env _ k).2 gone).resolve_left fun ⟨later, _⟩ => ?_⟩
    exact absurd accepted (Nat.not_lt.mpr later)
  · have viewed : s.sys.conn c = (some m, s.mux.connLog c) := Prod.ext there rfl
    rcases viewed ▸ (sound.conns c).2 with ⟨waiting, _⟩ | ⟨opened, _⟩
    · exact waiting
    · exact (unheld (sound.rooted.held c m there opened)).elim
  · rcases there : s.mux.conn c with _ | m
    · rfl
    · exact (unheld (run_collected env _ prudent c m there)).elim

/-- The shutdown of a daemon with a connection, a worker of which reports late. -/
def windingDown : List Event := session ++ [.killConnections, .deviceShutdown]

theorem windingDown_leaves_nothing :
    let s := run sessionEnv (windingDown ++ .clientShutdown :: [.workerCbData 1 none])
    s.clients.nextClient = 1 ∧ s.clients.clientList = [] ∧ (s.clients.log 0).count .closed = 1 ∧
      s.mux.conn 0 = none := by
  obtain ⟨empty, _, accounted, _, collected⟩ :=
    shutdown_leaves_nothing sessionEnv windingDown (by decide +kernel) [.workerCbData 1 none] (by decide)
  exact ⟨by decide +kernel, empty, (accounted 0 (by decide +kernel)).2, collected (by decide +kernel) 0⟩

end Usbmuxd
