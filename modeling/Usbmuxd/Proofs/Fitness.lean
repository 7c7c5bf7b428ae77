import Usbmuxd.Model.Preflight
import Usbmuxd.Proofs.Hooks
import Usbmuxd.Proofs.Sequential

/-! # Any interleaving of the threads

Whatever workers do while the main thread is inside `start_listen`, the state they share keeps the
invariant of the system. Device records are never reused, a device never goes back to its handshake,
and a worker is only started for a device that completes it.
-/

namespace Usbmuxd

/-- What is known about devices is known for good. -/
structure Succeeds (S S' : Sys) : Prop where
  nextDev : S.nextDev ≤ S'.nextDev
  listed : ∀ d ∈ S'.deviceList, d ∈ S.deviceList ∨ S.nextDev ≤ d
  state : ∀ d < S.nextDev, (S.dev d).1.state ≠ .init → (S'.dev d).1.state ≠ .init

namespace Succeeds

variable {S S' S'' : Sys}

theorem refl (S : Sys) : Succeeds S S := ⟨Nat.le_refl _, fun _ member => .inl member, fun _ _ known => known⟩

private theorem trans (first : Succeeds S S') (second : Succeeds S' S'') : Succeeds S S'' where
  nextDev := first.nextDev.trans second.nextDev
  listed d member := by
    rcases second.listed d member with before | new
    · exact first.listed d before
    · exact .inr (first.nextDev.trans new)
  state d below known := second.state d (Nat.lt_of_lt_of_le below first.nextDev) (first.state d below known)

end Succeeds

private theorem SysStep.succeeds {lax : Laxity} {served : Option ClientPtr} {S S' : Sys}
    (change : SysStep lax served S S') :
    Succeeds S S' where
  nextDev := change.nextDev_le.1
  listed d member := (change.devTurn d).enrolled.imp (·.1 member) (·.1.ge)
  state d below known := by
    cases change.devTurn d with
    | same _ after | joined _ _ _ _ _ _ after | left _ _ _ _ after | departed _ _ _ after => rwa [after]
    | moved _ _ change => rwa [change.core.1.state]
    | arrived next => exact absurd next below.ne
    | greeted _ _ _ _ _ _ _ after => simp [after, MuxDevice.greeted]
    | retired _ _ _ _ after => simp [after]

theorem SysRun.succeeds {lax : Laxity} {served : Option ClientPtr} {S S' : Sys} (changes : SysRun lax served S S') :
    Succeeds S S' := by
  induction changes with
  | refl => exact .refl S
  | tail _ change ih => exact ih.trans change.succeeds

/-- The client for which the main thread is inside `start_listen`. -/
def MainThread.client? : MainThread → Option ClientPtr
  | .idle => none
  | .listening k | .reading k _ _ | .telling k _ => some k

/-- The invariant of all threads, without any assumption on their order. -/
structure Threads.Fit (t : Threads) : Prop where
  sound : Sound anything t.daemon.sys
  alive : Alive t.daemon.sys
  enumerated : Enumerated t.daemon.sys
  listens : ∀ k ∈ t.main.client?, Listening k t.daemon.clients

variable {env : Env} {s s' : Daemon} {t : Threads}

private theorem SysRun.enumerated {served : Option ClientPtr} {S S' : Sys} (changes : SysRun anything served S S')
    (sound : Sound anything S) (before : Enumerated S) : Enumerated S' :=
  SysRun.keeps (motive := Enumerated) changes sound
    (fun _ _ _ change before => change.enrolled.enumerated before) before

private theorem ClientsMove.listening {lax : Laxity} {served : Option ClientPtr} {x x' : Clients} {k : ClientPtr}
    (moves : ClientsMove lax served x x') (listening : Listening k x) : Listening k x' := by
  obtain ⟨client, present, state⟩ := listening
  obtain ⟨client', events, after, kept⟩ := (moves.views k).forward present
  refine ⟨client', congrArg Prod.fst after, ?_⟩
  rcases kept.state with same | ⟨_, ⟨command, _⟩ | ⟨connecting, _⟩⟩
  · exact same.trans state
  · simp [state] at command
  · simp [state] at connecting

private theorem Threads.Fit.of_run (fit : t.Fit) {served : Option ClientPtr} {main : MainThread}
    (changes : SysRun anything served t.daemon.sys s'.sys) (alive : Alive s'.sys)
    (listens : ∀ k ∈ main.client?, Listening k s'.clients) : Threads.Fit ⟨s', main⟩ where
  sound := changes.sound fit.sound
  alive := alive
  enumerated := changes.enumerated fit.sound fit.enumerated
  listens := listens

variable (env) in
private theorem sendDeviceAdd_moves {k : ClientPtr} {x : Clients} (info : DeviceInfo) (listening : Listening k x) :
    ClientsMove anything (some k) x (sendDeviceAdd env info k x).2 := by
  obtain ⟨client, present, state⟩ := listening
  exact sendDeviceEvent_move env (some k) present (.inr state) ⟨trivial, trivial⟩

private theorem leaveListen_fit {k : ClientPtr} {main : MainThread} (fit : Threads.Fit ⟨s, main⟩) :
    Threads.Fit ⟨leaveListen k s, .idle⟩ := by
  have left : Steady anything (some k) s.sys (leaveListen k s).sys := rewind_steady trivial fun _ => trivial
  exact fit.of_run left.run (left.alive fit.alive) (by simp [MainThread.client?])

private theorem resume_fit (fit : t.Fit) : (t.resume env).Fit := by
  obtain ⟨s, main⟩ := t
  match main with
  | .idle => exact fit
  | .listening k => exact ⟨fit.sound, fit.alive, fit.enumerated, fit.listens⟩
  | .reading k [] found => exact ⟨fit.sound, fit.alive, fit.enumerated, fit.listens⟩
  | .reading k (d :: pending) found => exact ⟨fit.sound, fit.alive, fit.enumerated, fit.listens⟩
  | .telling k [] => exact leaveListen_fit fit
  | .telling k (info :: pending) =>
    have moves := sendDeviceAdd_moves env info (fit.listens k rfl)
    have told : Threads.Fit ⟨s.setClients (sendDeviceAdd env info k s.clients).2, .telling k pending⟩ :=
      fit.of_run (moves.run s _) fit.alive fun k' own => by
        obtain rfl : k = k' := Option.some.inj own
        exact moves.listening (fit.listens k rfl)
    simp only [Threads.resume]
    split
    · exact leaveListen_fit told
    · exact told

private theorem enterListen_fit {k : ClientPtr} (fit : Threads.Fit ⟨s, .idle⟩) (approach : Approaches env k s s') :
    Threads.Fit ⟨enterListen k s', .listening k⟩ := by
  obtain ⟨sound, alive, enumerated⟩ := enterListen_kept fit.sound fit.alive fit.enumerated approach
  obtain ⟨client, present, idle⟩ := approach.commanding
  refine ⟨sound, alive, enumerated, fun k' own => ?_⟩
  obtain rfl : k = k' := Option.some.inj own
  refine ⟨{ client with state := .listen }, ?_, rfl⟩
  simp only [enterListen, Daemon.setClients, Clients.modify, present]
  exact Function.update_self ..

variable (env) in
/-- The steps of one event. -/
theorem event_steady (fit : Threads.Fit ⟨s, t.main⟩) (event : Event) :
    Steady anything (servedClient s event) s.sys (Usbmuxd.step env s event).sys :=
  step_steady env (grants_anything env) fit.sound fit.alive
    (open_anything.admitted (.inl trivial) (.inl trivial) (.inl trivial))

private theorem worker_fit (fit : t.Fit) {event : Event} (foreign : event.byWorker = true) :
    Threads.Fit ⟨Usbmuxd.step env t.daemon event, t.main⟩ := by
  have steady := event_steady env (t := t) fit event
  refine fit.of_run steady.run (steady.alive fit.alive) fun k own => ?_
  have listening := fit.listens k own
  simp only [Usbmuxd.step]
  split
  swap
  · exact listening
  cases event with
  | workerDeviceAdd info =>
    have moves : ClientsMove anything none t.daemon.clients
        (notifyListeners (sendDeviceAdd env info) t.daemon.clients) :=
      notifyListeners_move _ none fun _ _ _ present state =>
        sendDeviceEvent_move env none present (.inr state) ⟨trivial, trivial⟩
    exact moves.listening listening
  | workerCbData deviceId data => exact listening
  | _ => cases foreign

/-- Any thread acts. -/
theorem Threads.Fit.step (fit : t.Fit) (action : ThreadAction) : (t.step env action).Fit := by
  cases action with
  | resume => exact resume_fit fit
  | event event =>
    cases foreign : event.byWorker with
    | true =>
      simp only [Threads.step, foreign, if_true]
      exact worker_fit fit foreign
    | false =>
      simp only [Threads.step, foreign, Bool.false_eq_true, if_false]
      obtain ⟨s, main⟩ := t
      cases main with
      | listening | reading | telling => exact fit
      | idle =>
        rcases point : listenPoint env s event with _ | ⟨k, s'⟩
        · have steady := event_steady env (t := ⟨s, .idle⟩) fit event
          exact fit.of_run steady.run (steady.alive fit.alive) (by simp [MainThread.client?])
        · exact enterListen_fit fit (listenPoint_spec point).toApproaches

theorem Threads.initial_fit : Threads.initial.Fit where
  sound := sound_initial anything
  alive := by simp [Alive, Threads.initial, Daemon.sys, Daemon.initial, Mux.initial]
  enumerated := ⟨rfl, by simp [Threads.initial, Daemon.sys, Daemon.initial, Mux.initial]⟩
  listens := by simp [Threads.initial, MainThread.client?]

variable (env) in
/-- An action of the main thread is an event that is taken as a whole, or it leaves devices and workers
alone. -/
theorem Threads.step_main {action : ThreadAction} (own : action.byMain) :
    (t.main = .idle ∧ ∃ event, action = .event event ∧ event.byWorker = false ∧
        (t.step env action).daemon = Usbmuxd.step env t.daemon event) ∨
      ((t.step env action).daemon.mux = t.daemon.mux ∧ (t.step env action).daemon.workers = t.daemon.workers) := by
  cases action with
  | resume => exact .inr (resume_keeps env t)
  | event event =>
    have foreign : event.byWorker = false := by simpa [ThreadAction.byMain] using own
    simp only [Threads.step, foreign, Bool.false_eq_true, if_false]
    obtain ⟨s, main⟩ := t
    cases main with
    | listening | reading | telling => exact .inr ⟨rfl, rfl⟩
    | idle =>
      rcases point : listenPoint env s event with _ | ⟨k, s'⟩
      · exact .inl ⟨rfl, event, rfl, foreign, rfl⟩
      · have starts := listenPoint_spec point
        exact .inr ⟨starts.mux, starts.workers⟩

end Usbmuxd
