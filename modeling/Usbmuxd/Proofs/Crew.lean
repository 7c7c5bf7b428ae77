import Usbmuxd.Proofs.Fitness

/-! # The workers and what they share with the main thread

The invariant of a crew. Workers belong to different devices, each of which has completed its handshake;
a worker that has not announced its device is still expected to do so; and a device of the list has
callback data exactly while its worker is between the two calls of `device_set_preflight_cb_data`.
-/

namespace Usbmuxd

variable {env : Env} {s : Daemon} {t : Threads}

section Daemon

/-- Records that have not been allocated have no callback data. -/
theorem Registry.hook_fresh (registry : Registry s.sys) {d : DevPtr} (fresh : s.mux.nextDev ≤ d) :
    s.mux.hook d = none := by
  have unused : (s.mux.dev d, s.mux.devLog d) = (default, []) := registry.fresh d fresh
  exact congrArg (fun view : DevView => view.1.preflightCbData) unused

variable (env) in
/-- The main thread stores no callback data. -/
theorem main_hook (fit : t.Fit) {action : ThreadAction} (own : action.byMain) :
    (t.step env action).daemon.mux.hook = t.daemon.mux.hook := by
  rcases Threads.step_main env (t := t) own with ⟨_, event, _, main, taken⟩ | ⟨same, _⟩
  · rw [taken]
    rcases step_hook env t.daemon main with kept | filled
    · exact kept
    · rw [filled, ← fit.sound.linked.registry.hook_fresh (Nat.le_refl _), Function.update_eq_self]
  · rw [same]

private theorem Succeeds.of_mux {s' : Daemon} (same : s'.mux = s.mux) : Succeeds s.sys s'.sys := by
  refine ⟨?_, ?_, ?_⟩
  · change s.mux.nextDev ≤ s'.mux.nextDev
    rw [same]
  · intro d listed
    have listed : d ∈ s'.mux.deviceList := listed
    rw [same] at listed
    exact .inl listed
  · intro d _ known
    change (s'.mux.dev d).state ≠ .init
    rw [same]
    exact known

variable (env) in
/-- Every action of a thread carries on with the devices there are. -/
theorem Threads.Fit.succeeds (fit : t.Fit) (action : ThreadAction) :
    Succeeds t.daemon.sys (t.step env action).daemon.sys := by
  have taken (event : Event) : Succeeds t.daemon.sys (Usbmuxd.step env t.daemon event).sys :=
    (event_steady env (t := t) fit event).run.succeeds
  by_cases own : action.byMain
  · rcases Threads.step_main env (t := t) own with ⟨_, event, _, _, same⟩ | ⟨same, _⟩
    · rw [same]
      exact taken event
    · exact .of_mux same
  · cases action with
    | resume => exact absurd rfl own
    | event event =>
      have foreign : event.byWorker = true := by simpa [ThreadAction.byMain] using own
      simp only [Threads.step, foreign, if_true]
      exact taken event

/-- A worker that a version packet starts. -/
structure Recruits (s s' : Daemon) (info : DeviceInfo) (d : DevPtr) : Prop where
  known : d < s.mux.nextDev
  id : info.id = d + 1
  before : (s.mux.dev d).state = .init
  after : (s'.mux.dev d).state ≠ .init

variable (env) in
/-- `device_version_input` starts at most one worker, for the device that has answered. -/
private theorem deviceVersionInput_started {d : DevPtr} (enumerated : Enumerated s.sys) (below : d < s.mux.nextDev)
    (vh : Bytes) : (deviceVersionInput env d vh s).workers = s.workers ∨
      ∃ info, (deviceVersionInput env d vh s).workers = s.workers ++ [info] ∧
        Recruits s (deviceVersionInput env d vh s) info d := by
  by_cases waiting : (s.mux.dev d).state = .init
  swap
  · rw [deviceVersionInput, if_pos waiting]
    exact .inl rfl
  by_cases unsupported : be32At vh 0 ≠ 2 ∧ be32At vh 0 ≠ 1
  · rw [deviceVersionInput, if_neg (not_not.mpr waiting), if_pos unsupported]
    exact .inl rfl
  rw [deviceVersionInput_greet env waiting unsupported]
  obtain ⟨alters, -⟩ := greet_alters env (s := s) (d := d) unsupported
  have active : ((s.greet env d (be32At vh 0)).mux.dev d).state = .active := alters.active
  have named : ((s.greet env d (be32At vh 0)).mux.dev d).id = d + 1 := alters.id.trans (enumerated.ids d below)
  simp only [preflightWorkerDeviceAdd]
  split
  · exact .inl rfl
  split
  · refine .inr ⟨_, rfl, below, named, waiting, ?_⟩
    change ((s.greet env d (be32At vh 0)).mux.dev d).state ≠ .init
    simp [active]
  · exact .inl rfl

/-- The main thread starts at most one worker in one event. -/
theorem step_started (fit : Threads.Fit ⟨s, t.main⟩) {event : Event} (own : event.byWorker = false) :
    (step env s event).workers = s.workers ∨
      ∃ info d, (step env s event).workers = s.workers ++ [info] ∧ Recruits s (step env s event) info d := by
  have other (info : DeviceInfo) : event ≠ .workerDeviceAdd info := by
    rintro rfl
    cases own
  by_cases silent : ∀ u t, event = .dataInput u t → greets u t s.mux = false
  · exact .inl (step_workers env silent other)
  push Not at silent
  obtain ⟨u, transfer, rfl, greeting⟩ := silent
  simp only [step]
  split
  swap
  · exact .inl rfl
  obtain ⟨d, s₁, listed, steady, workers, next, input⟩ := deviceDataInput_version env (by simpa using greeting)
  have sound₁ : Sound anything s₁.sys := sound_hushed.mp (steady.run.sound (sound_hushed.mpr fit.sound))
  have enumerated₁ : Enumerated s₁.sys :=
    SysRun.keeps (motive := Enumerated) steady.run (sound_hushed.mpr fit.sound)
      (fun _ _ _ change before => change.enrolled.enumerated before) fit.enumerated
  have below₁ : d < s₁.mux.nextDev := sound₁.linked.registry.known d listed
  have below : d < s.mux.nextDev := by
    have count₁ : s₁.mux.nextDeviceId = s₁.mux.nextDev + 1 := enumerated₁.next
    have count : s.mux.nextDeviceId = s.mux.nextDev + 1 := fit.enumerated.next
    have same : s₁.mux.nextDev = s.mux.nextDev := Nat.succ.inj (count₁.symm.trans (next.trans count))
    exact same ▸ below₁
  rcases input with same | ⟨vh, same⟩
  · rw [same]
    exact .inl workers
  rw [same]
  rcases deviceVersionInput_started env enumerated₁ below₁ vh with none | ⟨info, some, started⟩
  · exact .inl (none.trans workers)
  · refine .inr ⟨info, d, by rw [some, workers], below, started.id, ?_, started.after⟩
    by_contra known
    exact steady.run.succeeds.state d below known started.before

/-- The devices for which `device_remove` calls a worker back are in the list. -/
private theorem mem_removeCallbacks {usbs : List UsbPtr} {w : ℕ} (called : w ∈ removeCallbacks env usbs s) :
    ∃ d ∈ s.mux.deviceList, s.mux.hook d = some w := by
  induction usbs generalizing s with
  | nil => cases called
  | cons u rest ih =>
    rcases List.mem_append.mp called with here | later
    · obtain ⟨d, found, hook⟩ := Option.bind_eq_some_iff.mp (Option.mem_toList.mp here)
      exact ⟨d, List.mem_of_find?_eq_some found, hook⟩
    · obtain ⟨d, listed, hook⟩ := ih later
      refine ⟨d, ?_, by rwa [deviceRemove_hook] at hook⟩
      rw [deviceRemove_list] at listed
      rcases found : findDevice u s.mux with _ | d'
      · rwa [found] at listed
      · rw [found] at listed
        exact List.mem_of_mem_erase listed

private theorem mem_callbacks {event : Event} {w : ℕ} (called : w ∈ callbacks env s event) :
    ∃ d ∈ s.mux.deviceList, s.mux.hook d = some w := by
  cases event with
  | deviceRemove u => exact mem_removeCallbacks called
  | deviceShutdown => exact mem_removeCallbacks called
  | _ => cases called

theorem Threads.mem_callbacks {action : ThreadAction} {w : ℕ} (called : w ∈ t.callbacks env action) :
    ∃ d ∈ t.daemon.mux.deviceList, t.daemon.mux.hook d = some w := by
  cases action with
  | resume => cases called
  | event event =>
    simp only [Threads.callbacks] at called
    split at called
    · exact Usbmuxd.mem_callbacks called
    · cases called

private theorem removeCallbacks_covers (usbs : List UsbPtr) {d : DevPtr} {w : ℕ} (listed : d ∈ s.mux.deviceList)
    (hook : s.mux.hook d = some w) :
    d ∈ (usbs.foldl (fun s u => deviceRemove env u s) s).mux.deviceList ∨ w ∈ removeCallbacks env usbs s := by
  induction usbs generalizing s with
  | nil => exact .inl listed
  | cons u rest ih =>
    by_cases found : findDevice u s.mux = some d
    · refine .inr (List.mem_append_left _ ?_)
      rw [found]
      exact Option.mem_toList.mpr hook
    · have still : d ∈ (deviceRemove env u s).mux.deviceList := by
        rw [deviceRemove_list]
        rcases other : findDevice u s.mux with _ | d'
        · exact listed
        · refine (List.mem_erase_of_ne ?_).mpr listed
          rintro rfl
          exact found other
      rw [List.foldl_cons]
      exact (ih still (by rwa [deviceRemove_hook])).imp_right (List.mem_append_right _)

theorem callbacks_covers (sound : Sound anything s.sys) (alive : Alive s.sys) {event : Event}
    (possible : enabled s event) {d : DevPtr} {w : ℕ} (listed : d ∈ s.mux.deviceList)
    (hook : s.mux.hook d = some w) (active : (s.mux.dev d).state ≠ .init)
    (gone : d ∉ (step env s event).mux.deviceList) : w ∈ callbacks env s event := by
  by_cases stays : (∀ u, event ≠ .deviceRemove u) ∧ event ≠ .deviceShutdown
  · exact absurd (step_list env s stays listed active) gone
  rw [not_and_or, not_not, not_forall] at stays
  rcases stays with ⟨u, removal⟩ | rfl
  · obtain rfl := not_not.mp removal
    refine (removeCallbacks_covers [u] listed hook).resolve_left fun still => gone ?_
    rw [step, if_pos possible]
    exact still
  · refine (removeCallbacks_covers _ listed hook).resolve_left fun still => ?_
    have empty := (removeAll_spec env (grants_anything env) announces_anything _ sound alive (List.Perm.refl _)).2.1
    have still : d ∈ (List.foldl (fun s u => deviceRemove env u s) s
      (s.sys.deviceList.map fun d => (s.sys.dev d).1.usbdev)).sys.deviceList := still
    rw [empty] at still
    cases still

/-- `device_set_preflight_cb_data` stores for the device with this id, if it is in the list. -/
theorem deviceSetPreflightCbData_hook (fit : t.Fit) (deviceId : ℕ) (data : Option ℕ) {d : DevPtr}
    (listed : d ∈ t.daemon.mux.deviceList) :
    (deviceSetPreflightCbData deviceId data t.daemon.mux).hook d =
      if deviceId = d + 1 then data else t.daemon.mux.hook d := by
  have registry := fit.sound.linked.registry
  have id : (t.daemon.mux.dev d).id = d + 1 := fit.enumerated.ids d (registry.known d listed)
  by_cases own : deviceId = d + 1
  · have found : getMuxDeviceForId deviceId t.daemon.mux = some d := by
      rw [own, ← id]
      exact registry.getMuxDeviceForId_id listed
    simp only [deviceSetPreflightCbData, found, setDev_hook, Function.update_self, if_pos own]
  · rw [if_neg own]
    simp only [deviceSetPreflightCbData]
    split
    · rfl
    · next d' found =>
      have other : d ≠ d' := by
        rintro rfl
        exact own ((getMuxDeviceForId_mem found).2.symm.trans id)
      rw [setDev_hook, Function.update_of_ne other]

end Daemon

section Worker

namespace WorkerStage

/-- Inside the block that declares `cbdata`. -/
@[simp] def framed : WorkerStage → Bool
  | register | reveal | wait | unregister | freeProxy => true
  | _ => false

/-- Between the two calls of `device_set_preflight_cb_data`. -/
@[simp] def registered : WorkerStage → Bool
  | reveal | wait | unregister => true
  | _ => false

/-- Before the call of `client_device_add`, if there is one. -/
@[simp] def unannounced : WorkerStage → Bool
  | wait | unregister | freeProxy | leave | done => false
  | _ => true

/-- Before the notification proxy is started. -/
@[simp] def unproxied : WorkerStage → Bool
  | register | reveal | wait | unregister | freeProxy | leave | done => false
  | _ => true

/-- lockdownd is being asked. -/
@[simp] def talks : WorkerStage → Bool
  | connect | register | reveal | wait | unregister | freeProxy | leave | done => false
  | _ => true

/-- lockdownd has been left. -/
@[simp] def silent : WorkerStage → Bool
  | connect | register | reveal | wait | unregister | freeProxy | done => true
  | _ => false

/-- The steps that are left, unless the worker starts over. -/
@[simp] def rank : WorkerStage → ℕ
  | connect => 18
  | queryType => 17
  | hasRecord => 16
  | startSession => 15
  | removeRecord => 14
  | productVersion => 13
  | deviceClass => 12
  | setBuid | pair => 11
  | trigger | restartSession => 10
  | startService | validatePair => 9
  | register => 8
  | reveal => 7
  | wait => 6
  | unregister => 5
  | freeProxy => 4
  | announce => 2
  | leave => 1
  | done => 0

/-- The stages from which the worker may start over. -/
@[simp] def mayRetry : WorkerStage → Bool
  | connect | queryType | hasRecord | startSession | removeRecord => true
  | _ => false

end WorkerStage

/-- The invariant of one worker. -/
structure Worker.Ok (worker : Worker) : Prop where
  framed : worker.cbdata.isSome = worker.stage.framed
  announced : worker.log.count .announced + worker.stage.unannounced.toNat ≤ 1
  lockdown : worker.log.count .lockdownNew = worker.log.count .lockdownFree + worker.lockdown.toNat
  talks : worker.stage.talks → worker.lockdown = true
  silent : worker.stage.silent → worker.lockdown = false
  proxy : worker.log.count .npNew + worker.stage.unproxied.toNat ≤ 1
  proxied : worker.log.count .npFree + (worker.cbdata.any CbData.np).toNat ≤ worker.log.count .npNew

theorem Worker.start_ok (info : DeviceInfo) : (Worker.start info).Ok := by
  constructor <;> simp [Worker.start]

/-- A worker rests or goes forward, without opening, releasing or announcing anything. -/
def WorkerStage.leadsTo (stage next : WorkerStage) : Bool :=
  next.framed == stage.framed && (!next.unannounced || stage.unannounced) && (!next.unproxied || stage.unproxied) &&
    (!next.talks || stage.talks) && (!next.silent || stage.silent) && (!next.mayRetry || stage.mayRetry) &&
    (stage.rests || next.rank < stage.rank)

/-- What a step of the worker with number `w` can be. -/
inductive Worker.Turn (w : ℕ) (worker : Worker) : Worker → Option WorkerCall → Prop
  | goes {worker' : Worker} (info : worker'.info = worker.info) (cbdata : worker'.cbdata = worker.cbdata)
      (log : worker'.log = worker.log) (lockdown : worker'.lockdown = worker.lockdown)
      (leads : worker.stage.leadsTo worker'.stage) (registered : worker'.stage.registered = worker.stage.registered) :
      Turn w worker worker' none
  | connects (here : worker.stage = .connect) :
      Turn w worker { (worker.note .lockdownNew).goto .queryType with lockdown := true } none
  | retries (here : worker.stage = .removeRecord) : Turn w worker (worker.freeLockdown.goto .connect) none
  | proxies (here : worker.stage = .startService) (np : Bool) : Turn w worker (worker.openProxy np) none
  | registers (here : worker.stage = .register) :
      Turn w worker (worker.goto .reveal) (some (.setPreflightCbData worker.info.id (some w)))
  | reveals (here : worker.stage = .reveal) :
      Turn w worker ((worker.note .announced).goto .wait) (some (.deviceAdd worker.info))
  | unregisters (here : worker.stage = .unregister) :
      Turn w worker (worker.goto .freeProxy) (some (.setPreflightCbData worker.info.id none))
  | releases (here : worker.stage = .freeProxy) :
      Turn w worker { (if worker.cbdata.any CbData.np then worker.note .npFree else worker).goto .leave with
        cbdata := none } none
  | announces (here : worker.stage = .announce) :
      Turn w worker ((worker.note .announced).goto .leave) (some (.deviceAdd worker.info))
  | leaves (here : worker.stage = .leave) :
      Turn w worker { (if worker.lockdown then worker.freeLockdown else worker).goto .done with
        versionStr := none, deviceclassStr := none } none

/-- Every step is one of these. -/
theorem Worker.advance_turn (w : ℕ) (answer : PreflightAnswer) (worker : Worker) :
    worker.Turn w (worker.advance w answer).1 (worker.advance w answer).2 := by
  -- a jump to another stage
  have goto {worker' : Worker} {stage next : WorkerStage} (here : worker.stage = stage)
      (info : worker'.info = worker.info) (cbdata : worker'.cbdata = worker.cbdata) (log : worker'.log = worker.log)
      (lockdown : worker'.lockdown = worker.lockdown) (there : worker'.stage = next) (leads : stage.leadsTo next)
      (registered : next.registered = stage.registered) : worker.Turn w worker' none :=
    .goes info cbdata log lockdown (here ▸ there ▸ leads) (by rw [here, there, registered])
  have failed (worker' : Worker) {stage : WorkerStage} (here : worker.stage = stage)
      (asking : stage = .hasRecord ∨ stage = .startSession) (info : worker'.info = worker.info)
      (cbdata : worker'.cbdata = worker.cbdata) (log : worker'.log = worker.log)
      (lockdown : worker'.lockdown = worker.lockdown) (error : LockdownError) :
      worker.Turn w (worker'.sessionFailed error) none := by
    cases error <;> exact goto here info cbdata log lockdown rfl (by rcases asking with rfl | rfl <;> rfl)
      (by rcases asking with rfl | rfl <;> rfl)
  simp only [Worker.advance]
  split
  next here =>
    split
    · exact .connects here
    · exact goto here rfl rfl rfl rfl rfl rfl rfl
  next here =>
    split
    · exact goto here rfl rfl rfl rfl rfl rfl rfl
    · split <;> exact goto here rfl rfl rfl rfl rfl rfl rfl
  next here =>
    split
    · exact goto here rfl rfl rfl rfl rfl rfl rfl
    · let unpaired := { worker with isDevicePaired := false }
      exact failed unpaired here (.inl rfl) rfl rfl rfl rfl .invalidHostId
  next here =>
    split
    · exact goto here rfl rfl rfl rfl rfl rfl rfl
    · exact failed worker here (.inr rfl) rfl rfl rfl rfl answer.error
  next here =>
    split
    · exact .retries here
    · exact goto here rfl rfl rfl rfl rfl rfl rfl
  next here =>
    split
    · exact goto here rfl rfl rfl rfl rfl rfl rfl
    · split
      · exact goto here rfl rfl rfl rfl rfl rfl rfl
      · exact goto here rfl rfl rfl rfl rfl rfl rfl
  next here =>
    split
    · exact goto here rfl rfl rfl rfl rfl rfl rfl
    · split
      · exact goto here rfl rfl rfl rfl rfl rfl rfl
      · simp only [Worker.classify]
        split <;> exact goto here rfl rfl rfl rfl rfl rfl rfl
  next here => split <;> exact goto here rfl rfl rfl rfl rfl rfl rfl
  next here => split <;> exact goto here rfl rfl rfl rfl rfl rfl rfl
  next here =>
    split
    · exact goto here rfl rfl rfl rfl rfl rfl rfl
    · exact .proxies here answer.np
  next here => exact .registers here
  next here => exact .reveals here
  next here =>
    split
    · exact goto here rfl rfl rfl rfl here rfl rfl
    · exact goto here rfl rfl rfl rfl rfl rfl rfl
  next here => exact .unregisters here
  next here => exact .releases here
  next here => split <;> exact goto here rfl rfl rfl rfl rfl rfl rfl
  next here => split <;> exact goto here rfl rfl rfl rfl rfl rfl rfl
  next here => split <;> exact goto here rfl rfl rfl rfl rfl rfl rfl
  next here => exact .announces here
  next here => exact .leaves here
  next here => exact goto here rfl rfl rfl rfl here rfl rfl

variable {worker worker' : Worker} {w : ℕ}

theorem Worker.Turn.info {call : Option WorkerCall} (turn : worker.Turn w worker' call) :
    worker'.info = worker.info := by
  cases turn with
  | goes info => exact info
  | proxies here np => cases np <;> rfl
  | releases here => dsimp only; split <;> rfl
  | leaves here => dsimp only; split <;> rfl
  | _ => rfl

/-- Nothing that the invariant is about changes, except for the stage. -/
private theorem Worker.Ok.goes (ok : worker.Ok) (cbdata : worker'.cbdata = worker.cbdata)
    (log : worker'.log = worker.log)
    (lockdown : worker'.lockdown = worker.lockdown) (leads : worker.stage.leadsTo worker'.stage) : worker'.Ok := by
  simp only [WorkerStage.leadsTo, Bool.and_eq_true, Bool.or_eq_true, Bool.not_eq_true', beq_iff_eq] at leads
  obtain ⟨⟨⟨⟨⟨⟨framed, unannounced⟩, unproxied⟩, talks⟩, silent⟩, -⟩, -⟩ := leads
  have fewer {later earlier : Bool} (implied : later = false ∨ earlier = true) : later.toNat ≤ earlier.toNat := by
    rcases implied with rfl | rfl
    · exact Nat.zero_le _
    · exact Bool.toNat_le _
  constructor
  · rw [cbdata, framed]
    exact ok.framed
  · rw [log]
    exact (Nat.add_le_add_left (fewer unannounced) _).trans ok.announced
  · rw [log, lockdown]
    exact ok.lockdown
  · intro here
    rw [lockdown]
    exact ok.talks (talks.resolve_left (by rw [here]; decide))
  · intro here
    rw [lockdown]
    exact ok.silent (silent.resolve_left (by rw [here]; decide))
  · rw [log]
    exact (Nat.add_le_add_left (fewer unproxied) _).trans ok.proxy
  · rw [log, cbdata]
    exact ok.proxied

/-- A step keeps the invariant of the worker. -/
theorem Worker.Turn.ok {call : Option WorkerCall} (turn : worker.Turn w worker' call) (ok : worker.Ok) :
    worker'.Ok := by
  obtain ⟨framed, announced, balanced, talks, silent, proxy, proxied⟩ := ok
  cases turn with
  | goes info cbdata log lockdown leads =>
    exact Worker.Ok.goes ⟨framed, announced, balanced, talks, silent, proxy, proxied⟩ cbdata log lockdown leads
  | registers here =>
    exact Worker.Ok.goes ⟨framed, announced, balanced, talks, silent, proxy, proxied⟩ rfl rfl rfl (by rw [here]; rfl)
  | unregisters here =>
    exact Worker.Ok.goes ⟨framed, announced, balanced, talks, silent, proxy, proxied⟩ rfl rfl rfl (by rw [here]; rfl)
  | connects here =>
    rw [here] at framed announced talks silent proxy
    constructor <;> simp_all [Worker.note, Worker.goto]
  | retries here =>
    rw [here] at framed announced talks silent proxy
    constructor <;> simp_all [Worker.note, Worker.goto, Worker.freeLockdown]
  | proxies here np =>
    rw [here] at framed announced talks silent proxy
    cases np <;> constructor <;> simp_all [Worker.note, Worker.goto, Worker.freeLockdown, Worker.openProxy]
  | reveals here =>
    rw [here] at framed announced talks silent proxy
    constructor <;> simp_all [Worker.note, Worker.goto]
  | releases here =>
    rw [here] at framed announced talks silent proxy
    split <;> constructor <;> simp_all [Worker.note, Worker.goto]
  | announces here =>
    rw [here] at framed announced talks silent proxy
    constructor <;> simp_all [Worker.note, Worker.goto]
  | leaves here =>
    rw [here] at framed announced talks silent proxy
    split <;> constructor <;> simp_all [Worker.note, Worker.goto, Worker.freeLockdown]

end Worker

end Usbmuxd
