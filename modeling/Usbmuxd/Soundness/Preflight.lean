import Usbmuxd.Proofs.Crew
import Usbmuxd.Soundness.Listeners

/-! # Preflight workers in any interleaving

Whatever order the main thread, the workers and their notification proxies act in, and whatever lockdownd
answers: the callback of `device_remove` never reaches a worker that has left the block with its
`cb_data`, a worker that waits is told when its device goes away, each device is announced at most once
by its worker, and the workers do nothing that the model with anonymous workers does not have.
-/

namespace Usbmuxd

open History

variable {env : Env} {s s' : Daemon} {t : Threads} {crew crew' : Crew} {w : ℕ}

/-- What a crew knows about a worker: its device and where it is. -/
abbrev Face := DeviceInfo × WorkerStage

def Worker.face (worker : Worker) : Face := (worker.info, worker.stage)

def Crew.faces (crew : Crew) : List Face := crew.workers.map Worker.face

/-- The workers and the devices they belong to. -/
structure Staff (s : Daemon) (faces : List Face) : Prop where
  greeted : ∀ face ∈ faces, ∃ d < s.mux.nextDev, face.1.id = d + 1 ∧ (s.mux.dev d).state ≠ .init
  distinct : (faces.map fun face => face.1.id).Nodup
  employed : ∀ face ∈ faces, face.2.unannounced → face.1 ∈ s.workers
  hooked : ∀ d ∈ s.mux.deviceList, ∀ w, s.mux.hook d = some w →
    ∃ face, faces[w]? = some face ∧ face.2.registered ∧ face.1.id = d + 1
  registered : ∀ w face, faces[w]? = some face → face.2.registered →
    ∀ d ∈ s.mux.deviceList, face.1.id = d + 1 → s.mux.hook d = some w

namespace Staff

variable {faces : List Face} {info : DeviceInfo} {stage stage' : WorkerStage}

private theorem worker_unique (staff : Staff s faces) {w' : ℕ} {face face' : Face} (here : faces[w]? = some face)
    (there : faces[w']? = some face') (same : face.1.id = face'.1.id) : w = w' := by
  obtain ⟨below, -⟩ := List.getElem?_eq_some_iff.mp here
  refine (List.getElem?_inj (by simpa using below) staff.distinct).mp ?_
  simp [here, there, same]

private theorem hook_eq (staff : Staff s faces) (here : faces[w]? = some (info, stage)) {d : DevPtr}
    (listed : d ∈ s.mux.deviceList) (own : info.id = d + 1) :
    s.mux.hook d = if stage.registered then some w else none := by
  split
  · next registered => exact staff.registered w _ here registered d listed own
  · next unregistered =>
    rcases hook : s.mux.hook d with _ | w'
    · rfl
    obtain ⟨face, there, registered, id⟩ := staff.hooked d listed w' hook
    obtain rfl := staff.worker_unique here there (own.trans id.symm)
    obtain rfl := Option.some.inj (here.symm.trans there)
    exact absurd registered unregistered

private theorem turn (staff : Staff s faces) (here : faces[w]? = some (info, stage)) (succeeds : Succeeds s.sys s'.sys)
    (list : s'.mux.deviceList = s.mux.deviceList) (unannounced : stage'.unannounced → stage.unannounced)
    (employed : ∀ other ∈ s.workers, other ≠ info ∨ stage'.unannounced → other ∈ s'.workers)
    (hook : ∀ d ∈ s.mux.deviceList, s'.mux.hook d =
      if info.id = d + 1 then if stage'.registered then some w else none else s.mux.hook d) :
    Staff s' (faces.set w (info, stage')) := by
  have member : (info, stage) ∈ faces := List.mem_of_getElem? here
  obtain ⟨below, -⟩ := List.getElem?_eq_some_iff.mp here
  have greeted (face : Face) (known : face ∈ faces) :
      ∃ d < s'.mux.nextDev, face.1.id = d + 1 ∧ (s'.mux.dev d).state ≠ .init := by
    obtain ⟨d, before, id, active⟩ := staff.greeted face known
    exact ⟨d, Nat.lt_of_lt_of_le before succeeds.nextDev, id, succeeds.state d before active⟩
  refine ⟨fun face known => ?_, ?_, fun face known waiting => ?_, fun d listed w' called => ?_,
    fun w' face there registered d listed own => ?_⟩
  · rcases List.mem_or_eq_of_mem_set known with old | rfl
    · exact greeted face old
    · exact greeted (info, stage) member
  · have same : (faces.set w (info, stage')).map (fun face => face.1.id) = faces.map fun face => face.1.id := by
      refine List.ext_getElem? fun w' => ?_
      by_cases same : w' = w
      · subst same
        rw [List.getElem?_map, List.getElem?_set_self below, List.getElem?_map, here]
        rfl
      · simp [List.getElem?_set_ne (Ne.symm same)]
    rw [same]
    exact staff.distinct
  · obtain ⟨w', there⟩ := List.mem_iff_getElem?.mp known
    by_cases same : w' = w
    · subst same
      rw [List.getElem?_set_self below] at there
      obtain rfl := Option.some.inj there
      exact employed info (staff.employed _ member (unannounced waiting)) (.inr waiting)
    · rw [List.getElem?_set_ne (Ne.symm same)] at there
      refine employed face.1 (staff.employed face (List.mem_of_getElem? there) waiting) (.inl fun equal => same ?_)
      exact staff.worker_unique there here (congrArg DeviceInfo.id equal)
  · rw [list] at listed
    rw [hook d listed] at called
    split at called
    · next own =>
      split at called
      · next registered =>
        obtain rfl := Option.some.inj called
        exact ⟨(info, stage'), List.getElem?_set_self below, registered, own⟩
      · cases called
    · next other =>
      obtain ⟨face, there, registered, id⟩ := staff.hooked d listed w' called
      refine ⟨face, ?_, registered, id⟩
      rw [List.getElem?_set_ne, there]
      rintro rfl
      obtain rfl := Option.some.inj (here.symm.trans there)
      exact other id
  · rw [list] at listed
    rw [hook d listed]
    by_cases same : w' = w
    · subst same
      rw [List.getElem?_set_self below] at there
      obtain rfl := Option.some.inj there
      rw [if_pos own, if_pos registered]
    · rw [List.getElem?_set_ne (Ne.symm same)] at there
      rw [if_neg, staff.registered w' face there registered d listed own]
      exact fun id => same (staff.worker_unique there here (own.trans id.symm))

private theorem main (staff : Staff t.daemon faces) (fit : t.Fit) {action : ThreadAction} (own : action.byMain) :
    Staff (t.step env action).daemon (faces ++
      ((t.step env action).daemon.workers.drop t.daemon.workers.length).map fun info => (info, .connect)) := by
  have succeeds : Succeeds t.daemon.sys (t.step env action).daemon.sys := fit.succeeds env action
  have hook := main_hook env fit own
  have recruits : (t.step env action).daemon.workers = t.daemon.workers ∨ ∃ info d,
      (t.step env action).daemon.workers = t.daemon.workers ++ [info] ∧
        Recruits t.daemon (t.step env action).daemon info d := by
    rcases Threads.step_main env (t := t) own with ⟨_, event, _, main, taken⟩ | ⟨_, same⟩
    · rw [taken]
      exact step_started fit main
    · exact .inl same
  set s' := (t.step env action).daemon
  set started := s'.workers.drop t.daemon.workers.length with starting
  -- a device that was known is not one that appears now
  have listed {d : DevPtr} (known : d ∈ s'.mux.deviceList) (old : d < t.daemon.mux.nextDev) :
      d ∈ t.daemon.mux.deviceList := (succeeds.listed d known).resolve_right (Nat.not_le.mpr old)
  have joined : s'.workers = t.daemon.workers ++ started ∧ ∀ info ∈ started, started = [info] ∧
      ∃ d, Recruits t.daemon s' info d := by
    rcases recruits with same | ⟨info, d, same, recruits⟩
    · have none : started = [] := by rw [starting, same, List.drop_length]
      simp [none, same]
    · have one : started = [info] := by rw [starting, same, List.drop_left]
      rw [one]
      refine ⟨same, fun info' member => ?_⟩
      obtain rfl := List.mem_singleton.mp member
      exact ⟨rfl, d, recruits⟩
  obtain ⟨workers, recruits⟩ := joined
  refine ⟨fun face known => ?_, ?_, fun face known waiting => ?_, fun d here w called => ?_,
    fun w face there registered d here id => ?_⟩
  · rcases List.mem_append.mp known with old | new
    · obtain ⟨d, before, id, active⟩ := staff.greeted face old
      exact ⟨d, Nat.lt_of_lt_of_le before succeeds.nextDev, id, succeeds.state d before active⟩
    · obtain ⟨info, member, rfl⟩ := List.mem_map.mp new
      obtain ⟨-, d, recruits⟩ := recruits info member
      exact ⟨d, Nat.lt_of_lt_of_le recruits.known succeeds.nextDev, recruits.id, recruits.after⟩
  · rw [List.map_append, List.nodup_append]
    refine ⟨staff.distinct, ?_, ?_⟩
    · rcases one : started with _ | ⟨info, rest⟩
      · exact List.nodup_nil
      · rw [← one, (recruits info (by simp [one])).1]
        exact List.nodup_singleton _
    · intro i old j new same
      obtain ⟨face, known, rfl⟩ := List.mem_map.mp old
      simp only [List.map_map, List.mem_map] at new
      obtain ⟨info, member, rfl⟩ := new
      obtain ⟨d, _, id, active⟩ := staff.greeted face known
      obtain ⟨-, d', recruits⟩ := recruits info member
      have own : info.id = d + 1 := same.symm.trans id
      obtain rfl : d = d' := Nat.succ.inj (own.symm.trans recruits.id)
      exact active recruits.before
  · rw [workers]
    rcases List.mem_append.mp known with old | new
    · exact List.mem_append_left _ (staff.employed face old waiting)
    · obtain ⟨info, member, rfl⟩ := List.mem_map.mp new
      exact List.mem_append_right _ member
  · rw [hook] at called
    have old : d < t.daemon.mux.nextDev := by
      by_contra fresh
      rw [fit.sound.linked.registry.hook_fresh (Nat.not_lt.mp fresh)] at called
      cases called
    obtain ⟨face, there, registered, id⟩ := staff.hooked d (listed here old) w called
    exact ⟨face, (List.getElem?_append_left (List.getElem?_eq_some_iff.mp there).1).trans there, registered, id⟩
  · rw [hook]
    rcases Nat.lt_or_ge w faces.length with below | above
    · rw [List.getElem?_append_left below] at there
      obtain ⟨d', old, id', _⟩ := staff.greeted face (List.mem_of_getElem? there)
      obtain rfl : d = d' := Nat.succ.inj (id.symm.trans id')
      exact staff.registered w face there registered d (listed here old) id
    · rw [List.getElem?_append_right above] at there
      obtain ⟨info, _, rfl⟩ := List.mem_map.mp (List.mem_of_getElem? there)
      cases registered

end Staff

/-- The worker knows that its device is gone. -/
def Worker.told (worker : Worker) : Bool := worker.cbdata.all fun cbdata => !cbdata.isDeviceConnected

/-- Another thread has written to the `cb_data` of a worker. -/
structure Worker.Touched (worker worker' : Worker) : Prop where
  face : worker'.face = worker.face
  lockdown : worker'.lockdown = worker.lockdown
  log : worker'.log = worker.log
  cbdata : worker'.cbdata.isSome = worker.cbdata.isSome
  np : worker'.cbdata.any CbData.np → worker.cbdata.any CbData.np
  told : worker.told → worker'.told

namespace Worker.Touched

variable {worker worker' worker'' : Worker}

private theorem refl (worker : Worker) : worker.Touched worker := ⟨rfl, rfl, rfl, rfl, id, id⟩

private theorem trans (first : worker.Touched worker') (second : worker'.Touched worker'') :
    worker.Touched worker'' where
  face := second.face.trans first.face
  lockdown := second.lockdown.trans first.lockdown
  log := second.log.trans first.log
  cbdata := second.cbdata.trans first.cbdata
  np := first.np ∘ second.np
  told := second.told ∘ first.told

private theorem ok (touched : worker.Touched worker') (ok : worker.Ok) : worker'.Ok := by
  have stage : worker'.stage = worker.stage := congrArg Prod.snd touched.face
  refine ⟨?_, ?_, ?_, ?_, ?_, ?_, ?_⟩
  · rw [touched.cbdata, stage]
    exact ok.framed
  · rw [touched.log, stage]
    exact ok.announced
  · rw [touched.log, touched.lockdown]
    exact ok.lockdown
  · rw [touched.lockdown, stage]
    exact ok.talks
  · rw [touched.lockdown, stage]
    exact ok.silent
  · rw [touched.log, stage]
    exact ok.proxy
  · rw [touched.log]
    refine (Nat.add_le_add_left ?_ _).trans ok.proxied
    cases open' : worker'.cbdata.any CbData.np with
    | false => exact Nat.zero_le _
    | true => rw [touched.np open']

end Worker.Touched

private theorem Worker.disconnect_touched {worker worker' : Worker} (reached : worker.disconnect = some worker') :
    worker.Touched worker' ∧ worker'.told := by
  obtain ⟨cbdata, here, rfl⟩ := Option.map_eq_some_iff.mp reached
  exact ⟨⟨rfl, rfl, rfl, by simp [here], by simp [here], fun _ => rfl⟩, rfl⟩

private theorem Worker.npCallback_touched (worker : Worker) (notification : String) :
    worker.Touched { worker with cbdata := worker.cbdata.map fun cbdata =>
      if cbdata.np then cbdata.npCallback notification else cbdata } := by
  obtain ⟨info, stage, lockdown, paired, version, deviceclass, cbdata, log⟩ := worker
  cases cbdata with
  | none => exact .refl _
  | some cbdata =>
    have kept : (cbdata.npCallback notification).isDeviceConnected = cbdata.isDeviceConnected := by
      simp only [CbData.npCallback]
      split
      · rfl
      · split <;> rfl
    refine ⟨rfl, rfl, rfl, rfl, fun still => ?_, fun told => ?_⟩
    · by_contra closed
      have closed : cbdata.np = false := by simpa using closed
      simp [closed] at still
    · simp only [Worker.told, Option.all_some, Option.map_some] at told ⊢
      split
      · rw [kept]
        exact told
      · exact told

/-- Other threads have written to the records of workers. -/
structure Crew.Touched (crew crew' : Crew) : Prop where
  threads : crew'.threads = crew.threads
  stray : crew'.stray = crew.stray
  length : crew'.workers.length = crew.workers.length
  workers : ∀ (w : ℕ) (worker : Worker), crew.workers[w]? = some worker →
    ∃ worker', crew'.workers[w]? = some worker' ∧ worker.Touched worker'

namespace Crew.Touched

private theorem refl (crew : Crew) :
    crew.Touched crew := ⟨rfl, rfl, rfl, fun _ worker here => ⟨worker, here, .refl worker⟩⟩

private theorem trans {crew'' : Crew} (first : crew.Touched crew') (second : crew'.Touched crew'') :
    crew.Touched crew'' where
  threads := second.threads.trans first.threads
  stray := second.stray.trans first.stray
  length := second.length.trans first.length
  workers w worker here := by
    obtain ⟨worker', here', touched⟩ := first.workers w worker here
    obtain ⟨worker'', here'', touched'⟩ := second.workers w worker' here'
    exact ⟨worker'', here'', touched.trans touched'⟩

private theorem set {worker worker' : Worker} (here : crew.workers[w]? = some worker) (touched : worker.Touched worker')
    :
    crew.Touched { crew with workers := crew.workers.set w worker' } := by
  refine ⟨rfl, rfl, List.length_set, fun w' other there => ?_⟩
  by_cases same : w' = w
  · subst same
    obtain rfl := Option.some.inj (here.symm.trans there)
    exact ⟨worker', List.getElem?_set_self (List.getElem?_eq_some_iff.mp here).1, touched⟩
  · exact ⟨other, (List.getElem?_set_ne (Ne.symm same)).trans there, .refl other⟩

private theorem faces (touched : crew.Touched crew') : crew'.faces = crew.faces := by
  refine List.ext_getElem? fun w => ?_
  simp only [Crew.faces, List.getElem?_map]
  rcases here : crew.workers[w]? with _ | worker
  · rw [List.getElem?_eq_none_iff.mpr (touched.length ▸ List.getElem?_eq_none_iff.mp here)]
  · obtain ⟨worker', here', touched⟩ := touched.workers w worker here
    rw [here', Option.map_some, touched.face, Option.map_some]

private theorem each_ok (touched : crew.Touched crew') (ok : ∀ worker ∈ crew.workers, worker.Ok) :
    ∀ worker ∈ crew'.workers, worker.Ok := by
  intro worker' member
  obtain ⟨w, below, here'⟩ := List.mem_iff_getElem.mp member
  have below' : w < crew.workers.length := touched.length ▸ below
  have here : crew.workers[w]? = some crew.workers[w] := List.getElem?_eq_getElem below'
  obtain ⟨worker'', there, touched⟩ := touched.workers w _ here
  rw [List.getElem?_eq_getElem below, here'] at there
  obtain rfl := Option.some.inj there
  exact touched.ok (ok _ (List.getElem_mem _))

end Crew.Touched

/-- The invariant of a crew. -/
structure Crew.Ok (crew : Crew) : Prop where
  fit : crew.threads.Fit
  workers : ∀ worker ∈ crew.workers, worker.Ok
  staff : Staff crew.threads.daemon crew.faces
  stray : crew.stray = []

namespace Crew.Ok

private theorem touched (ok : crew.Ok) (touched : crew.Touched crew') : crew'.Ok where
  fit := touched.threads ▸ ok.fit
  workers := touched.each_ok ok.workers
  staff := by
    rw [touched.threads, touched.faces]
    exact ok.staff
  stray := touched.stray.trans ok.stray

/-- A worker that is called back has not left the block with its record. -/
private theorem reached (ok : crew.Ok) {d : DevPtr} (listed : d ∈ crew.threads.daemon.mux.deviceList)
    (hook : crew.threads.daemon.mux.hook d = some w) : ∃ worker cbdata, crew.workers[w]? = some worker ∧
      worker.cbdata = some cbdata ∧ worker.stage.registered ∧ worker.info.id = d + 1 := by
  obtain ⟨face, there, registered, id⟩ := ok.staff.hooked d listed w hook
  simp only [Crew.faces, List.getElem?_map, Option.map_eq_some_iff] at there
  obtain ⟨worker, here, rfl⟩ := there
  have registered : worker.stage.registered = true := registered
  have inside : worker.cbdata.isSome := by
    rw [(ok.workers worker (List.mem_of_getElem? here)).framed]
    revert registered
    cases worker.stage <;> simp
  obtain ⟨cbdata, known⟩ := Option.isSome_iff_exists.mp inside
  exact ⟨worker, cbdata, here, known, registered, id⟩

end Crew.Ok

private theorem Crew.called_back (crew : Crew) {called : List ℕ}
    (reached : ∀ w ∈ called, ∃ worker, crew.workers[w]? = some worker ∧ worker.cbdata.isSome) :
    crew.Touched (called.foldl preflightDeviceRemoveCb crew) ∧
      ∀ w ∈ called, ∃ worker, (called.foldl preflightDeviceRemoveCb crew).workers[w]? = some worker ∧ worker.told := by
  induction called generalizing crew with
  | nil => exact ⟨.refl crew, by simp⟩
  | cons w rest ih =>
    obtain ⟨worker, here, inside⟩ := reached w (List.mem_cons_self ..)
    obtain ⟨cbdata, known⟩ := Option.isSome_iff_exists.mp inside
    have stored : worker.disconnect =
        some { worker with cbdata := some { cbdata with isDeviceConnected := false } } := by
      simp [Worker.disconnect, known]
    obtain ⟨written, told⟩ := Worker.disconnect_touched stored
    set worker' : Worker := { worker with cbdata := some { cbdata with isDeviceConnected := false } }
    have first : crew.preflightDeviceRemoveCb w = { crew with workers := crew.workers.set w worker' } := by
      simp only [preflightDeviceRemoveCb, here, Option.bind_some, stored]
    have touched : crew.Touched (crew.preflightDeviceRemoveCb w) := first ▸ .set here written
    obtain ⟨later, all⟩ := ih (crew.preflightDeviceRemoveCb w) fun w' member => by
      obtain ⟨other, there, inside'⟩ := reached w' (List.mem_cons_of_mem _ member)
      obtain ⟨other', there', same⟩ := touched.workers w' other there
      exact ⟨other', there', same.cbdata.trans inside'⟩
    rw [List.foldl_cons]
    refine ⟨touched.trans later, fun w' member => ?_⟩
    rcases List.mem_cons.mp member with rfl | member
    · have here' : (crew.preflightDeviceRemoveCb w').workers[w']? = some worker' := by
        rw [first]
        exact List.getElem?_set_self (List.getElem?_eq_some_iff.mp here).1
      obtain ⟨worker'', here'', same⟩ := later.workers w' worker' here'
      exact ⟨worker'', here'', same.told told⟩
    · exact all w' member

variable (env) in
private theorem Crew.Ok.told (ok : crew.Ok) (action : ThreadAction) :
    crew.Touched ((crew.threads.callbacks env action).foldl preflightDeviceRemoveCb crew) ∧
      ∀ w ∈ crew.threads.callbacks env action, ∃ worker,
        ((crew.threads.callbacks env action).foldl preflightDeviceRemoveCb crew).workers[w]? = some worker ∧
          worker.told := by
  refine Crew.called_back crew fun w member => ?_
  obtain ⟨d, listed, hook⟩ := Threads.mem_callbacks member
  obtain ⟨worker, cbdata, here, known, _⟩ := ok.reached listed hook
  exact ⟨worker, here, by simp [known]⟩

private theorem Crew.Ok.mainStep (ok : crew.Ok) {action : ThreadAction} (own : action.byMain) :
    (crew.mainStep env action).Ok := by
  obtain ⟨touched, -⟩ := ok.told env action
  refine ⟨ok.fit.step action, fun worker member => ?_, ?_, (ok.touched touched).stray⟩
  · rcases List.mem_append.mp member with old | new
    · exact (ok.touched touched).workers worker old
    · obtain ⟨info, _, rfl⟩ := List.mem_map.mp new
      exact Worker.start_ok info
  · have faces : (crew.mainStep env action).faces = crew.faces ++
        ((crew.threads.step env action).daemon.workers.drop crew.threads.daemon.workers.length).map
          fun info => (info, .connect) := by
      rw [← touched.faces]
      simp only [Crew.mainStep, Crew.faces, List.map_append, List.map_map]
      rfl
    rw [faces]
    exact ok.staff.main ok.fit own

private theorem Crew.Ok.call_enabled (ok : crew.Ok) {worker worker' : Worker} (here : crew.workers[w]? = some worker)
    {call : WorkerCall} (turn : worker.Turn w worker' (some call)) : enabled crew.threads.daemon call.event := by
  have employed (waiting : worker.stage.unannounced) : enabled crew.threads.daemon (.workerDeviceAdd worker.info) := by
    have face : worker.face ∈ crew.faces := List.mem_map_of_mem (List.mem_of_getElem? here)
    simpa [enabled, Worker.face] using ok.staff.employed worker.face face waiting
  cases turn with
  | registers _ => rfl
  | unregisters _ => rfl
  | reveals at' => exact employed (by rw [at']; rfl)
  | announces at' => exact employed (by rw [at']; rfl)

private theorem Crew.Ok.staff_turn (ok : crew.Ok) {worker worker' : Worker} (here : crew.workers[w]? = some worker)
    {call : Option WorkerCall} (turn : worker.Turn w worker' call) :
    let threads := call.elim crew.threads fun call => crew.threads.step env (.event call.event)
    Staff threads.daemon (crew.faces.set w worker'.face) := by
  have staff := ok.staff
  have face : crew.faces[w]? = some (worker.info, worker.stage) := by
    simp [Crew.faces, here, Worker.face]
  -- without a registration the callback data stays as it is
  have steady {next : WorkerStage} (registered : next.registered = worker.stage.registered) (d : DevPtr)
      (listed : d ∈ crew.threads.daemon.mux.deviceList) : crew.threads.daemon.mux.hook d =
        if worker.info.id = d + 1 then if next.registered then some w else none
          else crew.threads.daemon.mux.hook d := by
    split
    · next own =>
      rw [registered]
      exact staff.hook_eq face listed own
    · rfl
  have registers {next : WorkerStage} {data : Option ℕ} (data_eq : data = if next.registered then some w else none)
      (unannounced : next.unannounced → worker.stage.unannounced) :
      Staff (crew.threads.step env (.event (.workerCbData worker.info.id data))).daemon
        (crew.faces.set w (worker.info, next)) := by
    have succeeds := ok.fit.succeeds env (.event (.workerCbData worker.info.id data))
    refine staff.turn face succeeds ?_ unannounced (fun _ member _ => member) fun d listed => ?_
    · change (deviceSetPreflightCbData worker.info.id data crew.threads.daemon.mux).deviceList = _
      simp only [deviceSetPreflightCbData]
      split <;> rfl
    · rw [← data_eq]
      exact deviceSetPreflightCbData_hook ok.fit worker.info.id data listed
  have announces {next : WorkerStage} (waiting : worker.stage.unannounced)
      (registered : next.registered = worker.stage.registered) (done : next.unannounced = false) :
      Staff (crew.threads.step env (.event (.workerDeviceAdd worker.info))).daemon
        (crew.faces.set w (worker.info, next)) := by
    have succeeds := ok.fit.succeeds env (.event (.workerDeviceAdd worker.info))
    have member : worker.info ∈ crew.threads.daemon.workers :=
      staff.employed _ (List.mem_of_getElem? face) waiting
    have taken : (crew.threads.step env (.event (.workerDeviceAdd worker.info))).daemon =
        clientDeviceAdd env worker.info
          { crew.threads.daemon with workers := crew.threads.daemon.workers.erase worker.info } :=
      if_pos (by simpa [enabled] using member)
    have same : crew.threads.daemon.mux.SameDevices
        (crew.threads.step env (.event (.workerDeviceAdd worker.info))).daemon.mux := by
      rw [taken]
      exact workerDeviceAdd_sameDevices ..
    refine staff.turn face succeeds same.deviceList (fun still => by rw [done] at still; cases still)
      (fun other known apart => ?_) fun d listed => ?_
    · rw [taken]
      exact (List.mem_erase_of_ne (apart.resolve_right (by rw [done]; decide))).mpr known
    · rw [same.hook]
      exact steady registered d listed
  have idle {next : WorkerStage} {worker' : Worker} (info : worker'.info = worker.info) (stage : worker'.stage = next)
      (registered : next.registered = worker.stage.registered)
      (unannounced : next.unannounced → worker.stage.unannounced) :
      Staff crew.threads.daemon (crew.faces.set w worker'.face) := by
    rw [show worker'.face = (worker.info, next) by rw [Worker.face, info, stage]]
    exact staff.turn face (.refl _) rfl unannounced (fun _ member _ => member) (steady registered)
  cases turn with
  | goes info cbdata log lockdown leads registered =>
    have unannounced (waiting : worker'.stage.unannounced) : worker.stage.unannounced := by
      simp only [WorkerStage.leadsTo, Bool.and_eq_true, Bool.or_eq_true, Bool.not_eq_true'] at leads
      exact leads.1.1.1.1.1.2.resolve_left (by rw [waiting]; decide)
    exact idle info rfl registered unannounced
  | connects at' => exact idle rfl rfl (by rw [at']; rfl) fun _ => by rw [at']; rfl
  | retries at' => exact idle rfl rfl (by rw [at']; rfl) fun _ => by rw [at']; rfl
  | proxies at' np => exact idle (by cases np <;> rfl) rfl (by rw [at']; rfl) fun _ => by rw [at']; rfl
  | releases at' => exact idle (by dsimp only; split <;> rfl) rfl (by rw [at']; rfl) fun waiting => by cases waiting
  | leaves at' => exact idle (by dsimp only; split <;> rfl) rfl (by rw [at']; rfl) fun waiting => by cases waiting
  | registers at' => exact registers rfl fun _ => by rw [at']; rfl
  | unregisters at' => exact registers rfl fun waiting => by cases waiting
  | reveals at' => exact announces (by rw [at']; rfl) (by rw [at']; rfl) rfl
  | announces at' => exact announces (by rw [at']; rfl) (by rw [at']; rfl) rfl

private theorem Crew.workerStep_eq {worker : Worker} (here : crew.workers[w]? = some worker) (answer : PreflightAnswer)
    :
    crew.workerStep env w answer = { crew with
      threads := (worker.advance w answer).2.elim crew.threads fun call => crew.threads.step env (.event call.event)
      workers := crew.workers.set w (worker.advance w answer).1 } := by
  simp only [Crew.workerStep, here]
  cases (worker.advance w answer).2 <;> rfl

private theorem Crew.Ok.workerStep (ok : crew.Ok) (w : ℕ) (answer : PreflightAnswer) :
    (crew.workerStep env w answer).Ok := by
  rcases here : crew.workers[w]? with _ | worker
  · simpa only [Crew.workerStep, here] using ok
  have turn := worker.advance_turn w answer
  rw [Crew.workerStep_eq here]
  refine ⟨?_, fun other member => ?_, ?_, ok.stray⟩
  · cases (worker.advance w answer).2 with
    | none => exact ok.fit
    | some call => exact ok.fit.step (.event call.event)
  · rcases List.mem_or_eq_of_mem_set member with old | rfl
    · exact ok.workers other old
    · exact turn.ok (ok.workers worker (List.mem_of_getElem? here))
  · have faces : Crew.faces { crew with
        threads := (worker.advance w answer).2.elim crew.threads fun call => crew.threads.step env (.event call.event)
        workers := crew.workers.set w (worker.advance w answer).1 } =
        crew.faces.set w (worker.advance w answer).1.face := List.map_set
    rw [faces]
    exact ok.staff_turn here turn

private theorem Crew.npCallback_touched (crew : Crew) (w : ℕ) (notification : String) :
    crew.Touched (crew.npCallback w notification) := by
  refine ⟨rfl, rfl, List.length_modify .., fun w' worker here => ?_⟩
  simp only [Crew.npCallback, List.getElem?_modify, here]
  split
  · exact ⟨_, rfl, worker.npCallback_touched notification⟩
  · exact ⟨worker, rfl, .refl worker⟩

private theorem Crew.Ok.step (ok : crew.Ok) (action : CrewAction) : (crew.step env action).Ok := by
  cases action with
  | main action =>
    simp only [Crew.step]
    split
    · next own => exact ok.mainStep own
    · exact ok
  | worker w answer => exact ok.workerStep w answer
  | notify w notification => exact ok.touched (crew.npCallback_touched w notification)

private theorem Crew.run_snoc (env : Env) (before : List CrewAction) (action : CrewAction) :
    Crew.run env (before ++ [action]) = (Crew.run env before).step env action := by
  rw [Crew.run, List.foldl_append]
  rfl

private theorem Crew.run_ok (env : Env) (actions : List CrewAction) : (Crew.run env actions).Ok := by
  induction actions using List.reverseRecOn with
  | nil =>
    refine ⟨Threads.initial_fit, by simp [Crew.run, Crew.initial], ⟨?_, List.nodup_nil, ?_, ?_, ?_⟩, rfl⟩ <;>
      simp [Crew.run, Crew.initial, Crew.faces, Threads.initial, Daemon.initial, Mux.initial]
  | append_singleton before action ih =>
    rw [Crew.run_snoc]
    exact ih.step action

/-- The callback of `device_remove` never writes to a record whose worker has left its block, and the
callback data of a listed device is the record of the worker of that very device. -/
theorem preflight_callbacks_in_frame (env : Env) (actions : List CrewAction) :
    (Crew.run env actions).stray = [] ∧
      ∀ d ∈ (Crew.run env actions).threads.daemon.mux.deviceList, ∀ w,
        ((Crew.run env actions).threads.daemon.mux.dev d).preflightCbData = some w →
          ∃ worker cbdata, (Crew.run env actions).workers[w]? = some worker ∧ worker.cbdata = some cbdata ∧
            worker.info.id = ((Crew.run env actions).threads.daemon.mux.dev d).id := by
  have ok := Crew.run_ok env actions
  refine ⟨ok.stray, fun d listed w hook => ?_⟩
  obtain ⟨worker, cbdata, here, known, _, id⟩ := ok.reached listed hook
  refine ⟨worker, cbdata, here, known, id.trans ?_⟩
  exact (ok.fit.enumerated.ids d (ok.fit.sound.linked.registry.known d listed)).symm

/-- The actions of the threads that an action of a crew consists of. -/
def Crew.threadActions (crew : Crew) : CrewAction → List ThreadAction
  | .main action => if action.byMain then [action] else []
  | .worker w answer =>
    ((crew.workers[w]?).bind fun worker => (worker.advance w answer).2).toList.map fun call => .event call.event
  | .notify _ _ => []

private theorem Crew.step_threads (env : Env) (crew : Crew) (action : CrewAction) :
    (crew.step env action).threads = (crew.threadActions action).foldl (Threads.step env) crew.threads := by
  cases action with
  | main action =>
    simp only [Crew.step, Crew.threadActions]
    split
    · rfl
    · rfl
  | worker w answer =>
    simp only [Crew.step, Crew.threadActions]
    rcases here : crew.workers[w]? with _ | worker
    · simp [Crew.workerStep, here]
    · rw [Crew.workerStep_eq here]
      cases call : (worker.advance w answer).2 <;> simp [call]
  | notify w notification => rfl

/-- A worker only does what is its turn. -/
def Threads.Permitted (env : Env) (before : List ThreadAction) (action : ThreadAction) : Prop :=
  ∀ event, action = .event event → event.byWorker → enabled (Threads.run env before).daemon event

private theorem Crew.Ok.permitted (ok : crew.Ok) {before : List ThreadAction}
    (same : crew.threads = Threads.run env before)
    (action : CrewAction) :
    Each (fun earlier next => Threads.Permitted env (before ++ earlier) next) (crew.threadActions action) := by
  have single {next : ThreadAction} (allowed : Threads.Permitted env before next) :
      Each (fun earlier next => Threads.Permitted env (before ++ earlier) next) [next] :=
    each_snoc (each_nil _) (by rwa [List.append_nil])
  cases action with
  | main action =>
    simp only [Crew.threadActions]
    split
    · next own =>
      refine single fun event taken foreign => ?_
      subst taken
      simp [ThreadAction.byMain, foreign] at own
    · exact each_nil _
  | worker w answer =>
    simp only [Crew.threadActions]
    rcases here : crew.workers[w]? with _ | worker
    · exact each_nil _
    rcases asked : (worker.advance w answer).2 with _ | call
    · simpa [asked] using each_nil _
    have turn := worker.advance_turn w answer
    rw [asked] at turn
    simp only [Option.bind_some, asked, Option.toList_some, List.map_cons, List.map_nil]
    refine single fun event taken _ => ?_
    obtain rfl := ThreadAction.event.inj taken
    rw [← same]
    exact ok.call_enabled here turn
  | notify w notification => exact each_nil _

/-- What real workers do is what anonymous workers may do: every interleaving of a crew is one of the
threads, in which every announcement comes from a worker that has not yet made it. -/
theorem preflight_workers_refine_threads (env : Env) (actions : List CrewAction) :
    ∃ threadActions, (Crew.run env actions).threads = Threads.run env threadActions ∧
      Each (Threads.Permitted env) threadActions := by
  induction actions using List.reverseRecOn with
  | nil => exact ⟨[], rfl, each_nil _⟩
  | append_singleton before action ih =>
    obtain ⟨threadActions, same, permitted⟩ := ih
    refine ⟨threadActions ++ (Crew.run env before).threadActions action, ?_,
      each_append permitted ((Crew.run_ok env before).permitted same action)⟩
    rw [Crew.run_snoc, Crew.step_threads, same, Threads.run, Threads.run, List.foldl_append]

/-- Every worker announces its device at most once and releases what it opens at most once: the client of
lockdownd exactly once by the time it is done, and the notification proxy unless that has gone away. -/
theorem preflight_worker_tidy (env : Env) (actions : List CrewAction) (worker : Worker)
    (member : worker ∈ (Crew.run env actions).workers) :
    worker.log.count .announced ≤ 1 ∧
      worker.log.count .lockdownFree ≤ worker.log.count .lockdownNew ∧
      worker.log.count .lockdownNew ≤ worker.log.count .lockdownFree + 1 ∧
      worker.log.count .npFree ≤ worker.log.count .npNew ∧ worker.log.count .npNew ≤ 1 ∧
      (worker.stage = .done → worker.log.count .lockdownNew = worker.log.count .lockdownFree) := by
  obtain ⟨-, announced, balanced, -, silent, proxy, proxied⟩ := (Crew.run_ok env actions).workers worker member
  have one := worker.lockdown.toNat_le
  refine ⟨by omega, by omega, by omega, by omega, by omega, fun done => ?_⟩
  have left : worker.lockdown = false := silent (by rw [done]; rfl)
  simpa [left] using balanced

/-- lockdownd does as it is told by a phone with a recent system. -/
def willing : PreflightAnswer := ⟨.success, some "com.apple.mobile.lockdown", some (.string "9.0"), 0, true⟩

/-- A phone appears, answers, and its worker waits for the user to trust the computer. -/
def trusting : List CrewAction :=
  staffed.map .main ++ List.replicate 4 (.worker 0 willing) ++
    .worker 0 { willing with value := some (.string "iPhone") } :: .worker 0 willing ::
      .worker 0 { willing with error := .other } :: List.replicate 3 (.worker 0 willing)

/-- The user does, and the worker ends. -/
def trusted : List CrewAction :=
  trusting ++ .notify 0 "com.apple.mobile.lockdown.request_pair" :: List.replicate 4 (.worker 0 willing)

/-- The worker has announced the device and closed the proxy, and `cb_data` has gone with it. -/
theorem trusted_worker_tidy :
    (Crew.run (noticeEnv false) trusted).workers.map (fun worker => (worker.stage, worker.log)) =
      [(.done, [.lockdownNew, .npNew, .lockdownFree, .announced, .npFree])] ∧
    ∀ worker ∈ (Crew.run (noticeEnv false) trusted).workers,
      worker.log.count .announced ≤ 1 ∧ worker.log.count .npNew ≤ 1 := by
  refine ⟨by decide +kernel, fun worker member => ?_⟩
  obtain ⟨announced, _, _, _, opened, _⟩ := preflight_worker_tidy (noticeEnv false) trusted worker member
  exact ⟨announced, opened⟩

/-- A worker that has registered still counts on its device, or knows better, or has stopped waiting. -/
def Worker.Attends (worker : Worker) (there : Prop) : Prop :=
  worker.stage.registered ∧ (there ∨ worker.told) ∨ worker.stage = .freeProxy ∨ worker.stage = .leave ∨
    worker.stage = .done

private theorem Worker.Turn.attends {worker worker' : Worker} {call : Option WorkerCall}
    (turn : worker.Turn w worker' call)
    {there : Prop} (attends : worker.Attends there) : worker'.Attends there := by
  cases turn with
  | goes info cbdata log lockdown leads registered =>
    rcases attends with ⟨here, waiting⟩ | here | here | here
    · refine .inl ⟨registered.trans here, ?_⟩
      rw [Worker.told, cbdata]
      exact waiting
    all_goals
      rw [here] at leads registered
      refine .inr ?_
      revert leads registered
      cases worker'.stage <;> decide
  | reveals here =>
    rcases attends with ⟨_, waiting⟩ | other | other | other
    · exact .inl ⟨rfl, waiting⟩
    all_goals simp [here] at other
  | unregisters here => exact .inr (.inl rfl)
  | releases here => exact .inr (.inr (.inl rfl))
  | leaves here => exact .inr (.inr (.inr rfl))
  | connects here | retries here | registers here | announces here => simp [Worker.Attends, here] at attends
  | proxies here np => simp [Worker.Attends, here] at attends

/-- The worker with this number has registered for a device. -/
def Attends (w : ℕ) (d : DevPtr) (crew : Crew) : Prop :=
  ∃ worker, crew.workers[w]? = some worker ∧ worker.info.id = d + 1 ∧
    worker.Attends (d ∈ crew.threads.daemon.mux.deviceList)

namespace Attends

variable {d : DevPtr}

private theorem touched (attends : Attends w d crew) (touched : crew.Touched crew') : Attends w d crew' := by
  obtain ⟨worker, here, id, stage⟩ := attends
  obtain ⟨worker', here', same⟩ := touched.workers w worker here
  have face : worker'.info = worker.info ∧ worker'.stage = worker.stage := Prod.mk.inj same.face
  refine ⟨worker', here', by rw [face.1, id], ?_⟩
  rw [Worker.Attends, face.2, touched.threads]
  exact stage.imp_left fun registered => ⟨registered.1, registered.2.imp_right same.told⟩

private theorem mainStep (attends : Attends w d crew) (ok : crew.Ok) {action : ThreadAction} (own : action.byMain) :
    Attends w d (crew.mainStep env action) := by
  obtain ⟨touched, all⟩ := ok.told env action
  obtain ⟨worker, here, id, stage⟩ := attends.touched touched
  set told := (crew.threads.callbacks env action).foldl Crew.preflightDeviceRemoveCb crew
  have there : (crew.mainStep env action).workers[w]? = some worker :=
    (List.getElem?_append_left (List.getElem?_eq_some_iff.mp here).1).trans here
  refine ⟨worker, there, id, stage.imp_left fun ⟨registered, listed⟩ => ⟨registered, ?_⟩⟩
  by_cases still : d ∈ (crew.threads.step env action).daemon.mux.deviceList
  · exact .inl still
  rcases listed with listed | knows
  swap
  · exact .inr knows
  rw [touched.threads] at listed
  have faces : told.faces = crew.faces := touched.faces
  have face : crew.faces[w]? = some worker.face := by
    rw [← faces, Crew.faces, List.getElem?_map, here]
    rfl
  have hook := ok.staff.registered w worker.face face registered d listed id
  obtain ⟨d', _, id', active⟩ := ok.staff.greeted worker.face (List.mem_of_getElem? face)
  obtain rfl : d = d' := Nat.succ.inj (id.symm.trans id')
  rcases Threads.step_main env (t := crew.threads) own with ⟨idle, event, rfl, _, taken⟩ | ⟨same, _⟩
  swap
  · exact absurd (same ▸ listed) still
  rw [taken] at still
  have possible : enabled crew.threads.daemon event := by
    by_contra impossible
    have same : step env crew.threads.daemon event = crew.threads.daemon := if_neg impossible
    rw [same] at still
    exact still listed
  have called : w ∈ crew.threads.callbacks env (.event event) := by
    rw [Threads.callbacks, if_pos ⟨idle, possible⟩]
    exact callbacks_covers ok.fit.sound ok.fit.alive possible listed hook active still
  obtain ⟨worker', here', knows⟩ := all w called
  obtain rfl := Option.some.inj (here.symm.trans here')
  exact .inr knows

private theorem workerStep (attends : Attends w d crew) (w' : ℕ) (answer : PreflightAnswer) :
    Attends w d (crew.workerStep env w' answer) := by
  rcases here' : crew.workers[w']? with _ | worker'
  · simpa only [Crew.workerStep, here'] using attends
  obtain ⟨worker, here, id, stage⟩ := attends
  have list : (crew.workerStep env w' answer).threads.daemon.mux.deviceList =
      crew.threads.daemon.mux.deviceList := by
    rw [Crew.workerStep_eq here']
    rcases (worker'.advance w' answer).2 with _ | call
    · rfl
    have foreign : call.event.byWorker = true := by cases call <;> rfl
    simp only [Option.elim_some, Threads.step, foreign, if_true]
    exact worker_list env _ foreign
  by_cases same : w' = w
  · subst same
    obtain rfl := Option.some.inj (here.symm.trans here')
    have turn := worker.advance_turn w' answer
    refine ⟨(worker.advance w' answer).1, ?_, ?_, ?_⟩
    · rw [Crew.workerStep_eq here]
      exact List.getElem?_set_self (List.getElem?_eq_some_iff.mp here).1
    · rw [turn.info, id]
    · rw [list]
      exact turn.attends stage
  · refine ⟨worker, ?_, id, by rwa [list]⟩
    rw [Crew.workerStep_eq here']
    exact (List.getElem?_set_ne same).trans here

private theorem step (attends : Attends w d crew) (ok : crew.Ok) (action : CrewAction) :
    Attends w d (crew.step env action) := by
  cases action with
  | main action =>
    simp only [Crew.step]
    split
    · next own => exact attends.mainStep ok own
    · exact attends
  | worker w' answer => exact attends.workerStep w' answer
  | notify w' notification => exact attends.touched (crew.npCallback_touched w' notification)

private theorem run (before : List CrewAction) (attends : Attends w d (Crew.run env before)) (after : List CrewAction) :
    Attends w d (Crew.run env (before ++ after)) := by
  induction after using List.reverseRecOn with
  | nil => rwa [List.append_nil]
  | append_singleton after action ih =>
    rw [← List.append_assoc, Crew.run_snoc]
    exact ih.step (Crew.run_ok env _) action

end Attends

/-- A worker whose record was the callback data of a device does not go on waiting once the device has
left the list. -/
theorem preflight_worker_stops_waiting (env : Env) (before after : List CrewAction) (d : DevPtr) (w : ℕ)
    (listed : d ∈ (Crew.run env before).threads.daemon.mux.deviceList)
    (hook : ((Crew.run env before).threads.daemon.mux.dev d).preflightCbData = some w)
    (gone : d ∉ (Crew.run env (before ++ after)).threads.daemon.mux.deviceList) :
    ∃ worker, (Crew.run env (before ++ after)).workers[w]? = some worker ∧
      (worker.stage.registered → worker.cbdata.any CbData.waits = false) := by
  obtain ⟨worker, _, here, _, registered, id⟩ := (Crew.run_ok env before).reached listed hook
  obtain ⟨worker', here', _, stage⟩ := Attends.run before ⟨worker, here, id, .inl ⟨registered, .inl listed⟩⟩ after
  refine ⟨worker', here', fun waiting => ?_⟩
  rcases stage with ⟨_, there | told⟩ | other | other | other
  · exact absurd there gone
  · rcases known : worker'.cbdata with _ | cbdata
    · rfl
    · have deaf : cbdata.isDeviceConnected = false := by simpa [Worker.told, known] using told
      simp [CbData.waits, deaf]
  all_goals simp [other] at waiting

/-- The phone is unplugged while its worker waits for the user. -/
theorem unplugged_worker_stops_waiting :
    (Crew.run (noticeEnv false) trusting).workers.map (fun worker => (worker.stage, worker.cbdata.any CbData.waits)) =
      [(.wait, true)] ∧
    ∃ worker, (Crew.run (noticeEnv false) (trusting ++ [.main (.event (.deviceRemove 0))])).workers[0]? = some worker ∧
      (worker.stage.registered → worker.cbdata.any CbData.waits = false) :=
  ⟨by decide +kernel, preflight_worker_stops_waiting (noticeEnv false) trusting [.main (.event (.deviceRemove 0))] 0 0
    (by decide +kernel) (by decide +kernel) (by decide +kernel)⟩

end Usbmuxd
