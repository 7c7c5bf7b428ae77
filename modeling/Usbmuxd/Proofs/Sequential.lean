import Usbmuxd.Proofs.Threads

/-! # The main thread alone

When no worker acts inside it, `start_listen` does what its atomic model does, so the events of the
main thread can be taken one by one. Without preflight there are no workers, and every device that is
active is shown.
-/

namespace Usbmuxd

open Presence Collection

variable {env : Env} {s : Daemon} {k : ClientPtr}

section Atomic

theorem resume_keeps (env : Env) (t : Threads) :
    (t.resume env).daemon.mux = t.daemon.mux ∧ (t.resume env).daemon.workers = t.daemon.workers := by
  obtain ⟨s, main⟩ := t
  match main with
  | .idle | .listening _ | .reading _ [] _ | .reading _ (_ :: _) _ | .telling _ [] => exact ⟨rfl, rfl⟩
  | .telling k (info :: pending) =>
    simp only [Threads.resume]
    split <;> exact ⟨rfl, rfl⟩

private theorem resume_telling (env : Env) (k : ClientPtr) (infos : List DeviceInfo) (s : Daemon) :
    ∃ n, (Threads.resume env)^[n] ⟨s, .telling k infos⟩ =
      ⟨leaveListen k (s.setClients (announceAll env k infos s.clients).2), .idle⟩ := by
  induction infos generalizing s with
  | nil => exact ⟨1, rfl⟩
  | cons info rest ih =>
    by_cases failed : (sendDeviceAdd env info k s.clients).1 < 0
    · exact ⟨1, by simp [Threads.resume, announceAll, failed]⟩
    · obtain ⟨n, rest⟩ := ih (s.setClients (sendDeviceAdd env info k s.clients).2)
      refine ⟨n + 1, ?_⟩
      simp only [Function.iterate_succ_apply, Threads.resume, announceAll, if_neg failed]
      exact rest

private theorem resume_reading (env : Env) (k : ClientPtr) (pending : List DevPtr) (found : List DeviceInfo)
    (s : Daemon) :
    (Threads.resume env)^[pending.length + 1] ⟨s, .reading k pending found⟩ =
      ⟨s, .telling k (found ++ (pending.filter fun d => (s.mux.dev d).state = .active && (s.mux.dev d).visible).map
        fun d => deviceInfo env (s.mux.dev d))⟩ := by
  induction pending generalizing found with
  | nil => simp [Threads.resume]
  | cons d rest ih =>
    rw [List.length_cons, Function.iterate_succ_apply, Threads.resume]
    simp only [ih, List.filter_cons]
    split <;> simp

private theorem resume_startListen (env : Env) (k : ClientPtr) (s : Daemon) :
    ∃ n, (Threads.resume env)^[n] ⟨enterListen k s, .listening k⟩ = ⟨leaveListen k (startListen env k s).2, .idle⟩ := by
  obtain ⟨n, told⟩ := resume_telling env k (deviceGetList env false s.mux) (enterListen k s)
  refine ⟨n + (s.mux.deviceList.length + 1) + 1, ?_⟩
  rw [Function.iterate_succ_apply, Function.iterate_add_apply]
  have read := resume_reading env k s.mux.deviceList [] (enterListen k s)
  rw [List.nil_append] at read
  exact (congrArg (Threads.resume env)^[n] read).trans told

variable (faithful : Faithful env) (queueing : Queueing env)
include faithful queueing

private theorem resumes_ok (n : ℕ) {t : Threads} (ok : t.Ok env) (small : t.daemon.mux.nextDeviceId ≤ 2 ^ 32) :
    ((Threads.resume env)^[n] t).Ok env := by
  induction n generalizing t with
  | zero => exact ok
  | succ n ih => exact ih (resume_ok faithful queueing ok small) (by rwa [(resume_keeps env _).1])

/-- A whole event, with no worker in between. -/
theorem step_ok_idle (ok : Threads.Ok env ⟨s, .idle⟩) (small : s.mux.nextDeviceId ≤ 2 ^ 32) {event : Event}
    (careful : Threads.careful ⟨s, .idle⟩ (.event event)) : Threads.Ok env ⟨step env s event, .idle⟩ := by
  cases own : event.byWorker with
  | true => exact worker_ok faithful queueing ok small own careful
  | false =>
    have first := event_ok faithful queueing ok small own careful
    simp only [Threads.step, own, Bool.false_eq_true, if_false] at first
    split at first
    · next k s' point =>
      obtain ⟨n, finished⟩ := resume_startListen env k s'
      have starts := listenPoint_spec point
      have devices : (enterListen k s').mux = s.mux := starts.mux
      rw [starts.step, ← finished]
      exact resumes_ok faithful queueing n first (devices ▸ small)
    · exact first

end Atomic

section NoPreflight

/-- There are no workers, and every active device is shown. -/
structure Prompt (s : Daemon) : Prop where
  workers : s.workers = []
  visible : s.allVisible

theorem Prompt.careful (prompt : Prompt s) (event : Event) : Threads.careful ⟨s, .idle⟩ (.event event) := by
  cases event with
  | workerDeviceAdd info => simp [Threads.careful, enabled, prompt.workers]
  | deviceRemove u =>
    have all : ∀ d ∈ findDevice u s.mux, (s.mux.dev d).state = .active → (s.mux.dev d).visible = true :=
      fun d found => Daemon.allVisible_iff.mp prompt.visible d (List.mem_of_find?_eq_some found)
    simp only [Threads.careful, Bool.or_eq_true]
    refine .inr ?_
    cases found : findDevice u s.mux with
    | none => rfl
    | some d => simpa [imp_iff_not_or] using all d found
  | deviceShutdown => simp [Threads.careful, prompt.visible]
  | _ => rfl

private theorem Unmoved.allVisible {s' : Daemon} (unmoved : Unmoved s.sys s'.sys) (visible : s.allVisible) :
    s'.allVisible := by
  rw [Daemon.allVisible_iff] at visible ⊢
  intro d listed active
  rcases unmoved.news d listed with before | ⟨waiting, _, _⟩
  · have face := (unmoved.kept d before).2
    exact face.visible.trans (visible d before (face.state.symm.trans active))
  · exact absurd (waiting.symm.trans active) (by decide)

private theorem Alters.allVisible {d : DevPtr} {s' : Daemon} (alters : Alters d s.sys s'.sys)
    (shown : (s'.mux.dev d).visible = true)
    (visible : s.allVisible) : s'.allVisible := by
  rw [Daemon.allVisible_iff] at visible ⊢
  intro d' listed active
  by_cases same : d' = d
  · exact same ▸ shown
  · have list : s'.mux.deviceList = s.mux.deviceList := alters.list
    have before : d' ∈ s.mux.deviceList := list ▸ listed
    have equal : s'.mux.dev d' = s.mux.dev d' := alters.others d' same
    rw [equal] at active ⊢
    exact visible d' before active

variable (noPreflight : env.noPreflight = true) (faithful : Faithful env) (memory : ∀ n, (env.sock n).alloc = true)
  (sound : Sound anything s.sys) (prompt : Prompt s)
include noPreflight faithful memory sound prompt

private theorem deviceVersionInput_prompt {d : DevPtr} (listed : d ∈ s.mux.deviceList)
    (small : s.mux.nextDeviceId ≤ 2 ^ 32)
    (vh : Bytes) : Prompt (deviceVersionInput env d vh s) := by
  by_cases waiting : (s.mux.dev d).state = .init
  swap
  · rw [deviceVersionInput, if_pos waiting]
    exact prompt
  by_cases unsupported : be32At vh 0 ≠ 2 ∧ be32At vh 0 ≠ 1
  · rw [deviceVersionInput, if_neg (not_not.mpr waiting), if_pos unsupported]
    exact ⟨prompt.workers, (erase_leaves sound.linked.registry d).allVisible prompt.visible⟩
  have greeted : Steady anything none s.sys (s.greet env d (be32At vh 0)).sys :=
    greet_steady env trivial sound listed waiting unsupported
  obtain ⟨alters, _⟩ := greet_alters env (s := s) (d := d) unsupported
  rw [deviceVersionInput_greet env waiting unsupported]
  set s₁ := s.greet env d (be32At vh 0)
  have list : s₁.mux.deviceList = s.mux.deviceList := alters.list
  have named : (deviceInfo env (s₁.mux.dev d)).id = (s.mux.dev d).id := alters.id
  have below : (s.mux.dev d).id < s.mux.nextDeviceId := sound.linked.registry.numbered d listed
  have announced : Announced env d s₁ (clientDeviceAdd env (deviceInfo env (s₁.mux.dev d)) s₁) :=
    clientDeviceAdd_announced faithful memory (greeted.sound sound) (list ▸ listed) alters.active rfl (by omega)
  rw [preflightWorkerDeviceAdd, if_pos (.inr noPreflight)]
  exact ⟨announced.workers.trans prompt.workers, (alters.trans announced.toAlters).allVisible announced.visible
    prompt.visible⟩

/-- No event changes that. -/
theorem step_prompt (alive : Alive s.sys) (small : s.mux.nextDeviceId ≤ 2 ^ 32) (event : Event) :
    Prompt (step env s event) := by
  by_cases possible : enabled s event
  swap
  · have idle : step env s event = s := if_neg possible
    rw [idle]
    exact prompt
  cases stirring : stirs env s event with
  | false =>
    have steady := step_steady env (grants_hushed env) (sound_hushed.mpr sound) alive (admitted_hushed stirring)
    refine ⟨(step_workers env (fun u t same => ?_) fun info same => ?_).trans prompt.workers,
      (steady.run.unmoved (sound_hushed.mpr sound)).allVisible prompt.visible⟩
    · subst same
      exact stirring
    · subst same
      cases stirring
  | true =>
    cases event with
    | dataInput u t =>
      have stepped : step env s (.dataInput u t) = deviceDataInput env u t s := if_pos possible
      obtain ⟨d, s₁, listed, steady, workers, next, input⟩ := deviceDataInput_version env stirring
      have prompt₁ : Prompt s₁ := ⟨workers.trans prompt.workers,
        (steady.run.unmoved (sound_hushed.mpr sound)).allVisible prompt.visible⟩
      have sound₁ : Sound anything s₁.sys := sound_hushed.mp (steady.sound (sound_hushed.mpr sound))
      rcases input with input | ⟨vh, input⟩
      · rw [stepped, input]
        exact prompt₁
      · rw [stepped, input]
        exact deviceVersionInput_prompt noPreflight faithful memory sound₁ prompt₁ listed (next ▸ small) vh
    | clientProcess fd events =>
      obtain ⟨k, s', point⟩ := listenPoint_isSome memory sound possible stirring
      have starts := listenPoint_spec point
      have devices : (leaveListen k (startListen env k s').2).mux = s.mux := starts.mux
      rw [starts.step]
      refine ⟨starts.workers.trans prompt.workers, ?_⟩
      rw [Daemon.allVisible, devices]
      exact prompt.visible
    | deviceRemove u =>
      have stepped : step env s (.deviceRemove u) = deviceRemove env u s := if_pos possible
      rw [stepped]
      refine ⟨(deviceRemove_workers env u).trans prompt.workers, ?_⟩
      rcases found : findDevice u s.mux with _ | d
      · simp only [deviceRemove, found]
        exact prompt.visible
      · exact (deviceRemove_leaves env sound found).allVisible prompt.visible
    | deviceShutdown =>
      have stepped : step env s .deviceShutdown = deviceShutdown env s := if_pos possible
      have steady : Steady anything none s.sys (deviceShutdown env s).sys :=
        deviceShutdown_steady env (grants_anything env) announces_anything sound alive
      have empty : (deviceShutdown env s).mux.deviceList = [] :=
        (steady.sound sound).linked.registry.ended (.inl rfl)
      rw [stepped]
      exact ⟨(deviceShutdown_workers env).trans prompt.workers, by simp [Daemon.allVisible, empty]⟩
    | workerDeviceAdd info => simp [enabled, prompt.workers] at possible
    | _ => cases stirring

end NoPreflight

end Usbmuxd
