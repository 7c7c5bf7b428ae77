import Usbmuxd.Proofs.StartListen

/-! # The ledger while a client starts to listen

While the main thread is inside `start_listen`, the client is owed the devices it has not been told of
yet: all of them before the list is copied, then those that are still to be looked at or have been
found. A worker that announces a device which is not among these leaves the account in order.
-/

namespace Usbmuxd

open Presence Collection

/-- A client that listens. -/
def Listening (k : ClientPtr) (s : Clients) : Prop := ∃ client, s.client k = some client ∧ client.state = .listen

/-- What the main thread has still to tell a client. -/
def MainThread.owed (s : Mux) : MainThread → ClientPtr → Set ℕ
  | .idle, _ => ∅
  | .listening k, k' => {_i | k' = k}
  | .reading k pending found, k' => {i | k' = k ∧ ((∃ d ∈ pending, (s.dev d).id = i) ∨ ∃ info ∈ found, info.id = i)}
  | .telling k pending, k' => {i | k' = k ∧ ∃ info ∈ pending, info.id = i}

/-- Different devices that are shown. -/
structure Finds (env : Env) (s : Daemon) (infos : List DeviceInfo) : Prop where
  distinct : (infos.map DeviceInfo.id).Nodup
  shown : ∀ info ∈ infos, info.id ∈ s.sys.shown
  seen : ∀ info ∈ infos, ∃ dev, info = deviceInfo env dev

/-- The main thread works on devices of the list, for a client that listens. -/
def MainThread.Valid (env : Env) (s : Daemon) : MainThread → Prop
  | .idle => True
  | .listening k => Listening k s.clients
  | .reading k pending found => Listening k s.clients ∧ pending.Nodup ∧ (∀ d ∈ pending, d ∈ s.mux.deviceList) ∧
      Finds env s found ∧ ∀ info ∈ found, ∀ d ∈ pending, (s.mux.dev d).id ≠ info.id
  | .telling k pending => Listening k s.clients ∧ Finds env s pending

/-- The `d`-th device has id `d + 1`. -/
structure Enumerated (S : Sys) : Prop where
  next : S.nextDeviceId = S.nextDev + 1
  ids : ∀ d < S.nextDev, (S.dev d).1.id = d + 1

theorem Enrolled.enumerated {lax : Laxity} {S S' : Sys} (enrolled : Enrolled lax S S') (before : Enumerated S) :
    Enumerated S' := by
  rcases enrolled.next with ⟨nextDev, nextDeviceId⟩ | ⟨_, nextDev, nextDeviceId, new⟩
  · refine ⟨by rw [nextDev, nextDeviceId, before.next], fun d below => ?_⟩
    rw [nextDev] at below
    rw [enrolled.ids d below, before.ids d below]
  · refine ⟨by rw [nextDev, nextDeviceId, before.next], fun d below => ?_⟩
    by_cases same : d = S.nextDev
    · rw [same, new, before.next]
    · have earlier : d < S.nextDev := by
        rw [nextDev] at below
        exact Nat.lt_of_le_of_ne (Nat.le_of_lt_succ below) same
      rw [enrolled.ids d earlier, before.ids d earlier]

/-- The invariant of all threads. -/
structure Threads.Ok (env : Env) (t : Threads) : Prop where
  sound : Sound anything t.daemon.sys
  alive : Alive t.daemon.sys
  enumerated : Enumerated t.daemon.sys
  ledger : Ledger env (t.main.owed t.daemon.mux) t.daemon
  valid : t.main.Valid env t.daemon

variable {env : Env} {s s' : Daemon} {k : ClientPtr}

private theorem Ledger.owe {owed owed' : ClientPtr → Set ℕ} (ledger : Ledger env owed s)
    (same : ∀ k, s.sys.shown \ owed' k = s.sys.shown \ owed k) : Ledger env owed' s := by
  refine ⟨fun k => ?_, ledger.hidden, ledger.staffed, ledger.single⟩
  rw [same k]
  exact ledger.briefed k

private theorem Threads.Ok.of_run {t : Threads} (ok : t.Ok env) {served : Option ClientPtr} {main : MainThread}
    (changes : SysRun anything served t.daemon.sys s'.sys) (alive : Alive s'.sys)
    (ledger : Ledger env (main.owed s'.mux) s') (valid : main.Valid env s') : Threads.Ok env ⟨s', main⟩ where
  sound := changes.sound ok.sound
  alive := alive
  enumerated := SysRun.keeps (motive := Enumerated) changes ok.sound
    (fun _ _ _ change before => change.enrolled.enumerated before)
    ok.enumerated
  ledger := ledger
  valid := valid

section Resume

private theorem copy_ok (ok : Threads.Ok env ⟨s, .listening k⟩) :
    Threads.Ok env ⟨s, .reading k s.mux.deviceList []⟩ where
  sound := ok.sound
  alive := ok.alive
  enumerated := ok.enumerated
  ledger := by
    refine ok.ledger.owe fun k' => Set.ext fun i => and_congr_right fun shown => not_congr ?_
    obtain ⟨d, listed, _, _, id⟩ := shown
    exact ⟨fun owed => owed.1, fun same => ⟨same, .inl ⟨d, listed, id⟩⟩⟩
  valid := ⟨ok.valid, ok.sound.linked.registry.nodup, fun _ listed => listed,
    ⟨List.nodup_nil, by simp, by simp⟩, by simp⟩

private theorem found_ok {found : List DeviceInfo} (ok : Threads.Ok env ⟨s, .reading k [] found⟩) :
    Threads.Ok env ⟨s, .telling k found⟩ where
  sound := ok.sound
  alive := ok.alive
  enumerated := ok.enumerated
  ledger := ok.ledger.owe fun k' => by simp [MainThread.owed]
  valid := ⟨ok.valid.1, ok.valid.2.2.2.1⟩

private theorem skip_ok {d : DevPtr} {pending : List DevPtr} {found : List DeviceInfo}
    (ok : Threads.Ok env ⟨s, .reading k (d :: pending) found⟩)
    (unseen : ((s.mux.dev d).state = .active && (s.mux.dev d).visible) = false) :
    Threads.Ok env ⟨s, .reading k pending found⟩ := by
  obtain ⟨listening, unique, listed, finds, apart⟩ := ok.valid
  have here : d ∈ s.sys.deviceList := listed d (List.mem_cons_self ..)
  have hidden : (s.mux.dev d).id ∉ s.sys.shown := fun shown => by
    have seen : (s.mux.dev d).state = .active ∧ (s.mux.dev d).visible = true :=
      (ok.sound.linked.registry.mem_shown here).mp shown
    simp [seen] at unseen
  refine ⟨ok.sound, ok.alive, ok.enumerated, ok.ledger.owe fun k' => ?_, listening, unique.of_cons,
    fun d' member => listed d' (List.mem_cons_of_mem _ member), finds,
    fun info member d' member' => apart info member d' (List.mem_cons_of_mem _ member')⟩
  refine Set.ext fun i => and_congr_right fun shown => not_congr (and_congr_right fun _ => or_congr_left ?_)
  constructor
  · rintro ⟨d', member, id⟩
    exact ⟨d', List.mem_cons_of_mem _ member, id⟩
  · rintro ⟨d', member, id⟩
    rcases List.mem_cons.mp member with rfl | later
    · exact absurd (id ▸ shown) hidden
    · exact ⟨d', later, id⟩

private theorem note_ok {d : DevPtr} {pending : List DevPtr} {found : List DeviceInfo}
    (ok : Threads.Ok env ⟨s, .reading k (d :: pending) found⟩)
    (seen : ((s.mux.dev d).state = .active && (s.mux.dev d).visible) = true) :
    Threads.Ok env ⟨s, .reading k pending (found ++ [deviceInfo env (s.mux.dev d)])⟩ := by
  obtain ⟨listening, unique, listed, finds, apart⟩ := ok.valid
  obtain ⟨absent, unique⟩ := List.nodup_cons.mp unique
  have here : d ∈ s.mux.deviceList := listed d (List.mem_cons_self ..)
  have registry := ok.sound.linked.registry
  have active : (s.mux.dev d).state = .active ∧ (s.mux.dev d).visible = true := by simpa using seen
  have shown : (s.mux.dev d).id ∈ s.sys.shown := (registry.mem_shown here).mpr active
  refine ⟨ok.sound, ok.alive, ok.enumerated, ok.ledger.owe fun k' => ?_, listening, unique,
    fun d' member => listed d' (List.mem_cons_of_mem _ member), ⟨?_, ?_, ?_⟩, ?_⟩
  · have same : MainThread.owed s.mux (.reading k pending (found ++ [deviceInfo env (s.mux.dev d)])) k' =
        MainThread.owed s.mux (.reading k (d :: pending) found) k' := by
      ext i
      simp only [MainThread.owed, Set.mem_ofPred_eq, List.mem_append, List.mem_cons, List.not_mem_nil, or_false]
      constructor
      · rintro ⟨own, ⟨d', member, id⟩ | ⟨info, member | rfl, id⟩⟩
        · exact ⟨own, .inl ⟨d', .inr member, id⟩⟩
        · exact ⟨own, .inr ⟨info, member, id⟩⟩
        · exact ⟨own, .inl ⟨d, .inl rfl, id⟩⟩
      · rintro ⟨own, ⟨d', rfl | member, id⟩ | ⟨info, member, id⟩⟩
        · exact ⟨own, .inr ⟨_, .inr rfl, id⟩⟩
        · exact ⟨own, .inl ⟨d', member, id⟩⟩
        · exact ⟨own, .inr ⟨info, .inl member, id⟩⟩
    exact congrArg (s.sys.shown \ ·) same
  · rw [List.map_append, List.nodup_append]
    refine ⟨finds.distinct, List.nodup_singleton _, fun i member j last => ?_⟩
    rintro rfl
    obtain ⟨info, member, id⟩ := List.mem_map.mp member
    rw [List.map_singleton, List.mem_singleton] at last
    exact apart info member d (List.mem_cons_self ..) (last.symm.trans id.symm)
  · intro info member
    rcases List.mem_append.mp member with before | new
    · exact finds.shown info before
    · rw [List.mem_singleton.mp new]
      exact shown
  · intro info member
    rcases List.mem_append.mp member with before | new
    · exact finds.seen info before
    · exact ⟨_, List.mem_singleton.mp new⟩
  · intro info member d' member'
    rcases List.mem_append.mp member with before | new
    · exact apart info before d' (List.mem_cons_of_mem _ member')
    · rw [List.mem_singleton.mp new]
      refine fun same => absent ?_
      have equal : d' = d := registry.ids d' (listed d' (List.mem_cons_of_mem _ member')) d here same
      exact equal ▸ member'

private theorem leave_ok (faithful : Faithful env) (ok : Threads.Ok env ⟨s, .telling k []⟩) :
    Threads.Ok env ⟨leaveListen k s, .idle⟩ := by
  have hushed : Steady (hushed env) (some k) s.sys (leaveListen k s).sys := rewind_steady trivial fun _ => trivial
  have freely : Steady anything (some k) s.sys (leaveListen k s).sys := rewind_steady trivial fun _ => trivial
  have settled : Ledger env (fun _ => ∅) s := ok.ledger.owe fun k' => by simp [MainThread.owed]
  exact ok.of_run freely.run (freely.alive ok.alive) (settled.hushed faithful ok.sound hushed.run rfl) trivial

private theorem deviceRecord_length (info : DeviceInfo) : (deviceRecord info).length = 268 := by
  simp [deviceRecord, serialField, le32, be16]
  omega

private theorem sendDeviceAdd_nonneg (queueing : Queueing env) {x : Clients} {client : MuxClient}
    (present : x.client k = some client)
    (buffer : client.obBuf.isSome) (dev : MuxDevice) : 0 ≤ (sendDeviceAdd env (deviceInfo env dev) k x).1 := by
  have queued {msg : MsgType} {payload : Bytes} {r : ℤ × Clients} (queued : Queued env k x client 0 msg payload r)
      (small : payload.length + 16 < 2 ^ 31) : 0 ≤ r.1 := by
    cases queued with
    | failed same why => exact absurd queueing.memory (why buffer)
    | done queues => exact asInt_messageLength small
  simp only [sendDeviceAdd, sendDeviceEvent]
  split
  · exact queued (sendPlist_queued env present 0 _) (queueing.size dev)
  · exact queued (outputBufferAddMessage_queued env present 0 .deviceAdd _) (by rw [deviceRecord_length]; decide)

private theorem tell_ok (faithful : Faithful env) (queueing : Queueing env) {info : DeviceInfo}
    {pending : List DeviceInfo}
    (ok : Threads.Ok env ⟨s, .telling k (info :: pending)⟩) (small : s.mux.nextDeviceId ≤ 2 ^ 32) :
    0 ≤ (sendDeviceAdd env info k s.clients).1 ∧
      Threads.Ok env ⟨s.setClients (sendDeviceAdd env info k s.clients).2, .telling k pending⟩ := by
  obtain ⟨⟨client, present, listening⟩, finds⟩ := ok.valid
  obtain ⟨dev, rfl⟩ := finds.seen info (List.mem_cons_self ..)
  have buffer : client.obBuf.isSome := ok.sound.linked.roster.output k client present (by simp [listening])
  have shown : dev.id ∈ s.sys.shown := finds.shown _ (List.mem_cons_self ..)
  have below : dev.id < s.mux.nextDeviceId := by
    obtain ⟨d, listed, _, _, id⟩ := shown
    exact id ▸ ok.sound.linked.registry.numbered d listed
  obtain ⟨absent, distinct⟩ := List.nodup_cons.mp finds.distinct
  have conveys : Conveys env (.attached (deviceInfo env dev).id) .deviceAdd
    (createDeviceAttachedPlist (deviceInfo env dev))
      (deviceRecord (deviceInfo env dev)) := conveys_attached faithful (Nat.lt_of_lt_of_le below small)
  have mailed : Mailed env (.attached dev.id) k client s.clients (sendDeviceAdd env (deviceInfo env dev) k s.clients) :=
    sendDeviceEvent_mailed queueing.memory conveys present buffer
  have moved : ClientsMove anything (some k) s.clients (sendDeviceAdd env (deviceInfo env dev) k s.clients).2 :=
    sendDeviceEvent_move env (some k) present (.inr listening) ⟨trivial, trivial⟩
  set r := sendDeviceAdd env (deviceInfo env dev) k s.clients with sending
  have listens : Listening k r.2 := by
    obtain ⟨capacity, msg, payload, _, queues, _⟩ := mailed
    exact ⟨client.grown capacity 0 msg payload, by rw [queues.stored, Function.update_self], listening⟩
  refine ⟨sendDeviceAdd_nonneg queueing present buffer dev, ok.of_run (moved.run s r.2) ok.alive ?_
    ⟨listens, distinct, fun info member => finds.shown info (List.mem_cons_of_mem _ member),
      fun info member => finds.seen info (List.mem_cons_of_mem _ member)⟩⟩
  refine ⟨fun k' => ?_, ok.ledger.hidden, ok.ledger.staffed, ok.ledger.single⟩
  have before := ok.ledger.briefed k'
  by_cases own : k' = k
  · subst own
    have owing : insert dev.id (s.sys.shown \ MainThread.owed s.mux (.telling k' (deviceInfo env dev :: pending)) k') =
        s.sys.shown \ MainThread.owed s.mux (.telling k' pending) k' := by
      ext i
      constructor
      · rintro (rfl | ⟨visible, free⟩)
        · exact ⟨shown, fun owed => absent (List.mem_map.mpr owed.2)⟩
        · exact ⟨visible, fun owed => free ⟨owed.1, owed.2.imp fun _ told => ⟨List.mem_cons_of_mem _ told.1, told.2⟩⟩⟩
      · rintro ⟨visible, free⟩
        by_cases same : i = dev.id
        · exact .inl same
        · refine .inr ⟨visible, fun owed => free ⟨owed.1, ?_⟩⟩
          obtain ⟨info, member, id⟩ := owed.2
          rcases List.mem_cons.mp member with rfl | later
          · exact absurd id.symm same
          · exact ⟨info, later, id⟩
    refine owing ▸ (mailed.noted present listening).attach before (s.sys.shown_subset_live shown) fun known =>
      known.2 ?_
    exact ⟨rfl, _, List.mem_cons_self .., rfl⟩
  · have same : (s.setClients r.2).sys.client k' = s.sys.client k' := mailed.others own
    have nothing (pending : List DeviceInfo) : MainThread.owed s.mux (.telling k pending) k' = ∅ := by
      simp [MainThread.owed, own]
    have before : Informed env s.sys.live (s.sys.shown \ MainThread.owed s.mux
      (.telling k (deviceInfo env dev :: pending)) k')
        (s.sys.client k') := before
    rw [nothing, ← same] at before
    change Informed env s.sys.live (s.sys.shown \ MainThread.owed s.mux (.telling k pending) k') _
    rw [nothing]
    exact before

theorem resume_ok (faithful : Faithful env) (queueing : Queueing env) {t : Threads} (ok : t.Ok env)
    (small : t.daemon.mux.nextDeviceId ≤ 2 ^ 32) : (t.resume env).Ok env := by
  obtain ⟨s, main⟩ := t
  match main with
  | .idle => exact ok
  | .listening k => exact copy_ok ok
  | .reading k [] found => exact found_ok ok
  | .reading k (d :: pending) found =>
    simp only [Threads.resume]
    split
    · next seen => exact note_ok ok seen
    · next unseen => exact skip_ok ok (by simpa using unseen)
  | .telling k [] => exact leave_ok faithful ok
  | .telling k (info :: pending) =>
    obtain ⟨queued, told⟩ := tell_ok faithful queueing ok small
    simp only [Threads.resume, if_neg (Int.not_lt.mpr queued)]
    exact told

end Resume

section Events

variable {t : Threads}

/-- A worker changes neither what the main thread works on nor for whom. -/
private theorem MainThread.Valid.undisturbed {main : MainThread} (valid : main.Valid env s)
    (list : s'.mux.deviceList = s.mux.deviceList)
    (ids : ∀ d, (s'.mux.dev d).id = (s.mux.dev d).id) (shown : s.sys.shown ⊆ s'.sys.shown)
    (listening : ∀ k, Listening k s.clients → Listening k s'.clients) :
    main.Valid env s' ∧ main.owed s'.mux = main.owed s.mux := by
  have finds {infos : List DeviceInfo} (finds : Finds env s infos) : Finds env s' infos :=
    ⟨finds.distinct, fun info member => shown (finds.shown info member), finds.seen⟩
  match main with
  | .idle => exact ⟨trivial, rfl⟩
  | .listening k => exact ⟨listening k valid, rfl⟩
  | .reading k pending found =>
    obtain ⟨listens, unique, listed, found, apart⟩ := valid
    refine ⟨⟨listening k listens, unique, list ▸ listed, finds found, fun info member d member' => ?_⟩, ?_⟩
    · rw [ids]
      exact apart info member d member'
    · funext k'
      simp only [MainThread.owed, ids]
  | .telling k pending => exact ⟨⟨listening k valid.1, finds valid.2⟩, rfl⟩

/-- The main thread has yet to look at a device: it has entered `start_listen` and not copied the list,
or the device is in the rest of the copy. -/
def MainThread.awaits (d : DevPtr) : MainThread → Bool
  | .listening _ => true
  | .reading _ pending _ => pending.contains d
  | _ => false

/-- A device that is not shown, and that the main thread will not look at, is owed to nobody. -/
private theorem MainThread.Valid.unowed {main : MainThread} (valid : main.Valid env s) (registry : Registry s.sys)
    {d : DevPtr}
    (listed : d ∈ s.mux.deviceList) (hidden : (s.mux.dev d).visible = false) (passed : main.awaits d = false)
    (k : ClientPtr) :
    (s.mux.dev d).id ∉ main.owed s.mux k := by
  have unseen {infos : List DeviceInfo} (finds : Finds env s infos) : ¬∃ info ∈ infos, info.id = (s.mux.dev d).id := by
    rintro ⟨info, member, id⟩
    have visible : (s.mux.dev d).visible = true := ((registry.mem_shown listed).mp (id ▸ finds.shown info member)).2
    simp [hidden] at visible
  match main with
  | .idle => exact id
  | .listening _ => cases passed
  | .reading _ pending found =>
    obtain ⟨_, _, ours, finds, _⟩ := valid
    rintro ⟨_, ⟨d', member, id⟩ | owed⟩
    · obtain rfl := registry.ids d' (ours d' member) d listed id
      simp [MainThread.awaits, member] at passed
    · exact unseen finds owed
  | .telling _ pending => exact fun owed => unseen valid.2 owed.2

/-- A worker announces a device that is still there and that the main thread will not look at. -/
private theorem workerDeviceAdd_ok (faithful : Faithful env) (memory : ∀ n, (env.sock n).alloc = true) (ok : t.Ok env)
    (small : t.daemon.mux.nextDeviceId ≤ 2 ^ 32) {info : DeviceInfo} (employed : info ∈ t.daemon.workers) {d : DevPtr}
    (listed : d ∈ t.daemon.mux.deviceList) (id : (t.daemon.mux.dev d).id = info.id) (passed : t.main.awaits d = false) :
    Threads.Ok env
      ⟨clientDeviceAdd env info { t.daemon with workers := t.daemon.workers.erase info }, t.main⟩ := by
  obtain ⟨s, main⟩ := t
  have registry := ok.sound.linked.registry
  obtain ⟨below, own⟩ := ok.ledger.staffed info employed
  obtain ⟨active, hidden⟩ := own d listed id
  set s₀ : Daemon := { s with workers := s.workers.erase info }
  have sorted : (info.id :: s₀.workers.map DeviceInfo.id).Nodup := by
    have perm := (List.perm_cons_erase employed).map DeviceInfo.id
    rw [List.map_cons] at perm
    exact perm.nodup_iff.mp ok.ledger.single
  obtain ⟨done, single⟩ := List.nodup_cons.mp sorted
  have ledger₀ : Ledger env (main.owed s.mux) s₀ :=
    ⟨ok.ledger.briefed, ok.ledger.hidden, fun info' member => ok.ledger.staffed info' (List.mem_of_mem_erase member),
      single⟩
  have announced : Announced env d s₀ (clientDeviceAdd env info s₀) :=
    clientDeviceAdd_announced faithful memory (s := s₀) ok.sound listed active id.symm (Nat.lt_of_lt_of_le below small)
  have free := ok.valid.unowed registry listed hidden passed
  have ledger := announced.ledger registry listed hidden free
    (by rw [show (s₀.mux.dev d).id = info.id from id]; exact done)
    ledger₀
  have calm : Calm anything none s₀.sys (clientDeviceAdd env info s₀).sys :=
    clientDeviceAdd_calm env announces_anything none info
  have shown : s.sys.shown ⊆ (clientDeviceAdd env info s₀).sys.shown := by
    rw [announced.shown_insert listed announced.visible]
    exact Set.subset_insert ..
  have listens (k : ClientPtr) (before : Listening k s.clients) :
    Listening k (clientDeviceAdd env info s₀).clients := by
    obtain ⟨client, present, listening⟩ := before
    have viewed : s₀.sys.client k = (some client, s.clients.log k) := congrArg (·, s.clients.log k) present
    have noted := announced.noted k
    rw [viewed] at noted
    cases view : (clientDeviceAdd env info s₀).sys.client k with
    | mk client' log' =>
      rw [view] at noted
      cases noted with
      | told _ still => exact ⟨_, congrArg Prod.fst view, still⟩
      | other deaf => exact absurd listening (deaf client rfl)
  obtain ⟨valid, owed⟩ := ok.valid.undisturbed announced.list announced.ids shown listens
  exact Threads.Ok.of_run (t := ⟨s, main⟩) ok calm.run (calm.steady.alive ok.alive) (owed ▸ ledger) valid

private theorem workerCbData_ok (faithful : Faithful env) (ok : t.Ok env) (deviceId : ℕ) (data : Option ℕ) :
    Threads.Ok env ⟨t.daemon.setMux (deviceSetPreflightCbData deviceId data t.daemon.mux), t.main⟩ := by
  obtain ⟨s, main⟩ := t
  have hushed : Calm (hushed env) none s.sys (s.setMux (deviceSetPreflightCbData deviceId data s.mux)).sys :=
    deviceSetPreflightCbData_calm none deviceId data
  have freely : Calm anything none s.sys (s.setMux (deviceSetPreflightCbData deviceId data s.mux)).sys :=
    deviceSetPreflightCbData_calm none deviceId data
  have ledger := ok.ledger.hushed faithful ok.sound hushed.run rfl
  have unmoved := hushed.run.unmoved (sound_hushed.mpr ok.sound)
  have kept : main.Valid env (s.setMux (deviceSetPreflightCbData deviceId data s.mux)) ∧
      main.owed (deviceSetPreflightCbData deviceId data s.mux) = main.owed s.mux :=
    ok.valid.undisturbed freely.list (fun d => (freely.identity d).id) unmoved.shown_eq.ge fun _ listens => listens
  obtain ⟨valid, owed⟩ := kept
  exact Threads.Ok.of_run (t := ⟨s, main⟩) ok freely.run (freely.steady.alive ok.alive) (owed ▸ ledger) valid

/-- What an approach to `start_listen` and its first step keep. -/
theorem enterListen_kept (sound : Sound anything s.sys) (alive : Alive s.sys) (enumerated : Enumerated s.sys)
    (approach : Approaches env k s s') :
    Sound anything (enterListen k s').sys ∧ Alive (enterListen k s').sys ∧ Enumerated (enterListen k s').sys := by
  obtain ⟨client, present, idle⟩ := approach.commanding
  have before : Sound anything s'.sys := sound_hushed.mp (approach.run.sound (sound_hushed.mpr sound))
  have entered : ClientsMove anything (some k) s'.clients (s'.clients.modify k fun client =>
      { client with state := .listen }) := .modify present (.listen client _ rfl trivial idle)
  have same {P : Mux → Prop} (holds : P s.mux) : P (enterListen k s').mux := approach.mux.symm ▸ holds
  exact ⟨(entered.run s' _).sound before, same (P := fun x => ∀ d ∈ x.deviceList, (x.dev d).state ≠ .dead) alive,
    same (P := fun x => x.nextDeviceId = x.nextDev + 1) enumerated.next,
    same (P := fun x => ∀ d < x.nextDev, (x.dev d).id = d + 1) enumerated.ids⟩

private theorem enter_ok (faithful : Faithful env) (ok : Threads.Ok env ⟨s, .idle⟩) (approach : Approaches env k s s') :
    Threads.Ok env ⟨enterListen k s', .listening k⟩ := by
  have ledger : Ledger env (fun _ => ∅) s' := ok.ledger.hushed faithful ok.sound approach.run approach.workers
  obtain ⟨sound, alive, enumerated⟩ := enterListen_kept ok.sound ok.alive ok.enumerated approach
  obtain ⟨client, present, idle⟩ := approach.commanding
  have stored : (enterListen k s').clients.client = Function.update s'.clients.client k
    (some { client with state := .listen }) := by
    simp only [enterListen, Daemon.setClients, Clients.modify, present]
    rfl
  have log : (enterListen k s').clients.log = s'.clients.log := by
    simp only [enterListen, Daemon.setClients, Clients.modify, present]
    rfl
  refine ⟨sound, alive, enumerated, ⟨fun k' => ?_, ledger.hidden, ledger.staffed, ledger.single⟩, ?_⟩
  · have before := ledger.briefed k'
    have viewed : (enterListen k s').sys.client k' = ((enterListen k s').clients.client k', s'.clients.log k') :=
      Prod.ext rfl (congrFun log k')
    rw [viewed, stored]
    by_cases own : k' = k
    · subst own
      rw [Function.update_self]
      rintro _ ⟨⟩
      have untold : notices env (s'.clients.log k') = [] := (before client present).2 (by simp [idle])
      have nothing : (enterListen k' s').sys.shown \ MainThread.owed (enterListen k' s').mux (.listening k')
        k' = ∅ := by
        simp [MainThread.owed]
      refine ⟨fun _ => ?_, fun deaf => absurd rfl deaf⟩
      rw [nothing, untold]
      exact .nil _
    · rw [Function.update_of_ne own]
      have nothing : MainThread.owed (enterListen k s').mux (.listening k) k' = ∅ := by simp [MainThread.owed, own]
      rw [nothing]
      exact before
  · exact ⟨{ client with state := .listen }, by rw [stored, Function.update_self], rfl⟩

end Events

section Counting

private theorem sendPacket_nextDeviceId (env : Env) (d : DevPtr) (proto : MuxProtocol) (header data : Bytes) (x : Mux) :
    (sendPacket env d proto header data x).2.nextDeviceId = x.nextDeviceId := by
  obtain ⟨_, _, _, _, _, _, state, -⟩ := sendPacket_state env d proto header data x
  rw [state]

/-- The events that add a device. -/
def Event.adds : Event → Bool
  | deviceAdd _ => true
  | _ => false

/-- A device that is added gets the next id, and nothing else takes one. -/
theorem step_nextDeviceId (sound : Sound anything s.sys) (alive : Alive s.sys) (event : Event) :
    (step env s event).mux.nextDeviceId ≤ s.mux.nextDeviceId + event.adds.toNat := by
  cases adding : event.adds with
  | true =>
    cases event with
    | deviceAdd u =>
      rw [step.eq_def]
      split
      · change (deviceAdd env u s.mux).2.nextDeviceId ≤ s.mux.nextDeviceId + 1
        simp only [deviceAdd, getNextDeviceId_eq sound.linked.registry]
        split
        · rw [sendPacket_nextDeviceId]
          exact Nat.le_refl _
        · change (sendPacket ..).2.nextDeviceId ≤ _
          rw [sendPacket_nextDeviceId]
          exact Nat.le_refl _
      · exact Nat.le_succ _
    | _ => cases adding
  | false =>
    have admitted : Admitted stationary env s event := by
      refine ⟨fun _ => trivial, fun _ => trivial, fun u same => ?_, fun _ => trivial, fun _ => announces_stationary,
        .inl trivial, .inl trivial, fun _ _ _ => ⟨trivial, .inl trivial⟩⟩
      subst same
      cases adding
    have steady := step_steady env (grants_stationary env) (sound_stationary.mpr sound) alive admitted
    exact (steady.run.stationary (sound_stationary.mpr sound)).2.le

end Counting

section Steps

variable {t : Threads} (faithful : Faithful env) (queueing : Queueing env)

/-- What keeps the threads from misleading a listener: a worker announces its device only while it is
listed and not while `start_listen` is about to look at it, and a device that is active is removed only
when it is visible. -/
def Threads.careful (t : Threads) : ThreadAction → Bool
  | .event (.workerDeviceAdd info) => !enabled t.daemon (.workerDeviceAdd info) ||
      t.daemon.mux.deviceList.any fun d => (t.daemon.mux.dev d).id = info.id && !t.main.awaits d
  | .event (.deviceRemove u) => !enabled t.daemon (.deviceRemove u) ||
      (findDevice u t.daemon.mux).all fun d => (t.daemon.mux.dev d).state ≠ .active || (t.daemon.mux.dev d).visible
  | .event .deviceShutdown => !enabled t.daemon .deviceShutdown || t.daemon.allVisible
  | _ => true

include faithful queueing

/-- An event of the main thread. -/
theorem event_ok (ok : Threads.Ok env ⟨s, .idle⟩) (small : s.mux.nextDeviceId ≤ 2 ^ 32) {event : Event}
    (own : event.byWorker = false) (careful : Threads.careful ⟨s, .idle⟩ (.event event)) :
    (Threads.step env ⟨s, .idle⟩ (.event event)).Ok env := by
  simp only [Threads.step, own, Bool.false_eq_true, if_false]
  rcases point : listenPoint env s event with _ | ⟨k, s'⟩
  swap
  · exact enter_ok faithful ok (listenPoint_spec point).toApproaches
  have admitted : Admitted anything env s event := open_anything.admitted (.inl trivial) (.inl trivial) (.inl trivial)
  have steady := step_steady env (grants_anything env) ok.sound ok.alive admitted
  refine ok.of_run steady.run (steady.alive ok.alive) ?_ trivial
  by_cases possible : enabled s event
  swap
  · have idle : step env s event = s := if_neg possible
    simp only [idle]
    exact ok.ledger
  refine step_ledger faithful queueing.memory ok.sound ok.alive ok.ledger small own point
    (fun u same d found active => ?_)
    fun same => ?_
  · subst same
    have all : (findDevice u s.mux).all fun d => (s.mux.dev d).state ≠ .active || (s.mux.dev d).visible := by
      simpa [Threads.careful, possible] using careful
    have found : findDevice u s.mux = some d := found
    have active : (s.mux.dev d).state = .active := active
    simpa [found, active] using all
  · subst same
    simpa [Threads.careful, possible] using careful

/-- What a worker does. -/
theorem worker_ok (ok : t.Ok env) (small : t.daemon.mux.nextDeviceId ≤ 2 ^ 32) {event : Event}
    (foreign : event.byWorker = true) (careful : t.careful (.event event)) :
    Threads.Ok env ⟨step env t.daemon event, t.main⟩ := by
  by_cases possible : enabled t.daemon event
  swap
  · have idle : step env t.daemon event = t.daemon := if_neg possible
    rw [idle]
    exact ok
  cases event with
  | workerDeviceAdd info =>
    have stepped : step env t.daemon (.workerDeviceAdd info) =
        clientDeviceAdd env info { t.daemon with workers := t.daemon.workers.erase info } := if_pos possible
    have employed : info ∈ t.daemon.workers := by simpa [enabled] using possible
    obtain ⟨d, listed, id, passed⟩ : ∃ d ∈ t.daemon.mux.deviceList, (t.daemon.mux.dev d).id = info.id ∧
        t.main.awaits d = false := by simpa [Threads.careful, possible] using careful
    rw [stepped]
    exact workerDeviceAdd_ok faithful queueing.memory ok small employed listed id passed
  | workerCbData deviceId data =>
    have stepped : step env t.daemon (.workerCbData deviceId data) =
        t.daemon.setMux (deviceSetPreflightCbData deviceId data t.daemon.mux) := if_pos possible
    rw [stepped]
    exact workerCbData_ok faithful ok deviceId data
  | _ => cases foreign

/-- Careful threads keep the invariant. -/
theorem Threads.step_ok (ok : t.Ok env) (small : t.daemon.mux.nextDeviceId ≤ 2 ^ 32) {action : ThreadAction}
    (careful : t.careful action) : (t.step env action).Ok env := by
  cases action with
  | resume => exact resume_ok faithful queueing ok small
  | event event =>
    cases foreign : event.byWorker with
    | true =>
      simp only [Threads.step, foreign, if_true]
      exact worker_ok faithful queueing ok small foreign careful
    | false =>
      obtain ⟨s, main⟩ := t
      match main with
      | .idle => exact event_ok faithful queueing ok small foreign careful
      | .listening k => simpa only [Threads.step, foreign, Bool.false_eq_true, if_false] using ok
      | .reading k pending found => simpa only [Threads.step, foreign, Bool.false_eq_true, if_false] using ok
      | .telling k pending => simpa only [Threads.step, foreign, Bool.false_eq_true, if_false] using ok

end Steps

end Usbmuxd
