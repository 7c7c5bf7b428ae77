import Usbmuxd.Proofs.TcpInput

/-! # Loops over connections and devices

Tearing down all connections of a device, removing a device, the periodic acknowledgements, and the
shutdown sequence of `main`. A loop over the connections of a device leaves none behind, and
removing the device of every USB device leaves no device behind.
-/

namespace Usbmuxd

open Collection ConnLog ConnEvent

/-- A run at whose end no listed device is on its way out, if there was none at its beginning. -/
structure Steady (lax : Laxity) (served : Option ClientPtr) (S S' : Sys) : Prop where
  run : SysRun lax served S S'
  alive : Alive S → Alive S'

namespace Steady

variable {lax : Laxity} {served : Option ClientPtr} {S S' S'' : Sys}

theorem refl (S : Sys) : Steady lax served S S := ⟨.refl, id⟩

theorem trans (one : Steady lax served S S') (two : Steady lax served S' S'') : Steady lax served S S'' :=
  ⟨one.run.trans two.run, two.alive ∘ one.alive⟩

theorem sound (steady : Steady lax served S S') (before : Sound lax S) : Sound lax S' := steady.run.sound before

end Steady

theorem Calm.steady {lax : Laxity} {served : Option ClientPtr} {S S' : Sys} (calm : Calm lax served S S') :
    Steady lax served S S' := by
  refine ⟨calm.run, fun alive d listed => ?_⟩
  rw [(calm.identity d).state]
  exact alive d (calm.list ▸ listed)

section Loops

variable {lax : Laxity} (env : Env) {s : Daemon} {d : DevPtr}

/-- `connection_teardown` from outside the daemon's work on a connection. -/
theorem connectionTeardown_held (grants : Grants env lax) (sound : Sound lax s.sys) {c : ConnPtr}
    (holds : s.sys.Holds d c) : Calm lax none s.sys (connectionTeardown env c s).sys ∧
      c ∉ ((connectionTeardown env c s).sys.dev d).1.connections := by
  obtain ⟨m, _, _, record, _⟩ := sound.linked.links.held d c holds
  obtain ⟨log, present⟩ : ∃ log, s.sys.conn c = (some m, log) := ⟨_, Prod.ext record rfl⟩
  obtain ⟨rfl, ⟨_, _, _, attempting⟩ | carrying⟩ := sound.attempting_or_carrying holds present
  · exact connectionTeardown_calm env sound holds present (working_self present) rfl rfl
      (.inl ⟨attempting.waiting, .inl attempting.waiting⟩) (gone_of_run .refl)
      (fun _ => hopeless_of_unopened attempting.unopened) (.inl rfl) grants
  · exact connectionTeardown_calm env sound holds present (working_self present) rfl rfl
      (.inr ⟨carrying.opened, .inl carrying.opened⟩) (gone_of_run .refl)
      (fun waiting => by simp [carrying.opened] at waiting) (.inl rfl) grants

/-- The loop over the connections of a listed device leaves none. -/
theorem teardownAll_calm (grants : Grants env lax) (sound : Sound lax s.sys)
    (listed : d ∈ s.mux.deviceList) : Calm lax none s.sys (teardownAll env d s).sys ∧
      ((teardownAll env d s).sys.dev d).1.connections = [] := by
  have held {current : Daemon} (calm : Calm lax none s.sys current.sys) {c : ConnPtr}
      (member : c ∈ current.connections d) : current.sys.Holds d c := by
    refine ⟨?_, member⟩
    rw [calm.list]
    exact listed
  refine ⟨?_, ?_⟩
  · refine forEach_induct (motive := fun current : Daemon => Calm lax none s.sys current.sys) (.refl _) ?_
    intro c current calm member
    exact calm.trans (connectionTeardown_held env grants (calm.sound sound) (held calm member)).1
  · change (forEach (Daemon.connections d) (connectionTeardown env) s).connections d = []
    refine forEach_empties (motive := fun current : Daemon => Calm lax none s.sys current.sys) (.refl _) ?_
    intro c current calm member
    obtain ⟨more, gone⟩ := connectionTeardown_held env grants (calm.sound sound) (held calm member)
    exact ⟨calm.trans more, gone, fun other member => (more.quiet d).connections member⟩

/-- A device gives up its connections and becomes dead; the others only lose what they send. -/
structure Deactivated (lax : Laxity) (d : DevPtr) (S S' : Sys) : Prop where
  run : SysRun lax none S S'
  list : S'.deviceList = S.deviceList
  phase : S'.phase = S.phase
  usbdev : ∀ d', (S'.dev d').1.usbdev = (S.dev d').1.usbdev
  state : ∀ d', d' ≠ d → (S'.dev d').1.state = (S.dev d').1.state
  empty : (S'.dev d).1.connections = []

/-- `dev->state = MUXDEV_DEAD`, the first store of `device_remove`. -/
def Daemon.retire (d : DevPtr) (s : Daemon) : Daemon :=
  s.setMux ((s.mux.setDev d { s.mux.dev d with state := .dead }).logDev d .dead)

private theorem retire_sys (d : DevPtr) (s : Daemon) : (s.retire d).sys =
    s.sys.setDev d ({ (s.sys.dev d).1 with state := .dead }, (s.sys.dev d).2 ++ [.dead]) := by
  rw [Daemon.retire, sys_logDev, sys_setDev, setMux_mux, Sys.setDev_dev, Sys.setDev_setDev]
  rfl

theorem retire_run (announces : lax.Announces) (listed : d ∈ s.mux.deviceList)
    (active : (s.mux.dev d).state = .active) :
    SysRun lax none s.sys (s.retire d).sys := by
  rw [retire_sys]
  exact .single (.retired s.sys d announces.travels listed active)

/-- The first half of `device_remove`, for a device that had become active. -/
private theorem deactivate_spec (grants : Grants env lax) (announces : lax.Announces) (sound : Sound lax s.sys)
    (listed : d ∈ s.mux.deviceList) (active : (s.mux.dev d).state = .active) :
    Deactivated lax d s.sys (deactivate env d s).sys := by
  set s₁ := s.retire d
  have state₁ : s₁.sys = _ := retire_sys d s
  have retired : SysRun lax none s.sys s₁.sys := retire_run announces listed active
  obtain ⟨calm, empty⟩ := teardownAll_calm env grants (retired.sound sound) (d := d) (s := s₁) listed
  set s₂ := teardownAll env d s₁ with tearing
  have told : SysRun lax none s₂.sys (s₂.setClients (clientDeviceRemove env (s₂.mux.dev d).id s₂.clients)).sys :=
    ClientsMove.run s₂ _ (clientDeviceRemove_move env s₂.clients none ⟨announces.tells _ _, announces.tells _ _⟩)
  set s₃ := s₂.setClients (clientDeviceRemove env (s₂.mux.dev d).id s₂.clients) with telling
  have final : (deactivate env d s).sys = s₃.sys := by
    have emptied : ({ s₃.mux.dev d with connections := [] } : MuxDevice) = (s₃.sys.dev d).1 := by
      have same : (s₃.sys.dev d).1.connections = [] := empty
      rw [← same]
      rfl
    have shape : deactivate env d s = s₃.setMux (s₃.mux.setDev d { s₃.mux.dev d with connections := [] }) := rfl
    rw [shape, sys_setDev, setMux_mux, emptied, Sys.setDev_self]
  have dev₁ (d' : DevPtr) (other : d' ≠ d) : s₁.sys.dev d' = s.sys.dev d' := by
    rw [state₁]
    simp [Sys.setDev, other]
  rw [final]
  refine ⟨(retired.trans calm.run).trans told, calm.list, calm.phase, fun d' => ?_, fun d' other => ?_, empty⟩
  · have kept : (s₂.sys.dev d').1.usbdev = (s₁.sys.dev d').1.usbdev := (calm.identity d').usbdev
    by_cases same : d' = d
    · subst same
      have own : (s₁.sys.dev d').1.usbdev = (s.sys.dev d').1.usbdev := by
        rw [state₁, Sys.setDev_dev]
      exact kept.trans own
    · rw [dev₁ d' same] at kept
      exact kept
  · have kept : (s₂.sys.dev d').1.state = (s₁.sys.dev d').1.state := (calm.identity d').state
    rw [dev₁ d' other] at kept
    exact kept

/-- What `device_remove` does for a USB device that has a mux device. -/
structure Removed (lax : Laxity) (d : DevPtr) (S S' : Sys) : Prop where
  run : SysRun lax none S S'
  list : S'.deviceList = S.deviceList.erase d
  phase : S'.phase = S.phase
  usbdev : ∀ d', (S'.dev d').1.usbdev = (S.dev d').1.usbdev
  alive : Alive S'

private theorem deviceRemove_spec (grants : Grants env lax) (announces : lax.Announces) (sound : Sound lax s.sys)
    (alive : Alive s.sys) {u : UsbPtr} (found : findDevice u s.mux = some d) :
    Removed lax d s.sys (deviceRemove env u s).sys := by
  have listed : d ∈ s.mux.deviceList := List.mem_of_find?_eq_some found
  have dropped (x : Daemon) :
      (x.setMux { x.mux with deviceList := x.mux.deviceList.erase d }).sys =
        { x.sys with deviceList := x.sys.deviceList.erase d } := rfl
  simp only [deviceRemove, found]
  split
  · next active =>
    have done := deactivate_spec env grants announces sound listed active
    rw [dropped]
    refine ⟨done.run.tail (.departed _ d announces.travels (.inl done.empty)), ?_, done.phase, done.usbdev,
      fun d' listed' => ?_⟩
    · exact congrArg (List.erase · d) done.list
    · have member : d' ∈ s.sys.deviceList.erase d := by
        rw [← done.list]
        exact listed'
      have other := (sound.linked.registry.nodup.mem_erase_iff).mp member
      exact fun dead => alive d' other.2 ((done.state d' other.1).symm.trans dead)
  · next inactive =>
    have waiting : (s.sys.dev d).1.state = .init := by
      cases state : (s.sys.dev d).1.state with
      | init => rfl
      | active => exact absurd state inactive
      | dead => exact absurd state (alive d listed)
    have empty : (s.sys.dev d).1.connections = [] ∨ lax.early ∧ (s.sys.dev d).1.state = .init :=
      sound.strict.symm.imp (fun strict => strict.inert d listed waiting) fun early => ⟨early, waiting⟩
    rw [dropped]
    exact ⟨.single (.departed _ d announces.travels empty), rfl, rfl, fun _ => rfl,
      fun d' listed' => alive d' (List.mem_of_mem_erase listed')⟩

/-- `device_remove`. -/
theorem deviceRemove_steady (grants : Grants env lax) (announces : lax.Announces) (sound : Sound lax s.sys)
    (alive : Alive s.sys) (u : UsbPtr) : Steady lax none s.sys (deviceRemove env u s).sys := by
  rcases found : findDevice u s.mux with _ | d
  · simp only [deviceRemove, found]
    exact .refl _
  · have removed := deviceRemove_spec env grants announces sound alive found
    exact ⟨removed.run, fun _ => removed.alive⟩

/-- The removals of `usb_shutdown` leave no device: the USB devices that remain are those behind the
mux devices that remain. -/
theorem removeAll_spec (grants : Grants env lax) (announces : lax.Announces) (usbs : List UsbPtr)
    (sound : Sound lax s.sys)
    (alive : Alive s.sys) (covered : (s.sys.deviceList.map fun d => (s.sys.dev d).1.usbdev).Perm usbs) :
    let s' := usbs.foldl (fun s u => deviceRemove env u s) s
    SysRun lax none s.sys s'.sys ∧ s'.sys.deviceList = [] ∧ s'.sys.phase = s.sys.phase := by
  induction usbs generalizing s with
  | nil => exact ⟨.refl, List.map_eq_nil_iff.mp covered.eq_nil, rfl⟩
  | cons u rest ih =>
    have member : u ∈ s.sys.deviceList.map fun d => (s.sys.dev d).1.usbdev :=
      covered.mem_iff.mpr (List.mem_cons_self ..)
    obtain ⟨d₀, listed₀, behind₀⟩ := List.mem_map.mp member
    obtain ⟨d, found⟩ : ∃ d, findDevice u s.mux = some d := by
      rcases missing : findDevice u s.mux with _ | d
      · have absent := List.find?_eq_none.mp missing d₀ listed₀
        exact absurd (beq_iff_eq.mpr behind₀) absent
      · exact ⟨d, rfl⟩
    have listed : d ∈ s.sys.deviceList := List.mem_of_find?_eq_some found
    have behind : (s.mux.dev d).usbdev = u := by
      rw [findDevice] at found
      simpa using List.find?_some found
    have removed := deviceRemove_spec env grants announces sound alive found
    have fewer : ((deviceRemove env u s).sys.deviceList.map fun d => ((deviceRemove env u s).sys.dev d).1.usbdev).Perm
        rest := by
      rw [removed.list, funext removed.usbdev]
      have split := (List.perm_cons_erase listed).map fun d => (s.sys.dev d).1.usbdev
      rw [List.map_cons, show (s.sys.dev d).1.usbdev = u from behind] at split
      exact (split.symm.trans covered).cons_inv
    obtain ⟨run, empty, phase⟩ := ih (removed.run.sound sound) removed.alive fewer
    exact ⟨removed.run.trans run, empty, phase.trans removed.phase⟩

/-- `usb_shutdown` and `device_shutdown`. -/
theorem deviceShutdown_steady (grants : Grants env lax) (announces : lax.Announces) (sound : Sound lax s.sys)
    (alive : Alive s.sys) : Steady lax none s.sys (deviceShutdown env s).sys := by
  obtain ⟨run, empty, _⟩ := removeAll_spec env grants announces (s.mux.deviceList.map fun d => (s.mux.dev d).usbdev)
    sound alive
    (.refl _)
  simp only [deviceShutdown]
  set s₁ := (s.mux.deviceList.map fun d => (s.mux.dev d).usbdev).foldl (fun s u => deviceRemove env u s) s
  have skipped : forEach (fun s : Daemon => s.mux.deviceList) (shutdownDevice env) s₁ = s₁ := forEach_nil empty
  rw [skipped]
  refine ⟨run.tail (.proceed s₁.sys .closing (by simp) fun _ => empty), fun _ d listed => ?_⟩
  have listed : d ∈ s₁.sys.deviceList := listed
  simp [empty] at listed

/-- `device_kill_connections`. -/
theorem deviceKillConnections_steady (grants : Grants env lax) (sound : Sound lax s.sys) :
    Steady lax none s.sys (deviceKillConnections env s).sys := by
  have calm : Calm lax none s.sys (forEach (fun s => s.mux.deviceList)
      (fun d s => if (s.mux.dev d).state ≠ .init then teardownAll env d s else s) s).sys := by
    refine forEach_induct (motive := fun current : Daemon => Calm lax none s.sys current.sys) (.refl _) ?_
    intro d current calm listed
    split
    · exact calm.trans (teardownAll_calm env grants (calm.sound sound) listed).1
    · exact calm
  refine calm.steady.trans ⟨.single (.proceed _ .draining (by simp) (by simp)), fun alive => alive⟩

/-- `device_check_timeouts`. -/
theorem deviceCheckTimeouts_calm (grants : Grants env lax) (sound : Sound lax s.sys) :
    Calm lax none s.sys (deviceCheckTimeouts env s).sys := by
  have start : Calm lax none s.sys (s.setMux s.mux.bump).sys := by
    rw [sys_bump, setMux_mux]
    exact .refl _
  refine forEach_induct (motive := fun current : Daemon => Calm lax none s.sys current.sys) start ?_
  intro d outer calm listed
  split
  swap
  · exact calm
  next active =>
  refine calm.trans ?_
  have sound' := calm.sound sound
  refine forEach_induct (motive := fun current : Daemon => Calm lax none outer.sys current.sys) (.refl _) ?_
  intro c inner calm' member
  split
  swap
  · exact calm'
  next due =>
  refine calm'.trans ?_
  obtain ⟨m, record, due⟩ := (Option.any_eq_true ..).mp due
  have opened : m.state = .connected := by
    simp only [MuxConnection.ackDue, Bool.and_eq_true, decide_eq_true_eq] at due
    exact due.1.1
  have holds : inner.sys.Holds d c := ⟨calm'.list ▸ listed, member⟩
  obtain ⟨log, present⟩ : ∃ log, inner.sys.conn c = (some m, log) := ⟨_, Prod.ext record rfl⟩
  obtain ⟨rfl, ⟨_, _, _, attempting⟩ | carrying⟩ := (calm'.sound sound').attempting_or_carrying holds present
  · simp [attempting.waiting] at opened
  · have ready : (inner.sys.dev m.dev).1.state = .active := (calm'.identity m.dev).state.trans active
    exact sendTcpAck_calm env grants carrying (.inl ready) (working_self present) .refl rfl rfl opened

/-- Without devices `client_close` only touches clients. -/
theorem clientClose_without_devices (k : ClientPtr) (empty : s.mux.deviceList = []) :
    (clientClose env k s).mux = s.mux ∧ (clientClose env k s).phase = s.phase := by
  have lookup (deviceId : ℕ) : getMuxDeviceForId deviceId s.mux = none := by simp [getMuxDeviceForId, empty]
  have aborted (deviceId : ℕ) (x : Clients) : deviceAbortConnect env deviceId k (s.setClients x) = s.setClients x := by
    simp only [deviceAbortConnect, touchNamed, getMuxConnection, Daemon.setMux, Daemon.setClients, lookup,
      Option.bind_none]
  simp only [clientClose]
  split
  · split
    · exact ⟨rfl, rfl⟩
    · split
      · rw [aborted]
        exact ⟨rfl, rfl⟩
      · exact ⟨rfl, rfl⟩
  · exact ⟨rfl, rfl⟩

/-- `client_shutdown`, which `main` calls when the devices are gone. -/
theorem clientShutdown_steady (sound : Sound lax s.sys) (ends : lax.ends) (closing : s.phase = .closing) :
    Steady lax none s.sys (clientShutdown env s).sys := by
  have empty : s.sys.deviceList = [] := sound.linked.registry.ended (.inl closing)
  have closed : SysRun lax none s.sys (forEach (fun s => s.clients.clientList) (clientClose env) s).sys ∧
      (forEach (fun s => s.clients.clientList) (clientClose env) s).mux = s.mux := by
    refine forEach_induct (motive := fun current : Daemon => SysRun lax none s.sys current.sys ∧ current.mux = s.mux)
      ⟨.refl, rfl⟩ ?_
    intro k current ⟨run, mux⟩ listed
    have sound' := run.sound sound
    have nothing : current.mux.deviceList = [] := by
      rw [mux]
      exact empty
    obtain ⟨client, known⟩ := Option.isSome_iff_exists.mp ((sound'.linked.roster.listed k).mp listed)
    refine ⟨run.trans (clientClose_quiet env sound' (.inr ends) known ?_).run,
      (clientClose_without_devices env k nothing).1.trans mux⟩
    intro _ _ d c holding
    have listed : d ∈ current.mux.deviceList := holding.1
    simp [nothing] at listed
  set s₁ := forEach (fun s : Daemon => s.clients.clientList) (clientClose env) s
  have still : s₁.sys.deviceList = [] := (congrArg Mux.deviceList closed.2).trans empty
  refine ⟨closed.1.tail (.proceed s₁.sys .stopped (by simp) fun _ => still), fun _ d listed => ?_⟩
  have listed : d ∈ s₁.sys.deviceList := listed
  simp [still] at listed

end Loops

end Usbmuxd
