import Usbmuxd.Model.Threads
import Usbmuxd.Proofs.Listening

/-! # The ledger across one event

A version reply, a removal and an announcement by a worker keep the ledger, and so do the steps of
`start_listen`. A device may only be removed when it is shown or was never active, and a worker may only
announce a device that is still there.
-/

namespace Usbmuxd

open Presence Collection

variable {env : Env} {owed : ClientPtr → Set ℕ} {s : Daemon} {d : DevPtr}

theorem Registry.getMuxDeviceForId_id (registry : Registry s.sys) (listed : d ∈ s.mux.deviceList) :
    getMuxDeviceForId (s.mux.dev d).id s.mux = some d := by
  rcases found : getMuxDeviceForId (s.mux.dev d).id s.mux with _ | d'
  · have absent := List.find?_eq_none.mp found d listed
    simp at absent
  · obtain ⟨listed', id⟩ := getMuxDeviceForId_mem found
    rw [registry.ids d' listed' d listed id]

private theorem notify_noted (memory : ∀ n, (env.sock n).alloc = true) (sound : Sound anything s.sys) {note : Note ℕ}
    {msg : MsgType}
    {plist : Plist} {payload : Bytes} (conveys : Conveys env note msg plist payload) (k : ClientPtr) :
    Noted env note (s.sys.client k)
      ((s.setClients (notifyListeners (sendDeviceEvent env msg plist payload) s.clients)).sys.client k) :=
  notifyListeners_noted sound.linked.roster.nodup sound.linked.roster.listed sound.linked.roster.output
    (fun _ _ _ present buffer => sendDeviceEvent_mailed memory conveys present buffer) k

/-- A device becomes visible and the listeners are told. -/
structure Announced (env : Env) (d : DevPtr) (s s' : Daemon) : Prop extends Alters d s.sys s'.sys where
  visible : (s'.mux.dev d).visible = true
  noted : ∀ k, Noted env (.attached (s.mux.dev d).id) (s.sys.client k) (s'.sys.client k)
  workers : s'.workers = s.workers

/-- `client_device_add` for an active device. -/
theorem clientDeviceAdd_announced (faithful : Faithful env) (memory : ∀ n, (env.sock n).alloc = true)
    (sound : Sound anything s.sys) (listed : d ∈ s.mux.deviceList) (active : (s.mux.dev d).state = .active)
    {info : DeviceInfo} (id : info.id = (s.mux.dev d).id) (small : info.id < 2 ^ 32) :
    Announced env d s (clientDeviceAdd env info s) := by
  set s₁ := s.setMux (s.mux.setDev d { s.mux.dev d with visible := true })
  have found : s.setMux (deviceSetVisible info.id s.mux) = s₁ := by
    rw [deviceSetVisible, id, sound.linked.registry.getMuxDeviceForId_id listed]
  have shows : Calm anything none s.sys s₁.sys :=
    bookkeep_calm none listed ⟨rfl, rfl, rfl, rfl, rfl, rfl, rfl, rfl, fun _ => rfl⟩ rfl (.inr trivial)
  have announced : clientDeviceAdd env info s = s₁.setClients
    (notifyListeners (sendDeviceAdd env info) s₁.clients) := by
    rw [clientDeviceAdd, found]
  have own : s₁.mux.dev d = { s.mux.dev d with visible := true } := Function.update_self ..
  have named : (s₁.mux.dev d).id = (s.mux.dev d).id := by rw [own]
  have running : (s₁.mux.dev d).state = .active := by rw [own]; exact active
  have visible : (s₁.mux.dev d).visible = true := by rw [own]
  rw [announced]
  refine ⟨⟨rfl, rfl, named, running, fun d' other => Function.update_of_ne other ..⟩, visible, fun k => ?_, rfl⟩
  rw [← id]
  exact notify_noted memory (shows.sound sound) (conveys_attached faithful small) k

/-- A device that was not shown and has no other worker is announced. -/
theorem Announced.ledger {s' : Daemon} (announced : Announced env d s s') (registry : Registry s.sys)
    (listed : d ∈ s.mux.deviceList) (hidden : (s.mux.dev d).visible = false) (free : ∀ k, (s.mux.dev d).id ∉ owed k)
    (done : (s.mux.dev d).id ∉ s.workers.map DeviceInfo.id) (ledger : Ledger env owed s) : Ledger env owed s' := by
  have unknown : (s.mux.dev d).id ∉ s.sys.shown := fun member => by
    have visible : (s.mux.dev d).visible = true := ((registry.mem_shown listed).mp member).2
    simp [hidden] at visible
  refine ledger.alters announced.toAlters announced.workers done ?_
  rw [announced.live_eq, announced.shown_insert listed announced.visible]
  exact ledger.briefed.attach announced.noted (.inr ⟨d, listed, rfl⟩) unknown free

section Announcing

variable (faithful : Faithful env) (memory : ∀ n, (env.sock n).alloc = true) (sound : Sound anything s.sys)
  (ledger : Ledger env owed s) (listed : d ∈ s.mux.deviceList)
include faithful memory sound ledger listed

/-- `preflight_worker_device_add` for a device that has just become active. -/
private theorem preflightWorkerDeviceAdd_ledger (active : (s.mux.dev d).state = .active)
    (hidden : (s.mux.dev d).visible = false)
    {info : DeviceInfo} (id : info.id = (s.mux.dev d).id) (small : info.id < 2 ^ 32)
    (free : ∀ k, (s.mux.dev d).id ∉ owed k)
    (done : (s.mux.dev d).id ∉ s.workers.map DeviceInfo.id) :
    Ledger env owed (preflightWorkerDeviceAdd env info s) := by
  have registry := sound.linked.registry
  have ticked : Ledger env owed (s.setClients s.clients.bump) :=
    ⟨ledger.briefed, ledger.hidden, ledger.staffed, ledger.single⟩
  simp only [preflightWorkerDeviceAdd]
  split
  · exact (clientDeviceAdd_announced faithful memory sound listed active id small).ledger registry listed hidden free
      done ledger
  split
  swap
  · exact (clientDeviceAdd_announced (s := s.setClients s.clients.bump)
      faithful memory sound listed active id small).ledger
      registry listed hidden free done ticked
  refine ⟨ledger.briefed, ledger.hidden, fun info' member => ?_, ?_⟩
  · rcases List.mem_append.mp member with before | new
    · exact ledger.staffed info' before
    · rw [List.mem_singleton.mp new, id]
      refine ⟨registry.numbered d listed, fun d' listed' same => ?_⟩
      rw [registry.ids d' listed' d listed same]
      exact ⟨active, hidden⟩
  · change ((s.workers ++ [info]).map DeviceInfo.id).Nodup
    rw [List.map_append, List.nodup_append]
    refine ⟨ledger.single, List.nodup_singleton _, fun i member j last => ?_⟩
    rintro rfl
    rw [List.map_singleton, List.mem_singleton] at last
    exact done (id ▸ last ▸ member)

end Announcing

variable (env) in
theorem greet_alters {major : UInt32} (supported : ¬(major ≠ 2 ∧ major ≠ 1)) :
    Alters d s.sys (s.greet env d major).sys ∧ ((s.greet env d major).mux.dev d).visible = (s.mux.dev d).visible := by
  obtain ⟨events, faults, shape, _, _⟩ := greet_sys env (s := s) (d := d) supported
  have face := (s.sys.dev d).1.greeted_face major
  have own : ((s.greet env d major).sys.dev d).1 = (s.sys.dev d).1.greeted major := by simp [shape, Sys.setDev]
  refine ⟨⟨by rw [shape]; rfl, by rw [shape]; rfl, by rw [own, face.1], by rw [own]; rfl, fun d' other => ?_⟩,
    (congrArg MuxDevice.visible own).trans face.2⟩
  simp [shape, Sys.setDev, other]

variable (env) in
private theorem greet_ledger (ledger : Ledger env owed s) (listed : d ∈ s.mux.deviceList)
    (waiting : (s.mux.dev d).state = .init)
    {major : UInt32} (supported : ¬(major ≠ 2 ∧ major ≠ 1)) : Ledger env owed (s.greet env d major) := by
  obtain ⟨alters, visible⟩ := greet_alters env (s := s) (d := d) supported
  have unseen : (s.mux.dev d).visible = false := ledger.hidden d listed waiting
  refine ledger.alters alters rfl (ledger.unstaffed listed waiting) ?_
  rw [alters.live_eq, alters.shown_eq unseen (visible.trans unseen)]
  exact ledger.briefed

theorem erase_leaves (registry : Registry s.sys) (d : DevPtr) :
    Leaves d s.sys (s.setMux { s.mux with deviceList := s.mux.deviceList.erase d }).sys where
  kept _ listed' other := (List.mem_erase_of_ne other).mpr listed'
  only _ listed' := ⟨List.mem_of_mem_erase listed', (registry.nodup.mem_erase_iff.mp listed').1, .refl _⟩
  next := Nat.le_refl _

private theorem erase_ledger (ledger : Ledger env owed s) (registry : Registry s.sys) (listed : d ∈ s.mux.deviceList)
    (waiting : (s.mux.dev d).state = .init) :
    Ledger env owed (s.setMux { s.mux with deviceList := s.mux.deviceList.erase d }) := by
  have unseen : (s.mux.dev d).id ∉ s.sys.shown := fun member => by
    have active : (s.mux.dev d).state = .active := ((registry.mem_shown listed).mp member).1
    simp [waiting] at active
  refine ledger.leaves (erase_leaves registry d) registry listed rfl ?_
  rw [Set.sdiff_singleton_eq_self unseen]
  refine ledger.briefed.forget Set.sdiff_subset fun i member => ⟨s.sys.shown_subset_live member, fun same => unseen ?_⟩
  exact same ▸ member

/-- `device_version_input`. -/
theorem deviceVersionInput_ledger (faithful : Faithful env) (memory : ∀ n, (env.sock n).alloc = true)
    (sound : Sound anything s.sys) (ledger : Ledger env owed s) (listed : d ∈ s.mux.deviceList)
    (small : s.mux.nextDeviceId ≤ 2 ^ 32) (free : ∀ k, (s.mux.dev d).id ∉ owed k) (vh : Bytes) :
    Ledger env owed (deviceVersionInput env d vh s) := by
  by_cases waiting : (s.mux.dev d).state = .init
  swap
  · rw [deviceVersionInput, if_pos waiting]
    exact ledger
  by_cases unsupported : be32At vh 0 ≠ 2 ∧ be32At vh 0 ≠ 1
  · rw [deviceVersionInput, if_neg (not_not.mpr waiting), if_pos unsupported]
    exact erase_ledger ledger sound.linked.registry listed waiting
  rw [deviceVersionInput_greet env waiting unsupported]
  have greeted : Steady anything none s.sys (s.greet env d (be32At vh 0)).sys :=
    greet_steady env trivial sound listed waiting unsupported
  have ledger₁ := greet_ledger env ledger listed waiting unsupported
  obtain ⟨alters, visible⟩ := greet_alters env (s := s) (d := d) unsupported
  set s₁ := s.greet env d (be32At vh 0)
  have listed₁ : d ∈ s₁.mux.deviceList := by
    have list : s₁.mux.deviceList = s.mux.deviceList := alters.list
    exact list ▸ listed
  have named : (deviceInfo env (s₁.mux.dev d)).id = (s.mux.dev d).id := alters.id
  have below : (s.mux.dev d).id < s.mux.nextDeviceId := sound.linked.registry.numbered d listed
  refine preflightWorkerDeviceAdd_ledger faithful memory (greeted.sound sound) ledger₁ listed₁ alters.active
    (visible.trans (ledger.hidden d listed waiting)) rfl ?_ (fun k => ?_) ?_
  · omega
  · exact fun member => free k (named ▸ member)
  · exact fun member => ledger.unstaffed listed waiting (named ▸ member)

section Removal

variable (sound : Sound anything s.sys)
include sound

variable (env) in
/-- The teardown of its connections leaves a retired device and the others alone. -/
private theorem teardownAll_hushed (listed : d ∈ s.mux.deviceList) (active : (s.mux.dev d).state = .active) :
    Calm (hushed env) none (s.retire d).sys (teardownAll env d (s.retire d)).sys ∧ Sound anything (s.retire d).sys := by
  have retired : Sound anything (s.retire d).sys := (retire_run announces_anything listed active).sound sound
  exact ⟨(teardownAll_calm env (grants_hushed env) (sound_hushed.mpr retired) (s := s.retire d) listed).1, retired⟩

variable (env) in
private theorem deactivate_leaves (listed : d ∈ s.mux.deviceList) (active : (s.mux.dev d).state = .active) :
    let s' := deactivate env d s
    Leaves d s.sys (s'.setMux { s'.mux with deviceList := s'.mux.deviceList.erase d }).sys := by
  obtain ⟨calm, sound₁⟩ := teardownAll_hushed env sound listed active
  set s₁ := s.retire d
  set s₂ := teardownAll env d s₁
  have unmoved : Unmoved s₁.sys s₂.sys := calm.run.unmoved (sound_hushed.mpr sound₁)
  have retired {d' : DevPtr} (other : d' ≠ d) : s₁.mux.dev d' = s.mux.dev d' := Function.update_of_ne other ..
  have list : s₂.mux.deviceList = s.mux.deviceList := calm.list
  intro s'
  refine ⟨fun d' listed' other => ?_, fun d' listed' => ?_, unmoved.next⟩
  · exact (List.mem_erase_of_ne other).mpr (list ▸ listed')
  · have member : d' ∈ s₂.mux.deviceList.erase d := listed'
    rw [list] at member
    obtain ⟨other, before⟩ := sound.linked.registry.nodup.mem_erase_iff.mp member
    have same : s'.mux.dev d' = s₂.mux.dev d' := Function.update_of_ne other ..
    have face : (s₁.mux.dev d').SameFace (s₂.mux.dev d') := (unmoved.kept d' before).2
    rw [retired other, ← same] at face
    exact ⟨before, other, face⟩

private theorem deactivate_ledger (faithful : Faithful env) (memory : ∀ n, (env.sock n).alloc = true)
    (ledger : Ledger env owed s) (listed : d ∈ s.mux.deviceList) (active : (s.mux.dev d).state = .active)
    (visible : (s.mux.dev d).visible = true) (small : s.mux.nextDeviceId ≤ 2 ^ 32)
    (free : ∀ k, (s.mux.dev d).id ∉ owed k) :
    let s' := deactivate env d s
    Ledger env owed (s'.setMux { s'.mux with deviceList := s'.mux.deviceList.erase d }) := by
  have registry := sound.linked.registry
  have leaves := deactivate_leaves env sound listed active
  obtain ⟨calm, sound₁⟩ := teardownAll_hushed env sound listed active
  set s₁ := s.retire d
  set s₂ := teardownAll env d s₁
  have sound₂ : Sound anything s₂.sys := sound_hushed.mp (calm.sound (sound_hushed.mpr sound₁))
  have unmoved : Unmoved s₁.sys s₂.sys := calm.run.unmoved (sound_hushed.mpr sound₁)
  have briefed : Briefed env s.sys.live s.sys.shown owed s₂.sys :=
    calm.run.briefed (S := s₁.sys) faithful (sound_hushed.mpr sound₁) ledger.briefed
  have named : (s₂.mux.dev d).id = (s.mux.dev d).id := by
    have own : s₁.mux.dev d = { s.mux.dev d with state := .dead } := Function.update_self ..
    have kept : (s₂.mux.dev d).id = (s₁.mux.dev d).id := (unmoved.kept d listed).2.id
    rw [kept, own]
  have below : (s.mux.dev d).id < s.mux.nextDeviceId := registry.numbered d listed
  have noted (k : ClientPtr) : Noted env (.detached (s.mux.dev d).id) (s₂.sys.client k)
      ((s₂.setClients (clientDeviceRemove env (s₂.mux.dev d).id s₂.clients)).sys.client k) := by
    rw [named]
    exact notify_noted memory sound₂ (conveys_detached faithful (by omega)) k
  refine ledger.leaves leaves registry listed (teardownAll_obeys (s := s₁) env d).workers ?_
  exact briefed.detach noted ((registry.mem_shown listed).mpr ⟨active, visible⟩) free

variable (env) in
/-- `device_remove` takes one device out of the list. -/
theorem deviceRemove_leaves {u : UsbPtr} (found : findDevice u s.mux = some d) :
    Leaves d s.sys (deviceRemove env u s).sys := by
  have listed : d ∈ s.mux.deviceList := List.mem_of_find?_eq_some found
  simp only [deviceRemove, found]
  split
  · next active => exact deactivate_leaves env sound listed active
  · exact erase_leaves sound.linked.registry d

variable (alive : Alive s.sys)
include alive

/-- `device_remove`, for a device that is shown if it is active. -/
theorem deviceRemove_ledger (faithful : Faithful env) (memory : ∀ n, (env.sock n).alloc = true)
    (ledger : Ledger env (fun _ => ∅) s) (small : s.mux.nextDeviceId ≤ 2 ^ 32) {u : UsbPtr}
    (visible : ∀ d ∈ findDevice u s.mux, (s.mux.dev d).state = .active → (s.mux.dev d).visible = true) :
    Ledger env (fun _ => ∅) (deviceRemove env u s) := by
  simp only [deviceRemove]
  split
  · exact ledger
  next d found =>
  have listed : d ∈ s.mux.deviceList := List.mem_of_find?_eq_some found
  split
  · next active =>
    exact deactivate_ledger sound faithful memory ledger listed active (visible d found active) small fun _ => id
  · next inactive =>
    refine erase_ledger ledger sound.linked.registry listed ?_
    cases state : (s.mux.dev d).state with
    | init => rfl
    | active => exact absurd state inactive
    | dead => exact absurd state (alive d listed)

end Removal

/-- Every active device is shown. -/
def Daemon.allVisible (s : Daemon) : Bool :=
  s.mux.deviceList.all fun d => (s.mux.dev d).state ≠ .active || (s.mux.dev d).visible

theorem Daemon.allVisible_iff : s.allVisible ↔
    ∀ d ∈ s.mux.deviceList, (s.mux.dev d).state = .active → (s.mux.dev d).visible = true := by
  simp [Daemon.allVisible, imp_iff_not_or]

theorem Leaves.allVisible {s' : Daemon} (leaves : Leaves d s.sys s'.sys) (visible : s.allVisible) : s'.allVisible := by
  rw [Daemon.allVisible_iff] at visible ⊢
  intro d' listed' active
  obtain ⟨before, _, face⟩ := leaves.only d' listed'
  exact face.visible.trans (visible d' before (face.state.symm.trans active))

private theorem removeAll_ledger (faithful : Faithful env) (memory : ∀ n, (env.sock n).alloc = true)
    (usbs : List UsbPtr)
    (sound : Sound anything s.sys) (alive : Alive s.sys) (ledger : Ledger env (fun _ => ∅) s)
    (small : s.mux.nextDeviceId ≤ 2 ^ 32) (visible : s.allVisible) :
    Ledger env (fun _ => ∅) (usbs.foldl (fun s u => deviceRemove env u s) s) := by
  induction usbs generalizing s with
  | nil => exact ledger
  | cons u rest ih =>
    rw [List.foldl_cons]
    rcases found : findDevice u s.mux with _ | d
    · have same : deviceRemove env u s = s := by simp only [deviceRemove, found]
      rw [same]
      exact ih sound alive ledger small visible
    have leaves := deviceRemove_leaves env sound found
    have steady : Steady stationary none s.sys (deviceRemove env u s).sys :=
      deviceRemove_steady env (grants_stationary env) announces_stationary (sound_stationary.mpr sound) alive u
    have next : (deviceRemove env u s).mux.nextDeviceId = s.mux.nextDeviceId :=
      (steady.run.stationary (sound_stationary.mpr sound)).2
    refine ih (sound_stationary.mp (steady.sound (sound_stationary.mpr sound))) (steady.alive alive) ?_ (next ▸ small)
      (leaves.allVisible visible)
    refine deviceRemove_ledger sound alive faithful memory ledger small fun d' named => ?_
    exact Daemon.allVisible_iff.mp visible d' (List.mem_of_find?_eq_some named)

/-- `usb_shutdown` and `device_shutdown`. -/
theorem deviceShutdown_ledger (faithful : Faithful env) (memory : ∀ n, (env.sock n).alloc = true)
    (sound : Sound anything s.sys) (alive : Alive s.sys) (ledger : Ledger env (fun _ => ∅) s)
    (small : s.mux.nextDeviceId ≤ 2 ^ 32) (visible : s.allVisible) :
    Ledger env (fun _ => ∅) (deviceShutdown env s) := by
  obtain ⟨_, empty, _⟩ := removeAll_spec env (grants_anything env) announces_anything
    (s.mux.deviceList.map fun d => (s.mux.dev d).usbdev) sound alive (.refl _)
  have removed := removeAll_ledger faithful memory (s.mux.deviceList.map fun d => (s.mux.dev d).usbdev) sound alive
    ledger
    small visible
  simp only [deviceShutdown]
  set s₁ := (s.mux.deviceList.map fun d => (s.mux.dev d).usbdev).foldl (fun s u => deviceRemove env u s) s
  have skipped : forEach (fun s : Daemon => s.mux.deviceList) (shutdownDevice env) s₁ = s₁ := forEach_nil empty
  rw [skipped]
  exact ⟨removed.briefed, removed.hidden, removed.staffed, removed.single⟩

end Usbmuxd
