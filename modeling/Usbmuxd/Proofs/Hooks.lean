import Usbmuxd.Model.Threads
import Usbmuxd.Proofs.ResetEvents

/-! # The callback data of devices

The worker of a device leaves a pointer in `preflight_cb_data`. The main thread follows it when the
device is removed, and never stores to the field except for a record that `device_add` has just
allocated.
-/

namespace Usbmuxd

open Collection

/-- The callback data of a device. -/
def Mux.hook (s : Mux) (d : DevPtr) : Option ℕ := (s.dev d).preflightCbData

/-- A record of a device is stored with other callback data. -/
theorem setDev_hook (s : Mux) (d : DevPtr) (dev : MuxDevice) :
    (s.setDev d dev).hook = Function.update s.hook d dev.preflightCbData :=
  funext (Function.apply_update (fun _ => MuxDevice.preflightCbData) s.dev d dev)

private theorem setDev_hook_same {s : Mux} {d : DevPtr} {dev : MuxDevice} (same : dev.preflightCbData = s.hook d) :
    (s.setDev d dev).hook = s.hook := by
  rw [setDev_hook, same, Function.update_eq_self]

/-- The devices and their callback data. -/
structure Mux.SameDevices (s s' : Mux) : Prop where
  deviceList : s'.deviceList = s.deviceList
  hook : s'.hook = s.hook

namespace Mux.SameDevices

variable {s s' s'' : Mux}

private theorem refl (s : Mux) : s.SameDevices s := ⟨rfl, rfl⟩

private theorem trans (first : s.SameDevices s') (second : s'.SameDevices s'') : s.SameDevices s'' :=
  ⟨second.deviceList.trans first.deviceList, second.hook.trans first.hook⟩

private theorem setDev {d : DevPtr} {dev : MuxDevice} (same : dev.preflightCbData = s.hook d) :
    s.SameDevices (s.setDev d dev) :=
  ⟨rfl, setDev_hook_same same⟩

private theorem unlink (s : Mux) (c : ConnPtr) (d : DevPtr) : s.SameDevices (s.unlink c d) :=
  ⟨rfl, setDev_hook_same (s := s.freeConn c) (d := d) (by rfl)⟩

private theorem sendPacket (env : Env) (d : DevPtr) (proto : MuxProtocol) (header data : Bytes) (s : Mux) :
    s.SameDevices (sendPacket env d proto header data s).2 := by
  obtain ⟨_, _, _, _, _, _, state, -⟩ := sendPacket_state env d proto header data s
  rw [state]
  exact ⟨rfl, setDev_hook_same (s := s) (d := d) (by rfl)⟩

end Mux.SameDevices

private theorem Deeds.sameDevices {env : Env} {reach : Reach} {s s' : Daemon} (deeds : Deeds env reach s s') :
    s.mux.SameDevices s'.mux := by
  have stepwise : Stepwise env reach fun x => s.mux.SameDevices x.mux :=
    { unseen := fun _ _ _ _ same => same.trans ⟨rfl, rfl⟩
      stored := fun _ _ _ same => same.trans ⟨rfl, rfl⟩
      noted := fun _ same => same.trans ⟨rfl, rfl⟩
      packet := fun d proto header data same => same.trans (.sendPacket env d proto header data _)
      handed := fun _ _ _ _ same => same.trans ⟨rfl, rfl⟩
      served := fun _ same => same
      unlinked := fun d _ same => same.trans (.unlink _ _ d)
      opened := fun _ _ _ same => same.trans ⟨rfl, rfl⟩
      discarded := fun _ _ same => same.trans ⟨rfl, rfl⟩
      device := fun _ ties same => same.trans (.setDev ties.hook)
      logged := fun _ _ same => same.trans ⟨rfl, rfl⟩ }
  exact deeds.preserve stepwise (.refl _)

private theorem Does.sameDevices {env : Env} {s s' : Daemon} (does : Does env .all s s') : s.mux.SameDevices s'.mux :=
  (does (Reach.all_wide.within _)).sameDevices

variable (env : Env) (s : Daemon)

private theorem deviceAdd_hook (u : UsbPtr) (s : Mux) :
    (deviceAdd env u s).2.hook = Function.update s.hook s.nextDev none := by
  set filled := { (getNextDeviceId s).2.setDev s.nextDev (newDevice u (getNextDeviceId s).1) with
    nextDev := s.nextDev + 1 }
  have sent : (sendPacket env s.nextDev .version versionRequest [] filled).2.hook = filled.hook :=
    (Mux.SameDevices.sendPacket ..).hook
  have stored : (deviceAdd env u s).2.hook = filled.hook := by
    simp only [deviceAdd]
    split <;> exact sent
  exact stored.trans (setDev_hook ..)

private theorem deviceAdd_list (u : UsbPtr) (s : Mux) : s.deviceList ⊆ (deviceAdd env u s).2.deviceList := by
  simp only [deviceAdd]
  split
  · rw [(Mux.SameDevices.sendPacket ..).deviceList]
    exact List.Subset.refl _
  · intro d listed
    refine (mem_add ..).mpr (.inr ?_)
    rw [(Mux.SameDevices.sendPacket ..).deviceList]
    exact listed

/-- Nothing is stored in the field, and devices leave the list only while they are in their handshake. -/
structure Loyal (s s' : Mux) : Prop where
  hook : s'.hook = s.hook
  kept : ∀ d ∈ s.deviceList, (s.dev d).state ≠ .init → d ∈ s'.deviceList

private theorem Mux.SameDevices.loyal {s s' : Mux} (same : s.SameDevices s') : Loyal s s' :=
  ⟨same.hook, fun d listed _ => by rwa [same.deviceList]⟩

private theorem Taken.sameDevices {s s₁ : Daemon} {d : DevPtr} (taken : Taken s d s₁) : s.mux.SameDevices s₁.mux := by
  have noted (rxSeq : Option UInt16) (pktbuf packet : Bytes) (seen : UInt16) :
      s.mux.SameDevices (s.taking d rxSeq pktbuf packet seen).mux :=
    (Mux.SameDevices.setDev (s := s.mux) (d := d) (by rfl)).trans ⟨rfl, rfl⟩
  cases taken with
  | packet => exact noted ..
  | @segment rxSeq pktbuf seen _ length buffer _ _ held tcp _ found _ arrival =>
    refine (noted rxSeq pktbuf (buffer.take length) seen).trans ?_
    cases arrival <;> exact ⟨rfl, rfl⟩

private theorem deviceDataInput_loyal (u : UsbPtr) (t : Transfer) : Loyal s.mux (deviceDataInput env u t s).mux := by
  have reacts {s₁ : Daemon} {d : DevPtr} (same : s.mux.SameDevices s₁.mux)
      (state : (s₁.mux.dev d).state = (s.mux.dev d).state)
      (reacts : s₁.Reacts env .all d (deviceDataInput env u t s)) : Loyal s.mux (deviceDataInput env u t s).mux := by
    obtain ⟨x, list, workers, does, result, listing⟩ := reacts
    have same := same.trans does.sameDevices
    rw [result]
    rcases listing with rfl | ⟨waiting, rfl⟩
    · exact same.loyal
    · refine ⟨same.hook, fun d' listed known => (List.mem_erase_of_ne ?_).mpr (same.deviceList ▸ listed)⟩
      rintro rfl
      exact known (state ▸ waiting)
  rcases @deviceDataInput_reacts env .all s Reach.all_wide u t with ⟨d, idle⟩ | ⟨d, s₁, -, taken, busy, state⟩
  · exact reacts (.refl _) rfl idle
  · exact reacts taken.sameDevices state busy

private theorem deactivate_sameDevices (d : DevPtr) : s.mux.SameDevices (deactivate env d s).mux := by
  have retired : s.mux.SameDevices (s.retire d).mux :=
    (Mux.SameDevices.setDev (s := s.mux) (d := d) (by rfl)).trans ⟨rfl, rfl⟩
  have torn := (teardownAll_does (s := s.retire d) env Reach.all_wide.conns d).sameDevices
  exact (retired.trans torn).trans (.setDev rfl)

theorem deviceRemove_hook (u : UsbPtr) : (deviceRemove env u s).mux.hook = s.mux.hook := by
  simp only [deviceRemove]
  split
  · rfl
  · split
    · exact (deactivate_sameDevices env s _).hook
    · rfl

/-- The device that is found is taken from the list. -/
theorem deviceRemove_list (u : UsbPtr) : (deviceRemove env u s).mux.deviceList =
    ((findDevice u s.mux).map s.mux.deviceList.erase).getD s.mux.deviceList := by
  simp only [deviceRemove]
  split
  · next absent => rw [absent]; rfl
  · next d found =>
    rw [found]
    split
    · exact congrArg (List.erase · d) (deactivate_sameDevices env s d).deviceList
    · rfl

private theorem deviceShutdown_hook : (deviceShutdown env s).mux.hook = s.mux.hook := by
  have removed (usbs : List UsbPtr) (current : Daemon) :
      (usbs.foldl (fun s u => deviceRemove env u s) current).mux.hook = current.mux.hook := by
    induction usbs generalizing current with
    | nil => rfl
    | cons u rest ih => rw [List.foldl_cons, ih, deviceRemove_hook]
  refine (forEach_induct (motive := fun final : Daemon => final.mux.hook = _) rfl fun d inner kept _ => ?_).trans
    (removed _ s)
  have torn := ((touchConnections_does (s := inner) env d).trans
    (teardownAll_does env Reach.all_wide.conns d)).sameDevices
  set final := (teardownAll env d (inner.setMux (inner.mux.touchConnections d))).mux
  have emptied : (final.setDev d { final.dev d with connections := [] }).hook = final.hook := setDev_hook_same rfl
  exact (emptied.trans torn.hook).trans kept

private theorem clientProcess_sameDevices (fd : ℤ) (events : PollMask) :
    s.mux.SameDevices (clientProcess env fd events s).mux :=
  (clientProcess_does env Reach.all_wide fd events fun _ _ _ _ _ _ _ _ _ _ => trivial).sameDevices

private theorem deviceKillConnections_sameDevices : s.mux.SameDevices (deviceKillConnections env s).mux := by
  obtain ⟨x, does, killed⟩ := @deviceKillConnections_does env .all Reach.all_wide.conns s
  exact killed ▸ does.sameDevices

private theorem clientShutdown_sameDevices : s.mux.SameDevices (clientShutdown env s).mux := by
  obtain ⟨x, does, closed⟩ := @clientShutdown_does env .all Reach.all_wide s
  exact closed ▸ does.sameDevices

/-- The announcement of a device by its worker. -/
theorem workerDeviceAdd_sameDevices (info : DeviceInfo) :
    s.mux.SameDevices (clientDeviceAdd env info { s with workers := s.workers.erase info }).mux :=
  (clientDeviceAdd_does (s := { s with workers := s.workers.erase info }) env Reach.all_wide info).sameDevices

/-- The main thread only stores callback data in a new record. -/
theorem step_hook {event : Event} (own : event.byWorker = false) :
    (step env s event).mux.hook = s.mux.hook ∨
      (step env s event).mux.hook = Function.update s.mux.hook s.mux.nextDev none := by
  simp only [step]
  split
  swap
  · exact .inl rfl
  cases event with
  | accept => exact .inl rfl
  | clientProcess fd events => exact .inl (clientProcess_sameDevices ..).hook
  | deviceAdd u => exact .inr (deviceAdd_hook ..)
  | dataInput u t => exact .inl (deviceDataInput_loyal ..).hook
  | deviceRemove u => exact .inl (deviceRemove_hook ..)
  | checkTimeouts => exact .inl (deviceCheckTimeouts_does env Reach.all_wide.conns).sameDevices.hook
  | workerDeviceAdd info => cases own
  | workerCbData deviceId data => cases own
  | killConnections => exact .inl (deviceKillConnections_sameDevices ..).hook
  | deviceShutdown => exact .inl (deviceShutdown_hook ..)
  | clientShutdown => exact .inl (clientShutdown_sameDevices ..).hook

/-- A device that has completed its handshake leaves the list only when USB removes it. -/
theorem step_list {event : Event} (stays : (∀ u, event ≠ .deviceRemove u) ∧ event ≠ .deviceShutdown) {d : DevPtr}
    (listed : d ∈ s.mux.deviceList) (known : (s.mux.dev d).state ≠ .init) : d ∈ (step env s event).mux.deviceList := by
  have same {s' : Mux} (same : s.mux.SameDevices s') : d ∈ s'.deviceList := same.loyal.kept d listed known
  simp only [step]
  split
  swap
  · exact listed
  cases event with
  | accept => exact listed
  | clientProcess fd events => exact same (clientProcess_sameDevices ..)
  | deviceAdd u => exact deviceAdd_list env u s.mux listed
  | dataInput u t => exact (deviceDataInput_loyal ..).kept d listed known
  | deviceRemove u => exact absurd rfl (stays.1 u)
  | checkTimeouts => exact same (deviceCheckTimeouts_does env Reach.all_wide.conns).sameDevices
  | workerDeviceAdd info => exact same (workerDeviceAdd_sameDevices ..)
  | workerCbData deviceId data =>
    simp only [deviceSetPreflightCbData]
    split <;> exact listed
  | killConnections => exact same (deviceKillConnections_sameDevices ..)
  | deviceShutdown => exact absurd rfl stays.2
  | clientShutdown => exact same (clientShutdown_sameDevices ..)

/-- Workers leave the list alone. -/
theorem worker_list {event : Event} (foreign : event.byWorker = true) :
    (step env s event).mux.deviceList = s.mux.deviceList := by
  simp only [step]
  split
  swap
  · rfl
  cases event with
  | workerDeviceAdd info => exact (workerDeviceAdd_sameDevices ..).deviceList
  | workerCbData deviceId data =>
    simp only [deviceSetPreflightCbData]
    split <;> rfl
  | _ => cases foreign

end Usbmuxd
