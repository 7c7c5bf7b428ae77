import Usbmuxd.Proofs.Removal

/-! # Devices that arrive and what they send

`device_add` with its version request, the version reply, and `device_data_input` down to the
handlers. All of these are runs of the system.
-/

namespace Usbmuxd

open Collection

section Arrival

variable {lax : Laxity} (env : Env) {s : Daemon} {d : DevPtr}

/-- Ids in use are below the next one, so it is taken as it is. -/
theorem getNextDeviceId_eq (registry : Registry s.sys) :
    getNextDeviceId s.mux = (s.mux.nextDeviceId, { s.mux with nextDeviceId := s.mux.nextDeviceId + 1 }) := by
  have unused : (s.mux.deviceList.any fun d => (s.mux.dev d).id == s.mux.nextDeviceId) = false := by
    rw [List.any_eq_false]
    intro d listed
    have below : (s.mux.dev d).id < s.mux.nextDeviceId := registry.numbered d listed
    simpa using below.ne
  simp [getNextDeviceId, probe, unused]

/-- `device_add`. -/
theorem deviceAdd_steady (free : lax.arrives) (sound : Sound lax s.sys)
    (awake : s.phase = .running ∨ s.phase = .draining) (u : UsbPtr) :
    Steady lax none s.sys (s.setMux (deviceAdd env u s.mux).2).sys := by
  set id := s.mux.nextDeviceId with naming
  set d := s.mux.nextDev with allocating
  set x : Mux := { ({ s.mux with nextDeviceId := id + 1 } : Mux).setDev d (newDevice u id) with nextDev := d + 1 }
    with creating
  have created : x.dev d = newDevice u id := Function.update_self ..
  have known : MuxProtocol.version.headerLength? = some versionRequest.length := rfl
  rcases sendPacket_sys env d .version [] (s.setMux x) known (by
    change ((x.dev d).restart .version).unnumbered = false
    rw [created]
    rfl) with ⟨large, _⟩ | ⟨event, handed, sent⟩
  · change usbMtu < muxHeaderSize (x.dev d).version + _ + _ at large
    rw [created] at large
    exact absurd large (by simp [newDevice, muxHeaderSize, versionRequest, usbMtu])
  · change Handed event ((x.dev d).packet .version versionRequest []) at handed
    change (s.setMux (sendPacket env d .version versionRequest [] x).2).sys =
      (s.setMux x).sys.setDev d (((x.dev d).restart .version).advance, x.devLog d ++ [event]) at sent
    rw [created] at handed sent
    have asked : (s.setMux (sendPacket env d .version versionRequest [] x).2).sys =
        { s.sys.setDev s.sys.nextDev (newDevice u s.sys.nextDeviceId, (s.sys.dev s.sys.nextDev).2 ++ [event]) with
          nextDev := s.sys.nextDev + 1, nextDeviceId := s.sys.nextDeviceId + 1 } := by
      rw [sent]
      have stored : (s.setMux x).sys = { s.sys.setDev d (newDevice u id, (s.sys.dev d).2) with
          nextDev := s.sys.nextDev + 1, nextDeviceId := s.sys.nextDeviceId + 1 } := by
        have base := sys_setDev s { s.mux with nextDeviceId := id + 1, nextDev := d + 1 } d (newDevice u id)
        exact base
      rw [stored]
      simp [Sys.setDev]
      rfl
    have arrived (slot : Option ℕ) (S' : Sys) (after : S' =
        { s.sys.setDev s.sys.nextDev (newDevice u s.sys.nextDeviceId, (s.sys.dev s.sys.nextDev).2 ++ [event]) with
          nextDev := s.sys.nextDev + 1, nextDeviceId := s.sys.nextDeviceId + 1,
          deviceList := (slot.map fun n => add n s.sys.nextDev s.sys.deviceList).getD s.sys.deviceList }) :
        Steady lax none s.sys S' := by
      subst after
      refine ⟨.single (.arrived s.sys u slot free awake handed), fun alive d' listed => ?_⟩
      by_cases same : d' = s.sys.nextDev
      · subst same
        simp [Sys.setDev, newDevice]
      · have old : d' ∈ s.sys.deviceList := by
          cases slot with
          | none => exact listed
          | some n => exact ((mem_add ..).mp listed).resolve_left same
        simpa [Sys.setDev, same] using alive d' old
    have unfolded : deviceAdd env u s.mux =
        let r := sendPacket env d .version versionRequest [] x
        if r.1 < 0 then r else (0, { r.2.bump with deviceList := add (env.usb r.2.tick).slot d r.2.deviceList }) := by
      simp only [deviceAdd, getNextDeviceId_eq sound.linked.registry]
      rfl
    rw [unfolded]
    set r := sendPacket env d .version versionRequest [] x
    simp only []
    split
    · exact arrived none _ asked
    · refine arrived (some (env.usb r.2.tick).slot) _ ?_
      have listed : r.2.deviceList = s.sys.deviceList := congrArg Sys.deviceList asked
      rw [listed]
      exact congrArg (fun S : Sys => { S with deviceList := add (env.usb r.2.tick).slot d s.sys.deviceList }) asked

/-- A device that moves on its own is not on its way out. -/
theorem wire_steady (served : Option ClientPtr) {S : Sys} (listed : d ∈ S.deviceList) {view : DevView}
    (change : WireStep lax.early lax.travels (S.dev d) view) : Steady lax served S (S.setDev d view) := by
  refine ⟨.single (.wire S d listed change), fun alive d' listed' => ?_⟩
  by_cases same : d' = d
  · subst same
    rw [Sys.setDev_dev, change.core.1.state]
    exact alive d' listed'
  · simpa [Sys.setDev, same] using alive d' listed'

/-- A store that concerns neither connections, numbering nor reassembly. -/
theorem bookkeep_calm (served : Option ClientPtr) (listed : d ∈ s.mux.deviceList) {dev' : MuxDevice}
    (same : (s.mux.dev d).SameCore dev') (pktlen : dev'.pktlen = (s.mux.dev d).pktlen)
    (seen : dev'.visible = (s.mux.dev d).visible ∨ lax.travels) :
    Calm lax served s.sys (s.setMux (s.mux.setDev d dev')).sys := by
  rw [sys_setDev, setMux_mux]
  refine .of_setDev (.single (.wire s.sys d listed (.bookkeep (s.sys.dev d).2 same seen)))
    ⟨⟨same.id, same.usbdev, same.state⟩, ?_, pktlen, rfl⟩
  change dev'.connections ⊆ (s.mux.dev d).connections
  rw [same.connections]
  exact List.Subset.refl _

/-- `client_device_add`: the device becomes visible and the listeners are told. -/
theorem clientDeviceAdd_calm (announces : lax.Announces) (served : Option ClientPtr) (info : DeviceInfo) :
    Calm lax served s.sys (clientDeviceAdd env info s).sys := by
  have visible : Calm lax served s.sys (s.setMux (deviceSetVisible info.id s.mux)).sys := by
    simp only [deviceSetVisible]
    split
    · exact .refl _
    · next d found =>
      exact bookkeep_calm served (getMuxDeviceForId_mem found).1
        ⟨rfl, rfl, rfl, rfl, rfl, rfl, rfl, rfl, fun _ => rfl⟩ rfl
        (.inr announces.travels)
  have told : TellsArrival env lax info := ⟨announces.tells _ _, announces.tells _ _⟩
  refine visible.trans (.of_run (ClientsMove.run _ _ ?_) rfl rfl rfl)
  exact notifyListeners_move _ served fun _ _ _ present listening =>
    sendDeviceEvent_move env served present (.inr listening) told

/-- `device_set_preflight_cb_data`. -/
theorem deviceSetPreflightCbData_calm (served : Option ClientPtr) (deviceId : ℕ) (data : Option ℕ) :
    Calm lax served s.sys (s.setMux (deviceSetPreflightCbData deviceId data s.mux)).sys := by
  simp only [deviceSetPreflightCbData]
  split
  · exact .refl _
  · next d found =>
    exact bookkeep_calm served (getMuxDeviceForId_mem found).1 ⟨rfl, rfl, rfl, rfl, rfl, rfl, rfl, rfl, id⟩ rfl
      (.inl rfl)

/-- `preflight_worker_device_add`: a worker takes over, or the listeners are told at once. -/
theorem preflightWorkerDeviceAdd_calm (announces : lax.Announces) (served : Option ClientPtr) (info : DeviceInfo) :
    Calm lax served s.sys (preflightWorkerDeviceAdd env info s).sys := by
  have ticked : (s.setClients s.clients.bump).sys = s.sys := rfl
  simp only [preflightWorkerDeviceAdd]
  split
  · exact clientDeviceAdd_calm env announces served info
  · split
    · exact .refl _
    · have calm : Calm lax served (s.setClients s.clients.bump).sys
          (clientDeviceAdd env info (s.setClients s.clients.bump)).sys :=
        clientDeviceAdd_calm env announces served info
      rwa [ticked] at calm

/-- The device becomes active; connections it already has are lost from its collection. -/
private theorem sys_activate (x : Mux) : ∃ faults, (s.setMux (x.activate d)).sys =
    ({ (s.setMux x).sys with faults := faults } : Sys).setDev d
      ({ x.dev d with state := .active, initialised := true, connections := [] }, x.devLog d) ∧
    (faults = x.faults ∨ (x.dev d).connections ≠ [] ∧ faults = x.faults ++ [.discardedConnections d]) := by
  simp only [Mux.activate]
  split
  · exact ⟨x.faults, by rw [sys_setDev]; rfl, .inl rfl⟩
  · next used => exact ⟨_, by rw [sys_setDev]; rfl, .inr ⟨used, rfl⟩⟩

/-- The state in which `device_version_input` hands a device over to its preflight worker. -/
def Daemon.greet (env : Env) (d : DevPtr) (major : UInt32) (s : Daemon) : Daemon :=
  let mux := (s.mux.setDev d { s.mux.dev d with version := major.toNat }).logDev d (.version major)
  s.setMux ((if 2 ≤ major.toNat then (sendPacket env d .setup [] [7] mux).2 else mux).activate d)

theorem deviceVersionInput_greet {vh : Bytes} (waiting : (s.mux.dev d).state = .init)
    (supported : ¬(be32At vh 0 ≠ 2 ∧ be32At vh 0 ≠ 1)) : deviceVersionInput env d vh s =
      preflightWorkerDeviceAdd env (deviceInfo env ((s.greet env d (be32At vh 0)).mux.dev d))
        (s.greet env d (be32At vh 0)) := by
  rw [deviceVersionInput, if_neg (not_not.mpr waiting), if_neg supported]
  rfl

/-- The packets that answer a version reply. -/
def SetsUp (dev : MuxDevice) (major : UInt32) (events : List WireEvent) : Prop :=
  major = 1 ∧ events = [] ∨ major = 2 ∧ ∃ event, events = [event] ∧
    Handed event (({ dev with version := 2 } : MuxDevice).packet .setup [] [7])

/-- What the system sees of the version reply. -/
theorem greet_sys {major : UInt32} (supported : ¬(major ≠ 2 ∧ major ≠ 1)) :
    ∃ events faults, (s.greet env d major).sys =
      { s.sys.setDev d ((s.sys.dev d).1.greeted major, (s.sys.dev d).2 ++ .version major :: events) with
        faults := faults } ∧ SetsUp (s.sys.dev d).1 major events ∧
      (faults = s.sys.faults ∨ (s.sys.dev d).1.connections ≠ [] ∧
        faults = s.sys.faults ++ [.discardedConnections d]) := by
  rw [Daemon.greet]
  set x := (s.mux.setDev d { s.mux.dev d with version := major.toNat }).logDev d (.version major) with noting
  have stored : (s.setMux x).sys =
      s.sys.setDev d ({ s.mux.dev d with version := major.toNat }, s.mux.devLog d ++ [.version major]) := by
    rw [noting, sys_logDev, sys_setDev, setMux_mux, Sys.setDev_dev, Sys.setDev_setDev]
    rfl
  have record : x.dev d = { s.mux.dev d with version := major.toNat } := by simp [noting, Mux.setDev, Mux.logDev]
  have log : x.devLog d = s.mux.devLog d ++ [.version major] := by simp [noting, Mux.setDev, Mux.logDev]
  set y := if 2 ≤ major.toNat then (sendPacket env d .setup [] [7] x).2 else x with telling
  obtain ⟨events, answered, told⟩ : ∃ events, SetsUp (s.sys.dev d).1 major events ∧ (s.setMux y).sys = s.sys.setDev d
      ((({ s.mux.dev d with version := major.toNat } : MuxDevice).restart .setup).advance,
        s.mux.devLog d ++ .version major :: events) := by
    rcases (by tauto : major = 1 ∨ major = 2) with one | two
    · refine ⟨[], .inl ⟨one, rfl⟩, ?_⟩
      rw [telling, if_neg (by rw [one]; decide), stored, one]
      rfl
    · have known : MuxProtocol.setup.headerLength? = some ([] : Bytes).length := rfl
      have numbered : (((s.setMux x).mux.dev d).restart .setup).unnumbered = false := by
        change ((x.dev d).restart .setup).unnumbered = false
        rw [record, two]
        rfl
      rcases sendPacket_sys env d .setup [7] (s.setMux x) known numbered with ⟨large, _⟩ | ⟨event, handed, sent⟩
      · change usbMtu < muxHeaderSize (x.dev d).version + _ + _ at large
        rw [record, two] at large
        exact absurd large (by simp [muxHeaderSize, usbMtu])
      · change Handed event ((x.dev d).packet .setup [] [7]) at handed
        change (s.setMux (sendPacket env d .setup [] [7] x).2).sys =
          (s.setMux x).sys.setDev d (((x.dev d).restart .setup).advance, x.devLog d ++ [event]) at sent
        rw [record, two] at handed
        refine ⟨[event], .inr ⟨two, event, rfl, handed⟩, ?_⟩
        rw [telling, if_pos (by rw [two]; decide), sent, stored, record, log, Sys.setDev_setDev, List.append_assoc]
        rfl
  obtain ⟨faults, activated, why⟩ := sys_activate (s := s) (d := d) y
  have viewed : (s.setMux y).sys.dev d =
      ((({ s.mux.dev d with version := major.toNat } : MuxDevice).restart .setup).advance,
      s.mux.devLog d ++ .version major :: events) := by rw [told, Sys.setDev_dev]
  have recordY : y.dev d = (({ s.mux.dev d with version := major.toNat } : MuxDevice).restart .setup).advance :=
    congrArg Prod.fst viewed
  have logY : y.devLog d = s.mux.devLog d ++ .version major :: events := congrArg Prod.snd viewed
  have faultsY : y.faults = s.sys.faults := congrArg Sys.faults told
  have heldY : (y.dev d).connections = (s.mux.dev d).connections := by simp [recordY]
  rw [faultsY, heldY] at why
  refine ⟨events, faults, ?_, answered, why⟩
  rw [activated, recordY, logY, told]
  simp only [Sys.setDev, Function.update_idem]
  rfl

theorem greet_steady (free : lax.travels) (sound : Sound lax s.sys) (listed : d ∈ s.mux.deviceList)
    (waiting : (s.mux.dev d).state = .init) {major : UInt32} (supported : ¬(major ≠ 2 ∧ major ≠ 1)) :
    Steady lax none s.sys (s.greet env d major).sys := by
  have unused : (s.sys.dev d).1.connections = [] ∨ lax.early :=
    sound.strict.symm.imp_left fun strict => strict.inert d listed waiting
  obtain ⟨events, faults, shape, answered, why⟩ := greet_sys env (s := s) (d := d) supported
  have greeted : SysRun lax none s.sys
      (s.sys.setDev d ((s.sys.dev d).1.greeted major, (s.sys.dev d).2 ++ .version major :: events)) :=
    .single (.greeted s.sys d major free listed waiting unused answered)
  rw [shape]
  refine ⟨?_, fun alive d' listed' => ?_⟩
  · rcases why with rfl | ⟨held, rfl⟩
    · exact greeted
    · exact greeted.tail (.fault _ (.discardedConnections d) (unused.resolve_left held))
  · by_cases same : d' = d
    · subst same
      simp [Sys.setDev, MuxDevice.greeted]
    · simpa [Sys.setDev, same] using alive d' listed'

private theorem deviceVersionInput_steady (announces : lax.Announces) (sound : Sound lax s.sys)
    (listed : d ∈ s.mux.deviceList) (vh : Bytes) :
    Steady lax none s.sys (deviceVersionInput env d vh s).sys := by
  by_cases waiting : (s.mux.dev d).state = .init
  swap
  · rw [deviceVersionInput, if_pos waiting]
    exact .refl _
  by_cases unsupported : be32At vh 0 ≠ 2 ∧ be32At vh 0 ≠ 1
  · rw [deviceVersionInput, if_neg (not_not.mpr waiting), if_pos unsupported]
    have empty : (s.sys.dev d).1.connections = [] ∨ lax.early ∧ (s.sys.dev d).1.state = .init :=
      sound.strict.symm.imp (fun strict => strict.inert d listed waiting) fun early => ⟨early, waiting⟩
    exact ⟨.single (.departed s.sys d announces.travels empty),
      fun alive d' listed' => alive d' (List.mem_of_mem_erase listed')⟩
  · rw [deviceVersionInput_greet env waiting unsupported]
    exact (greet_steady env announces.travels sound listed waiting unsupported).trans
      (preflightWorkerDeviceAdd_calm env announces none _).steady

/-- Following the sequence number of a packet keeps the state and the connections. -/
theorem track_core (dev : MuxDevice) (buffer : Bytes) :
    (dev.track buffer).state = dev.state ∧ (dev.track buffer).connections = dev.connections := by
  simp only [MuxDevice.track]
  split <;> exact ⟨rfl, rfl⟩

/-- The state in which a whole packet is dispatched. -/
def Daemon.receive (d : DevPtr) (buffer : Bytes) (length : ℕ) (s : Daemon) : Daemon :=
  s.setMux ((s.mux.setDev d ((s.mux.dev d).track buffer)).logDev d
    (.received (buffer.take length) ((s.mux.dev d).rxSeqSeen buffer length)))

theorem packetInput_whole {buffer : Bytes} {length : ℕ} (whole : (be32At buffer 4).toNat = length) :
    packetInput env d buffer length s =
      runDispatch env d (dispatch (s.mux.dev d).version buffer length) (s.receive d buffer length) := by
  rw [packetInput, if_neg (not_not.mpr whole)]
  rfl

private theorem receive_sys (d : DevPtr) (buffer : Bytes) (length : ℕ) (s : Daemon) :
    (s.receive d buffer length).sys = s.sys.setDev d ((s.mux.dev d).track buffer,
      s.mux.devLog d ++ [.received (buffer.take length) ((s.mux.dev d).rxSeqSeen buffer length)]) := by
  rw [Daemon.receive, sys_logDev, sys_setDev, setMux_mux, Sys.setDev_dev, Sys.setDev_setDev]
  rfl

theorem receive_steady (listed : d ∈ s.mux.deviceList) (buffer : Bytes) (length : ℕ) :
    Steady lax none s.sys (s.receive d buffer length).sys := by
  rw [receive_sys]
  exact wire_steady none listed (.received _ _ buffer length)

private theorem packetInput_steady (grants : Grants env lax) (sound : Sound lax s.sys) (listed : d ∈ s.mux.deviceList)
    (buffer : Bytes) (length : ℕ)
    (announces : ∀ vh payload, dispatch (s.mux.dev d).version buffer length = .versionInput vh payload → lax.Announces)
    (heard : ∀ c bytes, packetArrival d buffer length s.mux = some (c, bytes) → lax.Welcomes s.mux c bytes) :
    Steady lax none s.sys (packetInput env d buffer length s).sys := by
  simp only [packetInput]
  split
  · exact .refl _
  next whole =>
  have received : Steady lax none s.sys (s.receive d buffer length).sys := receive_steady listed buffer length
  refine received.trans ?_
  have sound₁ := received.sound sound
  rw [← Daemon.receive]
  set s₁ := s.receive d buffer length
  have listed₁ : d ∈ s₁.mux.deviceList := listed
  simp only [runDispatch]
  split
  · next vh payload dispatched =>
    exact deviceVersionInput_steady env (announces vh payload dispatched) sound₁ listed₁ _
  · next payload _ =>
    rw [sys_logDev s₁ s₁.mux, setMux_mux]
    exact wire_steady none listed₁ (.control _ _ payload)
  · next th payload dispatched =>
    refine (deviceTcpInput_calm env grants sound₁ listed₁ _ _ fun c bytes arrives => heard c bytes ?_).steady
    rw [packetArrival, if_neg whole, dispatched]
    exact (segmentArrival_setDev (track_core (s.mux.dev d) buffer).1 (track_core (s.mux.dev d) buffer).2).symm.trans
      arrives
  · exact .refl _
  · exact .refl _

/-- The reassembly buffer is bookkeeping. -/
theorem reassemble_core (dev : MuxDevice) (t : Transfer) : dev.SameCore (reassemble dev t).2 := by
  simp only [reassemble]
  repeat' split
  all_goals exact ⟨rfl, rfl, rfl, rfl, rfl, rfl, rfl, rfl, id⟩

private theorem reassemble_visible (dev : MuxDevice) (t : Transfer) : (reassemble dev t).2.visible = dev.visible := by
  simp only [reassemble]
  repeat' split
  all_goals rfl

theorem store_steady (listed : d ∈ s.mux.deviceList) (t : Transfer) :
    Steady lax none s.sys (s.setMux (s.mux.setDev d (reassemble (s.mux.dev d) t).2)).sys := by
  rw [sys_setDev, setMux_mux]
  exact wire_steady none listed (.bookkeep _ (reassemble_core (s.mux.dev d) t) (.inl (reassemble_visible _ t)))

/-- `device_data_input`. -/
theorem deviceDataInput_steady (grants : Grants env lax) (sound : Sound lax s.sys) (u : UsbPtr) (t : Transfer)
    (announces : greets u t s.mux → lax.Announces)
    (heard : ∀ c bytes, transferArrival u t s.mux = some (c, bytes) → lax.Welcomes s.mux c bytes) :
    Steady lax none s.sys (deviceDataInput env u t s).sys := by
  simp only [deviceDataInput]
  split
  · exact .refl _
  next d found =>
  have listed : d ∈ s.mux.deviceList := List.mem_of_find?_eq_some found
  split
  · exact .refl _
  next filled =>
  split
  · exact .refl _
  next fits =>
  have stored : Steady lax none s.sys _ := store_steady listed t
  refine stored.trans ?_
  split
  · exact .refl _
  · next buffer length complete =>
    have core := reassemble_core (s.mux.dev d) t
    refine packetInput_steady env grants (stored.sound sound) listed _ _ (fun vh payload dispatched => announces ?_)
      fun c bytes arrives => heard c bytes ?_
    · have record : ((s.setMux (s.mux.setDev d (reassemble (s.mux.dev d) t).2)).mux.dev d).version =
          (s.mux.dev d).version := by
        rw [← core.version]
        simp [Daemon.setMux, Mux.setDev]
      rw [record] at dispatched
      simp [greets, found, complete, dispatched]
    · simp only [transferArrival, found, if_neg filled, if_neg fits, complete]
      exact (packetArrival_setDev core.version core.state core.connections).symm.trans arrives

end Arrival

end Usbmuxd
