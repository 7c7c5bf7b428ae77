import Usbmuxd.Proofs.Notices
import Usbmuxd.Proofs.ResetEvents
import Usbmuxd.Proofs.Runs

/-! # Devices that come and go, as listeners hear of it

The ledger of a daemon says that every listener has been told of the devices that are shown, that a
device in its handshake is not shown, and that each worker has a device of its own which is not shown
either. A device is announced when it becomes visible and called off when it leaves, and both keep the
ledger. So does every hushed step.
-/

namespace Usbmuxd

open Presence Collection

/-- Messages for listeners can be queued: allocations succeed, and the XML form of an announcement is
below 2 GiB. -/
structure Queueing (env : Env) : Prop where
  memory : ∀ n, (env.sock n).alloc = true
  size : ∀ dev : MuxDevice, (env.plistToXml (createDeviceAttachedPlist (deviceInfo env dev))).length + 16 < 2 ^ 31

variable {env : Env}

theorem MuxDevice.greeted_face (dev : MuxDevice) (major : UInt32) :
    (dev.greeted major).id = dev.id ∧ (dev.greeted major).visible = dev.visible := by
  simp only [MuxDevice.greeted, MuxDevice.restart, MuxDevice.advance]
  split <;> split <;> exact ⟨rfl, rfl⟩

/-- Both forms of a device event say the same. -/
structure Conveys (env : Env) (note : Note ℕ) (msg : MsgType) (plist : Plist) (payload : Bytes) : Prop where
  xml : notice? env .plist (env.plistToXml plist) = some note
  binary : notice? env msg payload = some note

theorem conveys_attached (faithful : Faithful env) {info : DeviceInfo} (small : info.id < 2 ^ 32) :
    Conveys env (.attached info.id) .deviceAdd (createDeviceAttachedPlist info) (deviceRecord info) where
  xml := by
    have value : (UInt64.ofNat info.id).toNat = info.id := UInt64.toNat_ofNat_of_lt' (small.trans (by decide))
    refine (faithful _).trans ?_
    change some (Note.attached (UInt64.ofNat info.id).toNat) = _
    rw [value]
  binary := by
    have field : le32At (deviceRecord info) 0 = UInt32.ofNat info.id := by
      simp only [deviceRecord, List.append_assoc]
      exact le32At_append [] _ _
    simp only [notice?, field, UInt32.toNat_ofNat_of_lt' small]

theorem conveys_detached (faithful : Faithful env) {deviceId : ℕ} (small : deviceId < 2 ^ 32) :
    Conveys env (.detached deviceId) .deviceRemove (deviceIdPlist "Detached" deviceId)
      (le32 (UInt32.ofNat deviceId)) where
  xml := by
    have value : (UInt64.ofNat deviceId).toNat = deviceId := UInt64.toNat_ofNat_of_lt' (small.trans (by decide))
    refine (faithful _).trans ?_
    change some (Note.detached (UInt64.ofNat deviceId).toNat) = _
    rw [value]
  binary := by
    have field : le32At (le32 (UInt32.ofNat deviceId)) 0 = UInt32.ofNat deviceId := by
      rw [← List.append_nil (le32 _)]
      exact le32At_append [] [] _
    simp only [notice?, field, UInt32.toNat_ofNat_of_lt' small]

/-- A client is sent a message with this note. -/
def Mailed (env : Env) (note : Note ℕ) (k : ClientPtr) (client : MuxClient) (s : Clients) (r : ℤ × Clients) : Prop :=
  ∃ capacity msg payload, r.1 = asInt (MuxClient.messageLength payload) ∧
    Enqueued k client capacity 0 msg payload s r.2 ∧ notice? env msg payload = some note

/-- With memory for it, a device event is queued. -/
theorem sendDeviceEvent_mailed (memory : ∀ n, (env.sock n).alloc = true) {note : Note ℕ} {msg : MsgType} {plist : Plist}
    {payload : Bytes} (conveys : Conveys env note msg plist payload) {k : ClientPtr} {s : Clients} {client : MuxClient}
    (present : s.client k = some client) (buffer : client.obBuf.isSome) :
    Mailed env note k client s (sendDeviceEvent env msg plist payload k s) := by
  obtain ⟨msg', payload', form, queued⟩ := sendDeviceEvent_queued env present msg plist payload
  have noted : notice? env msg' payload' = some note := by
    rcases form with ⟨rfl, rfl⟩ | ⟨rfl, rfl⟩
    · exact conveys.xml
    · exact conveys.binary
  generalize sendDeviceEvent env msg plist payload k s = r at queued
  cases queued with
  | failed same why => exact absurd memory (why buffer)
  | done queues => exact ⟨_, _, _, rfl, queues, noted⟩

/-- A listener is sent a note, and nothing happens to any other client. -/
inductive Noted (env : Env) (note : Note ℕ) : ClientView → ClientView → Prop
  | told {client client' : MuxClient} {log log' : List ClientEvent} (listening : client.state = .listen)
      (still : client'.state = .listen) (notes : notices env log' = notices env log ++ [note]) :
      Noted env note (some client, log) (some client', log')
  | other {view : ClientView} (deaf : ∀ client, view.1 = some client → client.state ≠ .listen) :
      Noted env note view view

/-- Whoever is not connected has an output buffer. -/
def HasOutput (s : Clients) : Prop := ∀ k client, s.client k = some client → client.state ≠ .connected →
    client.obBuf.isSome

section Sending

variable {note : Note ℕ} {k : ClientPtr} {client : MuxClient} {s : Clients}

private theorem Mailed.buffered {r : ℤ × Clients} (sent : Mailed env note k client s r) (buffered : HasOutput s) :
    HasOutput r.2 := by
  obtain ⟨capacity, msg, payload, _, queues, _⟩ := sent
  intro k' client' present' unconnected
  rw [queues.stored] at present'
  by_cases same : k' = k
  · subst same
    rw [Function.update_self] at present'
    obtain rfl := Option.some.inj present'
    rfl
  · rw [Function.update_of_ne same] at present'
    exact buffered k' client' present' unconnected

theorem Mailed.others {r : ℤ × Clients} (sent : Mailed env note k client s r) {other : ClientPtr}
    (different : other ≠ k) :
    r.2.view other = s.view other := by
  obtain ⟨capacity, msg, payload, _, queues, _⟩ := sent
  simp [Clients.view, queues.stored, queues.logged, different]

theorem Mailed.noted {r : ℤ × Clients} (sent : Mailed env note k client s r) (present : s.client k = some client)
    (listening : client.state = .listen) : Noted env note (s.view k) (r.2.view k) := by
  obtain ⟨capacity, msg, payload, _, queues, noted⟩ := sent
  simp only [Clients.view, present, queues.stored, queues.logged, Function.update_self]
  exact .told listening listening (by simp [noted])

/-- A round over the listeners. -/
theorem notifyListeners_noted {send : ClientPtr → Clients → ℤ × Clients} (unique : s.clientList.Nodup)
    (listed : ∀ k, k ∈ s.clientList ↔ (s.client k).isSome) (buffered : HasOutput s)
    (sends : ∀ k s client, s.client k = some client → client.obBuf.isSome → Mailed env note k client s (send k s))
    (k : ClientPtr) : Noted env note (s.view k) ((notifyListeners send s).view k) := by
  obtain ⟨visited, skipped⟩ := forEach_each
    (fun k s => if (s.client k).any (fun client => client.state = .listen) then (send k s).2 else s)
    HasOutput Clients.view (fun _ => Noted env note) unique buffered fun k current buffered member => by
      split
      · next listening =>
        obtain ⟨client, present, state⟩ := (Option.any_eq_true ..).mp listening
        have listening : client.state = .listen := by simpa using state
        have sent := sends k current client present (buffered k client present (by simp [listening]))
        have list : (send k current).2.clientList = current.clientList := by
          obtain ⟨_, _, _, _, queues, _⟩ := sent
          exact queues.list
        exact ⟨sent.buffered buffered, list, sent.noted present listening, fun _ different => sent.others different⟩
      · next deaf =>
        refine ⟨buffered, rfl, .other fun client present listening => deaf ?_, fun _ _ => rfl⟩
        have present : current.client k = some client := present
        simp [present, listening]
  by_cases member : k ∈ s.clientList
  · exact visited k member
  · have gone : s.client k = none := by simpa using (listed k).not.mp member
    have same : (notifyListeners send s).view k = s.view k := skipped k member
    rw [same]
    exact .other fun client present => by simp [Clients.view, gone] at present

end Sending

section Informed

variable {live shown : Set ℕ} {owed : ClientPtr → Set ℕ} {view view' : ClientView} {i : ℕ}

theorem Noted.attach (noted : Noted env (.attached i) view view') (informed : Informed env live shown view)
    (alive : i ∈ live) (unknown : i ∉ shown) : Informed env live (insert i shown) view' := by
  cases noted with
  | told listening still notes =>
    rintro _ ⟨⟩
    refine ⟨fun _ => ?_, fun deaf => absurd still deaf⟩
    rw [notes]
    exact ((informed _ rfl).1 listening).attach alive unknown
  | other deaf =>
    intro client present
    exact ⟨fun listening => absurd listening (deaf client present), (informed client present).2⟩

private theorem Noted.detach (noted : Noted env (.detached i) view view') (informed : Informed env live shown view)
    (known : i ∈ shown) : Informed env (live \ {i}) (shown \ {i}) view' := by
  cases noted with
  | told listening still notes =>
    rintro _ ⟨⟩
    refine ⟨fun _ => ?_, fun deaf => absurd still deaf⟩
    rw [notes]
    exact ((informed _ rfl).1 listening).detach known
  | other deaf =>
    intro client present
    exact ⟨fun listening => absurd listening (deaf client present), (informed client present).2⟩

theorem Briefed.attach {S S' : Sys} (briefed : Briefed env live shown owed S)
    (noted : ∀ k, Noted env (.attached i) (S.client k) (S'.client k)) (alive : i ∈ live) (unknown : i ∉ shown)
    (free : ∀ k, i ∉ owed k) : Briefed env live (insert i shown) owed S' := by
  intro k
  rw [Set.insert_sdiff_of_notMem _ (free k)]
  exact (noted k).attach (briefed k) alive fun member => unknown member.1

theorem Briefed.detach {S S' : Sys} (briefed : Briefed env live shown owed S)
    (noted : ∀ k, Noted env (.detached i) (S.client k) (S'.client k)) (known : i ∈ shown) (free : ∀ k, i ∉ owed k) :
    Briefed env (live \ {i}) (shown \ {i}) owed S' := by
  intro k
  rw [Set.sdiff_sdiff_comm]
  exact (noted k).detach (briefed k) ⟨known, free k⟩

/-- Devices that were never shown go unnoticed. -/
theorem Briefed.forget {S : Sys} (briefed : Briefed env live shown owed S) {live' : Set ℕ} (fewer : live' ⊆ live)
    (known : shown ⊆ live') : Briefed env live' shown owed S := by
  intro k client present
  refine ⟨fun listening => ?_, ((briefed k) client present).2⟩
  exact (((briefed k) client present).1 listening).forget fewer fun _ member => known member.1

end Informed

/-- Whether a device is shown is its own matter. -/
theorem Registry.mem_shown {S : Sys} (registry : Registry S) {d : DevPtr} (listed : d ∈ S.deviceList) :
    (S.dev d).1.id ∈ S.shown ↔ (S.dev d).1.state = .active ∧ (S.dev d).1.visible = true := by
  constructor
  · rintro ⟨d', listed', active, visible, id⟩
    obtain rfl := registry.ids d' listed' d listed id
    exact ⟨active, visible⟩
  · rintro ⟨active, visible⟩
    exact ⟨d, listed, active, visible, rfl⟩

/-- A device leaves the list and the others look as before. -/
structure Leaves (d : DevPtr) (S S' : Sys) : Prop where
  kept : ∀ d' ∈ S.deviceList, d' ≠ d → d' ∈ S'.deviceList
  only : ∀ d' ∈ S'.deviceList, d' ∈ S.deviceList ∧ d' ≠ d ∧ (S.dev d').1.SameFace (S'.dev d').1
  next : S.nextDeviceId ≤ S'.nextDeviceId

namespace Leaves

variable {S S' : Sys} {d : DevPtr}

private theorem shown_eq (leaves : Leaves d S S') (registry : Registry S) (listed : d ∈ S.deviceList) :
    S'.shown = S.shown \ {(S.dev d).1.id} := by
  ext i
  constructor
  · rintro ⟨d', listed', active, visible, rfl⟩
    obtain ⟨before, other, face⟩ := leaves.only d' listed'
    rw [face.id]
    refine ⟨⟨d', before, face.state ▸ active, face.visible ▸ visible, rfl⟩, fun same => other ?_⟩
    exact registry.ids d' before d listed same
  · rintro ⟨⟨d', before, active, visible, rfl⟩, different⟩
    have after : d' ∈ S'.deviceList := leaves.kept d' before fun same => different (by rw [same]; rfl)
    have face := (leaves.only d' after).2.2
    exact ⟨d', after, face.state.trans active, face.visible.trans visible, face.id⟩

private theorem live_subset (leaves : Leaves d S S') (registry : Registry S) (listed : d ∈ S.deviceList) :
    S'.live ⊆ S.live \ {(S.dev d).1.id} := by
  rintro i (late | ⟨d', listed', rfl⟩)
  · have later := leaves.next.trans late
    exact ⟨.inl later, fun same => absurd (registry.numbered d listed) (by rw [← same]; omega)⟩
  · obtain ⟨before, other, face⟩ := leaves.only d' listed'
    rw [face.id]
    exact ⟨.inr ⟨d', before, rfl⟩, fun same => other (registry.ids d' before d listed same)⟩

end Leaves

/-- One device of the list is no longer in its handshake, or has become visible. -/
structure Alters (d : DevPtr) (S S' : Sys) : Prop where
  list : S'.deviceList = S.deviceList
  next : S'.nextDeviceId = S.nextDeviceId
  id : (S'.dev d).1.id = (S.dev d).1.id
  active : (S'.dev d).1.state = .active
  others : ∀ d' ≠ d, (S'.dev d').1 = (S.dev d').1

namespace Alters

variable {S S' : Sys} {d : DevPtr}

theorem ids (alters : Alters d S S') (d' : DevPtr) : (S'.dev d').1.id = (S.dev d').1.id := by
  by_cases same : d' = d
  · subst same
    exact alters.id
  · rw [alters.others d' same]

theorem trans {S'' : Sys} (first : Alters d S S') (second : Alters d S' S'') : Alters d S S'' where
  list := second.list.trans first.list
  next := second.next.trans first.next
  id := second.id.trans first.id
  active := second.active
  others d' other := (second.others d' other).trans (first.others d' other)

theorem live_eq (alters : Alters d S S') : S'.live = S.live := by
  simp only [Sys.live, alters.list, alters.next, alters.ids]

/-- The device becomes visible. -/
theorem shown_insert (alters : Alters d S S') (listed : d ∈ S.deviceList) (visible : (S'.dev d).1.visible = true) :
    S'.shown = insert (S.dev d).1.id S.shown := by
  have own : (S.dev d).1.id ∈ S'.shown := ⟨d, alters.list ▸ listed, alters.active, visible, alters.id⟩
  ext i
  constructor
  · rintro ⟨d', listed', active', visible', rfl⟩
    by_cases same : d' = d
    · exact .inl (by rw [same, alters.id])
    · rw [alters.others d' same] at active' visible' ⊢
      exact .inr ⟨d', alters.list ▸ listed', active', visible', rfl⟩
  · rintro (rfl | ⟨d', listed', active', visible', rfl⟩)
    · exact own
    · by_cases same : d' = d
      · rw [same]
        exact own
      · rw [← alters.others d' same] at active' visible' ⊢
        exact ⟨d', alters.list ▸ listed', active', visible', rfl⟩

/-- The device is not visible yet. -/
theorem shown_eq (alters : Alters d S S') (before : (S.dev d).1.visible = false)
    (after : (S'.dev d).1.visible = false) :
    S'.shown = S.shown := by
  ext i
  constructor
  · rintro ⟨d', listed', active', visible', rfl⟩
    have other : d' ≠ d := fun same => by simp [same, after] at visible'
    rw [alters.others d' other] at active' visible' ⊢
    exact ⟨d', alters.list ▸ listed', active', visible', rfl⟩
  · rintro ⟨d', listed', active', visible', rfl⟩
    have other : d' ≠ d := fun same => by simp [same, before] at visible'
    rw [← alters.others d' other] at active' visible' ⊢
    exact ⟨d', alters.list ▸ listed', active', visible', rfl⟩

end Alters

/-- Everything may happen, but no device is added. -/
def stationary : Laxity where
  early := True
  poor := True
  arrives := False

theorem grants_stationary (env : Env) : Grants env stationary :=
  ⟨.inl trivial, fun _ _ _ => trivial, fun _ _ _ _ => trivial⟩

theorem announces_stationary : stationary.Announces := ⟨fun _ _ => trivial, trivial, trivial⟩

theorem sound_stationary {S : Sys} : Sound stationary S ↔ Sound anything S :=
  (@Sound.freely stationary S).symm.trans (@Sound.freely anything S)

/-- Ids are given to devices in the order of their arrival and stay with them. -/
structure Enrolled (lax : Laxity) (S S' : Sys) : Prop where
  ids : ∀ d < S.nextDev, (S'.dev d).1.id = (S.dev d).1.id
  next : S'.nextDev = S.nextDev ∧ S'.nextDeviceId = S.nextDeviceId ∨ lax.arrives ∧ S'.nextDev = S.nextDev + 1 ∧
    S'.nextDeviceId = S.nextDeviceId + 1 ∧ (S'.dev S.nextDev).1.id = S.nextDeviceId

theorem SysStep.enrolled {lax : Laxity} {served : Option ClientPtr} {S S' : Sys} (change : SysStep lax served S S') :
    Enrolled lax S S' := by
  refine ⟨fun d below => ?_, ?_⟩
  · exact (change.devTurn d).enrolled.elim And.right fun new => absurd new.1 below.ne
  · cases change with
    | arrived u slot free => exact .inr ⟨free, rfl, rfl, by simp [Sys.setDev, newDevice]⟩
    | _ => exact .inl ⟨rfl, rfl⟩

theorem SysRun.stationary {served : Option ClientPtr} {S S' : Sys} (changes : SysRun stationary served S S')
    (sound : Sound stationary S) : S'.nextDev = S.nextDev ∧ S'.nextDeviceId = S.nextDeviceId := by
  refine SysRun.keeps (motive := fun S' => S'.nextDev = S.nextDev ∧ S'.nextDeviceId = S.nextDeviceId) changes sound
    (fun _ _ _ change before => ?_) ⟨rfl, rfl⟩
  rcases change.enrolled.next with same | ⟨free, _⟩
  · exact ⟨same.1.trans before.1, same.2.trans before.2⟩
  · exact free.elim

/-- The account of what listeners know and what workers have still to say. -/
structure Ledger (env : Env) (owed : ClientPtr → Set ℕ) (s : Daemon) : Prop where
  briefed : Briefed env s.sys.live s.sys.shown owed s.sys
  hidden : ∀ d ∈ s.mux.deviceList, (s.mux.dev d).state = .init → (s.mux.dev d).visible = false
  staffed : ∀ info ∈ s.workers, info.id < s.mux.nextDeviceId ∧ ∀ d ∈ s.mux.deviceList, (s.mux.dev d).id = info.id →
    (s.mux.dev d).state = .active ∧ (s.mux.dev d).visible = false
  single : (s.workers.map DeviceInfo.id).Nodup

theorem sound_hushed {S : Sys} : Sound (hushed env) S ↔ Sound anything S :=
  (@Sound.freely (hushed env) S).symm.trans (@Sound.freely anything S)

namespace Ledger

variable {owed : ClientPtr → Set ℕ} {s s' : Daemon}

private theorem unmoved (ledger : Ledger env owed s) (unmoved : Unmoved s.sys s'.sys) (workers : s'.workers = s.workers)
    (briefed : Briefed env s.sys.live s.sys.shown owed s'.sys) : Ledger env owed s' where
  briefed := by
    have shown := unmoved.shown_eq
    rw [shown]
    exact briefed.forget unmoved.live_subset (shown ▸ s'.sys.shown_subset_live)
  hidden d listed waiting := by
    rcases unmoved.news d listed with before | ⟨_, hidden, _⟩
    · have face := (unmoved.kept d before).2
      exact face.visible.trans (ledger.hidden d before (face.state.symm.trans waiting))
    · exact hidden
  staffed info member := by
    obtain ⟨below, own⟩ := ledger.staffed info (workers ▸ member)
    refine ⟨Nat.lt_of_lt_of_le below unmoved.next, fun d listed id => ?_⟩
    rcases unmoved.news d listed with before | ⟨_, _, late⟩
    · have face := (unmoved.kept d before).2
      obtain ⟨active, hidden⟩ := own d before (face.id.symm.trans id)
      exact ⟨face.state.trans active, face.visible.trans hidden⟩
    · have late : s.mux.nextDeviceId ≤ (s'.mux.dev d).id := late
      omega
  single := workers ▸ ledger.single

theorem hushed (ledger : Ledger env owed s) (faithful : Faithful env) (sound : Sound anything s.sys)
    {served : Option ClientPtr} (changes : SysRun (hushed env) served s.sys s'.sys) (workers : s'.workers = s.workers) :
    Ledger env owed s' :=
  ledger.unmoved (changes.unmoved (sound_hushed.mpr sound)) workers
    (changes.briefed faithful (sound_hushed.mpr sound) ledger.briefed)

/-- A device leaves the list. -/
theorem leaves (ledger : Ledger env owed s) {d : DevPtr} (leaves : Leaves d s.sys s'.sys) (registry : Registry s.sys)
    (listed : d ∈ s.mux.deviceList) (workers : s'.workers = s.workers)
    (briefed : Briefed env (s.sys.live \ {(s.mux.dev d).id}) (s.sys.shown \ {(s.mux.dev d).id}) owed s'.sys) :
    Ledger env owed s' where
  briefed := by
    have shown := leaves.shown_eq registry listed
    rw [shown]
    exact briefed.forget (leaves.live_subset registry listed) (shown ▸ s'.sys.shown_subset_live)
  hidden d' listed' waiting := by
    obtain ⟨before, _, face⟩ := leaves.only d' listed'
    exact face.visible.trans (ledger.hidden d' before (face.state.symm.trans waiting))
  staffed info member := by
    obtain ⟨below, own⟩ := ledger.staffed info (workers ▸ member)
    refine ⟨Nat.lt_of_lt_of_le below leaves.next, fun d' listed' id => ?_⟩
    obtain ⟨before, _, face⟩ := leaves.only d' listed'
    obtain ⟨active, hidden⟩ := own d' before (face.id.symm.trans id)
    exact ⟨face.state.trans active, face.visible.trans hidden⟩
  single := workers ▸ ledger.single

/-- A device that has no worker becomes active or visible. -/
theorem alters (ledger : Ledger env owed s) {d : DevPtr} (alters : Alters d s.sys s'.sys)
    (workers : s'.workers = s.workers)
    (idle : (s.mux.dev d).id ∉ s.workers.map DeviceInfo.id)
    (briefed : Briefed env s'.sys.live s'.sys.shown owed s'.sys) : Ledger env owed s' := by
  have list (d' : DevPtr) (listed' : d' ∈ s'.mux.deviceList) : d' ∈ s.mux.deviceList := by
    have same : s'.mux.deviceList = s.mux.deviceList := alters.list
    exact same ▸ listed'
  refine ⟨briefed, fun d' listed' waiting => ?_, fun info member => ?_, workers ▸ ledger.single⟩
  · have other : d' ≠ d := fun same => by
      have active : (s'.mux.dev d').state = .active := same ▸ alters.active
      simp [active] at waiting
    have same : s'.mux.dev d' = s.mux.dev d' := alters.others d' other
    rw [same] at waiting ⊢
    exact ledger.hidden d' (list d' listed') waiting
  · rw [workers] at member
    obtain ⟨below, own⟩ := ledger.staffed info member
    refine ⟨Nat.lt_of_lt_of_eq below alters.next.symm, fun d' listed' id => ?_⟩
    have other : d' ≠ d := fun same => idle <| by
      have named : (s.mux.dev d).id = info.id := (alters.ids d).symm.trans (same ▸ id)
      exact named ▸ List.mem_map_of_mem member
    have same : s'.mux.dev d' = s.mux.dev d' := alters.others d' other
    rw [same] at id ⊢
    exact own d' (list d' listed') id

/-- A device in its handshake has no worker. -/
theorem unstaffed (ledger : Ledger env owed s) {d : DevPtr} (listed : d ∈ s.mux.deviceList)
    (waiting : (s.mux.dev d).state = .init) : (s.mux.dev d).id ∉ s.workers.map DeviceInfo.id := by
  intro member
  obtain ⟨info, member, id⟩ := List.mem_map.mp member
  have active := ((ledger.staffed info member).2 d listed id.symm).1
  simp [waiting] at active

end Ledger

end Usbmuxd
