import Usbmuxd.ToMathlib.Presence
import Usbmuxd.Machine.Sound
import Usbmuxd.Proofs.Clients

/-! # What listeners are told

The messages queued for a client, read as notes about devices. A step is hushed when no device
answers or leaves, nobody starts to listen and only routine messages are queued. Such a step changes
neither what a client has been told nor which devices are shown.
-/

namespace Usbmuxd

open Presence Collection

/-- The device that a property list announces or calls off. -/
def Plist.notice? (plist : Plist) : Option (Note ℕ) :=
  match (plist.getItem "MessageType").bind Plist.stringVal? with
  | some "Attached" => (plist.getItem "DeviceID").map fun node => .attached node.uintVal.toNat
  | some "Detached" => (plist.getItem "DeviceID").map fun node => .detached node.uintVal.toNat
  | _ => none

/-- The device that a message announces or calls off. -/
def notice? (env : Env) (msg : MsgType) (payload : Bytes) : Option (Note ℕ) :=
  match msg with
  | .deviceAdd => some (.attached (le32At payload 0).toNat)
  | .deviceRemove => some (.detached (le32At payload 0).toNat)
  | .plist => (env.plistFromXml payload).bind Plist.notice?
  | _ => none

/-- The notes among the messages queued for a client, in order. -/
def notices (env : Env) (log : List ClientEvent) : List (Note ℕ) :=
  log.filterMap fun
    | .queued _ msg payload => notice? env msg payload
    | _ => none

/-- libplist reads back the announcements it has written. -/
def Faithful (env : Env) : Prop :=
  ∀ plist, (env.plistFromXml (env.plistToXml plist)).bind Plist.notice? = plist.notice?

variable {env : Env}

@[simp] theorem notices_nil : notices env [] = [] := rfl

@[simp] theorem notices_append (a b : List ClientEvent) : notices env (a ++ b) = notices env a ++ notices env b :=
  List.filterMap_append

@[simp] theorem notices_queued (tag : UInt32) (msg : MsgType) (payload : Bytes) (rest : List ClientEvent) :
    notices env (.queued tag msg payload :: rest) = (notice? env msg payload).toList ++ notices env rest := by
  simp only [notices, List.filterMap_cons]
  cases notice? env msg payload <;> rfl

private theorem Routine.silent (faithful : Faithful env) {msg : MsgType} {payload : Bytes}
    (routine : Routine env msg payload) :
    notice? env msg payload = none := by
  rcases routine with rfl | rfl | ⟨rfl, plist, rfl, routine⟩
  · rfl
  · rfl
  · rw [notice?, faithful plist, Plist.notice?]
    simp only [Plist.announces, Bool.or_eq_false_iff, decide_eq_false_iff_not] at routine
    split
    · next attached => exact absurd attached routine.1
    · next detached => exact absurd detached routine.2
    · rfl

/-- Devices may appear, but none answers or leaves, and only routine messages are sent. -/
def hushed (env : Env) : Laxity where
  early := True
  poor := True
  tells := Routine env
  listens := False
  travels := False

theorem grants_hushed (env : Env) : Grants env (hushed env) :=
  ⟨.inl trivial, fun _ _ routine => routine, fun _ _ _ _ => trivial⟩

/-- A client that was there before goes on as a listener or as none, and no note was queued for it. -/
def Unaddressed (env : Env) (view view' : ClientView) : Prop :=
  ∀ client', view'.1 = some client' → ∃ client, view.1 = some client ∧
    (client'.state = .listen ↔ client.state = .listen) ∧ notices env view'.2 = notices env view.2

namespace Unaddressed

variable {view view' view'' : ClientView}

private theorem refl (view : ClientView) :
    Unaddressed env view view := fun client present => ⟨client, present, .rfl, rfl⟩

private theorem trans (first : Unaddressed env view view') (second : Unaddressed env view' view'') :
    Unaddressed env view view'' := by
  intro client'' present
  obtain ⟨client', present', listening', notes'⟩ := second client'' present
  obtain ⟨client, present, listening, notes⟩ := first client' present'
  exact ⟨client, present, listening'.trans listening, notes'.trans notes⟩

private theorem of_log {client client' : MuxClient} (log : List ClientEvent) {events : List ClientEvent}
    (listening : client'.state = .listen ↔ client.state = .listen) (silent : notices env events = []) :
    Unaddressed env (some client, log) (some client', log ++ events) := by
  rintro _ ⟨⟩
  exact ⟨client, rfl, listening, by simp [silent]⟩

private theorem of_store {client client' : MuxClient} (log : List ClientEvent)
    (listening : client'.state = .listen ↔ client.state = .listen) :
    Unaddressed env (some client, log) (some client', log) := by
  rintro _ ⟨⟩
  exact ⟨client, rfl, listening, rfl⟩

end Unaddressed

private theorem MuxClient.dequeue_listening (client : MuxClient) (queue : Bytes) (size : ℕ) :
    (client.dequeue queue size).state = .listen ↔ client.state = .listen := by
  simp only [MuxClient.dequeue]
  split
  · split
    · next told => simp [told]
    · rfl
  · rfl

section Hushed

variable {served : Option ClientPtr} {S S' : Sys} (faithful : Faithful env)
include faithful

private theorem ClientStep.unaddressed {rules : ClientRules} (tells : rules.tells = Routine env) (deaf : ¬rules.listens)
    {view view' : ClientView} (change : ClientStep rules view view') : Unaddressed env view view' := by
  have silent {client : MuxClient} {capacity : UInt32} {msg : MsgType} {payload : Bytes}
      (posts : Posts rules client capacity msg payload) : notice? env msg payload = none :=
    Routine.silent faithful (tells ▸ posts.said)
  cases change with
  | queue client log capacity tag msg payload idle posts =>
    exact .of_log log .rfl (by simp [silent posts])
  | reply client log capacity tag number msg payload own idle posts answers =>
    exact .of_log log .rfl (by simp [silent posts, notices])
  | listen client log own free => exact absurd free deaf
  | inform => exact .of_store _ .rfl
  | read => exact .of_store _ .rfl
  | rest => exact .of_store _ .rfl
  | drain client log queue size => exact .of_log log (client.dequeue_listening queue size) rfl
  | write client log bytes => exact .of_log log .rfl rfl

private theorem ClientMove.unaddressed {rules : ClientRules} (tells : rules.tells = Routine env) (deaf : ¬rules.listens)
    {view view' : ClientView} (move : ClientMove rules view view') : Unaddressed env view view' := by
  induction move with
  | refl => exact .refl view
  | tail _ change ih => exact ih.trans (change.unaddressed faithful tells deaf)

/-- In a hushed step a client is left alone, or it is new and has been told nothing. -/
private theorem Turn.unaddressed {k : ClientPtr} (turn : Turn (hushed env) served S S' k) :
    Unaddressed env (S.client k) (S'.client k) ∨
      ∃ client', S'.client k = (some client', []) ∧ client'.state = .command := by
  have silent {rules : ClientRules} (tells : rules.tells = Routine env) {client : MuxClient} {capacity : UInt32}
      {msg : MsgType} {payload : Bytes} (posts : Posts rules client capacity msg payload) :
      notice? env msg payload = none := Routine.silent faithful (tells ▸ posts.said)
  cases turn with
  | moved move => exact .inl (ClientMove.unaddressed faithful rfl id move)
  | polled events before after =>
    rw [before, after]
    refine .inl (.of_store _ ?_)
    simp only [MuxClient.masked]
    split
    · rfl
    · split <;> rfl
  | accepted fd number next fresh free after => exact .inr ⟨_, after, rfl⟩
  | requested tag device own before idle holds record owner after =>
    rw [before, after]
    exact .inl (.of_log _ (by simp [idle]) rfl)
  | told c devents before pending holds record owner shown posts answers after =>
    rw [before, after]
    exact .inl (.of_log _ (by simp [pending]) (by simp [silent rfl posts, notices]))
  | refused c before pending foreign holds record owner gone unseen posts answers after =>
    rw [before, after]
    exact .inl (.of_log _ (by simp [pending]) (by simp [silent rfl posts, notices]))
  | closed before cause farewell after =>
    left
    intro client' present
    rw [after] at present
    cases present

end Hushed

/-- A listener has been told of exactly the shown devices, any other client of none. -/
def Informed (env : Env) (live shown : Set ℕ) (view : ClientView) : Prop :=
  ∀ client, view.1 = some client →
    (client.state = .listen → Follows live shown (notices env view.2)) ∧
      (client.state ≠ .listen → notices env view.2 = [])

/-- Every client has been told of the shown devices, apart from those it is still owed. -/
def Briefed (env : Env) (live shown : Set ℕ) (owed : ClientPtr → Set ℕ) (S : Sys) : Prop :=
  ∀ k, Informed env live (shown \ owed k) (S.client k)

private theorem Informed.unaddressed {live shown : Set ℕ} {view view' : ClientView}
    (informed : Informed env live shown view)
    (same : Unaddressed env view view') : Informed env live shown view' := by
  intro client' present
  obtain ⟨client, before, listening, notes⟩ := same client' present
  rw [notes, ne_eq, listening]
  exact informed client before

theorem SysRun.briefed {served : Option ClientPtr} {S S' : Sys} (changes : SysRun (hushed env) served S S')
    (faithful : Faithful env) (sound : Sound (hushed env) S) {live shown : Set ℕ} {owed : ClientPtr → Set ℕ}
    (briefed : Briefed env live shown owed S) : Briefed env live shown owed S' := by
  refine SysRun.keeps (motive := Briefed env live shown owed) changes sound (fun S S' sound change briefed k => ?_)
    briefed
  rcases (change.turn sound.linked.roster k).unaddressed faithful with same | ⟨client', after, idle⟩
  · exact (briefed k).unaddressed same
  · rw [after]
    rintro _ ⟨⟩
    exact ⟨fun listening => by simp [idle] at listening, fun _ => rfl⟩

/-- What clients can know about a device. -/
structure MuxDevice.SameFace (dev dev' : MuxDevice) : Prop where
  id : dev'.id = dev.id
  state : dev'.state = dev.state
  visible : dev'.visible = dev.visible

namespace MuxDevice.SameFace

variable {first second third : MuxDevice}

theorem refl (dev : MuxDevice) : dev.SameFace dev := ⟨rfl, rfl, rfl⟩

private theorem trans (one : first.SameFace second) (two : second.SameFace third) : first.SameFace third :=
  ⟨two.id.trans one.id, two.state.trans one.state, two.visible.trans one.visible⟩

end MuxDevice.SameFace

namespace Sys

/-- The ids of the devices that clients are shown. -/
def shown (S : Sys) : Set ℕ :=
  {i | ∃ d ∈ S.deviceList, (S.dev d).1.state = .active ∧ (S.dev d).1.visible = true ∧ (S.dev d).1.id = i}

/-- The ids of the devices that are listed or still to come. -/
def live (S : Sys) : Set ℕ := {i | S.nextDeviceId ≤ i ∨ ∃ d ∈ S.deviceList, (S.dev d).1.id = i}

theorem shown_subset_live (S : Sys) : S.shown ⊆ S.live := by
  rintro i ⟨d, listed, _, _, id⟩
  exact .inr ⟨d, listed, id⟩

end Sys

/-- Devices may have been added, but those there were look the same. -/
structure Unmoved (S S' : Sys) : Prop where
  kept : ∀ d ∈ S.deviceList, d ∈ S'.deviceList ∧ (S.dev d).1.SameFace (S'.dev d).1
  news : ∀ d ∈ S'.deviceList, d ∈ S.deviceList ∨
    (S'.dev d).1.state = .init ∧ (S'.dev d).1.visible = false ∧ S.nextDeviceId ≤ (S'.dev d).1.id
  next : S.nextDeviceId ≤ S'.nextDeviceId

namespace Unmoved

variable {S S' S'' : Sys}

private theorem refl (S : Sys) :
    Unmoved S S := ⟨fun _ listed => ⟨listed, .refl _⟩, fun _ listed => .inl listed, Nat.le_refl _⟩

private theorem trans (first : Unmoved S S') (second : Unmoved S' S'') : Unmoved S S'' where
  kept d listed := by
    obtain ⟨listed', face⟩ := first.kept d listed
    obtain ⟨listed'', face'⟩ := second.kept d listed'
    exact ⟨listed'', face.trans face'⟩
  news d listed := by
    rcases second.news d listed with listed' | ⟨init, hidden, late⟩
    · have face := (second.kept d listed').2
      rw [face.state, face.visible, face.id]
      exact first.news d listed'
    · exact .inr ⟨init, hidden, first.next.trans late⟩
  next := first.next.trans second.next

theorem shown_eq (unmoved : Unmoved S S') : S'.shown = S.shown := by
  ext i
  constructor
  · rintro ⟨d, listed, active, visible, id⟩
    rcases unmoved.news d listed with before | ⟨init, _⟩
    · have face := (unmoved.kept d before).2
      exact ⟨d, before, face.state ▸ active, face.visible ▸ visible, face.id ▸ id⟩
    · simp [active] at init
  · rintro ⟨d, listed, active, visible, id⟩
    obtain ⟨after, face⟩ := unmoved.kept d listed
    exact ⟨d, after, face.state.trans active, face.visible.trans visible, face.id.trans id⟩

theorem live_subset (unmoved : Unmoved S S') : S'.live ⊆ S.live := by
  rintro i (late | ⟨d, listed, rfl⟩)
  · exact .inl (unmoved.next.trans late)
  · rcases unmoved.news d listed with before | ⟨_, _, late⟩
    · exact .inr ⟨d, before, (unmoved.kept d before).2.id.symm⟩
    · exact .inl late

end Unmoved

private theorem WireStep.face {lax : Prop} {view view' : DevView} (change : WireStep lax False view view') :
    view.1.SameFace view'.1 := by
  cases change with
  | bookkeep log same seen => exact ⟨same.id, same.state, seen.resolve_right id⟩
  | tcp dev =>
    simp only [MuxDevice.advance]
    split <;> exact ⟨rfl, rfl, rfl⟩
  | received dev log buffer =>
    simp only [MuxDevice.track]
    split <;> exact ⟨rfl, rfl, rfl⟩
  | control => exact .refl _

private theorem SysStep.unmoved {served : Option ClientPtr} {S S' : Sys} (change : SysStep (hushed env) served S S')
    (registry : Registry S) : Unmoved S S' where
  kept d listed := by
    cases change.devTurn d with
    | same lists after => exact ⟨lists.mpr listed, after ▸ .refl _⟩
    | moved _ lists change => exact ⟨lists ▸ listed, change.face⟩
    | joined _ _ lists _ _ _ after | left _ _ lists _ after => exact ⟨lists ▸ listed, after ▸ ⟨rfl, rfl, rfl⟩⟩
    | arrived next => exact absurd (registry.known d listed) (by simp [next])
    | greeted _ free | retired free | departed free => exact free.elim
  news d listed := by
    cases change.devTurn d with
    | same lists => exact .inl (lists.mp listed)
    | moved before | joined _ before | left _ before => exact .inl before
    | arrived next later number handed after => exact .inr (by simp [after, newDevice])
    | greeted _ free | retired free | departed free => exact free.elim
  next := change.nextDev_le.2

theorem SysRun.unmoved {served : Option ClientPtr} {S S' : Sys} (changes : SysRun (hushed env) served S S')
    (sound : Sound (hushed env) S) : Unmoved S S' :=
  SysRun.keeps (motive := Unmoved S) changes sound
    (fun _ _ sound change before => before.trans (change.unmoved sound.linked.registry)) (.refl S)

end Usbmuxd
