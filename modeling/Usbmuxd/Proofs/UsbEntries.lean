import Usbmuxd.ToMathlib.Update
import Usbmuxd.Model.Usb.Startup

/-! # The list of USB devices

What the functions of `usb.c` do to the devices in `device_list`: update one, add one at a place where
none is, or free one. Each keeps the list in order, with at most one device at a place. Bulk transfers
change nothing but the collections of their device.
-/

namespace Usbmuxd

open Collection

/-- Bus and address of a device. -/
def UsbEntry.place (e : UsbEntry) : UInt8 × UInt8 := (e.bus, e.address)

/-- A device without its bulk transfers. -/
def UsbEntry.bare (e : UsbEntry) : UsbEntry := { e with rxXfers := [], txXfers := [] }

/-- The callbacks of control transfers. -/
def Callback.control : Callback → Bool
  | rx _ | tx _ => false
  | getMode .. | switchMode .. | getLangid _ | getSerial _ => true

namespace Usb

section Frames

variable {s : Usb} {u : UsbPtr} {e : UsbEntry}

@[simp] theorem modify_inFlight (f : UsbEntry → UsbEntry) : (s.modify u f).inFlight = s.inFlight := by
  simp only [modify]
  split <;> rfl

@[simp] theorem modify_nextXfer (f : UsbEntry → UsbEntry) : (s.modify u f).nextXfer = s.nextXfer := by
  simp only [modify]
  split <;> rfl

@[simp] theorem touch_entry : (s.touch u).entry = s.entry := by
  simp only [touch]
  split <;> rfl

@[simp] theorem touch_inFlight : (s.touch u).inFlight = s.inFlight := by
  simp only [touch]
  split <;> rfl

@[simp] theorem submit_entry (env : UsbEnv) (x : XferPtr) (callback : Callback) :
    (submit env x callback s).2.entry = s.entry := by
  simp only [submit]
  split <;> rfl

theorem modify_present (present : s.entry u = some e) (f : UsbEntry → UsbEntry) :
    (s.modify u f).entry u = some (f e) := by
  simp [modify, present, setEntry]

theorem modify_of_present (present : s.entry u = some e) (f : UsbEntry → UsbEntry) :
    s.modify u f = s.setEntry u (some (f e)) := by
  rw [modify, present]

theorem modify_of_freed (freed : s.entry u = none) (f : UsbEntry → UsbEntry) :
    s.modify u f = s.fault (.freedDevice u) := by
  rw [modify, freed]

theorem modify_some {f : UsbEntry → UsbEntry} (there : (s.modify u f).entry u = some e) :
    ∃ e', s.entry u = some e' ∧ f e' = e := by
  rcases present : s.entry u with _ | e'
  · rw [modify_of_freed present] at there
    cases present.symm.trans there
  · exact ⟨e', rfl, Option.some.inj ((modify_present present f).symm.trans there)⟩

/-- A transfer that libusb has accepted. -/
def launch (s : Usb) (x : XferPtr) (callback : Callback) : Usb :=
  { s.bump with inFlight := Function.update s.inFlight x (some callback) }

/-- What `libusb_submit_transfer` does. -/
theorem submit_cases (env : UsbEnv) (x : XferPtr) (callback : Callback) (s : Usb) :
    (env.answers s.tick).result < 0 ∧ submit env x callback s = ((env.answers s.tick).result, s.bump) ∨
      (env.answers s.tick).result = 0 ∧ submit env x callback s = (0, s.launch x callback) := by
  have nonpos := (env.answers s.tick).nonpos
  by_cases refused : (env.answers s.tick).result < 0
  · exact .inl ⟨refused, by simp [submit, refused]⟩
  · have zero : (env.answers s.tick).result = 0 := by omega
    exact .inr ⟨zero, by simp [submit, zero, launch]⟩

end Frames

/-- `device_list` holds the devices that have not been freed, once each, and no two at one place. -/
structure Tidy (s : Usb) : Prop where
  listed : ∀ u, u ∈ s.deviceList ↔ (s.entry u).isSome
  once : s.deviceList.Nodup
  allocated : ∀ u e, s.entry u = some e → u < s.nextUsb
  apart : ∀ u v e f, s.entry u = some e → s.entry v = some f → e.place = f.place → u = v

theorem initial_tidy : initial.Tidy where
  listed _ := by simp [initial]
  once := List.nodup_nil
  allocated _ _ present := by cases present
  apart _ _ _ _ present := by cases present

section Tidy

variable {s s' : Usb} {u : UsbPtr} {e e' : UsbEntry} {bus address : UInt8}

theorem findDevice_some (found : findDevice bus address s = some u) :
    u ∈ s.deviceList ∧ ∃ e, s.entry u = some e ∧ e.place = (bus, address) := by
  refine ⟨List.mem_of_find?_eq_some found, ?_⟩
  have there := List.find?_some found
  rcases present : s.entry u with _ | e
  · simp [present] at there
  · refine ⟨e, rfl, ?_⟩
    simpa [present, UsbEntry.place, Prod.ext_iff] using there

namespace Tidy

theorem findDevice_none (tidy : s.Tidy) (absent : findDevice bus address s = none) (present : s.entry u = some e) :
    e.place ≠ (bus, address) := by
  intro here
  have listed : u ∈ s.deviceList := (tidy.listed u).mpr (by simp [present])
  have other := List.find?_eq_none.mp absent u listed
  simp only [UsbEntry.place, Prod.mk.injEq] at here
  simp [present, here] at other

theorem findDevice_of_place (tidy : s.Tidy) (present : s.entry u = some e) (here : e.place = (bus, address)) :
    findDevice bus address s = some u := by
  rcases found : findDevice bus address s with _ | v
  · exact absurd here (tidy.findDevice_none found present)
  · obtain ⟨-, f, there, same⟩ := findDevice_some found
    rw [tidy.apart u v e f present there (here.trans same.symm)]

theorem congr (tidy : s.Tidy) (entry : s'.entry = s.entry) (list : s'.deviceList = s.deviceList)
    (nextUsb : s'.nextUsb = s.nextUsb) : s'.Tidy where
  listed := by rw [list, entry]; exact tidy.listed
  once := by rw [list]; exact tidy.once
  allocated := by rw [entry, nextUsb]; exact tidy.allocated
  apart := by rw [entry]; exact tidy.apart

/-- The fields of a device change, but not its place. -/
theorem update (tidy : s.Tidy) (present : s.entry u = some e) (place : e'.place = e.place)
    (entry : s'.entry = Function.update s.entry u (some e')) (list : s'.deviceList = s.deviceList)
    (nextUsb : s'.nextUsb = s.nextUsb) : s'.Tidy := by
  have before {v : UsbPtr} {f : UsbEntry} (there : s'.entry v = some f) :
      ∃ g, s.entry v = some g ∧ f.place = g.place := by
    rcases Update.stored.mp (entry ▸ there) with ⟨rfl, rfl⟩ | ⟨-, known⟩
    · exact ⟨e, present, place⟩
    · exact ⟨f, known, rfl⟩
  refine ⟨fun v => ?_, list ▸ tidy.once, fun v f there => ?_, fun v w f g there there' same => ?_⟩
  · rw [list, entry, tidy.listed]
    by_cases here : v = u
    · subst here
      simp [present]
    · rw [Function.update_of_ne here]
  · obtain ⟨g, known, -⟩ := before there
    exact nextUsb ▸ tidy.allocated v g known
  · obtain ⟨f', known, place⟩ := before there
    obtain ⟨g', known', place'⟩ := before there'
    exact tidy.apart v w f' g' known known' (by rw [← place, ← place', same])

/-- A device is added at a place where none is. -/
theorem create (tidy : s.Tidy) (free : ∀ v f, s.entry v = some f → f.place ≠ e.place) {slot : ℕ}
    (entry : s'.entry = Function.update s.entry s.nextUsb (some e))
    (list : s'.deviceList = add slot s.nextUsb s.deviceList) (nextUsb : s'.nextUsb = s.nextUsb + 1) : s'.Tidy := by
  have unused : s.entry s.nextUsb = none := by
    rcases present : s.entry s.nextUsb with _ | f
    · rfl
    · exact absurd (tidy.allocated _ f present) (Nat.lt_irrefl _)
  have cases {v : UsbPtr} {f : UsbEntry} (there : s'.entry v = some f) :
      v = s.nextUsb ∧ e = f ∨ v ≠ s.nextUsb ∧ s.entry v = some f := Update.stored.mp (entry ▸ there)
  refine ⟨fun v => ?_, ?_, fun v f there => ?_, fun v w f g there there' same => ?_⟩
  · rw [list, entry, mem_add, tidy.listed]
    by_cases new : v = s.nextUsb
    · simp [new]
    · simp [new]
  · rw [list]
    refine nodup_add (fun member => ?_) tidy.once
    rw [tidy.listed, unused] at member
    exact Bool.noConfusion member
  · rw [nextUsb]
    rcases cases there with ⟨rfl, -⟩ | ⟨-, known⟩
    · exact Nat.lt_succ_self _
    · exact Nat.lt_succ_of_lt (tidy.allocated v f known)
  · rcases cases there with ⟨rfl, rfl⟩ | ⟨old, known⟩ <;> rcases cases there' with ⟨rfl, rfl⟩ | ⟨old', known'⟩
    · rfl
    · exact absurd same.symm (free w g known')
    · exact absurd same (free v f known)
    · exact tidy.apart v w f g known known' same

/-- A device is freed. -/
theorem free (tidy : s.Tidy) (entry : s'.entry = Function.update s.entry u none)
    (list : s'.deviceList = s.deviceList.erase u) (nextUsb : s'.nextUsb = s.nextUsb) : s'.Tidy := by
  have before {v : UsbPtr} {f : UsbEntry} (there : s'.entry v = some f) : s.entry v = some f :=
    (Update.removed.mp (entry ▸ there)).2
  refine ⟨fun v => ?_, ?_, fun v f there => ?_, fun v w f g there there' same => ?_⟩
  · rw [list, entry, tidy.once.mem_erase_iff, tidy.listed]
    by_cases here : v = u
    · simp [here]
    · simp [here]
  · rw [list]
    exact tidy.once.erase u
  · exact nextUsb ▸ tidy.allocated v f (before there)
  · exact tidy.apart v w f g (before there) (before there') same

end Tidy

end Tidy

/-- The control transfers in flight. -/
def controls (s : Usb) (x : XferPtr) : Option Callback := (s.inFlight x).filter Callback.control

/-- All transfers in flight have been allocated. -/
def Allocated (s : Usb) : Prop := ∀ x callback, s.inFlight x = some callback → x < s.nextXfer

section Controls

variable {s s' : Usb} {x : XferPtr} {callback : Callback}

theorem controls_congr (inFlight : s'.inFlight = s.inFlight) : s'.controls = s.controls := by
  funext y
  simp only [controls, inFlight]

theorem controls_update {held : Option Callback} (inFlight : s'.inFlight = Function.update s.inFlight x held) :
    s'.controls = Function.update s.controls x (held.filter Callback.control) := by
  funext y
  rw [controls, inFlight]
  exact Function.apply_update (fun _ => Option.filter Callback.control) s.inFlight x held y

theorem controls_launch (control : callback.control = true) :
    (s.launch x callback).controls = Function.update s.controls x (some callback) := by
  rw [controls_update (s := s) rfl, Option.filter_some, if_pos control]

theorem controls_launch_bulk (free : s.controls x = none) (bulk : callback.control = false) :
    (s.launch x callback).controls = s.controls := by
  rw [controls_update (s := s) rfl, Option.filter_some, if_neg (by simp [bulk]), ← free, Function.update_eq_self]

theorem Allocated.free (allocated : s.Allocated) : s.controls s.nextXfer = none := by
  rcases flying : s.inFlight s.nextXfer with _ | callback
  · simp [controls, flying]
  · exact absurd (allocated _ _ flying) (Nat.lt_irrefl _)

theorem Allocated.launch (allocated : s.Allocated) (known : x < s.nextXfer) : (s.launch x callback).Allocated := by
  intro y other flying
  rcases Update.stored.mp flying with ⟨rfl, -⟩ | ⟨-, earlier⟩
  · exact known
  · exact allocated y other earlier

private theorem Allocated.allocTransfer (allocated : s.Allocated) :
    s.allocTransfer.2.Allocated := fun x callback flying =>
  Nat.lt_succ_of_lt (allocated x callback flying)

end Controls

/-- What bulk transfers of a device may change. -/
structure Bulk (u : UsbPtr) (s s' : Usb) : Prop where
  others : ∀ v, v ≠ u → s'.entry v = s.entry v
  same : (s'.entry u).map UsbEntry.bare = (s.entry u).map UsbEntry.bare
  list : s'.deviceList = s.deviceList
  nextUsb : s'.nextUsb = s.nextUsb
  nextXfer : s.nextXfer ≤ s'.nextXfer
  flight : s.Allocated → s'.Allocated ∧ s'.controls = s.controls

section Bulk

variable {env : UsbEnv} {s s' s'' : Usb} {u : UsbPtr} {e : UsbEntry} {x : XferPtr}

namespace Bulk

theorem of_same (entry : s'.entry = s.entry) (list : s'.deviceList = s.deviceList)
    (nextUsb : s'.nextUsb = s.nextUsb)
    (inFlight : s'.inFlight = s.inFlight) (nextXfer : s.nextXfer ≤ s'.nextXfer) : Bulk u s s' :=
  ⟨fun _ _ => by rw [entry], by rw [entry], list, nextUsb, nextXfer, fun allocated =>
    ⟨fun x callback flying => (allocated x callback (inFlight ▸ flying)).trans_le nextXfer, controls_congr inFlight⟩⟩

private theorem refl (u : UsbPtr) (s : Usb) : Bulk u s s := of_same rfl rfl rfl rfl le_rfl

private theorem trans (first : Bulk u s s') (second : Bulk u s' s'') : Bulk u s s'' where
  others v other := (second.others v other).trans (first.others v other)
  same := second.same.trans first.same
  list := second.list.trans first.list
  nextUsb := second.nextUsb.trans first.nextUsb
  nextXfer := first.nextXfer.trans second.nextXfer
  flight allocated := by
    obtain ⟨known, controls⟩ := first.flight allocated
    obtain ⟨known', controls'⟩ := second.flight known
    exact ⟨known', controls'.trans controls⟩

theorem modify {f : UsbEntry → UsbEntry} (keeps : ∀ e, (f e).bare = e.bare) : Bulk u s (s.modify u f) := by
  rcases present : s.entry u with _ | e
  · rw [modify_of_freed present]
    exact of_same rfl rfl rfl rfl le_rfl
  · rw [modify_of_present present]
    refine ⟨fun v other => ?_, ?_, rfl, rfl, le_rfl, fun allocated => ⟨allocated, controls_congr rfl⟩⟩
    · simp [setEntry, other]
    · simp [setEntry, present, keeps]

private theorem launch_new {callback : Callback} (bulk : callback.control = false) :
    Bulk u s (s.allocTransfer.2.launch s.nextXfer callback) := by
  refine ⟨fun _ _ => rfl, rfl, rfl, rfl, Nat.le_succ _, fun allocated => ⟨?_, ?_⟩⟩
  · exact allocated.allocTransfer.launch (Nat.lt_succ_self _)
  · exact controls_launch_bulk allocated.free bulk

/-- What does not depend on the bulk transfers is unchanged. -/
theorem map {β : Type} (bulk : Bulk u s s') {f : UsbEntry → β} (bare : ∀ e, f e.bare = f e) (v : UsbPtr) :
    (s'.entry v).map f = (s.entry v).map f := by
  by_cases here : v = u
  · subst here
    have same := congrArg (Option.map f) bulk.same
    simpa only [Option.map_map, Function.comp_def, bare] using same
  · rw [bulk.others v here]

/-- The device is still there, with other transfers. -/
theorem present (bulk : Bulk u s s') (present : s.entry u = some e) :
    ∃ e', s'.entry u = some e' ∧ e'.bare = e.bare := by
  have same := bulk.same
  rw [present, Option.map_some] at same
  exact Option.map_eq_some_iff.mp same

/-- A device that is there was there before. -/
theorem before (bulk : Bulk u s s') {v : UsbPtr} {f : UsbEntry} (there : s'.entry v = some f) :
    ∃ g, s.entry v = some g ∧ g.bare = f.bare := by
  have same := bulk.map (f := UsbEntry.bare) (fun _ => rfl) v
  rw [there, Option.map_some] at same
  exact Option.map_eq_some_iff.mp same.symm

theorem tidy (bulk : Bulk u s s') (tidy : s.Tidy) : s'.Tidy := by
  rcases present : s.entry u with _ | e
  · refine tidy.congr (funext fun v => ?_) bulk.list bulk.nextUsb
    by_cases here : v = u
    · have gone := bulk.same
      rw [present, Option.map_none, Option.map_eq_none_iff] at gone
      rw [here, gone, present]
    · exact bulk.others v here
  · obtain ⟨e', there, same⟩ := bulk.present present
    have place : e'.place = e.place := (congrArg UsbEntry.place same : e'.bare.place = e.bare.place)
    refine tidy.update present place (funext fun v => ?_) bulk.list bulk.nextUsb
    by_cases here : v = u
    · rw [here, Function.update_self, there]
    · rw [Function.update_of_ne here, bulk.others v here]

end Bulk

private theorem submitTx_bulk (env : UsbEnv) (u : UsbPtr) (s : Usb) : Bulk u s (submitTx env u s).2 := by
  simp only [submitTx]
  rcases submit_cases env s.allocTransfer.1 (.tx u) s.allocTransfer.2 with ⟨refused, outcome⟩ | ⟨-, outcome⟩
  · rw [outcome, if_pos refused]
    exact .of_same rfl rfl rfl rfl (Nat.le_succ _)
  · rw [outcome, if_neg (Int.lt_irrefl 0)]
    have launched : Bulk u s (s.allocTransfer.2.launch s.nextXfer (.tx u)).bump :=
      (Bulk.launch_new rfl).trans (.of_same rfl rfl rfl rfl le_rfl)
    exact launched.trans (.modify fun _ => rfl)

theorem usbSend_bulk (env : UsbEnv) (u : UsbPtr) (length : ℕ) (s : Usb) : Bulk u s (usbSend env u length s).2 := by
  have sent := submitTx_bulk env u s
  simp only [usbSend]
  split
  · exact .of_same rfl rfl rfl rfl le_rfl
  split
  · exact sent
  split
  · exact sent.trans (.of_same rfl rfl rfl rfl le_rfl)
  split
  · split
    · exact sent.trans (submitTx_bulk env u _)
    · exact sent.trans (submitTx_bulk env u _)
  · exact sent

/-- What the mux layer sends are bulk transfers. -/
theorem usbSends_flight (env : UsbEnv) (sends : List (UsbPtr × ℕ)) (allocated : s.Allocated) :
    (usbSends env sends s).Allocated ∧ (usbSends env sends s).controls = s.controls ∧
      s.nextXfer ≤ (usbSends env sends s).nextXfer := by
  induction sends generalizing s with
  | nil => exact ⟨allocated, rfl, le_rfl⟩
  | cons send sends ih =>
    have sent := usbSend_bulk env send.1 send.2 s
    obtain ⟨still, same⟩ := sent.flight allocated
    obtain ⟨later, controls, nextXfer⟩ := ih still
    exact ⟨later, controls.trans same, sent.nextXfer.trans nextXfer⟩

private theorem startRxLoop_bulk (env : UsbEnv) (u : UsbPtr) (s : Usb) : Bulk u s (startRxLoop env u s).2 := by
  simp only [startRxLoop]
  rcases submit_cases env s.allocTransfer.1 (.rx u) s.allocTransfer.2 with ⟨refused, outcome⟩ | ⟨-, outcome⟩
  · rw [outcome, if_pos (Int.ne_of_lt refused)]
    exact .of_same rfl rfl rfl rfl (Nat.le_succ _)
  · rw [outcome, if_neg (not_not.mpr rfl)]
    have launched : Bulk u s (s.allocTransfer.2.launch s.nextXfer (.rx u)).bump :=
      (Bulk.launch_new rfl).trans (.of_same rfl rfl rfl rfl le_rfl)
    exact launched.trans (.modify fun _ => rfl)

theorem startRxLoops_bulk (env : UsbEnv) (u : UsbPtr) (loops : ℕ) (s : Usb) :
    Bulk u s (startRxLoops env u loops s).2 := by
  induction loops generalizing s with
  | zero => exact .refl u s
  | succ loops ih =>
    have started := startRxLoop_bulk env u s
    simp only [startRxLoops]
    split
    · exact started
    · exact started.trans (ih _)

end Bulk

end Usb

end Usbmuxd
