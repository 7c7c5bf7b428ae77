import Usbmuxd.ToMathlib.History
import Usbmuxd.Proofs.UsbEntries

/-! # The start-up of USB devices

A device in `device_list` waits for a control transfer of its start-up, or for its return after a switch
of its mode, or it is in use, or it will be reaped. Two callbacks of the start-up return on failures
without doing anything; as long as they do not, one of the four is the case at any time.
-/

namespace Usbmuxd

open Collection History

/-- The stages of a device. -/
inductive Stage where
  /-- A control transfer of its start-up is pending. -/
  | asking
  /-- It has acknowledged a switch of its mode and will come back. -/
  | switching
  /-- `device_add` has succeeded for it and a receive loop was started. -/
  | serving
  /-- It is going to be reaped. -/
  | dead
deriving DecidableEq

/-- The flags of a device: alive, switched, added, receiving. -/
def UsbEntry.flags (e : UsbEntry) : Bool × Bool × Bool × Bool := (e.alive, e.switched, e.added, e.receiving)

def Stage.flags : Stage → Bool × Bool × Bool × Bool
  | asking => (true, false, false, false)
  | switching => (true, true, false, false)
  | serving => (true, false, true, true)
  | dead => (false, false, false, false)

/-- No bulk transfer of the device is known. -/
def UsbEntry.Idle (e : UsbEntry) : Prop := e.rxXfers = [] ∧ e.txXfers = []

namespace Callback

/-- The callback carries on the start-up of the device. The first two find it by its place. -/
def StartsUp (u : UsbPtr) (e : UsbEntry) : Callback → Prop
  | getMode context _ | switchMode context _ => e.place = (context.bus, context.address)
  | getLangid v | getSerial v => v = u
  | rx _ | tx _ => False

variable {callback : Callback} {u v : UsbPtr} {e f : UsbEntry}

private theorem StartsUp.control (starts : callback.StartsUp u e) : callback.control = true := by
  cases callback <;> first | rfl | exact starts.elim

theorem StartsUp.congr (starts : callback.StartsUp u e) (place : f.place = e.place) :
    callback.StartsUp u f := by
  cases callback with
  | getMode | switchMode => exact place.trans starts
  | getLangid | getSerial => exact starts
  | rx | tx => exact starts

private theorem StartsUp.unique {s : Usb} (tidy : s.Tidy) (starts : callback.StartsUp u e)
    (starts' : callback.StartsUp v f)
    (present : s.entry u = some e) (present' : s.entry v = some f) : u = v := by
  cases callback with
  | getMode | switchMode => exact tidy.apart u v e f present present' (starts.trans starts'.symm)
  | getLangid | getSerial => exact starts.symm.trans starts'
  | rx | tx => exact starts.elim

end Callback

namespace Usb

/-- A transfer in flight carries on the start-up of a device. -/
def Asks (s : Usb) (u : UsbPtr) (e : UsbEntry) (x : XferPtr) : Prop :=
  ∃ callback, s.inFlight x = some callback ∧ callback.StartsUp u e

/-- What it means for a device to be at a stage. -/
def At (s : Usb) (u : UsbPtr) (e : UsbEntry) : Stage → Prop
  | .asking => ∃ x, s.Asks u e x
  | .switching => e.switched = true
  | .serving => e.added = true ∧ e.receiving = true
  | .dead => e.alive = false

section Controls

variable {s s' : Usb} {u : UsbPtr} {e f : UsbEntry} {x : XferPtr}

theorem asks_iff : s.Asks u e x ↔ ∃ callback, s.controls x = some callback ∧ callback.StartsUp u e := by
  constructor
  · rintro ⟨callback, flying, starts⟩
    exact ⟨callback, by simp [controls, flying, starts.control], starts⟩
  · rintro ⟨callback, flying, starts⟩
    exact ⟨callback, (Option.filter_eq_some_iff.mp flying).1, starts⟩

private theorem Asks.congr (asks : s.Asks u e x) (controls : s'.controls = s.controls) (place : f.place = e.place) :
    s'.Asks u f x := by
  obtain ⟨callback, flying, starts⟩ := asks_iff.mp asks
  exact asks_iff.mpr ⟨callback, by rw [controls, flying], starts.congr place⟩

end Controls

/-- A device is at the stage that its flags say, and transfers of its start-up are in flight at the first
stage only. -/
structure Settled (s : Usb) (u : UsbPtr) (e : UsbEntry) : Prop where
  idle : e.added = false → e.Idle
  stage : ∃ stage : Stage, e.flags = stage.flags ∧ (stage = .asking ↔ ∃ x, s.Asks u e x)

/-- Every device is settled but for the one whose callback is running, which has no transfer in flight. -/
structure Staged (current : Option UsbPtr) (s : Usb) : Prop where
  tidy : s.Tidy
  allocated : s.Allocated
  owned : ∀ x callback, s.controls x = some callback → ∃ u e, s.entry u = some e ∧ callback.StartsUp u e
  single : ∀ u e, s.entry u = some e → ∀ x y, s.Asks u e x → s.Asks u e y → x = y
  settled : ∀ u e, s.entry u = some e → some u ≠ current → s.Settled u e
  silent : ∀ u e, s.entry u = some e → some u = current → ∀ x, ¬s.Asks u e x

private theorem Settled.unique {s : Usb} {u : UsbPtr} {e : UsbEntry} (settled : s.Settled u e) :
    ∃! stage, s.At u e stage := by
  obtain ⟨stage, flags, asking⟩ := settled.stage
  have only (other : Stage) : s.At u e other ↔ other = stage := by
    simp only [UsbEntry.flags] at flags
    cases other with
    | asking => rw [At, ← asking, eq_comm]
    | switching | serving | dead => cases stage <;> simp_all [At, Stage.flags]
  exact ⟨stage, (only stage).mpr rfl, fun other => (only other).mp⟩

section Staged

variable {env : UsbEnv} {s s' : Usb} {u : UsbPtr} {e e' : UsbEntry} {x : XferPtr} {current : Option UsbPtr}
  {callback : Callback}

namespace Staged

private theorem transfer (staged : Staged current s) (tidy : s'.Tidy) (allocated : s'.Allocated)
    (controls : s'.controls = s.controls)
    (place : ∀ v, (s'.entry v).map UsbEntry.place = (s.entry v).map UsbEntry.place)
    (flags : ∀ v, some v ≠ current → (s'.entry v).map UsbEntry.flags = (s.entry v).map UsbEntry.flags)
    (idle : ∀ v f, some v ≠ current → s'.entry v = some f → f.added = false → f.Idle) : Staged current s' := by
  have before {v : UsbPtr} {f : UsbEntry} (there : s'.entry v = some f) :
      ∃ g, s.entry v = some g ∧ f.place = g.place := by
    have known := place v
    rw [there, Option.map_some] at known
    obtain ⟨g, present, same⟩ := Option.map_eq_some_iff.mp known.symm
    exact ⟨g, present, same.symm⟩
  refine ⟨tidy, allocated, fun y callback flying => ?_, fun v f there y z asks asks' => ?_,
    fun v f there other => ⟨idle v f other there, ?_⟩, fun v f there here y asks => ?_⟩
  · obtain ⟨v, g, present, starts⟩ := staged.owned y callback (controls ▸ flying)
    have known := place v
    rw [present, Option.map_some] at known
    obtain ⟨f, there, same⟩ := Option.map_eq_some_iff.mp known
    exact ⟨v, f, there, starts.congr same⟩
  · obtain ⟨g, present, same⟩ := before there
    exact staged.single v g present y z (asks.congr controls.symm same.symm) (asks'.congr controls.symm same.symm)
  · obtain ⟨g, present, same⟩ := before there
    obtain ⟨stage, known, asking⟩ := (staged.settled v g present other).stage
    have equal := flags v other
    rw [there, present] at equal
    refine ⟨stage, (Option.some.inj equal).trans known, asking.trans
      (exists_congr fun y => ⟨fun asks => ?_, fun asks => ?_⟩)⟩
    · exact asks.congr controls same
    · exact asks.congr controls.symm same.symm
  · obtain ⟨g, present, same⟩ := before there
    exact staged.silent v g present here y (asks.congr controls.symm same.symm)

private theorem congr (staged : Staged current s) (entry : s'.entry = s.entry) (list : s'.deviceList = s.deviceList)
    (nextUsb : s'.nextUsb = s.nextUsb) (inFlight : s'.inFlight = s.inFlight) (nextXfer : s.nextXfer ≤ s'.nextXfer) :
    Staged current s' := by
  refine staged.transfer (staged.tidy.congr entry list nextUsb) (fun x callback flying => ?_) (controls_congr inFlight)
    (fun v => by rw [entry]) (fun v _ => by rw [entry]) fun v f other there => ?_
  · exact (staged.allocated x callback (inFlight ▸ flying)).trans_le nextXfer
  · exact (staged.settled v f (entry ▸ there) other).idle

private theorem setEntry (staged : Staged (some u) s) (present : s.entry u = some e) (e' : UsbEntry)
    (place : e'.place = e.place) :
    Staged (some u) (s.setEntry u (some e')) := by
  have elsewhere {v : UsbPtr} (other : some v ≠ some u) : (s.setEntry u (some e')).entry v = s.entry v :=
    Function.update_of_ne (fun same => other (congrArg some same)) ..
  refine staged.transfer (staged.tidy.update present place rfl rfl rfl) staged.allocated (controls_congr rfl)
    (fun v => ?_) (fun v other => by rw [elsewhere other]) fun v f other there => ?_
  · by_cases here : v = u
    · subst here
      simp [Usb.setEntry, present, place]
    · rw [elsewhere fun same => here (Option.some.inj same)]
  · exact (staged.settled v f (elsewhere other ▸ there) other).idle

private theorem bulk (staged : Staged current s) (bulk : Bulk u s s')
    (idle : ∀ f, some u ≠ current → s'.entry u = some f → f.added = false → f.Idle) : Staged current s' := by
  obtain ⟨allocated, controls⟩ := bulk.flight staged.allocated
  refine staged.transfer (bulk.tidy staged.tidy) allocated controls (bulk.map fun _ => rfl)
    (fun v _ => bulk.map (fun _ => rfl) v)
    fun v f other there => ?_
  by_cases here : v = u
  · subst here
    exact idle f other there
  · exact (staged.settled v f (bulk.others v here ▸ there) other).idle

private theorem rested (staged : Staged (some u) s) (present : s.entry u = some e) (idle : e.added = false → e.Idle)
    (stage : Stage) (flags : e.flags = stage.flags) (resting : stage ≠ .asking) : Staged none s := by
  refine ⟨staged.tidy, staged.allocated, staged.owned, staged.single, fun v f there _ => ?_,
    fun _ _ _ same => by cases same⟩
  by_cases here : v = u
  · subst here
    obtain rfl : e = f := Option.some.inj (present.symm.trans there)
    refine ⟨idle, stage, flags, iff_of_false resting ?_⟩
    rintro ⟨x, asks⟩
    exact staged.silent v e present rfl x asks
  · exact staged.settled v f there fun same => here (Option.some.inj same)

private theorem asked (staged : Staged (some u) s) (present : s.entry u = some e) (idle : e.Idle)
    (flags : e.flags = Stage.asking.flags) (starts : callback.StartsUp u e) (free : s.controls x = none)
    (known : x < s.nextXfer) : Staged none (s.launch x callback) := by
  have controls : (s.launch x callback).controls = Function.update s.controls x (some callback) :=
    controls_launch starts.control
  have asks : (s.launch x callback).Asks u e x := ⟨callback, by simp [Usb.launch], starts⟩
  have elsewhere {v : UsbPtr} {f : UsbEntry} (there : s.entry v = some f) (other : v ≠ u) (y : XferPtr) :
      (s.launch x callback).Asks v f y ↔ s.Asks v f y := by
    rw [asks_iff, asks_iff, controls]
    by_cases here : y = x
    · subst here
      rw [Function.update_self, free]
      refine iff_of_false ?_ (by simp)
      rintro ⟨same, equal, starts'⟩
      obtain rfl := Option.some.inj equal
      exact other (starts'.unique staged.tidy starts there present)
    · rw [Function.update_of_ne here]
  have only {y : XferPtr} (asks : (s.launch x callback).Asks u e y) : y = x := by
    by_contra here
    rw [asks_iff, controls, Function.update_of_ne here, ← asks_iff] at asks
    exact staged.silent u e present rfl y asks
  refine ⟨staged.tidy.congr rfl rfl rfl, staged.allocated.launch known, fun y other flying => ?_,
    fun v f there y z asks asks' => ?_, fun v f there _ => ?_, fun _ _ _ same => by cases same⟩
  · rcases Update.stored.mp (controls ▸ flying) with ⟨-, rfl⟩ | ⟨-, earlier⟩
    · exact ⟨u, e, present, starts⟩
    · exact staged.owned y other earlier
  · by_cases here : v = u
    · subst here
      obtain rfl : e = f := Option.some.inj (present.symm.trans there)
      rw [only asks, only asks']
    · exact staged.single v f there y z ((elsewhere there here y).mp asks) ((elsewhere there here z).mp asks')
  · by_cases here : v = u
    · subst here
      obtain rfl : e = f := Option.some.inj (present.symm.trans there)
      exact ⟨fun _ => idle, .asking, flags, iff_of_true rfl ⟨x, asks⟩⟩
    · obtain ⟨idle, stage, flags, asking⟩ := staged.settled v f there fun same => here (Option.some.inj same)
      exact ⟨idle, stage, flags, asking.trans (exists_congr fun y => (elsewhere there here y).symm)⟩

private theorem freed (staged : Staged (some u) s) (present : s.entry u = some e) : Staged none (freeDevice u s) := by
  have result : freeDevice u s = { s.setEntry u none with deviceList := s.deviceList.erase u } := by
    rw [freeDevice, present]
  rw [result]
  have before {v : UsbPtr} {f : UsbEntry} (there : (s.setEntry u none).entry v = some f) :
      v ≠ u ∧ s.entry v = some f := Update.removed.mp there
  refine ⟨staged.tidy.free rfl rfl rfl, staged.allocated, fun y callback flying => ?_, fun v f there => ?_,
    fun v f there _ => ?_, fun _ _ _ same => by cases same⟩
  · obtain ⟨v, f, there, starts⟩ := staged.owned y callback flying
    refine ⟨v, f, Update.removed.mpr ⟨?_, there⟩, starts⟩
    rintro rfl
    obtain rfl : e = f := Option.some.inj (present.symm.trans there)
    exact staged.silent v e present rfl y (asks_iff.mpr ⟨callback, flying, starts⟩)
  · exact staged.single v f (before there).2
  · obtain ⟨other, known⟩ := before there
    obtain ⟨idle, stage⟩ := staged.settled v f known fun same => other (Option.some.inj same)
    exact ⟨idle, stage⟩

private theorem called (staged : Staged none s) (flying : s.inFlight x = some callback)
    (control : callback.control = true) :
    ∃ u e, s.entry u = some e ∧ callback.StartsUp u e ∧ e.Idle ∧ e.flags = Stage.asking.flags ∧
      Staged (some u) { s with inFlight := Function.update s.inFlight x none } := by
  have known : s.controls x = some callback := by simp [controls, flying, control]
  have controls : ({ s with inFlight := Function.update s.inFlight x none } : Usb).controls =
      Function.update s.controls x none := by
    rw [controls_update (s := s) rfl, Option.filter_none]
  have earlier {v : UsbPtr} {f : UsbEntry} {y : XferPtr}
      (asks : ({ s with inFlight := Function.update s.inFlight x none } : Usb).Asks v f y) : y ≠ x ∧ s.Asks v f y := by
    rw [asks_iff, controls] at asks
    obtain ⟨other, flying, starts⟩ := asks
    obtain ⟨here, earlier⟩ := Update.removed.mp flying
    exact ⟨here, asks_iff.mpr ⟨other, earlier, starts⟩⟩
  obtain ⟨u, e, present, starts⟩ := staged.owned x callback known
  have asks : s.Asks u e x := ⟨callback, flying, starts⟩
  obtain ⟨idle, stage, flags, asking⟩ := staged.settled u e present (by simp)
  obtain rfl : stage = .asking := asking.mpr ⟨x, asks⟩
  have unused : e.added = false := by
    simp only [UsbEntry.flags, Stage.flags, Prod.mk.injEq] at flags
    exact flags.2.2.1
  refine ⟨u, e, present, starts, idle unused, flags, staged.tidy.congr rfl rfl rfl, fun y other flying => ?_,
    fun y other flying => ?_, fun v f there y z asks asks' => ?_, fun v f there other => ?_,
      fun v f there here y asks' => ?_⟩
  · exact staged.allocated y other (Update.removed.mp flying).2
  · exact staged.owned y other (Update.removed.mp (controls ▸ flying)).2
  · exact staged.single v f there y z (earlier asks).2 (earlier asks').2
  · obtain ⟨idle, stage, flags, asking⟩ := staged.settled v f there (by simp)
    refine ⟨idle, stage, flags, asking.trans (exists_congr fun y => ⟨fun asks' => ?_, fun asks' => (earlier asks').2⟩)⟩
    obtain ⟨callback', flying', starts'⟩ := asks'
    refine ⟨callback', ?_, starts'⟩
    have distinct : y ≠ x := by
      rintro rfl
      rw [flying] at flying'
      obtain rfl := Option.some.inj flying'
      exact other (congrArg some (starts'.unique staged.tidy starts there present))
    simpa [distinct] using flying'
  · obtain rfl : v = u := Option.some.inj here
    obtain rfl : e = f := Option.some.inj (present.symm.trans there)
    obtain ⟨distinct, asks'⟩ := earlier asks'
    exact distinct (staged.single v e present y x asks' asks)

private theorem created (staged : Staged none s) (absent : findDevice e.bus e.address s = none)
    (slot tick nextHandle : ℕ) :
    Staged (some s.nextUsb) { s.setEntry s.nextUsb (some e) with
      tick := tick, nextUsb := s.nextUsb + 1, nextHandle := nextHandle, deviceList :=
        add slot s.nextUsb s.deviceList } := by
  have free : ∀ v f, s.entry v = some f → f.place ≠ e.place := fun v f there =>
    staged.tidy.findDevice_none absent there
  have cases {v : UsbPtr} {f : UsbEntry} (there : (s.setEntry s.nextUsb (some e)).entry v = some f) :
      v = s.nextUsb ∧ e = f ∨ v ≠ s.nextUsb ∧ s.entry v = some f := Update.stored.mp there
  have old {v : UsbPtr} {f : UsbEntry} (there : s.entry v = some f) : v ≠ s.nextUsb := fun new =>
    Nat.lt_irrefl _ (new ▸ staged.tidy.allocated v f there)
  have silent (y : XferPtr) : ¬s.Asks s.nextUsb e y := by
    rw [asks_iff]
    rintro ⟨callback, flying, starts⟩
    obtain ⟨v, f, there, starts'⟩ := staged.owned y callback flying
    cases callback with
    | getMode | switchMode => exact free v f there (starts'.trans starts.symm)
    | getLangid | getSerial => exact old there (starts'.symm.trans starts)
    | rx | tx => exact starts
  refine ⟨staged.tidy.create free rfl rfl rfl, staged.allocated, fun y callback flying => ?_,
    fun v f there y z asks asks' => ?_,
    fun v f there other => ?_, fun v f there new y => ?_⟩
  · obtain ⟨v, f, there, starts⟩ := staged.owned y callback flying
    exact ⟨v, f, by simpa [Usb.setEntry, old there] using there, starts⟩
  · rcases cases there with ⟨rfl, rfl⟩ | ⟨-, known⟩
    · exact absurd asks (silent y)
    · exact staged.single v f known y z asks asks'
  · rcases cases there with ⟨rfl, rfl⟩ | ⟨-, known⟩
    · exact absurd rfl other
    · obtain ⟨idle, stage⟩ := staged.settled v f known (by simp)
      exact ⟨idle, stage⟩
  · obtain rfl : v = s.nextUsb := Option.some.inj new
    rcases cases there with ⟨-, rfl⟩ | ⟨new, -⟩
    · exact silent y
    · exact absurd rfl new

private theorem failed (staged : Staged (some u) s) (present : s.entry u = some e) (idle : e.Idle)
    (flags : e.flags = Stage.asking.flags) : Staged none (s.fail u) := by
  rw [Usb.fail, modify_of_present present]
  have updated := staged.setEntry present { e with alive := false, lost := true } rfl
  refine updated.rested (Function.update_self ..) (fun _ => idle) .dead ?_ (by decide)
  simp_all [UsbEntry.flags, Stage.flags]

end Staged

/-- A transfer of the start-up of the current device is allocated and submitted. -/
private theorem submit_staged (env : UsbEnv) (staged : Staged (some u) s) (present : s.entry u = some e) (idle : e.Idle)
    (flags : e.flags = Stage.asking.flags) (starts : callback.StartsUp u e) :
    let r := submit env s.allocTransfer.1 callback s.allocTransfer.2
    (r.1 ≠ 0 → Staged none (r.2.fail u)) ∧ (¬r.1 < 0 → Staged none r.2) := by
  intro r
  have ready : Staged (some u) s.allocTransfer.2 := staged.congr rfl rfl rfl rfl (Nat.le_succ _)
  rcases submit_cases env s.allocTransfer.1 callback s.allocTransfer.2 with ⟨refused, outcome⟩ | ⟨-, outcome⟩
  · have ticked : Staged (some u) s.allocTransfer.2.bump := ready.congr rfl rfl rfl rfl le_rfl
    simp only [r, outcome]
    exact ⟨fun _ => ticked.failed present idle flags, absurd refused⟩
  · simp only [r, outcome]
    exact ⟨absurd rfl, fun _ => ready.asked present idle flags starts staged.allocated.free (Nat.lt_succ_self _)⟩

/-- `device_complete_initialization` asks for the language id, or the device has failed. -/
private theorem deviceCompleteInitialization_staged {context : ModeContext} {handle : ℕ} (staged : Staged (some u) s)
    (present : s.entry u = some e) (place : e.place = (context.bus, context.address)) (idle : e.Idle)
    (flags : e.flags = Stage.asking.flags) :
    Staged none (deviceCompleteInitialization env context handle s) := by
  rw [deviceCompleteInitialization, staged.tidy.findDevice_of_place present place]
  simp only [present]
  generalize setValidConfiguration env context.dev e.bNumConfigurations e.endpoints s.tick = r
  have configured (tick : ℕ) :
      Staged (some u) { s.setEntry u (some { e with endpoints := r.2.endpoints }) with tick := tick } := by
    have updated := staged.setEntry present { e with endpoints := r.2.endpoints } rfl
    exact updated.congr rfl rfl rfl rfl le_rfl
  have failed (tick : ℕ) :
      Staged none (Usb.fail { s.setEntry u (some { e with endpoints := r.2.endpoints }) with tick := tick } u) :=
    (configured tick).failed (Function.update_self ..) idle flags
  split
  · exact failed _
  split
  · exact failed _
  split
  · exact failed _
  split
  · exact failed _
  generalize (env.answers _).value = size
  have updated := (configured (r.2.tick + 4)).setEntry (Function.update_self ..)
    (UsbEntry.completed { e with endpoints := r.2.endpoints } context handle size) place.symm
  have alive : (UsbEntry.completed { e with endpoints := r.2.endpoints } context handle size).flags =
      Stage.asking.flags := by
    simp_all [UsbEntry.flags, Stage.flags, UsbEntry.completed]
  have starts : (Callback.getLangid u).StartsUp u
      (UsbEntry.completed { e with endpoints := r.2.endpoints } context handle size) := rfl
  have asked := submit_staged env updated (Function.update_self ..) idle alive starts
  split
  · next refused => exact asked.1 refused.ne
  · next accepted => exact asked.2 accepted

private theorem switchModeCb_staged {context : ModeContext} {handle : ℕ} (status : TransferStatus) (data : Bytes)
    (staged : Staged (some u) s) (present : s.entry u = some e) (place : e.place = (context.bus, context.address))
    (idle : e.Idle) (flags : e.flags = Stage.asking.flags) :
    Staged none (switchModeCb env context handle status data s) := by
  rw [switchModeCb]
  split
  · exact deviceCompleteInitialization_staged staged present place idle flags
  · rw [staged.tidy.findDevice_of_place present place]
    simp only [modify_of_present present]
    have updated := staged.setEntry present { e with switched := true } rfl
    refine updated.rested (Function.update_self ..) (fun _ => idle) .switching ?_ (by decide)
    simp_all [UsbEntry.flags, Stage.flags]

private theorem getModeCb_staged {context : ModeContext} {handle : ℕ} (status : TransferStatus)
    (staged : Staged (some u) s) (present : s.entry u = some e) (place : e.place = (context.bus, context.address))
    (idle : e.Idle) (flags : e.flags = Stage.asking.flags) :
    Staged none (getModeCb env context handle status s) := by
  rw [getModeCb, staged.tidy.findDevice_of_place present place]
  dsimp only
  split
  · exact deviceCompleteInitialization_staged staged present place idle flags
  generalize guessMode env context.dev _ s.tick = guess
  have ticked : Staged (some u) { s with tick := guess.2 } := staged.congr rfl rfl rfl rfl le_rfl
  have starts : (Callback.switchMode context handle).StartsUp u e := place
  split
  · have asked := submit_staged env ticked present idle flags starts
    split
    · next refused => exact asked.1 refused
    · next accepted => exact asked.2 (not_not.mp accepted).not_lt
  · exact deviceCompleteInitialization_staged ticked present place idle flags

/-- `get_langid_callback`, when the language id was received and the serial number can be asked for. -/
private theorem getLangidCallback_staged (staged : Staged (some u) s) (present : s.entry u = some e) (idle : e.Idle)
    (flags : e.flags = Stage.asking.flags) (called : s.inFlight x = none) (known : x < s.nextXfer)
    (accepted : (env.answers s.tick).result = 0) : Staged none (getLangidCallback env x u .completed s) := by
  rw [getLangidCallback, present]
  dsimp only
  rw [if_neg (not_not.mpr rfl)]
  rcases submit_cases env x (.getSerial u) s with ⟨refused, -⟩ | ⟨-, outcome⟩
  · omega
  · rw [outcome]
    exact staged.asked present idle flags rfl (by simp [controls, called]) known

private theorem getSerialCallback_staged (data : Bytes) (staged : Staged (some u) s) (present : s.entry u = some e)
    (flags : e.flags = Stage.asking.flags) : Staged none (getSerialCallback env u .completed data s) := by
  rw [getSerialCallback, present]
  dsimp only
  rw [if_neg (not_not.mpr rfl)]
  have named := staged.setEntry present { e with serial := serialNumber data } rfl
  have there : (s.setEntry u (some { e with serial := serialNumber data })).entry u =
      some { e with serial := serialNumber data } := Function.update_self ..
  generalize s.setEntry u (some { e with serial := serialNumber data }) = s at named there
  have requests := usbSend_bulk env u 20 s
  obtain ⟨e₁, there₁, same₁⟩ := requests.present there
  have requested := named.bulk requests fun f other => absurd rfl other
  split
  · exact requested.freed there₁
  rw [modify_of_present there₁]
  have added := requested.setEntry there₁ { e₁ with added := true } rfl
  have loops := startRxLoops_bulk env u 3 ((usbSend env u 20 s).2.setEntry u (some { e₁ with added := true }))
  obtain ⟨e₂, there₂, same₂⟩ := loops.present (Function.update_self ..)
  have started := added.bulk loops fun f other => absurd rfl other
  split
  · exact started.freed there₂
  rw [modify_of_present there₂]
  have receiving := started.setEntry there₂ { e₂ with receiving := true } rfl
  have flags₁ : e₁.flags = Stage.asking.flags :=
    (congrArg UsbEntry.flags same₁ : e₁.bare.flags = UsbEntry.flags (UsbEntry.bare _)).trans flags
  have flags₂ : e₂.flags = UsbEntry.flags { e₁ with added := true } :=
    (congrArg UsbEntry.flags same₂ : e₂.bare.flags = UsbEntry.flags (UsbEntry.bare _))
  have inUse : UsbEntry.flags { e₂ with receiving := true } = Stage.serving.flags := by
    simp_all [UsbEntry.flags, Stage.flags]
  refine receiving.rested (Function.update_self ..) (fun unused => ?_) .serving inUse (by decide)
  simp_all [UsbEntry.flags, Stage.flags]

/-- `usb_device_add`, when a device that is known at that place does not need to start up again. -/
private theorem usbDeviceAdd_staged {dev : LibusbDevice} (staged : Staged none s)
    (known : ∀ u e, findDevice dev.bus dev.address s = some u → s.entry u = some e → e.alive = true) :
    Staged none (usbDeviceAdd env dev s).2 := by
  rw [usbDeviceAdd]
  split
  · next u found =>
    obtain ⟨-, e, present, -⟩ := findDevice_some found
    have alive := known u e found present
    have same : ({ e with alive := true } : UsbEntry) = e := by rw [← alive]
    rw [modify_of_present present, same]
    exact staged.congr (Function.update_eq_self_iff.mpr present.symm) rfl rfl rfl le_rfl
  · next absent =>
    split
    · exact staged.congr rfl rfl rfl rfl le_rfl
    split
    · exact staged.congr rfl rfl rfl rfl le_rfl
    split
    · exact staged.congr rfl rfl rfl rfl le_rfl
    dsimp only [submitVendorSpecific]
    have created := staged.created (e := UsbEntry.opened dev s.nextHandle) absent (env.answers (s.tick + 2)).slot
      (s.tick + 3) (s.nextHandle + 1)
    have starts : (Callback.getMode ⟨dev, dev.bus, dev.address⟩ s.nextHandle).StartsUp s.nextUsb
        (UsbEntry.opened dev s.nextHandle) := rfl
    have asked := submit_staged env created (Function.update_self ..) ⟨rfl, rfl⟩ rfl starts
    split
    · next refused => exact asked.1 refused
    · next accepted => exact asked.2 (not_not.mp accepted).not_lt

/-- A device for which `device_add` has succeeded. -/
def InUse (s : Usb) (u : UsbPtr) : Prop := (s.entry u).map UsbEntry.added ≠ some false

instance (s : Usb) (u : UsbPtr) : Decidable (s.InUse u) :=
  inferInstanceAs (Decidable ((s.entry u).map UsbEntry.added ≠ some false))

private theorem usbSend_staged {length : ℕ} (staged : Staged none s) (used : s.InUse u) :
    Staged none (usbSend env u length s).2 := by
  have sends := usbSend_bulk env u length s
  refine staged.bulk sends fun f _ there unused => absurd ?_ used
  rw [← sends.map (fun _ => rfl) u, there, Option.map_some, unused]

private theorem usbSends_staged (env : UsbEnv) {sends : List (UsbPtr × ℕ)} (staged : Staged none s)
    (used : ∀ send ∈ sends, s.InUse send.1) : Staged none (usbSends env sends s) := by
  induction sends generalizing s with
  | nil => exact staged
  | cons send sends ih =>
    refine ih (usbSend_staged staged (used send (List.mem_cons_self ..))) fun other member => ?_
    have before := used other (List.mem_cons_of_mem _ member)
    rwa [InUse, ← (usbSend_bulk env send.1 send.2 s).map (fun _ => rfl) other.1] at before

private theorem txCallback_staged (staged : Staged none s) : Staged none (txCallback x u .completed s) := by
  rw [txCallback, if_neg (not_not.mpr rfl)]
  refine staged.bulk (.modify fun _ => rfl) fun f _ there unused => ?_
  obtain ⟨e, present, rfl⟩ := modify_some there
  obtain ⟨receives, sends⟩ := (staged.settled u e present (by simp)).idle unused
  exact ⟨receives, by simp [sends]⟩

private theorem rxCallback_staged {sends : List (UsbPtr × ℕ)} (staged : Staged none s)
    (used : ∀ send ∈ sends, s.InUse send.1)
    (called : s.inFlight x = none) (known : x < s.nextXfer) :
    Staged none (rxCallback env x u .completed sends s) := by
  have touched : Staged none (s.touch u) := by
    refine staged.congr touch_entry ?_ ?_ touch_inFlight ?_ <;> simp only [touch] <;> split <;> rfl
  have silent : (s.touch u).controls x = none := by simp [controls, called]
  have older : x < (s.touch u).nextXfer := by
    simp only [touch]
    split <;> exact known
  rw [rxCallback, if_pos rfl]
  have still : ∀ send ∈ sends, (s.touch u).InUse send.1 := fun send member => by
    rw [InUse, touch_entry]
    exact used send member
  have sent := usbSends_staged env touched still
  obtain ⟨-, controls, nextXfer⟩ := usbSends_flight env sends touched.allocated
  rcases submit_cases env x (.rx u) (usbSends env sends (s.touch u)) with ⟨-, outcome⟩ | ⟨-, outcome⟩
  · rw [outcome]
    exact sent.congr rfl rfl rfl rfl le_rfl
  · rw [outcome]
    refine sent.transfer (sent.tidy.congr rfl rfl rfl) (sent.allocated.launch (older.trans_le nextXfer))
      (controls_launch_bulk (by rw [controls, silent]) rfl) (fun _ => rfl) (fun _ _ => rfl) fun v f other there => ?_
    exact (sent.settled v f there other).idle

private theorem bulk_called (staged : Staged none s) (flying : s.inFlight x = some callback)
    (bulk : callback.control = false) :
    Staged none { s with inFlight := Function.update s.inFlight x none } := by
  have free : s.controls x = none := by simp [Usb.controls, flying, Option.filter_some, bulk]
  have controls : ({ s with inFlight := Function.update s.inFlight x none } : Usb).controls = s.controls := by
    rw [controls_update (s := s) rfl, Option.filter_none, ← free, Function.update_eq_self]
  refine staged.transfer (staged.tidy.congr rfl rfl rfl) (fun y other there => ?_) controls (fun _ => rfl)
    (fun _ _ => rfl)
    fun v f other there => (staged.settled v f there other).idle
  exact staged.allocated y other (Update.removed.mp there).2

/-- One turn of `reap_dead_devices`, which does not have to wait for a device that was not in use. -/
private theorem reapDevice_staged {waits : UsbPtr → List (List LibusbEvent)} (staged : Staged none s) (u : UsbPtr) :
    Staged none (reapDevice env waits s u) := by
  rw [reapDevice]
  split
  · next due =>
    obtain ⟨-, dead⟩ := due
    obtain ⟨e, present, dead⟩ : ∃ e, s.entry u = some e ∧ e.alive = false := by
      rcases present : s.entry u with _ | e
      · simp [present] at dead
      · exact ⟨e, rfl, by simpa [present] using dead⟩
    obtain ⟨idle, stage, flags, asking⟩ := staged.settled u e present (by simp)
    have unused : e.added = false ∧ stage ≠ .asking := by
      cases stage <;> simp_all [UsbEntry.flags, Stage.flags]
    have empty : s.waiting u = false := by simp [waiting, present, (idle unused.1).1, (idle unused.1).2]
    have waited : (waitTransfers env u (waits u) s).2 = s := by
      cases waits u <;> simp [waitTransfers, empty]
    simp only [usbDisconnect, present, waited]
    split
    · exact staged
    · refine Staged.freed ⟨staged.tidy, staged.allocated, staged.owned, staged.single,
        fun v f there _ => staged.settled v f there (by simp), fun v f there here x asks => ?_⟩ present
      obtain rfl : v = u := Option.some.inj here
      obtain rfl : e = f := Option.some.inj (present.symm.trans there)
      exact unused.2 (asking.mpr ⟨x, asks⟩)
  · exact staged

private theorem reapDeadDevices_staged {waits : UsbPtr → List (List LibusbEvent)} {late : List UsbPtr}
    (staged : Staged none s) :
    Staged none (reapDeadDevices env waits late s) := by
  rw [reapDeadDevices]
  generalize s.deviceList ++ late = turns
  induction turns generalizing s with
  | nil => exact staged
  | cons u turns ih => exact ih (reapDevice_staged staged u)

end Staged

/-- The events of the start-up of devices and of their use. -/
def startUp (s : Usb) : UsbEvent → Bool
  | .handle (.arrived _) | .reap .. | .autodiscover _ => true
  | .handle (.left ..) | .discover .. => false
  | .handle (.done x status _ sends) =>
    match s.inFlight x with
    | some (.rx _) => status = .completed && decide (∀ send ∈ sends, s.InUse send.1)
    | some (.tx _) => status = .completed
    | _ => true
  | .send u _ => decide (s.InUse u)

/-- The language id and the serial number are received, the latter can be asked for, and no device comes
back while it is known as dead or has been told to switch. -/
def answered (env : UsbEnv) (s : Usb) : UsbEvent → Bool
  | .handle (.arrived dev) =>
    match findDevice dev.bus dev.address s with
    | some u => (s.entry u).all fun e => e.alive && !e.switched
    | none => true
  | .handle (.done x status _ _) =>
    match s.inFlight x with
    | some (.getLangid _) => status = .completed && (env.answers s.tick).result = 0
    | some (.getSerial _) => status = .completed
    | _ => true
  | _ => true

private theorem step_staged {env : UsbEnv} {s : Usb} {event : UsbEvent} (staged : Staged none s)
    (allowed : s.startUp event = true) (heard : answered env s event = true) : Staged none (step env s event) := by
  cases event with
  | send u length => exact usbSend_staged staged (of_decide_eq_true allowed)
  | reap waits late => exact reapDeadDevices_staged staged
  | autodiscover enable => exact staged.congr rfl rfl rfl rfl le_rfl
  | discover => cases allowed
  | handle event =>
    cases event with
    | left => cases allowed
    | arrived dev =>
      simp only [step, handleEvent]
      split
      · refine usbDeviceAdd_staged staged fun u e found present => ?_
        simp only [answered, found, present, Option.all_some, Bool.and_eq_true] at heard
        exact heard.1
      · exact staged
    | done x status data sends =>
      simp only [step, handleEvent]
      split
      · exact staged
      next callback flying =>
      have known := staged.allocated x callback flying
      have gone : Function.update s.inFlight x none x = none := Function.update_self ..
      simp only [startUp, answered, flying] at allowed heard
      cases callback with
      | rx u =>
        simp only [Bool.and_eq_true, decide_eq_true_eq] at allowed
        rw [call, allowed.1]
        exact rxCallback_staged (bulk_called staged flying rfl) allowed.2 gone known
      | tx u =>
        rw [call, of_decide_eq_true allowed]
        exact txCallback_staged (bulk_called staged flying rfl)
      | getMode context handle =>
        obtain ⟨u, e, present, starts, idle, flags, begun⟩ := staged.called flying rfl
        exact getModeCb_staged status begun present starts idle flags
      | switchMode context handle =>
        obtain ⟨u, e, present, starts, idle, flags, begun⟩ := staged.called flying rfl
        exact switchModeCb_staged status data begun present starts idle flags
      | getLangid v =>
        obtain ⟨u, e, present, rfl, idle, flags, begun⟩ := staged.called flying rfl
        simp only [Bool.and_eq_true, decide_eq_true_eq] at heard
        rw [call, heard.1]
        exact getLangidCallback_staged begun present idle flags gone known heard.2
      | getSerial v =>
        obtain ⟨u, e, present, rfl, idle, flags, begun⟩ := staged.called flying rfl
        rw [call, of_decide_eq_true heard]
        exact getSerialCallback_staged data begun present flags

private theorem initial_staged : Staged none initial where
  tidy := initial_tidy
  allocated _ _ flying := by cases flying
  owned _ _ flying := by cases flying
  single _ _ present := by cases present
  settled _ _ present := by cases present
  silent _ _ present := by cases present

/-- In every state that is reached by the events of start-ups, whatever the devices answer and whichever
calls of libusb fail, every device in `device_list` is at exactly one stage, provided that its language
id and its serial number are received and that it does not come back at a place where it is known as
dead or as switching. -/
theorem startup_never_stalls (env : UsbEnv) (events : List UsbEvent)
    (allowed : Each (fun before event => (run env before).startUp event = true) events)
    (heard : Each (fun before event => answered env (run env before) event = true) events) (u : UsbPtr)
    (member : u ∈ (run env events).deviceList) :
    ∃ e, (run env events).entry u = some e ∧ ∃! stage, (run env events).At u e stage := by
  have staged : Staged none (run env events) := by
    clear member
    induction events using List.reverseRecOn with
    | nil => exact initial_staged
    | append_singleton before event ih =>
      rw [run, List.foldl_append]
      exact step_staged (ih allowed.of_append heard.of_append) allowed.last heard.last
  obtain ⟨e, present⟩ := Option.isSome_iff_exists.mp ((staged.tidy.listed u).mp member)
  exact ⟨e, present, (staged.settled u e present (by simp)).unique⟩

/-- libusb succeeds at everything, with packets of 512 bytes. -/
def working : UsbEnv where
  answers _ := { LibusbAnswer.success with value := 512 }
  desiredMode := 1

/-- A phone with the multiplexor interface in its last configuration. -/
def phone : LibusbDevice where
  bus := 1
  address := 2
  idVendor := 0x5ac
  idProduct := 0x12a8
  bNumConfigurations := 4
  configs := [⟨4, [⟨1, 255, 254, 2, [0x04, 0x85]⟩]⟩]
  speed := .high

/-- The phone answers all questions. -/
def phoneStarts : List UsbEvent :=
  [.handle (.arrived phone), .handle (.done 0 .completed [3, 3, 3, 0] []),
    .handle (.done 1 .completed [4, 3, 9, 4] []), .handle (.done 1 .completed [6, 3, 65, 0, 66, 0] []),
    .handle (.done 2 .completed [] []), .handle (.done 3 .completed [] [(0, 36)])]

theorem phone_never_stalls :
    (run working phoneStarts).deviceList = [0] ∧
    ((run working phoneStarts).entry 0).map UsbEntry.flags = some Stage.serving.flags ∧
    ∃ e, (run working phoneStarts).entry 0 = some e ∧ ∃! stage, (run working phoneStarts).At 0 e stage :=
  ⟨by decide +kernel, by decide +kernel,
    startup_never_stalls working phoneStarts (by decide +kernel) (by decide +kernel) 0 (by decide +kernel)⟩

/-- The phone does not tell its language id. -/
def phoneSilent : List UsbEvent :=
  [.handle (.arrived phone), .handle (.done 0 .completed [3, 3, 3, 0] []), .handle (.done 1 .timedOut [] [])]

/-- `get_langid_callback` returns: the phone stays in the list, alive, and nothing will happen to it. -/
theorem phoneSilent_stalls :
    (run working phoneSilent).deviceList = [0] ∧
    ∃ e, (run working phoneSilent).entry 0 = some e ∧ ∀ stage, ¬(run working phoneSilent).At 0 e stage := by
  refine ⟨by decide +kernel, ?_⟩
  obtain ⟨e, present, flags⟩ : ∃ e, (run working phoneSilent).entry 0 = some e ∧ e.flags = Stage.asking.flags := by
    apply Option.map_eq_some_iff.mp
    decide +kernel
  have flown : (run working phoneSilent).inFlight = Function.update (Function.update (Function.update (Function.update
      initial.inFlight 0 (some (.getMode ⟨phone, 1, 2⟩ 0))) 0 none) 1 (some (.getLangid 0))) 1 none := rfl
  have silent (x : XferPtr) : (run working phoneSilent).inFlight x = none := by
    rw [flown, Function.update_idem, Function.update_idem]
    by_cases one : x = 1
    · rw [one, Function.update_self]
    by_cases zero : x = 0
    · rw [Function.update_of_ne one, zero, Function.update_self]
    · rw [Function.update_of_ne one, Function.update_of_ne zero]
      rfl
  refine ⟨e, present, fun stage there => ?_⟩
  simp only [UsbEntry.flags, Stage.flags, Prod.mk.injEq] at flags
  cases stage with
  | asking =>
    obtain ⟨x, callback, flying, -⟩ := there
    rw [silent] at flying
    cases flying
  | switching | serving | dead => simp_all [At]

end Usb

end Usbmuxd
