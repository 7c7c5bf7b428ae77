import Mathlib.Data.Set.Insert
import Usbmuxd.Soundness.StartUp

/-! # Dead USB devices

A device whose `alive` flag was cleared on a failure stays dead until it is reaped, and the next arrival
at its place makes a new device, as long as no arrival is reported for a dead device that has not been
reaped yet. The events that are handled while `usb_disconnect` waits count as well. In such runs a device
whose language id and serial number are received never stalls, whatever else fails.
-/

namespace Usbmuxd

open Collection History

/-- No control transfer is needed for the device any more. -/
def UsbEntry.Resting (e : UsbEntry) : Prop :=
  e.lost = true ∨ e.switched = true ∨ e.added = true ∧ e.receiving = true

namespace Usb

/-- What is kept about a device: how `alive` and the reason for clearing it go together, whether it has been
lost, and that it is not gone. -/
structure Sane (rule : Bool → Bool → Prop) (D G : UsbPtr → Prop) (u : UsbPtr) (e : UsbEntry) : Prop where
  opened : e.handle.isSome = true
  ruled : rule e.alive e.lost
  doomed : D u → e.lost = true
  spared : ¬G u

/-- What is kept about all devices, among them the doomed `D` and the gone `G`, and about those that are
watched, `W`: their start-up goes on. -/
structure Kept (rule : Bool → Bool → Prop) (D G : UsbPtr → Prop) (W : Set UsbPtr) (s : Usb) : Prop where
  tidy : s.Tidy
  allocated : s.Allocated
  known : ∀ u, D u ∨ G u → u < s.nextUsb
  sane : ∀ u e, s.entry u = some e → Sane rule D G u e
  awake : ∀ u e, s.entry u = some e → u ∈ W → e.Resting ∨ ∃ x, s.Asks u e x

/-- How a device may change. -/
structure Next (rule rule' : Bool → Bool → Prop) (e e' : UsbEntry) : Prop where
  place : e'.place = e.place
  opened : e.handle.isSome = true → e'.handle.isSome = true
  ruled : rule e.alive e.lost → rule' e'.alive e'.lost
  lost : e.lost = true → e'.lost = true
  resting : e.Resting → e'.Resting

/-- Rules that allow living devices and lost ones. -/
def Fair (rule : Bool → Bool → Prop) : Prop := rule true false ∧ rule false true

/-- Between events the dead devices are the lost ones. -/
def strict (alive lost : Bool) : Prop := lost = !alive

/-- While `usb_discover` scans, all devices that it has not seen yet are marked as dead. -/
def lenient (alive lost : Bool) : Prop := lost = true → alive = false

private theorem strict_fair : Fair strict := ⟨rfl, rfl⟩

private theorem lenient_fair : Fair lenient := ⟨fun lost => Bool.noConfusion lost, fun _ => rfl⟩

section Kept

variable {env : UsbEnv} {s s' : Usb} {u : UsbPtr} {e e' : UsbEntry} {x : XferPtr} {callback : Callback}
  {rule rule' : Bool → Bool → Prop} {D G : UsbPtr → Prop} {W : Set UsbPtr}

private theorem Next.refl (e : UsbEntry) : Next rule rule e e := ⟨rfl, id, id, id, id⟩

private theorem Next.of_bare (same : e.bare = e'.bare) : Next rule rule e e' := by
  obtain ⟨place, opened, ruled, lost, resting⟩ : Next rule rule e.bare e'.bare := same ▸ .refl e.bare
  exact ⟨place, opened, ruled, lost, resting⟩

private theorem freeDevice_gone (u : UsbPtr) (s : Usb) : (freeDevice u s).entry u = none := by
  simp only [freeDevice]
  split
  · next freed => exact freed
  · exact Function.update_self ..

namespace Kept

/-- The devices change as they may, new ones are not watched yet, and no control transfer is lost. -/
private theorem carry (kept : Kept rule D G W s) (tidy : s'.Tidy) (allocated : s'.Allocated)
    (nextUsb : s.nextUsb ≤ s'.nextUsb)
    (controls : ∀ x callback, s.controls x = some callback → s'.controls x = some callback)
    (before : ∀ v f, s'.entry v = some f →
      (∃ g, s.entry v = some g ∧ Next rule rule' g f) ∨ Sane rule' D G v f ∧ v ∉ W) : Kept rule' D G W s' := by
  refine ⟨tidy, allocated, fun v old => (kept.known v old).trans_le nextUsb, fun v f there => ?_,
    fun v f there watched => ?_⟩
  · rcases before v f there with ⟨g, present, next⟩ | ⟨sane, -⟩
    · obtain ⟨opened, ruled, doomed, spared⟩ := kept.sane v g present
      exact ⟨next.opened opened, next.ruled ruled, next.lost ∘ doomed, spared⟩
    · exact sane
  · rcases before v f there with ⟨g, present, next⟩ | ⟨-, unwatched⟩
    · rcases kept.awake v g present watched with resting | ⟨x, asks⟩
      · exact .inl (next.resting resting)
      · obtain ⟨callback, flying, starts⟩ := asks_iff.mp asks
        exact .inr ⟨x, asks_iff.mpr ⟨callback, controls x callback flying, starts.congr next.place⟩⟩
    · exact absurd watched unwatched

private theorem bulk (kept : Kept rule D G W s) (bulk : Bulk u s s') : Kept rule D G W s' := by
  obtain ⟨allocated, controls⟩ := bulk.flight kept.allocated
  refine kept.carry (bulk.tidy kept.tidy) allocated bulk.nextUsb.ge (fun _ _ flying => controls ▸ flying)
    fun v f there => .inl ?_
  obtain ⟨g, present, same⟩ := bulk.before there
  exact ⟨g, present, .of_bare same⟩

private theorem congr (kept : Kept rule D G W s) (entry : s'.entry = s.entry) (list : s'.deviceList = s.deviceList)
    (nextUsb : s'.nextUsb = s.nextUsb) (inFlight : s'.inFlight = s.inFlight) (nextXfer : s.nextXfer ≤ s'.nextXfer) :
    Kept rule D G W s' :=
  kept.bulk (u := 0) (.of_same entry list nextUsb inFlight nextXfer)

/-- One more device is watched. -/
private theorem settle (kept : Kept rule D G (W \ {u}) s)
    (now : ∀ e, s.entry u = some e → u ∈ W → e.Resting ∨ ∃ x, s.Asks u e x) : Kept rule D G W s := by
  refine { kept with awake := fun v e there watched => ?_ }
  by_cases here : v = u
  · subst here
    exact now e there watched
  · exact kept.awake v e there ⟨watched, here⟩

private theorem drop (kept : Kept rule D G W s) (V : Set UsbPtr) : Kept rule D G (W \ V) s :=
  { kept with awake := fun v e there watched => kept.awake v e there watched.1 }

/-- More devices are gone. -/
private theorem reaped {G' : UsbPtr → Prop} (kept : Kept rule D G W s)
    (gone : ∀ v, G' v → G v ∨ D v ∧ s.entry v = none) : Kept rule D G' W s := by
  refine { kept with known := fun v old => ?_, sane := fun v e there => ?_ }
  · exact kept.known v (old.elim .inl fun now => (gone v now).symm.imp And.left id)
  · obtain ⟨opened, ruled, doomed, spared⟩ := kept.sane v e there
    refine ⟨opened, ruled, doomed, fun now => ?_⟩
    rcases gone v now with before | ⟨-, absent⟩
    · exact spared before
    · cases absent.symm.trans there

private theorem setEntry (kept : Kept rule D G W s) (present : s.entry u = some e) (e' : UsbEntry)
    (next : Next rule rule e e') : Kept rule D G W (s.setEntry u (some e')) := by
  refine kept.carry (kept.tidy.update present next.place rfl rfl rfl) kept.allocated le_rfl (fun _ _ flying => flying)
    fun v f there => .inl ?_
  rcases Update.stored.mp there with ⟨rfl, rfl⟩ | ⟨-, known⟩
  · exact ⟨e, present, next⟩
  · exact ⟨f, known, .refl f⟩

private theorem modify (kept : Kept rule D G W s) {f : UsbEntry → UsbEntry}
    (next : ∀ e, s.entry u = some e → Next rule rule e (f e)) : Kept rule D G W (s.modify u f) := by
  rcases present : s.entry u with _ | e
  · rw [modify_of_freed present]
    exact kept.congr rfl rfl rfl rfl le_rfl
  · rw [modify_of_present present]
    exact kept.setEntry present _ (next e present)

private theorem fail (kept : Kept rule D G (W \ {u}) s) (fair : Fair rule) : Kept rule D G W (s.fail u) := by
  have failed : Kept rule D G (W \ {u}) (s.fail u) :=
    kept.modify fun e _ => ⟨rfl, id, fun _ => fair.2, fun _ => rfl, fun _ => .inl rfl⟩
  refine failed.settle fun e there _ => .inl (.inl ?_)
  obtain ⟨_, -, rfl⟩ := modify_some there
  rfl

private theorem fault (kept : Kept rule D G (W \ {u}) s) (freed : s.entry u = none) :
    Kept rule D G W (s.fault (.freedDevice u)) := by
  have faulty : Kept rule D G (W \ {u}) (s.fault (.freedDevice u)) := kept.congr rfl rfl rfl rfl le_rfl
  exact faulty.settle fun e there => by cases freed.symm.trans there

private theorem freeDevice (kept : Kept rule D G (W \ {u}) s) : Kept rule D G W (freeDevice u s) := by
  simp only [Usb.freeDevice]
  split
  · next freed => exact kept.fault freed
  · refine Kept.settle (kept.carry (kept.tidy.free rfl rfl rfl) kept.allocated le_rfl (fun _ _ flying => flying)
      fun v f there => .inl ⟨f, (Update.removed.mp there).2, .refl f⟩) fun e there => ?_
    exact absurd rfl (Update.removed.mp there).1

private theorem created (kept : Kept rule D G W s) (absent : findDevice e.bus e.address s = none)
    (opened : e.handle.isSome = true) (ruled : rule e.alive e.lost) (slot tick nextHandle : ℕ) :
    Kept rule D G (W \ {s.nextUsb}) { s.setEntry s.nextUsb (some e) with
      tick := tick, nextUsb := s.nextUsb + 1, nextHandle := nextHandle, deviceList :=
        add slot s.nextUsb s.deviceList } := by
  have free : ∀ v f, s.entry v = some f → f.place ≠ e.place := fun v f there => kept.tidy.findDevice_none absent there
  have fresh (old : D s.nextUsb ∨ G s.nextUsb) : False := Nat.lt_irrefl _ (kept.known _ old)
  refine (kept.drop {s.nextUsb}).carry (kept.tidy.create free rfl rfl rfl) kept.allocated (Nat.le_succ _)
    (fun _ _ flying => flying) fun v f there => ?_
  rcases Update.stored.mp there with ⟨rfl, rfl⟩ | ⟨-, known⟩
  · exact .inr ⟨⟨opened, ruled, fun doomed => (fresh (.inl doomed)).elim, fresh ∘ .inr⟩, fun watched => watched.2 rfl⟩
  · exact .inl ⟨f, known, .refl f⟩

private theorem launch (kept : Kept rule D G W s) (free : s.controls x = none) (known : x < s.nextXfer)
    (callback : Callback) : Kept rule D G W (s.launch x callback) := by
  refine kept.carry (kept.tidy.congr rfl rfl rfl) (kept.allocated.launch known) le_rfl (fun y other flying => ?_)
    fun v f there => .inl ⟨f, there, .refl f⟩
  have here : y ≠ x := by
    rintro rfl
    cases free.symm.trans flying
  simpa [controls, Usb.launch, here] using flying

/-- The callback of a transfer is called, which is not for the devices that are still watched. -/
private theorem called (kept : Kept rule D G W s) (flying : s.inFlight x = some callback) (V : Set UsbPtr)
    (own : ∀ v e, s.entry v = some e → callback.StartsUp v e → v ∈ V) :
    Kept rule D G (W \ V) { s with inFlight := Function.update s.inFlight x none } := by
  refine ⟨kept.tidy.congr rfl rfl rfl, fun y other there => kept.allocated y other (Update.removed.mp there).2,
    kept.known, kept.sane, fun v e there watched => ?_⟩
  rcases kept.awake v e there watched.1 with resting | ⟨y, other, flying', starts⟩
  · exact .inl resting
  · refine .inr ⟨y, other, Update.removed.mpr ⟨?_, flying'⟩, starts⟩
    rintro rfl
    obtain rfl := Option.some.inj (flying.symm.trans flying')
    exact watched.2 (own v e there starts)

end Kept

private theorem submit_kept (env : UsbEnv) (callback : Callback) (kept : Kept rule D G W s)
    (free : s.controls x = none) (known : x < s.nextXfer) : Kept rule D G W (submit env x callback s).2 := by
  rcases submit_cases env x callback s with ⟨-, outcome⟩ | ⟨-, outcome⟩
  · rw [outcome]
    exact kept.congr rfl rfl rfl rfl le_rfl
  · rw [outcome]
    exact kept.launch free known callback

/-- A control transfer for the current device is accepted. -/
private theorem submit_asks (callback : Callback) (kept : Kept rule D G (W \ {u}) s) (free : s.controls x = none)
    (known : x < s.nextXfer)
    (present : s.entry u = some e) (starts : callback.StartsUp u e) (accepted : (env.answers s.tick).result = 0) :
    Kept rule D G W (submit env x callback s).2 := by
  have asked := submit_kept env callback kept free known
  rcases submit_cases env x callback s with ⟨refused, -⟩ | ⟨-, outcome⟩
  · omega
  · rw [outcome] at asked ⊢
    refine asked.settle fun f there _ => .inr ⟨x, callback, Function.update_self .., ?_⟩
    rwa [← Option.some.inj (present.symm.trans there)]

/-- A control transfer for the current device is allocated and submitted, and if that fails, so does the
device. -/
private theorem submitVendorSpecific_kept (env : UsbEnv) (callback : Callback) (kept : Kept rule D G (W \ {u}) s)
    (fair : Fair rule)
    (present : s.entry u = some e) (starts : callback.StartsUp u e) :
    let r := submitVendorSpecific env callback s
    (r.1 ≠ 0 → Kept rule D G W (r.2.fail u)) ∧ (¬r.1 < 0 → Kept rule D G W r.2) := by
  intro r
  have ready : Kept rule D G (W \ {u}) s.allocTransfer.2 := kept.congr rfl rfl rfl rfl (Nat.le_succ _)
  have free : s.allocTransfer.2.controls s.allocTransfer.1 = none := kept.allocated.free
  have known : s.allocTransfer.1 < s.allocTransfer.2.nextXfer := Nat.lt_succ_self _
  refine ⟨fun _ => (submit_kept env callback ready free known).fail fair, fun accepted => ?_⟩
  refine submit_asks callback ready free known present starts ?_
  rcases submit_cases env s.allocTransfer.1 callback s.allocTransfer.2 with ⟨refused, outcome⟩ | ⟨accepted, -⟩
  · exact absurd ((congrArg Prod.fst outcome).trans_lt refused) accepted
  · exact accepted

private theorem txCallback_kept (status : TransferStatus) (kept : Kept rule D G W s) (fair : Fair rule) :
    Kept rule D G W (txCallback x u status s) := by
  simp only [txCallback]
  split
  · exact ((kept.drop {u}).fail fair).bulk (.modify fun _ => rfl)
  · exact kept.bulk (.modify fun _ => rfl)

private theorem usbSends_kept (sends : List (UsbPtr × ℕ)) (kept : Kept rule D G W s) :
    Kept rule D G W (usbSends env sends s) := by
  induction sends generalizing s with
  | nil => exact kept
  | cons send sends ih => exact ih (kept.bulk (usbSend_bulk env send.1 send.2 s))

private theorem rxCallback_kept (status : TransferStatus) (sends : List (UsbPtr × ℕ)) (kept : Kept rule D G W s)
    (fair : Fair rule) (called : s.inFlight x = none) (known : x < s.nextXfer) :
    Kept rule D G W (rxCallback env x u status sends s) := by
  obtain ⟨touched, older⟩ : Kept rule D G W (s.touch u) ∧ x < (s.touch u).nextXfer := by
    simp only [touch]
    split
    · exact ⟨kept, known⟩
    · exact ⟨kept.congr rfl rfl rfl rfl le_rfl, known⟩
  simp only [rxCallback]
  split
  · obtain ⟨-, controls, nextXfer⟩ := usbSends_flight env sends touched.allocated
    refine submit_kept env _ (usbSends_kept sends touched) ?_ (older.trans_le nextXfer)
    rw [controls, Usb.controls, touch_inFlight, called, Option.filter_none]
  · exact Kept.fail ((kept.drop {u}).bulk (.modify fun _ => rfl)) fair

private theorem getLangidCallback_kept (status : TransferStatus) (kept : Kept rule D G (W \ {u}) s)
    (called : s.inFlight x = none) (known : x < s.nextXfer)
    (heard : u ∈ W → status = .completed ∧ (env.answers s.tick).result = 0) :
    Kept rule D G W (getLangidCallback env x u status s) := by
  have free : s.controls x = none := by rw [controls, called, Option.filter_none]
  simp only [getLangidCallback]
  split
  · next freed => exact kept.fault freed
  next e present =>
  split
  · next silent => exact kept.settle fun _ _ watched => absurd (heard watched).1 silent
  · refine (submit_kept env _ kept free known).settle fun f there watched => ?_
    exact (submit_asks (.getSerial u) kept free known present rfl (heard watched).2).awake u f there watched

private theorem getSerialCallback_kept (status : TransferStatus) (data : Bytes) (kept : Kept rule D G (W \ {u}) s)
    (heard : u ∈ W → status = .completed) : Kept rule D G W (getSerialCallback env u status data s) := by
  simp only [getSerialCallback]
  split
  · next freed => exact kept.fault freed
  next e present =>
  split
  · next silent => exact kept.settle fun _ _ watched => absurd (heard watched) silent
  have named : Kept rule D G (W \ {u}) (s.setEntry u (some { e with serial := serialNumber data })) :=
    kept.setEntry present _ ⟨rfl, id, id, id, id⟩
  generalize s.setEntry u (some { e with serial := serialNumber data }) = s at named ⊢
  have sent := named.bulk (usbSend_bulk env u 20 s)
  split
  · exact sent.freeDevice
  have added := sent.modify (u := u) (f := fun e => { e with added := true }) fun e _ =>
    ⟨rfl, id, id, id, Or.imp_right (Or.imp_right fun used => ⟨rfl, used.2⟩)⟩
  have loops := startRxLoops_bulk env u 3 ((usbSend env u 20 s).2.modify u fun e => { e with added := true })
  have started := added.bulk loops
  split
  · exact started.freeDevice
  have receiving := started.modify (u := u) (f := fun e => { e with receiving := true }) fun e _ =>
    ⟨rfl, id, id, id, Or.imp_right (Or.imp_right fun used => ⟨used.1, rfl⟩)⟩
  refine receiving.settle fun f there _ => .inl (.inr (.inr ?_))
  obtain ⟨f₁, there₁, rfl⟩ := modify_some there
  obtain ⟨f₂, there₂, same⟩ := loops.before there₁
  obtain ⟨f₃, -, rfl⟩ := modify_some there₂
  exact ⟨(congrArg UsbEntry.added same).symm, rfl⟩

/-- `device_complete_initialization` does not bring a lost device back: it does not find a configuration. -/
def unrevived (env : UsbEnv) (context : ModeContext) (tick : ℕ) (s : Usb) : Bool :=
  match findDevice context.bus context.address s with
  | some u =>
    (s.entry u).all fun e =>
      !e.lost || (setValidConfiguration env context.dev e.bNumConfigurations e.endpoints tick).1 != 0
  | none => true

private theorem deviceCompleteInitialization_kept {context : ModeContext} {handle : ℕ}
    (kept : Kept rule D G (W \ {v | v ∈ findDevice context.bus context.address s}) s) (fair : Fair rule)
    (clear : unrevived env context s.tick s = true) :
    Kept rule D G W (deviceCompleteInitialization env context handle s) := by
  simp only [deviceCompleteInitialization]
  split
  · next absent => simpa [absent] using kept
  next u found =>
  obtain ⟨-, e, present, place⟩ := findDevice_some found
  have kept : Kept rule D G (W \ {u}) s := by simpa [found] using kept
  simp only [unrevived, found, present, Option.all_some] at clear ⊢
  generalize setValidConfiguration env context.dev e.bNumConfigurations e.endpoints s.tick = r at clear ⊢
  have configured (tick : ℕ) :
      Kept rule D G (W \ {u}) { s.setEntry u (some { e with endpoints := r.2.endpoints }) with tick := tick } := by
    have updated := kept.setEntry present { e with endpoints := r.2.endpoints } ⟨rfl, id, id, id, id⟩
    exact updated.congr rfl rfl rfl rfl le_rfl
  split
  · exact (configured _).fail fair
  next accepted =>
  have alive : e.lost = false := by simpa [not_not.mp accepted] using clear
  split
  · exact (configured (r.2.tick + 1)).fail fair
  split
  · exact (configured (r.2.tick + 2)).fail fair
  split
  · exact (configured (r.2.tick + 3)).fail fair
  generalize (env.answers _).value = size
  have completed := (configured (r.2.tick + 4)).setEntry (Function.update_self ..)
    (UsbEntry.completed { e with endpoints := r.2.endpoints } context handle size)
    ⟨place.symm, fun _ => rfl, fun _ => by rw [UsbEntry.completed, alive]; exact fair.1, id, id⟩
  have asked := submitVendorSpecific_kept env (.getLangid u) completed fair (Function.update_self ..) rfl
  split
  · next refused => exact asked.1 refused.ne
  · next accepted => exact asked.2 accepted

private theorem switchModeCb_kept {context : ModeContext} {handle : ℕ} (status : TransferStatus) (data : Bytes)
    (kept : Kept rule D G (W \ {v | v ∈ findDevice context.bus context.address s}) s) (fair : Fair rule)
    (clear : status ≠ .completed ∨ data.getD 0 0 ≠ 0 → unrevived env context s.tick s = true) :
    Kept rule D G W (switchModeCb env context handle status data s) := by
  simp only [switchModeCb]
  split
  · next refused => exact deviceCompleteInitialization_kept kept fair (clear refused)
  split
  · next absent => simpa [absent] using kept
  · next u found =>
    have kept : Kept rule D G (W \ {u}) s := by simpa [found] using kept
    refine Kept.settle (kept.modify fun e _ => ⟨rfl, id, id, id, Or.imp_right fun _ => .inl rfl⟩) fun f there _ => ?_
    obtain ⟨_, -, rfl⟩ := modify_some there
    exact .inl (.inr (.inl rfl))

/-- Where the calls of libusb stand when `get_mode_cb` completes the initialization, unless it tells the
device to switch. -/
def completesAt (env : UsbEnv) (context : ModeContext) (status : TransferStatus) (s : Usb) : Option ℕ :=
  if status ≠ .completed then some s.tick
  else
    let u := findDevice context.bus context.address s
    let bNumConfigurations := ((u.bind s.entry).map UsbEntry.bNumConfigurations).getD 0
    let g := guessMode env context.dev bNumConfigurations s.tick
    if 1 ≤ env.desiredMode ∧ env.desiredMode ≤ 5 ∧ 0 < g.1 ∧ g.1 ≠ env.desiredMode then none else some g.2

private theorem getModeCb_kept {context : ModeContext} {handle : ℕ} (status : TransferStatus)
    (kept : Kept rule D G (W \ {v | v ∈ findDevice context.bus context.address s}) s)
    (fair : Fair rule) (clear : ∀ tick ∈ completesAt env context status s, unrevived env context tick s = true) :
    Kept rule D G W (getModeCb env context handle status s) := by
  simp only [getModeCb]
  split
  · next absent => simpa [absent] using kept
  next u found =>
  split
  · next refused =>
    refine deviceCompleteInitialization_kept kept fair (clear s.tick ?_)
    rw [completesAt, if_pos refused, Option.mem_some]
  next completed =>
  simp only [completesAt, if_neg completed, found, Option.bind_some] at clear
  generalize guessMode env context.dev _ s.tick = guess at clear ⊢
  split
  · obtain ⟨-, e, present, place⟩ := findDevice_some found
    have kept : Kept rule D G (W \ {u}) s := by simpa [found] using kept
    have ticked : Kept rule D G (W \ {u}) { s with tick := guess.2 } := kept.congr rfl rfl rfl rfl le_rfl
    have asked := submitVendorSpecific_kept env (.switchMode context handle) ticked fair present place
    split
    · next refused => exact asked.1 refused
    · next accepted => exact asked.2 (not_not.mp accepted).not_lt
  · next stays =>
    rw [if_neg stays] at clear
    exact deviceCompleteInitialization_kept (kept.congr rfl rfl rfl rfl le_rfl) fair (clear guess.2 rfl)

/-- No lost device is known at the place of a device. -/
def vacant (s : Usb) (dev : LibusbDevice) : Bool :=
  match findDevice dev.bus dev.address s with
  | some u => (s.entry u).all fun e => !e.lost
  | none => true

private theorem usbDeviceAdd_kept {dev : LibusbDevice} (kept : Kept rule D G W s) (fair : Fair rule)
    (clear : s.vacant dev = true) : Kept rule D G W (usbDeviceAdd env dev s).2 := by
  simp only [usbDeviceAdd]
  split
  · next u found =>
    refine kept.modify fun e present => ⟨rfl, id, fun _ => ?_, id, id⟩
    simp only [vacant, found, present, Option.all_some, Bool.not_eq_true'] at clear
    rw [clear]
    exact fair.1
  next absent =>
  split
  · exact kept.congr rfl rfl rfl rfl le_rfl
  split
  · exact kept.congr rfl rfl rfl rfl le_rfl
  split
  · exact kept.congr rfl rfl rfl rfl le_rfl
  have created := kept.created (e := UsbEntry.opened dev s.nextHandle) absent rfl fair.1
    (env.answers (s.tick + 2)).slot (s.tick + 3) (s.nextHandle + 1)
  have asked := submitVendorSpecific_kept env (.getMode ⟨dev, dev.bus, dev.address⟩ s.nextHandle) created fair
    (Function.update_self ..) rfl
  split
  · next refused => exact asked.1 refused
  · next accepted => exact asked.2 (not_not.mp accepted).not_lt

end Kept

/-- An event does not bring a lost device back: no device arrives at its place, and no configuration is
found for it when the answer to a question about its mode is handled. -/
def clear (env : UsbEnv) (s : Usb) : LibusbEvent → Bool
  | .arrived dev => !s.deviceHotplug || s.vacant dev
  | .left .. => true
  | .done x status data _ =>
    match s.inFlight x with
    | some (.getMode context _) => decide (∀ tick ∈ completesAt env context status s,
        unrevived env context tick s = true)
    | some (.switchMode context _) =>
      !(status ≠ .completed || data.getD 0 0 ≠ 0) || unrevived env context s.tick s
    | _ => true

/-- The language id and the serial number of a device are received, and the latter can be asked for. -/
def hears (env : UsbEnv) (u : UsbPtr) (s : Usb) : LibusbEvent → Bool
  | .done x status _ _ =>
    match s.inFlight x with
    | some (.getLangid v) => v ≠ u || status = .completed && (env.answers s.tick).result = 0
    | some (.getSerial v) => v ≠ u || status = .completed
    | _ => true
  | _ => true

/-- The event is `clear`, and the answers of a device are received. -/
def steady (env : UsbEnv) (u : UsbPtr) (s : Usb) (event : LibusbEvent) : Bool :=
  clear env s event && hears env u s event

section Nested

variable (env : UsbEnv) (fine : Usb → LibusbEvent → Bool)

/-- The events of a batch are fine, each in its state. -/
def fineBatch : List LibusbEvent → Usb → Bool
  | [], _ => true
  | event :: rest, s => fine s event && fineBatch rest (handleEvent env s event)

/-- The events that are handled while `usb_disconnect` waits. -/
def fineWait (u : UsbPtr) : List (List LibusbEvent) → Usb → Bool
  | [], _ => true
  | batch :: rest, s => !s.waiting u || fineBatch env fine batch s && fineWait u rest (batch.foldl (handleEvent env) s)

/-- The events that are handled during `reap_dead_devices`. -/
def fineReap (waits : UsbPtr → List (List LibusbEvent)) : List UsbPtr → Usb → Bool
  | [], _ => true
  | u :: rest, s =>
    (!(u ∈ s.deviceList && (s.entry u).any fun e => !e.alive) || fineWait env fine u (waits u) s) &&
      fineReap waits rest (reapDevice env waits s u)

/-- The devices that `usb_discover` finds. -/
def clearScan : List LibusbDevice → Usb → Bool
  | [], _ => true
  | dev :: rest, s => s.vacant dev && clearScan rest (usbDeviceAdd env dev s).2

/-- All that is handled during a call. -/
def fineStep (s : Usb) : UsbEvent → Bool
  | .handle event => fine s event
  | .send .. | .autodiscover _ | .discover none .. => true
  | .reap waits late => fineReap env fine waits (s.deviceList ++ late) s
  | .discover (some devs) waits late =>
    let marked := ({ s with devlistFailures := 0 } : Usb).markAll
    let scanned := (devs.foldl (fun s dev => (usbDeviceAdd env dev s).2) marked).noteLost
    clearScan env devs marked && fineReap env fine waits (scanned.deviceList ++ late) scanned

/-- Nothing that is handled during a call brings a lost device back. -/
def clearStep : Usb → UsbEvent → Bool := fineStep env (clear env)

end Nested

section Events

variable {env : UsbEnv} {s : Usb} {rule : Bool → Bool → Prop} {D G : UsbPtr → Prop} {W : Set UsbPtr}
  {fine : Usb → LibusbEvent → Bool}

private theorem handleEvent_kept {event : LibusbEvent} (kept : Kept rule D G W s) (fair : Fair rule)
    (clear : Usb.clear env s event = true) (heard : ∀ u ∈ W, hears env u s event = true) :
    Kept rule D G W (handleEvent env s event) := by
  cases event with
  | arrived dev =>
    simp only [handleEvent]
    split
    · next hotplug => exact usbDeviceAdd_kept kept fair (by simpa [Usb.clear, hotplug] using clear)
    · exact kept
  | left bus address =>
    simp only [handleEvent]
    split
    · exact kept
    · exact (kept.drop _).fail fair
  | done x status data sends =>
    simp only [handleEvent]
    split
    · exact kept
    next callback flying =>
    have gone : Function.update s.inFlight x none x = none := Function.update_self ..
    have known := kept.allocated x callback flying
    simp only [Usb.clear, hears, flying] at clear heard
    cases callback with
    | rx u => exact rxCallback_kept status sends (by simpa using kept.called flying ∅ fun _ _ _ => id) fair gone known
    | tx u => exact txCallback_kept status (by simpa using kept.called flying ∅ fun _ _ _ => id) fair
    | getMode context handle =>
      refine getModeCb_kept status (kept.called flying _ fun v e present => ?_) fair (of_decide_eq_true clear)
      exact kept.tidy.findDevice_of_place present
    | switchMode context handle =>
      refine switchModeCb_kept status data (kept.called flying _ fun v e present => ?_) fair fun refused => ?_
      · exact kept.tidy.findDevice_of_place present
      simp only [Bool.or_eq_true, Bool.not_eq_true', Bool.or_eq_false_iff, decide_eq_false_iff_not] at clear
      rcases clear with ⟨completed, acknowledged⟩ | clear
      · exact absurd refused (not_or.mpr ⟨completed, acknowledged⟩)
      · exact clear
    | getLangid u =>
      refine getLangidCallback_kept status (kept.called flying {u} fun _ _ _ => Eq.symm) gone known fun watched => ?_
      simpa using heard u watched
    | getSerial u =>
      refine getSerialCallback_kept status data (kept.called flying {u} fun _ _ _ => Eq.symm) fun watched => ?_
      simpa using heard u watched

variable (clears : ∀ s event, fine s event = true → clear env s event = true ∧ ∀ u ∈ W, hears env u s event = true)
include clears

private theorem batch_kept {batch : List LibusbEvent} (kept : Kept rule D G W s) (fair : Fair rule)
    (fits : fineBatch env fine batch s = true) : Kept rule D G W (batch.foldl (handleEvent env) s) := by
  induction batch generalizing s with
  | nil => exact kept
  | cons event rest ih =>
    simp only [fineBatch, Bool.and_eq_true] at fits
    obtain ⟨clear, heard⟩ := clears s event fits.1
    exact ih (handleEvent_kept kept fair clear heard) fits.2

private theorem waitTransfers_kept {u : UsbPtr} {batches : List (List LibusbEvent)} (kept : Kept rule D G W s)
    (fair : Fair rule) (fits : fineWait env fine u batches s = true) :
    Kept rule D G W (waitTransfers env u batches s).2 := by
  induction batches generalizing s with
  | nil => exact kept
  | cons batch rest ih =>
    simp only [waitTransfers]
    split
    · next waiting =>
      simp only [fineWait, waiting, Bool.not_true, Bool.false_or, Bool.and_eq_true] at fits
      exact ih (batch_kept clears kept fair fits.1) fits.2
    · exact kept

private theorem reapDevice_kept {waits : UsbPtr → List (List LibusbEvent)} {u : UsbPtr} (kept : Kept strict D G W s)
    (fits : (!(u ∈ s.deviceList && (s.entry u).any fun e => !e.alive) || fineWait env fine u (waits u) s) = true) :
    Kept strict D (fun v => G v ∨ D v ∧ v = u) W (reapDevice env waits s u) := by
  have result : Kept strict D G W (reapDevice env waits s u) ∧ (D u → (reapDevice env waits s u).entry u = none) := by
    rw [reapDevice]
    split
    · next due =>
      have fits : fineWait env fine u (waits u) s = true := by simpa [due.1, due.2] using fits
      simp only [usbDisconnect]
      split
      · next freed => exact ⟨kept.congr rfl rfl rfl rfl le_rfl, fun _ => freed⟩
      next e present =>
      rw [if_neg fun closed => by simpa [closed] using (kept.sane u e present).opened]
      exact ⟨((waitTransfers_kept clears kept strict_fair fits).drop {u}).freeDevice, fun _ => freeDevice_gone u _⟩
    · next spared =>
      refine ⟨kept, fun doomed => ?_⟩
      rcases present : s.entry u with _ | e
      · rfl
      · obtain ⟨-, ruled, lost, -⟩ := kept.sane u e present
        have dead : e.alive = false := by simpa [strict, lost doomed] using ruled
        exact absurd ⟨(kept.tidy.listed u).mpr (by simp [present]), by simp [present, dead]⟩ spared
  refine result.1.reaped fun v gone => gone.imp_right ?_
  rintro ⟨doomed, rfl⟩
  exact ⟨doomed, result.2 doomed⟩

private theorem reaps_kept {waits : UsbPtr → List (List LibusbEvent)} {turns : List UsbPtr} (kept : Kept strict D G W s)
    (fits : fineReap env fine waits turns s = true) :
    Kept strict D (fun v => G v ∨ D v ∧ v ∈ turns) W (turns.foldl (reapDevice env waits) s) := by
  induction turns generalizing s G with
  | nil => simpa using kept
  | cons u rest ih =>
    simp only [fineReap, Bool.and_eq_true] at fits
    refine (ih (reapDevice_kept clears kept fits.1) fits.2).reaped fun v gone => .inl ?_
    simpa only [List.mem_cons, and_or_left, or_assoc] using gone

private theorem reapDeadDevices_kept {waits : UsbPtr → List (List LibusbEvent)} {late : List UsbPtr}
    (kept : Kept strict D G W s) (fits : fineReap env fine waits (s.deviceList ++ late) s = true) :
    Kept strict D (fun v => G v ∨ D v) W (reapDeadDevices env waits late s) := by
  have absent : Kept strict D (fun v => G v ∨ D v ∧ s.entry v = none) W s := kept.reaped fun _ => id
  refine (reaps_kept clears absent fits).reaped fun v gone => .inl ?_
  rcases gone with gone | doomed
  · exact .inl (.inl gone)
  · rcases present : s.entry v with _ | e
    · exact .inl (.inr ⟨doomed, rfl⟩)
    · have listed : v ∈ s.deviceList := (kept.tidy.listed v).mpr (by simp [present])
      exact .inr ⟨doomed, List.mem_append_left _ listed⟩

omit clears

private theorem Kept.map {rule' : Bool → Bool → Prop} {f : UsbEntry → UsbEntry} (kept : Kept rule D G W s)
    (next : ∀ e, Next rule rule' e (f e)) : Kept rule' D G W { s with entry := fun u => (s.entry u).map f } := by
  have before {v : UsbPtr} {e : UsbEntry} (there : (s.entry v).map f = some e) :
      ∃ g, s.entry v = some g ∧ Next rule rule' g e := by
    obtain ⟨g, known, rfl⟩ := Option.map_eq_some_iff.mp there
    exact ⟨g, known, next g⟩
  refine kept.carry ⟨fun u => ?_, kept.tidy.once, fun u e there => ?_, fun u v e e' there there' equal => ?_⟩
    kept.allocated le_rfl (fun _ _ flying => flying) fun v e there => .inl (before there)
  · rw [Option.isSome_map]
    exact kept.tidy.listed u
  · obtain ⟨g, known, -⟩ := before there
    exact kept.tidy.allocated u g known
  · obtain ⟨g, known, same⟩ := before there
    obtain ⟨g', known', same'⟩ := before there'
    exact kept.tidy.apart u v g g' known known' (by rw [← same.place, equal, same'.place])

private theorem markAll_kept (kept : Kept strict D G W s) : Kept lenient D G W s.markAll :=
  kept.map fun _ => ⟨rfl, id, fun _ _ => rfl, id, id⟩

private theorem noteLost_kept (kept : Kept lenient D G W s) : Kept strict D G W s.noteLost := by
  refine kept.map fun e => ⟨rfl, id, fun ruled => ?_, fun lost => ?_, Or.imp_left fun lost => ?_⟩
  · revert ruled
    cases e.alive <;> cases e.lost <;> simp [strict, lenient]
  · rw [lost, Bool.true_or]
  · rw [lost, Bool.true_or]

private theorem scan_kept {devs : List LibusbDevice} (kept : Kept lenient D G W s)
    (clear : clearScan env devs s = true) :
    Kept lenient D G W (devs.foldl (fun s dev => (usbDeviceAdd env dev s).2) s) := by
  induction devs generalizing s with
  | nil => exact kept
  | cons dev rest ih =>
    simp only [clearScan, Bool.and_eq_true] at clear
    exact ih (usbDeviceAdd_kept kept lenient_fair clear.1) clear.2

end Events

/-- The calls that end with the reaping of dead devices. -/
def reaps : UsbEvent → Bool
  | .reap .. | .discover (some _) .. => true
  | .handle _ | .send .. | .autodiscover _ | .discover none .. => false

private theorem initial_kept {W : Set UsbPtr} : Kept strict (fun _ => False) (fun _ => False) W initial where
  tidy := initial_tidy
  allocated _ _ flying := by cases flying
  known _ old := (or_self False ▸ old).elim
  sane _ _ present := by cases present
  awake _ _ present := by cases present

section Runs

variable {env : UsbEnv} {D G : UsbPtr → Prop} {W : Set UsbPtr} {fine : Usb → LibusbEvent → Bool}
  (clears : ∀ s event, fine s event = true → clear env s event = true ∧ ∀ u ∈ W, hears env u s event = true)
include clears

/-- One call keeps what is known about the devices, and the lost ones are gone if it reaps. -/
private theorem step_kept {s : Usb} {event : UsbEvent} (kept : Kept strict D G W s)
    (fits : fineStep env fine s event = true) :
    Kept strict D (fun v => G v ∨ D v ∧ reaps event = true) W (step env s event) := by
  have unchanged {s' : Usb} (kept : Kept strict D G W s') (idle : reaps event = false) :
      Kept strict D (fun v => G v ∨ D v ∧ reaps event = true) W s' := by
    simpa [idle] using kept
  cases event with
  | handle event =>
    obtain ⟨clear, heard⟩ := clears s event fits
    exact unchanged (handleEvent_kept kept strict_fair clear heard) rfl
  | send u length => exact unchanged (kept.bulk (usbSend_bulk env u length s)) rfl
  | autodiscover enable => exact unchanged (kept.congr rfl rfl rfl rfl le_rfl) rfl
  | reap waits late => simpa [step, reaps] using reapDeadDevices_kept clears kept fits
  | discover devs waits late =>
    cases devs with
    | none => exact unchanged (kept.congr rfl rfl rfl rfl le_rfl) rfl
    | some devs =>
      simp only [fineStep, Bool.and_eq_true] at fits
      have reset : Kept strict D G W { s with devlistFailures := 0 } := kept.congr rfl rfl rfl rfl le_rfl
      have scanned := noteLost_kept (scan_kept (markAll_kept reset) fits.1)
      simpa [step, usbDiscover, reaps] using reapDeadDevices_kept clears scanned fits.2

/-- The devices that are lost after a part of a run stay so, and are gone once one of the later calls reaps. -/
private theorem run_kept {before later : List UsbEvent} (kept : Kept strict D (fun _ => False) W (run env before))
    (fits : Each (fun earlier event => fineStep env fine (run env earlier) event = true) (before ++ later)) :
    Kept strict D (fun v => D v ∧ later.any reaps = true) W (run env (before ++ later)) := by
  induction later using List.reverseRecOn with
  | nil => simpa using kept
  | append_singleton later event ih =>
    rw [← List.append_assoc] at fits ⊢
    have next := step_kept clears (ih fits.of_append) fits.last
    rw [run, List.foldl_append]
    refine next.reaped fun v gone => .inl ?_
    simpa [and_or_left] using gone

private theorem run_strict {events : List UsbEvent}
    (fits : Each (fun earlier event => fineStep env fine (run env earlier) event = true) events) :
    Kept strict (fun _ => False) (fun _ => False) W (run env events) := by
  have whole : Kept strict _ _ W (run env ([] ++ events)) := run_kept clears initial_kept fits
  simpa using whole

end Runs

private theorem unwatched {env : UsbEnv} (s : Usb) (event : LibusbEvent) (fine : clear env s event = true) :
    clear env s event = true ∧ ∀ u ∈ (∅ : Set UsbPtr), hears env u s event = true :=
  ⟨fine, fun _ watched => watched.elim⟩

/-- What `usb_device_add` does for a new device when libusb succeeds. -/
private theorem usbDeviceAdd_fresh {env : UsbEnv} {s : Usb} {dev : LibusbDevice}
    (absent : findDevice dev.bus dev.address s = none)
    (known : supported dev = true) (described : (env.answers s.tick).result = 0)
    (opens : (env.answers (s.tick + 1)).result = 0) (submits : (env.answers (s.tick + 3)).result = 0) :
    let s' := (usbDeviceAdd env dev s).2
    s'.entry s.nextUsb = some (UsbEntry.opened dev s.nextHandle) ∧ s.nextUsb ∈ s'.deviceList ∧
      s'.nextHandle = s.nextHandle + 1 ∧ s'.nextXfer = s.nextXfer + 1 ∧
      s'.inFlight s.nextXfer = some (.getMode ⟨dev, dev.bus, dev.address⟩ s.nextHandle) := by
  simp [usbDeviceAdd, absent, known, described, opens, submits, submitVendorSpecific, submit, allocTransfer, setEntry,
    bump]

/-- In every run without a revival of lost devices: a device that is dead stays dead, and is gone after
the next call that reaps; an arrival at a place without living device makes a new device, with a new
handle and a new question about its mode; and there is at most one device at a place. Wherever
`usb_device_add` is called, also by an event inside `usb_disconnect` or by a scan, it makes a new device if
none of the list has that place. -/
theorem dead_until_reaped (env : UsbEnv) (before later : List UsbEvent)
    (revives : Each (fun earlier event => clearStep env (run env earlier) event = true) (before ++ later)) :
    let s := run env (before ++ later)
    (∀ u e, (run env before).entry u = some e → e.alive = false →
      (∀ e', s.entry u = some e' → e'.alive = false) ∧ (later.any reaps = true → s.entry u = none)) ∧
    (∀ dev, clear env s (.arrived dev) = true → s.deviceHotplug = true → supported dev = true →
      (env.answers s.tick).result = 0 → (env.answers (s.tick + 1)).result = 0 → (env.answers (s.tick + 3)).result = 0 →
      (∀ u e, s.entry u = some e → e.place = (dev.bus, dev.address) → e.alive = false) →
      let s' := step env s (.handle (.arrived dev))
      s.entry s.nextUsb = none ∧ s'.entry s.nextUsb = some (UsbEntry.opened dev s.nextHandle) ∧
        s.nextUsb ∈ s'.deviceList ∧ s'.nextHandle = s.nextHandle + 1 ∧ s'.nextXfer = s.nextXfer + 1 ∧
        s'.inFlight s.nextXfer = some (.getMode ⟨dev, dev.bus, dev.address⟩ s.nextHandle)) ∧
    (∀ u v e f, s.entry u = some e → s.entry v = some f → e.place = f.place → u = v) ∧
    ∀ x dev, (∀ u ∈ x.deviceList, ∀ e, x.entry u = some e → e.place ≠ (dev.bus, dev.address)) → supported dev = true →
      (env.answers x.tick).result = 0 → (env.answers (x.tick + 1)).result = 0 → (env.answers (x.tick + 3)).result = 0 →
      let x' := (usbDeviceAdd env dev x).2
      x'.entry x.nextUsb = some (UsbEntry.opened dev x.nextHandle) ∧ x.nextUsb ∈ x'.deviceList ∧
        x'.nextHandle = x.nextHandle + 1 ∧ x'.nextXfer = x.nextXfer + 1 ∧
        x'.inFlight x.nextXfer = some (.getMode ⟨dev, dev.bus, dev.address⟩ x.nextHandle) := by
  intro s
  have first := run_strict unwatched revives.of_append
  have last : Kept strict _ _ _ s := run_strict unwatched revives
  refine ⟨fun u e present dead => ?_, fun dev clear hotplug known described opens submits lifeless => ?_,
    last.tidy.apart, fun x dev vacant => usbDeviceAdd_fresh ?_⟩
  · have doomed : Kept strict (fun v => v = u) (fun _ => False) ∅ (run env before) := by
      refine { first with known := ?_, sane := fun v f there => ?_ }
      · rintro v (rfl | gone)
        · exact first.tidy.allocated v e present
        · exact gone.elim
      · obtain ⟨opened, ruled, -, spared⟩ := first.sane v f there
        refine ⟨opened, ruled, ?_, spared⟩
        rintro rfl
        obtain rfl : e = f := Option.some.inj (present.symm.trans there)
        simpa [strict, dead] using ruled
    have after := run_kept unwatched doomed revives
    refine ⟨fun e' there => ?_, fun reaped => Option.eq_none_iff_forall_ne_some.mpr fun e' there => ?_⟩
    · obtain ⟨-, ruled, lost, -⟩ := after.sane u e' there
      simpa [strict, lost rfl] using ruled
    · exact (after.sane u e' there).spared ⟨rfl, reaped⟩
  · have absent : findDevice dev.bus dev.address s = none := by
      rcases found : findDevice dev.bus dev.address s with _ | u
      · rfl
      obtain ⟨-, e, present, place⟩ := findDevice_some found
      have lost : e.lost = true := by simpa [strict, lifeless u e present place] using (last.sane u e present).ruled
      simp [Usb.clear, hotplug, vacant, found, present, lost] at clear
    refine ⟨?_, ?_⟩
    · rcases unused : s.entry s.nextUsb with _ | e
      · rfl
      · exact absurd (last.tidy.allocated _ e unused) (Nat.lt_irrefl _)
    · simp only [step, handleEvent, hotplug, if_true]
      exact usbDeviceAdd_fresh absent known described opens submits
  · refine Option.eq_none_iff_forall_ne_some.mpr fun u found => ?_
    obtain ⟨listed, e, present, place⟩ := findDevice_some found
    exact vacant u listed e present place

/-- The phone comes and leaves. -/
def phoneLeaves : List UsbEvent := [.handle (.arrived phone), .handle (.left 1 2)]

/-- The phone is reaped before it comes back, with another handle. -/
theorem phone_until_reaped :
    let s := run working (phoneLeaves ++ [.reap (fun _ => []) []])
    s.entry 0 = none ∧ (step working s (.handle (.arrived phone))).entry 1 = some (UsbEntry.opened phone 1) ∧
      (step working s (.handle (.arrived phone))).inFlight 1 = some (.getMode ⟨phone, 1, 2⟩ 1) := by
  intro s
  obtain ⟨dead, fresh, -⟩ :=
    dead_until_reaped working phoneLeaves [.reap (fun _ => []) []] (by decide +kernel)
  have gone : s.entry 0 = none := by
    obtain ⟨e, present, lifeless⟩ : ∃ e, (run working phoneLeaves).entry 0 = some e ∧ e.alive = false := by
      apply Option.map_eq_some_iff.mp
      decide +kernel
    exact (dead 0 e present lifeless).2 rfl
  have lifeless : ∀ u e, s.entry u = some e → e.place = (phone.bus, phone.address) → e.alive = false := by
    intro u e present _
    have kept : Kept strict _ _ _ s := run_strict unwatched (by decide +kernel)
    have listed : u ∈ s.deviceList := (kept.tidy.listed u).mpr (by simp [present])
    have empty : s.deviceList = [] := by decide +kernel
    rw [empty] at listed
    cases listed
  obtain ⟨-, entry, -, -, -, asked⟩ :=
    fresh phone (by decide +kernel) (by decide +kernel) (by decide +kernel) rfl rfl rfl lifeless
  exact ⟨gone, entry, asked⟩

/-- The phone comes back before it is reaped: its entry is alive again, with the old handle, and it is not
asked for its mode. -/
theorem phone_revived :
    let s := run working (phoneLeaves ++ [.handle (.arrived phone)])
    ((run working phoneLeaves).entry 0).map UsbEntry.alive = some false ∧
      (s.entry 0).map UsbEntry.alive = some true ∧ s.deviceList = [0] ∧ s.nextHandle = 1 ∧ s.nextXfer = 1 := by
  decide +kernel

/-- In every run without a revival of lost devices, with departures, scans and failing transfers, a device
whose language id and serial number are received is at some stage as long as it is listed. So is the new
device that is made when one comes back from a switch of its mode. -/
theorem restart_never_stalls (env : UsbEnv) (events : List UsbEvent) (u : UsbPtr)
    (heard : Each (fun earlier event => fineStep env (steady env u) (run env earlier) event = true) events)
    (member : u ∈ (run env events).deviceList) :
    ∃ e, (run env events).entry u = some e ∧ ∃ stage, (run env events).At u e stage := by
  have clears (s : Usb) (event : LibusbEvent) (fine : steady env u s event = true) :
      clear env s event = true ∧ ∀ v ∈ ({u} : Set UsbPtr), hears env v s event = true := by
    obtain ⟨clear, hears⟩ := Bool.and_eq_true_iff.mp fine
    exact ⟨clear, fun v watched => Set.mem_singleton_iff.mp watched ▸ hears⟩
  have kept := run_strict clears heard
  obtain ⟨e, present⟩ := Option.isSome_iff_exists.mp ((kept.tidy.listed u).mp member)
  refine ⟨e, present, ?_⟩
  rcases kept.awake u e present rfl with (lost | switched | used) | asks
  · exact ⟨.dead, by simpa [At, strict, lost] using (kept.sane u e present).ruled⟩
  · exact ⟨.switching, switched⟩
  · exact ⟨.serving, used⟩
  · exact ⟨.asking, asks⟩

/-- The phone is told to switch its mode, leaves, is reaped and comes back at another address. -/
def phoneSwitches : List UsbEvent :=
  [.handle (.arrived phone), .handle (.done 0 .completed [3, 3, 3, 0] []), .handle (.done 1 .completed [0] []),
    .handle (.left 1 2), .reap (fun _ => []) [], .handle (.arrived { phone with address := 3 })]

theorem phone_restarts :
    let s := run { working with desiredMode := 2 } phoneSwitches
    ((run { working with desiredMode := 2 } (phoneSwitches.take 3)).entry 0).map UsbEntry.switched = some true ∧
      s.deviceList = [1] ∧ ∃ e, s.entry 1 = some e ∧ ∃ stage, s.At 1 e stage :=
  ⟨by decide +kernel, by decide +kernel,
    restart_never_stalls _ phoneSwitches 1 (by decide +kernel) (by decide +kernel)⟩

end Usb

end Usbmuxd
