import Usbmuxd.ToMathlib.Chunks
import Usbmuxd.Soundness.Sends
import Usbmuxd.Soundness.StartUp

/-! # The packets of USB transfers

libusb cuts a transfer into packets of `wMaxPacketSize` bytes, and only a shorter packet tells the device
where a buffer ends. `usb_send` divides by that size, which is zero until `device_complete_initialization`
has filled it in. It does so before it asks for the serial number, whose answer leads to the first call of
`usb_send`; the mux layer knows the device from then on only.
-/

namespace Usbmuxd

open Chunks

/-- Send buffers one after another. -/
def usbSendAll (env : Env) (u : UsbPtr) : List Bytes → Mux → List ℤ × Mux
  | [], s => ([], s)
  | buffer :: rest, s =>
    let r := usbSend env u buffer s
    let t := usbSendAll env u rest r.2
    (r.1 :: t.1, t.2)

private theorem flatMap_transfersOf (size : ℕ) (buffer : Bytes) :
    (transfersOf size buffer).flatMap (cut size) = terminated size buffer := by
  rw [transfersOf, terminated]
  have empty : cut size ([] : Bytes) = [[]] := cut_of_le (Nat.zero_le size)
  split
  · simp [empty]
  · simp

private theorem usbSendAll_transfers (env : Env) (u : UsbPtr) {buffers : List Bytes} {s : Mux}
    (taken : ∀ result ∈ (usbSendAll env u buffers s).1, 0 ≤ result) :
    (usbSendAll env u buffers s).2.txXfers u =
      s.txXfers u ++ buffers.flatMap (transfersOf (env.usbDevice u).wMaxPacketSize) := by
  induction buffers generalizing s with
  | nil => simp [usbSendAll]
  | cons buffer rest ih =>
    rw [usbSendAll] at taken ⊢
    have first := taken _ List.mem_cons_self
    rw [ih fun result member => taken result (List.mem_cons_of_mem _ member)]
    obtain ⟨tick, more, submission, state⟩ := usbSend_submission env u buffer s
    rw [state]
    generalize (usbSend env u buffer s).1 = result at submission first
    cases submission with
    | done => simp [Mux.submitted]
    | refused failed | cut failed => exact absurd first (Int.not_le.mpr failed)

section Accounts

variable {env : Env} {libusb : UsbEnv} {u : UsbPtr} {e : UsbEntry} {s : Mux} {x : Usb}

/-- The record of a device after a submission has one more transfer if the mux layer counts one more. -/
private theorem submitTx_agrees (buffer : Bytes) (present : x.entry u = some e)
    (answer : (libusb.answers x.tick).result = (env.usb s.tick).submit) :
    let r := Usb.submitTx libusb u x
    let t := submitTransfer env u buffer s
    r.1 = t.1 ∧ (¬r.1 < 0 → r.2.tick = x.tick + 2 ∧ t.2.tick = s.tick + 1) ∧ ∃ e', r.2.entry u = some e' ∧
      e'.txXfers.length + (s.txXfers u).length = e.txXfers.length + (t.2.txXfers u).length := by
  simp only [Usb.submitTx, Usb.submit, Usb.allocTransfer, submitTransfer, answer]
  by_cases failed : (env.usb s.tick).submit < 0
  · simp only [if_pos failed, true_and]
    exact ⟨fun taken => absurd failed taken, e, present, rfl⟩
  · simp only [if_neg failed, Usb.modify, Usb.bump, present, true_and]
    refine ⟨fun _ => ⟨rfl, rfl⟩, _, Function.update_self .., ?_⟩
    rw [(Collection.add_perm ..).length_eq, List.length_cons, Function.update_self, List.length_append,
      List.length_singleton]
    omega

/-- `usb_send` as the USB layer accounts for it, by transfers, and as the mux layer does, by their bytes. -/
private theorem usbSend_agrees (buffer : Bytes) (present : x.entry u = some e)
    (size : e.wMaxPacketSize = (env.usbDevice u).wMaxPacketSize) (positive : 0 < e.wMaxPacketSize)
    (first : (libusb.answers x.tick).result = (env.usb s.tick).submit)
    (second : (libusb.answers (x.tick + 2)).result = (env.usb (s.tick + 1)).submit) :
    let r := Usb.usbSend libusb u buffer.length x
    let t := usbSend env u buffer s
    r.1 = t.1 ∧ ∃ e', r.2.entry u = some e' ∧
      e'.txXfers.length + (s.txXfers u).length = e.txXfers.length + (t.2.txXfers u).length := by
  obtain ⟨result, ticks, e₁, present₁, count₁⟩ := submitTx_agrees buffer present first
  simp only [Usb.usbSend, usbSend, present, if_neg positive.ne', ← size, ← result]
  by_cases refused : (Usb.submitTx libusb u x).1 < 0
  · rw [if_pos refused, if_pos refused]
    exact ⟨result, e₁, present₁, count₁⟩
  rw [if_neg refused, if_neg refused]
  by_cases whole : buffer.length % e.wMaxPacketSize = 0
  · -- the empty packet is submitted to both
    obtain ⟨later, tick⟩ := ticks refused
    obtain ⟨result', -, e₂, present₂, count₂⟩ := submitTx_agrees [] present₁ (later ▸ tick ▸ second)
    have count : e₂.txXfers.length + (s.txXfers u).length = e.txXfers.length +
      ((submitTransfer env u [] (submitTransfer env u buffer s).2).2.txXfers u).length := by omega
    rw [if_pos whole, if_pos whole, ← result']
    split
    · exact ⟨result', e₂, present₂, count⟩
    · exact ⟨rfl, e₂, present₂, count⟩
  · rw [if_neg whole, if_neg whole]
    exact ⟨rfl, e₁, present₁, count₁⟩

end Accounts

/-- A call of `usb_send` and the state in which it is made, by the mux layer or for a new device. -/
structure SendCall where
  state : Usb
  device : UsbPtr
  fromMux : Bool

namespace SendCall

/-- The mux layer sends to devices that were added to it. -/
def Known (call : SendCall) : Prop := call.fromMux = true → call.state.InUse call.device

/-- The device has a packet size. -/
def Sized (call : SendCall) : Prop := ∀ e, call.state.entry call.device = some e → 0 < e.wMaxPacketSize

instance (call : SendCall) : Decidable call.Known :=
  inferInstanceAs (Decidable (call.fromMux = true → call.state.InUse call.device))

end SendCall

/-- The device whose language id or serial number the callback is given. -/
def Callback.names : Callback → Option UsbPtr
  | getLangid u | getSerial u => some u
  | rx _ | tx _ | getMode .. | switchMode .. => none

namespace Usb

section Calls

variable (env : UsbEnv)

/-- The calls that `device_data_input` makes. -/
def muxCalls : List (UsbPtr × ℕ) → Usb → List SendCall
  | [], _ => []
  | send :: rest, s => ⟨s, send.1, true⟩ :: muxCalls rest (usbSend env send.1 send.2 s).2

/-- The calls while an event is handled. -/
def eventCalls (s : Usb) : LibusbEvent → List SendCall
  | .arrived _ | .left .. => []
  | .done x status data sends =>
    let called := { s with inFlight := Function.update s.inFlight x none }
    match s.inFlight x with
    | some (.rx u) => if status = .completed then muxCalls env sends (called.touch u) else []
    | some (.getSerial u) =>
      match s.entry u with
      | none => []
      | some e =>
        if status = .completed then [⟨called.setEntry u (some { e with serial := serialNumber data }), u, false⟩] else
          []
    | _ => []

def batchCalls : List LibusbEvent → Usb → List SendCall
  | [], _ => []
  | event :: rest, s => eventCalls env s event ++ batchCalls rest (handleEvent env s event)

/-- The calls while `usb_disconnect` waits. -/
def waitCalls (u : UsbPtr) : List (List LibusbEvent) → Usb → List SendCall
  | [], _ => []
  | batch :: rest, s =>
    if s.waiting u then batchCalls env batch s ++ waitCalls u rest (batch.foldl (handleEvent env) s) else []

/-- The calls in one turn of `reap_dead_devices`. -/
def turnCalls (waits : UsbPtr → List (List LibusbEvent)) (s : Usb) (u : UsbPtr) : List SendCall :=
  if u ∈ s.deviceList ∧ (s.entry u).any (fun e => !e.alive && e.handle ≠ none) then waitCalls env u (waits u) s else []

def reapCalls (waits : UsbPtr → List (List LibusbEvent)) : List UsbPtr → Usb → List SendCall
  | [], _ => []
  | u :: rest, s => turnCalls env waits s u ++ reapCalls waits rest (reapDevice env waits s u)

def stepCalls (s : Usb) : UsbEvent → List SendCall
  | .handle event => eventCalls env s event
  | .send u _ => [⟨s, u, true⟩]
  | .reap waits late => reapCalls env waits (s.deviceList ++ late) s
  | .discover none .. | .autodiscover _ => []
  | .discover (some devs) waits late =>
    let marked := ({ s with devlistFailures := 0 } : Usb).markAll
    let scanned := (devs.foldl (fun s dev => (usbDeviceAdd env dev s).2) marked).noteLost
    reapCalls env waits (scanned.deviceList ++ late) scanned

/-- The calls of `usb_send` in a run. -/
def runCalls : List UsbEvent → Usb → List SendCall
  | [], _ => []
  | event :: rest, s => stepCalls env s event ++ runCalls rest (step env s event)

end Calls

/-- Every device that may be sent to has a packet size. -/
structure Sized (s : Usb) : Prop where
  divisible : ∀ v, .zeroPacketSize v ∉ s.faults
  allocated : ∀ u e, s.entry u = some e → u < s.nextUsb
  named : ∀ x callback u, s.inFlight x = some callback → callback.names = some u →
    u < s.nextUsb ∧ ∀ e, s.entry u = some e → 0 < e.wMaxPacketSize
  added : ∀ u e, s.entry u = some e → e.added = true → 0 < e.wMaxPacketSize

section Sized

variable {env : UsbEnv} {s s' : Usb} {u : UsbPtr} {e : UsbEntry} {x : XferPtr} {callback : Callback}

private theorem setEntry_positive (positive : 0 < e.wMaxPacketSize) (f : UsbEntry)
    (there : (s.setEntry u (some e)).entry u = some f) : 0 < f.wMaxPacketSize := by
  rcases Update.stored.mp there with ⟨-, rfl⟩ | ⟨other, -⟩
  · exact positive
  · exact absurd rfl other

namespace Sized

/-- The devices keep their packet sizes, new ones are not added yet, and no question is new. -/
private theorem carry (sized : s.Sized) (faults : ∀ v, .zeroPacketSize v ∈ s'.faults → .zeroPacketSize v ∈ s.faults)
    (nextUsb : s.nextUsb ≤ s'.nextUsb)
    (inFlight : ∀ y callback, s'.inFlight y = some callback → s.inFlight y = some callback)
    (before : ∀ v f, s'.entry v = some f → (∃ g, s.entry v = some g ∧ (0 < g.wMaxPacketSize → 0 < f.wMaxPacketSize) ∧
      (f.added = true → g.added = true ∨ 0 < f.wMaxPacketSize)) ∨ s.nextUsb ≤ v ∧ v < s'.nextUsb ∧ f.added = false) :
    s'.Sized := by
  refine ⟨fun v member => sized.divisible v (faults v member), fun v f there => ?_,
    fun y callback v flying names => ?_, fun v f there used => ?_⟩
  · rcases before v f there with ⟨g, present, -⟩ | ⟨-, new, -⟩
    · exact (sized.allocated v g present).trans_le nextUsb
    · exact new
  · obtain ⟨older, known⟩ := sized.named y callback v (inFlight y callback flying) names
    refine ⟨older.trans_le nextUsb, fun f there => ?_⟩
    rcases before v f there with ⟨g, present, kept, -⟩ | ⟨new, -⟩
    · exact kept (known g present)
    · exact absurd older new.not_gt
  · rcases before v f there with ⟨g, present, kept, added⟩ | ⟨-, -, unused⟩
    · exact (added used).elim (fun before => kept (sized.added v g present before)) id
    · cases unused.symm.trans used

private theorem congr (sized : s.Sized) (faults : ∀ v, .zeroPacketSize v ∈ s'.faults → .zeroPacketSize v ∈ s.faults)
    (entry : s'.entry = s.entry) (nextUsb : s'.nextUsb = s.nextUsb) (inFlight : s'.inFlight = s.inFlight) :
    s'.Sized :=
  sized.carry faults nextUsb.ge (fun _ _ flying => inFlight ▸ flying) fun _ f there =>
    .inl ⟨f, entry ▸ there, id, .inl⟩

private theorem freedFault (sized : s.Sized) (u : UsbPtr) : (s.fault (.freedDevice u)).Sized :=
  sized.congr (fun v member => by simpa [fault] using member) rfl rfl rfl

/-- A device is updated. It does not lose its packet size, and has one if it is added. -/
private theorem setEntry (sized : s.Sized) (present : s.entry u = some e) (e' : UsbEntry)
    (kept : 0 < e.wMaxPacketSize → 0 < e'.wMaxPacketSize)
    (added : e'.added = true → e.added = true ∨ 0 < e'.wMaxPacketSize) : (s.setEntry u (some e')).Sized := by
  refine sized.carry (fun _ => id) le_rfl (fun _ _ => id) fun v f there => .inl ?_
  rcases Update.stored.mp there with ⟨rfl, rfl⟩ | ⟨-, known⟩
  · exact ⟨e, present, kept, added⟩
  · exact ⟨f, known, id, .inl⟩

private theorem modify (sized : s.Sized) (f : UsbEntry → UsbEntry)
    (kept : ∀ e, s.entry u = some e → 0 < e.wMaxPacketSize → 0 < (f e).wMaxPacketSize)
    (added : ∀ e, s.entry u = some e → (f e).added = true → e.added = true ∨ 0 < (f e).wMaxPacketSize) :
    (s.modify u f).Sized := by
  rcases present : s.entry u with _ | e
  · rw [modify_of_freed present]
    exact sized.freedFault u
  · rw [modify_of_present present]
    exact sized.setEntry present _ (kept e present) (added e present)

private theorem fail (sized : s.Sized) : (s.fail u).Sized := sized.modify _ (fun _ _ => id) fun _ _ => .inl

private theorem launch (sized : s.Sized)
    (known : ∀ u, callback.names = some u → u < s.nextUsb ∧ ∀ e, s.entry u = some e → 0 < e.wMaxPacketSize) :
    (s.launch x callback).Sized := by
  refine ⟨sized.divisible, sized.allocated, fun y other v flying names => ?_, sized.added⟩
  rcases Update.stored.mp flying with ⟨-, rfl⟩ | ⟨-, earlier⟩
  · exact known v names
  · exact sized.named y other v earlier names

private theorem called (sized : s.Sized) (x : XferPtr) :
    Sized { s with inFlight := Function.update s.inFlight x none } :=
  sized.carry (fun _ => id) le_rfl (fun _ _ flying => (Update.removed.mp flying).2) fun _ f there =>
    .inl ⟨f, there, id, .inl⟩

private theorem submit (sized : s.Sized) (env : UsbEnv) (x : XferPtr) (callback : Callback)
    (known : ∀ u, callback.names = some u → u < s.nextUsb ∧ ∀ e, s.entry u = some e → 0 < e.wMaxPacketSize) :
    (submit env x callback s).2.Sized := by
  rcases submit_cases env x callback s with ⟨-, outcome⟩ | ⟨-, outcome⟩
  · rw [outcome]
    exact sized.congr (fun _ => id) rfl rfl rfl
  · rw [outcome]
    exact sized.launch known

private theorem allocTransfer (sized : s.Sized) : s.allocTransfer.2.Sized := sized.congr (fun _ => id) rfl rfl rfl

private theorem free (sized : s.Sized) : (freeDevice u s).Sized := by
  rw [freeDevice]
  split
  · exact sized.freedFault u
  · exact sized.carry (fun _ => id) le_rfl (fun _ _ => id) fun _ f there =>
      .inl ⟨f, (Update.removed.mp there).2, id, .inl⟩

private theorem create (sized : s.Sized) (new : e.added = false) (tick nextHandle : ℕ) (list : List UsbPtr) :
    Sized { s.setEntry s.nextUsb (some e) with
      tick := tick, nextUsb := s.nextUsb + 1, nextHandle := nextHandle, deviceList := list } := by
  refine sized.carry (fun _ => id) (Nat.le_succ _) (fun _ _ => id) fun v f there => ?_
  rcases Update.stored.mp there with ⟨rfl, rfl⟩ | ⟨-, known⟩
  · exact .inr ⟨le_rfl, Nat.lt_succ_self _, new⟩
  · exact .inl ⟨f, known, id, .inl⟩

end Sized

private theorem submitTx_sized (sized : s.Sized) : (submitTx env u s).2.Sized := by
  have submitted := sized.allocTransfer.submit env s.allocTransfer.1 (.tx u) fun _ names => by cases names
  simp only [submitTx]
  split
  · exact submitted
  · have ticked : (Usb.submit env s.allocTransfer.1 (.tx u) s.allocTransfer.2).2.bump.Sized :=
      submitted.congr (fun _ => id) rfl rfl rfl
    exact ticked.modify _ (fun _ _ => id) fun _ _ => .inl

private theorem usbSend_sized {length : ℕ} (sized : s.Sized) (known : ∀ e, s.entry u = some e → 0 < e.wMaxPacketSize) :
    (usbSend env u length s).2.Sized := by
  simp only [usbSend]
  split
  · exact sized.freedFault u
  next e present =>
  have sent : (submitTx env u s).2.Sized := submitTx_sized sized
  split
  · exact sent
  split
  · next zero => exact absurd zero (Nat.ne_of_gt (known e present))
  split
  · split
    · exact submitTx_sized sent
    · exact submitTx_sized sent
  · exact sent

private theorem startRxLoop_sized (sized : s.Sized) : (startRxLoop env u s).2.Sized := by
  have submitted := sized.allocTransfer.submit env s.allocTransfer.1 (.rx u) fun _ names => by cases names
  simp only [startRxLoop]
  split
  · exact submitted
  · have ticked : (Usb.submit env s.allocTransfer.1 (.rx u) s.allocTransfer.2).2.bump.Sized :=
      submitted.congr (fun _ => id) rfl rfl rfl
    exact ticked.modify _ (fun _ _ => id) fun _ _ => .inl

private theorem startRxLoops_sized (env : UsbEnv) (u : UsbPtr) (loops : ℕ) (sized : s.Sized) :
    (startRxLoops env u loops s).2.Sized := by
  induction loops generalizing s with
  | zero => exact sized
  | succ loops ih =>
    simp only [startRxLoops]
    split
    · exact startRxLoop_sized sized
    · exact ih (startRxLoop_sized sized)

private theorem Sized.inUse (sized : s.Sized) (used : s.InUse u) (e : UsbEntry) (present : s.entry u = some e) :
    0 < e.wMaxPacketSize :=
  sized.added u e present (by simpa [InUse, present] using used)

private theorem usbSends_sized {sends : List (UsbPtr × ℕ)} (sized : s.Sized)
    (known : ∀ call ∈ muxCalls env sends s, call.Known) :
    (usbSends env sends s).Sized ∧ ∀ call ∈ muxCalls env sends s, call.Sized := by
  induction sends generalizing s with
  | nil => exact ⟨sized, by simp [muxCalls]⟩
  | cons send rest ih =>
    simp only [muxCalls, List.forall_mem_cons] at known ⊢
    have size := sized.inUse (known.1 rfl)
    obtain ⟨sent, calls⟩ := ih (usbSend_sized sized size) known.2
    exact ⟨sent, size, calls⟩

/-- `device_complete_initialization` fills in the packet size before it asks for the language id. -/
private theorem deviceCompleteInitialization_sized {context : ModeContext} {handle : ℕ} (sized : s.Sized) :
    (deviceCompleteInitialization env context handle s).Sized := by
  rw [deviceCompleteInitialization]
  split
  · exact sized
  next u _ =>
  split
  · exact sized.freedFault u
  next e present =>
  simp only
  generalize setValidConfiguration env context.dev e.bNumConfigurations e.endpoints s.tick = r
  have configured (tick : ℕ) : Sized { s.setEntry u (some { e with endpoints := r.2.endpoints }) with tick := tick } :=
    (sized.setEntry present { e with endpoints := r.2.endpoints } id .inl).congr (fun _ => id) rfl rfl rfl
  split
  · exact (configured _).fail
  split
  · exact (configured _).fail
  split
  · exact (configured _).fail
  split
  · exact (configured _).fail
  generalize (env.answers _).value = size
  have positive :
      0 < (UsbEntry.completed { e with endpoints := r.2.endpoints } context handle size).wMaxPacketSize := by
    simp only [UsbEntry.completed]
    split <;> omega
  have completed := ((configured (r.2.tick + 4)).setEntry (Function.update_self ..) _ (fun _ => positive)
    fun _ => .inr positive).allocTransfer
  have asked := completed.submit env s.nextXfer (.getLangid u) fun v names => by
    obtain rfl : u = v := Option.some.inj names
    exact ⟨sized.allocated u e present, setEntry_positive positive⟩
  split
  · exact asked.fail
  · exact asked

private theorem switchModeCb_sized {context : ModeContext} {handle : ℕ} {status : TransferStatus} {data : Bytes}
    (sized : s.Sized) :
    (switchModeCb env context handle status data s).Sized := by
  rw [switchModeCb]
  split
  · exact deviceCompleteInitialization_sized sized
  split
  · exact sized
  · exact sized.modify _ (fun _ _ => id) fun _ _ => .inl

private theorem submitVendorSpecific_sized (sized : s.Sized) (other : callback.names = none) :
    (submitVendorSpecific env callback s).2.Sized :=
  sized.allocTransfer.submit env _ _ fun u names => by rw [other] at names; cases names

private theorem getModeCb_sized {context : ModeContext} {handle : ℕ} {status : TransferStatus} (sized : s.Sized) :
    (getModeCb env context handle status s).Sized := by
  rw [getModeCb]
  split
  · exact sized
  split
  · exact deviceCompleteInitialization_sized sized
  simp only
  have guessed (tick : ℕ) : Sized { s with tick := tick } := sized.congr (fun _ => id) rfl rfl rfl
  split
  · split
    · exact (submitVendorSpecific_sized (guessed _) rfl).fail
    · exact submitVendorSpecific_sized (guessed _) rfl
  · exact deviceCompleteInitialization_sized (guessed _)

private theorem getLangidCallback_sized {status : TransferStatus} (sized : s.Sized) (older : u < s.nextUsb)
    (size : ∀ e, s.entry u = some e → 0 < e.wMaxPacketSize) : (getLangidCallback env x u status s).Sized := by
  rw [getLangidCallback]
  split
  · exact sized.freedFault u
  split
  · exact sized
  · refine sized.submit env x _ fun v names => ?_
    obtain rfl : u = v := Option.some.inj names
    exact ⟨older, size⟩

private theorem getSerialCallback_sized {status : TransferStatus} {data : Bytes} (sized : s.Sized)
    (size : ∀ e, s.entry u = some e → 0 < e.wMaxPacketSize) : (getSerialCallback env u status data s).Sized := by
  rw [getSerialCallback]
  split
  · exact sized.freedFault u
  next e present =>
  split
  · exact sized
  simp only
  have serial : (s.setEntry u (some { e with serial := serialNumber data })).Sized := sized.setEntry present _ id .inl
  have there : (s.setEntry u (some { e with serial := serialNumber data })).entry u =
      some { e with serial := serialNumber data } := Function.update_self ..
  have positive : 0 < ({ e with serial := serialNumber data } : UsbEntry).wMaxPacketSize := size e present
  have known := setEntry_positive (s := s) (u := u) positive
  generalize s.setEntry u (some { e with serial := serialNumber data }) = s at serial there known
  have sent : (usbSend env u 20 s).2.Sized := usbSend_sized serial known
  obtain ⟨e₁, there₁, same⟩ := (usbSend_bulk env u 20 s).present there
  have positive₁ : 0 < e₁.wMaxPacketSize := by
    have equal : e₁.bare.wMaxPacketSize = UsbEntry.wMaxPacketSize (UsbEntry.bare _) :=
      congrArg UsbEntry.wMaxPacketSize same
    exact positive.trans_eq equal.symm
  split
  · exact sent.free
  have added : ((usbSend env u 20 s).2.modify u fun e => { e with added := true }).Sized :=
    sent.modify _ (fun _ _ => id) fun f known _ => by
      obtain rfl := Option.some.inj (there₁.symm.trans known)
      exact .inr positive₁
  have started := startRxLoops_sized env u 3 added
  split
  · exact started.free
  · exact started.modify _ (fun _ _ => id) fun _ _ => .inl

private theorem usbDeviceAdd_sized {dev : LibusbDevice} (sized : s.Sized) : (usbDeviceAdd env dev s).2.Sized := by
  simp only [usbDeviceAdd]
  split
  · exact sized.modify _ (fun _ _ => id) fun _ _ => .inl
  split
  · exact sized.congr (fun _ => id) rfl rfl rfl
  split
  · exact sized.congr (fun _ => id) rfl rfl rfl
  split
  · exact sized.congr (fun _ => id) rfl rfl rfl
  have created := sized.create (e := UsbEntry.opened dev s.nextHandle) rfl (s.tick + 3) (s.nextHandle + 1)
    (Collection.add (env.answers (s.tick + 2)).slot s.nextUsb s.deviceList)
  split
  · exact (submitVendorSpecific_sized created rfl).fail
  · exact submitVendorSpecific_sized created rfl

end Sized

section Runs

variable {env : UsbEnv} {s : Usb} {u : UsbPtr}

private theorem handleEvent_sized {event : LibusbEvent} (sized : s.Sized)
    (known : ∀ call ∈ eventCalls env s event, call.Known) :
    (handleEvent env s event).Sized ∧ ∀ call ∈ eventCalls env s event, call.Sized := by
  cases event with
  | arrived dev =>
    refine ⟨?_, by simp [eventCalls]⟩
    simp only [handleEvent]
    split
    · exact usbDeviceAdd_sized sized
    · exact sized
  | left bus address =>
    refine ⟨?_, by simp [eventCalls]⟩
    simp only [handleEvent]
    split
    · exact sized
    · exact sized.fail
  | done x status data sends =>
    have begun := sized.called x
    rcases flying : s.inFlight x with _ | callback
    · simp only [handleEvent, eventCalls, flying]
      exact ⟨sized, by simp⟩
    have asked := sized.named x callback
    simp only [handleEvent, eventCalls, flying] at known ⊢
    cases callback with
    | rx u =>
      simp only [call, rxCallback] at known ⊢
      by_cases completed : status = .completed
      · simp only [if_pos completed] at known ⊢
        have touched : (touch { s with inFlight := Function.update s.inFlight x none } u).Sized := by
          simp only [touch]
          split
          · exact begun
          · exact begun.freedFault u
        obtain ⟨sent, calls⟩ := usbSends_sized touched known
        exact ⟨sent.submit env x _ fun _ names => (by cases names), calls⟩
      · simp only [if_neg completed]
        refine ⟨?_, by simp⟩
        apply Sized.fail
        exact begun.modify _ (fun _ _ => id) fun _ _ => .inl
    | tx u =>
      refine ⟨?_, by simp⟩
      simp only [call, txCallback]
      split
      · exact begun.fail.modify _ (fun _ _ => id) fun _ _ => .inl
      · exact begun.modify _ (fun _ _ => id) fun _ _ => .inl
    | getMode context handle => exact ⟨getModeCb_sized begun, by simp⟩
    | switchMode context handle => exact ⟨switchModeCb_sized begun, by simp⟩
    | getLangid u =>
      obtain ⟨older, size⟩ := asked u flying rfl
      exact ⟨getLangidCallback_sized begun older size, by simp⟩
    | getSerial u =>
      obtain ⟨-, size⟩ := asked u flying rfl
      refine ⟨getSerialCallback_sized begun size, ?_⟩
      dsimp only
      split
      · simp
      next e present =>
      split
      · have positive : 0 < ({ e with serial := serialNumber data } : UsbEntry).wMaxPacketSize := size e present
        exact List.forall_mem_singleton.mpr (setEntry_positive positive)
      · simp

private theorem foldl_handleEvent_sized {batch : List LibusbEvent} (sized : s.Sized)
    (known : ∀ call ∈ batchCalls env batch s, call.Known) :
    (batch.foldl (handleEvent env) s).Sized ∧ ∀ call ∈ batchCalls env batch s, call.Sized := by
  induction batch generalizing s with
  | nil => exact ⟨sized, by simp [batchCalls]⟩
  | cons event rest ih =>
    simp only [batchCalls, List.forall_mem_append] at known ⊢
    obtain ⟨handled, calls⟩ := handleEvent_sized sized known.1
    obtain ⟨done, calls'⟩ := ih handled known.2
    exact ⟨done, calls, calls'⟩

private theorem waitTransfers_sized {batches : List (List LibusbEvent)} (sized : s.Sized)
    (known : ∀ call ∈ waitCalls env u batches s, call.Known) :
    (waitTransfers env u batches s).2.Sized ∧ ∀ call ∈ waitCalls env u batches s, call.Sized := by
  induction batches generalizing s with
  | nil => exact ⟨sized, by simp [waitCalls]⟩
  | cons batch rest ih =>
    by_cases waits : s.waiting u
    · simp only [waitCalls, waitTransfers, if_pos waits, List.forall_mem_append] at known ⊢
      obtain ⟨handled, calls⟩ := foldl_handleEvent_sized sized known.1
      obtain ⟨waited, calls'⟩ := ih handled known.2
      exact ⟨waited, calls, calls'⟩
    · simp only [waitCalls, waitTransfers, if_neg waits]
      exact ⟨sized, by simp⟩

private theorem reapDevice_sized {waits : UsbPtr → List (List LibusbEvent)} (sized : s.Sized)
    (known : ∀ call ∈ turnCalls env waits s u, call.Known) :
    (reapDevice env waits s u).Sized ∧ ∀ call ∈ turnCalls env waits s u, call.Sized := by
  rw [reapDevice, usbDisconnect]
  rw [turnCalls] at known ⊢
  rcases present : s.entry u with _ | e
  · simpa using sized
  simp only [present, Option.any_some, Bool.and_eq_true, decide_eq_true_eq] at known ⊢
  by_cases dead : u ∈ s.deviceList ∧ (!e.alive) = true
  · by_cases opened : e.handle = none
    · simp [dead, opened, sized]
    · rw [if_pos dead, if_neg opened]
      rw [if_pos ⟨dead.1, dead.2, opened⟩] at known ⊢
      obtain ⟨waited, calls⟩ := waitTransfers_sized sized known
      exact ⟨waited.free, calls⟩
  · rw [if_neg dead, if_neg fun due => dead ⟨due.1, due.2.1⟩]
    exact ⟨sized, by simp⟩

private theorem foldl_reapDevice_sized {waits : UsbPtr → List (List LibusbEvent)} {turns : List UsbPtr}
    (sized : s.Sized)
    (known : ∀ call ∈ reapCalls env waits turns s, call.Known) :
    (turns.foldl (reapDevice env waits) s).Sized ∧ ∀ call ∈ reapCalls env waits turns s, call.Sized := by
  induction turns generalizing s with
  | nil => exact ⟨sized, by simp [reapCalls]⟩
  | cons u rest ih =>
    simp only [reapCalls, List.forall_mem_append] at known ⊢
    obtain ⟨turn, calls⟩ := reapDevice_sized sized known.1
    obtain ⟨reaped, calls'⟩ := ih turn known.2
    exact ⟨reaped, calls, calls'⟩

private theorem Sized.map (sized : s.Sized) (f : UsbEntry → UsbEntry)
    (same : ∀ e, (f e).wMaxPacketSize = e.wMaxPacketSize)
    (added : ∀ e, (f e).added = e.added) : Sized { s with entry := fun u => (s.entry u).map f } := by
  refine sized.carry (fun _ => id) le_rfl (fun _ _ => id) fun v g there => .inl ?_
  obtain ⟨e, present, rfl⟩ := Option.map_eq_some_iff.mp there
  exact ⟨e, present, (same e).ge.trans_lt', fun used => .inl (added e ▸ used)⟩

private theorem step_sized {event : UsbEvent} (sized : s.Sized) (known : ∀ call ∈ stepCalls env s event, call.Known) :
    (step env s event).Sized ∧ ∀ call ∈ stepCalls env s event, call.Sized := by
  cases event with
  | handle event => exact handleEvent_sized sized known
  | send u length =>
    simp only [stepCalls, List.forall_mem_singleton] at known ⊢
    have size := sized.inUse (known rfl)
    exact ⟨usbSend_sized sized size, size⟩
  | reap waits late => exact foldl_reapDevice_sized sized known
  | autodiscover enable => exact ⟨sized.congr (fun _ => id) rfl rfl rfl, by simp [stepCalls]⟩
  | discover devs waits late =>
    cases devs with
    | none => exact ⟨sized.congr (fun _ => id) rfl rfl rfl, by simp [stepCalls]⟩
    | some devs =>
      have reset : Sized { s with devlistFailures := 0 } := sized.congr (fun _ => id) rfl rfl rfl
      have marked : ({ s with devlistFailures := 0 } : Usb).markAll.Sized := reset.map _ (fun _ => rfl) fun _ => rfl
      have scanned : (devs.foldl (fun s dev => (usbDeviceAdd env dev s).2)
          ({ s with devlistFailures := 0 } : Usb).markAll).Sized := by
        clear known
        generalize ({ s with devlistFailures := 0 } : Usb).markAll = t at marked
        induction devs generalizing t with
        | nil => exact marked
        | cons dev rest ih => exact ih _ (usbDeviceAdd_sized marked)
      exact foldl_reapDevice_sized (scanned.map _ (fun _ => rfl) fun _ => rfl) known

private theorem run_sized {events : List UsbEvent} (sized : s.Sized)
    (known : ∀ call ∈ runCalls env events s, call.Known) :
    (events.foldl (step env) s).Sized ∧ ∀ call ∈ runCalls env events s, call.Sized := by
  induction events generalizing s with
  | nil => exact ⟨sized, by simp [runCalls]⟩
  | cons event rest ih =>
    simp only [runCalls, List.forall_mem_append] at known ⊢
    obtain ⟨stepped, calls⟩ := step_sized sized known.1
    obtain ⟨ran, calls'⟩ := ih stepped known.2
    exact ⟨ran, calls, calls'⟩

end Runs

private theorem initial_sized : initial.Sized where
  divisible _ member := by simp [initial] at member
  allocated _ _ present := by cases present
  named _ _ _ flying := by cases flying
  added _ _ present := by cases present

end Usb

/-- The packets of buffers that were all taken, joined up to every short one, are the buffers. In every run
in which the mux layer sends only to devices that were added to it, `usb_send` is called for devices
with a packet size, and nothing is divided by zero. The two accounts of `usb_send`, with the bytes of its
transfers and with the records of the devices, agree: the same result, and as many transfers. -/
theorem packets_decodable :
    (∀ (env : Env) (u : UsbPtr) (buffers : List Bytes) (s : Mux), 0 < (env.usbDevice u).wMaxPacketSize →
      (∀ buffer ∈ buffers, buffer ≠ []) → (∀ result ∈ (usbSendAll env u buffers s).1, 0 ≤ result) →
      ∃ transfers, (usbSendAll env u buffers s).2.txXfers u = s.txXfers u ++ transfers ∧
        join (env.usbDevice u).wMaxPacketSize (transfers.flatMap (cut (env.usbDevice u).wMaxPacketSize))
          [] = (buffers, [])) ∧
    (∀ (env : UsbEnv) (events : List UsbEvent), (∀ call ∈ Usb.runCalls env events Usb.initial, call.Known) →
      (∀ call ∈ Usb.runCalls env events Usb.initial, call.Sized) ∧
        ∀ v, .zeroPacketSize v ∉ (Usb.run env events).faults) ∧
    ∀ (env : Env) (libusb : UsbEnv) (u : UsbPtr) (e : UsbEntry) (s : Mux) (x : Usb) (buffer : Bytes),
      x.entry u = some e → e.wMaxPacketSize = (env.usbDevice u).wMaxPacketSize → 0 < e.wMaxPacketSize →
      (libusb.answers x.tick).result = (env.usb s.tick).submit →
      (libusb.answers (x.tick + 2)).result = (env.usb (s.tick + 1)).submit →
      let r := Usb.usbSend libusb u buffer.length x
      let t := usbSend env u buffer s
      r.1 = t.1 ∧ ∃ e', r.2.entry u = some e' ∧
        e'.txXfers.length + (s.txXfers u).length = e.txXfers.length + (t.2.txXfers u).length := by
  refine ⟨?_, ?_, fun env libusb u e s x buffer => usbSend_agrees buffer⟩
  · intro env u buffers s positive nonempty taken
    refine ⟨_, usbSendAll_transfers env u taken, ?_⟩
    simp only [List.flatMap_assoc, flatMap_transfersOf]
    exact join_flatMap_terminated positive nonempty
  · intro env events known
    obtain ⟨ran, calls⟩ := Usb.run_sized Usb.initial_sized known
    exact ⟨calls, ran.divisible⟩

/-- A buffer of 64 bytes and one of 65 bytes, and the start of a phone with a packet that it asks for. -/
theorem phone_decodable :
    (∃ transfers, (usbSendAll (stalling 9) 0 [List.replicate 64 1, List.replicate 65 2] Mux.initial).2.txXfers
      0 = transfers ∧
      transfers.length = 3 ∧ join 64 (transfers.flatMap (cut 64)) [] =
        ([List.replicate 64 1, List.replicate 65 2], [])) ∧
    (Usb.runCalls Usb.working Usb.phoneStarts Usb.initial).length = 2 ∧
    (∀ call ∈ Usb.runCalls Usb.working Usb.phoneStarts Usb.initial, call.Sized) ∧
    (Usb.usbSend Usb.working 0 20 (Usb.run Usb.working Usb.phoneStarts)).1 =
      (usbSend sessionEnv 0 versionReply Mux.initial).1 := by
  obtain ⟨framed, started, agree⟩ := packets_decodable
  obtain ⟨transfers, sent, joined⟩ := framed (stalling 9) 0 [List.replicate 64 1, List.replicate 65 2] Mux.initial
    (by decide) (by decide) (by decide +kernel)
  obtain ⟨e, present, size⟩ : ∃ e, (Usb.run Usb.working Usb.phoneStarts).entry 0 = some e ∧ e.wMaxPacketSize = 512 :=
    Option.map_eq_some_iff.mp (by decide +kernel)
  refine ⟨⟨transfers, sent, ?_, joined⟩, by decide +kernel, (started _ _ (by decide +kernel)).1,
    (agree sessionEnv Usb.working 0 e Mux.initial _ versionReply present size (by omega) rfl rfl).1⟩
  have three :
      ((usbSendAll (stalling 9) 0 [List.replicate 64 1, List.replicate 65 2] Mux.initial).2.txXfers 0).length = 3 := by
    decide +kernel
  rwa [sent] at three

end Usbmuxd
