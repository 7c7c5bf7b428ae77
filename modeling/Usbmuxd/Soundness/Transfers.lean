import Usbmuxd.ToMathlib.History
import Usbmuxd.ToMathlib.Update
import Usbmuxd.Proofs.UsbEntries

/-! # Transfers in flight

The collections of a USB device hold the transfers that libusb will call back, as long as libusb accepts
the receive transfers that are submitted again. Then the loop of `usb_disconnect` ends when the
cancelled transfers have been called back.
-/

namespace Usbmuxd

open Collection History

/-- The two kinds of bulk transfers. -/
inductive Direction where
  | rx
  | tx
deriving DecidableEq

/-- The callback of a bulk transfer of a device. -/
def Callback.bulk : Direction × UsbPtr → Callback
  | (.rx, u) => .rx u
  | (.tx, u) => .tx u

private theorem Callback.bulk_injective : Function.Injective Callback.bulk := by
  rintro ⟨_ | _, u⟩ ⟨_ | _, v⟩ same <;> cases same <;> rfl

namespace UsbEntry

/-- The collection of one kind of transfers. -/
def xfers (e : UsbEntry) : Direction → List XferPtr
  | .rx => e.rxXfers
  | .tx => e.txXfers

def setXfers (e : UsbEntry) (kind : Direction) (list : List XferPtr) : UsbEntry :=
  match kind with
  | .rx => { e with rxXfers := list }
  | .tx => { e with txXfers := list }

end UsbEntry

namespace Usb

/-- A collection of a device that has not been freed. -/
def collection (s : Usb) (place : Direction × UsbPtr) : Option (List XferPtr) :=
  (s.entry place.2).map fun e => e.xfers place.1

/-- The transfers in flight, and the one that is being called back. -/
def held (s : Usb) : Option (XferPtr × Callback) → XferPtr → Option Callback
  | none => s.inFlight
  | some current => Function.update s.inFlight current.1 (some current.2)

/-- Every collection holds the transfers of its kind, once each. -/
structure Exact (current : Option (XferPtr × Callback)) (s : Usb) : Prop where
  listed : ∀ place list, s.collection place = some list →
    ∀ x, x ∈ list ↔ s.held current x = some (.bulk place)
  once : ∀ place list, s.collection place = some list → list.Nodup
  allocated : ∀ x callback, s.held current x = some callback → x < s.nextXfer

section Exact

variable {env : UsbEnv} {s s' : Usb} {current : Option (XferPtr × Callback)} {u : UsbPtr} {e : UsbEntry}
  {x : XferPtr} {place : Direction × UsbPtr} {list : List XferPtr} {callback : Callback}

private theorem collection_setEntry (kind : Direction) (present : s.entry u = some e) :
    (s.setEntry u (some (e.setXfers kind list))).collection = Function.update s.collection (kind, u) (some list) := by
  funext ⟨other, v⟩
  by_cases here : v = u
  · subst here
    by_cases same : other = kind
    · subst same
      cases other <;> simp [collection, setEntry, UsbEntry.setXfers, UsbEntry.xfers]
    · rw [Function.update_of_ne (fun equal => same (congrArg Prod.fst equal))]
      cases kind <;> cases other <;>
        first | exact absurd rfl same | simp [collection, setEntry, UsbEntry.setXfers, UsbEntry.xfers, present]
  · rw [Function.update_of_ne (fun equal => here (congrArg Prod.snd equal))]
    simp [collection, setEntry, here]

private theorem collection_modify (kind : Direction) (f : List XferPtr → List XferPtr) :
    (s.modify u fun e => e.setXfers kind (f (e.xfers kind))).collection =
      Function.update s.collection (kind, u) ((s.collection (kind, u)).map f) := by
  rcases present : s.entry u with _ | e
  · simp only [modify, present]
    have freed : s.collection (kind, u) = none := by simp [collection, present]
    rw [freed, Option.map_none, ← freed, Function.update_eq_self]
    rfl
  · simp only [modify, present]
    rw [collection_setEntry kind present]
    simp [collection, present]

private theorem collection_modify_of_same {f : UsbEntry → UsbEntry} (same : ∀ e, (f e).xfers = e.xfers) :
    (s.modify u f).collection = s.collection := by
  rcases present : s.entry u with _ | e
  · simp only [modify, present]
    rfl
  · simp only [modify, present]
    funext place
    obtain ⟨kind, v⟩ := place
    by_cases here : v = u
    · subst here
      simp [collection, setEntry, present, same]
    · simp [collection, setEntry, here]

namespace Exact

private theorem congr (exact : Exact current s) (same : s'.collection = s.collection)
    (inFlight : s'.inFlight = s.inFlight)
    (allocated : s.nextXfer ≤ s'.nextXfer) : Exact current s' := by
  have heldSame : s'.held current = s.held current := by
    cases current with
    | none => exact inFlight
    | some current => simp only [held, inFlight]
  refine ⟨by rw [same, heldSame]; exact exact.listed, by rw [same]; exact exact.once, fun x callback known => ?_⟩
  exact (exact.allocated x callback (heldSame ▸ known)).trans_le allocated

private theorem entered (exact : Exact current s) (known : s.collection place = some list) (slot : ℕ)
    (collected : s'.collection = Function.update s.collection place (some (add slot s.nextXfer list)))
    (inFlight : s'.inFlight = Function.update s.inFlight s.nextXfer (some (.bulk place)))
    (nextXfer : s'.nextXfer = s.nextXfer + 1) : Exact current s' := by
  have unused (callback : Callback) : s.held current s.nextXfer ≠ some callback := fun flying =>
    Nat.lt_irrefl _ (exact.allocated _ _ flying)
  have heldNow : s'.held current = Function.update (s.held current) s.nextXfer (some (.bulk place)) := by
    cases current with
    | none => exact inFlight
    | some current =>
      have older : current.1 ≠ s.nextXfer := fun same => unused current.2 (by simp [held, same])
      simp only [held, inFlight]
      exact Function.update_comm older.symm ..
  have absent {other : Direction × UsbPtr} {members : List XferPtr} (there : s.collection other = some members) :
      s.nextXfer ∉ members := fun member => unused _ ((exact.listed other members there _).mp member)
  refine ⟨fun other members there y => ?_, fun other members there => ?_, fun y callback flying => ?_⟩
  · rw [heldNow]
    rcases Update.stored.mp (collected ▸ there) with ⟨rfl, rfl⟩ | ⟨here, there⟩
    · by_cases new : y = s.nextXfer
      · simp [new]
      · simp [new, exact.listed other list known]
    · by_cases new : y = s.nextXfer
      · subst new
        refine iff_of_false (absent there) fun equal => here ?_
        exact (Callback.bulk_injective (Option.some.inj (by simpa using equal))).symm
      · simp [new, exact.listed other members there]
  · rcases Update.stored.mp (collected ▸ there) with ⟨rfl, rfl⟩ | ⟨-, before⟩
    · exact nodup_add (absent known) (exact.once other list known)
    · exact exact.once other members before
  · rw [nextXfer]
    rcases Update.stored.mp (heldNow ▸ flying) with ⟨rfl, -⟩ | ⟨-, earlier⟩
    · exact Nat.lt_succ_self _
    · exact (exact.allocated y callback earlier).trans (Nat.lt_succ_self _)

private theorem removed (place : Direction × UsbPtr) (exact : Exact (some (x, .bulk place)) s)
    (called : s.inFlight x = none)
    (collected : s'.collection = Function.update s.collection place ((s.collection place).map fun list => list.erase x))
    (inFlight : s'.inFlight = s.inFlight) (nextXfer : s'.nextXfer = s.nextXfer) : Exact none s' := by
  have elsewhere {y : XferPtr} (other : y ≠ x) : s.held (some (x, .bulk place)) y = s'.held none y := by
    simp [held, inFlight, other]
  have landed (callback : Callback) : s'.held none x ≠ some callback := by simp [held, inFlight, called]
  refine ⟨fun other members there y => ?_, fun other members there => ?_, fun y callback flying => ?_⟩
  · rw [collected] at there
    by_cases here : other = place
    · subst here
      rw [Function.update_self] at there
      obtain ⟨list, known, rfl⟩ := Option.map_eq_some_iff.mp there
      rw [(exact.once other list known).mem_erase_iff]
      by_cases gone : y = x
      · subst gone
        exact iff_of_false (fun both => both.1 rfl) (landed _)
      · rw [exact.listed other list known, elsewhere gone]
        exact and_iff_right gone
    · rw [Function.update_of_ne here] at there
      by_cases gone : y = x
      · subst gone
        refine iff_of_false (fun member => here ?_) (landed _)
        have flying := (exact.listed other members there y).mp member
        exact (Callback.bulk_injective (Option.some.inj (by simpa [held] using flying))).symm
      · rw [exact.listed other members there, elsewhere gone]
  · rw [collected] at there
    by_cases here : other = place
    · subst here
      rw [Function.update_self] at there
      obtain ⟨list, known, rfl⟩ := Option.map_eq_some_iff.mp there
      exact (exact.once other list known).erase x
    · rw [Function.update_of_ne here] at there
      exact exact.once other members there
  · rw [nextXfer]
    by_cases same : y = x
    · subst same
      exact absurd flying (landed _)
    · exact exact.allocated y callback ((elsewhere same).trans flying)

private theorem called (exact : Exact none s) (flying : s.inFlight x = some callback) :
    Exact (some (x, callback)) { s with inFlight := Function.update s.inFlight x none } := by
  have same : ({ s with inFlight := Function.update s.inFlight x none } : Usb).held (some (x, callback)) =
      s.held none := by
    simp [held, Function.update_eq_self_iff, flying]
  exact ⟨same ▸ exact.listed, exact.once, same ▸ exact.allocated⟩

private theorem resubmitted (exact : Exact (some (x, callback)) s)
    (inFlight : s'.inFlight = Function.update s.inFlight x (some callback)) (same : s'.collection = s.collection)
    (nextXfer : s'.nextXfer = s.nextXfer) : Exact none s' := by
  have heldSame : s'.held none = s.held (some (x, callback)) := inFlight
  exact ⟨by rw [heldSame, same]; exact exact.listed, by rw [same]; exact exact.once,
    by rw [heldSame, nextXfer]; exact exact.allocated⟩

private theorem fail (exact : Exact current s) : Exact current (s.fail u) :=
  exact.congr (collection_modify_of_same fun _ => rfl) (modify_inFlight _) (modify_nextXfer _).ge

end Exact

/-- A transfer that is allocated, submitted and added to its collection. -/
private theorem Exact.launched (exact : Exact current s) (present : s.entry u = some e) (kind : Direction) (slot : ℕ) :
    Exact current ((s.allocTransfer.2.launch s.nextXfer (.bulk (kind, u))).bump.modify u
      fun e => e.setXfers kind (add slot s.nextXfer (e.xfers kind))) := by
  have known : s.collection (kind, u) = some (e.xfers kind) := by simp [collection, present]
  refine exact.entered known slot ?_ (modify_inFlight _) (modify_nextXfer _)
  rw [collection_modify]
  change Function.update s.collection _ ((s.collection (kind, u)).map _) = _
  rw [known]
  rfl

private theorem submitTx_exact (env : UsbEnv) (exact : Exact current s) (present : s.entry u = some e) :
    Exact current (submitTx env u s).2 ∧ ∃ e', (submitTx env u s).2.entry u = some e' := by
  simp only [submitTx]
  rcases submit_cases env s.allocTransfer.1 (.tx u) s.allocTransfer.2 with ⟨refused, outcome⟩ | ⟨-, outcome⟩
  · rw [outcome, if_pos refused]
    exact ⟨exact.congr rfl rfl (Nat.le_succ _), e, present⟩
  · rw [outcome, if_neg (Int.lt_irrefl 0)]
    have still : (s.allocTransfer.2.launch s.allocTransfer.1 (.tx u)).bump.entry u = some e := present
    exact ⟨exact.launched present .tx _, _, modify_present still _⟩

/-- `usb_send` adds what it submits, whichever of its submissions fails. -/
private theorem usbSend_exact (exact : Exact current s) (u : UsbPtr) (length : ℕ) :
    Exact current (usbSend env u length s).2 := by
  simp only [usbSend]
  split
  · exact exact.congr rfl rfl (Nat.le_refl _)
  next e present =>
  obtain ⟨sent, e', still⟩ := submitTx_exact env exact present
  split
  · exact sent
  split
  · exact sent.congr rfl rfl (Nat.le_refl _)
  split
  · split
    · exact (submitTx_exact env sent still).1
    · exact (submitTx_exact env sent still).1
  · exact sent

private theorem usbSends_exact (exact : Exact current s) (sends : List (UsbPtr × ℕ)) :
    Exact current (usbSends env sends s) := by
  induction sends generalizing s with
  | nil => exact exact
  | cons send sends ih => exact ih (usbSend_exact exact send.1 send.2)

private theorem startRxLoop_exact (exact : Exact current s) (present : s.entry u = some e) :
    Exact current (startRxLoop env u s).2 := by
  simp only [startRxLoop]
  rcases submit_cases env s.allocTransfer.1 (.rx u) s.allocTransfer.2 with ⟨refused, outcome⟩ | ⟨-, outcome⟩
  · rw [outcome, if_pos (Int.ne_of_lt refused)]
    exact exact.congr rfl rfl (Nat.le_succ _)
  · rw [outcome, if_neg (not_not.mpr rfl)]
    exact exact.launched present .rx _

private theorem txCallback_exact (exact : Exact (some (x, .tx u)) s) (called : s.inFlight x = none)
    (status : TransferStatus) :
    Exact none (txCallback x u status s) := by
  have after (s : Usb) (exact : Exact (some (x, .tx u)) s) (called : s.inFlight x = none) :
      Exact none (s.modify u fun e => { e with txXfers := e.txXfers.erase x }) :=
    Exact.removed (.tx, u) exact called (collection_modify .tx fun list => list.erase x) (modify_inFlight _)
      (modify_nextXfer _)
  simp only [txCallback]
  split
  · exact after _ exact.fail (by rw [Usb.fail, modify_inFlight, called])
  · exact after _ exact called

private theorem rxCallback_failed_exact (exact : Exact (some (x, .rx u)) s) (called : s.inFlight x = none)
    {status : TransferStatus} (failed : status ≠ .completed) (sends : List (UsbPtr × ℕ)) :
    Exact none (rxCallback env x u status sends s) := by
  rw [rxCallback, if_neg failed]
  refine Exact.fail ?_
  exact Exact.removed (.rx, u) exact called (collection_modify .rx fun list => list.erase x)
    (modify_inFlight _) (modify_nextXfer _)

private theorem rxCallback_completed_exact (exact : Exact (some (x, .rx u)) s) (sends : List (UsbPtr × ℕ))
    (accepted : (env.answers (usbSends env sends (s.touch u)).tick).result = 0) :
    Exact none (rxCallback env x u .completed sends s) := by
  have touched : Exact (some (x, .rx u)) (s.touch u) := by
    refine exact.congr ?_ ?_ ?_ <;> simp only [touch] <;> split <;> rfl
  rw [rxCallback, if_pos rfl]
  rcases submit_cases env x (.rx u) (usbSends env sends (s.touch u)) with ⟨refused, -⟩ | ⟨-, outcome⟩
  · omega
  · rw [outcome]
    exact (usbSends_exact touched sends).resubmitted rfl rfl rfl

end Exact

end Usb

/-- The calls that submit bulk transfers or are called back for them. -/
inductive TransferEvent where
  | startRxLoop (u : UsbPtr)
  | usbSend (u : UsbPtr) (length : ℕ)
  /-- The callback of a bulk transfer, with its status and what the mux layer sends meanwhile. -/
  | done (x : XferPtr) (status : TransferStatus) (sends : List (UsbPtr × ℕ))

namespace Usb

/-- What such a call does. -/
def transferStep (env : UsbEnv) (s : Usb) : TransferEvent → Usb
  | .startRxLoop u => if (s.entry u).isSome then (startRxLoop env u s).2 else s
  | .usbSend u length => (usbSend env u length s).2
  | .done x status sends =>
    match s.inFlight x with
    | some (.rx u) => rxCallback env x u status sends { s with inFlight := Function.update s.inFlight x none }
    | some (.tx u) => txCallback x u status { s with inFlight := Function.update s.inFlight x none }
    | _ => s

/-- The state after a sequence of such calls. -/
def transferRun (env : UsbEnv) (start : Usb) (events : List TransferEvent) : Usb :=
  events.foldl (transferStep env) start

/-- The result of the submission that `rx_callback` ignores. -/
def resubmission (env : UsbEnv) (s : Usb) : TransferEvent → Option ℤ
  | .done x status sends =>
    if status = .completed then
      match s.inFlight x with
      | some (.rx u) =>
        let s : Usb := { s with inFlight := Function.update s.inFlight x none }
        some (env.answers (usbSends env sends (s.touch u)).tick).result
      | _ => none
    else none
  | _ => none

/-- libusb accepts a receive transfer that is submitted again. -/
def Resubmits (env : UsbEnv) (s : Usb) (event : TransferEvent) : Prop := ∀ res ∈ resubmission env s event, res = 0

instance (env : UsbEnv) (s : Usb) (event : TransferEvent) : Decidable (Resubmits env s event) :=
  inferInstanceAs (Decidable (∀ res ∈ resubmission env s event, res = 0))

/-- No transfer has been submitted yet. -/
def Quiet (s : Usb) : Prop :=
  (∀ x, s.inFlight x = none) ∧ ∀ u e, s.entry u = some e → e.rxXfers = [] ∧ e.txXfers = []

private theorem Quiet.exact {s : Usb} (quiet : s.Quiet) : Exact none s := by
  have empty : ∀ place list, s.collection place = some list → list = [] := by
    rintro ⟨kind, u⟩ list known
    obtain ⟨e, present, rfl⟩ := Option.map_eq_some_iff.mp known
    cases kind with
    | rx => exact (quiet.2 u e present).1
    | tx => exact (quiet.2 u e present).2
  refine ⟨fun place list known x => ?_, fun place list known => ?_, fun x callback flying => ?_⟩
  · rw [empty place list known]
    exact iff_of_false List.not_mem_nil (by simp [held, quiet.1])
  · rw [empty place list known]
    exact List.nodup_nil
  · rw [held, quiet.1] at flying
    cases flying

private theorem transferStep_exact {env : UsbEnv} {s : Usb} {event : TransferEvent} (exact : Exact none s)
    (resubmits : Resubmits env s event) : Exact none (transferStep env s event) := by
  cases event with
  | startRxLoop u =>
    simp only [transferStep]
    split
    next there =>
      obtain ⟨e, present⟩ := Option.isSome_iff_exists.mp there
      exact startRxLoop_exact exact present
    next => exact exact
  | usbSend u length => exact usbSend_exact exact u length
  | done x status sends =>
    simp only [transferStep]
    split
    · next u flying =>
      have begun := exact.called flying
      by_cases completed : status = .completed
      · subst completed
        refine rxCallback_completed_exact begun sends (resubmits _ ?_)
        simp only [resubmission, flying, if_true, Option.mem_def]
      · exact rxCallback_failed_exact begun (Function.update_self ..) completed sends
    · next u flying => exact txCallback_exact (exact.called flying) (Function.update_self ..) status
    · exact exact

private theorem transferRun_exact {env : UsbEnv} {start : Usb} {events : List TransferEvent} (quiet : start.Quiet)
    (resubmits : Each (fun before event => Resubmits env (transferRun env start before) event) events) :
    Exact none (transferRun env start events) := by
  induction events using List.reverseRecOn with
  | nil => exact quiet.exact
  | append_singleton before event ih =>
    rw [transferRun, List.foldl_append]
    exact transferStep_exact (ih resubmits.of_append) resubmits.last

end Usb

/-- The callback of a transfer, when the mux layer sends nothing: `device_remove` has been called before the
loop of `usb_disconnect`. -/
def LibusbEvent.called (c : XferPtr × TransferStatus) : LibusbEvent := .done c.1 c.2 [] []

@[inherit_doc LibusbEvent.called]
def TransferEvent.called (c : XferPtr × TransferStatus) : TransferEvent := .done c.1 c.2 []

/-- The state after some callbacks. -/
def Usb.handled (env : UsbEnv) (s : Usb) (callbacks : List (XferPtr × TransferStatus)) : Usb :=
  (callbacks.map LibusbEvent.called).foldl (handleEvent env) s

/-- All transfers of the device are called back for good: a receive transfer that is completed is submitted
again. -/
def UsbEntry.CalledBack (e : UsbEntry) (callbacks : List (XferPtr × TransferStatus)) : Prop :=
  (∀ x ∈ e.rxXfers, ∃ c ∈ callbacks, c.1 = x ∧ c.2 ≠ .completed) ∧ ∀ x ∈ e.txXfers, ∃ c ∈ callbacks, c.1 = x

namespace Usb

section Called

variable {env : UsbEnv} {s : Usb} {u v : UsbPtr} {c : XferPtr × TransferStatus} {y : XferPtr}
  {callbacks : List (XferPtr × TransferStatus)}

/-- The transfer is not in flight any more, or it is a receive transfer that has been submitted again. -/
private theorem transferStep_called (resubmits : Resubmits env s (.called c)) :
    (transferStep env s (.called c)).inFlight = Function.update s.inFlight c.1 none ∧
      (∀ v, s.inFlight c.1 = some (.rx v) → c.2 ≠ .completed) ∨
    (transferStep env s (.called c)).inFlight = s.inFlight ∧
      (∀ v, s.inFlight c.1 = some (.rx v) → c.2 = .completed) ∧ ∀ v, s.inFlight c.1 ≠ some (.tx v) := by
  simp only [TransferEvent.called, transferStep]
  split
  · next u flying =>
    by_cases completed : c.2 = .completed
    · have accepted := resubmits _ (by simp only [TransferEvent.called, resubmission, completed, flying, if_true]; rfl)
      refine .inr ⟨?_, fun _ _ => completed, by simp [flying]⟩
      simp only [rxCallback, if_pos completed, submit, accepted, lt_self_iff_false, if_false]
      simp [usbSends, flying]
    · refine .inl ⟨?_, fun _ _ => completed⟩
      rw [rxCallback, if_neg completed, Usb.fail, modify_inFlight, modify_inFlight]
  · next u flying =>
    refine .inl ⟨?_, by simp [flying]⟩
    simp only [txCallback]
    split <;> simp [Usb.fail]
  · next receiving sending => exact .inr ⟨rfl, fun v flying => (receiving v flying).elim, sending⟩

private theorem modify_isSome (f : UsbEntry → UsbEntry) : ((s.modify v f).entry u).isSome = (s.entry u).isSome := by
  rcases present : s.entry v with _ | e
  · rw [modify_of_freed present]
    rfl
  · rw [modify_of_present present]
    exact Update.same Option.isSome (by rw [present]; rfl) u

private theorem transferStep_isSome : ((transferStep env s (.called c)).entry u).isSome = (s.entry u).isSome := by
  simp only [TransferEvent.called, transferStep]
  split
  · simp only [rxCallback]
    split <;> simp [usbSends, Usb.fail, modify_isSome]
  · simp only [txCallback]
    split <;> simp only [Usb.fail, modify_isSome]
  · rfl

private theorem handleEvents_called (exact : Exact none s) (present : (s.entry u).isSome)
    (bulk : ∀ c ∈ callbacks, ∀ callback, s.inFlight c.1 = some callback → callback.control = false)
    (resubmits : Each (fun before c => Resubmits env (s.handled env before) (.called c)) callbacks) :
    let s' := s.handled env callbacks
    Exact none s' ∧ (s'.entry u).isSome ∧ ∀ y,
      (∀ v, s'.inFlight y = some (.rx v) ↔
        s.inFlight y = some (.rx v) ∧ ∀ c ∈ callbacks, c.1 = y → c.2 = .completed) ∧
      (∀ v, s'.inFlight y = some (.tx v) ↔ s.inFlight y = some (.tx v) ∧ ∀ c ∈ callbacks, c.1 ≠ y) ∧
      ∀ callback, s'.inFlight y = some callback → s.inFlight y = some callback := by
  induction callbacks using List.reverseRecOn with
  | nil => exact ⟨exact, present, by simp [handled]⟩
  | append_singleton callbacks c ih =>
    simp only [List.forall_mem_append, List.forall_mem_singleton] at bulk
    obtain ⟨exact, present, flights⟩ := ih bulk.1 resubmits.of_append
    have again := resubmits.last
    have last : s.handled env (callbacks ++ [c]) = handleEvent env (s.handled env callbacks) (.called c) := by
      simp [handled]
    generalize s.handled env callbacks = s₁ at exact present flights again last
    have same : handleEvent env s₁ (.called c) = transferStep env s₁ (.called c) := by
      simp only [LibusbEvent.called, TransferEvent.called, handleEvent, transferStep]
      rcases flying : s₁.inFlight c.1 with _ | callback
      · rfl
      · have control := bulk.2 callback ((flights c.1).2.2 callback flying)
        cases callback <;> first | rfl | cases control
    rw [last, same]
    refine ⟨transferStep_exact exact again, transferStep_isSome.trans present, fun y => ?_⟩
    obtain ⟨receiving, sending, earlier⟩ := flights y
    simp only [List.forall_mem_append, List.forall_mem_singleton, ← and_assoc, ← receiving, ← sending]
    rcases transferStep_called again with ⟨flight, failed⟩ | ⟨flight, completed, other⟩
    · simp only [flight, Update.removed]
      grind
    · simp only [flight]
      grind

private theorem Exact.waiting (exact : Exact none s) (present : (s.entry u).isSome) :
    s.waiting u = false ↔ (∀ y, s.inFlight y ≠ some (.rx u)) ∧ ∀ y, s.inFlight y ≠ some (.tx u) := by
  obtain ⟨e, present⟩ := Option.isSome_iff_exists.mp present
  have listed (kind : Direction) : s.collection (kind, u) = some (e.xfers kind) := by simp [collection, present]
  have receiving := exact.listed _ _ (listed .rx)
  have sending := exact.listed _ _ (listed .tx)
  simp only [UsbEntry.xfers, held, Callback.bulk] at receiving sending
  simp [Usb.waiting, present, List.eq_nil_iff_forall_not_mem, receiving, sending]

private theorem waitTransfers_called {batches : List (List (XferPtr × TransferStatus))} (exact : Exact none s)
    (present : (s.entry u).isSome)
    (bulk : ∀ c ∈ batches.flatten, ∀ callback, s.inFlight c.1 = some callback → callback.control = false)
    (resubmits : Each (fun before c => Resubmits env (s.handled env before) (.called c)) batches.flatten) :
    (waitTransfers env u (batches.map fun batch => batch.map .called) s).1 = true ↔
      (s.handled env batches.flatten).waiting u = false := by
  induction batches generalizing s with
  | nil => simp [waitTransfers, handled]
  | cons batch rest ih =>
    by_cases waits : s.waiting u
    · have split (more : List (XferPtr × TransferStatus)) :
          s.handled env (batch ++ more) = (s.handled env batch).handled env more := by
        simp only [handled, List.map_append, List.foldl_append]
      simp only [List.flatten_cons, List.forall_mem_append] at bulk resubmits ⊢
      obtain ⟨exact, present, flights⟩ := handleEvents_called exact present bulk.1 resubmits.of_append
      rw [List.map_cons, waitTransfers, if_pos waits, ← handled, split]
      refine ih exact present (fun c member callback flying => ?_) fun before c after later => ?_
      · exact bulk.2 c member callback ((flights c.1).2.2 callback flying)
      · have accepted := resubmits (batch ++ before) c after (by rw [later, List.append_assoc])
        simpa only [split] using accepted
    · rw [List.map_cons, waitTransfers, if_neg waits]
      obtain ⟨receiving, sending⟩ := (exact.waiting present).mp (Bool.eq_false_of_not_eq_true waits)
      obtain ⟨exact, present, flights⟩ := handleEvents_called exact present bulk resubmits
      refine iff_of_true rfl ((exact.waiting present).mpr ⟨fun y flying => ?_, fun y flying => ?_⟩)
      · exact receiving y ((flights y).2.2 _ flying)
      · exact sending y ((flights y).2.2 _ flying)

end Called

/-- When libusb accepts every receive transfer that is submitted again, `rx_xfers` and `tx_xfers` of
every device hold exactly the transfers in flight, in every state reached by starting receive loops,
sending, and callbacks. Then the loop of `usb_disconnect`, whatever libusb calls back in each of its turns
and in whatever order, is over exactly when all transfers have been called back for good. -/
theorem transfers_in_flight (env : UsbEnv) (start : Usb) (quiet : start.Quiet) (events : List TransferEvent)
    (resubmits : Each (fun before event => Resubmits env (transferRun env start before) event) events) (u : UsbPtr)
    (e : UsbEntry) (present : (transferRun env start events).entry u = some e) :
    let s := transferRun env start events
    (e.rxXfers.Nodup ∧ ∀ x, x ∈ e.rxXfers ↔ s.inFlight x = some (.rx u)) ∧
    (e.txXfers.Nodup ∧ ∀ x, x ∈ e.txXfers ↔ s.inFlight x = some (.tx u)) ∧
    ∀ batches : List (List (XferPtr × TransferStatus)), (∀ c ∈ batches.flatten, c.1 ∈ e.rxXfers ++ e.txXfers) →
      Each (fun before c => Resubmits env (s.handled env before) (.called c)) batches.flatten →
      ((waitTransfers env u (batches.map fun batch => batch.map .called) s).1 = true ↔
        e.CalledBack batches.flatten) := by
  intro s
  have exact : Exact none s := transferRun_exact quiet resubmits
  have listed (kind : Direction) : s.collection (kind, u) = some (e.xfers kind) := by simp [collection, s, present]
  have receiving (x : XferPtr) : x ∈ e.rxXfers ↔ s.inFlight x = some (.rx u) := exact.listed _ _ (listed .rx) x
  have sending (x : XferPtr) : x ∈ e.txXfers ↔ s.inFlight x = some (.tx u) := exact.listed _ _ (listed .tx) x
  refine ⟨⟨exact.once _ _ (listed .rx), receiving⟩, ⟨exact.once _ _ (listed .tx), sending⟩,
    fun batches mine again => ?_⟩
  have there : (s.entry u).isSome := by simp [s, present]
  have bulk : ∀ c ∈ batches.flatten, ∀ callback, s.inFlight c.1 = some callback → callback.control = false := by
    intro c member callback flying
    rcases List.mem_append.mp (mine c member) with known | known
    · rw [receiving, flying, Option.some.injEq] at known
      exact known ▸ rfl
    · rw [sending, flying, Option.some.injEq] at known
      exact known ▸ rfl
  rw [waitTransfers_called exact there bulk again]
  obtain ⟨exact, there, flights⟩ := handleEvents_called exact there bulk again
  rw [exact.waiting there]
  refine and_congr (forall_congr' fun x => ?_) (forall_congr' fun x => ?_)
  · simp only [receiving, Ne, (flights x).1, not_and, not_forall, exists_prop]
  · simp only [sending, Ne, (flights x).2.1, not_and, not_forall, exists_prop, not_not]

/-- libusb refuses one submission, the one with the given number. -/
def refusing (refused : ℕ) : UsbEnv where
  answers n := if n = refused then ⟨-4, 0, 0, by decide⟩ else .success
  desiredMode := 1

/-- One device, with packets of 512 bytes and no transfers. -/
def oneDevice : Usb :=
  let dev : LibusbDevice := ⟨1, 2, 0x5ac, 0x12a8, 4, [], .high⟩
  { initial.setEntry 0 (some { UsbEntry.opened dev 0 with wMaxPacketSize := 512 }) with
    deviceList := [0], nextUsb := 1, nextHandle := 1 }

private theorem oneDevice_quiet : oneDevice.Quiet := by
  refine ⟨fun x => rfl, fun u e present => ?_⟩
  by_cases here : u = 0
  · subst here
    obtain rfl : { UsbEntry.opened ⟨1, 2, 0x5ac, 0x12a8, 4, [], .high⟩ 0 with wMaxPacketSize := 512 } = e :=
      Option.some.inj present
    exact ⟨rfl, rfl⟩
  · simp [oneDevice, setEntry, initial, here] at present

/-- A receive loop, a packet that needs an empty one behind it, and one round of the loop. -/
def receiving : List TransferEvent := [.startRxLoop 0, .usbSend 0 512, .done 0 .completed [(0, 20)]]

/-- What libusb calls back in three turns of the loop of `usb_disconnect`. The receive transfer is completed
before it is cancelled. -/
def closing : List (List (XferPtr × TransferStatus)) :=
  [[(0, .completed), (3, .noDevice)], [(2, .completed), (0, .cancelled)], [(1, .error)]]

/-- One receive transfer and three others are in flight, and `usb_disconnect` gets rid of them. -/
theorem receiving_in_flight :
    let s := transferRun (refusing 100) oneDevice receiving
    s.collection (.rx, 0) = some [0] ∧ s.collection (.tx, 0) = some [3, 2, 1] ∧
    (waitTransfers (refusing 100) 0 (closing.map fun batch => batch.map .called) s).1 = true := by
  intro s
  refine ⟨by decide +kernel, by decide +kernel, ?_⟩
  obtain ⟨e, present, lists⟩ : ∃ e, s.entry 0 = some e ∧ (e.rxXfers, e.txXfers) = ([0], [3, 2, 1]) := by
    apply Option.map_eq_some_iff.mp
    decide +kernel
  obtain ⟨receives, sends⟩ := Prod.mk.inj lists
  obtain ⟨-, -, waits⟩ :=
    transfers_in_flight (refusing 100) oneDevice oneDevice_quiet receiving (by decide +kernel) 0 e present
  rw [waits closing (by rw [receives, sends]; decide) (by decide +kernel), UsbEntry.CalledBack, receives, sends]
  decide

private theorem waitTransfers_silent {env : UsbEnv} {s : Usb} {u : UsbPtr} (silent : ∀ x, s.inFlight x = none)
    (stuck : s.waiting u = true) (batches : List (List (XferPtr × TransferStatus))) :
    (waitTransfers env u (batches.map fun batch => batch.map .called) s).1 = false := by
  have still (batch : List (XferPtr × TransferStatus)) :
      (batch.map LibusbEvent.called).foldl (handleEvent env) s = s := by
    induction batch with
    | nil => rfl
    | cons c batch ih =>
      rw [List.map_cons, List.foldl_cons]
      simp only [LibusbEvent.called, handleEvent, silent]
      exact ih
  induction batches with
  | nil => simp [waitTransfers, stuck]
  | cons batch batches ih =>
    rw [List.map_cons, waitTransfers, if_pos stuck, still]
    exact ih

/-- A receive transfer is completed, and libusb refuses to take it again: it stays in `rx_xfers` although
it is not in flight, and no callback will ever end the loop of `usb_disconnect`. -/
theorem refused_not_in_flight :
    let s := transferRun (refusing 2) oneDevice [.startRxLoop 0, .done 0 .completed []]
    s.collection (.rx, 0) = some [0] ∧ s.inFlight 0 = none ∧
    ∀ batches : List (List (XferPtr × TransferStatus)),
      (waitTransfers (refusing 2) 0 (batches.map fun batch => batch.map .called) s).1 = false := by
  intro s
  have last : s.inFlight = Function.update (Function.update initial.inFlight 0 (some (.rx 0))) 0 none := rfl
  have silent (x : XferPtr) : s.inFlight x = none := by
    rw [last, Function.update_idem]
    exact congrFun (Function.update_eq_self 0 initial.inFlight) x
  exact ⟨by decide +kernel, silent 0, waitTransfers_silent silent (by decide +kernel)⟩

end Usb

end Usbmuxd
