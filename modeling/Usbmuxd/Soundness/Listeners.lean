import Usbmuxd.Proofs.Sequential
import Usbmuxd.Soundness.Pairing

/-! # Listeners and the devices they are told of

Without preflight workers every listener has been told of exactly the devices that are shown. With
workers the notes about a device may come twice, too late or in the wrong order; they are in order as
long as no worker announces a device that `start_listen` is about to look at or that is gone, and no
device is removed before it was announced.
-/

namespace Usbmuxd

open Presence History

variable {env : Env}

private theorem initial_ok (env : Env) : Threads.initial.Ok env where
  sound := sound_initial anything
  alive := by simp [Alive, Threads.initial, Daemon.sys, Daemon.initial, Mux.initial]
  enumerated := ⟨rfl, by simp [Threads.initial, Daemon.sys, Daemon.initial, Mux.initial]⟩
  ledger := by
    refine ⟨fun k client present => ?_, ?_, ?_, List.nodup_nil⟩
    · cases present
    · simp [Threads.initial, Daemon.initial, Mux.initial]
    · simp [Threads.initial, Daemon.initial]
  valid := trivial

/-- The actions that add a device. -/
def ThreadAction.adds : ThreadAction → Bool
  | event added => added.adds
  | resume => false

private theorem Threads.step_nextDeviceId {t : Threads} (ok : t.Ok env) (action : ThreadAction) :
    (t.step env action).daemon.mux.nextDeviceId ≤ t.daemon.mux.nextDeviceId + action.adds.toNat := by
  cases action with
  | resume =>
    rw [Threads.step, (resume_keeps env _).1]
    exact Nat.le_add_right ..
  | event event =>
    have taken : (Usbmuxd.step env t.daemon event).mux.nextDeviceId ≤ t.daemon.mux.nextDeviceId + event.adds.toNat :=
      Usbmuxd.step_nextDeviceId ok.sound ok.alive event
    simp only [Threads.step]
    split
    · exact taken
    split
    · split
      · next k s point =>
        have devices : (enterListen k s).mux = t.daemon.mux := (listenPoint_spec point).mux
        simp only [devices]
        exact Nat.le_add_right ..
      · exact taken
    · exact Nat.le_add_right ..

section Runs

variable (faithful : Faithful env) (queueing : Queueing env)
include faithful queueing

private theorem run_prompt (noPreflight : env.noPreflight = true) (events : List Event)
    (few : events.countP Event.adds < 2 ^ 31) :
    Threads.Ok env ⟨run env events, .idle⟩ ∧ Prompt (run env events) ∧
      (run env events).mux.nextDeviceId ≤ events.countP Event.adds + 1 := by
  induction events using List.reverseRecOn with
  | nil => exact ⟨initial_ok env, ⟨rfl, rfl⟩, Nat.le_refl _⟩
  | append_singleton events event ih =>
    rw [List.countP_append] at few
    obtain ⟨ok, prompt, counted⟩ := ih (by omega)
    have small : (run env events).mux.nextDeviceId ≤ 2 ^ 32 := by omega
    have grown : (step env (run env events) event).mux.nextDeviceId ≤ (run env events).mux.nextDeviceId +
      event.adds.toNat :=
      step_nextDeviceId ok.sound ok.alive event
    have last : [event].countP Event.adds = event.adds.toNat := by cases adds : event.adds <;> simp [adds]
    rw [run_snoc, List.countP_append]
    exact ⟨step_ok_idle faithful queueing ok small (prompt.careful event),
      step_prompt noPreflight faithful queueing.memory ok.sound prompt ok.alive small event, by omega⟩

private theorem Threads.run_ok (actions : List ThreadAction) (few : actions.countP ThreadAction.adds < 2 ^ 31)
    (careful : Each (fun before action => (Threads.run env before).careful action) actions) :
    (Threads.run env actions).Ok env ∧
      (Threads.run env actions).daemon.mux.nextDeviceId ≤ actions.countP ThreadAction.adds + 1 := by
  induction actions using List.reverseRecOn with
  | nil => exact ⟨initial_ok env, Nat.le_refl _⟩
  | append_singleton actions action ih =>
    rw [List.countP_append] at few
    obtain ⟨ok, counted⟩ := ih (by omega) careful.of_append
    have grown := Threads.step_nextDeviceId ok action
    have last : [action].countP ThreadAction.adds = action.adds.toNat := by cases adds : action.adds <;> simp [adds]
    have snoc : Threads.run env (actions ++ [action]) = (Threads.run env actions).step env action := by
      simp [Threads.run]
    rw [snoc, List.countP_append]
    exact ⟨Threads.step_ok faithful queueing ok (by omega) careful.last, by omega⟩

/-- Without preflight every listener knows exactly the devices that are active and visible, is told of
each at most once and of its removal at most once, and the `d`-th device has id `d + 1` for good. -/
theorem run_listeners (noPreflight : env.noPreflight = true) (events : List Event)
    (few : events.countP Event.adds < 2 ^ 31) :
    (∀ k client, (run env events).clients.client k = some client → client.state = .listen →
      present (notices env ((run env events).clients.log k)) = {i | ∃ d ∈ (run env events).mux.deviceList,
        ((run env events).mux.dev d).state = .active ∧ ((run env events).mux.dev d).visible = true ∧
          ((run env events).mux.dev d).id = i} ∧
      InOrder (notices env ((run env events).clients.log k))) ∧
    ∀ d < (run env events).mux.nextDev, ((run env events).mux.dev d).id = d + 1 := by
  obtain ⟨ok, _, _⟩ := run_prompt faithful queueing noPreflight events few
  refine ⟨fun k client here listening => ?_, ok.enumerated.ids⟩
  have follows : Follows (run env events).sys.live ((run env events).sys.shown \ ∅)
      (notices env ((run env events).clients.log k)) := (ok.ledger.briefed k client here).1 listening
  refine ⟨?_, follows.inOrder⟩
  rw [follows.present_eq, Set.sdiff_empty]
  rfl

end Runs

/-- An encoding of property lists that keeps what they announce. -/
def noticeXml (plist : Plist) : Bytes :=
  match plist.notice? with
  | some (.attached i) => 1 :: BigEndian.encode 8 i
  | some (.detached i) => 0 :: BigEndian.encode 8 i
  | none => []

def xmlNotice : Bytes → Option Plist
  | [] => none
  | kind :: id => some (deviceIdPlist (if kind = 1 then "Attached" else "Detached") (BigEndian.decode id))

/-- A world in which clients send `Listen`, with or without preflight. -/
def noticeEnv (noPreflight : Bool) : Env where
  usb n := ⟨0, UInt64.ofNat n, 0⟩
  sock _ := {
    send := .sent 65536, recv := .received (le32 16 ++ le32 0 ++ le32 3 ++ le32 7)
    accept := 5, alloc := true, slot := 0, thread := true, conf := 0, record := none, buid := "" }
  usbDevice _ := ⟨512, "", 0, 0, 0⟩
  plistFromXml := xmlNotice
  plistToXml := noticeXml
  noPreflight := noPreflight
  resultXml_fits number := by
    have silent : (Plist.result number).notice? = none := by simp [Plist.result, Plist.notice?, Plist.getItem,
      Plist.stringVal?]
    simp [noticeXml, silent]

private theorem Plist.notice?_lt {plist : Plist} {note : Note ℕ} (announced : plist.notice? = some note) :
    note.subject < 2 ^ 64 := by
  simp only [Plist.notice?] at announced
  split at announced
  · obtain ⟨node, _, rfl⟩ := Option.map_eq_some_iff.mp announced
    exact node.uintVal.toNat_lt
  · obtain ⟨node, _, rfl⟩ := Option.map_eq_some_iff.mp announced
    exact node.uintVal.toNat_lt
  · cases announced

private theorem decode_encode_id {i : ℕ} (small : i < 2 ^ 64) :
    BigEndian.decode (BigEndian.encode 8 i) % 2 ^ 64 = i := by
  rw [BigEndian.decode_encode_of_lt small, Nat.mod_eq_of_lt small]

private theorem noticeEnv_faithful (noPreflight : Bool) : Faithful (noticeEnv noPreflight) := by
  intro plist
  change (xmlNotice (noticeXml plist)).bind Plist.notice? = plist.notice?
  rcases announced : plist.notice? with _ | i | i
  · rw [noticeXml, announced]
    rfl
  · rw [noticeXml, announced]
    simpa [xmlNotice, deviceIdPlist, Plist.notice?, Plist.getItem, Plist.stringVal?, Plist.uintVal] using
      decode_encode_id (Plist.notice?_lt announced)
  · rw [noticeXml, announced]
    simpa [xmlNotice, deviceIdPlist, Plist.notice?, Plist.getItem, Plist.stringVal?, Plist.uintVal] using
      decode_encode_id (Plist.notice?_lt announced)

private theorem noticeXml_length (plist : Plist) : (noticeXml plist).length ≤ 9 := by
  rw [noticeXml]
  split <;> simp

private theorem noticeEnv_queueing (noPreflight : Bool) : Queueing (noticeEnv noPreflight) where
  memory _ := rfl
  size dev := by
    have short := noticeXml_length (createDeviceAttachedPlist (deviceInfo (noticeEnv noPreflight) dev))
    have same : (noticeEnv noPreflight).plistToXml = noticeXml := rfl
    rw [same]
    omega

/-- Two devices come, the second after a client listens, and the first one goes. -/
def attending : List Event :=
  [.accept, .deviceAdd 0, .dataInput 0 (.full versionReply), .clientProcess 5 ⟨true, false⟩, .deviceAdd 1,
    .dataInput 1 (.full versionReply), .deviceRemove 0]

/-- The listener is told of all that. -/
theorem attending_listeners :
    notices (noticeEnv true) ((run (noticeEnv true) attending).clients.log 0) =
      [.attached 1, .attached 2, .detached 1] ∧
    (∀ client ∈ (run (noticeEnv true) attending).clients.client 0, client.state = .listen) ∧
    ∀ client, (run (noticeEnv true) attending).clients.client 0 = some client → client.state = .listen →
      present (notices (noticeEnv true) ((run (noticeEnv true) attending).clients.log 0)) =
        {i | ∃ d ∈ (run (noticeEnv true) attending).mux.deviceList,
          ((run (noticeEnv true) attending).mux.dev d).state = .active ∧
            ((run (noticeEnv true) attending).mux.dev d).visible = true ∧
              ((run (noticeEnv true) attending).mux.dev d).id = i} := by
  refine ⟨by decide +kernel, by decide +kernel, fun client here listening => ?_⟩
  exact ((run_listeners (noticeEnv_faithful true) (noticeEnv_queueing true) rfl attending (by decide)).1 0 client here
    listening).1

/-- Careful threads tell every listener about a device in order: attached at most once, and then
detached at most once. Of a device that was removed it has been told nothing, or that it came and went. -/
theorem threads_inOrder (faithful : Faithful env) (queueing : Queueing env) (actions : List ThreadAction)
    (few : actions.countP ThreadAction.adds < 2 ^ 31)
    (careful : Each (fun before action => (Threads.run env before).careful action) actions) (k : ClientPtr)
    (client : MuxClient) (here : (Threads.run env actions).daemon.clients.client k = some client)
    (listening : client.state = .listen) :
    let notes := notices env ((Threads.run env actions).daemon.clients.log k)
    let mux := (Threads.run env actions).daemon.mux
    InOrder notes ∧ ∀ i < mux.nextDeviceId, (∀ d ∈ mux.deviceList, (mux.dev d).id ≠ i) →
      about i notes = [] ∨ about i notes = [.attached i, .detached i] := by
  obtain ⟨ok, _⟩ := Threads.run_ok faithful queueing actions few careful
  have follows := (ok.ledger.briefed k client here).1 listening
  refine ⟨follows.inOrder, fun i used removed => follows.gone i ?_⟩
  rintro (later | ⟨d, listed, id⟩)
  · exact absurd used (Nat.not_lt.mpr later)
  · exact removed d listed id

/-- A device appears and answers, and a worker is started for it. -/
def staffed : List ThreadAction := [.event (.deviceAdd 0), .event (.dataInput 0 (.full versionReply))]

/-- The worker announces the device. -/
def announcement : ThreadAction := .event (.workerDeviceAdd ⟨1, "", 0, 0, 0⟩)

/-- A client listens; nobody is in its way. -/
def subscribed : List ThreadAction :=
  [.event .accept, .event (.clientProcess 5 ⟨true, false⟩), .resume, .resume, .resume]

/-- A client listens, the worker announces the device behind the look at it, and the device goes. -/
def orderly : List ThreadAction :=
  staffed ++ [.event .accept, .event (.clientProcess 5 ⟨true, false⟩), .resume, .resume, announcement, .resume, .resume,
    .event (.deviceRemove 0)]

/-- The listener is told of the device and of its removal. -/
theorem orderly_inOrder :
    let notes := notices (noticeEnv false) ((Threads.run (noticeEnv false) orderly).daemon.clients.log 0)
    notes = [.attached 1, .detached 1] ∧
    (∀ client ∈ (Threads.run (noticeEnv false) orderly).daemon.clients.client 0, client.state = .listen) ∧
    ∀ client, (Threads.run (noticeEnv false) orderly).daemon.clients.client 0 = some client → client.state = .listen →
      InOrder notes ∧ (about 1 notes = [] ∨ about 1 notes = [.attached 1, .detached 1]) := by
  refine ⟨by decide +kernel, by decide +kernel, fun client here listening => ?_⟩
  obtain ⟨ordered, removed⟩ := threads_inOrder (noticeEnv_faithful false) (noticeEnv_queueing false) orderly (by decide)
    (by decide +kernel) 0 client here listening
  exact ⟨ordered, removed 1 (by decide +kernel) (by decide +kernel)⟩

/-- The worker announces the device after the client was put among the listeners and before
`start_listen` looks at the device. -/
def hasty : List ThreadAction :=
  staffed ++ [.event .accept, .event (.clientProcess 5 ⟨true, false⟩), announcement, .resume, .resume, .resume, .resume]

/-- The device is removed before its worker announces it. -/
def unannounced : List ThreadAction := subscribed ++ staffed ++ [.event (.deviceRemove 0)]

/-- The state of the first client, and what it is told. -/
def heard (actions : List ThreadAction) : Option ClientState × List (Note ℕ) :=
  let s := (Threads.run (noticeEnv false) actions).daemon.clients
  ((s.client 0).map MuxClient.state, notices (noticeEnv false) (s.log 0))

/-- A device is attached twice, detached without having been attached, and attached when it is gone. -/
theorem threads_disorder :
    heard hasty = (some .listen, [.attached 1, .attached 1]) ∧
    heard unannounced = (some .listen, [.detached 1]) ∧
    heard (unannounced ++ [announcement]) = (some .listen, [.detached 1, .attached 1]) ∧
    ¬InOrder [Note.attached 1, .attached 1] ∧ ¬InOrder [Note.detached 1] ∧ ¬InOrder [Note.detached 1, .attached 1] := by
  refine ⟨by decide +kernel, by decide +kernel, by decide +kernel, fun all => ?_, fun all => ?_, fun all => ?_⟩
  all_goals exact absurd (all 1) (by decide)

end Usbmuxd
