import Usbmuxd.Proofs.ListeningEvents

/-! # The way to `start_listen`

The events that change what listeners know are told apart from the hushed ones, and the event that
makes a client listen is followed up to the call of `start_listen`. Up to there it is hushed as well.
-/

namespace Usbmuxd

open Presence Collection

variable {env : Env} {s : Daemon} {k : ClientPtr}

/-- A hushed way to a state in which the client is in command state, with nothing but clients changed. -/
structure Approaches (env : Env) (k : ClientPtr) (s s' : Daemon) : Prop where
  run : SysRun (hushed env) (some k) s.sys s'.sys
  mux : s'.mux = s.mux
  workers : s'.workers = s.workers
  commanding : Commanding k s'.clients

namespace Approaches

variable {s' s'' : Daemon}

private theorem trans (first : Approaches env k s s') (second : Approaches env k s' s'') : Approaches env k s s'' :=
  ⟨first.run.trans second.run, second.mux.trans first.mux, second.workers.trans first.workers, second.commanding⟩

private theorem of_move {x : Clients} (move : ClientsMove (hushed env) (some k) s.clients x)
    (commanding : Commanding k x) :
    Approaches env k s (s.setClients x) := ⟨move.run s x, rfl, rfl, commanding⟩

end Approaches

private theorem answerListen_spec (commanding : Commanding k s.clients) {tag : UInt32} {s' : Daemon}
    (answered : answerListen env k tag s = some s') :
    Approaches env k s s' ∧ listenCommand env k tag s = startListen env k s' := by
  simp only [answerListen] at answered
  split at answered
  · cases answered
  · next queued =>
    obtain rfl := Option.some.inj answered
    refine ⟨.of_move (sendResult_move env (grants_hushed env) commanding.idle tag resultOk)
      (sendResult_commanding env commanding tag resultOk), ?_⟩
    rw [listenCommand, if_neg queued]

private theorem commanding_modify {x : Clients} {f : MuxClient → MuxClient} (commanding : Commanding k x)
    (state : ∀ client, (f client).state = client.state) : Commanding k (x.modify k f) := by
  obtain ⟨client, present, idle⟩ := commanding
  refine ⟨f client, ?_, (state client).trans idle⟩
  simp only [Clients.modify, present]
  exact Function.update_self ..

private theorem Commanding.isSome {x : Clients} (commanding : Commanding k x) : (x.client k).isSome := by
  obtain ⟨client, present, _⟩ := commanding
  exact Option.isSome_iff_exists.mpr ⟨client, present⟩

variable (env) in
private theorem inform_approaches (commanding : Commanding k s.clients) (dict : Plist) :
    let s₁ := s.setClients (s.clients.modify k fun client => { client with protoVersion := 1 })
    Approaches env k s (s₁.setClients (updateClientInfo k dict s₁.clients)) := by
  intro s₁
  have versioned : ClientsMove (hushed env) (some k) s.clients s₁.clients :=
    inform_move (fun _ => 1) (fun client => client.info) commanding.isSome fun _ => rfl
  have commanding₁ : Commanding k s₁.clients := commanding_modify commanding fun _ => rfl
  have informed : ClientsMove (hushed env) (some k) s₁.clients (updateClientInfo k dict s₁.clients) :=
    inform_move (fun client => client.protoVersion) _ commanding₁.isSome fun _ => rfl
  exact (Approaches.of_move versioned commanding₁).trans
    (.of_move (s := s₁) informed (commanding_modify commanding₁ fun _ => rfl))

private theorem listenCall_spec (commanding : Commanding k s.clients) {frame : Bytes} {s' : Daemon}
    (called : listenCall env k frame s = some s') :
    Approaches env k s s' ∧ handleCommand env k frame s = startListen env k s' := by
  have ⟨client, present, idle⟩ := commanding
  simp only [listenCall] at called
  split at called
  · next request =>
    obtain ⟨answered, same⟩ := answerListen_spec commanding called
    refine ⟨answered, ?_⟩
    simp only [handleCommand, present, idle, ne_eq, not_true_eq_false, if_false, request, same]
  · next dict request =>
    split at called
    · next named =>
      have informed := inform_approaches env commanding dict
      obtain ⟨answered, same⟩ := answerListen_spec informed.commanding called
      refine ⟨informed.trans answered, ?_⟩
      simp only [handleCommand, present, idle, ne_eq, not_true_eq_false, if_false, request, plistInput, named]
      exact same
    · cases called
  · cases called

/-- An event that makes a client listen. -/
structure StartsListening (env : Env) (s : Daemon) (event : Event) (k : ClientPtr) (s' : Daemon) : Prop
    extends Approaches env k s s' where
  step : step env s event = leaveListen k (startListen env k s').2

/-- A frame that is handled was read for the client that is served. -/
structure Handles (env : Env) (s : Daemon) (k : ClientPtr) (events : PollMask) (state : ClientState) (frame : Bytes) :
    Prop where
  present : ∃ client, s.clients.client k = some client ∧ client.state = state
  unconnected : state ≠ .connected
  readable : events.pollin = true
  framed : (readCommand env k s.clients).1 = .frame frame

private theorem handled_eq_some {fd : ℤ} {events : PollMask} {state : ClientState} {frame : Bytes}
    (command : handled env s (.clientProcess fd events) = some (state, frame)) :
    ∃ k, servedClient s (.clientProcess fd events) = some k ∧ Handles env s k events state frame := by
  simp only [handled] at command
  split at command
  · cases command
  next k served =>
  split at command
  · cases command
  next client present =>
  split at command
  swap
  · cases command
  next readable =>
  split at command
  swap
  · cases command
  next bytes framed =>
  obtain ⟨rfl, rfl⟩ := Prod.mk.inj (Option.some.inj command)
  exact ⟨k, served, ⟨client, present, rfl⟩, readable.1, readable.2, framed⟩

private theorem Handles.approaches {events : PollMask} {frame : Bytes} (handles : Handles env s k events .command frame)
    :
    Approaches env k s (s.setClients (readCommand env k s.clients).2) := by
  obtain ⟨client, present, idle⟩ := handles.present
  have refilled := readCommand_refilled env present
  obtain ⟨buffer, size, present', _⟩ := refilled.state present
  exact .of_move (refilled.move trivial) ⟨_, present', idle⟩

theorem listenPoint_spec {event : Event} {s' : Daemon} (point : listenPoint env s event = some (k, s')) :
    StartsListening env s event k s' := by
  simp only [listenPoint] at point
  split at point
  swap
  · cases point
  next k' frame served command =>
  split at point
  swap
  · cases point
  next possible =>
  obtain ⟨s'', called, same⟩ := Option.map_eq_some_iff.mp point
  obtain ⟨rfl, rfl⟩ := Prod.mk.inj same
  cases event with
  | clientProcess fd events =>
    obtain ⟨k, serves, handles⟩ := handled_eq_some command
    obtain rfl : k = k' := Option.some.inj (serves.symm.trans served)
    obtain ⟨answered, same⟩ := listenCall_spec handles.approaches.commanding called
    refine ⟨handles.approaches.trans answered, ?_⟩
    obtain ⟨client, present, idle⟩ := handles.present
    have unconnected : client.state ≠ .connected := by simp [idle]
    simp only [servedClient] at served
    simp only [step, possible, if_true, clientProcess, served, present, if_neg unconnected, handles.readable,
      inputBufferProcess, handles.framed, same]
    rfl
  | _ => simp [handled] at command

private theorem answerListen_isSome (memory : ∀ n, (env.sock n).alloc = true) (sound : Sound anything s.sys)
    (commanding : Commanding k s.clients) (tag : UInt32) : ∃ s', answerListen env k tag s = some s' := by
  obtain ⟨client, present, idle⟩ := commanding
  have buffer : client.obBuf.isSome := sound.linked.roster.output k client present (by simp [idle])
  have resulted := sendResult_resulted env present tag resultOk
  rw [answerListen]
  generalize sendResult env k tag resultOk s.clients = r at resulted
  cases resulted with
  | failed negative same why => exact absurd memory (why buffer)
  | done ok queues result => exact ⟨_, if_neg (by simpa using ok)⟩

private theorem listenCall_isSome (memory : ∀ n, (env.sock n).alloc = true) (sound : Sound anything s.sys)
    (commanding : Commanding k s.clients) {frame : Bytes} (asked : requestsListen env frame) :
    ∃ s', listenCall env k frame s = some s' := by
  simp only [requestsListen] at asked
  split at asked
  · next request =>
    simp only [listenCall, request]
    exact answerListen_isSome memory sound commanding _
  · next dict request =>
    have informed := inform_approaches env commanding dict
    have named : (dict.getItem "MessageType").bind Plist.stringVal? = some "Listen" := by simpa using asked
    simp only [listenCall, request, if_pos named]
    exact answerListen_isSome memory (sound_hushed.mp (informed.run.sound (sound_hushed.mpr sound)))
      informed.commanding _
  · cases asked

/-- Whenever a client asks to listen, `start_listen` is called. -/
theorem listenPoint_isSome (memory : ∀ n, (env.sock n).alloc = true) (sound : Sound anything s.sys) {fd : ℤ}
    {events : PollMask} (possible : enabled s (.clientProcess fd events))
    (asked : stirs env s (.clientProcess fd events)) :
    ∃ k s', listenPoint env s (.clientProcess fd events) = some (k, s') := by
  obtain ⟨⟨state, frame⟩, command, listens⟩ := (Option.any_eq_true ..).mp asked
  simp only [Bool.and_eq_true, decide_eq_true_eq] at listens
  obtain ⟨rfl, listens⟩ := listens
  obtain ⟨k, served, handles⟩ := handled_eq_some command
  obtain ⟨s', called⟩ := listenCall_isSome memory
    (sound_hushed.mp (handles.approaches.run.sound (sound_hushed.mpr sound))) handles.approaches.commanding listens
  refine ⟨k, s', ?_⟩
  simp only [listenPoint, served, command, if_pos possible, called, Option.map_some]

variable (env) in
/-- A version packet reaches `device_version_input`, unless something is wrong with its length. -/
theorem deviceDataInput_version {u : UsbPtr} {t : Transfer} (version : greets u t s.mux) :
    ∃ d s₁, d ∈ s₁.mux.deviceList ∧ Steady (hushed env) none s.sys s₁.sys ∧ s₁.workers = s.workers ∧
      s₁.mux.nextDeviceId = s.mux.nextDeviceId ∧
      (deviceDataInput env u t s = s₁ ∨ ∃ vh, deviceDataInput env u t s = deviceVersionInput env d vh s₁) := by
  simp only [greets] at version
  split at version
  · cases version
  next d found =>
  have listed : d ∈ s.mux.deviceList := List.mem_of_find?_eq_some found
  split at version
  · cases version
  next buffer length complete =>
  simp only [deviceDataInput, found, complete]
  by_cases empty : t.length = 0
  · exact ⟨d, s, listed, .refl _, rfl, rfl, .inl (if_pos empty)⟩
  by_cases large : usbMru < t.length ∨ devMru < t.length
  · exact ⟨d, s, listed, .refl _, rfl, rfl, .inl (by rw [if_neg empty, if_pos large])⟩
  rw [if_neg empty, if_neg large]
  set s₁ := s.setMux (s.mux.setDev d (reassemble (s.mux.dev d) t).2)
  have stored : Steady (hushed env) none s.sys s₁.sys := store_steady listed t
  by_cases whole : (be32At buffer 4).toNat = length
  swap
  · exact ⟨d, s₁, listed, stored, rfl, rfl, .inl (if_pos whole)⟩
  have received : Steady (hushed env) none s₁.sys (s₁.receive d buffer length).sys :=
    receive_steady (s := s₁) listed buffer length
  have same : (s₁.mux.dev d).version = (s.mux.dev d).version := by
    rw [← (reassemble_core (s.mux.dev d) t).version]
    simp [s₁, Daemon.setMux, Mux.setDev]
  refine ⟨d, s₁.receive d buffer length, listed, stored.trans received, rfl, rfl, .inr ?_⟩
  rw [packetInput_whole env whole, same]
  split at version
  · next vh payload dispatched => exact ⟨vh, by rw [dispatched]; rfl⟩
  · cases version

section Step

/-- An event that announces nothing. -/
theorem admitted_hushed {event : Event} (silent : stirs env s event = false) : Admitted (hushed env) env s event :=
  ⟨fun _ => trivial, fun _ => trivial, fun _ _ => trivial, fun _ => trivial, fun stirs => by simp [silent] at stirs,
    .inl trivial, .inl trivial, fun _ _ _ => ⟨trivial, .inl trivial⟩⟩

variable (faithful : Faithful env) (memory : ∀ n, (env.sock n).alloc = true) (sound : Sound anything s.sys)
include faithful memory sound

/-- An event of the main thread that makes nobody listen. -/
theorem step_ledger (alive : Alive s.sys) (ledger : Ledger env (fun _ => ∅) s) (small : s.mux.nextDeviceId ≤ 2 ^ 32)
    {event : Event} (own : event.byWorker = false) (elsewhere : listenPoint env s event = none)
    (removal : ∀ u, event = .deviceRemove u →
      ∀ d ∈ findDevice u s.mux, (s.mux.dev d).state = .active → (s.mux.dev d).visible = true)
    (shutdown : event = .deviceShutdown → s.allVisible) : Ledger env (fun _ => ∅) (step env s event) := by
  by_cases possible : enabled s event
  swap
  · have idle : step env s event = s := if_neg possible
    rw [idle]
    exact ledger
  cases stirring : stirs env s event with
  | false =>
    have steady := step_steady env (grants_hushed env) (sound_hushed.mpr sound) alive (admitted_hushed stirring)
    refine ledger.hushed faithful sound steady.run (step_workers env (fun u t same => ?_) fun info same => ?_)
    · subst same
      exact stirring
    · subst same
      cases own
  | true =>
    cases event with
    | dataInput u t =>
      have stepped : step env s (.dataInput u t) = deviceDataInput env u t s := if_pos possible
      obtain ⟨d, s₁, listed, steady, workers, next, input⟩ := deviceDataInput_version env stirring
      have ledger₁ := ledger.hushed faithful sound steady.run workers
      have sound₁ : Sound anything s₁.sys := sound_hushed.mp (steady.sound (sound_hushed.mpr sound))
      rcases input with input | ⟨vh, input⟩
      · rw [stepped, input]
        exact ledger₁
      · rw [stepped, input]
        exact deviceVersionInput_ledger faithful memory sound₁ ledger₁ listed (next ▸ small) (fun _ => id) vh
    | clientProcess fd events =>
      obtain ⟨k, s', point⟩ := listenPoint_isSome memory sound possible stirring
      simp [point] at elsewhere
    | deviceRemove u =>
      have stepped : step env s (.deviceRemove u) = deviceRemove env u s := if_pos possible
      rw [stepped]
      exact deviceRemove_ledger sound alive faithful memory ledger small (removal u rfl)
    | deviceShutdown =>
      have stepped : step env s .deviceShutdown = deviceShutdown env s := if_pos possible
      rw [stepped]
      exact deviceShutdown_ledger faithful memory sound alive ledger small (shutdown rfl)
    | _ => simp_all [stirs, Event.byWorker]

end Step

end Usbmuxd
