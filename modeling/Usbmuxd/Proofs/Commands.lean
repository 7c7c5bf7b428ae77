import Usbmuxd.Proofs.Connect

/-! # A client socket is served

`client_process` with everything below it: frames are read, commands carried out, replies written,
and a client that misbehaves is closed.
-/

namespace Usbmuxd

open Collection

/-- Nothing changes but the command buffer of one client. -/
structure Refilled (k : ClientPtr) (s s' : Clients) : Prop where
  list : s'.clientList = s.clientList
  next : s'.nextClient = s.nextClient
  log : s'.log = s.log
  harm : s'.harm = s.harm
  client : s'.client = s.client ∨ ∃ client buffer size, s.client k = some client ∧ buffer.isSome = client.ibBuf.isSome ∧
    s'.client = Function.update s.client k (some { client with ibBuf := buffer, ibSize := size })

namespace Refilled

variable {k : ClientPtr} {s s' s'' : Clients}

private theorem of_untouched (same : Untouched s s') : Refilled k s s' :=
  ⟨same.list, same.next, same.log, same.harm, .inl same.client⟩

private theorem trans (first : Refilled k s s') (second : Refilled k s' s'') : Refilled k s s'' := by
  refine ⟨second.list.trans first.list, second.next.trans first.next, second.log.trans first.log,
    second.harm.trans first.harm, ?_⟩
  rcases first.client with same | ⟨client, buffer, size, present, still, stored⟩
  · rw [← same]
    exact second.client
  · right
    rcases second.client with same' | ⟨client', buffer', size', present', still', stored'⟩
    · exact ⟨client, buffer, size, present, still, same'.trans stored⟩
    · rw [stored, Function.update_self] at present'
      rw [← Option.some.inj present'] at still'
      rw [stored, Function.update_idem, ← Option.some.inj present'] at stored'
      exact ⟨client, buffer', size', present, still'.trans still, stored'⟩

theorem move {lax : Laxity} (reads : lax.reads) (refilled : Refilled k s s') : ClientsMove lax (some k) s s' := by
  rcases refilled.client with same | ⟨client, buffer, size, present, still, stored⟩
  · exact .of_untouched ⟨refilled.list, refilled.next, same, refilled.log, refilled.harm⟩
  · have appended : Appended k { client with ibBuf := buffer, ibSize := size } [] s s' :=
      ⟨refilled.list, refilled.next, stored, by simp [refilled.log], refilled.harm⟩
    refine .of_appended appended present ?_
    rw [List.append_nil]
    exact .read client _ buffer size rfl reads still

/-- The client keeps everything but its buffer. -/
theorem state (refilled : Refilled k s s') {client : MuxClient} (present : s.client k = some client) :
    ∃ buffer size, s'.client k = some { client with ibBuf := buffer, ibSize := size } ∧
      buffer.isSome = client.ibBuf.isSome := by
  rcases refilled.client with same | ⟨client₀, buffer, size, present₀, still, stored⟩
  · exact ⟨client.ibBuf, client.ibSize, by rw [same, present], rfl⟩
  · obtain rfl : client = client₀ := Option.some.inj (present.symm.trans present₀)
    refine ⟨buffer, size, ?_, still⟩
    rw [stored, Function.update_self]

end Refilled

section Reading

variable (env : Env) {k : ClientPtr} {s : Clients} {client : MuxClient}

private theorem receiveCommand_refilled (present : s.client k = some client) (len : ℕ) :
    Refilled k s (receiveCommand env k len s).2 := by
  simp only [receiveCommand, present]
  split
  · next buffer data known _ =>
    split
    · exact .of_untouched ⟨rfl, rfl, rfl, rfl, rfl⟩
    · exact ⟨rfl, rfl, rfl, rfl, .inr ⟨client, _, _, present, by rw [known]; rfl, rfl⟩⟩
  · exact .of_untouched ⟨rfl, rfl, rfl, rfl, rfl⟩

private theorem readFrame_refilled (present : s.client k = some client) (didRead : Bool) :
    Refilled k s (readFrame env k didRead s).2 := by
  simp only [readFrame, present]
  split
  · exact .of_untouched (untouched_nullBuffer s k)
  next buffer _ =>
  have received := receiveCommand_refilled env present (le32At buffer 0 - client.ibSize).toNat
  split
  · exact .of_untouched (.refl s)
  split
  swap
  · exact .of_untouched (.refl s)
  split
  · exact .of_untouched (.refl s)
  split
  swap
  · exact received
  obtain ⟨buffer', size, present', _⟩ := received.state present
  simp only [present']
  split <;> exact received

theorem readCommand_refilled (present : s.client k = some client) : Refilled k s (readCommand env k s).2 := by
  simp only [readCommand, present]
  have received := receiveCommand_refilled env present (16 - client.ibSize).toNat
  split
  swap
  · exact readFrame_refilled env present false
  split
  swap
  · exact received
  obtain ⟨buffer', size, present', _⟩ := received.state present
  simp only [present']
  split
  · exact received
  · exact received.trans (readFrame_refilled env present' true)

private theorem readFrame_buffer (present : s.client k = some client) {didRead : Bool} {bytes : Bytes}
    (framed : (readFrame env k didRead s).1 = .frame bytes) : client.ibBuf.isSome := by
  rcases buffer : client.ibBuf with _ | queue
  · simp [readFrame, present, buffer] at framed
  · rfl

private theorem readCommand_buffer (present : s.client k = some client) {bytes : Bytes}
    (framed : (readCommand env k s).1 = .frame bytes) : client.ibBuf.isSome := by
  have received := receiveCommand_refilled env present (16 - client.ibSize).toNat
  obtain ⟨buffer, size, present', still⟩ := received.state present
  simp only [readCommand, present] at framed
  split at framed
  swap
  · exact readFrame_buffer env present framed
  split at framed
  swap
  · cases framed
  simp only [present'] at framed
  split at framed
  · cases framed
  · rw [← still]
    exact readFrame_buffer env present' framed

end Reading

section Serving

variable {lax : Laxity} (env : Env) {s : Daemon} {k : ClientPtr} {client : MuxClient}

private theorem plistCommand_serviced (grants : Grants env lax) (sound : Sound lax s.sys) (alive : Alive s.sys)
    (present : s.clients.client k = some client) (idle : client.state = .command) (tag : UInt32) (message : String)
    (dict : Plist) (announces : message = "Listen" → lax.Announces)
    (willing : lax.early ∨ (message = "Connect" → ∀ deviceId port, connectRequest dict = .target deviceId port →
      ∀ d, getMuxDeviceForId deviceId.toNat s.mux = some d → (s.mux.dev d).state ≠ .init)) :
    Serviced lax k s (plistCommand env k tag message dict s).2 := by
  have waiting : Idle k s.clients := ⟨client, present, .inl idle⟩
  have replied (number : UInt32) : Serviced lax k s (replyResult env k tag number s).2 :=
    (Spoken.replyResult env grants waiting tag number).serviced waiting
  simp only [plistCommand]
  split
  · exact (Spoken.listenCommand env grants (announces rfl) ⟨client, present, idle⟩ tag).serviced waiting
  · split
    · exact replied _
    · exact replied _
    · next deviceId port target =>
      refine connectCommand_serviced env grants sound alive present idle tag deviceId port
        (willing.imp_right fun willing => ?_)
      exact willing rfl deviceId port target
  · exact (Spoken.answered (sendPlist_move env grants (some k) waiting tag rfl)).serviced waiting
  · exact (Spoken.answered (sendListenerList_move env grants (some k) waiting tag)).serviced waiting
  · have ticked : ClientsMove lax (some k) s.clients s.clients.bump := bump_move s.clients (some k)
    exact (Spoken.answered (ticked.trans
      (sendPlist_move env grants (some k) (ticked.idle waiting) tag rfl))).serviced waiting
  · exact (Spoken.answered (sendPairRecord_move env grants waiting tag _)).serviced waiting
  · exact (Spoken.savePairRecord env grants waiting tag dict).serviced waiting
  · exact (Spoken.deletePairRecord env grants waiting tag dict).serviced waiting
  · exact replied _

private theorem plistInput_serviced (grants : Grants env lax) (sound : Sound lax s.sys) (alive : Alive s.sys)
    (present : s.clients.client k = some client) (idle : client.state = .command) (tag : UInt32) (dict : Option Plist)
    (announces : ∀ dict' ∈ dict, (dict'.getItem "MessageType").bind Plist.stringVal? = some "Listen" → lax.Announces)
    (willing : lax.early ∨ ∀ dict' ∈ dict, (dict'.getItem "MessageType").bind Plist.stringVal? = some "Connect" →
      ∀ deviceId port, connectRequest dict' = .target deviceId port →
        ∀ d, getMuxDeviceForId deviceId.toNat s.mux = some d → (s.mux.dev d).state ≠ .init) :
    Serviced lax k s (plistInput env k tag dict s).2 := by
  simp only [plistInput]
  set s₁ := s.setClients (s.clients.modify k fun client => { client with protoVersion := 1 })
  have moved : ClientsMove lax (some k) s.clients s₁.clients :=
    inform_move (fun _ => 1) (fun client => client.info) (Option.isSome_iff_exists.mpr ⟨client, present⟩) fun _ => rfl
  have steady₁ : Steady lax (some k) s.sys s₁.sys := (moved.calm s).steady
  have present₁ : s₁.clients.client k = some { client with protoVersion := 1 } := by
    simp [s₁, Daemon.setClients, Clients.modify, present, Clients.setClient]
  have known₁ : (s₁.clients.client k).isSome := Option.isSome_iff_exists.mpr ⟨_, present₁⟩
  split
  · exact ⟨steady₁, known₁⟩
  next dict =>
  split
  · exact ⟨steady₁, known₁⟩
  next message found =>
  set s₂ := s₁.setClients (updateClientInfo k dict s₁.clients) with informing
  have informed : ClientsMove lax (some k) s₁.clients s₂.clients :=
    inform_move (fun client => client.protoVersion) _ known₁ fun _ => rfl
  have steady₂ : Steady lax (some k) s₁.sys s₂.sys := (informed.calm s₁).steady
  obtain ⟨client₂, present₂, idle₂⟩ : ∃ client₂, s₂.clients.client k = some client₂ ∧ client₂.state = .command := by
    simp only [informing, Daemon.setClients, updateClientInfo, Clients.modify, present₁]
    exact ⟨_, Function.update_self .., idle⟩
  have serviced := plistCommand_serviced env grants ((steady₁.trans steady₂).sound sound)
    ((steady₁.trans steady₂).alive alive) present₂ idle₂ tag message dict
    (fun named => announces dict rfl (found.trans (congrArg some named)))
    (willing.imp_right fun willing named => willing dict rfl (found.trans (congrArg some named)))
  exact ⟨(steady₁.trans steady₂).trans serviced.steady, serviced.present⟩

/-- A command in the wrong state is answered and the client is closed. -/
private theorem rebuke_calm (grants : Grants env lax) (sound : Sound lax s.sys)
    (present : s.clients.client k = some client)
    (misplaced : client.state = .listen ∨ client.state = .connecting1) (tag : UInt32) :
    let r := sendResult env k tag resultBadCommand s.clients
    Calm lax (some k) s.sys (if r.1 < 0 then s.setClients r.2 else clientClose env k (s.setClients r.2)).sys := by
  intro r
  have resulted : Resulted env k s.clients client tag resultBadCommand r :=
    sendResult_resulted env present tag resultBadCommand
  generalize r = r at resulted
  cases resulted with
  | failed negative same why =>
    rw [if_pos negative, same.sys]
    exact .refl _
  | @done x res capacity msg payload ok queues result =>
    rw [if_neg (by simpa using ok)]
    have viewed : s.sys.client k = (some client, s.clients.log k) := congrArg (·, s.clients.log k) present
    have stored : x.client k = some (client.grown capacity tag msg payload) := by
      rw [queues.stored, Function.update_self]
    have appended : Appended k (client.grown capacity tag msg payload) [.result tag resultBadCommand] x
        (x.logClient k (.result tag resultBadCommand)) := by
      refine ⟨rfl, rfl, ?_, rfl, rfl⟩
      rw [← stored]
      exact (Function.update_eq_self k x.client).symm
    refine clientClose_calm env sound (.inl rfl) viewed (sys_notified viewed queues appended) (queues.hurt rfl) rfl rfl
      (.rebuked capacity tag msg payload misplaced (queues.posts (grants.routine _ _ result.routine))
        (grants.answers _ _ _ result))
      fun first second => sound.linked.links.idle_free viewed first second ?_
    rcases misplaced with state | state <;> simp [state]

private theorem clientClose_self (sound : Sound lax s.sys) (present : s.clients.client k = some client)
    (unconnected : client.state ≠ .connected) : Calm lax (some k) s.sys (clientClose env k s).sys := by
  have viewed : s.sys.client k = (some client, s.clients.log k) := congrArg (·, s.clients.log k) present
  exact clientClose_quiet env sound (.inl rfl) present fun first second =>
    sound.linked.links.idle_free viewed first second unconnected

private theorem Sound.framed {S : Sys} (sound : Sound lax S) (present : (S.client k).1 = some client) :
    client.ibBuf.isSome = client.state.framed := by
  have ok := sound.clients k
  rw [show S.client k = (some client, (S.client k).2) from Prod.ext present rfl] at ok
  exact ok.input

private theorem handleCommand_steady (grants : Grants env lax) (sound : Sound lax s.sys) (alive : Alive s.sys)
    (present : s.clients.client k = some client) (framed : client.state.framed) (frame : Bytes)
    (announces : client.state = .command → requestsListen env frame → lax.Announces)
    (willing : lax.early ∨ (client.state = .command → ∀ deviceId ∈ requestedDevice env frame,
      ∀ d, getMuxDeviceForId deviceId.toNat s.mux = some d → (s.mux.dev d).state ≠ .init)) :
    Steady lax (some k) s.sys (handleCommand env k frame s).2.sys ∧
      (client.state = .command → ((handleCommand env k frame s).2.clients.client k).isSome) := by
  simp only [handleCommand, present]
  split
  · next state =>
    refine ⟨?_, fun idle => absurd idle state⟩
    have misplaced : client.state = .listen ∨ client.state = .connecting1 := by
      cases known : client.state <;> simp_all [ClientState.framed]
    have rebuked : Calm lax (some k) s.sys _ := rebuke_calm env grants sound present misplaced (le32At frame 12)
    split
    · next lost =>
      rw [if_pos lost] at rebuked
      exact rebuked.steady
    · next queued =>
      rw [if_neg queued] at rebuked
      exact rebuked.steady
  · next state =>
    have idle : client.state = .command := not_not.mp state
    have waiting : Idle k s.clients := ⟨client, present, .inl idle⟩
    have asked := willing.imp_right fun willing => willing idle
    have told := announces idle
    have serviced {r : ℤ × Daemon} (done : Serviced lax k s r.2) : Steady lax (some k) s.sys r.2.sys ∧
        (client.state = .command → (r.2.clients.client k).isSome) := ⟨done.steady, fun _ => done.present⟩
    split
    · have done := (Spoken.replyResult env grants waiting (le32At frame 12) resultBadVersion).serviced waiting
      exact ⟨done.steady, fun _ => done.present⟩
    · next request =>
      have announces := told (by simp [requestsListen, request])
      exact serviced ((Spoken.listenCommand env grants announces ⟨client, present, idle⟩ _).serviced waiting)
    · next deviceId port request =>
      refine serviced (connectCommand_serviced env grants sound alive present idle _ deviceId port
        (asked.imp_right fun asked => ?_))
      exact asked deviceId (by simp [requestedDevice, request])
    · next dict request =>
      refine serviced (plistInput_serviced env grants sound alive present idle _ dict (fun dict' same named => told ?_)
        (asked.imp_right fun asked => ?_))
      · obtain rfl : dict = some dict' := same
        simp [requestsListen, request, named]
      · intro dict' same named deviceId port target
        obtain rfl : dict = some dict' := same
        exact asked deviceId (by simp [requestedDevice, request, named, target])
    · exact serviced ((Spoken.replyResult env grants waiting _ _).serviced waiting)

/-- The store to `ib_size` after a command, also when the command has closed the client. -/
theorem rewind_steady (reads : lax.reads) (free : s.clients.client k = none → lax.rude) :
    Steady lax (some k) s.sys
      (s.setClients (s.clients.modify k fun client => { client with ibSize := 0 })).sys := by
  rcases known : s.clients.client k with _ | client
  · have stray : SysStep lax (some k) s.sys _ := .stray s.sys k (free known)
    refine ⟨.single ?_, fun alive => alive⟩
    have gone : (s.setClients (s.clients.modify k fun client => { client with ibSize := 0 })).sys =
        { s.sys with harm := s.sys.harm ++ [.releasedClient k] } := by
      simp only [Clients.modify, known]
      exact congrArg (fun harm => { s.sys with harm := harm }) (harm_fault s.clients (.releasedClient k))
    rw [gone]
    exact stray
  · have rewound : ClientsMove lax (some k) s.clients
        (s.clients.modify k fun client => { client with ibSize := 0 }) :=
      .modify known (.read client _ client.ibBuf 0 rfl reads rfl)
    exact (rewound.calm s).steady

private theorem inputBufferProcess_steady (grants : Grants env lax) (sound : Sound lax s.sys) (alive : Alive s.sys)
    (present : s.clients.client k = some client) (unconnected : client.state ≠ .connected) (reads : lax.reads)
    (announces : client.state = .command → ∀ bytes, (readCommand env k s.clients).1 = .frame bytes →
      requestsListen env bytes → lax.Announces)
    (polite : ∀ bytes, (readCommand env k s.clients).1 = .frame bytes → lax.rude ∨ client.state = .command)
    (willing : lax.early ∨ (client.state = .command → ∀ bytes, (readCommand env k s.clients).1 = .frame bytes →
      ∀ deviceId ∈ requestedDevice env bytes,
        ∀ d, getMuxDeviceForId deviceId.toNat s.mux = some d → (s.mux.dev d).state ≠ .init)) :
    Steady lax (some k) s.sys (inputBufferProcess env k s).sys := by
  have refilled := readCommand_refilled env present
  have calm : Calm lax (some k) s.sys (s.setClients (readCommand env k s.clients).2).sys := (refilled.move reads).calm s
  simp only [inputBufferProcess]
  set s₁ := s.setClients (readCommand env k s.clients).2 with reading
  obtain ⟨buffer, size, present₁, still⟩ := refilled.state present
  have present₁ : s₁.clients.client k = some { client with ibBuf := buffer, ibSize := size } := present₁
  refine calm.steady.trans ?_
  have sound₁ := calm.sound sound
  have alive₁ := calm.steady.alive alive
  split
  · exact (clientClose_self env sound₁ present₁ unconnected).steady
  · exact .refl _
  · exact .refl _
  · next bytes framed =>
    have isFramed : client.state.framed := by
      rw [← sound.framed present]
      exact readCommand_buffer env present framed
    obtain ⟨steady, kept⟩ := handleCommand_steady env grants sound₁ alive₁ present₁ isFramed bytes
      (fun idle => announces idle bytes framed) (willing.imp_right fun willing idle => willing idle bytes framed)
    refine steady.trans (rewind_steady reads fun gone => ?_)
    refine (polite bytes framed).resolve_right fun idle => ?_
    simpa [gone] using kept idle

private theorem outputBufferProcess_calm (sound : Sound lax s.sys) (present : s.clients.client k = some client)
    (unconnected : client.state ≠ .connected) : Calm lax (some k) s.sys (outputBufferProcess env k s).sys := by
  obtain ⟨queue, buffer⟩ := Option.isSome_iff_exists.mp (sound.linked.roster.output k client present unconnected)
  have ticked : Calm lax (some k) s.sys (s.setClients s.clients.bump).sys := (bump_move s.clients (some k)).calm s
  have closed : Calm lax (some k) s.sys (clientClose env k (s.setClients s.clients.bump)).sys :=
    ticked.trans (clientClose_self (s := s.setClients s.clients.bump) env (ticked.sound sound) present unconnected)
  simp only [outputBufferProcess, present]
  split
  · next empty =>
    have appended : Appended k { client with events := { client.events with pollout := false } } [] s.clients
        (s.clients.setClient k { client with events := { client.events with pollout := false } }) :=
      ⟨rfl, rfl, rfl, by simp [Clients.setClient], rfl⟩
    refine ClientsMove.calm s (.of_appended appended present ?_)
    rw [List.append_nil]
    exact .rest client _ rfl empty unconnected
  rw [buffer, Option.getD_some]
  split
  · next size _ =>
    split
    · exact closed
    · next some_ =>
      have taken : queue.take size = queue.take (min size queue.length) := by
        rw [List.take_eq_take_iff]
        omega
      refine ClientsMove.calm s (.of_appended (k := k) ⟨rfl, rfl, rfl, rfl, rfl⟩ present ?_)
      rw [taken]
      exact .drain client _ queue (min size queue.length) rfl buffer (by omega) (by omega) unconnected
  · exact closed

/-- `client_process`. -/
theorem clientProcess_steady (grants : Grants env lax) (sound : Sound lax s.sys) (alive : Alive s.sys) (fd : ℤ)
    (events : PollMask) (possible : enabled s (.clientProcess fd events))
    (reads : (readingClient s (.clientProcess fd events)).isSome → lax.reads)
    (announces : stirs env s (.clientProcess fd events) → lax.Announces)
    (polite : lax.rude ∨ Orderly env s (.clientProcess fd events))
    (willing : lax.early ∨ Prudent env s (.clientProcess fd events)) :
    Steady lax (servedClient s (.clientProcess fd events)) s.sys (clientProcess env fd events s).sys := by
  simp only [clientProcess, servedClient]
  split
  · exact .refl _
  next k found =>
  rw [found]
  split
  · exact .refl _
  next client present =>
  split
  · next connected => exact (deviceClientProcess_calm (some k) env sound alive grants present connected events).steady
  next unconnected =>
  split
  · next readable =>
    have command {bytes : Bytes} (framed : (readCommand env k s.clients).1 = .frame bytes) :
        handled env s (.clientProcess fd events) = some (client.state, bytes) := by
      simp [handled, found, present, unconnected, readable, framed]
    refine inputBufferProcess_steady env grants sound alive present unconnected
      (reads (by simp [readingClient, servedClient, possible, found, present, unconnected, readable]))
      (fun idle bytes framed asked => ?_)
      (fun bytes framed => polite.imp_right fun orderly => orderly _ (command framed))
      (willing.imp_right fun prudent => ?_)
    · exact announces (by simp [stirs, command framed, idle, asked])
    · intro idle bytes framed deviceId asked d named
      refine prudent deviceId ?_ d named
      simp only [connectTarget, found, present, Option.any_some, idle, readable, framed]
      simpa using asked
  split
  · exact (outputBufferProcess_calm env sound present unconnected).steady
  · exact .refl _

end Serving

end Usbmuxd
