import Usbmuxd.Proofs.Commands
import Usbmuxd.Soundness.Pairing

/-! # Every command is answered

`handle_command` returns at some twenty places, and `input_buffer_process` does not look at the result.
A command is answered by one message with its tag, or later if a connection is being opened. The two
exits that do neither are those for a property list that cannot be parsed or has no message type.
-/

namespace Usbmuxd

open Collection ClientLog

/-- The client waits for commands and has an output buffer. -/
def Attentive (k : ClientPtr) (s : Clients) : Prop :=
  ∃ client, s.client k = some client ∧ client.state = .command ∧ client.obBuf.isSome

/-- Nothing that the client sees has happened yet. -/
structure Prepared (k : ClientPtr) (s s' : Clients) : Prop where
  log : s'.log k = s.log k
  attentive : Attentive k s'

/-- The client was sent one message with this tag, and then perhaps device events. -/
def Replies (k : ClientPtr) (tag : UInt32) (s s' : Clients) : Prop :=
  ∃ msg payload notices, messages (s'.log k) = messages (s.log k) ++ (tag, msg, payload) :: notices ∧
    ∀ notice ∈ notices, notice.1 = 0

/-- The client got its reply, or it got nothing and will when its connection is open. -/
def Responds (k : ClientPtr) (tag : UInt32) (s s' : Daemon) : Prop :=
  Replies k tag s.clients s'.clients ∨
    messages (s'.clients.log k) = messages (s.clients.log k) ∧
      ∃ client, s'.clients.client k = some client ∧ client.state = .connecting1

/-- The client got its reply, will get it or is closed. -/
def Concludes (k : ClientPtr) (tag : UInt32) (s s' : Daemon) : Prop :=
  Responds k tag s s' ∨ s'.clients.client k = none

/-- A request that is not a property list without a message type. -/
def Readable (request : Request) : Prop :=
  ∀ dict, request = .plist dict → ∃ plist message, dict = some plist ∧
    (plist.getItem "MessageType").bind Plist.stringVal? = some message

namespace Prepared

variable {k : ClientPtr} {tag : UInt32} {s s' s'' : Clients}

private theorem refl (attentive : Attentive k s) : Prepared k s s := ⟨rfl, attentive⟩

private theorem trans (first : Prepared k s s') (second : Prepared k s' s'') : Prepared k s s'' :=
  ⟨second.log.trans first.log, second.attentive⟩

private theorem of_same (attentive : Attentive k s) (client : s'.client k = s.client k) (log : s'.log k = s.log k) :
    Prepared k s s' := ⟨log, by rw [Attentive, client]; exact attentive⟩

private theorem modify (attentive : Attentive k s) {f : MuxClient → MuxClient}
    (state : ∀ client, (f client).state = client.state)
    (buffer : ∀ client, (f client).obBuf = client.obBuf) : Prepared k s (s.modify k f) := by
  obtain ⟨client, present, command, output⟩ := attentive
  rw [Clients.modify, present]
  exact ⟨rfl, f client, Function.update_self .., by rw [state, command], by rw [buffer, output]⟩

private theorem replies (prepared : Prepared k s s') (replies : Replies k tag s' s'') : Replies k tag s s'' := by
  rwa [Replies, prepared.log] at replies

private theorem responds {s s' s'' : Daemon} (prepared : Prepared k s.clients s'.clients)
    (responds : Responds k tag s' s'') :
    Responds k tag s s'' := by
  rwa [Responds, Replies, prepared.log] at responds

/-- A client for which nothing has happened is open, waits for commands and has no reply. -/
private theorem not_concludes {s s' : Daemon} (prepared : Prepared k s.clients s'.clients) : ¬Concludes k tag s s' := by
  obtain ⟨log, client, present, command, -⟩ := prepared
  rintro ((⟨msg, payload, notices, more, -⟩ | ⟨-, client', present', state⟩) | gone)
  · rw [log] at more
    simpa using congrArg List.length more
  · rw [present] at present'
    obtain rfl := Option.some.inj present'
    simp [command] at state
  · simp [present] at gone

end Prepared

section Sending

variable {env : Env} {k : ClientPtr} {s : Clients} (memory : ∀ n, (env.sock n).alloc = true)

include memory

private theorem sendPlist_replies (attentive : Attentive k s) (tag : UInt32) (plist : Plist) :
    Replies k tag s (sendPlist env k tag plist s).2 := by
  obtain ⟨client, present, -, buffer⟩ := attentive
  have queued := sendPlist_queued env present tag plist
  generalize sendPlist env k tag plist s = r at queued
  cases queued with
  | failed same why => exact absurd memory (why buffer)
  | done queues => exact ⟨.plist, env.plistToXml plist, [], by simp [queues.logged, ClientEvent.message?], by simp⟩

private theorem sendResult_replies (attentive : Attentive k s) (tag number : UInt32) :
    (∃ msg payload, messages ((sendResult env k tag number s).2.log k) = messages (s.log k) ++ [(tag, msg, payload)]) ∧
      Attentive k (sendResult env k tag number s).2 := by
  obtain ⟨client, present, command, buffer⟩ := attentive
  have resulted := sendResult_resulted env present tag number
  generalize sendResult env k tag number s = r at resulted
  cases resulted with
  | failed _ same why => exact absurd memory (why buffer)
  | @done s' res capacity msg payload ok queues result =>
    refine ⟨⟨msg, payload, by simp [Clients.logClient, queues.logged, ClientEvent.message?]⟩,
      client.grown capacity tag msg payload, ?_, command, rfl⟩
    simp only [Clients.logClient, queues.stored, Function.update_self]

private theorem replyResult_responds {s : Daemon} (attentive : Attentive k s.clients) (tag number : UInt32) :
    Responds k tag s (replyResult env k tag number s).2 := by
  obtain ⟨⟨msg, payload, one⟩, -⟩ := sendResult_replies memory attentive tag number
  exact .inl ⟨msg, payload, [], one, by simp⟩

omit memory

private theorem sendDeviceEvent_notices (env : Env) (present : (s.client k).isSome) (msg : MsgType) (plist : Plist)
    (payload : Bytes) :
    ((sendDeviceEvent env msg plist payload k s).2.client k).isSome ∧
      ∃ notices, messages ((sendDeviceEvent env msg plist payload k s).2.log k) = messages (s.log k) ++ notices ∧
        ∀ notice ∈ notices, notice.1 = 0 := by
  obtain ⟨client, present⟩ := Option.isSome_iff_exists.mp present
  obtain ⟨msg', payload', -, queued⟩ := sendDeviceEvent_queued env present msg plist payload
  generalize sendDeviceEvent env msg plist payload k s = r at queued
  cases queued with
  | failed same why => exact ⟨by simp [same.client, present], [], by simp [same.log], by simp⟩
  | done queues =>
    exact ⟨by simp [queues.stored], [(0, msg', payload')], by simp [queues.logged, ClientEvent.message?], by simp⟩

private theorem announceAll_notices (env : Env) (present : (s.client k).isSome) (devices : List DeviceInfo) :
    ∃ notices, messages ((announceAll env k devices s).2.log k) = messages (s.log k) ++ notices ∧
      ∀ notice ∈ notices, notice.1 = 0 := by
  induction devices generalizing s with
  | nil => exact ⟨[], by simp [announceAll], by simp⟩
  | cons info rest ih =>
    obtain ⟨still, notices, added, zero⟩ := sendDeviceEvent_notices env present .deviceAdd
      (createDeviceAttachedPlist info) (deviceRecord info)
    by_cases failed : (sendDeviceAdd env info k s).1 < 0
    · rw [announceAll, if_pos failed]
      exact ⟨notices, added, zero⟩
    · obtain ⟨notices', added', zero'⟩ := ih still
      rw [announceAll, if_neg failed]
      refine ⟨notices ++ notices', ?_, fun notice member => ?_⟩
      · rw [← List.append_assoc, ← added]
        exact added'
      · exact (List.mem_append.mp member).elim (zero notice) (zero' notice)

/-- A round over the listeners does not concern a client that waits for commands. -/
private theorem clientDevicePaired_prepared (env : Env) (attentive : Attentive k s) (deviceId : ℕ) :
    Prepared k s (clientDevicePaired env deviceId s) := by
  refine forEach_induct (motive := Prepared k s) (.refl attentive) fun k' current before _ => ?_
  split
  swap
  · exact before
  next listening =>
  obtain ⟨listener, present, listens⟩ := (Option.any_eq_true ..).mp listening
  have other : k ≠ k' := by
    rintro rfl
    obtain ⟨client, present', command, -⟩ := before.attentive
    obtain rfl := Option.some.inj (present.symm.trans present')
    simp [command] at listens
  obtain ⟨msg, payload, -, queued⟩ := sendDeviceEvent_queued env present .devicePaired
    (deviceIdPlist "Paired" deviceId) (le32 (UInt32.ofNat deviceId))
  refine before.trans ?_
  rw [sendDevicePaired]
  generalize sendDeviceEvent env .devicePaired (deviceIdPlist "Paired" deviceId) (le32 (UInt32.ofNat deviceId)) k'
    current = r at queued
  cases queued with
  | failed same why => exact .of_same before.attentive (by rw [same.client]) (by rw [same.log])
  | done queues => exact .of_same before.attentive (by simp [queues.stored, other]) (by simp [queues.logged, other])

end Sending

section Commands

variable {env : Env} {k : ClientPtr} {s : Daemon} (memory : ∀ n, (env.sock n).alloc = true)
  (attentive : Attentive k s.clients)

include memory attentive

private theorem listenCommand_responds (tag : UInt32) : Responds k tag s (listenCommand env k tag s).2 := by
  obtain ⟨⟨msg, payload, one⟩, client, present, -⟩ := sendResult_replies memory attentive tag resultOk
  simp only [listenCommand]
  split
  · exact .inl ⟨msg, payload, [], one, by simp⟩
  · simp only [startListen, Daemon.setClients]
    generalize (sendResult env k tag resultOk s.clients).2 = x at one present
    have listening : ((x.modify k fun client => { client with state := .listen }).client k).isSome := by
      simp [Clients.modify, present, Clients.setClient]
    have log : (x.modify k fun client => { client with state := .listen }).log k = x.log k := by
      simp [Clients.modify, present, Clients.setClient]
    obtain ⟨notices, added, zero⟩ := announceAll_notices env listening (deviceGetList env false s.mux)
    exact .inl ⟨msg, payload, notices, by rw [added, log, one]; simp, zero⟩

private theorem connectCommand_responds (tag deviceId : UInt32) (port : UInt16) :
    Responds k tag s (connectCommand env k tag deviceId port s).2 := by
  simp only [connectCommand]
  split
  · exact replyResult_responds (s := s.setMux _) memory attentive tag _
  · obtain ⟨client, present, -⟩ := attentive
    refine .inr ⟨?_, { client with connectTag := tag, connectDevice := deviceId.toNat, state := .connecting1 }, ?_, rfl⟩
    · simp [Clients.modify, Daemon.setMux, Daemon.setClients, present, Clients.setClient, Clients.logClient,
        ClientEvent.message?]
    · simp [Clients.modify, Daemon.setMux, Daemon.setClients, present, Clients.setClient, Clients.logClient]

private theorem savePairRecord_responds (tag : UInt32) (dict : Plist) :
    Responds k tag s (savePairRecord env k tag dict s).2 := by
  simp only [savePairRecord]
  split
  swap
  · exact replyResult_responds memory attentive tag errInval
  set s₁ := s.setClients s.clients.bump
  have ticked : Prepared k s.clients s₁.clients := .of_same attentive rfl rfl
  have told (deviceId : ℕ) (known : Prop) [Decidable known] : Responds k tag s₁ (replyResult env k tag resultOk
      (if known then s₁.setClients (clientDevicePaired env deviceId s₁.clients) else s₁)).2 := by
    split
    · have paired := clientDevicePaired_prepared env ticked.attentive deviceId
      exact paired.responds (replyResult_responds memory paired.attentive tag resultOk)
    · exact replyResult_responds memory ticked.attentive tag resultOk
  refine ticked.responds ?_
  split
  · exact replyResult_responds memory ticked.attentive tag _
  · exact told _ _

private theorem deletePairRecord_responds (tag : UInt32) (dict : Plist) :
    Responds k tag s (deletePairRecord env k tag dict s).2 := by
  have ticked : Prepared k s.clients s.clients.bump := .of_same attentive rfl rfl
  simp only [deletePairRecord]
  split
  · exact replyResult_responds memory attentive tag errInval
  · exact ticked.responds (replyResult_responds (s := s.setClients s.clients.bump) memory ticked.attentive tag _)

private theorem sendPairRecord_replies (tag : UInt32) (recordId : Option String) :
    Replies k tag s.clients (sendPairRecord env k tag recordId s.clients).2 := by
  have ticked : Prepared k s.clients s.clients.bump := .of_same attentive rfl rfl
  simp only [sendPairRecord]
  split
  · obtain ⟨⟨msg, payload, one⟩, -⟩ := sendResult_replies memory attentive tag errInval
    exact ⟨msg, payload, [], one, by simp⟩
  split
  · exact ticked.replies (sendPlist_replies memory ticked.attentive tag _)
  · obtain ⟨⟨msg, payload, one⟩, -⟩ := sendResult_replies memory ticked.attentive tag errNoent
    exact ticked.replies ⟨msg, payload, [], one, by simp⟩

private theorem plistCommand_responds (tag : UInt32) (message : String) (dict : Plist) :
    Responds k tag s (plistCommand env k tag message dict s).2 := by
  have ticked : Prepared k s.clients s.clients.bump := .of_same attentive rfl rfl
  simp only [plistCommand]
  split
  · exact listenCommand_responds memory attentive tag
  · split
    · exact replyResult_responds memory attentive tag _
    · exact replyResult_responds memory attentive tag _
    · exact connectCommand_responds memory attentive tag _ _
  · exact .inl (sendPlist_replies memory attentive tag _)
  · obtain ⟨client, present⟩ := attentive.imp fun _ waits => waits.1
    refine .inl ?_
    simp only [answered, Daemon.setClients, sendListenerList, present]
    exact sendPlist_replies memory attentive tag _
  · exact .inl (ticked.replies (sendPlist_replies memory ticked.attentive tag _))
  · exact .inl (sendPairRecord_replies memory attentive tag _)
  · exact savePairRecord_responds memory attentive tag dict
  · exact deletePairRecord_responds memory attentive tag dict
  · exact replyResult_responds memory attentive tag _

private theorem plistInput_responds {dict : Plist} {message : String} (tag : UInt32)
    (typed : (dict.getItem "MessageType").bind Plist.stringVal? = some message) :
    Responds k tag s (plistInput env k tag (some dict) s).2 := by
  simp only [plistInput, typed]
  set s₁ := s.setClients (s.clients.modify k fun client => { client with protoVersion := 1 })
  have versioned : Prepared k s.clients s₁.clients := .modify attentive (fun _ => rfl) fun _ => rfl
  set s₂ := s₁.setClients (updateClientInfo k dict s₁.clients)
  have informed : Prepared k s₁.clients s₂.clients := .modify versioned.attentive (fun _ => rfl) fun _ => rfl
  exact (versioned.trans informed).responds (plistCommand_responds memory informed.attentive tag message dict)

/-- Every request but a property list without a message type is answered. -/
private theorem handleCommand_responds {frame : Bytes} (readable : Readable (readRequest env frame)) :
    Responds k (le32At frame 12) s (handleCommand env k frame s).2 := by
  have ⟨client, present, command, _⟩ := attentive
  simp only [handleCommand, present, if_neg (not_not.mpr command)]
  split
  · exact replyResult_responds memory attentive _ _
  · exact listenCommand_responds memory attentive _
  · exact connectCommand_responds memory attentive _ _ _
  · next dict request =>
    rw [request] at readable
    obtain ⟨dict, message, rfl, typed⟩ := readable dict rfl
    exact plistInput_responds memory attentive _ typed
  · exact replyResult_responds memory attentive _ _

omit memory

private theorem handleCommand_drops {frame : Bytes} (unreadable : ¬Readable (readRequest env frame)) :
    Prepared k s.clients (handleCommand env k frame s).2.clients := by
  have ⟨client, present, command, _⟩ := attentive
  have versioned : Prepared k s.clients (s.clients.modify k fun client => { client with protoVersion := 1 }) :=
    .modify attentive (fun _ => rfl) fun _ => rfl
  simp only [handleCommand, present, if_neg (not_not.mpr command)]
  simp only [Readable, not_forall] at unreadable
  obtain ⟨dict, request, untyped⟩ := unreadable
  rw [request]
  simp only [plistInput]
  split
  · exact versioned
  split
  · exact versioned
  · next dict _ message typed => exact absurd ⟨dict, message, rfl, typed⟩ untyped

omit attentive

private theorem Responds.rewound {tag : UInt32} {s s' : Daemon} (responds : Responds k tag s s') :
    Responds k tag s (s'.setClients (s'.clients.modify k fun client => { client with ibSize := 0 })) := by
  have log : (s'.clients.modify k fun client => { client with ibSize := 0 }).log = s'.clients.log := by
    rw [Clients.modify]
    split <;> rfl
  rcases responds with replies | ⟨unchanged, client, present, state⟩
  · left
    rwa [Replies, Daemon.setClients, log]
  · right
    refine ⟨by rwa [Daemon.setClients, log], { client with ibSize := 0 }, ?_, state⟩
    simp [Daemon.setClients, Clients.modify, present, Clients.setClient]

end Commands

/-- A client that waits for commands and sends a complete frame is answered, by one message with the
tag of the frame or once its connection is open, or it is closed, exactly if the frame is not a property
list without a message type. -/
theorem commands_answered (env : Env) (memory : ∀ n, (env.sock n).alloc = true) (k : ClientPtr) (s : Daemon)
    (attentive : Attentive k s.clients) (frame : Bytes) (complete : (readCommand env k s.clients).1 = .frame frame) :
    Concludes k (le32At frame 12) s (inputBufferProcess env k s) ↔ Readable (readRequest env frame) := by
  obtain ⟨client, present, command, buffer⟩ := attentive
  have refilled := readCommand_refilled env present
  obtain ⟨input, size, stored, -⟩ := refilled.state present
  have received : Prepared k s.clients (s.setClients (readCommand env k s.clients).2).clients :=
    ⟨congrFun refilled.log k, _, stored, command, buffer⟩
  simp only [inputBufferProcess, complete]
  constructor
  · intro concludes
    by_contra unreadable
    have dropped := handleCommand_drops received.attentive unreadable
    refine Prepared.not_concludes ((received.trans dropped).trans ?_) concludes
    exact .modify dropped.attentive (fun _ => rfl) fun _ => rfl
  · intro readable
    exact .inl (received.responds (handleCommand_responds memory received.attentive readable)).rewound

/-- A frame for a device that does not exist. -/
theorem strange_device_answered :
    let s := run sessionEnv [.accept, .clientProcess 5 ⟨true, false⟩]
    (readCommand sessionEnv 0 s.clients).1 = .frame (connectFrame 1 62078) ∧
      Concludes 0 (le32At (connectFrame 1 62078) 12) s (inputBufferProcess sessionEnv 0 s) := by
  intro s
  have complete : (readCommand sessionEnv 0 s.clients).1 = .frame (connectFrame 1 62078) := by decide +kernel
  refine ⟨complete, (commands_answered sessionEnv (fun _ => rfl) 0 s ?_ _ complete).mpr ?_⟩
  · exact ⟨(s.clients.client 0).get (by decide +kernel), by simp, by decide +kernel, by decide +kernel⟩
  · intro dict listed
    have request : readRequest sessionEnv (connectFrame 1 62078) = .connect 1 62078 := rfl
    simp [request] at listed

/-- A frame with a property list, with tag 7. -/
def plistFrame : Bytes := le32 20 ++ le32 1 ++ le32 8 ++ le32 7 ++ [60, 47, 62, 10]

/-- The world of the session, with a socket that delivers a property list and a parser that makes this of it. -/
def mumbling (dict : Option Plist) : Env :=
  { sessionEnv with
    sock := fun n =>
      { sessionEnv.sock n with recv := .received (if n = 1 then plistFrame.take 16 else plistFrame.drop 16) }
    plistFromXml := fun _ => dict }

/-- The frame is processed, and its client is still waiting for commands, with nothing queued for it. -/
def Strands (env : Env) (k : ClientPtr) (frame : Bytes) (s : Daemon) : Prop :=
  (s.clients.client k).map (·.state) = some .command ∧ (readCommand env k s.clients).1 = .frame frame ∧
    ((inputBufferProcess env k s).clients.client k).map (·.state) = some .command ∧
      (inputBufferProcess env k s).clients.log k = s.clients.log k

/-- A property list that cannot be parsed, or has no message type, is not answered: the client is left
waiting for commands and for its reply. -/
theorem mumbling_unanswered :
    Strands (mumbling none) 0 plistFrame (run (mumbling none) [.accept, .clientProcess 5 ⟨true, false⟩]) ∧
      Strands (mumbling (some (.dict []))) 0 plistFrame
        (run (mumbling (some (.dict []))) [.accept, .clientProcess 5 ⟨true, false⟩]) := by
  unfold Strands
  decide +kernel

end Usbmuxd
