import Mathlib.Logic.Relation
import Usbmuxd.Model.Command

/-! # What one client can do

The abstract machine of a client record and its log, apart from the steps it takes together with a
connection. Its steps are the elementary changes `client.c` makes to one record, each with the
guard under which they are made. The rules say whether the socket of this client is being served,
which messages may be queued and which of them are results, whether its command buffer may change,
whether it may start to listen, and whether a message may have been written past the end of its
buffer.
-/

namespace Usbmuxd

/-- The states in which the socket carries commands and replies. -/
def ClientState.framed : ClientState → Bool
  | command | listen | connecting1 => true
  | _ => false

/-- The masks after `client_set_events`. -/
def MuxClient.masked (client : MuxClient) (events : PollMask) : MuxClient :=
  if client.state = .connected then { client with devents := events, events := events }
  else if client.state = .connecting2 then { client with devents := events }
  else client

/-- A client as seen from outside: its record while allocated, and its log. -/
abbrev ClientView := Option MuxClient × List ClientEvent

/-- What the moves of a client depend on. -/
structure ClientRules where
  own : Prop
  tells : MsgType → Bytes → Prop
  answers : UInt32 → MsgType → Bytes → Prop
  reads : Prop
  listens : Prop
  overran : Prop

/-- A message stays within the buffer. -/
def MuxClient.HasRoom (client : MuxClient) (payload : Bytes) : Prop :=
  payload.length < 2 ^ 31 ∧ client.obSize.toNat + 16 + payload.length ≤ client.obCapacity.toNat

/-- The record of a client with one more message, after the buffer was enlarged if it had to be. -/
def MuxClient.grown (client : MuxClient) (capacity tag : UInt32) (msg : MsgType) (payload : Bytes) : MuxClient :=
  ({ client with obCapacity := capacity } : MuxClient).enqueue tag msg payload (client.obBuf.getD [])

/-- A message may be queued for a client. -/
structure Posts (rules : ClientRules) (client : MuxClient) (capacity : UInt32) (msg : MsgType) (payload : Bytes) :
    Prop where
  said : rules.tells msg payload
  room : rules.overran ∨ ({ client with obCapacity := capacity } : MuxClient).HasRoom payload

/-- The elementary changes of one client. -/
inductive ClientStep (rules : ClientRules) : ClientView → ClientView → Prop
  /-- `output_buffer_add_message` for a list, a record or a device event. -/
  | queue (client : MuxClient) (log : List ClientEvent) (capacity tag : UInt32) (msg : MsgType) (payload : Bytes)
      (idle : client.state = .command ∨ client.state = .listen) (posts : Posts rules client capacity msg payload) :
      ClientStep rules (some client, log) (some (client.grown capacity tag msg payload),
        log ++ [.queued tag msg payload])
  /-- `send_result` for a command. -/
  | reply (client : MuxClient) (log : List ClientEvent) (capacity tag number : UInt32) (msg : MsgType) (payload : Bytes)
      (own : rules.own) (idle : client.state = .command ∨ client.state = .listen)
      (posts : Posts rules client capacity msg payload) (answers : rules.answers number msg payload) :
      ClientStep rules (some client, log)
        (some (client.grown capacity tag msg payload), log ++ [.queued tag msg payload, .result tag number])
  | listen (client : MuxClient) (log : List ClientEvent) (own : rules.own) (free : rules.listens)
      (idle : client.state = .command) :
      ClientStep rules (some client, log) (some { client with state := .listen }, log)
  /-- The protocol a client speaks and what it tells about itself. -/
  | inform (client : MuxClient) (log : List ClientEvent) (version : UInt32) (info : Option Plist) (own : rules.own) :
      ClientStep rules (some client, log) (some { client with protoVersion := version, info := info }, log)
  /-- The command buffer is filled or emptied. -/
  | read (client : MuxClient) (log : List ClientEvent) (buffer : Option Bytes) (size : UInt32) (own : rules.own)
      (free : rules.reads) (still : buffer.isSome = client.ibBuf.isSome) :
      ClientStep rules (some client, log) (some { client with ibBuf := buffer, ibSize := size }, log)
  /-- `output_buffer_process` with nothing to send. -/
  | rest (client : MuxClient) (log : List ClientEvent) (own : rules.own) (empty : client.obSize = 0)
      (unconnected : client.state ≠ .connected) :
      ClientStep rules (some client, log)
        (some { client with events := { client.events with pollout := false } }, log)
  /-- The socket takes bytes of the output buffer. -/
  | drain (client : MuxClient) (log : List ClientEvent) (queue : Bytes) (size : ℕ) (own : rules.own)
      (buffer : client.obBuf = some queue) (positive : 0 < size) (bound : size ≤ queue.length)
      (unconnected : client.state ≠ .connected) :
      ClientStep rules (some client, log) (some (client.dequeue queue size), log ++ [.sent (queue.take size)])
  /-- The socket takes tunnel bytes. -/
  | write (client : MuxClient) (log : List ClientEvent) (bytes : Bytes) (connected : client.state = .connected) :
      ClientStep rules (some client, log) (some client, log ++ [.tunnelled bytes])

/-- Any number of elementary changes. -/
abbrev ClientMove (rules : ClientRules) : ClientView → ClientView → Prop := Relation.ReflTransGen (ClientStep rules)

/-- What may be logged for a client that goes on from this state. -/
def ClientRules.Logs (rules : ClientRules) (state : ClientState) : ClientEvent → Prop
  | .queued _ msg payload => (state = .command ∨ state = .listen) ∧ rules.tells msg payload
  | .result _ _ => rules.own ∧ (state = .command ∨ state = .listen)
  | .sent _ => rules.own
  | .tunnelled _ => state = .connecting2 ∨ state = .connected
  | _ => False

/-- What a client that goes on keeps, and what it may be sent meanwhile. -/
structure ClientKept (rules : ClientRules) (client client' : MuxClient) (events : List ClientEvent) : Prop where
  state : client'.state = client.state ∨ rules.own ∧ (client.state = .command ∧ client'.state = .listen ∨
    client.state = .connecting2 ∧ client'.state = .connected)
  device : client'.connectDevice = client.connectDevice
  tag : client'.connectTag = client.connectTag
  devents : client'.devents = client.devents
  identity : client'.fd = client.fd ∧ client'.ibCapacity = client.ibCapacity
  input : rules.own ∧ rules.reads ∨ client'.ibBuf = client.ibBuf ∧ client'.ibSize = client.ibSize
  output : client.obBuf.isSome → client'.state ≠ .connected → client'.obBuf.isSome
  events : ∀ event ∈ events, rules.Logs client.state event

namespace ClientKept

variable {rules : ClientRules} {first second third : MuxClient} {events later : List ClientEvent}

private theorem refl (rules : ClientRules) (client : MuxClient) : ClientKept rules client client [] :=
  ⟨.inl rfl, rfl, rfl, rfl, ⟨rfl, rfl⟩, .inr ⟨rfl, rfl⟩, fun known _ => known, by simp⟩

private theorem trans (one : ClientKept rules first second events) (two : ClientKept rules second third later) :
    ClientKept rules first third (events ++ later) where
  state := by
    rcases one.state with same | ⟨mine, from₁ | from₂⟩
    · rw [← same]
      exact two.state
    · rcases two.state with same | ⟨_, from' | from'⟩
      · exact .inr ⟨mine, .inl ⟨from₁.1, same.trans from₁.2⟩⟩
      · simp [from₁.2] at from'
      · simp [from₁.2] at from'
    · rcases two.state with same | ⟨_, from' | from'⟩
      · exact .inr ⟨mine, .inr ⟨from₂.1, same.trans from₂.2⟩⟩
      · simp [from₂.2] at from'
      · simp [from₂.2] at from'
  device := two.device.trans one.device
  tag := two.tag.trans one.tag
  devents := two.devents.trans one.devents
  identity := ⟨two.identity.1.trans one.identity.1, two.identity.2.trans one.identity.2⟩
  input := by
    rcases one.input with mine | same
    · exact .inl mine
    · exact two.input.imp_right fun same' => ⟨same'.1.trans same.1, same'.2.trans same.2⟩
  output := by
    intro buffer unconnected
    refine two.output (one.output buffer fun connected => ?_) unconnected
    rcases two.state with same | ⟨_, from' | from'⟩
    · exact unconnected (same.trans connected)
    · simp [connected] at from'
    · simp [connected] at from'
  events := by
    intro event member
    rcases List.mem_append.mp member with early | late
    · exact one.events event early
    · have logs := two.events event late
      rcases one.state with same | ⟨_, from' | from'⟩
      · rwa [same] at logs
      · rw [from'.2] at logs
        rw [from'.1]
        cases event <;> simp_all [ClientRules.Logs]
      · rw [from'.2] at logs
        rw [from'.1]
        cases event <;> simp_all [ClientRules.Logs]

end ClientKept

/-- A write to the socket that empties the queue of a client in `CONNECTING2` connects it. -/
private theorem MuxClient.dequeue_kept {rules : ClientRules} (mine : rules.own) (client : MuxClient) (queue : Bytes)
    (size : ℕ)
    (bytes : Bytes) : ClientKept rules client (client.dequeue queue size) [.sent bytes] := by
  simp only [MuxClient.dequeue]
  split
  · split
    · next told =>
      exact ⟨.inr ⟨mine, .inr ⟨told, rfl⟩⟩, rfl, rfl, rfl, ⟨rfl, rfl⟩, .inr ⟨rfl, rfl⟩,
        fun _ open_ => absurd rfl open_, by simp [ClientRules.Logs, mine]⟩
    · exact ⟨.inl rfl, rfl, rfl, rfl, ⟨rfl, rfl⟩, .inr ⟨rfl, rfl⟩, fun _ _ => rfl, by simp [ClientRules.Logs, mine]⟩
  · exact ⟨.inl rfl, rfl, rfl, rfl, ⟨rfl, rfl⟩, .inr ⟨rfl, rfl⟩, fun _ _ => rfl, by simp [ClientRules.Logs, mine]⟩

private theorem kept_store {rules : ClientRules} {client client' : MuxClient} (log : List ClientEvent)
    (kept : ClientKept rules client client' []) :
    ∃ first last events, ((some client, log) : ClientView) = (some first, log) ∧
      ((some client', log) : ClientView) = (some last, log ++ events) ∧ ClientKept rules first last events :=
  ⟨client, client', [], rfl, by rw [List.append_nil], kept⟩

private theorem ClientStep.kept {rules : ClientRules} {view view' : ClientView} (change : ClientStep rules view view') :
    ∃ client client' events, view = (some client, view.2) ∧ view' = (some client', view.2 ++ events) ∧
      ClientKept rules client client' events := by
  cases change with
  | queue client log capacity tag msg payload idle posts =>
    exact ⟨client, _, _, rfl, rfl, .inl rfl, rfl, rfl, rfl, ⟨rfl, rfl⟩, .inr ⟨rfl, rfl⟩, fun _ _ => rfl,
      by simp [ClientRules.Logs, idle, posts.said]⟩
  | reply client log capacity tag number msg payload own idle posts answers =>
    exact ⟨client, _, _, rfl, rfl, .inl rfl, rfl, rfl, rfl, ⟨rfl, rfl⟩, .inr ⟨rfl, rfl⟩, fun _ _ => rfl,
      by simp [ClientRules.Logs, own, idle, posts.said]⟩
  | listen client log own _ idle =>
    exact kept_store log ⟨.inr ⟨own, .inl ⟨idle, rfl⟩⟩, rfl, rfl, rfl, ⟨rfl, rfl⟩, .inr ⟨rfl, rfl⟩,
      fun known _ => known, by simp⟩
  | inform client log version info own =>
    exact kept_store log ⟨.inl rfl, rfl, rfl, rfl, ⟨rfl, rfl⟩, .inr ⟨rfl, rfl⟩, fun known _ => known, by simp⟩
  | read client log buffer size own free still =>
    exact kept_store log ⟨.inl rfl, rfl, rfl, rfl, ⟨rfl, rfl⟩, .inl ⟨own, free⟩, fun known _ => known, by simp⟩
  | rest client log own empty unconnected =>
    exact kept_store log ⟨.inl rfl, rfl, rfl, rfl, ⟨rfl, rfl⟩, .inr ⟨rfl, rfl⟩, fun known _ => known, by simp⟩
  | drain client log queue size own buffer positive bound unconnected =>
    exact ⟨client, _, _, rfl, rfl, client.dequeue_kept own queue size _⟩
  | write client log bytes connected =>
    exact ⟨client, _, _, rfl, rfl, .inl rfl, rfl, rfl, rfl, ⟨rfl, rfl⟩, .inr ⟨rfl, rfl⟩, fun known _ => known,
      by simp [ClientRules.Logs, connected]⟩

namespace ClientMove

variable {rules : ClientRules} {view view' : ClientView}

/-- What is known of the client after a move. -/
theorem forward (move : ClientMove rules view view') {client : MuxClient} (present : view.1 = some client) :
    ∃ client' events, view' = (some client', view.2 ++ events) ∧ ClientKept rules client client' events := by
  induction move with
  | refl => exact ⟨client, [], by simp [← present], .refl _ client⟩
  | tail _ change ih =>
    obtain ⟨client₁, events, after, kept⟩ := ih
    obtain ⟨client₂, client', later, before, after', kept'⟩ := change.kept
    rw [after] at before after'
    obtain rfl : client₁ = client₂ := Option.some.inj (congrArg Prod.fst before)
    exact ⟨client', events ++ later, by rw [after', List.append_assoc], kept.trans kept'⟩

theorem gone_eq {log : List ClientEvent} (move : ClientMove rules (none, log) view') : view' = (none, log) := by
  induction move with
  | refl => rfl
  | tail _ change ih =>
    obtain ⟨_, _, _, before, _⟩ := change.kept
    rw [ih] at before
    cases congrArg Prod.fst before

theorem gone_iff (move : ClientMove rules view view') : view.1 = none ↔ view'.1 = none := by
  rcases view with ⟨_ | client, log⟩
  · rw [move.gone_eq]
  · obtain ⟨client', events, after, _⟩ := move.forward rfl
    simp [after]

theorem backward (move : ClientMove rules view view') {client' : MuxClient} (present : view'.1 = some client') :
    ∃ client events, view.1 = some client ∧ view' = (some client', view.2 ++ events) ∧
      ClientKept rules client client' events := by
  rcases known : view.1 with _ | client
  · rw [move.gone_iff.mp known] at present
    cases present
  · obtain ⟨client₁, events, after, kept⟩ := move.forward known
    obtain rfl : client₁ = client' := by simpa [after] using present
    exact ⟨client, events, rfl, after, kept⟩

/-- Moves that are admitted stay admitted when the rules are relaxed. -/
theorem mono {rules' : ClientRules} (move : ClientMove rules view view') (own : rules.own → rules'.own)
    (tells : ∀ msg payload, rules.tells msg payload → rules'.tells msg payload)
    (answers : ∀ number msg payload, rules.answers number msg payload → rules'.answers number msg payload)
    (reads : rules.reads → rules'.reads) (listens : rules.listens → rules'.listens)
    (overran : rules.overran → rules'.overran) : ClientMove rules' view view' := by
  have relax {client : MuxClient} {capacity : UInt32} {msg : MsgType} {payload : Bytes}
      (posts : Posts rules client capacity msg payload) : Posts rules' client capacity msg payload :=
    ⟨tells _ _ posts.said, posts.room.imp_left overran⟩
  refine move.lift id fun _ _ change => ?_
  cases change with
  | queue client log capacity tag msg payload idle posts =>
    exact .queue client log capacity tag msg payload idle (relax posts)
  | reply client log capacity tag number msg payload mine idle posts told =>
    exact .reply client log capacity tag number msg payload (own mine) idle (relax posts) (answers _ _ _ told)
  | listen client log mine free idle => exact .listen client log (own mine) (listens free) idle
  | inform client log version info mine => exact .inform client log version info (own mine)
  | read client log buffer size mine free still => exact .read client log buffer size (own mine) (reads free) still
  | rest client log mine empty unconnected => exact .rest client log (own mine) empty unconnected
  | drain client log queue size mine buffer positive bound unconnected =>
    exact .drain client log queue size (own mine) buffer positive bound unconnected
  | write client log bytes connected => exact .write client log bytes connected

end ClientMove

end Usbmuxd
