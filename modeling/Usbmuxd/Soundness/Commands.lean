import Usbmuxd.Proofs.Reading
import Usbmuxd.Soundness.Pairing

/-! # Commands are framed by their length fields alone

A client sends a stream of commands and `recv` delivers it in pieces of any size. What
`handle_command` gets to see are the frames of the stream, wherever the pieces begin and end, up to
the first length that is too short or too long for the buffer.
-/

namespace Usbmuxd

open History Framing.Format

section Input

variable {lax : Laxity} {served : Option ClientPtr} {S S' : Sys} {k : ClientPtr}

/-- A client that is not read for keeps what is in its command buffer, or is new. -/
private theorem Turn.input (turn : Turn lax served S S' k) (unread : ¬(served = some k ∧ lax.reads))
    {client' : MuxClient}
    (present' : (S'.client k).1 = some client') (buffered : client'.ibBuf.isSome) :
    (k = S.nextClient ∧ client'.ibBuf = some [] ∧ client'.ibSize = 0) ∨
      ∃ client, (S.client k).1 = some client ∧ client'.ibBuf = client.ibBuf ∧ client'.ibSize = client.ibSize := by
  cases turn with
  | moved move =>
    obtain ⟨client, events, present, after, kept⟩ := move.backward present'
    exact .inr ⟨client, present, kept.input.resolve_left unread⟩
  | polled events before after =>
    rw [after] at present'
    obtain rfl := Option.some.inj present'
    exact .inr ⟨_, by rw [before], by simp, by simp⟩
  | accepted fd number next fresh free after =>
    rw [after] at present'
    obtain rfl := Option.some.inj present'
    exact .inl ⟨next, rfl, rfl⟩
  | requested tag device own before idle holds record owner after =>
    rw [after] at present'
    obtain rfl := Option.some.inj present'
    exact .inr ⟨_, congrArg Prod.fst before, rfl, rfl⟩
  | told c devents before pending holds record owner shown posts answers after =>
    rw [after] at present'
    obtain rfl := Option.some.inj present'
    cases buffered
  | refused c before pending foreign holds record owner gone unseen posts answers after =>
    rw [after] at present'
    obtain rfl := Option.some.inj present'
    exact .inr ⟨_, congrArg Prod.fst before, rfl, rfl⟩
  | closed before cause farewell after => simp [after] at present'

private theorem Turn.capacity (turn : Turn lax served S S' k)
    (known : ∀ client, (S.client k).1 = some client → client.ibCapacity = cmdBufSize) {client' : MuxClient}
    (present' : (S'.client k).1 = some client') : client'.ibCapacity = cmdBufSize := by
  cases turn with
  | moved move =>
    obtain ⟨client, events, present, after, kept⟩ := move.backward present'
    rw [kept.identity.2, known client present]
  | @polled client log events before after =>
    rw [after] at present'
    obtain rfl := Option.some.inj present'
    rw [MuxClient.masked_ibCapacity]
    exact known client (by rw [before])
  | accepted fd number next fresh free after =>
    rw [after] at present'
    obtain rfl := Option.some.inj present'
    rfl
  | requested tag device own before idle holds record owner after =>
    rw [after] at present'
    obtain rfl := Option.some.inj present'
    have same := known _ (congrArg Prod.fst before)
    exact same
  | told c devents before pending holds record owner shown posts answers after =>
    rw [after] at present'
    obtain rfl := Option.some.inj present'
    have same := known _ (congrArg Prod.fst before)
    exact same
  | refused c before pending foreign holds record owner gone unseen posts answers after =>
    rw [after] at present'
    obtain rfl := Option.some.inj present'
    have same := known _ (congrArg Prod.fst before)
    exact same
  | closed before cause farewell after => simp [after] at present'

private theorem SysRun.input (changes : SysRun lax served S S') (sound : Sound lax S)
    (unread : ¬(served = some k ∧ lax.reads))
    {client' : MuxClient} (present' : (S'.client k).1 = some client') (buffered : client'.ibBuf.isSome) :
    (S.nextClient ≤ k ∧ client'.ibBuf = some [] ∧ client'.ibSize = 0) ∨
      ∃ client, (S.client k).1 = some client ∧ client'.ibBuf = client.ibBuf ∧ client'.ibSize = client.ibSize := by
  have kept := changes.keeps (motive := fun S' => S.nextClient ≤ S'.nextClient ∧
      ∀ client', (S'.client k).1 = some client' → client'.ibBuf.isSome →
        (S.nextClient ≤ k ∧ client'.ibBuf = some [] ∧ client'.ibSize = 0) ∨
          ∃ client, (S.client k).1 = some client ∧ client'.ibBuf = client.ibBuf ∧ client'.ibSize = client.ibSize) sound
    (fun S₁ S₂ sound change ⟨later, kept⟩ => ⟨later.trans change.nextClient_le, fun client₂ present buffered => ?_⟩)
    ⟨Nat.le_refl _, fun client present _ => .inr ⟨client, present, rfl, rfl⟩⟩
  · exact kept.2 client' present' buffered
  · rcases (change.turn sound.linked.roster k).input unread present buffered
      with ⟨rfl, fresh⟩ | ⟨client₁, present₁, buffer, size⟩
    · exact .inl ⟨later, fresh⟩
    · rw [buffer, size]
      exact kept client₁ present₁ (by rwa [← buffer])

private theorem SysRun.nextClient_le (changes : SysRun lax served S S') : S.nextClient ≤ S'.nextClient := by
  induction changes with
  | refl => exact Nat.le_refl _
  | tail _ change ih => exact ih.trans change.nextClient_le

end Input

private theorem run_ibCapacity (env : Env) (events : List Event) {k : ClientPtr} {client : MuxClient}
    (present : (run env events).clients.client k = some client) : client.ibCapacity = cmdBufSize := by
  have kept := run_keeps anything env events (.inl trivial) (.inl trivial) (.inl trivial) (grants_anything env)
    open_anything (motive := fun S => ∀ k client, (S.client k).1 = some client → client.ibCapacity = cmdBufSize)
    (by simp [Daemon.sys, Daemon.initial, Clients.initial])
    fun served S S' sound change known k client present =>
      (change.turn sound.linked.roster k).capacity (known k) present
  exact kept.2 k client present

/-- An event that does not read for a client leaves its command buffer alone. -/
private theorem step_input (env : Env) {s : Daemon} (sound : Sound anything s.sys) (alive : Alive s.sys) {event : Event}
    {k : ClientPtr} (other : readingClient s event ≠ some k) {client' : MuxClient}
    (present' : (step env s event).clients.client k = some client') (buffered : client'.ibBuf.isSome) :
    (s.clients.nextClient ≤ k ∧ client'.ibBuf = some [] ∧ client'.ibSize = 0) ∨
      ∃ client, s.clients.client k = some client ∧ client'.ibBuf = client.ibBuf ∧ client'.ibSize = client.ibSize := by
  let lax : Laxity := { early := True, poor := True, reads := (readingClient s event).isSome }
  have sound' : Sound lax s.sys := Sound.freely.mp sound
  have admitted : Admitted lax env s event :=
    { accepts := fun _ => trivial, reads := id, arrives := fun _ _ => trivial, ends := fun _ => trivial
      announces := fun _ => ⟨fun _ _ => trivial, trivial, trivial⟩
      polite := .inl trivial, willing := .inl trivial, heard := fun _ _ _ => ⟨trivial, .inl trivial⟩ }
  have grants : Grants env lax := ⟨.inl trivial, fun _ _ _ => trivial, fun _ _ _ _ => trivial⟩
  have steady := step_steady env grants sound' alive admitted
  refine steady.run.input sound' (fun ⟨served, reads⟩ => other ?_) present' buffered
  obtain ⟨k', reading⟩ := Option.isSome_iff_exists.mp reads
  obtain ⟨_, _, _, _, same, _⟩ := step_of_reading env reading
  rw [reading, ← same, served]

private theorem clientClose_gone (env : Env) {k : ClientPtr} {s : Daemon} (listed : k ∈ s.clients.clientList) :
    (clientClose env k s).clients.client k = none := by
  simp only [clientClose, if_pos listed]
  split
  · next gone => exact gone
  · exact Function.update_self ..

private theorem rewound_ibSize {k : ClientPtr} {s : Clients} {client' : MuxClient}
    (found : (s.modify k fun client => { client with ibSize := 0 }).client k = some client') : client'.ibSize = 0 := by
  rcases present : s.client k with _ | client
  · simp [Clients.modify, Clients.fault, present] at found
  · simp only [Clients.modify, present, Clients.setClient, Function.update_self, Option.some.injEq] at found
    rw [← found]

/-- What an event that reads for a client leads to, with the bytes of the current frame it has then. -/
inductive ReadEvent (env : Env) (s : Daemon) (event : Event) (k : ClientPtr) (rest : Bytes) : Prop
  | closed (unhandled : handledFrames env k s event = []) (gone : (step env s event).clients.client k = none)
      (partly : commandFormat.ready rest = false)
  | waiting {client : MuxClient} (unhandled : handledFrames env k s event = [])
      (present : (step env s event).clients.client k = some client) (awaits : client.Awaits rest)
  | handled (handled : handledFrames env k s event = [rest]) (whole : commandFormat.Frame rest)
      (rewound : ∀ client, (step env s event).clients.client k = some client → client.ibSize = 0)

private theorem step_reads (env : Env) {s : Daemon} {event : Event} {k : ClientPtr}
    (reading : readingClient s event = some k)
    {client : MuxClient} (present : s.clients.client k = some client) {rest : Bytes} (awaits : client.Awaits rest) :
    ReadEvent env s event k (rest ++ receivedBytes env k s event) := by
  obtain ⟨_, _, _, listed, _, stepped⟩ := step_of_reading env reading
  have refilled := readCommand_refilled env present
  have received : receivedBytes env k s event = client.receives env s.clients.tick := by
    simp [receivedBytes, reading, present]
  have read := readCommand_spec env present awaits
  have frames : handledFrames env k s event = (readCommand env k s.clients).1.complete := by
    simp [handledFrames, reading]
  rw [← received] at read
  generalize outcome : readCommand env k s.clients = r at read frames refilled
  cases read with
  | closed partly =>
    refine .closed frames ?_ partly
    rw [stepped, inputBufferProcess, outcome]
    exact clientClose_gone env (by rw [← refilled.list] at listed; exact listed)
  | waiting present' awaits' =>
    refine .waiting frames ?_ awaits'
    rw [stepped, inputBufferProcess, outcome]
    exact present'
  | @frame s' bytes whole cut =>
    refine .handled (frames.trans (by rw [Framing.complete, cut])) whole fun client' found => ?_
    rw [stepped, inputBufferProcess, outcome] at found
    exact rewound_ibSize found

/-- Without a command buffer nothing is received and no frame is found. -/
private theorem step_unbuffered (env : Env) {s : Daemon} {event : Event} {k : ClientPtr}
    (reading : readingClient s event = some k)
    {client : MuxClient} (present : s.clients.client k = some client) (without : client.ibBuf = none) :
    receivedBytes env k s event = [] ∧ handledFrames env k s event = [] ∧
      ∀ client', (step env s event).clients.client k = some client' → client'.ibBuf = none := by
  obtain ⟨_, _, _, listed, _, stepped⟩ := step_of_reading env reading
  have refilled := readCommand_refilled env present
  have outcome : (readCommand env k s.clients).1 = .close ∨ (readCommand env k s.clients).1 = .crash := by
    simp only [readCommand, present, receiveCommand, without]
    split
    · exact .inl rfl
    · exact .inr (by simp [readFrame, present, without])
  refine ⟨by simp [receivedBytes, reading, present, MuxClient.receives, MuxClient.recvRange, without], ?_, ?_⟩
  · rcases outcome with outcome | outcome <;> simp [handledFrames, reading, outcome, Framing.complete]
  · intro client' found
    rw [stepped, inputBufferProcess] at found
    rcases outcome with outcome | outcome <;> simp only [outcome] at found
    · rw [clientClose_gone env (by rw [← refilled.list] at listed; exact listed)] at found
      cases found
    · obtain ⟨buffer, size, kept, still⟩ := refilled.state present
      have found : (readCommand env k s.clients).2.client k = some client' := found
      rw [kept] at found
      rw [← Option.some.inj found]
      simpa [without] using still

/-- What is known of the commands of a client after a run. -/
structure CommandsOk (env : Env) (events : List Event) (k : ClientPtr) : Prop where
  reads : ∃ rest, commandFormat.Reads (commandBytes env k events) (commandFrames env k events) rest
  awaits : ∀ client, (run env events).clients.client k = some client → client.ibBuf.isSome →
    ∃ rest, client.Awaits rest ∧ commandFormat.Reads (commandBytes env k events) (commandFrames env k events) rest
  fresh : (run env events).clients.nextClient ≤ k → commandBytes env k events = [] ∧ commandFrames env k events = []

section Commands

variable {env : Env} {before : List Event} {event : Event} {k : ClientPtr}

private theorem commandBytes_snoc : commandBytes env k (before ++ [event]) =
    commandBytes env k before ++ receivedBytes env k (run env before) event := gather_snoc ..

private theorem commandFrames_snoc : commandFrames env k (before ++ [event]) =
    commandFrames env k before ++ handledFrames env k (run env before) event := gather_snoc ..

private theorem MuxClient.Awaits.nil {client : MuxClient} (capacity : client.ibCapacity = cmdBufSize)
    (buffered : client.ibBuf.isSome) (empty : client.ibSize = 0) : client.Awaits [] := by
  obtain ⟨buffer, stored⟩ := Option.isSome_iff_exists.mp buffered
  exact ⟨capacity, ⟨buffer, stored, by simp [empty], by simp [empty]⟩, rfl, by simp⟩

private theorem CommandsOk.skip (ok : CommandsOk env before k) (other : readingClient (run env before) event ≠ some k) :
    CommandsOk env (before ++ [event]) k := by
  obtain ⟨sound, alive⟩ := run_sound_anything env before
  have bytes : commandBytes env k (before ++ [event]) = commandBytes env k before := by
    simp [commandBytes_snoc, receivedBytes, other]
  have frames : commandFrames env k (before ++ [event]) = commandFrames env k before := by
    simp [commandFrames_snoc, handledFrames, other]
  refine ⟨by rw [bytes, frames]; exact ok.reads, fun client' present' buffered => ?_, fun late => ?_⟩
  · have capacity := run_ibCapacity env (before ++ [event]) present'
    rw [bytes, frames]
    rw [run_snoc] at present'
    rcases step_input env sound alive other present' buffered with ⟨late, _, empty⟩ | ⟨client, present, buffer, size⟩
    · obtain ⟨nothing, none⟩ := ok.fresh late
      rw [nothing, none]
      exact ⟨[], .nil capacity buffered empty, .start⟩
    · obtain ⟨rest, awaits, reads⟩ := ok.awaits client present (by rwa [← buffer])
      refine ⟨rest, ⟨capacity, ?_, awaits.partly, awaits.admitted⟩, reads⟩
      rw [buffer, size]
      exact awaits.stored
  · rw [bytes, frames]
    exact ok.fresh ((run_snoc_anything env before event).nextClient_le.trans late)

private theorem CommandsOk.read (ok : CommandsOk env before k) (reading : readingClient (run env before) event = some k)
    :
    CommandsOk env (before ++ [event]) k := by
  obtain ⟨client, present, _, listed, _⟩ := step_of_reading env reading
  have roster := (run_sound_anything env before).1.linked.roster
  have known : ¬(run env (before ++ [event])).clients.nextClient ≤ k := fun late => by
    have fresh := roster.fresh k ((run_snoc_anything env before event).nextClient_le.trans late)
    have absent : (run env before).clients.client k = none := congrArg Prod.fst fresh
    simp [absent] at present
  rw [run_snoc] at known
  rcases buffered : client.ibBuf with _ | buffer
  · obtain ⟨nothing, none, without⟩ := step_unbuffered env reading present buffered
    refine ⟨?_, fun client' present' still => ?_, fun late => absurd late (by rwa [run_snoc])⟩
    · rw [commandBytes_snoc, commandFrames_snoc, nothing, none, List.append_nil, List.append_nil]
      exact ok.reads
    · rw [run_snoc] at present'
      simp [without client' present'] at still
  · obtain ⟨rest, awaits, reads⟩ := ok.awaits client present (by simp [buffered])
    refine ⟨?_, fun client' present' still => ?_, fun late => absurd late (by rwa [run_snoc])⟩
    · rw [commandBytes_snoc, commandFrames_snoc]
      cases step_reads env reading present awaits with
      | closed unhandled gone partly => exact ⟨_, by rw [unhandled, List.append_nil]; exact reads.extend partly⟩
      | waiting unhandled present' awaits' =>
        exact ⟨_, by rw [unhandled, List.append_nil]; exact reads.extend awaits'.partly⟩
      | handled handled whole rewound => exact ⟨[], by rw [handled]; exact reads.complete whole⟩
    · have capacity := run_ibCapacity env (before ++ [event]) present'
      rw [commandBytes_snoc, commandFrames_snoc]
      rw [run_snoc] at present'
      cases step_reads env reading present awaits with
      | closed unhandled gone partly => simp [gone] at present'
      | waiting unhandled found awaits' =>
        obtain rfl := Option.some.inj (present'.symm.trans found)
        exact ⟨_, awaits', by rw [unhandled, List.append_nil]; exact reads.extend awaits'.partly⟩
      | handled handled whole rewound =>
        exact ⟨[], .nil capacity still (rewound client' present'), by rw [handled]; exact reads.complete whole⟩

private theorem run_commandsOk (env : Env) (events : List Event) (k : ClientPtr) : CommandsOk env events k := by
  induction events using List.reverseRecOn with
  | nil => exact ⟨⟨[], .start⟩, by simp [run, Daemon.initial, Clients.initial], fun _ => ⟨rfl, rfl⟩⟩
  | append_singleton before event ih =>
    by_cases reading : readingClient (run env before) event = some k
    · exact ih.read reading
    · exact ih.skip reading

end Commands

/-- What one call of `input_buffer_process` for a client does. -/
structure CommandCall (env : Env) (before : List Event) (event : Event) (k : ClientPtr) (client : MuxClient) :
    Prop where
  /-- `recv` is asked for the rest of the header or of the frame, and the buffer has room for it. -/
  range : ∀ buffer offset len, client.ibBuf = some buffer → client.recvRange = some (offset, len) →
    offset = client.ibSize.toNat ∧ offset + len ≤ client.ibCapacity.toNat ∧
      (offset + len = 16 ∨ 16 ≤ client.ibSize ∧ offset + len = (le32At buffer 0).toNat)
  /-- When a frame is handled, nothing behind it has been received. -/
  exactly : handledFrames env k (run env before) event ≠ [] →
    commandBytes env k (before ++ [event]) = (commandFrames env k (before ++ [event])).flatten
  /-- When the header announces a length that is not admitted, the client is closed and nothing handled. -/
  rejected : ∀ rest, commandBytes env k (before ++ [event]) =
    (commandFrames env k (before ++ [event])).flatten ++ rest →
    16 ≤ rest.length → (le32At rest 0).toNat < 16 ∨ 65536 < (le32At rest 0).toNat →
      (run env (before ++ [event])).clients.client k = none ∧ handledFrames env k (run env before) event = []

/-- The commands of a client after a run. -/
structure CommandStream (env : Env) (events : List Event) (k : ClientPtr) : Prop where
  /-- The frames handled are the frames of the stream. -/
  frames : commandFrames env k events =
    (commandFormat.parse (commandBytes env k events).length (commandBytes env k events)).1
  /-- What is left of the stream is in the command buffer. -/
  buffered : ∀ client buffer, (run env events).clients.client k = some client → client.ibBuf = some buffer →
    commandBytes env k events = (commandFrames env k events).flatten ++ buffer.take client.ibSize.toNat
  calls : Each (fun before event => ∀ client, readingClient (run env before) event = some k →
    (run env before).clients.client k = some client → client.ibBuf.isSome → CommandCall env before event k client)
    events

private theorem commandCall (env : Env) {before : List Event} {event : Event} {k : ClientPtr} {client : MuxClient}
    (reading : readingClient (run env before) event = some k)
    (present : (run env before).clients.client k = some client)
    (buffered : client.ibBuf.isSome) : CommandCall env before event k client := by
  obtain ⟨rest, awaits, reads⟩ := (run_commandsOk env before k).awaits client present buffered
  have stream := reads.split
  have bytes : commandBytes env k (before ++ [event]) = (commandFrames env k before).flatten ++
      (rest ++ receivedBytes env k (run env before) event) := by
    rw [commandBytes_snoc, stream, List.append_assoc]
  have read := step_reads env reading present awaits
  refine ⟨fun buffer offset len stored range => ?_, fun handled => ?_, fun remainder split header bad => ?_⟩
  · obtain ⟨place, room, limit⟩ := awaits.range range
    have length := awaits.length_eq
    obtain ⟨buffer', stored', inside, taken⟩ := awaits.stored
    obtain rfl := Option.some.inj (stored.symm.trans stored')
    rw [awaits.capacity]
    refine ⟨place.trans length, room, limit.imp_right fun ⟨header, limit⟩ => ?_⟩
    rw [length] at header
    rw [limit, ← taken, commandFormat_size_take (by omega) inside]
    exact ⟨UInt32.le_iff_toNat_le.mpr header, rfl⟩
  · cases read with
    | closed unhandled => exact absurd unhandled handled
    | waiting unhandled => exact absurd unhandled handled
    | handled only whole rewound => rw [bytes, commandFrames_snoc, only, List.flatten_concat]
  · rw [bytes, commandFrames_snoc] at split
    rw [run_snoc]
    cases read with
    | closed unhandled gone partly => exact ⟨gone, unhandled⟩
    | waiting unhandled present' awaits' =>
      rw [unhandled, List.append_nil] at split
      obtain rfl := List.append_cancel_left split
      have admitted := (commandFormat_admits _).mp (awaits'.admitted header)
      rw [commandFormat_size] at admitted
      omega
    | handled only whole rewound =>
      rw [only, List.flatten_concat] at split
      have none := List.self_eq_append_right.mp split
      simp [none] at header

/-- Every client in every run: however the pieces fall, the frames that are handled are those of the
stream, up to the first length that is not admitted. -/
theorem commands_independent_of_chunking (env : Env) (events : List Event) (k : ClientPtr) :
    CommandStream env events k := by
  have ok := run_commandsOk env events k
  refine ⟨?_, fun client buffer present stored => ?_, fun before event after split client reading present buffered =>
    commandCall env reading present buffered⟩
  · obtain ⟨rest, reads⟩ := ok.reads
    rw [reads.parse_eq]
  · obtain ⟨rest, awaits, reads⟩ := ok.awaits client present (by simp [stored])
    obtain ⟨buffer', stored', _, rfl⟩ := awaits.stored
    obtain rfl := Option.some.inj (stored.symm.trans stored')
    exact reads.split

/-- In the session a `Connect` command arrives in two pieces. -/
example : commandBytes sessionEnv 0 session = connectFrame 1 62078 ∧
    commandFrames sessionEnv 0 session = [connectFrame 1 62078] := by
  decide +kernel

end Usbmuxd
