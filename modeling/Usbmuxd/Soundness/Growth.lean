import Usbmuxd.Soundness.Output

/-! # The growth of output buffers

`output_buffer_add_message` enlarges the buffer of a client that does not read, by 32-bit arithmetic. All
messages stay within it as long as the sum behind the new size does not wrap around; a client that has
let nearly 4 GiB of replies pile up gets a smaller buffer instead of a larger one.
-/

namespace Usbmuxd

open History

/-- A message for a client. -/
structure Message where
  tag : UInt32
  msg : MsgType
  payload : Bytes

/-- Queue a message. -/
def queueMessage (env : Env) (k : ClientPtr) (s : Clients) (m : Message) : ℤ × Clients :=
  outputBufferAddMessage env k m.tag m.msg m.payload s

/-- Queue messages one after another, whatever the results are. -/
def queueAll (env : Env) (k : ClientPtr) (s : Clients) (messages : List Message) : Clients :=
  messages.foldl (fun s m => (queueMessage env k s m).2) s

private theorem queueAll_snoc (env : Env) (k : ClientPtr) (s : Clients) (before : List Message) (m : Message) :
    queueAll env k s (before ++ [m]) = (queueMessage env k (queueAll env k s before) m).2 := by
  rw [queueAll, List.foldl_append]
  rfl

/-- The part of the buffer that is filled lies within it. -/
def Clients.Bounded (s : Clients) (k : ClientPtr) : Prop :=
  ∀ client ∈ s.client k, client.obSize ≤ client.obCapacity

instance (s : Clients) (k : ClientPtr) : Decidable (s.Bounded k) :=
  inferInstanceAs (Decidable (∀ client ∈ s.client k, client.obSize ≤ client.obCapacity))

/-- A message that is queued is counted and lies within the buffer; otherwise nothing has happened to the
clients. -/
def SoundlyQueued (k : ClientPtr) (s : Clients) (m : Message) (r : ℤ × Clients) : Prop :=
  (r.1 = -1 ∧ r.2.client = s.client) ∨
    ∃ client client', s.client k = some client ∧ r.2.client k = some client' ∧
      client'.obSize.toNat = client.obSize.toNat + 16 + m.payload.length ∧ client'.obSize ≤ client'.obCapacity

section Queueing

variable (env : Env) {k : ClientPtr} {s : Clients}

private theorem queueMessage_sound (m : Message) (bounded : s.Bounded k)
    (room : ∀ client ∈ s.client k, client.Extensible m.payload) :
    SoundlyQueued k s m (queueMessage env k s m) ∧ (queueMessage env k s m).2.Bounded k ∧
      (.overrun k ∈ (queueMessage env k s m).2.faults → .overrun k ∈ s.faults) := by
  rcases present : s.client k with _ | client
  · have result : queueMessage env k s m = (-1, s.fault (.releasedClient k)) := by
      rw [queueMessage, outputBufferAddMessage, present]
    rw [result]
    exact ⟨.inl ⟨rfl, rfl⟩, bounded, fun member => by simpa [Clients.fault] using member⟩
  · obtain ⟨outcome, faults⟩ := outputBufferAddMessage_appends env present (bounded client present)
      (room client present)
      m.tag m.msg
    refine ⟨?_, fun other there => ?_, faults⟩
    · rcases outcome with ⟨failed, same, -⟩ | ⟨client', there, appended⟩
      · exact .inl ⟨failed, same⟩
      · exact .inr ⟨client, client', present, there, appended.size, appended.inside⟩
    · rcases outcome with ⟨-, same, -⟩ | ⟨client', there', appended⟩
      · exact bounded other (by rw [← same]; exact there)
      · obtain rfl := Option.some.inj (there'.symm.trans there)
        exact appended.inside

end Queueing

/-- A client that has just been accepted. -/
def oneClient : Clients := Clients.initial.setClient 0 (newClient 5 0)

/-- A long reply, which is counted as 65535 bytes. -/
def longReply : Message := ⟨7, .plist, List.replicate 65519 0⟩

/-- A longer one. -/
def longerReply : Message := ⟨7, .plist, List.replicate 69616 0⟩

section Wrapping

variable {env : Env} {k : ClientPtr} {s : Clients} {client : MuxClient}

private theorem queueMessage_appends (m : Message) (memory : ∀ n, (env.sock n).alloc = true)
    (present : s.client k = some client)
    (inside : client.obSize ≤ client.obCapacity) (buffer : client.obBuf.isSome) (room : client.Extensible m.payload) :
    ∃ client', (queueMessage env k s m).2.client k = some client' ∧ client.Appended m.payload client' := by
  obtain ⟨⟨-, -, refused | gone⟩ | appended, -⟩ := outputBufferAddMessage_appends env present inside room m.tag m.msg
  · simp [memory] at refused
  · simp [gone] at buffer
  · exact appended

/-- Every long reply but the first enlarges the buffer by 65536 bytes. -/
private theorem longReplies_sizes (memory : ∀ n, (env.sock n).alloc = true) {n : ℕ} (few : n < 65535) :
    ∃ client, (queueAll env 0 oneClient (List.replicate (n + 1) longReply)).client 0 = some client ∧
      client.obSize.toNat = 65535 * (n + 1) ∧ client.obCapacity.toNat = 65536 * (n + 1) ∧ client.obBuf.isSome := by
  have length : longReply.payload.length = 65519 := by simp only [longReply, List.length_replicate]
  generalize longReply = m at length
  induction n with
  | zero =>
    have present : oneClient.client 0 = some (newClient 5 0) := rfl
    have size : (newClient 5 0).obSize.toNat = 0 := rfl
    have capacity : (newClient 5 0).obCapacity.toNat = 65536 := rfl
    obtain ⟨client, there, appended⟩ := queueMessage_appends m memory present (by decide) rfl
      ⟨by omega, .inl (by omega)⟩
    have total := appended.size
    have same := appended.capacity
    rw [if_neg (by omega)] at same
    have first : queueAll env 0 oneClient (List.replicate (0 + 1) m) = (queueMessage env 0 oneClient m).2 := by
      rw [Nat.zero_add, List.replicate_one, queueAll, List.foldl_cons, List.foldl_nil]
    exact ⟨client, first ▸ there, by omega, by omega, appended.buffer⟩
  | succ n ih =>
    obtain ⟨client, present, size, capacity, buffer⟩ := ih (by omega)
    obtain ⟨client', there, appended⟩ := queueMessage_appends m memory present
      (UInt32.le_iff_toNat_le.mpr (by omega)) buffer ⟨by omega, .inr (by omega)⟩
    rw [← queueAll_snoc, ← List.replicate_succ'] at there
    refine ⟨client', there, ?_, ?_, appended.buffer⟩
    · rw [appended.size, size, length]
      omega
    · rw [appended.capacity, size, capacity, length, if_pos (by omega)]
      omega

private theorem longReplies_full (memory : ∀ n, (env.sock n).alloc = true) {n : ℕ} (count : n = 65536) :
    ∃ client, (queueAll env 0 oneClient (List.replicate n longReply)).client 0 = some client ∧
      client.obSize = 4294901760 ∧ client.obCapacity = 4294901760 := by
  obtain ⟨p, rfl⟩ : ∃ p, n = p + 1 + 1 := ⟨n - 2, by omega⟩
  have length : longReply.payload.length = 65519 := by simp only [longReply, List.length_replicate]
  obtain ⟨client, present, size, capacity, buffer⟩ := longReplies_sizes memory (show p < 65535 by omega)
  obtain ⟨client', there, appended⟩ := queueMessage_appends longReply memory present
    (UInt32.le_iff_toNat_le.mpr (by omega)) buffer ⟨by omega, .inl (by omega)⟩
  rw [← queueAll_snoc, ← List.replicate_succ'] at there
  refine ⟨client', there, UInt32.toNat_inj.mp ?_, UInt32.toNat_inj.mp ?_⟩
  · rw [appended.size, size, length, show UInt32.toNat 4294901760 = 4294901760 from rfl]
    omega
  · rw [appended.capacity, size, capacity, length, if_neg (by omega),
      show UInt32.toNat 4294901760 = 4294901760 from rfl]
    omega

private theorem queueMessage_wraps {m : Message} (memory : ∀ n, (env.sock n).alloc = true)
    (present : s.client k = some client)
    (length : m.payload.length = 69616) (size : client.obSize = 4294901760)
    (capacity : client.obCapacity = 4294901760) :
    ∃ client', (queueMessage env k s m).2.client k = some client' ∧ 0 ≤ (queueMessage env k s m).1 ∧
      client'.obSize = 4096 ∧ client'.obCapacity = 8192 ∧ .overrun k ∈ (queueMessage env k s m).2.faults := by
  have header : MuxClient.messageLength m.payload = 69632 := by
    rw [MuxClient.messageLength, length]
    rfl
  have grown : client.enlarged m.payload = 8192 := by
    rw [MuxClient.enlarged, capacity, header]
    rfl
  simp only [queueMessage, outputBufferAddMessage, present, header, size, capacity, memory, grown]
  rw [if_pos (by decide), if_pos trivial]
  have positive : 0 ≤ asInt 69632 := by decide
  refine ⟨_, Function.update_self .., positive, ?_, rfl, ?_⟩
  · simp only [MuxClient.enqueue, header]
    rfl
  · rw [Clients.checkRoom, if_neg (by simp [length])]
    simp [Clients.fault, Clients.setClient, Clients.logClient]

end Wrapping

/-- Every message that is queued for a client that does not read is counted and lies within its buffer, or
nothing has happened to the client, provided that each of them fits or that the sum of its size, of the
capacity and of 4096 is below 4 GiB. Then nothing is ever written past the end of the buffer. -/
theorem output_growth_sound (env : Env) (k : ClientPtr) (s : Clients) (messages : List Message) (bounded : s.Bounded k)
    (room : Each
      (fun before m => ∀ client ∈ (queueAll env k s before).client k, client.Extensible m.payload) messages) :
    Each (fun before m => SoundlyQueued k (queueAll env k s before) m (queueMessage env k (queueAll env k s before) m))
        messages ∧
      (queueAll env k s messages).Bounded k ∧
      (.overrun k ∈ (queueAll env k s messages).faults → .overrun k ∈ s.faults) := by
  induction messages using List.reverseRecOn with
  | nil => exact ⟨each_nil _, bounded, id⟩
  | append_singleton before m ih =>
    obtain ⟨sound, inside, faults⟩ := ih room.of_append
    obtain ⟨queued, inside', faults'⟩ := queueMessage_sound env m inside room.last
    rw [queueAll_snoc]
    exact ⟨each_snoc sound queued, inside', fun member => faults (faults' member)⟩

/-- The second of two long replies makes the buffer grow, and it is queued soundly. -/
theorem two_replies_sound :
    ∃ client, (queueAll sessionEnv 0 oneClient [longReply, longReply]).client 0 = some client ∧
      client.obSize.toNat = 131070 ∧ client.obCapacity.toNat = 131072 ∧
      SoundlyQueued 0 (queueAll sessionEnv 0 oneClient [longReply]) longReply
        (queueMessage sessionEnv 0 (queueAll sessionEnv 0 oneClient [longReply]) longReply) ∧
      .overrun 0 ∉ (queueAll sessionEnv 0 oneClient [longReply, longReply]).faults := by
  have memory (n : ℕ) : (sessionEnv.sock n).alloc = true := rfl
  have length : longReply.payload.length = 65519 := by simp only [longReply, List.length_replicate]
  obtain ⟨one, there, size, capacity, -⟩ := longReplies_sizes memory (n := 0) (by decide)
  obtain ⟨two, there', size', capacity', -⟩ := longReplies_sizes memory (n := 1) (by decide)
  -- only the length of the reply matters
  generalize longReply = reply at length there there' ⊢
  have room : Each (fun before m =>
      ∀ client ∈ (queueAll sessionEnv 0 oneClient before).client 0, client.Extensible m.payload)
      ([] ++ [reply] ++ [reply]) := by
    refine each_snoc (each_snoc (each_nil _) fun client fresh => ?_) fun client grown => ?_
    · obtain rfl : newClient 5 0 = client := Option.some.inj fresh
      exact ⟨by omega, .inl (by rw [length]; decide)⟩
    · obtain rfl := Option.some.inj (there.symm.trans grown)
      exact ⟨by omega, .inr (by omega)⟩
  obtain ⟨sound, -, faults⟩ := output_growth_sound sessionEnv 0 oneClient _ (by decide +kernel) room
  exact ⟨two, there', size', capacity', sound [reply] reply [] rfl,
    fun member => absurd (faults member) (by decide)⟩

/-- The 65536 long replies fill the buffer exactly. For the next one it is replaced by a buffer of 8192
bytes, into which the reply is written at 4294901760, and `ob_size` starts again at 4096. -/
theorem output_growth_wraps :
    ∃ client client', (queueAll sessionEnv 0 oneClient (List.replicate 65536 longReply)).client 0 = some client ∧
      client.obSize = 4294901760 ∧ client.obCapacity = 4294901760 ∧
      (queueMessage sessionEnv 0 (queueAll sessionEnv 0 oneClient (List.replicate 65536 longReply))
        longerReply).2.client 0 =
        some client' ∧
      0 ≤ (queueMessage sessionEnv 0 (queueAll sessionEnv 0 oneClient (List.replicate 65536 longReply)) longerReply).1 ∧
      client'.obSize = 4096 ∧ client'.obCapacity = 8192 ∧
      .overrun 0 ∈ (queueMessage sessionEnv 0 (queueAll sessionEnv 0 oneClient (List.replicate 65536 longReply))
        longerReply).2.faults := by
  have memory (n : ℕ) : (sessionEnv.sock n).alloc = true := rfl
  have length : longerReply.payload.length = 69616 := by simp only [longerReply, List.length_replicate]
  obtain ⟨client, present, size, capacity⟩ := longReplies_full memory (Eq.refl 65536)
  obtain ⟨client', there, result, small, smaller, overrun⟩ := queueMessage_wraps memory present length size capacity
  exact ⟨client, client', present, size, capacity, there, result, small, smaller, overrun⟩

end Usbmuxd
