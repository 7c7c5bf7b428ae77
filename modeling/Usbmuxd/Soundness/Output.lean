import Usbmuxd.Machine.Sessions
import Usbmuxd.Proofs.MessageLayout
import Usbmuxd.Soundness.Masks

/-! # What a client receives

One socket carries framed replies first and raw tunnel bytes afterwards, and nothing marks the place
where one ends and the other begins except the length fields. What has left and what waits are the
messages queued so far, and cutting the stream by its length fields gives them back, with the tunnel
behind them.
-/

namespace Usbmuxd

open History ClientLog

/-- The tunnel was opened behind a message that reports success and was the last to be queued. -/
def HandedOver (env : Env) (log : List ClientEvent) : Prop :=
  ∃ before tag msg payload sents tunnels,
    log = before ++ .queued tag msg payload :: .result tag resultOk :: (sents ++ tunnels) ∧
      ResultMessage env resultOk msg payload ∧ Untunnelled before ∧ (∀ event ∈ sents, event.isSent) ∧
        ∀ event ∈ tunnels, event.isTunnelled ∨ event = .closed

/-- The stream to a client with `queue` still unsent: sent and unsent bytes are the messages queued,
and cutting the stream by its length fields gives them back with the tunnel behind them. Tunnel bytes
only come once everything is sent. -/
structure OutputOk (env : Env) (log : List ClientEvent) (queue : Bytes) : Prop where
  stream : ∃ frames, List.Forall₂ FrameOf frames (messages log) ∧ sent log ++ queue = frames.flatten ∧
    (usbmuxdFormat (2 ^ 32 - 1)).parse (messages log).length (sent log ++ queue ++ ClientLog.tunnel log) =
      (frames, ClientLog.tunnel log) ∧
    frames.map readMessage = (messages log).map fun message => (message.1, message.2.1.code, message.2.2)
  order : Untunnelled log ∨ queue = [] ∧ HandedOver env log

private theorem Stream.frames {log : List ClientEvent} {queue : Bytes} (stream : Stream log queue) (short : Short log) :
    ∃ frames, List.Forall₂ FrameOf frames (messages log) ∧ sent log ++ queue = frames.flatten := by
  obtain ⟨frames, encoded, equal⟩ := stream
  have known : List.Forall₂ (fun message frame => message.2.2.length < 2 ^ 31 ∧ Encodes frame message) (messages log)
      frames := (List.forall₂_and_left _ _).mpr ⟨short, encoded.flip⟩
  exact ⟨frames, known.flip.imp fun frame message ⟨short, encodes⟩ => encodes.frameOf short, equal⟩

private theorem Stream.outputOk {env : Env} {log : List ClientEvent} {queue : Bytes} (stream : Stream log queue)
    (short : Short log)
    (order : Untunnelled log ∨ queue = [] ∧ HandedOver env log) : OutputOk env log queue := by
  obtain ⟨frames, encoded, equal⟩ := stream.frames short
  have whole : ∀ frame ∈ frames, (usbmuxdFormat (2 ^ 32 - 1)).Frame frame :=
    ((List.forall₂_and_left _ _).mp (encoded.imp fun _ _ encoded => ⟨encoded.whole, encoded⟩)).1
  refine ⟨⟨frames, encoded, equal, ?_, ?_⟩, order⟩
  · rw [equal, ← encoded.length_eq, ← Nat.add_zero frames.length, Framing.Format.parse_append whole]
    simp [Framing.Format.parse]
  · rw [← List.forall₂_eq_eq_eq, List.forall₂_map_left_iff, List.forall₂_map_right_iff]
    exact encoded.imp fun _ _ encoded => encoded.read

private theorem Tunnelling.handedOver {env : Env} {log : List ClientEvent} (tunnelling : Tunnelling log)
    (replied : Replied (ResultMessage env) log) : HandedOver env log := by
  obtain ⟨_, tunnels, rfl, ⟨before, tag, msg, payload, sents, rfl, clean, only⟩, all⟩ := tunnelling
  obtain ⟨front, msg', payload', last, result⟩ :=
    replied (before ++ [.queued tag msg payload]) (.result tag resultOk) (sents ++ tunnels) (by simp) tag resultOk rfl
  obtain ⟨_, _, rfl, rfl⟩ : front = before ∧ tag = tag ∧ msg' = msg ∧ payload' = payload := by
    obtain ⟨same, entry⟩ := List.append_inj' last rfl
    simpa [same, eq_comm] using entry
  exact ⟨before, tag, msg', payload', sents, tunnels, by simp, result, clean, only,
    fun event member => .inl (all event member)⟩

private theorem HandedOver.closed {env : Env} {log : List ClientEvent} (handed : HandedOver env log) :
    HandedOver env (log ++ [.closed]) := by
  obtain ⟨before, tag, msg, payload, sents, tunnels, rfl, result, clean, only, all⟩ := handed
  refine ⟨before, tag, msg, payload, sents, tunnels ++ [.closed], by simp, result, clean, only, fun event member => ?_⟩
  exact (List.mem_append.mp member).elim (all event) fun last => .inr (List.mem_singleton.mp last)

section Clients

variable {env : Env} {client : MuxClient} {log : List ClientEvent}

private theorem ClientOk.delivers {overran : Prop} (ok : ClientOk overran client log) (intact : ¬overran)
    (replied : Replied (ResultMessage env) log) :
    OutputOk env log (client.obBuf.getD []) ∧ client.obSize.toNat = (client.obBuf.getD []).length ∧
      (client.state = .connected → client.obBuf = none ∧ HandedOver env log) ∧
      (client.state ≠ .connected → Untunnelled log) := by
  have connected (state : client.state = .connected) : client.obBuf = none ∧ HandedOver env log := by
    have shape := ok.shape
    have output := ok.output
    rw [state] at shape output
    exact ⟨by simpa using output, Tunnelling.handedOver shape replied⟩
  have unconnected (state : client.state ≠ .connected) : Untunnelled log := by
    have shape := ok.shape
    cases h : client.state <;> rw [h] at shape
    case connected => exact absurd h state
    case connecting2 => exact Told.untunnelled shape
    all_goals exact shape
  refine ⟨ok.stream.outputOk (ok.short.resolve_left intact) ?_, (ok.sizes.resolve_left intact).size, connected,
    unconnected⟩
  by_cases state : client.state = .connected
  · obtain ⟨gone, handed⟩ := connected state
    exact .inr ⟨by rw [gone]; rfl, handed⟩
  · exact .inl (unconnected state)

private theorem ClosedOk.delivers {overran : Prop} (ok : ClosedOk overran log) (intact : ¬overran)
    (replied : Replied (ResultMessage env) log) : ∃ queue, OutputOk env log queue := by
  rcases ok with rfl | ⟨front, queue, rfl, stream, shape, short⟩
  · exact ⟨[], Stream.nil.outputOk (by simp [Short]) (.inl (by simp [Untunnelled]))⟩
  · have short' : Short (front ++ [.closed]) := (short.resolve_left intact).other (by simp)
    refine ⟨queue, (stream.other rfl rfl).outputOk short' ?_⟩
    rcases shape with clean | ⟨sent, tunnelling⟩
    · exact .inl (clean.snoc rfl)
    · exact .inr ⟨sent, (tunnelling.handedOver replied.of_append).closed⟩

end Clients

/-- A message fits into the buffer, or the size that the buffer is enlarged to does not wrap around. -/
def MuxClient.Extensible (client : MuxClient) (payload : Bytes) : Prop :=
  payload.length < 2 ^ 31 ∧ (16 + payload.length ≤ client.obCapacity.toNat - client.obSize.toNat ∨
    client.obCapacity.toNat + 16 + payload.length + 4096 < 2 ^ 32)

instance (client : MuxClient) (payload : Bytes) : Decidable (client.Extensible payload) :=
  inferInstanceAs (Decidable (_ ∧ _))

/-- A message was appended within the buffer, which was enlarged for it if it had to be. -/
structure MuxClient.Appended (client : MuxClient) (payload : Bytes) (client' : MuxClient) : Prop where
  size : client'.obSize.toNat = client.obSize.toNat + 16 + payload.length
  inside : client'.obSize ≤ client'.obCapacity
  capacity : client'.obCapacity.toNat =
    if client.obCapacity.toNat - client.obSize.toNat < 16 + payload.length then
      (client.obCapacity.toNat + 16 + payload.length + 4096) / 4096 * 4096
    else client.obCapacity.toNat
  buffer : client'.obBuf.isSome

/-- `output_buffer_add_message` fails for lack of memory or of a buffer and leaves the client as it is, or
it appends the message within the buffer. -/
theorem outputBufferAddMessage_appends (env : Env) {k : ClientPtr} {s : Clients} {client : MuxClient} {payload : Bytes}
    (present : s.client k = some client) (inside : client.obSize ≤ client.obCapacity) (room : client.Extensible payload)
    (tag : UInt32) (msg : MsgType) :
    let r := outputBufferAddMessage env k tag msg payload s
    ((r.1 = -1 ∧ r.2.client = s.client ∧ ((env.sock s.tick).alloc = false ∨ client.obBuf = none)) ∨
        ∃ client', r.2.client k = some client' ∧ client.Appended payload client') ∧
      (.overrun k ∈ r.2.faults → .overrun k ∈ s.faults) := by
  obtain ⟨short, room⟩ := room
  have below := UInt32.le_iff_toNat_le.mp inside
  have length := messageLength_toNat short
  have available : (client.obCapacity - client.obSize).toNat = client.obCapacity.toNat - client.obSize.toNat :=
    UInt32.toNat_sub_of_le _ _ inside
  have limit := client.obCapacity.toNat_lt
  have size (fits : client.obSize.toNat + (16 + payload.length) < 2 ^ 32) :
      (client.obSize + MuxClient.messageLength payload).toNat = client.obSize.toNat + 16 + payload.length := by
    rw [UInt32.toNat_add, length, Nat.mod_eq_of_lt fits]
    omega
  simp only [outputBufferAddMessage, present, UInt32.lt_iff_toNat_lt, length, available]
  split
  · next full =>
    have bounded := room.resolve_left (Nat.not_le.mpr full)
    split
    · have sum : (client.obCapacity + MuxClient.messageLength payload + 4096).toNat =
          client.obCapacity.toNat + 16 + payload.length + 4096 := by
        rw [UInt32.toNat_add, UInt32.toNat_add, length]
        simp
        omega
      have grown : (client.enlarged payload).toNat =
          (client.obCapacity.toNat + 16 + payload.length + 4096) / 4096 * 4096 := by
        rw [MuxClient.enlarged, UInt32.toNat_mul, UInt32.toNat_div, sum]
        simp
        omega
      have total := size (by omega)
      rw [Clients.checkRoom, if_pos ⟨short, by simp only [grown]; omega⟩]
      refine ⟨.inr ⟨_, Function.update_self .., total, ?_, ?_, rfl⟩, id⟩
      · rw [UInt32.le_iff_toNat_le]
        exact total ▸ grown ▸ (by omega)
      · rw [if_pos full]
        exact grown
    · next refused => exact ⟨.inl ⟨rfl, rfl, .inl (by simpa using refused)⟩, id⟩
  · next fits =>
    split
    · next gone => exact ⟨.inl ⟨rfl, rfl, .inr gone⟩, fun member => by simpa [Clients.fault] using member⟩
    · have total := size (by omega)
      rw [Clients.checkRoom, if_pos ⟨short, by omega⟩]
      refine ⟨.inr ⟨_, Function.update_self .., total, ?_, ?_, rfl⟩, id⟩
      · rw [UInt32.le_iff_toNat_le]
        exact total.trans_le (by change _ ≤ client.obCapacity.toNat; omega)
      · rw [if_neg fits]
        rfl

/-- The stream to every client, in every run: as long as no message was written past the end of its
buffer, `ob_buf[0 .. ob_size)` is what is left of the messages, a connected client has got all of them
and the last one reported success, and no tunnel byte was written before or message queued after. No
message leaves its buffer, in whatever state it is queued, unless its length or the size its buffer is
enlarged to wraps around. -/
theorem client_output_stream (env : Env) (events : List Event) (k : ClientPtr) (intact : (run env events).Intact k) :
    (∀ client, (run env events).clients.client k = some client →
      OutputOk env ((run env events).clients.log k) (client.obBuf.getD []) ∧
      client.obSize.toNat = (client.obBuf.getD []).length ∧
      (client.state = .connected → client.obBuf = none ∧ HandedOver env ((run env events).clients.log k)) ∧
      (client.state ≠ .connected → Untunnelled ((run env events).clients.log k))) ∧
    ((run env events).clients.client k = none → ∃ queue, OutputOk env ((run env events).clients.log k) queue) ∧
    ∀ s client tag msg payload, s.client k = some client → client.obSize ≤ client.obCapacity →
      client.Extensible payload →
      .overrun k ∈ (outputBufferAddMessage env k tag msg payload s).2.faults → .overrun k ∈ s.faults := by
  have free : Laxity.Open { early := True, poor := True, answers := ResultMessage env } :=
    ⟨⟨fun _ _ => trivial, trivial, trivial⟩, fun _ _ => trivial, fun _ => trivial, trivial, trivial, trivial⟩
  obtain ⟨⟨sound, _⟩, replied⟩ := run_keeps _ env events (.inl trivial) (.inl trivial) (.inl trivial)
    ⟨.inl trivial, fun _ _ _ => trivial, fun _ _ _ result => result⟩ free
    (motive := fun S => ∀ k, Replied (ResultMessage env) (S.client k).2) (fun _ => each_nil _)
    fun served S S' sound change replied k => (change.turn sound.linked.roster k).replied (replied k)
  refine ⟨fun client present => (sound.client_ok present).delivers intact.unhurt (replied k), fun gone => ?_,
    fun s client tag msg payload present inside room =>
      (outputBufferAddMessage_appends env present inside room tag msg).2⟩
  have closed : ClientViewOk (.overrun k ∈ (run env events).sys.harm) ((run env events).sys.client k) := sound.clients k
  rw [show (run env events).sys.client k = (none, (run env events).clients.log k) from Prod.ext gone rfl] at closed
  exact ClosedOk.delivers closed intact.unhurt (replied k)

/-- The client is connected and has got the one message queued for it. -/
theorem handover_output :
    (run sessionEnv tunnel).Intact 0 ∧ HandedOver sessionEnv ((run sessionEnv tunnel).clients.log 0) ∧
      OutputOk sessionEnv ((run sessionEnv tunnel).clients.log 0) [] ∧
      sent ((run sessionEnv tunnel).clients.log 0) = usbmuxdHeader 20 0 1 7 ++ le32 resultOk := by
  have intact : (run sessionEnv tunnel).Intact 0 := by
    rw [Daemon.Intact]
    decide +kernel
  have present := Option.some_get (show ((run sessionEnv tunnel).clients.client 0).isSome by decide +kernel)
  obtain ⟨output, _, connected, _⟩ := (client_output_stream sessionEnv tunnel 0 intact).1 _ present.symm
  obtain ⟨gone, handed⟩ := connected (by decide +kernel)
  rw [gone] at output
  exact ⟨intact, handed, output, by decide +kernel⟩

end Usbmuxd
