import Mathlib.Data.List.Forall2
import Mathlib.Data.List.Induction
import Usbmuxd.Machine.Client

/-! # Streams and masks of a client

Every step of the client machine keeps the record in agreement with its log: the messages queued
against the bytes that have left, the shape of the log in each state, and the events it is polled
for. What remains of the agreement when the record is gone is a
property of the log alone.
-/

namespace Usbmuxd

namespace ClientEvent

@[simp] def message? : ClientEvent → Option (UInt32 × MsgType × Bytes)
  | queued tag msg payload => some (tag, msg, payload)
  | _ => none

/-- Bytes of the output buffer that left through the socket. -/
@[simp] def sentBytes : ClientEvent → Bytes
  | sent bytes => bytes
  | _ => []

/-- Tunnel bytes that left through the socket. -/
@[simp] def tunnelBytes : ClientEvent → Bytes
  | tunnelled bytes => bytes
  | _ => []

@[simp] def isSent : ClientEvent → Bool
  | sent _ => true
  | _ => false

@[simp] def isTunnelled : ClientEvent → Bool
  | tunnelled _ => true
  | _ => false

end ClientEvent

namespace ClientLog

/-- The messages queued for a client, in order. -/
def messages (log : List ClientEvent) : List (UInt32 × MsgType × Bytes) := log.filterMap ClientEvent.message?
def sent (log : List ClientEvent) : Bytes := log.flatMap ClientEvent.sentBytes
def tunnel (log : List ClientEvent) : Bytes := log.flatMap ClientEvent.tunnelBytes

@[simp] theorem messages_append (a b : List ClientEvent) : messages (a ++ b) = messages a ++ messages b :=
  List.filterMap_append
@[simp] theorem sent_append (a b : List ClientEvent) : sent (a ++ b) = sent a ++ sent b := List.flatMap_append
@[simp] theorem tunnel_append (a b : List ClientEvent) : tunnel (a ++ b) = tunnel a ++ tunnel b := List.flatMap_append
@[simp] theorem messages_cons (e : ClientEvent) (l : List ClientEvent) :
    messages (e :: l) = e.message?.toList ++ messages l := by
  cases e <;> rfl
@[simp] theorem sent_cons (e : ClientEvent) (l : List ClientEvent) : sent (e :: l) = e.sentBytes ++ sent l := rfl
@[simp] theorem tunnel_cons (e : ClientEvent) (l : List ClientEvent) : tunnel (e :: l) = e.tunnelBytes ++ tunnel l :=
  rfl
@[simp] theorem messages_nil : messages [] = [] := rfl
@[simp] theorem sent_nil : sent [] = [] := rfl
@[simp] theorem tunnel_nil : tunnel [] = [] := rfl

end ClientLog

open ClientLog

/-- The bytes of a queued message: a header with its length, then the payload. -/
def Encodes (frame : Bytes) (message : UInt32 × MsgType × Bytes) : Prop :=
  ∃ version, frame = usbmuxdHeader (MuxClient.messageLength message.2.2) version message.2.1.code message.1 ++
    message.2.2

/-- What has left and what waits in the output buffer are the messages queued, in order. -/
def Stream (log : List ClientEvent) (queue : Bytes) : Prop :=
  ∃ frames, List.Forall₂ Encodes frames (messages log) ∧ sent log ++ queue = frames.flatten

namespace Stream

variable {log : List ClientEvent} {queue : Bytes}

theorem nil : Stream [] [] := ⟨[], .nil, rfl⟩

private theorem enqueue (stream : Stream log queue) (version tag : UInt32) (msg : MsgType) (payload : Bytes) :
    Stream (log ++ [.queued tag msg payload])
      (queue ++ usbmuxdHeader (MuxClient.messageLength payload) version msg.code tag ++ payload) := by
  obtain ⟨frames, encoded, equal⟩ := stream
  refine ⟨frames ++ [usbmuxdHeader (MuxClient.messageLength payload) version msg.code tag ++ payload], ?_, ?_⟩
  · rw [messages_append]
    exact List.rel_append encoded (.cons ⟨version, rfl⟩ .nil)
  · rw [List.flatten_append, ← equal]
    simp

private theorem drain (stream : Stream log queue) (size : ℕ) :
    Stream (log ++ [.sent (queue.take size)]) (queue.drop size) := by
  obtain ⟨frames, encoded, equal⟩ := stream
  refine ⟨frames, by simpa using encoded, ?_⟩
  rw [← equal]
  simp

/-- An event that is neither a message nor a write from the buffer. -/
theorem other (stream : Stream log queue) {event : ClientEvent} (message : event.message? = none)
    (bytes : event.sentBytes = []) : Stream (log ++ [event]) queue := by
  obtain ⟨frames, encoded, equal⟩ := stream
  refine ⟨frames, ?_, ?_⟩
  · rw [messages_append, messages_cons, message]
    simpa using encoded
  · rw [sent_append, sent_cons, bytes]
    simpa using equal

private theorem tunnels (stream : Stream log queue) {events : List ClientEvent}
    (all : ∀ event ∈ events, event.isTunnelled) :
    Stream (log ++ events) queue := by
  induction events using List.reverseRecOn with
  | nil => simpa using stream
  | append_singleton events event ih =>
    rw [← List.append_assoc]
    have last := all event (by simp)
    refine (ih fun other member => all other (by simp [member])).other ?_ ?_
    · cases event <;> simp_all
    · cases event <;> simp_all

end Stream

/-- No tunnel byte has been written. -/
def Untunnelled (log : List ClientEvent) : Prop := ∀ event ∈ log, event.isTunnelled = false

/-- The last message is the acceptance of a connection request; since then only the buffer was sent. -/
def Told (log : List ClientEvent) : Prop :=
  ∃ before tag msg payload sents, log = before ++ .queued tag msg payload :: .result tag resultOk :: sents ∧
    Untunnelled before ∧ ∀ event ∈ sents, event.isSent

/-- After the acceptance was sent, only tunnel bytes. -/
def Tunnelling (log : List ClientEvent) : Prop :=
  ∃ front tunnels, log = front ++ tunnels ∧ Told front ∧ ∀ event ∈ tunnels, event.isTunnelled

theorem Untunnelled.snoc {log : List ClientEvent} (clean : Untunnelled log) {event : ClientEvent}
    (other : event.isTunnelled = false) :
    Untunnelled (log ++ [event]) := by
  intro entry member
  rcases List.mem_append.mp member with old | new
  · exact clean entry old
  · rwa [List.mem_singleton.mp new]

theorem Told.untunnelled {log : List ClientEvent} (told : Told log) : Untunnelled log := by
  obtain ⟨before, tag, msg, payload, sents, rfl, framed, only⟩ := told
  intro event member
  simp only [List.mem_append, List.mem_cons] at member
  rcases member with old | rfl | rfl | later
  · exact framed event old
  · rfl
  · rfl
  · have sent := only event later
    cases event <;> simp_all

private theorem Told.sent {log : List ClientEvent} (told : Told log) (bytes : Bytes) : Told (log ++ [.sent bytes]) := by
  obtain ⟨before, tag, msg, payload, sents, rfl, framed, only⟩ := told
  refine ⟨before, tag, msg, payload, sents ++ [.sent bytes], by simp, framed, fun event member => ?_⟩
  rcases List.mem_append.mp member with old | new
  · exact only event old
  · rw [List.mem_singleton.mp new]
    rfl

private theorem Tunnelling.writes {log events : List ClientEvent} (tunnelling : Tunnelling log)
    (all : ∀ event ∈ events, event.isTunnelled) : Tunnelling (log ++ events) := by
  obtain ⟨front, tunnels, rfl, told, only⟩ := tunnelling
  refine ⟨front, tunnels ++ events, by simp, told, fun event member => ?_⟩
  exact (List.mem_append.mp member).elim (only event) (all event)

/-- The log of a client in this state. -/
def Shape : ClientState → List ClientEvent → Prop
  | .connected, log => Tunnelling log
  | .connecting2, log => Told log
  | _, log => Untunnelled log

private theorem shape_framed {state : ClientState} {log : List ClientEvent} (framed : state.framed) :
    Shape state log ↔ Untunnelled log := by
  cases state <;> simp_all [ClientState.framed, Shape]

/-- The length of every message fits an `int`. -/
def Short (log : List ClientEvent) : Prop := ∀ message ∈ messages log, message.2.2.length < 2 ^ 31

namespace Short

variable {log : List ClientEvent}

private theorem queue (short : Short log) {payload : Bytes} (fits : payload.length < 2 ^ 31) (tag : UInt32)
    (msg : MsgType) :
    Short (log ++ [.queued tag msg payload]) := by
  intro message member
  rw [messages_append, List.mem_append] at member
  rcases member with old | new
  · exact short message old
  · obtain rfl : message = (tag, msg, payload) := by simpa using new
    exact fits

theorem other (short : Short log) {events : List ClientEvent} (silent : ∀ event ∈ events, event.message? = none) :
    Short (log ++ events) := by
  intro message member
  have nothing : messages events = [] := List.filterMap_eq_nil_iff.mpr silent
  rw [messages_append, nothing, List.append_nil] at member
  exact short message member

end Short

/-- The events a client is polled for, whatever it has been sent. -/
structure Masks (client : MuxClient) : Prop where
  framed : client.state.framed → client.events.pollin = true
  told : client.state = .connecting2 → client.events.pollin = false
  tunnel : client.state = .connected → client.events = client.devents

/-- `ob_size` counts the output buffer and stays below its capacity, and a client is polled for output
as long as there is some. -/
structure Sizes (client : MuxClient) : Prop where
  size : client.obSize.toNat = (client.obBuf.getD []).length
  inside : client.obSize ≤ client.obCapacity
  framed : client.state.framed → client.events.pollout = decide (client.obSize ≠ 0)
  told : client.state = .connecting2 → client.events = ⟨false, true⟩ ∧ client.obSize ≠ 0

/-- The agreement of an allocated record with its log. The sizes of the output buffer and of the
messages are only known as long as none was written past its end. -/
structure ClientOk (overran : Prop) (client : MuxClient) (log : List ClientEvent) : Prop where
  input : client.ibBuf.isSome = client.state.framed
  output : client.obBuf.isSome = (client.state ≠ .connected : Bool)
  stream : Stream log (client.obBuf.getD [])
  shape : Shape client.state log
  masks : Masks client
  sizes : overran ∨ Sizes client
  short : overran ∨ Short log

/-- The log of a client that was closed. -/
def ClosedOk (overran : Prop) (log : List ClientEvent) : Prop :=
  log = [] ∨ ∃ front queue, log = front ++ [.closed] ∧ Stream front queue ∧
    (Untunnelled front ∨ queue = [] ∧ Tunnelling front) ∧ (overran ∨ Short front)

/-- The invariant of a client as seen from outside. -/
def ClientViewOk (overran : Prop) : ClientView → Prop
  | (some client, log) => ClientOk overran client log
  | (none, log) => ClosedOk overran log

theorem usbmuxdHeader_length (length version message tag : UInt32) :
    (usbmuxdHeader length version message tag).length = 16 := by
  simp [usbmuxdHeader, le32]

section Sizes

variable {client : MuxClient}

private theorem masks_of_unconnected {client' : MuxClient} (masks : Masks client)
    (unconnected : client'.state ≠ .connected)
    (framed : client'.state.framed → client.state.framed)
    (told : client'.state = .connecting2 → client.state = .connecting2)
    (pollin : client'.events.pollin = client.events.pollin) : Masks client' :=
  ⟨fun now => pollin.trans (masks.framed (framed now)), fun now => pollin.trans (masks.told (told now)),
    fun connected => absurd connected unconnected⟩

private theorem ClientState.framed_ne_connected {state : ClientState} (framed : state.framed) : state ≠ .connected := by
  rintro rfl
  cases framed

private theorem Sizes.queue (sizes : Sizes client) (framed : client.state.framed) {capacity : UInt32} {payload : Bytes}
    (room : ({ client with obCapacity := capacity } : MuxClient).HasRoom payload) (tag : UInt32) (msg : MsgType) :
    Sizes (client.grown capacity tag msg payload) := by
  obtain ⟨short, inside⟩ := room
  have capacityBound := capacity.toNat_lt
  have short' : payload.length < 2 ^ 32 := by omega
  have inside : client.obSize.toNat + 16 + payload.length ≤ capacity.toNat := inside
  have size : (client.obSize + MuxClient.messageLength payload).toNat = client.obSize.toNat + 16 + payload.length := by
    simp only [MuxClient.messageLength, UInt32.toNat_add, UInt32.toNat_ofNat_of_lt' short']
    simp
    omega
  have nonzero : client.obSize + MuxClient.messageLength payload ≠ 0 := by
    intro zero
    rw [zero] at size
    simp at size
    omega
  refine ⟨?_, ?_, fun _ => ?_, fun told => ?_⟩
  · simp only [MuxClient.grown, MuxClient.enqueue, Option.getD_some, List.length_append, usbmuxdHeader_length]
    rw [size, sizes.size]
  · simp only [MuxClient.grown, MuxClient.enqueue]
    rw [UInt32.le_iff_toNat_le, size]
    exact inside
  · simp [MuxClient.grown, MuxClient.enqueue, nonzero]
  · have told : client.state = .connecting2 := told
    simp [told, ClientState.framed] at framed

private theorem Sizes.drain (sizes : Sizes client) {queue : Bytes} (buffer : client.obBuf = some queue)
    {size : ℕ} (bound : size ≤ queue.length) : Sizes (client.dequeue queue size) := by
  have counted : client.obSize.toNat = queue.length := by simpa [buffer] using sizes.size
  have below := client.obSize.toNat_lt
  simp only [MuxClient.dequeue]
  split
  · split
    · exact ⟨rfl, UInt32.zero_le, by simp [ClientState.framed], by simp⟩
    · next waiting => exact ⟨rfl, UInt32.zero_le, fun _ => by simp, fun told => absurd told waiting⟩
  · next part =>
    have taken : size < queue.length := Nat.lt_of_le_of_ne bound part
    have small : size < 2 ^ 32 := by omega
    have rest : (client.obSize - UInt32.ofNat size).toNat = queue.length - size := by
      rw [UInt32.toNat_sub_of_le, UInt32.toNat_ofNat_of_lt' small, counted]
      rw [UInt32.le_iff_toNat_le, UInt32.toNat_ofNat_of_lt' small]
      omega
    have nonzero : client.obSize - UInt32.ofNat size ≠ 0 := by
      intro zero
      rw [zero] at rest
      simp at rest
      omega
    have before : client.obSize ≠ 0 := by
      intro zero
      rw [zero] at counted
      simp at counted
      omega
    have inside : client.obSize - UInt32.ofNat size ≤ client.obCapacity := by
      have before := UInt32.le_iff_toNat_le.mp sizes.inside
      rw [UInt32.le_iff_toNat_le, rest]
      omega
    refine ⟨by simpa using rest, inside, fun framed => ?_, fun told => ⟨(sizes.told told).1, nonzero⟩⟩
    have framed : client.state.framed := framed
    simp [sizes.framed framed, nonzero, before]

end Sizes

section Steps

variable {rules : ClientRules} {client : MuxClient} {log : List ClientEvent}

private theorem framed_of_idle (idle : client.state = .command ∨ client.state = .listen) : client.state.framed := by
  rcases idle with state | state <;> rw [state] <;> rfl

private theorem ClientOk.store {overran : Prop} {client' : MuxClient} (ok : ClientOk overran client log)
    (input : client'.ibBuf.isSome = client.ibBuf.isSome) (output : client'.obBuf = client.obBuf)
    (size : client'.obSize = client.obSize) (capacity : client'.obCapacity = client.obCapacity)
    (state : client'.state = client.state)
    (events : client'.events = client.events) (devents : client'.devents = client.devents) :
    ClientOk overran client' log where
  input := by rw [input, state]; exact ok.input
  output := by rw [output, state]; exact ok.output
  stream := by rw [output]; exact ok.stream
  shape := by rw [state]; exact ok.shape
  masks := by
    refine ⟨?_, ?_, ?_⟩
    · rw [state, events]; exact ok.masks.framed
    · rw [state, events]; exact ok.masks.told
    · rw [state, events, devents]; exact ok.masks.tunnel
  sizes := by
    refine ok.sizes.imp_right fun sizes => ⟨?_, ?_, ?_, ?_⟩
    · rw [size, output]; exact sizes.size
    · rw [size, capacity]; exact sizes.inside
    · rw [state, events, size]; exact sizes.framed
    · rw [state, events, size]; exact sizes.told
  short := ok.short

private theorem ClientOk.grown (ok : ClientOk rules.overran client log) (framed : client.state.framed)
    {capacity : UInt32}
    {msg : MsgType} {payload : Bytes} (posts : Posts rules client capacity msg payload) (tag : UInt32) :
    ClientOk rules.overran (client.grown capacity tag msg payload) (log ++ [.queued tag msg payload]) where
  input := ok.input
  output := by simp [MuxClient.grown, MuxClient.enqueue, ClientState.framed_ne_connected framed]
  stream := ok.stream.enqueue client.protoVersion tag msg payload
  shape := (shape_framed framed).mpr (((shape_framed framed).mp ok.shape).snoc rfl)
  masks := masks_of_unconnected ok.masks (ClientState.framed_ne_connected framed) id id rfl
  sizes := by
    rcases posts.room with overran | room
    · exact .inl overran
    · exact ok.sizes.imp_right fun sizes => sizes.queue framed room tag msg
  short := by
    rcases posts.room with overran | room
    · exact .inl overran
    · exact ok.short.imp_right fun short => short.queue room.1 tag msg

private theorem ClientOk.noted {overran : Prop} (ok : ClientOk overran client log) (framed : client.state.framed)
    {tag : UInt32}
    {msg : MsgType} {payload : Bytes} {front : List ClientEvent} (last : log = front ++ [.queued tag msg payload])
    (number : UInt32) : ClientOk overran client (front ++ [.queued tag msg payload, .result tag number]) := by
  have split : front ++ [.queued tag msg payload, .result tag number] = log ++ [.result tag number] := by simp [last]
  rw [split]
  exact ⟨ok.input, ok.output, ok.stream.other rfl rfl,
    (shape_framed framed).mpr (((shape_framed framed).mp ok.shape).snoc rfl), ok.masks, ok.sizes,
    ok.short.imp_right fun short => short.other (by simp)⟩

private theorem ClientOk.drain {overran : Prop} (ok : ClientOk overran client log) {queue : Bytes} {size : ℕ}
    (buffer : client.obBuf = some queue) (bound : size ≤ queue.length) (unconnected : client.state ≠ .connected) :
    ClientOk overran (client.dequeue queue size) (log ++ [.sent (queue.take size)]) := by
  have stream : Stream (log ++ [.sent (queue.take size)]) (queue.drop size) := by
    have before := ok.stream
    rw [buffer, Option.getD_some] at before
    exact before.drain size
  have sizes := ok.sizes.imp_right fun sizes => sizes.drain buffer bound
  have short : overran ∨ Short (log ++ [.sent (queue.take size)]) :=
    ok.short.imp_right fun short => short.other (by simp)
  have shape : Shape client.state (log ++ [.sent (queue.take size)]) := by
    have before := ok.shape
    cases state : client.state <;> rw [state] at before
    case connected => exact absurd state unconnected
    case connecting2 => exact Told.sent before _
    all_goals exact Untunnelled.snoc before rfl
  by_cases full : size = queue.length
  · have nothing : queue.drop size = [] := by simp [full]
    rw [nothing] at stream
    by_cases told : client.state = .connecting2
    · have shape : Told (log ++ [.sent (queue.take size)]) := by simpa [told, Shape] using shape
      have result : client.dequeue queue size =
          { client with obBuf := none, obSize := 0, state := .connected, events := client.devents } := by
        simp [MuxClient.dequeue, full, told]
      rw [result] at sizes ⊢
      refine ⟨?_, rfl, stream, ⟨_, [], by simp, shape, by simp⟩,
        ⟨by simp [ClientState.framed], by simp, fun _ => rfl⟩, sizes,
        short⟩
      have input := ok.input
      rw [told] at input
      exact input
    · have result : client.dequeue queue size =
          { client with obBuf := some [], obSize := 0, events := { client.events with pollout := false } } := by
        simp [MuxClient.dequeue, full, told]
      rw [result] at sizes ⊢
      exact ⟨ok.input, by simp [unconnected], stream, shape, masks_of_unconnected ok.masks unconnected id id rfl, sizes,
        short⟩
  · have result : client.dequeue queue size =
        { client with obBuf := some (queue.drop size), obSize := client.obSize - UInt32.ofNat size } := by
      simp [MuxClient.dequeue, full]
    rw [result] at sizes ⊢
    exact ⟨ok.input, by simp [unconnected], stream, shape, masks_of_unconnected ok.masks unconnected id id rfl, sizes,
        short⟩

private theorem ClientStep.viewOk {view view' : ClientView} (change : ClientStep rules view view')
    (ok : ClientViewOk rules.overran view) : ClientViewOk rules.overran view' := by
  cases change with
  | queue client log capacity tag msg payload idle posts => exact ClientOk.grown ok (framed_of_idle idle) posts tag
  | reply client log capacity tag number msg payload own idle posts answers =>
    exact ClientOk.noted (ClientOk.grown ok (framed_of_idle idle) posts tag) (framed_of_idle idle) rfl number
  | listen client log own _ idle =>
    have ok : ClientOk rules.overran client log := ok
    have input := ok.input
    have output := ok.output
    have shape := ok.shape
    rw [idle] at input output shape
    have framed : client.state.framed := by rw [idle]; rfl
    exact ⟨input, output, ok.stream, shape, masks_of_unconnected ok.masks (by simp) (fun _ => framed) (by simp) rfl,
      ok.sizes.imp_right fun sizes => ⟨sizes.size, sizes.inside, fun _ => sizes.framed framed, by simp⟩, ok.short⟩
  | inform client log version info own => exact ClientOk.store ok rfl rfl rfl rfl rfl rfl rfl
  | read client log buffer size own _ still => exact ClientOk.store ok still rfl rfl rfl rfl rfl rfl
  | rest client log own empty unconnected =>
    have ok : ClientOk rules.overran client log := ok
    refine ⟨ok.input, ok.output, ok.stream, ok.shape, masks_of_unconnected ok.masks unconnected id id rfl,
      ok.sizes.imp_right fun sizes => ⟨sizes.size, sizes.inside, fun _ => ?_,
        fun told => absurd empty (sizes.told told).2⟩,
      ok.short⟩
    simp [empty]
  | drain client log queue size own buffer positive bound unconnected =>
      exact ClientOk.drain ok buffer bound unconnected
  | write client log bytes connected =>
    have ok : ClientOk rules.overran client log := ok
    refine ⟨ok.input, ok.output, ok.stream.other rfl rfl, ?_, ok.masks, ok.sizes,
      ok.short.imp_right fun short => short.other (by simp)⟩
    have shape := ok.shape
    rw [connected] at shape ⊢
    exact Tunnelling.writes shape (by simp)

theorem ClientMove.viewOk {view view' : ClientView} (move : ClientMove rules view view')
    (ok : ClientViewOk rules.overran view) : ClientViewOk rules.overran view' := by
  induction move with
  | refl => exact ok
  | tail _ change ih => exact change.viewOk ih

end Steps

/-- Once recorded, an overrun stays recorded. -/
theorem ClientViewOk.mono {overran overran' : Prop} {view : ClientView} (ok : ClientViewOk overran view)
    (more : overran → overran') : ClientViewOk overran' view := by
  rcases view with ⟨_ | client, log⟩
  · rcases ok with fresh | ⟨front, queue, closed, stream, shape, short⟩
    · exact .inl fresh
    · exact .inr ⟨front, queue, closed, stream, shape, short.imp_left more⟩
  · have ok : ClientOk overran client log := ok
    exact ⟨ok.input, ok.output, ok.stream, ok.shape, ok.masks, ok.sizes.imp_left more, ok.short.imp_left more⟩

/-- The record `client_accept` fills in. -/
theorem newClient_ok (overran : Prop) (fd : ℤ) (number : UInt32) : ClientOk overran (newClient fd number) [] where
  input := rfl
  output := rfl
  stream := .nil
  shape := by simp [Shape, Untunnelled, newClient]
  masks := ⟨fun _ => rfl, by simp [newClient], by simp [newClient]⟩
  sizes := .inr ⟨rfl, UInt32.zero_le, fun _ => rfl, by simp [newClient]⟩
  short := .inr (by simp [Short])

private theorem MuxClient.grown_unsent (client : MuxClient) (capacity tag : UInt32) (msg : MsgType) (payload : Bytes) :
    (client.grown capacity tag msg payload).obBuf.getD [] ≠ [] := by
  intro empty
  have length := congrArg List.length empty
  simp [grown, enqueue, usbmuxdHeader_length] at length

namespace ClientOk

variable {rules : ClientRules} {client : MuxClient} {log : List ClientEvent} (ok : ClientOk rules.overran client log)
include ok

/-- A connection request is accepted by `device_start_connect`. -/
theorem request (idle : client.state = .command) (c : ConnPtr) (tag : UInt32) (device : ℕ) :
    ClientOk rules.overran { client with connectTag := tag, connectDevice := device, state := .connecting1 }
      (log ++ [.connecting c tag]) := by
  have input := ok.input
  have output := ok.output
  have shape := ok.shape
  rw [idle] at input output shape
  have framed : client.state.framed := by rw [idle]; rfl
  exact ⟨input, output, ok.stream.other rfl rfl, Untunnelled.snoc shape rfl,
    masks_of_unconnected ok.masks (by simp) (fun _ => framed) (by simp) rfl,
    ok.sizes.imp_right fun sizes => ⟨sizes.size, sizes.inside, fun _ => sizes.framed framed, by simp⟩,
    ok.short.imp_right fun short => short.other (by simp)⟩

/-- A request is refused. -/
theorem refused (waiting : client.state = .connecting1) {capacity : UInt32} {msg : MsgType} {payload : Bytes}
    (posts : Posts rules client capacity msg payload) (tag number : UInt32) :
    ClientOk rules.overran { client.grown capacity tag msg payload with state := .command }
      (log ++ [.queued tag msg payload, .result tag number]) := by
  have framed : client.state.framed := by rw [waiting]; rfl
  have told := (ok.grown framed posts tag).noted framed rfl number
  have still : (client.grown capacity tag msg payload).state = .connecting1 := waiting
  have input := told.input
  have output := told.output
  have shape := told.shape
  rw [still] at input output shape
  exact ⟨input, output, told.stream, shape, masks_of_unconnected told.masks (by simp) (fun _ => framed) (by simp) rfl,
    told.sizes.imp_right fun sizes => ⟨sizes.size, sizes.inside, fun _ => sizes.framed framed, by simp⟩, told.short⟩

/-- A request is accepted; the command buffer goes. -/
theorem accepted (waiting : client.state = .connecting1) {capacity : UInt32} {msg : MsgType} {payload : Bytes}
    (posts : Posts rules client capacity msg payload) (tag : UInt32) (devents : PollMask) :
    ClientOk rules.overran
      { client.grown capacity tag msg payload with
        state := .connecting2, events := ⟨false, true⟩, devents := devents, ibBuf := none }
      (log ++ [.queued tag msg payload, .result tag resultOk]) := by
  have framed : client.state.framed := by rw [waiting]; rfl
  have told := (ok.grown framed posts tag).noted framed rfl resultOk
  have still : (client.grown capacity tag msg payload).state = .connecting1 := waiting
  have output := told.output
  rw [still] at output
  refine ⟨rfl, output, told.stream, ⟨log, tag, msg, payload, [], by simp, (shape_framed framed).mp ok.shape, by simp⟩,
    ⟨by simp [ClientState.framed], fun _ => rfl, by simp⟩,
    told.sizes.imp_right fun sizes =>
      ⟨sizes.size, sizes.inside, by simp [ClientState.framed], fun _ => ⟨rfl, fun zero => ?_⟩⟩,
    told.short⟩
  have zero : (client.grown capacity tag msg payload).obSize = 0 := zero
  have size := sizes.size
  rw [zero] at size
  exact client.grown_unsent capacity tag msg payload (List.length_eq_zero_iff.mp size.symm)

end ClientOk

/-- `client_set_events`. -/
theorem ClientOk.masked {overran : Prop} {client : MuxClient} {log : List ClientEvent}
    (ok : ClientOk overran client log) (events : PollMask) : ClientOk overran (client.masked events) log := by
  simp only [MuxClient.masked]
  split
  · next connected =>
    refine ⟨ok.input, ok.output, ok.stream, ok.shape, ⟨fun framed => ?_, fun told => ?_, fun _ => rfl⟩,
      ok.sizes.imp_right fun sizes => ⟨sizes.size, sizes.inside, fun framed => ?_, fun told => ?_⟩, ok.short⟩
    · exact absurd connected (ClientState.framed_ne_connected framed)
    · exact absurd (told.symm.trans connected) (by simp)
    · exact absurd connected (ClientState.framed_ne_connected framed)
    · exact absurd (told.symm.trans connected) (by simp)
  · split
    · next told =>
      exact ⟨ok.input, ok.output, ok.stream, ok.shape, masks_of_unconnected ok.masks (by simp [told]) id id rfl,
        ok.sizes.imp_right fun sizes => ⟨sizes.size, sizes.inside, sizes.framed, sizes.told⟩, ok.short⟩
    · exact ok

/-- What a closing client may still be sent: nothing, the flush of its tunnel, or the answer to a
command in the wrong state. -/
inductive Farewell (rules : ClientRules) (client : MuxClient) : List ClientEvent → Prop
  | quiet : Farewell rules client []
  | flushed {events : List ClientEvent} (connected : client.state = .connected)
      (flush : ∀ event ∈ events, event.isTunnelled) : Farewell rules client events
  | rebuked (capacity tag : UInt32) (msg : MsgType) (payload : Bytes)
      (state : client.state = .listen ∨ client.state = .connecting1) (posts : Posts rules client capacity msg payload)
      (answers : rules.answers resultBadCommand msg payload) :
      Farewell rules client [.queued tag msg payload, .result tag resultBadCommand]

/-- The log of a client that is closed. -/
theorem ClientOk.closed {rules : ClientRules} {client : MuxClient} {log events : List ClientEvent}
    (ok : ClientOk rules.overran client log) (farewell : Farewell rules client events) :
    ClosedOk rules.overran (log ++ events ++ [.closed]) := by
  right
  cases farewell with
  | quiet =>
    refine ⟨log, client.obBuf.getD [], by simp, ok.stream, ?_, ok.short⟩
    have shape := ok.shape
    have output := ok.output
    cases state : client.state <;> rw [state] at shape output
    case connected =>
      have gone : client.obBuf = none := by simpa using output
      exact .inr ⟨by rw [gone]; rfl, shape⟩
    case connecting2 => exact .inl (Told.untunnelled shape)
    all_goals exact .inl shape
  | flushed connected flush =>
    have short : rules.overran ∨ Short (log ++ events) := ok.short.imp_right fun short =>
      short.other fun event member => by
      have tunnelled := flush event member
      cases event <;> simp_all
    refine ⟨log ++ events, client.obBuf.getD [], rfl, ok.stream.tunnels flush, .inr ?_, short⟩
    have shape := ok.shape
    have output := ok.output
    rw [connected] at shape output
    have gone : client.obBuf = none := by simpa using output
    exact ⟨by rw [gone]; rfl, Tunnelling.writes shape flush⟩
  | rebuked capacity tag msg payload state posts answers =>
    have framed : client.state.framed := by rcases state with state | state <;> rw [state] <;> rfl
    have told := (ok.grown framed posts tag).noted framed rfl resultBadCommand
    exact ⟨_, _, rfl, told.stream, .inl ((shape_framed framed).mp told.shape), told.short⟩

end Usbmuxd
