import Usbmuxd.Machine.Requests

/-! # What is read from client sockets

`input_buffer_process` receives once per call, the rest of a header or the rest of the frame it
announces, and hands a complete frame to `handle_command`. For one client this module collects, along
a run, the bytes that its socket gave up and the frames that were handled.
-/

namespace Usbmuxd

/-- Offset and length of the part of the command buffer that `input_buffer_process` asks `recv` to
fill: the rest of the header, or the rest of the frame it announces. -/
def MuxClient.recvRange (client : MuxClient) : Option (ℕ × ℕ) :=
  match client.ibBuf with
  | none => none
  | some buffer =>
    let length := le32At buffer 0
    if client.ibSize < 16 then some (client.ibSize.toNat, (16 - client.ibSize).toNat)
    else if length > client.ibCapacity ∨ length < 16 then none
    else if client.ibSize < length then some (client.ibSize.toNat, (length - client.ibSize).toNat)
    else none

/-- What the next `recv` of a client gives; nothing when it fails or ends. -/
def MuxClient.receives (client : MuxClient) (env : Env) (tick : ℕ) : Bytes :=
  match client.recvRange, (env.sock tick).recv with
  | some range, .received data => data.take range.2
  | _, _ => []

/-- The bytes an event takes from the socket of a client that sends commands. -/
def receivedBytes (env : Env) (k : ClientPtr) (s : Daemon) (event : Event) : Bytes :=
  if readingClient s event = some k then ((s.clients.client k).map fun client =>
    client.receives env s.clients.tick).getD []
  else []

/-- A complete frame, cut out of the buffer at the length it announces. -/
def Framing.complete : Framing → List Bytes
  | .frame bytes => [bytes.take (le32At bytes 0).toNat]
  | _ => []

/-- The frame an event hands to `handle_command` for a client. -/
def handledFrames (env : Env) (k : ClientPtr) (s : Daemon) (event : Event) : List Bytes :=
  if readingClient s event = some k then (readCommand env k s.clients).1.complete else []

/-- What the events of a run contribute, in order, each in the state it meets. -/
def gather {α : Type*} (env : Env) (contribution : Daemon → Event → List α) (events : List Event) : List α :=
  (events.foldl (fun (p : Daemon × List α) event => (step env p.1 event, p.2 ++ contribution p.1 event))
    (Daemon.initial, [])).2

/-- The bytes a client has sent as commands, as far as they were received. -/
def commandBytes (env : Env) (k : ClientPtr) : List Event → Bytes := gather env (receivedBytes env k)

/-- The frames of a client that were handled. -/
def commandFrames (env : Env) (k : ClientPtr) : List Event → List Bytes := gather env (handledFrames env k)

section Gather

variable {α : Type*} (env : Env) (contribution : Daemon → Event → List α)

@[simp] theorem gather_nil : gather env contribution [] = [] := rfl

theorem gather_snoc (before : List Event) (event : Event) :
    gather env contribution (before ++ [event]) =
      gather env contribution before ++ contribution (run env before) event := by
  have states (events : List Event) (p : Daemon × List α) :
      (events.foldl (fun (p : Daemon × List α) event => (step env p.1 event, p.2 ++ contribution p.1 event)) p).1 =
        events.foldl (step env) p.1 := by
    induction events generalizing p with
    | nil => rfl
    | cons event events ih => exact ih _
  rw [gather, List.foldl_append, List.foldl_cons, List.foldl_nil, states]
  rfl

end Gather

/-- An event that reads for a client executes `input_buffer_process` for it. -/
theorem step_of_reading (env : Env) {s : Daemon} {event : Event} {k : ClientPtr}
    (reading : readingClient s event = some k) :
    ∃ client, s.clients.client k = some client ∧ client.state ≠ .connected ∧ k ∈ s.clients.clientList ∧
      servedClient s event = some k ∧ step env s event = inputBufferProcess env k s := by
  cases event with
  | clientProcess fd events =>
    simp only [readingClient] at reading
    split at reading
    swap
    · cases reading
    next possible =>
    obtain ⟨served, reads⟩ := Option.filter_eq_some_iff.mp reading
    rcases present : s.clients.client k with _ | client
    · simp [present] at reads
    obtain ⟨unconnected, readable⟩ : client.state ≠ .connected ∧ events.pollin = true := by
      simpa [present] using reads
    have found := served
    rw [servedClient] at found
    refine ⟨client, rfl, unconnected, List.mem_of_find?_eq_some found, served, ?_⟩
    rw [step, if_pos possible]
    simp only [clientProcess, found, present, if_neg unconnected, if_pos readable]
  | _ => cases reading

end Usbmuxd
