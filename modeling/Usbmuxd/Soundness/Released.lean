import Usbmuxd.Soundness.Pairing

/-! # Released records are not used again

`client_close` and `connection_teardown` free their records several levels below functions that
still hold the pointer, and what they return does not say so. A record that has been released is
gone from the heap of the model, and whoever uses it afterwards leaves a fault behind. Three orders
of events lead to such a use; runs without them have none.
-/

namespace Usbmuxd

open History

/-- A client that sends its commands only while it may: no function uses it once it is closed. -/
theorem orderly_run_clients (env : Env) (events : List Event)
    (orderly : Each (fun before event => Orderly env (run env before) event) events) (k : ClientPtr) :
    .releasedClient k ∉ (run env events).clients.faults := by
  obtain ⟨sound, _⟩ := run_sound { early := True, poor := True, rude := False } env events (.inl trivial)
    (.inl trivial) (.inr orderly) (.inl trivial)
  intro recorded
  have unharmed := sound.unharmed.resolve_left id
  exact unharmed k (List.mem_filter.mpr ⟨recorded, rfl⟩)

/-- A connection is set up and the device is unplugged. -/
def unplugged : List Event := session ++ [.deviceRemove 0]

private theorem unplugged_orderly :
    Each (fun before event => Orderly sessionEnv (run sessionEnv before) event) unplugged := by
  decide +kernel

/-- The client of the connection is closed on the way and not used any more. -/
theorem unplugged_clients :
    (run sessionEnv unplugged).clients.client 0 = none ∧ .closed ∈ (run sessionEnv unplugged).clients.log 0 ∧
      .releasedClient 0 ∉ (run sessionEnv unplugged).clients.faults :=
  ⟨by simp only [← Option.isNone_iff_eq_none]; decide +kernel, by decide +kernel,
    orderly_run_clients sessionEnv unplugged unplugged_orderly 0⟩

/-- A world in which a client sends `Listen` again and again. -/
def listenerEnv : Env where
  usb n := ⟨0, UInt64.ofNat n, 0⟩
  sock _ := {
    send := .sent 65536, recv := .received (le32 16 ++ le32 0 ++ le32 3 ++ le32 7)
    accept := 5, alloc := true, slot := 0, thread := false, conf := 0, record := none, buid := "" }
  usbDevice _ := ⟨512, "", 0, 0, 0⟩
  plistFromXml _ := none
  plistToXml _ := []
  noPreflight := true
  resultXml_fits _ := emptyXml_fits

/-- The client listens. -/
def listening : List Event := [.accept, .clientProcess 5 ⟨true, false⟩]

/-- Its next command comes in the wrong state: `handle_command` closes the client, and
`input_buffer_process` then stores to its `ib_size`. -/
theorem listening_command_released :
    ((run listenerEnv listening).clients.client 0).any (fun client => client.state = .listen) ∧
    (run listenerEnv listening).clients.faults = [] ∧
    .closed ∈ (step listenerEnv (run listenerEnv listening) (.clientProcess 5 ⟨true, false⟩)).clients.log 0 ∧
    (step listenerEnv (run listenerEnv listening) (.clientProcess 5 ⟨true, false⟩)).clients.faults =
      [.releasedClient 0] := by
  refine ⟨?_, ?_, ?_, ?_⟩
  all_goals decide +kernel

/-- As long as a device sends no more than the buffer of a connection takes and the messages to
clients can be allocated, no function uses a connection once it is torn down. -/
theorem modest_run_connections (env : Env) (plenty : ∀ n, (env.sock n).alloc = true) (events : List Event)
    (modest : Each (fun before event => Modest (run env before) event) events) (c : ConnPtr) :
    .releasedConnection c ∉ (run env events).mux.faults := by
  obtain ⟨sound, _⟩ := run_sound { early := True, poor := False, rash := False } env events (.inl trivial)
    (.inr modest) (.inl trivial) (.inr plenty)
  exact (sound.released.resolve_left id).resolve_left id c

private theorem unplugged_modest : Each (fun before event => Modest (run sessionEnv before) event) unplugged := by
  decide +kernel

/-- The connection is torn down by the removal of its device and not used any more. -/
theorem unplugged_connections :
    ((run sessionEnv session).mux.conn 0).isSome ∧ (run sessionEnv unplugged).mux.conn 0 = none ∧
      .releasedConnection 0 ∉ (run sessionEnv unplugged).mux.faults :=
  ⟨by decide +kernel, by decide +kernel, modest_run_connections sessionEnv (fun _ => rfl) unplugged unplugged_modest 0⟩

/-- A world in which a client asks for a connection by property list and no reply can be allocated. -/
def mutedEnv : Env where
  usb n := ⟨0, UInt64.ofNat n, 0⟩
  sock n := {
    send := .sent 65536
    recv := .received (if n = 1 then le32 17 ++ le32 1 ++ le32 8 ++ le32 7 else [0])
    accept := 5, alloc := false, slot := 0, thread := false, conf := 0, record := none, buid := "" }
  usbDevice _ := ⟨512, "", 0, 0, 0⟩
  plistFromXml _ :=
    some (.dict [("MessageType", .string "Connect"), ("DeviceID", .uint 1), ("PortNumber", .uint 32498)])
  plistToXml _ := []
  noPreflight := true
  resultXml_fits _ := emptyXml_fits

/-- The device accepts the connection and the client cannot be told: the connection is torn down and
`update_connection` uses it once more. -/
theorem muted_session_released :
    ((run mutedEnv session).clients.client 0).any (fun client => client.state = .connecting1) ∧
    (run mutedEnv session).mux.conn 0 = none ∧ (run mutedEnv session).mux.faults = [.releasedConnection 0] := by
  refine ⟨?_, ?_, ?_⟩
  all_goals decide +kernel

end Usbmuxd
