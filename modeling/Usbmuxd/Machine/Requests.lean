import Usbmuxd.Model.Daemon

/-! # What an event asks for and what it brings

Which command an event hands to `handle_command`, which `Connect` command it carries out, which
payload it brings to a connection, and whether it may change what listeners know.
`device_start_connect` does not look at the state of the device it is asked for, so what can be
said of a run depends on whether clients only ask for devices that have completed their handshake.
`connection_device_input` only has room for what a device may send under the advertised window.
-/

namespace Usbmuxd

/-- The client whose socket an event serves. -/
def servedClient (s : Daemon) : Event → Option ClientPtr
  | .clientProcess fd _ =>
    s.clients.clientList.find? fun k => (s.clients.client k).any fun client => client.fd = fd
  | _ => none

/-- The client for which an event executes `input_buffer_process`. -/
def readingClient (s : Daemon) : Event → Option ClientPtr
  | .clientProcess fd events =>
    if enabled s (.clientProcess fd events) then
      (servedClient s (.clientProcess fd events)).filter fun k =>
        (s.clients.client k).any fun client => client.state ≠ .connected && events.pollin
    else none
  | _ => none

/-- The device id a command frame asks to be connected to. -/
def requestedDevice (env : Env) (frame : Bytes) : Option UInt32 :=
  match readRequest env frame with
  | .connect deviceId _ => some deviceId
  | .plist (some dict) =>
    if (dict.getItem "MessageType").bind Plist.stringVal? = some "Connect" then
      match connectRequest dict with
      | .target deviceId _ => some deviceId
      | _ => none
    else none
  | _ => none

/-- The device id of the `Connect` command that an event hands to `device_start_connect`. -/
def connectTarget (env : Env) (s : Daemon) : Event → Option UInt32
  | .clientProcess fd events =>
    match s.clients.clientList.find? (fun k => (s.clients.client k).any fun client => client.fd = fd) with
    | none => none
    | some k =>
      if (s.clients.client k).any (fun client => client.state = .command) ∧ events.pollin then
        match (readCommand env k s.clients).1 with
        | .frame bytes => requestedDevice env bytes
        | _ => none
      else none
  | _ => none

/-- The event asks for no device that is still in `MUXDEV_INIT`. -/
def Prudent (env : Env) (s : Daemon) (event : Event) : Prop :=
  ∀ deviceId ∈ connectTarget env s event, ∀ d ∈ getMuxDeviceForId deviceId.toNat s.mux, (s.mux.dev d).state ≠ .init

-- Named, because a search may also settle on the enumeration of all of `UInt32`.
instance (env : Env) (s : Daemon) (event : Event) : Decidable (Prudent env s event) :=
  Option.decidableForallMem (connectTarget env s event)

/-- The command frame that an event hands to `handle_command`, with the state its client is in. -/
def handled (env : Env) (s : Daemon) : Event → Option (ClientState × Bytes)
  | .clientProcess fd events =>
    match s.clients.clientList.find? (fun k => (s.clients.client k).any fun client => client.fd = fd) with
    | none => none
    | some k =>
      match s.clients.client k with
      | none => none
      | some client =>
        if client.state ≠ .connected ∧ events.pollin then
          match (readCommand env k s.clients).1 with
          | .frame bytes => some (client.state, bytes)
          | _ => none
        else none
  | _ => none

/-- No command is sent by a client that already listens or waits for its connection. -/
def Orderly (env : Env) (s : Daemon) (event : Event) : Prop := ∀ command ∈ handled env s event, command.1 = .command

instance (env : Env) (s : Daemon) (event : Event) : Decidable (Orderly env s event) :=
  inferInstanceAs (Decidable (∀ command ∈ handled env s event, command.1 = .command))

/-- A command frame asks to listen. -/
def requestsListen (env : Env) (frame : Bytes) : Bool :=
  match readRequest env frame with
  | .listen => true
  | .plist (some dict) => (dict.getItem "MessageType").bind Plist.stringVal? = some "Listen"
  | _ => false

/-- A transfer completes a version packet of its device. -/
def greets (u : UsbPtr) (t : Transfer) (s : Mux) : Bool :=
  match findDevice u s with
  | none => false
  | some d =>
    match (reassemble (s.dev d) t).1 with
    | .held => false
    | .packet buffer length =>
      match dispatch (s.dev d).version buffer length with
      | .versionInput _ _ => true
      | _ => false

/-- The event may change what listeners know: a device answers or leaves, a worker announces one, or a
client starts to listen. -/
def stirs (env : Env) (s : Daemon) : Event → Bool
  | .dataInput u t => greets u t s.mux
  | .clientProcess fd events =>
    (handled env s (.clientProcess fd events)).any fun command => command.1 = .command && requestsListen env command.2
  | .deviceRemove _ | .workerDeviceAdd _ | .deviceShutdown => true
  | _ => false

/-- The connection whose `connection_device_input` a segment reaches, with its payload. -/
def segmentArrival (d : DevPtr) (th : TcpHdr) (payload : Bytes) (s : Mux) : Option (ConnPtr × Bytes) :=
  if (s.dev d).state ≠ .active then none
  else
    match findConnection d th.dport th.sport s with
    | none => none
    | some c =>
      if (s.conn c).any (fun m => m.state = .connected) ∧ th.flags = thAck then some (c, payload) else none

/-- The same for a whole packet. -/
def packetArrival (d : DevPtr) (buffer : Bytes) (length : ℕ) (s : Mux) : Option (ConnPtr × Bytes) :=
  if (be32At buffer 4).toNat ≠ length then none
  else
    match dispatch (s.dev d).version buffer length with
    | .tcpInput th payload => segmentArrival d (TcpHdr.decode th) payload s
    | _ => none

/-- The same for a transfer. -/
def transferArrival (u : UsbPtr) (t : Transfer) (s : Mux) : Option (ConnPtr × Bytes) :=
  match findDevice u s with
  | none => none
  | some d =>
    if t.length = 0 then none
    else if usbMru < t.length ∨ devMru < t.length then none
    else
      match (reassemble (s.dev d) t).1 with
      | .held => none
      | .packet buffer length => packetArrival d buffer length s

/-- The connection and payload for which an event calls `connection_device_input`. -/
def arrival (s : Daemon) : Event → Option (ConnPtr × Bytes)
  | .dataInput u t => if enabled s (.dataInput u t) then transferArrival u t s.mux else none
  | _ => none

/-- `connection_device_input` has room for this payload. -/
def MuxConnection.Accepts (m : MuxConnection) (payload : Bytes) : Prop :=
  ¬m.ibSize + UInt32.ofNat payload.length > m.ibCapacity

/-- The same for the connection a pointer leads to. -/
def Mux.Accepts (s : Mux) (c : ConnPtr) (payload : Bytes) : Prop := ∀ m ∈ s.conn c, m.Accepts payload

instance (m : MuxConnection) (payload : Bytes) : Decidable (m.Accepts payload) :=
  inferInstanceAs (Decidable (¬_))

instance (s : Mux) (c : ConnPtr) (payload : Bytes) : Decidable (s.Accepts c payload) :=
  inferInstanceAs (Decidable (∀ m ∈ s.conn c, m.Accepts payload))

/-- What the event brings to a connection fits its buffer. -/
def Modest (s : Daemon) (event : Event) : Prop := ∀ arriving ∈ arrival s event, s.mux.Accepts arriving.1 arriving.2

instance (s : Daemon) (event : Event) : Decidable (Modest s event) :=
  inferInstanceAs (Decidable (∀ arriving ∈ arrival s event, s.mux.Accepts arriving.1 arriving.2))

/-- Which connection has these ports only depends on the connections of the device. -/
theorem findConnection_setDev {d : DevPtr} {s : Mux} {dev : MuxDevice}
    (connections : dev.connections = (s.dev d).connections)
    (sport dport : UInt16) : findConnection d sport dport (s.setDev d dev) = findConnection d sport dport s := by
  have record : (s.setDev d dev).dev d = dev := by simp [Mux.setDev]
  rw [findConnection, record, connections]
  rfl

/-- An arrival only depends on the state and the connections of the device. -/
theorem segmentArrival_setDev {d : DevPtr} {th : TcpHdr} {payload : Bytes} {s : Mux} {dev : MuxDevice}
    (state : dev.state = (s.dev d).state) (connections : dev.connections = (s.dev d).connections) :
    segmentArrival d th payload (s.setDev d dev) = segmentArrival d th payload s := by
  have record : (s.setDev d dev).dev d = dev := by simp [Mux.setDev]
  rw [segmentArrival, record, state, findConnection_setDev connections]
  rfl

/-- Neither storing a transfer nor following its sequence number changes what arrives. -/
theorem packetArrival_setDev {d : DevPtr} {buffer : Bytes} {length : ℕ} {s : Mux} {dev : MuxDevice}
    (version : dev.version = (s.dev d).version) (state : dev.state = (s.dev d).state)
    (connections : dev.connections = (s.dev d).connections) :
    packetArrival d buffer length (s.setDev d dev) = packetArrival d buffer length s := by
  have record : (s.setDev d dev).dev d = dev := by simp [Mux.setDev]
  simp only [packetArrival, segmentArrival_setDev state connections, record, version]

end Usbmuxd
