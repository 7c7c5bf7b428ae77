import Usbmuxd.Model.Client.Reply

/-! # Connections between a client and a device

The functions in which `device.c` and `client.c` call each other. `connection_teardown`,
`client_close` and `device_abort_connect` are mutually recursive in the source, but an abort clears
the client pointer first and such a teardown never closes a client. The knot is tied in that order:
the body of `connection_teardown` takes the closing function as an argument, the abort instantiates
it vacuously, and `deviceAbortConnect_eq` recovers the recursive equation of the source.
-/

namespace Usbmuxd

open Collection

/-- Where `main` is: in its loop, or in one of the shutdown steps. -/
inductive Phase where
  | running
  | draining
  | closing
  | stopped
deriving DecidableEq, Repr

/-- The whole daemon, with the devices whose preflight workers have not reported yet. -/
structure Daemon where
  mux : Mux
  clients : Clients
  phase : Phase
  workers : List DeviceInfo

namespace Daemon

def initial : Daemon := ⟨Mux.initial, Clients.initial, .running, []⟩

def setMux (s : Daemon) (mux : Mux) : Daemon := { s with mux := mux }

def setClients (s : Daemon) (clients : Clients) : Daemon := { s with clients := clients }

end Daemon

/-- The rounds the flush loop may take: between two writes that take something the clock limits
the fruitless ones to about a thousand, and every such write shortens the buffer. -/
def flushRounds (buffer : Bytes) : ℕ := 1002 * (buffer.length + 1)

/-- The flush loop of `connection_teardown`: `buffer` is `ib_buf[0 .. ib_size)` and `last` the time
of the last progress. -/
def flushLoop (env : Env) (c : ConnPtr) (k : ClientPtr) : ℕ → UInt64 → Bytes → Daemon → Daemon
  | 0, _, _, s => s
  | rounds + 1, last, buffer, s =>
    let w := clientWrite env k buffer s.clients
    let s := s.setClients w.2
    if w.1 < 0 then s
    else if w.1 = 0 then
      let now := (env.usb s.mux.tick).now
      let s := s.setMux s.mux.bump
      if now - last > 1000 then s else flushLoop env c k rounds last buffer s
    else
      let size := w.1.toNat
      let s := s.setMux (s.mux.logConn c (.flushed (buffer.take size)))
      if size = buffer.length then s
      else
        let now := (env.usb s.mux.tick).now
        flushLoop env c k rounds now (buffer.drop size) (s.setMux s.mux.bump)

/-- The flush of a connection that still holds data for its client. -/
def flushClient (env : Env) (c : ConnPtr) (k : ClientPtr) (m : MuxConnection) (s : Daemon) : Daemon :=
  if m.events.pollout ∧ m.ibBuf ≠ [] then
    flushLoop env c k (flushRounds m.ibBuf) (env.usb s.mux.tick).now m.ibBuf (s.setMux s.mux.bump)
  else s

/-- `free(conn)` and `collection_remove(&conn->dev->connections, conn)`. -/
def Mux.unlink (s : Mux) (c : ConnPtr) (d : DevPtr) : Mux :=
  (s.freeConn c).setDev d { s.dev d with connections := (s.dev d).connections.erase c }

/-- Whether a teardown announces itself to the device. -/
def MuxConnection.sendsRst (m : MuxConnection) (dev : MuxDevice) : Bool :=
  dev.state ≠ .dead && m.state ≠ .dying && m.state ≠ .refused

/-- The body of `connection_teardown`, with `client_close` as an argument. -/
def connectionTeardownWith (close : ClientPtr → Daemon → Daemon) (env : Env) (c : ConnPtr) (s : Daemon) : Daemon :=
  match s.mux.conn c with
  | none => s.setMux (s.mux.fault (.releasedConnection c))
  | some m =>
    if m.state = .dead then s
    else
      let s := if m.sendsRst (s.mux.dev m.dev) then s.setMux (sendTcp env c thRst [] s.mux).2 else s
      let s := match m.client with
        | none => s
        | some k =>
          if m.state = ConnState.refused ∨ m.state = ConnState.connecting then
            s.setClients (clientNotifyConnect env k resultConnRefused s.clients).2
          else
            let s := s.setMux (s.mux.modifyConn c fun m => { m with state := .dead })
            close k (flushClient env c k m s)
      s.setMux (s.mux.unlink c m.dev)

/-- `device_abort_connect`. -/
def deviceAbortConnect (env : Env) (deviceId : ℕ) (k : ClientPtr) (s : Daemon) : Daemon :=
  let s := s.setMux (touchNamed deviceId s.mux)
  match getMuxConnection deviceId k s.mux with
  | none => s
  | some c =>
    match s.mux.conn c with
    | none => s.setMux (s.mux.fault (.releasedConnection c))
    | some m => connectionTeardownWith (fun _ s => s) env c (s.setMux (s.mux.setConn c { m with client := none }))

/-- `client_close`; a client that is no longer listed is ignored. -/
def clientClose (env : Env) (k : ClientPtr) (s : Daemon) : Daemon :=
  if k ∈ s.clients.clientList then
    match s.clients.client k with
    | none => s.setClients (s.clients.fault (.releasedClient k))
    | some client =>
      let s :=
        if client.state = .connecting1 ∨ client.state = .connecting2 then
          deviceAbortConnect env client.connectDevice k
            (s.setClients (s.clients.setClient k { client with state := .dead }))
        else s
      s.setClients (s.clients.release k)
  else s

/-- `connection_teardown`. -/
def connectionTeardown (env : Env) (c : ConnPtr) (s : Daemon) : Daemon :=
  connectionTeardownWith (clientClose env) env c s

private theorem connectionTeardownWith_of_noClient (first second : ClientPtr → Daemon → Daemon) (env : Env)
    (c : ConnPtr) (s : Daemon) {m : MuxConnection} (present : s.mux.conn c = some m)
    (noClient : m.client = none) :
    connectionTeardownWith first env c s = connectionTeardownWith second env c s := by
  simp only [connectionTeardownWith, present, noClient]

/-- A connection that is being torn down already is left alone. -/
theorem connectionTeardownWith_dead (close : ClientPtr → Daemon → Daemon) (env : Env) {c : ConnPtr} {s : Daemon}
    {m : MuxConnection} (present : s.mux.conn c = some m) (dead : m.state = .dead) :
    connectionTeardownWith close env c s = s := by
  simp only [connectionTeardownWith, present, dead, if_true]

/-- The equation of the source: an abort clears the client pointer and tears the connection down. -/
theorem deviceAbortConnect_eq (env : Env) (deviceId : ℕ) (k : ClientPtr) (s : Daemon) {c : ConnPtr}
    {m : MuxConnection} (found : getMuxConnection deviceId k (touchNamed deviceId s.mux) = some c)
    (present : (touchNamed deviceId s.mux).conn c = some m) :
    deviceAbortConnect env deviceId k s =
      connectionTeardown env c
        (s.setMux ((touchNamed deviceId s.mux).setConn c { m with client := none })) := by
  simp only [deviceAbortConnect, Daemon.setMux, found, present]
  exact connectionTeardownWith_of_noClient _ _ env c _ (Function.update_self ..) rfl

/-- `update_connection`. -/
def updateConnection (c : ConnPtr) (s : Daemon) : Daemon :=
  match s.mux.conn c with
  | none => s.setMux (s.mux.fault (.releasedConnection c))
  | some m =>
    let s := s.setMux (s.mux.setConn c m.refresh)
    match m.client with
    | none => s.setClients (s.clients.fault .nullClient)
    | some k => s.setClients (clientSetEvents k m.refresh.events s.clients)

/-- `send_tcp_ack`. -/
def sendTcpAck (env : Env) (c : ConnPtr) (s : Daemon) : Daemon :=
  let r := sendTcp env c thAck [] s.mux
  let s := s.setMux r.2
  if r.1 < 0 then connectionTeardown env c s else updateConnection c s

/-- Hand bytes read from the client to the device, and step the sequence number on success. -/
def sendData (env : Env) (c : ConnPtr) (data : Bytes) (s : Mux) : ℤ × Mux :=
  let r := sendTcp env c thAck data (s.logConn c (.read data))
  if r.1 < 0 then r
  else
    match r.2.conn c with
    | none => (r.1, r.2.fault (.releasedConnection c))
    | some m => (r.1, r.2.setConn c { m with txSeq := m.txSeq + UInt32.ofNat data.length })

/-- The second half of `device_client_process`, reading from the client. -/
def clientInput (env : Env) (c : ConnPtr) (k : ClientPtr) (events : PollMask) (s : Daemon) : Daemon :=
  match s.mux.conn c with
  | none => s.setMux (s.mux.fault (.releasedConnection c))
  | some m =>
    if events.pollin ∧ m.sendable > 0 then
      let r := clientRead env k m.sendable s.clients
      let s := s.setClients r.2
      match r.1 with
      | none => connectionTeardown env c s
      | some data =>
        let w := sendData env c data s.mux
        let s := s.setMux w.2
        if w.1 < 0 then connectionTeardown env c s else updateConnection c s
    else updateConnection c s

/-- `device_client_process`: drain the in-buffer to the client, then read from it. -/
def deviceClientProcess (env : Env) (deviceId : ℕ) (k : ClientPtr) (events : PollMask) (s : Daemon) : Daemon :=
  let s := s.setMux (touchNamed deviceId s.mux)
  match getMuxConnection deviceId k s.mux with
  | none => s
  | some c =>
    match s.mux.conn c with
    | none => s.setMux (s.mux.fault (.releasedConnection c))
    | some m =>
      if events.pollout ∧ m.ibBuf ≠ [] then
        let w := clientWrite env k m.ibBuf s.clients
        let s := s.setClients w.2
        if w.1 ≤ 0 then connectionTeardown env c s
        else
          let size := w.1.toNat
          let drained := { m.shift size with txAck := m.txAck + UInt32.ofNat size }
          let mux := (s.mux.setConn c drained).logConn c (.wrote (m.ibBuf.take size))
          clientInput env c k events (s.setMux mux)
      else clientInput env c k events s

/-- `connection_device_input`. -/
def connectionDeviceInput (env : Env) (c : ConnPtr) (payload : Bytes) (s : Daemon) : Daemon :=
  match s.mux.conn c with
  | none => s.setMux (s.mux.fault (.releasedConnection c))
  | some m =>
    if m.ibSize + UInt32.ofNat payload.length > m.ibCapacity then connectionTeardown env c s
    else updateConnection c (s.setMux ((s.mux.setConn c (m.accept payload)).logConn c (.accepted payload)))

/-- The branch of `device_tcp_input` for a `SYN|ACK` in `CONN_CONNECTING`. -/
def connectionOpen (env : Env) (c : ConnPtr) (m : MuxConnection) (s : Daemon) : Daemon :=
  let mux := (s.mux.setConn c m.opened).logConn c (.synAck m.rxSeq)
  let r := sendTcp env c thAck [] mux
  let s := s.setMux r.2
  if r.1 < 0 then connectionTeardown env c s
  else
    match s.mux.conn c with
    | none => s.setMux (s.mux.fault (.releasedConnection c))
    | some m =>
      let s := s.setMux (s.mux.setConn c { m with state := .connected })
      match m.client with
      | none => s.setClients (s.clients.fault .nullClient)
      | some k =>
        let n := clientNotifyConnect env k resultOk s.clients
        let s := s.setClients n.2
        if n.1 < 0 then
          let s := s.setMux (s.mux.setConn c { m with state := .connected, client := none })
          updateConnection c (connectionTeardown env c s)
        else updateConnection c s

/-- The branches of `device_tcp_input` for a segment of connection `c`. -/
def connectionInput (env : Env) (c : ConnPtr) (th : TcpHdr) (payload : Bytes) (s : Daemon) : Daemon :=
  match s.mux.conn c with
  | none => s.setMux (s.mux.fault (.releasedConnection c))
  | some m =>
    let m := m.receive th
    let s := s.setMux ((s.mux.setConn c m).logConn c (.rx m.rxAck m.rxWin))
    match m.state with
    | .connecting =>
      if th.flags ≠ thSyn ||| thAck then
        let m := if th.isRst then { m with state := .refused } else m
        connectionTeardown env c (s.setMux (s.mux.setConn c m))
      else connectionOpen env c m s
    | .connected =>
      if th.flags ≠ thAck then
        let m := if th.isRst then { m with state := .dying } else m
        connectionTeardown env c (s.setMux (s.mux.setConn c m))
      else sendTcpAck env c (connectionDeviceInput env c payload s)
    | _ => s

/-- The connection of a device with these ports. -/
def findConnection (d : DevPtr) (sport dport : UInt16) (s : Mux) : Option ConnPtr :=
  (s.dev d).connections.find? fun c => (s.conn c).any fun m => m.sport == sport && m.dport == dport

/-- `device_tcp_input`; the reset reason is only logged there. -/
def deviceTcpInput (env : Env) (d : DevPtr) (th : TcpHdr) (payload : Bytes) (s : Daemon) : Daemon :=
  let sport := th.dport
  let dport := th.sport
  if (s.mux.dev d).state ≠ .active then s
  else
    match findConnection d sport dport s.mux with
    | none => if th.isRst then s else s.setMux (sendAnonRst env d sport dport th.seq s.mux).2
    | some c => connectionInput env c th payload s

end Usbmuxd
