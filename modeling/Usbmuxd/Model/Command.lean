import Usbmuxd.Model.Input

/-! # Client commands

The command side of a client socket: `handle_command` with every message of the binary and the
property-list protocol, the resumable reader `input_buffer_process`, the writer
`output_buffer_process`, and `client_process`, which chooses between them and the tunnel.
-/

namespace Usbmuxd

/-- `ntohs` on a little-endian host. -/
def ntohs (value : UInt16) : UInt16 := (value <<< 8) ||| (value >>> 8)

/-- A result of `handle_command`: `-1` when the reply could not be queued, else zero. -/
def answered (r : ℤ × Clients) (s : Daemon) : ℤ × Daemon := (if r.1 < 0 then -1 else 0, s.setClients r.2)

/-- Reply with a `Result` message. -/
def replyResult (env : Env) (k : ClientPtr) (tag number : UInt32) (s : Daemon) : ℤ × Daemon :=
  answered (sendResult env k tag number s.clients) s

/-- The loop of `start_listen`, which stops at the first message that cannot be queued. -/
def announceAll (env : Env) (k : ClientPtr) : List DeviceInfo → Clients → Bool × Clients
  | [], s => (true, s)
  | info :: rest, s =>
    let r := sendDeviceAdd env info k s
    if r.1 < 0 then (false, r.2) else announceAll env k rest r.2

/-- `start_listen`. -/
def startListen (env : Env) (k : ClientPtr) (s : Daemon) : ℤ × Daemon :=
  let clients := s.clients.modify k fun client => { client with state := .listen }
  let devices := deviceGetList env false s.mux
  let r := announceAll env k devices clients
  (if r.1 then devices.length else -1, s.setClients r.2)

/-- The `Listen` command. -/
def listenCommand (env : Env) (k : ClientPtr) (tag : UInt32) (s : Daemon) : ℤ × Daemon :=
  let r := sendResult env k tag resultOk s.clients
  let s := s.setClients r.2
  if r.1 < 0 then (-1, s) else startListen env k s

/-- The `Connect` command, once device id and port are known. -/
def connectCommand (env : Env) (k : ClientPtr) (tag : UInt32) (deviceId : UInt32) (port : UInt16) (s : Daemon) :
    ℤ × Daemon :=
  let c := s.mux.nextConn
  let r := deviceStartConnect env deviceId.toNat port k s.mux
  let s := s.setMux r.2
  if r.1 < 0 then replyResult env k tag (UInt32.ofNat (-r.1).toNat) s
  else
    let clients := s.clients.modify k fun client =>
      { client with connectTag := tag, connectDevice := deviceId.toNat, state := .connecting1 }
    (0, s.setClients (clients.logClient k (.connecting c tag)))

/-- What a `Connect` property list asks for. -/
inductive ConnectRequest where
  | noDevice
  | noPort
  | target (deviceId : UInt32) (port : UInt16)
deriving DecidableEq, Repr

/-- Device id and port of a `Connect` property list; the port is in network order. -/
def connectRequest (dict : Plist) : ConnectRequest :=
  match dict.getItem "DeviceID" with
  | none => .noDevice
  | some device =>
    match dict.getItem "PortNumber" with
    | none => .noPort
    | some port => .target device.uintVal.toUInt32 (ntohs port.uintVal.toUInt16)

/-- The `SavePairRecord` command; listeners learn of the pairing when the device is connected. -/
def savePairRecord (env : Env) (k : ClientPtr) (tag : UInt32) (dict : Plist) (s : Daemon) : ℤ × Daemon :=
  match dict.getStringVal "PairRecordID", (dict.getItem "PairRecordData").bind Plist.dataVal? with
  | some recordId, some _ =>
    let res := (env.sock s.clients.tick).conf
    let s := s.setClients s.clients.bump
    if res < 0 then replyResult env k tag (UInt32.ofNat (-res).toNat) s
    else
      let deviceId := match dict.getItem "DeviceID" with
        | some (.uint value) => value.toUInt32.toNat
        | _ => 0
      let known := (deviceGetList env true s.mux).any fun info => info.id = deviceId && info.serial = recordId
      let s := if 0 < deviceId ∧ known then s.setClients (clientDevicePaired env deviceId s.clients) else s
      replyResult env k tag resultOk s
  | _, _ => replyResult env k tag errInval s

/-- The `DeletePairRecord` command. -/
def deletePairRecord (env : Env) (k : ClientPtr) (tag : UInt32) (dict : Plist) (s : Daemon) : ℤ × Daemon :=
  match dict.getStringVal "PairRecordID" with
  | none => replyResult env k tag errInval s
  | some _ =>
    let res := (env.sock s.clients.tick).conf
    replyResult env k tag (if res < 0 then UInt32.ofNat (-res).toNat else resultOk) (s.setClients s.clients.bump)

/-- The commands of the property-list protocol, by their `MessageType`. -/
def plistCommand (env : Env) (k : ClientPtr) (tag : UInt32) (message : String) (dict : Plist) (s : Daemon) :
    ℤ × Daemon :=
  match message with
  | "Listen" => listenCommand env k tag s
  | "Connect" =>
    match connectRequest dict with
    | .noDevice => replyResult env k tag resultBadDev s
    | .noPort => replyResult env k tag resultBadCommand s
    | .target deviceId port => connectCommand env k tag deviceId port s
  | "ListDevices" => answered (sendDeviceList env k tag (deviceGetList env false s.mux) s.clients) s
  | "ListListeners" => answered (sendListenerList env k tag s.clients) s
  | "ReadBUID" => answered (sendSystemBuid env k tag s.clients) s
  | "ReadPairRecord" => answered (sendPairRecord env k tag (dict.getStringVal "PairRecordID") s.clients) s
  | "SavePairRecord" => savePairRecord env k tag dict s
  | "DeletePairRecord" => deletePairRecord env k tag dict s
  | _ => replyResult env k tag resultBadCommand s

/-- The request inside a frame, as `handle_command` reads it. -/
inductive Request where
  | badVersion
  | listen
  | connect (deviceId : UInt32) (port : UInt16)
  | plist (dict : Option Plist)
  | invalid
deriving Inhabited

/-- Take a frame apart: header words in host order, `MESSAGE_CONNECT` with its request behind
them, `MESSAGE_PLIST` with the XML up to the frame length. -/
def readRequest (env : Env) (frame : Bytes) : Request :=
  let version := le32At frame 4
  let message := le32At frame 8
  if version ≠ 0 ∧ version ≠ 1 then .badVersion
  else if message = 8 then
    .plist (env.plistFromXml (BigEndian.peek frame 16 ((le32At frame 0).toNat - 16)))
  else if message = 3 then .listen
  else if message = 2 then .connect (le32At frame 16) (be16At frame 20)
  else .invalid

/-- `MESSAGE_PLIST`: the client is answered in the same protocol from now on. -/
def plistInput (env : Env) (k : ClientPtr) (tag : UInt32) (dict : Option Plist) (s : Daemon) : ℤ × Daemon :=
  let s := s.setClients (s.clients.modify k fun client => { client with protoVersion := 1 })
  match dict with
  | none => (-1, s)
  | some dict =>
    match (dict.getItem "MessageType").bind Plist.stringVal? with
    | none => (-1, s)
    | some message => plistCommand env k tag message dict (s.setClients (updateClientInfo k dict s.clients))

/-- `handle_command` on the frame in the client's command buffer. -/
def handleCommand (env : Env) (k : ClientPtr) (frame : Bytes) (s : Daemon) : ℤ × Daemon :=
  match s.clients.client k with
  | none => (-1, s.setClients (s.clients.fault (.releasedClient k)))
  | some client =>
    let tag := le32At frame 12
    if client.state ≠ .command then
      let r := sendResult env k tag resultBadCommand s.clients
      let s := s.setClients r.2
      if r.1 < 0 then (-1, s) else (-1, clientClose env k s)
    else
      match readRequest env frame with
      | .badVersion => (0, (replyResult env k tag resultBadVersion s).2)
      | .listen => listenCommand env k tag s
      | .connect deviceId port => connectCommand env k tag deviceId port s
      | .plist dict => plistInput env k tag dict s
      | .invalid => replyResult env k tag resultBadCommand s

/-- `recv` into the command buffer at `ib_size`; `false` for an error, a blocked socket or end of
stream, and for a buffer that has been freed. -/
def receiveCommand (env : Env) (k : ClientPtr) (len : ℕ) (s : Clients) : Bool × Clients :=
  match s.client k with
  | none => (false, s.fault (.releasedClient k))
  | some client =>
    match client.ibBuf, (env.sock s.tick).recv with
    | some buffer, .received data =>
      let data := data.take len
      if data = [] then (false, s.bump)
      else
        (true, s.bump.setClient k { client with
          ibBuf := some (overwrite buffer client.ibSize.toNat data)
          ibSize := client.ibSize + UInt32.ofNat data.length })
    | _, _ => (false, s.bump)

/-- What the reader of a client finds after its receives. -/
inductive Framing where
  | close
  | waiting
  | crash
  | frame (bytes : Bytes)
deriving DecidableEq, Repr

/-- The second half of `input_buffer_process`, once a header is there. -/
def readFrame (env : Env) (k : ClientPtr) (didRead : Bool) (s : Clients) : Framing × Clients :=
  match s.client k with
  | none => (.crash, s.fault (.releasedClient k))
  | some client =>
    match client.ibBuf with
    | none => (.crash, s.fault (.nullBuffer k))
    | some buffer =>
      let length := le32At buffer 0
      if length > client.ibCapacity ∨ length < 16 then (.close, s)
      else if client.ibSize < length then
        if didRead then (.waiting, s)
        else
          let r := receiveCommand env k (length - client.ibSize).toNat s
          if r.1 then
            match r.2.client k with
            | none => (.crash, r.2.fault (.releasedClient k))
            | some client =>
              if client.ibSize < length then (.waiting, r.2) else (.frame (client.ibBuf.getD []), r.2)
          else (.close, r.2)
      else (.frame buffer, s)

/-- The receives of `input_buffer_process`: the header first, then the rest of the frame. -/
def readCommand (env : Env) (k : ClientPtr) (s : Clients) : Framing × Clients :=
  match s.client k with
  | none => (.crash, s.fault (.releasedClient k))
  | some client =>
    if client.ibSize < 16 then
      let r := receiveCommand env k (16 - client.ibSize).toNat s
      if r.1 then
        match r.2.client k with
        | none => (.crash, r.2.fault (.releasedClient k))
        | some client => if client.ibSize < 16 then (.waiting, r.2) else readFrame env k true r.2
      else (.close, r.2)
    else readFrame env k false s

/-- `input_buffer_process`. The store to `ib_size` after the command happens even when the command
has closed the client. -/
def inputBufferProcess (env : Env) (k : ClientPtr) (s : Daemon) : Daemon :=
  let r := readCommand env k s.clients
  let s := s.setClients r.2
  match r.1 with
  | .close => clientClose env k s
  | .waiting => s
  | .crash => s
  | .frame bytes =>
    let s := (handleCommand env k bytes s).2
    s.setClients (s.clients.modify k fun client => { client with ibSize := 0 })

/-- The output buffer after the socket took `size` bytes of `queue`. -/
def MuxClient.dequeue (client : MuxClient) (queue : Bytes) (size : ℕ) : MuxClient :=
  if size = queue.length then
    let client := { client with obBuf := some [], obSize := 0, events := { client.events with pollout := false } }
    if client.state = .connecting2 then
      { client with state := .connected, events := client.devents, obBuf := none }
    else client
  else { client with obBuf := some (queue.drop size), obSize := client.obSize - UInt32.ofNat size }

/-- `output_buffer_process`. -/
def outputBufferProcess (env : Env) (k : ClientPtr) (s : Daemon) : Daemon :=
  match s.clients.client k with
  | none => s.setClients (s.clients.fault (.releasedClient k))
  | some client =>
    if client.obSize = 0 then
      s.setClients (s.clients.setClient k { client with events := { client.events with pollout := false } })
    else
      let queue := client.obBuf.getD []
      let answer := (env.sock s.clients.tick).send
      let s := s.setClients s.clients.bump
      match answer with
      | .sent size =>
        if min size queue.length = 0 then clientClose env k s
        else
          s.setClients ((s.clients.setClient k (client.dequeue queue (min size queue.length))).logClient k
            (.sent (queue.take size)))
      | _ => clientClose env k s

/-- `client_process`. -/
def clientProcess (env : Env) (fd : ℤ) (events : PollMask) (s : Daemon) : Daemon :=
  match s.clients.clientList.find? (fun k => (s.clients.client k).any fun client => client.fd = fd) with
  | none => s
  | some k =>
    match s.clients.client k with
    | none => s
    | some client =>
      if client.state = .connected then deviceClientProcess env client.connectDevice k events s
      else if events.pollin then inputBufferProcess env k s
      else if events.pollout then outputBufferProcess env k s
      else s

end Usbmuxd
