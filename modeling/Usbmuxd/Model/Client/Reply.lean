import Usbmuxd.ToMathlib.Collection
import Usbmuxd.Model.Client.State
import Usbmuxd.Model.Device.Send

/-! # Client sockets and queued messages

The part of `client.c` that never calls into `device.c`: the socket primitives used by the tunnel,
the output buffer with its growth, every kind of reply, and `client_notify_connect`.
-/

namespace Usbmuxd

open Collection

/-- `client_read`: the bytes read, none for an error, a blocked socket or end of stream. -/
def clientRead (env : Env) (k : ClientPtr) (len : UInt32) (s : Clients) : Option Bytes × Clients :=
  match s.client k with
  | none => (none, s.fault (.releasedClient k))
  | some client =>
    if client.state ≠ .connected then (none, s)
    else
      match (env.sock s.tick).recv with
      | .error => (none, s.bump)
      | .wouldBlock => (none, s.bump)
      | .received data =>
        let data := data.take len.toNat
        if data = [] then (none, s.bump) else (some data, s.bump)

/-- `client_write`: the number of bytes the socket took, zero when it would block. -/
def clientWrite (env : Env) (k : ClientPtr) (buffer : Bytes) (s : Clients) : ℤ × Clients :=
  match s.client k with
  | none => (-1, s.fault (.releasedClient k))
  | some client =>
    if client.state ≠ .connected then (-1, s)
    else
      match (env.sock s.tick).send with
      | .error => (-1, s.bump)
      | .wouldBlock => (0, s.bump)
      | .sent size => ((min size buffer.length : ℕ), s.bump.logClient k (.tunnelled (buffer.take size)))

/-- `client_set_events`. -/
def clientSetEvents (k : ClientPtr) (events : PollMask) (s : Clients) : Clients :=
  s.modify k fun client =>
    if client.state = .connected then { client with devents := events, events := events }
    else if client.state = .connecting2 then { client with devents := events }
    else client

/-- `struct usbmuxd_header` in host order. -/
def usbmuxdHeader (length version message tag : UInt32) : Bytes :=
  le32 length ++ le32 version ++ le32 message ++ le32 tag

/-- A `uint32_t` returned as `int`. -/
def asInt (value : UInt32) : ℤ := if value.toNat < 2 ^ 31 then value.toNat else (value.toNat : ℤ) - 2 ^ 32

namespace MuxClient

/-- The length field of a message with this payload. -/
def messageLength (payload : Bytes) : UInt32 := 16 + UInt32.ofNat payload.length

/-- The capacity an output buffer grows to. -/
def enlarged (client : MuxClient) (payload : Bytes) : UInt32 :=
  (client.obCapacity + messageLength payload + 4096) / 4096 * 4096

/-- Append header and payload at `ob_size`. -/
def enqueue (client : MuxClient) (tag : UInt32) (msg : MsgType) (payload queue : Bytes) : MuxClient :=
  { client with
    obBuf := some (queue ++
      usbmuxdHeader (messageLength payload) client.protoVersion msg.code tag ++ payload)
    obSize := client.obSize + messageLength payload
    events := { client.events with pollout := true } }

end MuxClient

/-- The two `memcpy` of a message at `ob_size`. They leave the buffer when the size it was enlarged to
has wrapped around, and when the length of the payload is negative as an `int`. -/
def Clients.checkRoom (s : Clients) (k : ClientPtr) (client : MuxClient) (payload : Bytes) : Clients :=
  if payload.length < 2 ^ 31 ∧ client.obSize.toNat + 16 + payload.length ≤ client.obCapacity.toNat then s
  else s.fault (.overrun k)

/-- `output_buffer_add_message`. -/
def outputBufferAddMessage (env : Env) (k : ClientPtr) (tag : UInt32) (msg : MsgType) (payload : Bytes)
    (s : Clients) : ℤ × Clients :=
  match s.client k with
  | none => (-1, s.fault (.releasedClient k))
  | some client =>
    let length := MuxClient.messageLength payload
    if client.obCapacity - client.obSize < length then
      if (env.sock s.tick).alloc then
        let client := { client with obCapacity := client.enlarged payload }
        (asInt length, ((s.bump.checkRoom k client payload).setClient k
          (client.enqueue tag msg payload (client.obBuf.getD []))).logClient k (.queued tag msg payload))
      else (-1, s.bump)
    else
      match client.obBuf with
      | none => (-1, s.fault (.nullBuffer k))
      | some queue =>
        (asInt length, ((s.checkRoom k client payload).setClient k
          (client.enqueue tag msg payload queue)).logClient k (.queued tag msg payload))

/-- `send_plist`. -/
def sendPlist (env : Env) (k : ClientPtr) (tag : UInt32) (plist : Plist) (s : Clients) : ℤ × Clients :=
  if (env.sock s.tick).alloc then outputBufferAddMessage env k tag .plist (env.plistToXml plist) s.bump
  else (-1, s.bump)

/-- The protocol version a client last used, zero for a released one. -/
def Clients.protoVersion (s : Clients) (k : ClientPtr) : UInt32 :=
  ((s.client k).map (·.protoVersion)).getD 0

/-- `send_result`. -/
def sendResult (env : Env) (k : ClientPtr) (tag number : UInt32) (s : Clients) : ℤ × Clients :=
  let r := if s.protoVersion k = 1 then sendPlist env k tag (Plist.result number) s
    else outputBufferAddMessage env k tag .result (le32 number) s
  if r.1 < 0 then r else (r.1, r.2.logClient k (.result tag number))

/-- `client_notify_connect`. -/
def clientNotifyConnect (env : Env) (k : ClientPtr) (number : UInt32) (s : Clients) : ℤ × Clients :=
  match s.client k with
  | none => (-1, s.fault (.releasedClient k))
  | some client =>
    if client.state ≠ .connecting1 then (-1, s)
    else
      let r := sendResult env k client.connectTag number s
      if r.1 < 0 then (-1, r.2)
      else if number = resultOk then
        (0, r.2.modify k fun client =>
          { client with state := .connecting2, events := ⟨false, true⟩, ibBuf := none })
      else (0, r.2.modify k fun client => { client with state := .command })

/-- `create_device_attached_plist`. -/
def createDeviceAttachedPlist (dev : DeviceInfo) : Plist :=
  .dict [("MessageType", .string "Attached"), ("DeviceID", .uint (UInt64.ofNat dev.id)),
    ("Properties", .dict [("ConnectionSpeed", .uint dev.speed), ("ConnectionType", .string "USB"),
      ("DeviceID", .uint (UInt64.ofNat dev.id)), ("LocationID", .uint dev.location.toUInt64),
      ("ProductID", .uint dev.pid.toUInt64), ("SerialNumber", .string dev.serial)])]

/-- `strncpy` of a serial number into its 256-byte field, the last byte zero. -/
def serialField (serial : String) : Bytes :=
  let text := (serial.toUTF8.toList.takeWhile (· ≠ 0)).take 255
  text ++ List.replicate (256 - text.length) 0

/-- `struct usbmuxd_device_record` in host order. -/
def deviceRecord (dev : DeviceInfo) : Bytes :=
  le32 (UInt32.ofNat dev.id) ++ (be16 dev.pid).reverse ++ serialField dev.serial ++ [0, 0] ++ le32 dev.location

/-- `send_device_list`. -/
def sendDeviceList (env : Env) (k : ClientPtr) (tag : UInt32) (devices : List DeviceInfo) (s : Clients) :
    ℤ × Clients :=
  sendPlist env k tag (.dict [("DeviceList", .array (devices.map createDeviceAttachedPlist))]) s

/-- The entry of `send_listener_list` for one listener. The number printed is the one of the
client that asked. -/
def listenerEntry (asking listener : MuxClient) : Plist :=
  let progname := ((listener.info.bind (·.getItem "ProgName")).bind Plist.stringVal?).getD "unknown"
  let version := ((listener.info.bind (·.getItem "kLibUSBMuxVersion")).map Plist.uintVal).getD 0
  let bundle := (listener.info.bind (·.getItem "BundleID")).toList.map fun node => ("BundleID", node)
  .dict ([("Blacklisted", .bool false)] ++ bundle ++ [("ConnType", .uint 0),
    ("ID String", .string (toString asking.number.toNat ++ "-" ++ progname)),
    ("ProgName", .string progname), ("kLibUSBMuxVersion", .uint version)])

/-- The clients in `CLIENT_LISTEN`, in list order. -/
def Clients.listeners (s : Clients) : List ClientPtr :=
  s.clientList.filter fun k => (s.client k).any fun client => client.state = .listen

/-- `send_listener_list`. -/
def sendListenerList (env : Env) (k : ClientPtr) (tag : UInt32) (s : Clients) : ℤ × Clients :=
  match s.client k with
  | none => (-1, s.fault (.releasedClient k))
  | some asking =>
    let entries := (s.listeners.filterMap s.client).map (listenerEntry asking)
    sendPlist env k tag (.dict [("ListenerList", .array entries)]) s

/-- `send_system_buid`. -/
def sendSystemBuid (env : Env) (k : ClientPtr) (tag : UInt32) (s : Clients) : ℤ × Clients :=
  sendPlist env k tag (.dict [("BUID", .string (env.sock s.tick).buid)]) s.bump

/-- `EINVAL` and `ENOENT` as reply numbers. -/
def errInval : UInt32 := 22
def errNoent : UInt32 := 2

/-- `send_pair_record`. -/
def sendPairRecord (env : Env) (k : ClientPtr) (tag : UInt32) (recordId : Option String) (s : Clients) :
    ℤ × Clients :=
  match recordId with
  | none => sendResult env k tag errInval s
  | some _ =>
    match (env.sock s.tick).record with
    | some data => sendPlist env k tag (.dict [("PairRecordData", .data data)]) s.bump
    | none => sendResult env k tag errNoent s.bump

/-- One of the three device events: an XML property list or a binary record, both with tag 0. -/
def sendDeviceEvent (env : Env) (msg : MsgType) (plist : Plist) (payload : Bytes) (k : ClientPtr)
    (s : Clients) : ℤ × Clients :=
  if s.protoVersion k = 1 then sendPlist env k 0 plist s else outputBufferAddMessage env k 0 msg payload s

/-- `send_device_add`. -/
def sendDeviceAdd (env : Env) (dev : DeviceInfo) : ClientPtr → Clients → ℤ × Clients :=
  sendDeviceEvent env .deviceAdd (createDeviceAttachedPlist dev) (deviceRecord dev)

/-- A dictionary of the detached or paired kind. -/
def deviceIdPlist (message : String) (deviceId : ℕ) : Plist :=
  .dict [("MessageType", .string message), ("DeviceID", .uint (UInt64.ofNat deviceId))]

/-- `send_device_remove`. -/
def sendDeviceRemove (env : Env) (deviceId : ℕ) : ClientPtr → Clients → ℤ × Clients :=
  sendDeviceEvent env .deviceRemove (deviceIdPlist "Detached" deviceId) (le32 (UInt32.ofNat deviceId))

/-- `send_device_paired`. -/
def sendDevicePaired (env : Env) (deviceId : ℕ) : ClientPtr → Clients → ℤ × Clients :=
  sendDeviceEvent env .devicePaired (deviceIdPlist "Paired" deviceId) (le32 (UInt32.ofNat deviceId))

/-- Send a device event to every listener, ignoring failures. -/
def notifyListeners (send : ClientPtr → Clients → ℤ × Clients) (s : Clients) : Clients :=
  forEach Clients.clientList
    (fun k s => if (s.client k).any (fun client => client.state = .listen) then (send k s).2 else s) s

/-- `client_device_remove`. -/
def clientDeviceRemove (env : Env) (deviceId : ℕ) : Clients → Clients :=
  notifyListeners (sendDeviceRemove env deviceId)

/-- `client_device_paired`. -/
def clientDevicePaired (env : Env) (deviceId : ℕ) : Clients → Clients :=
  notifyListeners (sendDevicePaired env deviceId)

/-- `update_client_info`. -/
def updateClientInfo (k : ClientPtr) (dict : Plist) (s : Clients) : Clients :=
  let keys := ["BundleID", "ClientVersionString", "ProgName", "kLibUSBMuxVersion"]
  s.modify k fun client =>
    { client with info := some (.dict (keys.filterMap fun key => (dict.getItem key).map fun node => (key, node))) }

/-- The record `client_accept` fills in. -/
def newClient (fd : ℤ) (number : UInt32) : MuxClient where
  fd := fd
  obBuf := some []
  obSize := 0
  obCapacity := replyBufSize
  ibBuf := some []
  ibSize := 0
  ibCapacity := cmdBufSize
  events := ⟨true, false⟩
  devents := ⟨false, false⟩
  connectTag := 0
  connectDevice := 0
  state := .command
  protoVersion := 0
  number := number
  info := none

/-- `client_accept`. -/
def clientAccept (env : Env) (s : Clients) : Clients :=
  let answer := env.sock s.tick
  if answer.accept < 0 then s.bump
  else
    let k := s.nextClient
    { s.bump.setClient k (newClient answer.accept s.clientNumber) with
      nextClient := k + 1
      clientNumber := s.clientNumber + 1
      clientList := add answer.slot k s.clientList }

end Usbmuxd
