import Usbmuxd.Model.Connection

/-! # Input from devices, and devices coming and going

`device_data_input` with its reassembly buffer and protocol dispatch, the version handshake, and
the entry points that walk over all devices or connections.
-/

namespace Usbmuxd

open Collection

/-- `client_device_add`. -/
def clientDeviceAdd (env : Env) (info : DeviceInfo) (s : Daemon) : Daemon :=
  let s := s.setMux (deviceSetVisible info.id s.mux)
  s.setClients (notifyListeners (sendDeviceAdd env info) s.clients)

/-- `preflight_worker_device_add`. -/
def preflightWorkerDeviceAdd (env : Env) (info : DeviceInfo) (s : Daemon) : Daemon :=
  if info.pid = pidAppleT2Coprocessor ∨ env.noPreflight then clientDeviceAdd env info s
  else
    let started := (env.sock s.clients.tick).thread
    let s := s.setClients s.clients.bump
    if started then { s with workers := s.workers ++ [info] } else clientDeviceAdd env info s

/-- `dev->state = MUXDEV_ACTIVE` and `collection_init(&dev->connections)`. -/
def Mux.activate (s : Mux) (d : DevPtr) : Mux :=
  let s := if (s.dev d).connections = [] then s else s.fault (.discardedConnections d)
  s.setDev d { s.dev d with state := .active, initialised := true, connections := [] }

/-- `device_version_input`. -/
def deviceVersionInput (env : Env) (d : DevPtr) (vh : Bytes) (s : Daemon) : Daemon :=
  if (s.mux.dev d).state ≠ .init then s
  else
    let major := be32At vh 0
    if major ≠ 2 ∧ major ≠ 1 then s.setMux { s.mux with deviceList := s.mux.deviceList.erase d }
    else
      let mux := (s.mux.setDev d { s.mux.dev d with version := major.toNat }).logDev d (.version major)
      let mux := if 2 ≤ major.toNat then (sendPacket env d .setup [] [7] mux).2 else mux
      let mux := mux.activate d
      preflightWorkerDeviceAdd env (deviceInfo env (mux.dev d)) (s.setMux mux)

/-- The switch on the protocol number in `device_data_input`, with the slices it hands on. The
control payload is taken behind a full 16-byte header whatever the version. -/
inductive Dispatch where
  | versionInput (vh payload : Bytes)
  | controlInput (payload : Bytes)
  | tcpInput (th payload : Bytes)
  | tooSmall
  | unknown
deriving DecidableEq, Repr

/-- Classify a packet of `length` bytes at the start of `buffer`. -/
def dispatch (version : ℕ) (buffer : Bytes) (length : ℕ) : Dispatch :=
  let header := muxHeaderSize version
  let protocol := be32At buffer 0
  if protocol = MuxProtocol.version.code then
    if length < header + 12 then .tooSmall
    else .versionInput (BigEndian.peek buffer header 12) (BigEndian.peek buffer (header + 12) (length - header - 12))
  else if protocol = MuxProtocol.control.code then
    .controlInput (BigEndian.peek buffer 16 (UInt32.ofNat length - UInt32.ofNat header).toNat)
  else if protocol = MuxProtocol.tcp.code then
    if length < header + 20 then .tooSmall
    else .tcpInput (BigEndian.peek buffer header 20) (BigEndian.peek buffer (header + 20) (length - header - 20))
  else .unknown

/-- Run the handler a packet is dispatched to; `device_control_input` only logs. -/
def runDispatch (env : Env) (d : DevPtr) (dispatched : Dispatch) (s : Daemon) : Daemon :=
  match dispatched with
  | .versionInput vh _ => deviceVersionInput env d vh s
  | .controlInput payload => s.setMux (s.mux.logDev d (.control payload))
  | .tcpInput th payload => deviceTcpInput env d (TcpHdr.decode th) payload s
  | .tooSmall => s
  | .unknown => s

/-- A completed receive transfer: `length` bytes at the start of a buffer that may hold more. -/
structure Transfer where
  buffer : Bytes
  length : ℕ
  fits : length ≤ buffer.length

/-- The bytes a transfer delivers. -/
def Transfer.data (t : Transfer) : Bytes := t.buffer.take t.length

/-- What the reassembly part of `device_data_input` does with a transfer. -/
inductive Reassembly where
  | held
  | packet (buffer : Bytes) (length : ℕ)
deriving Repr

/-- The handling of broken-up transfers, and the device's buffer after it. -/
def reassemble (dev : MuxDevice) (t : Transfer) : Reassembly × MuxDevice :=
  if dev.pktlen ≠ 0 then
    if devMru < t.length + dev.pktlen then (.held, { dev with pktlen := 0 })
    else
      let pktbuf := overwrite dev.pktbuf dev.pktlen t.data
      if t.length < usbMru ∨ (be32At pktbuf 4).toNat = t.length + dev.pktlen then
        (.packet pktbuf (t.length + dev.pktlen), { dev with pktbuf := pktbuf, pktlen := 0 })
      else (.held, { dev with pktbuf := pktbuf, pktlen := dev.pktlen + t.length })
  else if t.length = usbMru ∧ t.length < (be32At t.buffer 4).toNat then
    (.held, { dev with pktbuf := overwrite dev.pktbuf 0 t.data, pktlen := t.length })
  else (.packet t.buffer t.length, dev)

/-- `dev->rx_seq` of a version 2 device follows the packet. -/
def MuxDevice.track (dev : MuxDevice) (buffer : Bytes) : MuxDevice :=
  if 2 ≤ dev.version then { dev with rxSeq := some (be16At buffer 14) } else dev

/-- The `rx_seq` field of a packet in the log: what the code reads or the packet contains. -/
def MuxDevice.rxSeqSeen (dev : MuxDevice) (buffer : Bytes) (length : ℕ) : UInt16 :=
  if 2 ≤ dev.version ∨ 16 ≤ length then be16At buffer 14 else 0

/-- The rest of `device_data_input`, for a whole packet. -/
def packetInput (env : Env) (d : DevPtr) (buffer : Bytes) (length : ℕ) (s : Daemon) : Daemon :=
  if (be32At buffer 4).toNat ≠ length then s
  else
    let dev := s.mux.dev d
    let mux := (s.mux.setDev d (dev.track buffer)).logDev d
      (.received (buffer.take length) (dev.rxSeqSeen buffer length))
    runDispatch env d (dispatch dev.version buffer length) (s.setMux mux)

/-- The mux device of a USB device. -/
def findDevice (u : UsbPtr) (s : Mux) : Option DevPtr :=
  s.deviceList.find? fun d => (s.dev d).usbdev == u

/-- `device_data_input`. -/
def deviceDataInput (env : Env) (u : UsbPtr) (t : Transfer) (s : Daemon) : Daemon :=
  match findDevice u s.mux with
  | none => s
  | some d =>
    if t.length = 0 then s
    else if usbMru < t.length ∨ devMru < t.length then s
    else
      let r := reassemble (s.mux.dev d) t
      let s := s.setMux (s.mux.setDev d r.2)
      match r.1 with
      | .held => s
      | .packet buffer length => packetInput env d buffer length s

/-- The connections of a device, as a loop over them sees them. -/
def Daemon.connections (d : DevPtr) (s : Daemon) : List ConnPtr := (s.mux.dev d).connections

/-- Tear down every connection of a device. -/
def teardownAll (env : Env) (d : DevPtr) (s : Daemon) : Daemon :=
  forEach (Daemon.connections d) (connectionTeardown env) s

/-- The part of `device_remove` for a device that had become active. -/
def deactivate (env : Env) (d : DevPtr) (s : Daemon) : Daemon :=
  let s := s.setMux ((s.mux.setDev d { s.mux.dev d with state := .dead }).logDev d .dead)
  let s := teardownAll env d s
  let s := s.setClients (clientDeviceRemove env (s.mux.dev d).id s.clients)
  s.setMux (s.mux.setDev d { s.mux.dev d with connections := [] })

/-- `device_remove`. The preflight callback only stops the worker of the device. -/
def deviceRemove (env : Env) (u : UsbPtr) (s : Daemon) : Daemon :=
  match findDevice u s.mux with
  | none => s
  | some d =>
    let s := if (s.mux.dev d).state = .active then deactivate env d s else s
    s.setMux { s.mux with deviceList := s.mux.deviceList.erase d }

/-- Whether `device_check_timeouts` acknowledges a connection at time `ct`. -/
def MuxConnection.ackDue (ct : UInt64) (m : MuxConnection) : Bool :=
  m.state = .connected && m.ackPending && ct - m.lastAckTime > ackTimeout

/-- `device_check_timeouts`. -/
def deviceCheckTimeouts (env : Env) (s : Daemon) : Daemon :=
  let ct := (env.usb s.mux.tick).now
  forEach (fun s => s.mux.deviceList)
    (fun d s => if (s.mux.dev d).state = .active then
      forEach (Daemon.connections d)
        (fun c s => if (s.mux.conn c).any (MuxConnection.ackDue ct) then sendTcpAck env c s else s) s
      else s)
    (s.setMux s.mux.bump)

/-- The loop of `device_kill_connections`; afterwards `main` only lets USB events through. -/
def deviceKillConnections (env : Env) (s : Daemon) : Daemon :=
  { forEach (fun s => s.mux.deviceList)
      (fun d s => if (s.mux.dev d).state ≠ .init then teardownAll env d s else s) s with phase := .draining }

/-- One device of the loop in `device_shutdown`. -/
def shutdownDevice (env : Env) (d : DevPtr) (s : Daemon) : Daemon :=
  let s := teardownAll env d (s.setMux (s.mux.touchConnections d))
  s.setMux { s.mux.setDev d { s.mux.dev d with connections := [] } with
    deviceList := s.mux.deviceList.erase d }

/-- `usb_shutdown`, which removes the device behind every USB device, then `device_shutdown`. -/
def deviceShutdown (env : Env) (s : Daemon) : Daemon :=
  let usbs := s.mux.deviceList.map fun d => (s.mux.dev d).usbdev
  let s := usbs.foldl (fun s u => deviceRemove env u s) s
  { forEach (fun s => s.mux.deviceList) (shutdownDevice env) s with phase := .closing }

/-- `client_shutdown`. -/
def clientShutdown (env : Env) (s : Daemon) : Daemon :=
  { forEach (fun s => s.clients.clientList) (clientClose env) s with phase := .stopped }

end Usbmuxd
