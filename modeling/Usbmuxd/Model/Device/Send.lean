import Usbmuxd.ToMathlib.Collection
import Usbmuxd.Model.Device.State

/-! # Sending packets and opening connections

The part of `device.c` that never calls into `client.c`: lookups, `send_packet` with its
numbering, `send_tcp`, the source-port search, `device_start_connect`, `device_add` and the device
listing, together with `usb_send` of `usb.c`.
-/

namespace Usbmuxd

open Collection

/-- `get_mux_device_for_id`. -/
def getMuxDeviceForId (deviceId : ℕ) (s : Mux) : Option DevPtr :=
  s.deviceList.find? fun d => (s.dev d).id == deviceId

/-- Whether a connection pointer's client field equals `k`. -/
def Mux.hasClient (s : Mux) (k : ClientPtr) (c : ConnPtr) : Bool :=
  (s.conn c).any fun m => m.client == some k

/-- `get_mux_connection`: the first connection of `k` on the first device with that id. -/
def getMuxConnection (deviceId : ℕ) (k : ClientPtr) (s : Mux) : Option ConnPtr :=
  (getMuxDeviceForId deviceId s).bind fun d => (s.dev d).connections.find? (s.hasClient k)

/-- The read of `dev->connections` inside `get_mux_connection`. -/
def touchNamed (deviceId : ℕ) (s : Mux) : Mux :=
  match getMuxDeviceForId deviceId s with
  | none => s
  | some d => s.touchConnections d

/-- The first free value from `start` on, stepping past each one in use. -/
def probe {α : Type*} (used : α → Bool) (next : α → α) : ℕ → α → α
  | 0, start => start
  | fuel + 1, start => if used start then probe used next fuel (next start) else start

/-- `get_next_device_id`: every unsuccessful turn of its loop meets another device of the list. -/
def getNextDeviceId (s : Mux) : ℕ × Mux :=
  let id := probe (fun id => s.deviceList.any fun d => (s.dev d).id == id) (· + 1)
    (s.deviceList.length + 1) s.nextDeviceId
  (id, { s with nextDeviceId := id + 1 })

/-- `libusb_submit_transfer` followed by `collection_add` to `tx_xfers`. -/
def submitTransfer (env : Env) (u : UsbPtr) (buffer : Bytes) (s : Mux) : ℤ × Mux :=
  let res := (env.usb s.tick).submit
  if res < 0 then (res, s.bump)
  else (res, { s.bump with txXfers := Function.update s.txXfers u (s.txXfers u ++ [buffer]) })

/-- `usb_send`: the packet, and a zero-length packet when it fills its last USB packet. -/
def usbSend (env : Env) (u : UsbPtr) (buffer : Bytes) (s : Mux) : ℤ × Mux :=
  let r := submitTransfer env u buffer s
  if r.1 < 0 then r
  else if buffer.length % (env.usbDevice u).wMaxPacketSize = 0 then
    let z := submitTransfer env u [] r.2
    if z.1 < 0 then z else (0, z.2)
  else (0, r.2)

namespace MuxDevice

/-- A `SETUP` packet restarts the numbering of a version 2 device. -/
def restart (dev : MuxDevice) (proto : MuxProtocol) : MuxDevice :=
  if 2 ≤ dev.version ∧ proto = .setup then { dev with txSeq := some 0, rxSeq := some 0xFFFF } else dev

/-- `dev->tx_seq++` of a version 2 device. -/
def advance (dev : MuxDevice) : MuxDevice :=
  if 2 ≤ dev.version then { dev with txSeq := dev.txSeq.map (· + 1) } else dev

/-- The mux header for a packet of `total` bytes. -/
def muxHeader (dev : MuxDevice) (proto : MuxProtocol) (total : ℕ) : Bytes :=
  be32 proto.code ++ be32 (UInt32.ofNat total) ++
    if 2 ≤ dev.version then be32 0xfeedface ++ be16 (dev.txSeq.getD 0) ++ be16 (dev.rxSeq.getD 0) else []

/-- The buffer `send_packet` builds. -/
def packet (dev : MuxDevice) (proto : MuxProtocol) (header data : Bytes) : Bytes :=
  (dev.restart proto).muxHeader proto (muxHeaderSize dev.version + header.length + data.length) ++ header ++ data

/-- Whether a 16-byte header would be built from sequence numbers nothing has stored. -/
def unnumbered (dev : MuxDevice) : Bool :=
  2 ≤ dev.version && (dev.txSeq.isNone || dev.rxSeq.isNone)

end MuxDevice

/-- `send_packet`. -/
def sendPacket (env : Env) (d : DevPtr) (proto : MuxProtocol) (header data : Bytes) (s : Mux) : ℤ × Mux :=
  match proto.headerLength? with
  | none => (-1, s)
  | some hdrlen =>
    let dev := s.dev d
    let total := muxHeaderSize dev.version + hdrlen + data.length
    if usbMtu < total then (-1, s)
    else
      let packet := dev.packet proto (header.take hdrlen) data
      let s := if (dev.restart proto).unnumbered then s.fault (.uninitialisedSequence d) else s
      let r := usbSend env dev.usbdev packet (s.setDev d (dev.restart proto).advance)
      if r.1 < 0 then (r.1, r.2.logDev d (.failed packet)) else (total, r.2.logDev d (.sent packet))

/-- `send_anon_rst`. -/
def sendAnonRst (env : Env) (d : DevPtr) (sport dport : UInt16) (ack : UInt32) (s : Mux) : ℤ × Mux :=
  sendPacket env d .tcp
    (TcpHdr.encode ⟨sport, dport, 0, ack, 0x50, thRst, 0, 0, 0⟩) [] s

/-- `send_tcp`. -/
def sendTcp (env : Env) (c : ConnPtr) (flags : UInt8) (data : Bytes) (s : Mux) : ℤ × Mux :=
  match s.conn c with
  | none => (-1, s.fault (.releasedConnection c))
  | some m =>
    let r := sendPacket env m.dev .tcp (m.header flags).encode data s
    let s := r.2.logConn c (.segment (m.header flags) data r.1)
    if 0 ≤ r.1 then (r.1, (s.setConn c (m.acked (env.usb s.tick).now)).bump) else (r.1, s)

/-- `find_sport`: zero when the device has too many connections. Every unsuccessful turn of its
loop meets another connection. -/
def findSport (d : DevPtr) (s : Mux) : UInt16 × Mux :=
  let s := s.touchConnections d
  let dev := s.dev d
  if 65535 ≤ dev.connections.length then (0, s)
  else
    let used := fun port => dev.connections.any fun c => (s.conn c).any fun m => m.sport == port
    let port := probe used (· + 1) (dev.connections.length + 1) dev.nextSport
    (port, s.setDev d { dev with nextSport := port + 1 })

/-- The record `device_start_connect` fills in; the other fields are zeroed by `memset`. -/
def newConnection (d : DevPtr) (k : ClientPtr) (sport dport : UInt16) : MuxConnection where
  dev := d
  client := some k
  state := .connecting
  sport := sport
  dport := dport
  txSeq := 0
  txAck := 0
  txAcked := 0
  txWin := 131072
  rxSeq := 0
  rxRecvd := 0
  rxAck := 0
  rxWin := 0
  maxPayload := UInt32.ofNat (usbMtu - 16 - 20)
  sendable := 0
  ackPending := false
  ibBuf := []
  ibCapacity := connInbufSize
  obCapacity := connOutbufSize
  events := ⟨false, false⟩
  lastAckTime := 0

/-- Allocate a connection record. -/
def Mux.allocConn (s : Mux) (m : MuxConnection) : Mux :=
  { s.setConn s.nextConn m with nextConn := s.nextConn + 1 }

/-- `collection_add(&dev->connections, conn)`. -/
def Mux.addConnection (env : Env) (s : Mux) (d : DevPtr) (c : ConnPtr) : Mux :=
  (s.setDev d { s.dev d with connections := add (env.usb s.tick).slot c (s.dev d).connections }).bump

/-- `device_start_connect`: zero, or the negated result code. -/
def deviceStartConnect (env : Env) (deviceId : ℕ) (dport : UInt16) (k : ClientPtr) (s : Mux) : ℤ × Mux :=
  match getMuxDeviceForId deviceId s with
  | none => (-resultBadDev.toNat, s)
  | some d =>
    let p := findSport d s
    if p.1 = 0 then (-resultBadDev.toNat, p.2)
    else
      let c := p.2.nextConn
      let r := sendTcp env c thSyn [] (p.2.allocConn (newConnection d k p.1 dport))
      if r.1 < 0 then (-resultConnRefused.toNat, r.2.freeConn c)
      else (0, r.2.addConnection env d c)

/-- The version request of `device_add`. -/
def versionRequest : Bytes := be32 2 ++ be32 0 ++ be32 0

/-- The record `device_add` fills in before the version request. -/
def newDevice (u : UsbPtr) (id : ℕ) : MuxDevice where
  usbdev := u
  id := id
  state := .init
  visible := false
  initialised := false
  connections := []
  nextSport := 1
  pktbuf := []
  pktlen := 0
  preflightCbData := none
  version := 0
  rxSeq := none
  txSeq := none

/-- `device_add`. -/
def deviceAdd (env : Env) (u : UsbPtr) (s : Mux) : ℤ × Mux :=
  let n := getNextDeviceId s
  let d := n.2.nextDev
  let r := sendPacket env d .version versionRequest []
    { n.2.setDev d (newDevice u n.1) with nextDev := d + 1 }
  if r.1 < 0 then r
  else (0, { r.2.bump with deviceList := add (env.usb r.2.tick).slot d r.2.deviceList })

/-- `struct device_info`. -/
structure DeviceInfo where
  id : ℕ
  serial : String
  location : UInt32
  pid : UInt16
  speed : UInt64
deriving DecidableEq, Repr

/-- The information collected about a device. -/
def deviceInfo (env : Env) (dev : MuxDevice) : DeviceInfo :=
  let usb := env.usbDevice dev.usbdev
  ⟨dev.id, usb.serial, usb.location, usb.pid, usb.speed⟩

/-- `device_get_list`. -/
def deviceGetList (env : Env) (includeHidden : Bool) (s : Mux) : List DeviceInfo :=
  (s.deviceList.filter fun d => (s.dev d).state = .active && (includeHidden || (s.dev d).visible)).map
    fun d => deviceInfo env (s.dev d)

/-- `device_set_visible`. -/
def deviceSetVisible (deviceId : ℕ) (s : Mux) : Mux :=
  match getMuxDeviceForId deviceId s with
  | none => s
  | some d => s.setDev d { s.dev d with visible := true }

/-- `device_set_preflight_cb_data`. -/
def deviceSetPreflightCbData (deviceId : ℕ) (data : Option ℕ) (s : Mux) : Mux :=
  match getMuxDeviceForId deviceId s with
  | none => s
  | some d => s.setDev d { s.dev d with preflightCbData := data }

end Usbmuxd
