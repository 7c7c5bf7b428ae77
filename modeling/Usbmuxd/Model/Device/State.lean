import Mathlib.Logic.Function.Basic
import Usbmuxd.Model.Environment

/-! # Device and connection records

`Mux` holds the statics of `device.c` and the records they point to. Connections live in a heap
that `free` empties, so a use after release is visible as a fault instead of a stale read; device
records are only reached through `device_list` or a live connection. Logs are observations: what
was sent and received on each device, and what happened on each connection, in order. They never
influence the code.
-/

namespace Usbmuxd

/-- `enum mux_dev_state`. -/
inductive DevState where
  | init
  | active
  | dead
deriving DecidableEq, Repr, Inhabited

/-- `enum mux_conn_state`. -/
inductive ConnState where
  | connecting
  | connected
  | refused
  | dying
  | dead
deriving DecidableEq, Repr, Inhabited

/-- `struct mux_connection`. The list `ibBuf` is `ib_buf[0 .. ib_size)`; `ob_buf` only carries one
read to one send and is passed along there. -/
structure MuxConnection where
  dev : DevPtr
  client : Option ClientPtr
  state : ConnState
  sport : UInt16
  dport : UInt16
  txSeq : UInt32
  txAck : UInt32
  txAcked : UInt32
  txWin : UInt32
  rxSeq : UInt32
  rxRecvd : UInt32
  rxAck : UInt32
  rxWin : UInt32
  maxPayload : UInt32
  sendable : UInt32
  ackPending : Bool
  ibBuf : Bytes
  ibCapacity : UInt32
  obCapacity : UInt32
  events : PollMask
  lastAckTime : UInt64
deriving Repr, DecidableEq

/-- `struct mux_device`. `initialised` says whether `collection_init` has run on `connections`,
and the sequence numbers are absent until something stores them: `device_add` leaves all three to
whatever `malloc` returned. -/
structure MuxDevice where
  usbdev : UsbPtr
  id : ℕ
  state : DevState
  visible : Bool
  initialised : Bool
  connections : List ConnPtr
  nextSport : UInt16
  pktbuf : Bytes
  pktlen : ℕ
  preflightCbData : Option ℕ
  version : ℕ
  rxSeq : Option UInt16
  txSeq : Option UInt16
deriving Repr, DecidableEq, Inhabited

/-- What an observer of one device sees. -/
inductive WireEvent where
  /-- A packet handed to USB. -/
  | sent (packet : Bytes)
  /-- A packet that USB refused. -/
  | failed (packet : Bytes)
  /-- A packet that passed the length check of `device_data_input`, with its `rx_seq` field. The field
  of a packet that is too short for it is what a version 2 device has it read from, and zero for an
  older device. -/
  | received (packet : Bytes) (rxSeq : UInt16)
  /-- The version reply that makes the device active. -/
  | version (major : UInt32)
  | control (payload : Bytes)
  /-- The device becomes `MUXDEV_DEAD`. -/
  | dead
deriving Repr, DecidableEq

/-- What an observer of one connection sees. -/
inductive ConnEvent where
  /-- Acknowledgement and window fields taken from an incoming segment. -/
  | rx (ack win : UInt32)
  /-- A `SYN|ACK` with its sequence number, taken in `CONN_CONNECTING`. -/
  | synAck (seq : UInt32)
  /-- Payload stored by `connection_device_input`. -/
  | accepted (payload : Bytes)
  /-- Bytes written to the client by `device_client_process`. -/
  | wrote (bytes : Bytes)
  /-- Bytes written to the client by `connection_teardown`. -/
  | flushed (bytes : Bytes)
  /-- Bytes read from the client. -/
  | read (bytes : Bytes)
  /-- A segment passed to `send_packet`, with the result. -/
  | segment (th : TcpHdr) (data : Bytes) (res : ℤ)
deriving Repr, DecidableEq

/-- Uses of memory that C leaves undefined. -/
inductive MuxFault where
  | releasedConnection (c : ConnPtr)
  | uninitialisedConnections (d : DevPtr)
  | uninitialisedSequence (d : DevPtr)
  | discardedConnections (d : DevPtr)
deriving Repr, DecidableEq

/-- The statics of `device.c`, the heap behind them and the logs. -/
structure Mux where
  tick : ℕ
  deviceList : List DevPtr
  dev : DevPtr → MuxDevice
  nextDev : DevPtr
  nextDeviceId : ℕ
  conn : ConnPtr → Option MuxConnection
  nextConn : ConnPtr
  txXfers : UsbPtr → List Bytes
  devLog : DevPtr → List WireEvent
  connLog : ConnPtr → List ConnEvent
  faults : List MuxFault

namespace Mux

/-- State after `device_init`. -/
def initial : Mux where
  tick := 0
  deviceList := []
  dev := fun _ => default
  nextDev := 0
  nextDeviceId := 1
  conn := fun _ => none
  nextConn := 0
  txXfers := fun _ => []
  devLog := fun _ => []
  connLog := fun _ => []
  faults := []

def bump (s : Mux) : Mux := { s with tick := s.tick + 1 }

def setDev (s : Mux) (d : DevPtr) (dev : MuxDevice) : Mux :=
  { s with dev := Function.update s.dev d dev }

def setConn (s : Mux) (c : ConnPtr) (m : MuxConnection) : Mux :=
  { s with conn := Function.update s.conn c (some m) }

def freeConn (s : Mux) (c : ConnPtr) : Mux :=
  { s with conn := Function.update s.conn c none }

def logDev (s : Mux) (d : DevPtr) (event : WireEvent) : Mux :=
  { s with devLog := Function.update s.devLog d (s.devLog d ++ [event]) }

def logConn (s : Mux) (c : ConnPtr) (event : ConnEvent) : Mux :=
  { s with connLog := Function.update s.connLog c (s.connLog c ++ [event]) }

def fault (s : Mux) (fault : MuxFault) : Mux :=
  { s with faults := s.faults ++ [fault] }

/-- Update the fields of a connection; a released one is a fault and nothing is stored. -/
def modifyConn (s : Mux) (c : ConnPtr) (f : MuxConnection → MuxConnection) : Mux :=
  match s.conn c with
  | none => s.fault (.releasedConnection c)
  | some m => s.setConn c (f m)

/-- Reading a collection that `collection_init` has not prepared is a fault. The model then
continues with the content the record was created with, as if `malloc` had returned zeroed memory. -/
def touchConnections (s : Mux) (d : DevPtr) : Mux :=
  if (s.dev d).initialised then s else s.fault (.uninitialisedConnections d)

end Mux

namespace MuxConnection

/-- The header `send_tcp` builds. -/
def header (m : MuxConnection) (flags : UInt8) : TcpHdr where
  sport := m.sport
  dport := m.dport
  seq := m.txSeq
  ack := m.txAck
  off := 0x50
  flags := flags
  win := (m.txWin >>> 8).toUInt16
  sum := 0
  urp := 0

/-- The bookkeeping of `send_tcp` after a successful send. -/
def acked (m : MuxConnection) (now : UInt64) : MuxConnection :=
  { m with txAcked := m.txAck, lastAckTime := now, ackPending := false }

/-- Fields that `device_tcp_input` takes from every matching segment. -/
def receive (m : MuxConnection) (th : TcpHdr) : MuxConnection :=
  { m with rxSeq := th.seq, rxAck := th.ack, rxWin := th.win.toUInt32 <<< 8 }

/-- Counters set on `SYN|ACK`. -/
def opened (m : MuxConnection) : MuxConnection :=
  { m with txSeq := m.txSeq + 1, txAck := m.txAck + 1, rxRecvd := m.rxSeq }

/-- `ib_size`. -/
def ibSize (m : MuxConnection) : UInt32 := UInt32.ofNat m.ibBuf.length

/-- The copy of `connection_device_input`. -/
def accept (m : MuxConnection) (payload : Bytes) : MuxConnection :=
  { m with ibBuf := m.ibBuf ++ payload, rxRecvd := m.rxRecvd + UInt32.ofNat payload.length }

/-- Bytes leave the front of the in-buffer: the rest is moved down, or nothing is left. -/
def shift (m : MuxConnection) (size : ℕ) : MuxConnection :=
  { m with ibBuf := m.ibBuf.drop size }

/-- What `update_connection` may send next: the peer's window less what is in flight, cut to the
out-buffer and to the largest payload. -/
def sendableNow (m : MuxConnection) : UInt32 :=
  let sent := m.txSeq - m.rxAck
  let room := if m.rxWin > sent then m.rxWin - sent else 0
  let room := if room > m.obCapacity then m.obCapacity else room
  if room > m.maxPayload then m.maxPayload else room

/-- `update_connection`, up to the call of `client_set_events`. -/
def refresh (m : MuxConnection) : MuxConnection :=
  { m with
    sendable := m.sendableNow
    events := ⟨m.sendableNow > 0, m.ibSize ≠ 0⟩
    ackPending := m.txAcked ≠ m.txAck }

end MuxConnection

end Usbmuxd
