import Usbmuxd.ToMathlib.Collection
import Usbmuxd.Model.Usb.Descriptors

/-! # USB devices and their transfers

The `struct usb_device` of `usb.c`, the transfers that libusb holds, and the functions that submit bulk
transfers or are called back for them. libusb calls back once for every successful submission; until
then the transfer is in flight.
-/

namespace Usbmuxd

open Collection

/-- Addresses of `struct libusb_transfer`. -/
abbrev XferPtr := ℕ

/-- `struct usb_device`. The last four fields only observe: whether `alive` was cleared because the
device left, a transfer failed or the start-up failed; whether the device acknowledged a switch of its
mode; whether `device_add` succeeded for it; and whether a receive loop was started. -/
structure UsbEntry where
  handle : Option ℕ
  bus : UInt8
  address : UInt8
  serial : Bytes
  alive : Bool
  endpoints : Endpoints
  rxXfers : List XferPtr
  txXfers : List XferPtr
  wMaxPacketSize : ℕ
  speed : UInt64
  bNumConfigurations : UInt8
  idProduct : UInt16
  lost : Bool
  switched : Bool
  added : Bool
  receiving : Bool
deriving DecidableEq, Repr

/-- `struct mode_context`. -/
structure ModeContext where
  dev : LibusbDevice
  bus : UInt8
  address : UInt8
deriving DecidableEq, Repr

/-- The callback of a transfer with its `user_data`, and the device handle where it is used. -/
inductive Callback where
  | rx (u : UsbPtr)
  | tx (u : UsbPtr)
  | getMode (context : ModeContext) (handle : ℕ)
  | switchMode (context : ModeContext) (handle : ℕ)
  | getLangid (u : UsbPtr)
  | getSerial (u : UsbPtr)
deriving DecidableEq, Repr

inductive TransferStatus where
  | completed
  | error
  | timedOut
  | cancelled
  | stall
  | noDevice
  | overflow
deriving DecidableEq, Repr

/-- Accesses the C code must not make. -/
inductive UsbFault where
  /-- A `struct usb_device` that has been freed. -/
  | freedDevice (u : UsbPtr)
  /-- The remainder by a packet size of zero. -/
  | zeroPacketSize (u : UsbPtr)
deriving DecidableEq, Repr

/-- The state of `usb.c` and of libusb. -/
structure Usb where
  tick : ℕ
  deviceList : List UsbPtr
  entry : UsbPtr → Option UsbEntry
  nextUsb : UsbPtr
  nextHandle : ℕ
  inFlight : XferPtr → Option Callback
  nextXfer : XferPtr
  devlistFailures : ℕ
  deviceHotplug : Bool
  faults : List UsbFault

namespace Usb

/-- State after `usb_init`, before the first device. -/
def initial : Usb where
  tick := 0
  deviceList := []
  entry := fun _ => none
  nextUsb := 0
  nextHandle := 0
  inFlight := fun _ => none
  nextXfer := 0
  devlistFailures := 0
  deviceHotplug := true
  faults := []

def bump (s : Usb) : Usb := { s with tick := s.tick + 1 }

def fault (s : Usb) (f : UsbFault) : Usb := { s with faults := s.faults ++ [f] }

def setEntry (s : Usb) (u : UsbPtr) (e : Option UsbEntry) : Usb := { s with entry := Function.update s.entry u e }

/-- Update the fields of a device; a freed one is a fault and nothing is stored. -/
def modify (s : Usb) (u : UsbPtr) (f : UsbEntry → UsbEntry) : Usb :=
  match s.entry u with
  | some e => s.setEntry u (some (f e))
  | none => s.fault (.freedDevice u)

/-- A read of a device, which must not have been freed. -/
def touch (s : Usb) (u : UsbPtr) : Usb :=
  match s.entry u with
  | some _ => s
  | none => s.fault (.freedDevice u)

/-- `usbdev->alive = 0` on a failure. -/
def fail (s : Usb) (u : UsbPtr) : Usb := s.modify u fun e => { e with alive := false, lost := true }

/-- `libusb_alloc_transfer`. -/
def allocTransfer (s : Usb) : XferPtr × Usb := (s.nextXfer, { s with nextXfer := s.nextXfer + 1 })

/-- `libusb_submit_transfer`. -/
def submit (env : UsbEnv) (x : XferPtr) (callback : Callback) (s : Usb) : ℤ × Usb :=
  let res := (env.answers s.tick).result
  (res, if res < 0 then s.bump else { s.bump with inFlight := Function.update s.inFlight x (some callback) })

/-- Submit another transfer of `usb_send` and add it to `tx_xfers`. -/
def submitTx (env : UsbEnv) (u : UsbPtr) (s : Usb) : ℤ × Usb :=
  let a := s.allocTransfer
  let r := submit env a.1 (.tx u) a.2
  if r.1 < 0 then r
  else
    let slot := (env.answers r.2.tick).slot
    (r.1, r.2.bump.modify u fun e => { e with txXfers := add slot a.1 e.txXfers })

/-- `usb_send` of a buffer of `length` bytes. -/
def usbSend (env : UsbEnv) (u : UsbPtr) (length : ℕ) (s : Usb) : ℤ × Usb :=
  match s.entry u with
  | none => (0, s.fault (.freedDevice u))
  | some e =>
    let r := submitTx env u s
    if r.1 < 0 then r
    else if e.wMaxPacketSize = 0 then (0, r.2.fault (.zeroPacketSize u))
    else if length % e.wMaxPacketSize = 0 then
      let z := submitTx env u r.2
      if z.1 < 0 then z else (0, z.2)
    else (0, r.2)

/-- The calls of `usb_send` that `device_data_input` makes. -/
def usbSends (env : UsbEnv) (sends : List (UsbPtr × ℕ)) (s : Usb) : Usb :=
  sends.foldl (fun s send => (usbSend env send.1 send.2 s).2) s

/-- `tx_callback`. -/
def txCallback (x : XferPtr) (u : UsbPtr) (status : TransferStatus) (s : Usb) : Usb :=
  let s := if status ≠ .completed then s.fail u else s
  s.modify u fun e => { e with txXfers := e.txXfers.erase x }

/-- `rx_callback`; `device_data_input` sends what it wants to send before the transfer is submitted
again, and the result of that is ignored. -/
def rxCallback (env : UsbEnv) (x : XferPtr) (u : UsbPtr) (status : TransferStatus) (sends : List (UsbPtr × ℕ))
    (s : Usb) : Usb :=
  if status = .completed then (submit env x (.rx u) (usbSends env sends (s.touch u))).2
  else (s.modify u fun e => { e with rxXfers := e.rxXfers.erase x }).fail u

/-- `start_rx_loop`. -/
def startRxLoop (env : UsbEnv) (u : UsbPtr) (s : Usb) : ℤ × Usb :=
  let a := s.allocTransfer
  let r := submit env a.1 (.rx u) a.2
  if r.1 ≠ 0 then r
  else
    let slot := (env.answers r.2.tick).slot
    (0, r.2.bump.modify u fun e => { e with rxXfers := add slot a.1 e.rxXfers })

end Usb

end Usbmuxd
