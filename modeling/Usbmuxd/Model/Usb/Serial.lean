import Usbmuxd.Model.Usb.Descriptors
import Usbmuxd.ToMathlib.Buffer

/-! # The serial number in its buffer

`get_serial_callback` again, with every store into `usbdev->serial`. A store outside of the array has no
result.
-/

namespace Usbmuxd

/-- `char serial[256]` of `struct usb_device`. -/
abbrev SerialBuffer := Vector UInt8 256

/-- The loop of `get_serial_callback`, with the index `di` at which it ends. -/
def serialLoop (data : Bytes) (di si : ℕ) (serial : SerialBuffer) : Option (ℕ × SerialBuffer) :=
  if si < (data.getD 0 0).toNat ∧ di < 256 - 1 then
    if data.getD si 0 &&& 0x80 ≠ 0 ∨ data.getD (si + 1) 0 ≠ 0 then
      (Buffer.store serial di [63]).bind fun serial => serialLoop data (di + 1) (si + 2) serial
    else if data.getD si 0 = 0 then some (di, serial)
    else (Buffer.store serial di [data.getD si 0]).bind fun serial => serialLoop data (di + 1) (si + 2) serial
  else some (di, serial)
termination_by (data.getD 0 0).toNat - si
decreasing_by all_goals omega

/-- The hyphen of a new style UDID. -/
def insertHyphen (di : ℕ) (serial : SerialBuffer) : Option SerialBuffer :=
  if di = 24 then do
    let serial ← Buffer.move serial 9 8 16
    let serial ← Buffer.store serial 8 [45]
    Buffer.store serial (di + 1) [0]
  else some serial

/-- What `get_serial_callback` leaves in `usbdev->serial`. -/
def storeSerial (data : Bytes) (serial : SerialBuffer) : Option SerialBuffer := do
  let (di, serial) ← serialLoop data 0 2 serial
  let serial ← Buffer.store serial di [0]
  insertHyphen di serial

end Usbmuxd
