import Usbmuxd.Model.Packet

/-! # What the daemon is told from outside

Results of system calls, of libusb and of allocation arrive on two tapes, one consumed by
`device.c` and one by `client.c`; every call takes the next answer. Quantifying over the tapes
quantifies over every behaviour of the outside world. Property lists are kept as trees, and
libplist's XML conversions are parameters.
-/

namespace Usbmuxd

/-- Addresses of `struct usb_device`, `mux_device`, `mux_connection` and `mux_client`. -/
abbrev UsbPtr := ℕ
abbrev DevPtr := ℕ
abbrev ConnPtr := ℕ
abbrev ClientPtr := ℕ

/-- What `device.c` and `usb.c` are answered by one outside call. -/
structure UsbAnswer where
  /-- Result of `libusb_submit_transfer`. -/
  submit : ℤ
  /-- Value of `mstime64`. -/
  now : UInt64
  /-- Position at which `collection_add` stores a pointer. -/
  slot : ℕ
deriving Repr

/-- Result of `send` on a client socket; a count is cut to the offered length. -/
inductive SendResult where
  | error
  | wouldBlock
  | sent (size : ℕ)
deriving DecidableEq, Repr

/-- Result of `recv` on a client socket; data is cut to the requested length, none is end of stream. -/
inductive RecvResult where
  | error
  | wouldBlock
  | received (data : Bytes)
deriving DecidableEq, Repr

/-- What `client.c` is answered by one outside call. -/
structure ClientAnswer where
  send : SendResult
  recv : RecvResult
  /-- Descriptor returned by `accept`. -/
  accept : ℤ
  /-- Whether the allocation behind a queued message succeeds. -/
  alloc : Bool
  /-- Position at which `collection_add` stores a pointer. -/
  slot : ℕ
  /-- Whether the preflight worker thread could be started. -/
  thread : Bool
  /-- Result of `config_set_device_record` or `config_remove_device_record`. -/
  conf : ℤ
  /-- Record found by `config_get_device_record`. -/
  record : Option Bytes
  /-- String found by `config_get_system_buid`. -/
  buid : String

/-- The property-list nodes the daemon builds and inspects. -/
inductive Plist where
  | bool (value : Bool)
  | uint (value : UInt64)
  | string (value : String)
  | data (value : Bytes)
  | array (items : List Plist)
  | dict (entries : List (String × Plist))
  | other

namespace Plist

/-- `plist_dict_get_item`. -/
def getItem (node : Plist) (key : String) : Option Plist :=
  match node with
  | dict entries => (entries.find? (fun entry => entry.1 == key)).map Prod.snd
  | _ => none

/-- `plist_get_string_val`. -/
def stringVal? : Plist → Option String
  | string value => some value
  | _ => none

/-- `plist_get_uint_val` into a variable that holds zero. -/
def uintVal : Plist → UInt64
  | uint value => value
  | _ => 0

/-- `plist_get_data_val` behind a check for `PLIST_DATA`. -/
def dataVal? : Plist → Option Bytes
  | data value => some value
  | _ => none

/-- `plist_dict_get_string_val` of `client.c`. -/
def getStringVal (node : Plist) (key : String) : Option String :=
  (node.getItem key).bind stringVal?

/-- The `Result` dictionary of `send_result`. -/
def result (number : UInt32) : Plist :=
  dict [("MessageType", string "Result"), ("Number", uint number.toUInt64)]

end Plist

/-- What the mux layer reads from a `struct usb_device`. -/
structure UsbDevice where
  wMaxPacketSize : ℕ
  serial : String
  location : UInt32
  pid : UInt16
  speed : UInt64
deriving Repr

/-- The outside world: both tapes, the opened USB devices, libplist and the command line. -/
structure Env where
  usb : ℕ → UsbAnswer
  sock : ℕ → ClientAnswer
  usbDevice : UsbPtr → UsbDevice
  plistFromXml : Bytes → Option Plist
  plistToXml : Plist → Bytes
  noPreflight : Bool
  /-- The XML form of a `Result` dictionary is far below the 2 GiB that a message length can name. -/
  resultXml_fits : ∀ number, (plistToXml (Plist.result number)).length + 16 < 2 ^ 31

/-- `POLLIN` and `POLLOUT`, the two bits the daemon looks at. -/
structure PollMask where
  pollin : Bool
  pollout : Bool
deriving DecidableEq, Repr, Inhabited

end Usbmuxd
