import Usbmuxd.Model.Environment

/-! # USB descriptors

What `usb.c` reads from a device before it can talk to it: `guess_mode`, the search of
`set_valid_configuration` for an interface, and the serial number in a string descriptor. Calls of
libusb are answered from a tape, in the order in which they are made.
-/

namespace Usbmuxd

/-- What libusb answers to one call. -/
structure LibusbAnswer where
  /-- Zero, or a negative error. -/
  result : ℤ
  /-- The number a call gives besides its result. -/
  value : ℤ
  /-- Position at which `collection_add` stores a pointer. -/
  slot : ℕ
  nonpos : result ≤ 0

/-- A call that succeeds. -/
def LibusbAnswer.success : LibusbAnswer := ⟨0, 0, 0, le_rfl⟩

/-- What surrounds `usb.c`: libusb and the environment variable with the desired mode. -/
structure UsbEnv where
  answers : ℕ → LibusbAnswer
  desiredMode : ℤ

/-- `struct libusb_interface_descriptor` of the first alternate setting, with its endpoint addresses. -/
structure InterfaceDescriptor where
  bInterfaceNumber : UInt8
  bInterfaceClass : UInt8
  bInterfaceSubClass : UInt8
  bInterfaceProtocol : UInt8
  endpoints : List UInt8
deriving DecidableEq, Repr

structure ConfigDescriptor where
  bConfigurationValue : UInt8
  interfaces : List InterfaceDescriptor
deriving DecidableEq, Repr

inductive DeviceSpeed where
  | unknown
  | low
  | full
  | high
  | super
  | superPlus
deriving DecidableEq, Repr

/-- A `libusb_device` with its descriptors. -/
structure LibusbDevice where
  bus : UInt8
  address : UInt8
  idVendor : UInt16
  idProduct : UInt16
  bNumConfigurations : UInt8
  configs : List ConfigDescriptor
  speed : DeviceSpeed
deriving DecidableEq, Repr

/-- `libusb_get_config_descriptor_by_value`. -/
def getConfigDescriptorByValue (env : UsbEnv) (dev : LibusbDevice) (value tick : ℕ) : Option ConfigDescriptor :=
  if (env.answers tick).result ≠ 0 then none
  else dev.configs.find? fun config => config.bConfigurationValue.toNat = value

namespace InterfaceDescriptor

/-- The interface of screen recording. -/
def isValeria (intf : InterfaceDescriptor) : Bool :=
  intf.bInterfaceClass = 255 && intf.bInterfaceSubClass = 42 && intf.bInterfaceProtocol = 255

/-- An interface for Ethernet over USB. -/
def isCdcNcm (intf : InterfaceDescriptor) : Bool := intf.bInterfaceClass = 2 && intf.bInterfaceSubClass = 0xd

/-- The multiplexor interface, as `guess_mode` recognises it. -/
def isUsbmux (intf : InterfaceDescriptor) : Bool :=
  intf.bInterfaceClass = 255 && intf.bInterfaceSubClass = 254 && intf.bInterfaceProtocol = 2

end InterfaceDescriptor

/-- `guess_mode`, and the number of calls made so far. -/
def guessMode (env : UsbEnv) (dev : LibusbDevice) (bNumConfigurations : UInt8) (tick : ℕ) : ℤ × ℕ :=
  if bNumConfigurations = 1 then (5, tick)
  else if bNumConfigurations ≤ 4 then (1, tick)
  else if bNumConfigurations = 6 then (4, tick)
  else if bNumConfigurations ≠ 5 then (0, tick)
  else
    match getConfigDescriptorByValue env dev 5 tick with
    | none => (0, tick + 1)
    | some config =>
      let hasUsbmux := config.interfaces.any InterfaceDescriptor.isUsbmux
      if config.interfaces.any InterfaceDescriptor.isValeria && hasUsbmux then (2, tick + 1)
      else if config.interfaces.any InterfaceDescriptor.isCdcNcm && hasUsbmux then (3, tick + 1)
      else (0, tick + 1)

/-- An interface with its endpoints. -/
structure Endpoints where
  interface : UInt8
  epIn : UInt8
  epOut : UInt8
deriving DecidableEq, Repr, Inhabited

/-- Whether an endpoint address is of the direction `LIBUSB_ENDPOINT_IN`. -/
def isEndpointIn (address : UInt8) : Bool := address &&& 0x80 = 0x80

/-- The loop of `set_valid_configuration` over the interfaces of a configuration: the interface at which
it is left, and its endpoints. One matching field is enough for it. -/
def findInterface : List InterfaceDescriptor → Option (InterfaceDescriptor × Endpoints)
  | [] => none
  | intf :: rest =>
    if intf.bInterfaceClass = 255 ∨ intf.bInterfaceSubClass = 254 ∨ intf.bInterfaceProtocol = 2 then
      match intf.endpoints with
      | [one, two] =>
        if ¬isEndpointIn one ∧ isEndpointIn two then some (intf, ⟨intf.bInterfaceNumber, two, one⟩)
        else if ¬isEndpointIn two ∧ isEndpointIn one then some (intf, ⟨intf.bInterfaceNumber, one, two⟩)
        else findInterface rest
      | _ => findInterface rest
    else findInterface rest

/-- The variables of the loop over configurations, with the interface at which the loop over interfaces
was left last and the configuration that is active. -/
structure ConfigSearch where
  found : Bool
  endpoints : Endpoints
  selected : Option InterfaceDescriptor
  active : ℤ
  tick : ℕ
deriving Repr

/-- The variables after the loop over the interfaces of a configuration. -/
def ConfigSearch.enter (search : ConfigSearch) (config : ConfigDescriptor) : ConfigSearch :=
  match findInterface config.interfaces with
  | some (intf, endpoints) => { search with found := true, endpoints := endpoints, selected := some intf }
  | none => search

/-- Detach the kernel drivers of all interfaces, as far as that succeeds. -/
def detachDrivers (env : UsbEnv) : List InterfaceDescriptor → ℕ → ℕ
  | [], tick => tick
  | _ :: rest, tick =>
    let answer := env.answers tick
    if answer.result < 0 then detachDrivers env rest (tick + 1)
    else if answer.value = 1 then detachDrivers env rest (tick + 2)
    else detachDrivers env rest (tick + 1)

/-- The loop of `set_valid_configuration` over the configurations. `found` is not cleared when a
configuration cannot be set. -/
def searchConfigs (env : UsbEnv) (dev : LibusbDevice) (current : ℤ) : List ℕ → ConfigSearch → ConfigSearch
  | [], search => search
  | value :: rest, search =>
    match getConfigDescriptorByValue env dev value search.tick with
    | none => searchConfigs env dev current rest { search with tick := search.tick + 1 }
    | some config =>
      let search := ConfigSearch.enter { search with tick := search.tick + 1 } config
      if ¬search.found then searchConfigs env dev current rest search
      else if current = 0 ∨ (config.bConfigurationValue.toNat : ℤ) ≠ current then
        let tick := detachDrivers env config.interfaces search.tick
        let search := { search with tick := tick + 1 }
        if (env.answers tick).result ≠ 0 then searchConfigs env dev current rest search
        else { search with active := value }
      else search

/-- `set_valid_configuration`. -/
def setValidConfiguration (env : UsbEnv) (dev : LibusbDevice) (bNumConfigurations : UInt8) (endpoints : Endpoints)
    (tick : ℕ) : ℤ × ConfigSearch :=
  let answer := env.answers tick
  let search : ConfigSearch := ⟨false, endpoints, none, answer.value, tick + 1⟩
  if answer.result ≠ 0 then (-1, search)
  else
    let search := searchConfigs env dev answer.value ((List.range bNumConfigurations.toNat).reverse.map (· + 1)) search
    (if search.found then 0 else -1, search)

/-- The loop of `get_serial_callback`: two bytes for each character from `si` on, below the length byte
and as long as `left` characters fit. -/
def decodeSerial (data : Bytes) : ℕ → ℕ → Bytes
  | 0, _ => []
  | left + 1, si =>
    if si < (data.getD 0 0).toNat then
      let low := data.getD si 0
      if low &&& 0x80 ≠ 0 ∨ data.getD (si + 1) 0 ≠ 0 then 63 :: decodeSerial data left (si + 2)
      else if low = 0 then []
      else low :: decodeSerial data left (si + 2)
    else []

/-- The serial number in a string descriptor, with a hyphen after the eighth of 24 digits. -/
def serialNumber (data : Bytes) : Bytes :=
  let serial := decodeSerial data 255 2
  if serial.length = 24 then serial.take 8 ++ 45 :: serial.drop 8 else serial

/-- `usbdev->speed`. -/
def DeviceSpeed.rate : DeviceSpeed → UInt64
  | low => 1500000
  | full => 12000000
  | super => 5000000000
  | superPlus => 10000000000
  | high | unknown => 480000000

end Usbmuxd
