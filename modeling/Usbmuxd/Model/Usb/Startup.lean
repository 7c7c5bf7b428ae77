import Usbmuxd.Model.Usb.Transfers

/-! # USB devices coming and going

The start-up of a device, a chain of control transfers from `usb_device_add` to `device_add`; hotplug
events and `usb_discover`, which begin it; and `reap_dead_devices`, which ends a device. While
`usb_disconnect` waits for transfers, libusb handles events.
-/

namespace Usbmuxd

open Collection

namespace Usb

/-- `find_device`. -/
def findDevice (bus address : UInt8) (s : Usb) : Option UsbPtr :=
  s.deviceList.find? fun u => (s.entry u).any fun e => e.bus = bus && e.address = address

/-- `submit_vendor_specific`. -/
def submitVendorSpecific (env : UsbEnv) (callback : Callback) (s : Usb) : ℤ × Usb :=
  let a := s.allocTransfer
  submit env a.1 callback a.2

/-- The fields that `device_complete_initialization` fills in before it asks for the language id. -/
def UsbEntry.completed (e : UsbEntry) (context : ModeContext) (handle : ℕ) (wMaxPacketSize : ℤ) : UsbEntry :=
  { e with
    serial := [], bus := context.bus, address := context.address, speed := context.dev.speed.rate
    handle := some handle, alive := true
    wMaxPacketSize := if wMaxPacketSize ≤ 0 then 64 else wMaxPacketSize.toNat }

/-- `device_complete_initialization`. A negative answer to an allocation is a null pointer. -/
def deviceCompleteInitialization (env : UsbEnv) (context : ModeContext) (handle : ℕ) (s : Usb) : Usb :=
  match findDevice context.bus context.address s with
  | none => s
  | some u =>
    match s.entry u with
    | none => s.fault (.freedDevice u)
    | some e =>
      let r := setValidConfiguration env context.dev e.bNumConfigurations e.endpoints s.tick
      let e := { e with endpoints := r.2.endpoints }
      let s := { s.setEntry u (some e) with tick := r.2.tick }
      if r.1 ≠ 0 then s.fail u
      else if (env.answers s.tick).result ≠ 0 then s.bump.fail u
      else if (env.answers (s.tick + 1)).result < 0 then s.bump.bump.fail u
      else if (env.answers (s.tick + 2)).result < 0 then s.bump.bump.bump.fail u
      else
        let e := UsbEntry.completed e context handle (env.answers (s.tick + 3)).value
        let a := ({ s.setEntry u (some e) with tick := s.tick + 4 } : Usb).allocTransfer
        let r := submit env a.1 (.getLangid u) a.2
        if r.1 < 0 then r.2.fail u else r.2

/-- `switch_mode_cb`. A device that acknowledges the switch is expected to come back. -/
def switchModeCb (env : UsbEnv) (context : ModeContext) (handle : ℕ) (status : TransferStatus) (data : Bytes)
    (s : Usb) : Usb :=
  if status ≠ .completed ∨ data.getD 0 0 ≠ 0 then deviceCompleteInitialization env context handle s
  else
    match findDevice context.bus context.address s with
    | none => s
    | some u => s.modify u fun e => { e with switched := true }

/-- `get_mode_cb`. -/
def getModeCb (env : UsbEnv) (context : ModeContext) (handle : ℕ) (status : TransferStatus) (s : Usb) : Usb :=
  match findDevice context.bus context.address s with
  | none => s
  | some u =>
    if status ≠ .completed then deviceCompleteInitialization env context handle s
    else
      let bNumConfigurations := ((s.entry u).map UsbEntry.bNumConfigurations).getD 0
      let g := guessMode env context.dev bNumConfigurations s.tick
      let s := { s with tick := g.2 }
      if 1 ≤ env.desiredMode ∧ env.desiredMode ≤ 5 ∧ 0 < g.1 ∧ g.1 ≠ env.desiredMode then
        let r := submitVendorSpecific env (.switchMode context handle) s
        if r.1 ≠ 0 then r.2.fail u else r.2
      else deviceCompleteInitialization env context handle s

/-- `get_langid_callback`, which uses its transfer again. -/
def getLangidCallback (env : UsbEnv) (x : XferPtr) (u : UsbPtr) (status : TransferStatus) (s : Usb) : Usb :=
  match s.entry u with
  | none => s.fault (.freedDevice u)
  | some _ => if status ≠ .completed then s else (submit env x (.getSerial u) s).2

/-- The end of `usb_disconnect`, when no transfer is waited for any more. -/
def freeDevice (u : UsbPtr) (s : Usb) : Usb :=
  match s.entry u with
  | none => s.fault (.freedDevice u)
  | some _ => { s.setEntry u none with deviceList := s.deviceList.erase u }

/-- The loop of `get_serial_callback` that starts up to `loops` receive loops, with their number. -/
def startRxLoops (env : UsbEnv) (u : UsbPtr) : ℕ → Usb → ℕ × Usb
  | 0, s => (0, s)
  | loops + 1, s =>
    let r := startRxLoop env u s
    if r.1 < 0 then (0, r.2)
    else
      let rest := startRxLoops env u loops r.2
      (rest.1 + 1, rest.2)

/-- `get_serial_callback`. What `device_add` does to the USB device is to send a version request of 20
bytes; it fails if that fails. libusb handles no events inside a callback, so that `usb_disconnect`
does not wait here. -/
def getSerialCallback (env : UsbEnv) (u : UsbPtr) (status : TransferStatus) (data : Bytes) (s : Usb) : Usb :=
  match s.entry u with
  | none => s.fault (.freedDevice u)
  | some e =>
    if status ≠ .completed then s
    else
      let s := s.setEntry u (some { e with serial := serialNumber data })
      let r := usbSend env u 20 s
      if r.1 < 0 then freeDevice u r.2
      else
        let s := r.2.modify u fun e => { e with added := true }
        let r := startRxLoops env u 3 s
        if r.1 = 0 then freeDevice u r.2 else r.2.modify u fun e => { e with receiving := true }

/-- The products that `usb_device_add` looks for. -/
def supported (dev : LibusbDevice) : Bool :=
  dev.idVendor = 0x5ac &&
    (dev.idProduct = 0x8600 || (0x1901 ≤ dev.idProduct && dev.idProduct ≤ 0x1905) ||
      (0x1290 ≤ dev.idProduct && dev.idProduct ≤ 0x12af))

/-- The `struct usb_device` that `usb_device_add` makes. -/
def UsbEntry.opened (dev : LibusbDevice) (handle : ℕ) : UsbEntry where
  handle := some handle
  bus := dev.bus
  address := dev.address
  serial := []
  alive := true
  endpoints := default
  rxXfers := []
  txXfers := []
  wMaxPacketSize := 0
  speed := 0
  bNumConfigurations := dev.bNumConfigurations
  idProduct := dev.idProduct
  lost := false
  switched := false
  added := false
  receiving := false

/-- `usb_device_add`. -/
def usbDeviceAdd (env : UsbEnv) (dev : LibusbDevice) (s : Usb) : ℤ × Usb :=
  match findDevice dev.bus dev.address s with
  | some u => (0, s.modify u fun e => { e with alive := true })
  | none =>
    if (env.answers s.tick).result ≠ 0 then (-1, s.bump)
    else if ¬supported dev then (-1, s.bump)
    else if (env.answers (s.tick + 1)).result ≠ 0 then (-1, s.bump.bump)
    else
      let u := s.nextUsb
      let handle := s.nextHandle
      let s := { s.setEntry u (some (UsbEntry.opened dev handle)) with
        tick := s.tick + 3, nextUsb := u + 1, nextHandle := handle + 1
        deviceList := add (env.answers (s.tick + 2)).slot u s.deviceList }
      let r := submitVendorSpecific env (.getMode ⟨dev, dev.bus, dev.address⟩ handle) s
      if r.1 ≠ 0 then (-1, r.2.fail u) else (0, r.2)

end Usb

/-- What libusb reports when it handles events. -/
inductive LibusbEvent where
  /-- `LIBUSB_HOTPLUG_EVENT_DEVICE_ARRIVED`. -/
  | arrived (dev : LibusbDevice)
  /-- `LIBUSB_HOTPLUG_EVENT_DEVICE_LEFT`. -/
  | left (bus address : UInt8)
  /-- The callback of a transfer, with its status, its data and what the mux layer sends meanwhile. -/
  | done (x : XferPtr) (status : TransferStatus) (data : Bytes) (sends : List (UsbPtr × ℕ))

namespace Usb

/-- Call a callback. -/
def call (env : UsbEnv) (x : XferPtr) (status : TransferStatus) (data : Bytes) (sends : List (UsbPtr × ℕ))
    (callback : Callback) (s : Usb) : Usb :=
  match callback with
  | .rx u => rxCallback env x u status sends s
  | .tx u => txCallback x u status s
  | .getMode context handle => getModeCb env context handle status s
  | .switchMode context handle => switchModeCb env context handle status data s
  | .getLangid u => getLangidCallback env x u status s
  | .getSerial u => getSerialCallback env u status data s

/-- Handle one event: `usb_hotplug_cb`, or the callback of a transfer that is in flight. -/
def handleEvent (env : UsbEnv) (s : Usb) : LibusbEvent → Usb
  | .arrived dev => if s.deviceHotplug then (usbDeviceAdd env dev s).2 else s
  | .left bus address =>
    match findDevice bus address s with
    | none => s
    | some u => s.fail u
  | .done x status data sends =>
    match s.inFlight x with
    | none => s
    | some callback =>
      call env x status data sends callback { s with inFlight := Function.update s.inFlight x none }

/-- Whether `usb_disconnect` has transfers to wait for. -/
def waiting (s : Usb) (u : UsbPtr) : Bool := (s.entry u).any fun e => e.rxXfers ≠ [] || e.txXfers ≠ []

/-- The loop of `usb_disconnect`: libusb handles a batch of events in each turn, and fails when there are
no more. The flag says whether all transfers are closed. -/
def waitTransfers (env : UsbEnv) (u : UsbPtr) : List (List LibusbEvent) → Usb → Bool × Usb
  | [], s => (!s.waiting u, s)
  | batch :: rest, s =>
    if s.waiting u then waitTransfers env u rest (batch.foldl (handleEvent env) s) else (true, s)

/-- `usb_disconnect`. Cancelling the transfers only makes libusb call back. -/
def usbDisconnect (env : UsbEnv) (u : UsbPtr) (batches : List (List LibusbEvent)) (s : Usb) : Usb :=
  match s.entry u with
  | none => s.fault (.freedDevice u)
  | some e => if e.handle = none then s else freeDevice u (waitTransfers env u batches s).2

/-- One turn of `reap_dead_devices`. -/
def reapDevice (env : UsbEnv) (waits : UsbPtr → List (List LibusbEvent)) (s : Usb) (u : UsbPtr) : Usb :=
  if u ∈ s.deviceList ∧ (s.entry u).any (fun e => !e.alive) then usbDisconnect env u (waits u) s else s

/-- `reap_dead_devices`. Devices that are added while it waits may be visited at the end. -/
def reapDeadDevices (env : UsbEnv) (waits : UsbPtr → List (List LibusbEvent)) (late : List UsbPtr) (s : Usb) : Usb :=
  (s.deviceList ++ late).foldl (reapDevice env waits) s

/-- Mark all devices as dead, as `usb_discover` does before it enumerates them. -/
def markAll (s : Usb) : Usb := { s with entry := fun u => (s.entry u).map fun e => { e with alive := false } }

/-- The devices that were not enumerated have left. -/
def noteLost (s : Usb) : Usb :=
  { s with entry := fun u => (s.entry u).map fun e => { e with lost := e.lost || !e.alive } }

/-- `usb_discover`, with the device list of libusb if it gives one. -/
def usbDiscover (env : UsbEnv) (devs : Option (List LibusbDevice)) (waits : UsbPtr → List (List LibusbEvent))
    (late : List UsbPtr) (s : Usb) : Usb :=
  match devs with
  | none => { s with devlistFailures := s.devlistFailures + 1 }
  | some devs =>
    let s := ({ s with devlistFailures := 0 } : Usb).markAll
    let s := devs.foldl (fun s dev => (usbDeviceAdd env dev s).2) s
    reapDeadDevices env waits late s.noteLost

end Usb

/-- The calls that drive `usb.c`. -/
inductive UsbEvent where
  /-- An event that libusb handles in `usb_process`. -/
  | handle (event : LibusbEvent)
  /-- `usb_send`, from the mux layer. -/
  | send (u : UsbPtr) (length : ℕ)
  | reap (waits : UsbPtr → List (List LibusbEvent)) (late : List UsbPtr)
  | discover (devs : Option (List LibusbDevice)) (waits : UsbPtr → List (List LibusbEvent)) (late : List UsbPtr)
  | autodiscover (enable : Bool)

namespace Usb

def step (env : UsbEnv) (s : Usb) : UsbEvent → Usb
  | .handle event => handleEvent env s event
  | .send u length => (usbSend env u length s).2
  | .reap waits late => reapDeadDevices env waits late s
  | .discover devs waits late => usbDiscover env devs waits late s
  | .autodiscover enable => { s with deviceHotplug := enable }

/-- The state after a sequence of events. -/
def run (env : UsbEnv) (events : List UsbEvent) : Usb := events.foldl (step env) initial

end Usb

end Usbmuxd
