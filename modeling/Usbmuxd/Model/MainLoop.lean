import Usbmuxd.Model.Daemon

/-! # The main loop

One pass of `main_loop` collects what every descriptor is polled for, waits, and then goes through the
descriptors in the order of the list: the listening socket, USB, the clients. The clients are
dispatched with the readiness that was collected before USB was processed.
-/

namespace Usbmuxd

/-- What a preflight worker does. -/
inductive WorkerCall where
  | deviceAdd (info : DeviceInfo)
  | setPreflightCbData (deviceId : ℕ) (data : Option ℕ)

def WorkerCall.event : WorkerCall → Event
  | deviceAdd info => .workerDeviceAdd info
  | setPreflightCbData deviceId data => .workerCbData deviceId data

/-- What happens while USB is processed: libusb and the device discovery call the daemon, and workers
go on. -/
inductive UsbCall where
  | deviceAdd (u : UsbPtr)
  | dataInput (u : UsbPtr) (t : Transfer)
  | deviceRemove (u : UsbPtr)
  | meanwhile (call : WorkerCall)

def UsbCall.event : UsbCall → Event
  | deviceAdd u => .deviceAdd u
  | dataInput u t => .dataInput u t
  | deviceRemove u => .deviceRemove u
  | meanwhile call => call.event

/-- What `ppoll` finds for a descriptor of a client, and what workers do before its turn comes. Errors
and hang-ups are reported with neither flag. -/
structure Report where
  readable : Bool
  writable : Bool
  meanwhile : List WorkerCall := []

/-- How a pass goes. -/
inductive Pass where
  /-- A signal came in; it may ask for a device discovery. -/
  | interrupted (usb : List UsbCall)
  /-- Nothing was ready before the timeout. -/
  | expired (usb : List UsbCall)
  | ready (accepts : Bool) (usb : List UsbCall) (reports : ℤ → Option Report)

/-- `client_get_fds`. -/
def clientGetFds (s : Daemon) : List (ℤ × PollMask) :=
  (s.clients.clientList.filterMap s.clients.client).map fun client => (client.fd, client.events)

/-- The calls for one entry of the descriptor list: `revents` has the events the descriptor is ready
for among those it was polled for. -/
def dispatchClient (reports : ℤ → Option Report) (entry : ℤ × PollMask) : List Event :=
  match reports entry.1 with
  | none => []
  | some report =>
    report.meanwhile.map WorkerCall.event ++
      [.clientProcess entry.1 ⟨entry.2.pollin && report.readable, entry.2.pollout && report.writable⟩]

/-- The calls of one pass that starts in this state. -/
def Pass.events (s : Daemon) : Pass → List Event
  | interrupted usb => usb.map UsbCall.event
  | expired usb => usb.map UsbCall.event ++ [.checkTimeouts]
  | ready accepts usb reports =>
    ((if accepts then [.accept] else []) ++ usb.map UsbCall.event) ++ (clientGetFds s).flatMap (dispatchClient reports)

/-- The calls of the main loop, pass by pass. -/
def loopEvents (env : Env) (passes : List Pass) : List Event :=
  passes.foldl (fun events pass => events ++ pass.events (run env events)) []

theorem loopEvents_snoc (env : Env) (earlier : List Pass) (pass : Pass) :
    loopEvents env (earlier ++ [pass]) =
      loopEvents env earlier ++ pass.events (run env (loopEvents env earlier)) := by
  rw [loopEvents, List.foldl_append]
  rfl

end Usbmuxd
