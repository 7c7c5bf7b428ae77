import Mathlib.Data.List.Induction
import Usbmuxd.Model.Command

/-! # Runs of the daemon

One event is one call from `main_loop`, from a libusb callback or from a preflight worker, and
everything that call does. Any order of events is a run; `main` only restricts the order of the
shutdown steps, and after its loop no client is served any more.
-/

namespace Usbmuxd

/-- The calls that drive the daemon. -/
inductive Event where
  /-- `client_accept`. -/
  | accept
  /-- `client_process` with the descriptor and the events that poll reported. -/
  | clientProcess (fd : ℤ) (events : PollMask)
  /-- `device_add`, at the end of the USB start-up chain. -/
  | deviceAdd (u : UsbPtr)
  /-- `device_data_input`, from a completed receive transfer. -/
  | dataInput (u : UsbPtr) (t : Transfer)
  /-- `device_remove`, from hotplug or from reaping. -/
  | deviceRemove (u : UsbPtr)
  | checkTimeouts
  /-- A preflight worker announces its device. -/
  | workerDeviceAdd (info : DeviceInfo)
  /-- A preflight worker registers or clears its callback data. -/
  | workerCbData (deviceId : ℕ) (data : Option ℕ)
  | killConnections
  | deviceShutdown
  | clientShutdown

/-- When an event can happen. -/
def enabled (s : Daemon) : Event → Bool
  | .accept | .clientProcess _ _ | .checkTimeouts | .killConnections => s.phase = .running
  | .deviceAdd _ | .dataInput _ _ | .deviceRemove _ => s.phase = .running || s.phase = .draining
  | .workerDeviceAdd info => info ∈ s.workers
  | .workerCbData _ _ => true
  | .deviceShutdown => s.phase = .draining
  | .clientShutdown => s.phase = .closing

/-- What an event does; one that cannot happen does nothing. -/
def step (env : Env) (s : Daemon) (event : Event) : Daemon :=
  if enabled s event then
    match event with
    | .accept => s.setClients (clientAccept env s.clients)
    | .clientProcess fd events => clientProcess env fd events s
    | .deviceAdd u => s.setMux (deviceAdd env u s.mux).2
    | .dataInput u t => deviceDataInput env u t s
    | .deviceRemove u => deviceRemove env u s
    | .checkTimeouts => deviceCheckTimeouts env s
    | .workerDeviceAdd info => clientDeviceAdd env info { s with workers := s.workers.erase info }
    | .workerCbData deviceId data => s.setMux (deviceSetPreflightCbData deviceId data s.mux)
    | .killConnections => deviceKillConnections env s
    | .deviceShutdown => deviceShutdown env s
    | .clientShutdown => clientShutdown env s
  else s

/-- The state after a sequence of events. -/
def run (env : Env) (events : List Event) : Daemon := events.foldl (step env) Daemon.initial

end Usbmuxd
