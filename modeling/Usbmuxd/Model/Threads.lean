import Usbmuxd.Machine.Requests

/-! # The main thread and the preflight workers

Workers run in threads of their own, and what they do to the daemon they do under its locks. The main
thread holds a lock for everything that concerns listeners except in `start_listen`, which stores the
new state, copies the device list, looks at each device and queues one message after the other. Here
each of these is a step, and workers may act in between. Any other event of the main thread is a
single step as before.
-/

namespace Usbmuxd

/-- What a worker thread does. -/
def Event.byWorker : Event → Bool
  | workerDeviceAdd _ | workerCbData _ _ => true
  | _ => false

/-- The result of `Listen` is queued before `start_listen` is called. -/
def answerListen (env : Env) (k : ClientPtr) (tag : UInt32) (s : Daemon) : Option Daemon :=
  let r := sendResult env k tag resultOk s.clients
  if r.1 < 0 then none else some (s.setClients r.2)

/-- The state in which `handle_command` calls `start_listen`, if the frame makes it do so. -/
def listenCall (env : Env) (k : ClientPtr) (frame : Bytes) (s : Daemon) : Option Daemon :=
  match readRequest env frame with
  | .listen => answerListen env k (le32At frame 12) s
  | .plist (some dict) =>
    if (dict.getItem "MessageType").bind Plist.stringVal? = some "Listen" then
      let s := s.setClients (s.clients.modify k fun client => { client with protoVersion := 1 })
      answerListen env k (le32At frame 12) (s.setClients (updateClientInfo k dict s.clients))
    else none
  | _ => none

/-- The client for which an event calls `start_listen`, and the state in which it does. -/
def listenPoint (env : Env) (s : Daemon) (event : Event) : Option (ClientPtr × Daemon) :=
  match servedClient s event, handled env s event with
  | some k, some (.command, frame) =>
    if enabled s event then
      (listenCall env k frame (s.setClients (readCommand env k s.clients).2)).map fun s => (k, s)
    else none
  | _, _ => none

/-- `client->state = CLIENT_LISTEN`. -/
def enterListen (k : ClientPtr) (s : Daemon) : Daemon :=
  s.setClients (s.clients.modify k fun client => { client with state := .listen })

/-- The store to `ib_size` behind the command. -/
def leaveListen (k : ClientPtr) (s : Daemon) : Daemon :=
  s.setClients (s.clients.modify k fun client => { client with ibSize := 0 })

/-- Where the main thread is: between two events, or inside `start_listen` for a client. There it is
about to copy the device list, looks at the devices of the copy, or queues what it has found. -/
inductive MainThread where
  | idle
  | listening (k : ClientPtr)
  | reading (k : ClientPtr) (pending : List DevPtr) (found : List DeviceInfo)
  | telling (k : ClientPtr) (pending : List DeviceInfo)
deriving DecidableEq

/-- All threads: the state they share and the position of the main thread. -/
structure Threads where
  daemon : Daemon
  main : MainThread

/-- What happens next: an event, or the main thread goes on inside `start_listen`. -/
inductive ThreadAction where
  | event (event : Event)
  | resume

namespace Threads

def initial : Threads := ⟨.initial, .idle⟩

/-- One step of `start_listen`. -/
def resume (env : Env) (t : Threads) : Threads :=
  match t.main with
  | .idle => t
  | .listening k => { t with main := .reading k t.daemon.mux.deviceList [] }
  | .reading k [] found => { t with main := .telling k found }
  | .reading k (d :: pending) found =>
    let dev := t.daemon.mux.dev d
    let found := if dev.state = .active && dev.visible then found ++ [deviceInfo env dev] else found
    { t with main := .reading k pending found }
  | .telling k [] => ⟨leaveListen k t.daemon, .idle⟩
  | .telling k (info :: pending) =>
    let r := sendDeviceAdd env info k t.daemon.clients
    let s := t.daemon.setClients r.2
    if r.1 < 0 then ⟨leaveListen k s, .idle⟩ else ⟨s, .telling k pending⟩

/-- One step of some thread. The main thread takes no event while it is inside `start_listen`. -/
def step (env : Env) (t : Threads) : ThreadAction → Threads
  | .resume => t.resume env
  | .event event =>
    if event.byWorker then { t with daemon := Usbmuxd.step env t.daemon event }
    else
      match t.main with
      | .idle =>
        match listenPoint env t.daemon event with
        | some (k, s) => ⟨enterListen k s, .listening k⟩
        | none => ⟨Usbmuxd.step env t.daemon event, .idle⟩
      | _ => t

/-- The state after any interleaving of the threads. -/
def run (env : Env) (actions : List ThreadAction) : Threads := actions.foldl (step env) initial

end Threads

end Usbmuxd
