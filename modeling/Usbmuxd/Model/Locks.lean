import Usbmuxd.Model.Daemon
import Usbmuxd.ToMathlib.Locking

/-! # The mutexes

`device_list_mutex` and `client_list_mutex`, with the lock and unlock actions of every function that
takes one, in the state it is called in. Each definition follows the function of the same name; a
section appears as `guarded`, and everything a function does without taking a mutex is left out.
`device_abort_connect` and `get_mux_connection` take none, and `client_close` calls them inside its
section.
-/

namespace Usbmuxd

open Collection Locking

inductive Mutex where
  | deviceList
  | clientList
deriving DecidableEq, Repr

abbrev LockAction := Action Mutex

/-- The actions of a loop over a collection whose body changes the state. -/
def forEachLocks {α σ : Type*} [DecidableEq α] (entries : σ → List α) (body : α → σ → σ)
    (locks : α → σ → List LockAction) (state : σ) : List LockAction :=
  ((entries state).foldl (fun p entry =>
    if entry ∈ entries p.2 then (p.1 ++ locks entry p.2, body entry p.2) else p) ([], state)).1

section Teardown

variable (env : Env)

def connectionTeardownLocksWith (close : ClientPtr → Daemon → List LockAction) (c : ConnPtr) (s : Daemon) :
    List LockAction :=
  match s.mux.conn c with
  | none => []
  | some m =>
    if m.state = .dead then []
    else
      let s := if m.sendsRst (s.mux.dev m.dev) then s.setMux (sendTcp env c thRst [] s.mux).2 else s
      match m.client with
      | none => []
      | some k =>
        if m.state = ConnState.refused ∨ m.state = ConnState.connecting then []
        else
          let s := s.setMux (s.mux.modifyConn c fun m => { m with state := .dead })
          close k (flushClient env c k m s)

def deviceAbortConnectLocks (deviceId : ℕ) (k : ClientPtr) (s : Daemon) : List LockAction :=
  let s := s.setMux (touchNamed deviceId s.mux)
  match getMuxConnection deviceId k s.mux with
  | none => []
  | some c =>
    match s.mux.conn c with
    | none => []
    | some m =>
      connectionTeardownLocksWith env (fun _ _ => []) c (s.setMux (s.mux.setConn c { m with client := none }))

def clientCloseLocks (k : ClientPtr) (s : Daemon) : List LockAction :=
  guarded .clientList <|
    if k ∈ s.clients.clientList then
      match s.clients.client k with
      | none => []
      | some client =>
        if client.state = .connecting1 ∨ client.state = .connecting2 then
          deviceAbortConnectLocks env client.connectDevice k
            (s.setClients (s.clients.setClient k { client with state := .dead }))
        else []
    else []

def connectionTeardownLocks (c : ConnPtr) (s : Daemon) : List LockAction :=
  connectionTeardownLocksWith env (clientCloseLocks env) c s

def sendTcpAckLocks (c : ConnPtr) (s : Daemon) : List LockAction :=
  let r := sendTcp env c thAck [] s.mux
  if r.1 < 0 then connectionTeardownLocks env c (s.setMux r.2) else []

def clientInputLocks (c : ConnPtr) (k : ClientPtr) (events : PollMask) (s : Daemon) : List LockAction :=
  match s.mux.conn c with
  | none => []
  | some m =>
    if events.pollin ∧ m.sendable > 0 then
      let r := clientRead env k m.sendable s.clients
      let s := s.setClients r.2
      match r.1 with
      | none => connectionTeardownLocks env c s
      | some data =>
        let w := sendData env c data s.mux
        if w.1 < 0 then connectionTeardownLocks env c (s.setMux w.2) else []
    else []

def deviceClientProcessLocks (deviceId : ℕ) (k : ClientPtr) (events : PollMask) (s : Daemon) : List LockAction :=
  let s := s.setMux (touchNamed deviceId s.mux)
  guarded .deviceList [] ++
    match getMuxConnection deviceId k s.mux with
    | none => []
    | some c =>
      match s.mux.conn c with
      | none => []
      | some m =>
        if events.pollout ∧ m.ibBuf ≠ [] then
          let w := clientWrite env k m.ibBuf s.clients
          let s := s.setClients w.2
          if w.1 ≤ 0 then connectionTeardownLocks env c s
          else
            let size := w.1.toNat
            let drained := { m.shift size with txAck := m.txAck + UInt32.ofNat size }
            clientInputLocks env c k events (s.setMux ((s.mux.setConn c drained).logConn c
              (.wrote (m.ibBuf.take size))))
        else clientInputLocks env c k events s

def connectionDeviceInputLocks (c : ConnPtr) (payload : Bytes) (s : Daemon) : List LockAction :=
  match s.mux.conn c with
  | none => []
  | some m => if m.ibSize + UInt32.ofNat payload.length > m.ibCapacity then connectionTeardownLocks env c s else []

def connectionOpenLocks (c : ConnPtr) (m : MuxConnection) (s : Daemon) : List LockAction :=
  let r := sendTcp env c thAck [] ((s.mux.setConn c m.opened).logConn c (.synAck m.rxSeq))
  let s := s.setMux r.2
  if r.1 < 0 then connectionTeardownLocks env c s
  else
    match s.mux.conn c with
    | none => []
    | some m =>
      let s := s.setMux (s.mux.setConn c { m with state := .connected })
      match m.client with
      | none => []
      | some k =>
        let n := clientNotifyConnect env k resultOk s.clients
        let s := s.setClients n.2
        if n.1 < 0 then
          connectionTeardownLocks env c (s.setMux (s.mux.setConn c { m with state := .connected, client := none }))
        else []

/-- The part of `device_tcp_input` for a connection it has found. -/
def connectionInputLocks (c : ConnPtr) (th : TcpHdr) (payload : Bytes) (s : Daemon) : List LockAction :=
  match s.mux.conn c with
  | none => []
  | some m =>
    let m := m.receive th
    let s := s.setMux ((s.mux.setConn c m).logConn c (.rx m.rxAck m.rxWin))
    match m.state with
    | .connecting =>
      if th.flags ≠ thSyn ||| thAck then
        let m := if th.isRst then { m with state := .refused } else m
        connectionTeardownLocks env c (s.setMux (s.mux.setConn c m))
      else connectionOpenLocks env c m s
    | .connected =>
      if th.flags ≠ thAck then
        let m := if th.isRst then { m with state := .dying } else m
        connectionTeardownLocks env c (s.setMux (s.mux.setConn c m))
      else connectionDeviceInputLocks env c payload s ++ sendTcpAckLocks env c (connectionDeviceInput env c payload s)
    | _ => []

def deviceTcpInputLocks (d : DevPtr) (th : TcpHdr) (payload : Bytes) (s : Daemon) : List LockAction :=
  if (s.mux.dev d).state ≠ .active then []
  else
    match findConnection d th.dport th.sport s.mux with
    | none => []
    | some c => connectionInputLocks env c th payload s

end Teardown

/-- `client_device_add`, which makes the device visible inside its own section. -/
def clientDeviceAddLocks : List LockAction := guarded .clientList (guarded .deviceList [])

def clientDeviceRemoveLocks : List LockAction := guarded .clientList []

def clientDevicePairedLocks : List LockAction := guarded .clientList []

def deviceSetPreflightCbDataLocks : List LockAction := guarded .deviceList []

def deviceGetListLocks : List LockAction := guarded .deviceList []

section Devices

variable (env : Env)

def preflightWorkerDeviceAddLocks (info : DeviceInfo) (s : Daemon) : List LockAction :=
  if info.pid = pidAppleT2Coprocessor ∨ env.noPreflight then clientDeviceAddLocks
  else if (env.sock s.clients.tick).thread then [] else clientDeviceAddLocks

def deviceVersionInputLocks (d : DevPtr) (vh : Bytes) (s : Daemon) : List LockAction :=
  if (s.mux.dev d).state ≠ .init then []
  else
    let major := be32At vh 0
    if major ≠ 2 ∧ major ≠ 1 then guarded .deviceList []
    else preflightWorkerDeviceAddLocks env (deviceInfo env (s.mux.dev d)) s

def runDispatchLocks (d : DevPtr) (dispatched : Dispatch) (s : Daemon) : List LockAction :=
  match dispatched with
  | .versionInput vh _ => deviceVersionInputLocks env d vh s
  | .tcpInput th payload => deviceTcpInputLocks env d (TcpHdr.decode th) payload s
  | _ => []

def packetInputLocks (d : DevPtr) (buffer : Bytes) (length : ℕ) (s : Daemon) : List LockAction :=
  if (be32At buffer 4).toNat ≠ length then []
  else
    let dev := s.mux.dev d
    let mux := (s.mux.setDev d (dev.track buffer)).logDev d
      (.received (buffer.take length) (dev.rxSeqSeen buffer length))
    runDispatchLocks env d (dispatch dev.version buffer length) (s.setMux mux)

def deviceDataInputLocks (u : UsbPtr) (t : Transfer) (s : Daemon) : List LockAction :=
  guarded .deviceList [] ++
    match findDevice u s.mux with
    | none => []
    | some d =>
      if t.length = 0 then []
      else if usbMru < t.length ∨ devMru < t.length then []
      else
        let r := reassemble (s.mux.dev d) t
        match r.1 with
        | .held => []
        | .packet buffer length => packetInputLocks env d buffer length (s.setMux (s.mux.setDev d r.2))

/-- Every turn of `get_next_device_id` takes the mutex. -/
def deviceAddLocks (u : UsbPtr) (s : Mux) : List LockAction :=
  let turns := (getNextDeviceId s).1 - s.nextDeviceId + 1
  (List.replicate turns (guarded .deviceList [])).flatten ++
    if (deviceAdd env u s).1 < 0 then [] else guarded .deviceList []

def teardownAllLocks (d : DevPtr) (s : Daemon) : List LockAction :=
  forEachLocks (Daemon.connections d) (connectionTeardown env) (connectionTeardownLocks env) s

def deviceRemoveLocks (u : UsbPtr) (s : Daemon) : List LockAction :=
  guarded .deviceList <|
    match findDevice u s.mux with
    | none => []
    | some d =>
      if (s.mux.dev d).state = .active then
        teardownAllLocks env d (s.setMux ((s.mux.setDev d { s.mux.dev d with state := .dead }).logDev d .dead)) ++
          clientDeviceRemoveLocks
      else []

def deviceCheckTimeoutsLocks (s : Daemon) : List LockAction :=
  let ct := (env.usb s.mux.tick).now
  guarded .deviceList <|
    forEachLocks (fun s => s.mux.deviceList)
      (fun d s => if (s.mux.dev d).state = .active then
        forEach (Daemon.connections d)
          (fun c s => if (s.mux.conn c).any (MuxConnection.ackDue ct) then sendTcpAck env c s else s) s
        else s)
      (fun d s => if (s.mux.dev d).state = .active then
        forEachLocks (Daemon.connections d)
          (fun c s => if (s.mux.conn c).any (MuxConnection.ackDue ct) then sendTcpAck env c s else s)
          (fun c s => if (s.mux.conn c).any (MuxConnection.ackDue ct) then sendTcpAckLocks env c s else []) s
        else [])
      (s.setMux s.mux.bump)

def deviceKillConnectionsLocks (s : Daemon) : List LockAction :=
  forEachLocks (fun s => s.mux.deviceList)
    (fun d s => if (s.mux.dev d).state ≠ .init then teardownAll env d s else s)
    (fun d s => if (s.mux.dev d).state ≠ .init then teardownAllLocks env d s else []) s

/-- `usb_shutdown` removes the devices one by one. -/
def usbShutdownLocks : List UsbPtr → Daemon → List LockAction
  | [], _ => []
  | u :: usbs, s => deviceRemoveLocks env u s ++ usbShutdownLocks usbs (deviceRemove env u s)

def deviceShutdownLocks (s : Daemon) : List LockAction :=
  let usbs := s.mux.deviceList.map fun d => (s.mux.dev d).usbdev
  usbShutdownLocks env usbs s ++ guarded .deviceList
    (forEachLocks (fun s => s.mux.deviceList) (shutdownDevice env)
      (fun d s => teardownAllLocks env d (s.setMux (s.mux.touchConnections d)))
      (usbs.foldl (fun s u => deviceRemove env u s) s))

def clientShutdownLocks (s : Daemon) : List LockAction :=
  forEachLocks (fun s => s.clients.clientList) (clientClose env) (clientCloseLocks env) s

end Devices

section Commands

variable (env : Env) (k : ClientPtr)

/-- `start_listen` takes the mutex once, for the list of devices. -/
def listenCommandLocks (tag : UInt32) (s : Daemon) : List LockAction :=
  if (sendResult env k tag resultOk s.clients).1 < 0 then [] else deviceGetListLocks

/-- `get_mux_device_for_id` in `device_start_connect`. -/
def connectCommandLocks : List LockAction := guarded .deviceList []

def savePairRecordLocks (dict : Plist) (s : Daemon) : List LockAction :=
  match dict.getStringVal "PairRecordID", (dict.getItem "PairRecordData").bind Plist.dataVal? with
  | some recordId, some _ =>
    if (env.sock s.clients.tick).conf < 0 then []
    else
      let deviceId := match dict.getItem "DeviceID" with
        | some (.uint value) => value.toUInt32.toNat
        | _ => 0
      let known := (deviceGetList env true s.mux).any fun info => info.id = deviceId && info.serial = recordId
      if 0 < deviceId then deviceGetListLocks ++ if known then clientDevicePairedLocks else [] else []
  | _, _ => []

def plistCommandLocks (tag : UInt32) (message : String) (dict : Plist) (s : Daemon) : List LockAction :=
  match message with
  | "Listen" => listenCommandLocks env k tag s
  | "Connect" =>
    match connectRequest dict with
    | .target _ _ => connectCommandLocks
    | _ => []
  | "ListDevices" => deviceGetListLocks
  | "ListListeners" => guarded .clientList []
  | "SavePairRecord" => savePairRecordLocks env dict s
  | _ => []

def plistInputLocks (tag : UInt32) (dict : Option Plist) (s : Daemon) : List LockAction :=
  let s := s.setClients (s.clients.modify k fun client => { client with protoVersion := 1 })
  match dict with
  | none => []
  | some dict =>
    match (dict.getItem "MessageType").bind Plist.stringVal? with
    | none => []
    | some message => plistCommandLocks env k tag message dict (s.setClients (updateClientInfo k dict s.clients))

def handleCommandLocks (frame : Bytes) (s : Daemon) : List LockAction :=
  match s.clients.client k with
  | none => []
  | some client =>
    let tag := le32At frame 12
    if client.state ≠ .command then
      let r := sendResult env k tag resultBadCommand s.clients
      if r.1 < 0 then [] else clientCloseLocks env k (s.setClients r.2)
    else
      match readRequest env frame with
      | .listen => listenCommandLocks env k tag s
      | .connect _ _ => connectCommandLocks
      | .plist dict => plistInputLocks env k tag dict s
      | _ => []

def inputBufferProcessLocks (s : Daemon) : List LockAction :=
  let r := readCommand env k s.clients
  let s := s.setClients r.2
  match r.1 with
  | .close => clientCloseLocks env k s
  | .frame bytes => handleCommandLocks env k bytes s
  | _ => []

def outputBufferProcessLocks (s : Daemon) : List LockAction :=
  match s.clients.client k with
  | none => []
  | some client =>
    if client.obSize = 0 then []
    else
      match (env.sock s.clients.tick).send with
      | .sent size =>
        if min size (client.obBuf.getD []).length = 0 then clientCloseLocks env k (s.setClients s.clients.bump) else []
      | _ => clientCloseLocks env k (s.setClients s.clients.bump)

end Commands

def clientProcessLocks (env : Env) (fd : ℤ) (events : PollMask) (s : Daemon) : List LockAction :=
  guarded .clientList [] ++
    match s.clients.clientList.find? (fun k => (s.clients.client k).any fun client => client.fd = fd) with
    | none => []
    | some k =>
      match s.clients.client k with
      | none => []
      | some client =>
        if client.state = .connected then deviceClientProcessLocks env client.connectDevice k events s
        else if events.pollin then inputBufferProcessLocks env k s
        else if events.pollout then outputBufferProcessLocks env k s
        else []

def clientAcceptLocks (env : Env) (s : Clients) : List LockAction :=
  if (env.sock s.tick).accept < 0 then [] else guarded .clientList []

/-- The actions of an event that can happen. -/
def eventLocks (env : Env) (s : Daemon) : Event → List LockAction
  | .accept => clientAcceptLocks env s.clients
  | .clientProcess fd events => clientProcessLocks env fd events s
  | .deviceAdd u => deviceAddLocks env u s.mux
  | .dataInput u t => deviceDataInputLocks env u t s
  | .deviceRemove u => deviceRemoveLocks env u s
  | .checkTimeouts => deviceCheckTimeoutsLocks env s
  | .workerDeviceAdd _ => clientDeviceAddLocks
  | .workerCbData _ _ => deviceSetPreflightCbDataLocks
  | .killConnections => deviceKillConnectionsLocks env s
  | .deviceShutdown => deviceShutdownLocks env s
  | .clientShutdown => clientShutdownLocks env s

/-- The main thread and the preflight workers. -/
inductive Thread where
  | main
  | worker (number : ℕ)
deriving DecidableEq, Repr

/-- Who makes a call. -/
def Event.callable : Event → Thread → Bool
  | .workerDeviceAdd _, .worker _ | .workerCbData _ _, .worker _ => true
  | .workerDeviceAdd _, .main | .workerCbData _ _, .main => false
  | _, thread => thread = .main

/-- A thread makes a call. The data is taken to change when the call begins; a call may begin long
before its first action. -/
def threadCalls (env : Env) : Operations Mutex Thread Event Daemon := fun s thread event =>
  if event.callable thread && enabled s event then some (eventLocks env s event, step env s event) else none

/-- The threads of the daemon under a schedule. -/
def threads (env : Env) (schedule : List (Choice Thread Event)) : Config Mutex Thread Daemon :=
  execute (threadCalls env) (.idle Daemon.initial) schedule

end Usbmuxd
