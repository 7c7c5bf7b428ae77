import Usbmuxd.Model.Config
import Usbmuxd.Model.MainLoop
import Usbmuxd.Model.Threads

/-! # Preflight workers

`preflight_worker_handle_device_add` runs in a thread of its own for every device that has answered. A
step of a worker is one call into lockdownd, into `conf.c` or into the daemon, and what the worker does
with the result. What lockdownd answers is up to the device. A worker that has registered its
`cb_data` shares it with two other threads: the main thread follows the pointer in `device_remove`, and
the notification proxy calls `np_callback`. The record is a local variable of the worker, so a call
that comes after the worker has left the block would write to memory that is no longer there.
-/

namespace Usbmuxd

/-- The results of lockdownd that the worker tells apart. -/
inductive LockdownError where
  | success
  | invalidHostId
  | sslError
  | other
deriving DecidableEq, Repr

/-- What the next call of a worker is answered. -/
structure PreflightAnswer where
  error : LockdownError
  /-- The type that `lockdownd_query_type` stores. -/
  kind : Option String
  /-- The node that `lockdownd_get_value` stores. -/
  value : Option Plist
  /-- The result of `config_has_device_record` or `config_remove_device_record`. -/
  conf : ℤ
  /-- Whether `np_client_new` stores a client. -/
  np : Bool

/-- `struct cb_data`. -/
structure CbData where
  np : Bool
  isDeviceConnected : Bool
  isFinished : Bool
deriving DecidableEq, Repr

/-- Which call a worker makes next. -/
inductive WorkerStage where
  /-- `lockdownd_client_new`, at `retry`. -/
  | connect
  | queryType
  | hasRecord
  | startSession
  | removeRecord
  | productVersion
  | deviceClass
  /-- `lockdownd_set_untrusted_host_buid`. -/
  | setBuid
  /-- `lockdownd_pair`, to make the trust dialog appear. -/
  | trigger
  /-- `lockdownd_start_service`, and `np_client_new` if that succeeds. -/
  | startService
  /-- `device_set_preflight_cb_data` with the address of `cbdata`. -/
  | register
  /-- `client_device_add` before the worker waits. -/
  | reveal
  /-- The loop around `sleep`. -/
  | wait
  /-- `device_set_preflight_cb_data` with a null pointer. -/
  | unregister
  /-- `np_client_free`, if the proxy is still there. -/
  | freeProxy
  /-- `lockdownd_pair` for iOS 6 and earlier. -/
  | pair
  | restartSession
  | validatePair
  /-- `client_device_add` before the worker leaves. -/
  | announce
  | leave
  | done
deriving DecidableEq, Repr

/-- What a worker opens, releases and announces, in order. -/
inductive WorkerEvent where
  | lockdownNew
  | lockdownFree
  | npNew
  | npFree
  | announced
deriving DecidableEq, Repr

/-- The local variables of `preflight_worker_handle_device_add` and the call it makes next. A string is
present while it is allocated, and `cbdata` while its block has not been left. -/
structure Worker where
  info : DeviceInfo
  stage : WorkerStage
  lockdown : Bool
  isDevicePaired : Bool
  versionStr : Option String
  deviceclassStr : Option String
  cbdata : Option CbData
  log : List WorkerEvent

/-- `strtol` in base 10, stored in an `int`. -/
def strtol (text : String) : ℤ :=
  let number (digits : List Char) : ℕ :=
    (digits.takeWhile Char.isDigit).foldl (fun n digit => 10 * n + (digit.toNat - '0'.toNat)) 0
  let value : ℤ := match text.toList.dropWhile fun c => c = ' ' || '\t' ≤ c && c ≤ '\r' with
    | '-' :: digits => -number digits
    | '+' :: digits => number digits
    | digits => number digits
  (max (-2 ^ 63) (min value (2 ^ 63 - 1))).bmod (2 ^ 32)

/-- iOS 7.0, watchOS 2.0, tvOS 9.0 and later. -/
def asksForTrust (deviceclass version : String) : Bool :=
  let major := strtol version
  (deviceclass = "iPhone" || deviceclass = "iPad") && 7 ≤ major || deviceclass = "Watch" && 2 ≤ major ||
    deviceclass = "AppleTV" && 9 ≤ major

/-- The condition of the loop around `sleep`. -/
def CbData.waits (cbdata : CbData) : Bool := cbdata.np && cbdata.isDeviceConnected && !cbdata.isFinished

/-- `np_callback`. A request to pair ends the wait whether or not the pairing succeeds, and a request for
the BUID is answered without a change here. -/
def CbData.npCallback (notification : String) (cbdata : CbData) : CbData :=
  if notification = "" then { cbdata with np := false }
  else if notification = "com.apple.mobile.lockdown.request_pair" then { cbdata with isFinished := true }
  else cbdata

namespace Worker

/-- The thread starts with a copy of the information about its device. -/
def start (info : DeviceInfo) : Worker where
  info := info
  stage := .connect
  lockdown := false
  isDevicePaired := false
  versionStr := none
  deviceclassStr := none
  cbdata := none
  log := []

def goto (worker : Worker) (stage : WorkerStage) : Worker := { worker with stage := stage }

def note (worker : Worker) (event : WorkerEvent) : Worker := { worker with log := worker.log ++ [event] }

/-- `lockdownd_client_free`. -/
def freeLockdown (worker : Worker) : Worker := { worker.note .lockdownFree with lockdown := false }

/-- The `switch` on the result of the session. -/
def sessionFailed (worker : Worker) : LockdownError → Worker
  | .invalidHostId => worker.goto .productVersion
  | .sslError => worker.goto .removeRecord
  | _ => { worker.goto .productVersion with isDevicePaired := true }

/-- The version and the class of the device are known. -/
def classify (worker : Worker) (deviceclass : String) : Worker :=
  let worker := { worker with deviceclassStr := some deviceclass }
  if asksForTrust deviceclass (worker.versionStr.getD "") then worker.goto .setBuid else worker.goto .pair

/-- The notification proxy has been started, and lockdownd is not needed any more. -/
def openProxy (worker : Worker) (np : Bool) : Worker :=
  let worker := if np then worker.note .npNew else worker
  { worker.freeLockdown.goto .register with cbdata := some ⟨np, true, false⟩ }

/-- One step of the worker with number `w`, and what it asks of the daemon. -/
def advance (w : ℕ) (answer : PreflightAnswer) (worker : Worker) : Worker × Option WorkerCall :=
  match worker.stage with
  | .connect =>
    if answer.error = .success then ({ (worker.note .lockdownNew).goto .queryType with lockdown := true }, none)
    else (worker.goto .leave, none)
  | .queryType =>
    match answer.kind with
    | none => (worker.goto .leave, none)
    | some kind => (worker.goto (if kind = "com.apple.mobile.lockdown" then .hasRecord else .announce), none)
  | .hasRecord =>
    let worker := { worker with isDevicePaired := false }
    (if answer.conf ≠ 0 then worker.goto .startSession else worker.sessionFailed .invalidHostId, none)
  | .startSession =>
    (if answer.error = .success then worker.goto .announce else worker.sessionFailed answer.error, none)
  | .removeRecord =>
    (if answer.conf = 0 then worker.freeLockdown.goto .connect else worker.goto .productVersion, none)
  | .productVersion =>
    if answer.error ≠ .success then ({ worker.goto .deviceClass with versionStr := some "1.0" }, none)
    else
      match answer.value.bind Plist.stringVal? with
      | none => (worker.goto .leave, none)
      | some version => ({ worker.goto .deviceClass with versionStr := some version }, none)
  | .deviceClass =>
    if answer.error ≠ .success then (worker.goto .leave, none)
    else
      match answer.value.bind Plist.stringVal? with
      | none => (worker.goto .leave, none)
      | some deviceclass => (worker.classify deviceclass, none)
  | .setBuid => (worker.goto (if worker.isDevicePaired then .startService else .trigger), none)
  | .trigger => (worker.goto (if answer.error = .success then .announce else .startService), none)
  | .startService =>
    (if answer.error ≠ .success then worker.goto .announce else worker.openProxy answer.np, none)
  | .register => (worker.goto .reveal, some (.setPreflightCbData worker.info.id (some w)))
  | .reveal => ((worker.note .announced).goto .wait, some (.deviceAdd worker.info))
  | .wait => (if worker.cbdata.any CbData.waits then worker else worker.goto .unregister, none)
  | .unregister => (worker.goto .freeProxy, some (.setPreflightCbData worker.info.id none))
  | .freeProxy =>
    let worker := if worker.cbdata.any CbData.np then worker.note .npFree else worker
    ({ worker.goto .leave with cbdata := none }, none)
  | .pair => (worker.goto (if answer.error ≠ .success then .announce else .restartSession), none)
  | .restartSession => (worker.goto (if answer.error ≠ .success then .leave else .validatePair), none)
  | .validatePair => (worker.goto (if answer.error ≠ .success then .leave else .announce), none)
  | .announce => ((worker.note .announced).goto .leave, some (.deviceAdd worker.info))
  | .leave =>
    let worker := if worker.lockdown then worker.freeLockdown else worker
    ({ worker.goto .done with versionStr := none, deviceclassStr := none }, none)
  | .done => (worker, none)

/-- The store of `preflight_device_remove_cb`, if the record is still there. -/
def disconnect (worker : Worker) : Option Worker :=
  worker.cbdata.map fun cbdata => { worker with cbdata := some { cbdata with isDeviceConnected := false } }

end Worker

/-- The calls of `conf.c` that the next step of a worker makes, with the results it uses. -/
def Worker.consult (host : Host) (worker : Worker) (answer : PreflightAnswer) (files : Files) :
    PreflightAnswer × Files :=
  let udid := worker.info.serial
  let next := host.answers files.calls
  let counted := { files with calls := files.calls + 1 }
  match worker.stage with
  | .hasRecord => ({ answer with conf := configHasDeviceRecord host next udid files }, counted)
  | .removeRecord =>
    let r := configRemoveDeviceRecord host next udid counted
    ({ answer with conf := r.1 }, r.2)
  | .startSession | .restartSession => (answer, (configDeviceRecordGetHostId host udid counted).2)
  | .setBuid => (answer, (configGetSystemBuid host next counted).2)
  | _ => (answer, files)

/-- The worker sleeps or has returned. -/
def WorkerStage.rests : WorkerStage → Bool
  | wait | done => true
  | _ => false

/-- A worker and the files it shares with the commands of clients and with the other workers, and the
number of steps it has made other than to sleep. -/
structure Desk where
  worker : Worker
  files : Files
  steps : ℕ

/-- What happens next to a worker and its files: the worker goes on, its record is written to by another
thread, or a command of a client or another worker uses the files. -/
inductive DeskAction where
  | worker (answer : PreflightAnswer)
  | callback (store : CbData → CbData)
  | call (call : ConfCall)

/-- The calls that write files. -/
def DeskAction.writes : DeskAction → Bool
  | .call .buid | .call (.set _ _) => true
  | _ => false

namespace Desk

def start (info : DeviceInfo) (files : Files) : Desk := ⟨.start info, files, 0⟩

def step (host : Host) (desk : Desk) : DeskAction → Desk
  | .worker answer =>
    let r := desk.worker.consult host answer desk.files
    { worker := (desk.worker.advance 0 r.1).1
      files := r.2
      steps := desk.steps + if desk.worker.stage.rests then 0 else 1 }
  | .callback store => { desk with worker := { desk.worker with cbdata := desk.worker.cbdata.map store } }
  | .call call => { desk with files := (call.perform host desk.files).2 }

/-- The worker of a device from its start on, among any others. -/
def run (host : Host) (info : DeviceInfo) (files : Files) (actions : List DeskAction) : Desk :=
  actions.foldl (step host) (start info files)

end Desk

/-- All threads with their workers, which are numbered in the order in which they were started. `stray`
has the workers whose `cb_data` was written to after they had left its block. -/
structure Crew where
  threads : Threads
  workers : List Worker
  stray : List ℕ

/-- What happens next: the main thread goes on, a worker does, or the notification proxy calls a worker
back. -/
inductive CrewAction where
  | main (action : ThreadAction)
  | worker (w : ℕ) (answer : PreflightAnswer)
  | notify (w : ℕ) (notification : String)

/-- The workers that `device_remove` calls back when it is called for these USB devices, one after the
other. -/
def removeCallbacks (env : Env) : List UsbPtr → Daemon → List ℕ
  | [], _ => []
  | u :: rest, s =>
    ((findDevice u s.mux).bind fun d => (s.mux.dev d).preflightCbData).toList ++
      removeCallbacks env rest (deviceRemove env u s)

/-- The workers that the main thread calls back in one event. -/
def callbacks (env : Env) (s : Daemon) : Event → List ℕ
  | .deviceRemove u => removeCallbacks env [u] s
  | .deviceShutdown => removeCallbacks env (s.mux.deviceList.map fun d => (s.mux.dev d).usbdev) s
  | _ => []

/-- The actions of the main thread. -/
def ThreadAction.byMain : ThreadAction → Bool
  | .event taken => !taken.byWorker
  | .resume => true

/-- The workers called back in one action of the main thread, which takes no event while it is inside
`start_listen`. -/
def Threads.callbacks (env : Env) (t : Threads) : ThreadAction → List ℕ
  | .event event => if t.main = .idle ∧ enabled t.daemon event then Usbmuxd.callbacks env t.daemon event else []
  | .resume => []

namespace Crew

def initial : Crew := ⟨.initial, [], []⟩

/-- `preflight_device_remove_cb`. -/
def preflightDeviceRemoveCb (crew : Crew) (w : ℕ) : Crew :=
  match crew.workers[w]?.bind Worker.disconnect with
  | some worker => { crew with workers := crew.workers.set w worker }
  | none => { crew with stray := crew.stray ++ [w] }

/-- The main thread acts: it calls workers back and may start one. -/
def mainStep (env : Env) (crew : Crew) (action : ThreadAction) : Crew :=
  let told := (crew.threads.callbacks env action).foldl preflightDeviceRemoveCb crew
  let threads := crew.threads.step env action
  let started := threads.daemon.workers.drop crew.threads.daemon.workers.length
  { told with threads := threads, workers := told.workers ++ started.map Worker.start }

/-- A worker acts. -/
def workerStep (env : Env) (crew : Crew) (w : ℕ) (answer : PreflightAnswer) : Crew :=
  match crew.workers[w]? with
  | none => crew
  | some worker =>
    let r := worker.advance w answer
    { crew with
      threads := match r.2 with
        | none => crew.threads
        | some call => crew.threads.step env (.event call.event)
      workers := crew.workers.set w r.1 }

/-- The notification proxy acts, as long as its client is there. -/
def npCallback (crew : Crew) (w : ℕ) (notification : String) : Crew :=
  { crew with workers := crew.workers.modify w fun worker =>
      { worker with cbdata := worker.cbdata.map fun cbdata =>
          if cbdata.np then cbdata.npCallback notification else cbdata } }

def step (env : Env) (crew : Crew) : CrewAction → Crew
  | .main action => if action.byMain then crew.mainStep env action else crew
  | .worker w answer => crew.workerStep env w answer
  | .notify w notification => crew.npCallback w notification

/-- The state after any interleaving of the main thread, the workers and their notification proxies. -/
def run (env : Env) (actions : List CrewAction) : Crew := actions.foldl (step env) initial

end Crew

end Usbmuxd
