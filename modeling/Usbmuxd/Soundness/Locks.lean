import Usbmuxd.Model.Locks
import Usbmuxd.Soundness.Pairing

/-! # Mutexes and deadlocks

Every call releases what it has taken, innermost first, and takes no mutex twice, so no thread waits
for itself. The removal of a device, an acknowledgement that fails after its timeout and the shutdown
close clients inside the section of `device_list_mutex`, and `client_device_add` makes its device
visible inside the section of `client_list_mutex`: a worker and the main thread can wait for each other.
They do not as long as both enter these sections only while the other mutex is free.
-/

namespace Usbmuxd

open Collection Locking History

private theorem forEachLocks_closed {α σ : Type*} [DecidableEq α] {held : List Mutex} {entries : σ → List α}
    {body : α → σ → σ}
    {locks : α → σ → List LockAction} (closed : ∀ entry state, Closed held (locks entry state)) (state : σ) :
    Closed held (forEachLocks entries body locks state) := by
  have loop (pending : List α) (p : List LockAction × σ) (sofar : Closed held p.1) :
      Closed held (pending.foldl (fun p entry =>
        if entry ∈ entries p.2 then (p.1 ++ locks entry p.2, body entry p.2) else p) p).1 := by
    induction pending generalizing p with
    | nil => exact sofar
    | cons entry pending ih =>
      rw [List.foldl_cons]
      apply ih
      split
      · exact sofar.append (closed entry p.2)
      · exact sofar
  exact loop _ _ .nil

section Teardown

variable (env : Env) {held : List Mutex} (outside : .clientList ∉ held)

private theorem connectionTeardownLocksWith_closed {close : ClientPtr → Daemon → List LockAction}
    (closes : ∀ k s, Closed held (close k s)) (c : ConnPtr) (s : Daemon) :
    Closed held (connectionTeardownLocksWith env close c s) := by
  simp only [connectionTeardownLocksWith]
  split
  · exact .nil
  split
  · exact .nil
  split
  · exact .nil
  split
  · exact .nil
  · exact closes _ _

/-- An abort takes no mutex: it clears the client before the teardown. -/
private theorem deviceAbortConnectLocks_closed (deviceId : ℕ) (k : ClientPtr) (s : Daemon) :
    Closed held (deviceAbortConnectLocks env deviceId k s) := by
  simp only [deviceAbortConnectLocks]
  split
  · exact .nil
  split
  · exact .nil
  · exact connectionTeardownLocksWith_closed env (fun _ _ => .nil) _ _

include outside

private theorem clientCloseLocks_closed (k : ClientPtr) (s : Daemon) : Closed held (clientCloseLocks env k s) := by
  refine .guarded outside ?_
  split
  · split
    · exact .nil
    · split
      · exact deviceAbortConnectLocks_closed env _ _ _
      · exact .nil
  · exact .nil

private theorem connectionTeardownLocks_closed (c : ConnPtr) (s : Daemon) :
    Closed held (connectionTeardownLocks env c s) :=
  connectionTeardownLocksWith_closed env (clientCloseLocks_closed env outside) c s

private theorem teardownAllLocks_closed (d : DevPtr) (s : Daemon) : Closed held (teardownAllLocks env d s) :=
  forEachLocks_closed (connectionTeardownLocks_closed env outside) s

private theorem sendTcpAckLocks_closed (c : ConnPtr) (s : Daemon) : Closed held (sendTcpAckLocks env c s) := by
  simp only [sendTcpAckLocks]
  split
  · exact connectionTeardownLocks_closed env outside _ _
  · exact .nil

private theorem clientInputLocks_closed (c : ConnPtr) (k : ClientPtr) (events : PollMask) (s : Daemon) :
    Closed held (clientInputLocks env c k events s) := by
  simp only [clientInputLocks]
  split
  · exact .nil
  split
  swap
  · exact .nil
  split
  · exact connectionTeardownLocks_closed env outside _ _
  · split
    · exact connectionTeardownLocks_closed env outside _ _
    · exact .nil

private theorem connectionDeviceInputLocks_closed (c : ConnPtr) (payload : Bytes) (s : Daemon) :
    Closed held (connectionDeviceInputLocks env c payload s) := by
  simp only [connectionDeviceInputLocks]
  split
  · exact .nil
  · split
    · exact connectionTeardownLocks_closed env outside _ _
    · exact .nil

private theorem connectionOpenLocks_closed (c : ConnPtr) (m : MuxConnection) (s : Daemon) :
    Closed held (connectionOpenLocks env c m s) := by
  simp only [connectionOpenLocks]
  split
  · exact connectionTeardownLocks_closed env outside _ _
  split
  · exact .nil
  split
  · exact .nil
  split
  · exact connectionTeardownLocks_closed env outside _ _
  · exact .nil

private theorem connectionInputLocks_closed (c : ConnPtr) (th : TcpHdr) (payload : Bytes) (s : Daemon) :
    Closed held (connectionInputLocks env c th payload s) := by
  simp only [connectionInputLocks]
  split
  · exact .nil
  split
  · split
    · exact connectionTeardownLocks_closed env outside _ _
    · exact connectionOpenLocks_closed env outside _ _ _
  · split
    · exact connectionTeardownLocks_closed env outside _ _
    · exact (connectionDeviceInputLocks_closed env outside _ _ _).append (sendTcpAckLocks_closed env outside _ _)
  · exact .nil

private theorem deviceTcpInputLocks_closed (d : DevPtr) (th : TcpHdr) (payload : Bytes) (s : Daemon) :
    Closed held (deviceTcpInputLocks env d th payload s) := by
  simp only [deviceTcpInputLocks]
  split
  · exact .nil
  split
  · exact .nil
  · exact connectionInputLocks_closed env outside _ _ _ _

end Teardown

private theorem section_closed (m : Mutex) : Closed [] (guarded m []) := .section_nil (by simp)

private theorem clientDeviceAddLocks_closed : Closed [] clientDeviceAddLocks :=
  .guarded (by simp) (.section_nil (by simp))

section Devices

variable (env : Env)

private theorem preflightWorkerDeviceAddLocks_closed (info : DeviceInfo) (s : Daemon) :
    Closed [] (preflightWorkerDeviceAddLocks env info s) := by
  simp only [preflightWorkerDeviceAddLocks]
  split
  · exact clientDeviceAddLocks_closed
  · split
    · exact .nil
    · exact clientDeviceAddLocks_closed

private theorem deviceVersionInputLocks_closed (d : DevPtr) (vh : Bytes) (s : Daemon) :
    Closed [] (deviceVersionInputLocks env d vh s) := by
  simp only [deviceVersionInputLocks]
  split
  · exact .nil
  split
  · exact section_closed _
  · exact preflightWorkerDeviceAddLocks_closed env _ _

private theorem deviceDataInputLocks_closed (u : UsbPtr) (t : Transfer) (s : Daemon) :
    Closed [] (deviceDataInputLocks env u t s) := by
  simp only [deviceDataInputLocks]
  refine (section_closed _).append ?_
  split
  · exact .nil
  split
  · exact .nil
  split
  · exact .nil
  split
  · exact .nil
  simp only [packetInputLocks]
  split
  · exact .nil
  simp only [runDispatchLocks]
  split
  · exact deviceVersionInputLocks_closed env _ _ _
  · exact deviceTcpInputLocks_closed env (by simp) _ _ _ _
  · exact .nil

private theorem deviceAddLocks_closed (u : UsbPtr) (s : Mux) : Closed [] (deviceAddLocks env u s) := by
  refine (Closed.flatten fun operation member => ?_).append ?_
  · rw [List.eq_of_mem_replicate member]
    exact section_closed _
  · split
    · exact .nil
    · exact section_closed _

private theorem deviceRemoveLocks_closed (u : UsbPtr) (s : Daemon) : Closed [] (deviceRemoveLocks env u s) := by
  refine .guarded (by simp) ?_
  split
  · exact .nil
  · split
    · exact (teardownAllLocks_closed env (by simp) _ _).append (.section_nil (by simp))
    · exact .nil

private theorem deviceCheckTimeoutsLocks_closed (s : Daemon) : Closed [] (deviceCheckTimeoutsLocks env s) := by
  refine .guarded (by simp) (forEachLocks_closed (fun d s => ?_) _)
  split
  · refine forEachLocks_closed (fun c s => ?_) _
    split
    · exact sendTcpAckLocks_closed env (by simp) _ _
    · exact .nil
  · exact .nil

private theorem deviceKillConnectionsLocks_closed (s : Daemon) : Closed [] (deviceKillConnectionsLocks env s) := by
  refine forEachLocks_closed (fun d s => ?_) _
  split
  · exact teardownAllLocks_closed env (by simp) _ _
  · exact .nil

private theorem usbShutdownLocks_closed (usbs : List UsbPtr) (s : Daemon) :
    Closed [] (usbShutdownLocks env usbs s) := by
  induction usbs generalizing s with
  | nil => exact .nil
  | cons u usbs ih => exact (deviceRemoveLocks_closed env u s).append (ih _)

private theorem deviceShutdownLocks_closed (s : Daemon) : Closed [] (deviceShutdownLocks env s) := by
  refine (usbShutdownLocks_closed env _ _).append (.guarded (by simp) ?_)
  exact forEachLocks_closed (fun d s => teardownAllLocks_closed env (by simp) _ _) _

end Devices

section Commands

variable (env : Env) (k : ClientPtr)

private theorem listenCommandLocks_closed (tag : UInt32) (s : Daemon) : Closed [] (listenCommandLocks env k tag s) := by
  simp only [listenCommandLocks]
  split
  · exact .nil
  · exact section_closed _

private theorem savePairRecordLocks_closed (dict : Plist) (s : Daemon) :
    Closed [] (savePairRecordLocks env dict s) := by
  have asked (deviceId : ℕ) (known : Bool) :
      Closed [] (if 0 < deviceId then deviceGetListLocks ++ if known then clientDevicePairedLocks else [] else []) := by
    split
    · refine (section_closed _).append ?_
      split
      · exact section_closed _
      · exact .nil
    · exact .nil
  simp only [savePairRecordLocks]
  split
  · split
    · exact .nil
    · exact asked _ _
  · exact .nil

private theorem plistCommandLocks_closed (tag : UInt32) (message : String) (dict : Plist) (s : Daemon) :
    Closed [] (plistCommandLocks env k tag message dict s) := by
  simp only [plistCommandLocks]
  split
  · exact listenCommandLocks_closed env k tag s
  · split
    · exact section_closed _
    · exact .nil
  · exact section_closed _
  · exact section_closed _
  · exact savePairRecordLocks_closed env dict s
  · exact .nil

private theorem handleCommandLocks_closed (frame : Bytes) (s : Daemon) :
    Closed [] (handleCommandLocks env k frame s) := by
  simp only [handleCommandLocks]
  split
  · exact .nil
  split
  · split
    · exact .nil
    · exact clientCloseLocks_closed env (by simp) _ _
  split
  · exact listenCommandLocks_closed env k _ s
  · exact section_closed _
  · simp only [plistInputLocks]
    split
    · exact .nil
    split
    · exact .nil
    · exact plistCommandLocks_closed env k _ _ _ _
  · exact .nil

private theorem inputBufferProcessLocks_closed (s : Daemon) : Closed [] (inputBufferProcessLocks env k s) := by
  simp only [inputBufferProcessLocks]
  split
  · exact clientCloseLocks_closed env (by simp) _ _
  · exact handleCommandLocks_closed env k _ _
  · exact .nil

private theorem outputBufferProcessLocks_closed (s : Daemon) : Closed [] (outputBufferProcessLocks env k s) := by
  simp only [outputBufferProcessLocks]
  split
  · exact .nil
  split
  · exact .nil
  split
  · split
    · exact clientCloseLocks_closed env (by simp) _ _
    · exact .nil
  · exact clientCloseLocks_closed env (by simp) _ _

private theorem deviceClientProcessLocks_closed (deviceId : ℕ) (events : PollMask) (s : Daemon) :
    Closed [] (deviceClientProcessLocks env deviceId k events s) := by
  simp only [deviceClientProcessLocks]
  refine (section_closed _).append ?_
  split
  · exact .nil
  split
  · exact .nil
  split
  · split
    · exact connectionTeardownLocks_closed env (by simp) _ _
    · exact clientInputLocks_closed env (by simp) _ _ _ _
  · exact clientInputLocks_closed env (by simp) _ _ _ _

end Commands

private theorem clientProcessLocks_closed (env : Env) (fd : ℤ) (events : PollMask) (s : Daemon) :
    Closed [] (clientProcessLocks env fd events s) := by
  refine (section_closed _).append ?_
  split
  · exact .nil
  split
  · exact .nil
  split
  · exact deviceClientProcessLocks_closed env _ _ _ _
  split
  · exact inputBufferProcessLocks_closed env _ _
  split
  · exact outputBufferProcessLocks_closed env _ _
  · exact .nil

private theorem eventLocks_closed (env : Env) (s : Daemon) (event : Event) : Closed [] (eventLocks env s event) := by
  cases event with
  | accept =>
    simp only [eventLocks, clientAcceptLocks]
    split
    · exact .nil
    · exact section_closed _
  | clientProcess fd events => exact clientProcessLocks_closed env fd events s
  | deviceAdd u => exact deviceAddLocks_closed env u s.mux
  | dataInput u t => exact deviceDataInputLocks_closed env u t s
  | deviceRemove u => exact deviceRemoveLocks_closed env u s
  | checkTimeouts => exact deviceCheckTimeoutsLocks_closed env s
  | workerDeviceAdd info => exact clientDeviceAddLocks_closed
  | workerCbData deviceId data => exact section_closed _
  | killConnections => exact deviceKillConnectionsLocks_closed env s
  | deviceShutdown => exact deviceShutdownLocks_closed env s
  | clientShutdown =>
    simp only [eventLocks, clientShutdownLocks]
    exact forEachLocks_closed (clientCloseLocks_closed env (by simp)) s

private theorem threadCalls_closed (env : Env) (s : Daemon) (thread : Thread) (event : Event)
    (actions : List LockAction)
    (s' : Daemon) (called : threadCalls env s thread event = some (actions, s')) : Closed [] actions := by
  simp only [threadCalls] at called
  split at called
  · rw [← (Prod.mk.inj (Option.some.inj called)).1]
    exact eventLocks_closed env s event
  · cases called

/-- No thread ever waits for a mutex it holds. If sections are only entered while the mutexes taken
inside are free, no two threads ever wait for each other. -/
theorem threads_deadlockFree (env : Env) (schedule : List (Choice Thread Event)) :
    ¬(threads env schedule).SelfBlocked ∧
      (Each (fun earlier choice => Careful (threads env earlier) choice) schedule →
        ¬(threads env schedule).Crossed) := by
  refine ⟨(execute_consistent _ schedule (threadCalls_closed env)).not_selfBlocked, fun careful => ?_⟩
  exact (execute_apart _ schedule (threadCalls_closed env) careful).not_crossed

/-- A world in which a preflight worker is started for every device. -/
def preflightEnv : Env where
  usb n := ⟨0, UInt64.ofNat n, 0⟩
  sock _ := {
    send := .sent 65536, recv := .wouldBlock, accept := 5, alloc := true, slot := 0, thread := true, conf := 0,
    record := none, buid := "" }
  usbDevice _ := ⟨512, "", 0, 0, 0⟩
  plistFromXml _ := none
  plistToXml _ := []
  noPreflight := false
  resultXml_fits _ := emptyXml_fits

/-- A device appears and answers, and a worker is started for it. -/
def greeting : List (Choice Thread Event) :=
  [.start .main (.deviceAdd 0), .advance .main, .advance .main, .advance .main, .advance .main,
    .start .main (.dataInput 0 (.full versionReply)), .advance .main, .advance .main]

/-- The worker announces the device before it is removed. -/
def sequential : List (Choice Thread Event) :=
  greeting ++ [.start (.worker 0) (.workerDeviceAdd ⟨1, "", 0, 0, 0⟩), .advance (.worker 0), .advance (.worker 0),
    .advance (.worker 0), .advance (.worker 0), .start .main (.deviceRemove 0), .advance .main, .advance .main]

private theorem sequential_careful :
    Each (fun earlier choice => Careful (threads preflightEnv earlier) choice) sequential := by
  decide +kernel

/-- The main thread ends up inside both sections, and nobody waits for anybody. -/
theorem sequential_deadlockFree :
    (threads preflightEnv sequential).holder .clientList = some .main ∧
      (threads preflightEnv sequential).holder .deviceList = some .main ∧
      ¬(threads preflightEnv sequential).SelfBlocked ∧ ¬(threads preflightEnv sequential).Crossed :=
  ⟨by decide +kernel, by decide +kernel, (threads_deadlockFree preflightEnv sequential).1,
    (threads_deadlockFree preflightEnv sequential).2 sequential_careful⟩

/-- The device is removed while the worker announces it: each enters its outer section first. -/
def simultaneous : List (Choice Thread Event) :=
  greeting ++ [.start .main (.deviceRemove 0), .start (.worker 0) (.workerDeviceAdd ⟨1, "", 0, 0, 0⟩), .advance .main,
    .advance (.worker 0)]

/-- The main thread waits for the worker, and the worker for the main thread. -/
theorem simultaneous_crossed : (threads preflightEnv simultaneous).Crossed :=
  ⟨.main, .worker 0, .deviceList, .clientList, [.unlock .clientList, .unlock .deviceList],
    [.unlock .deviceList, .unlock .clientList], by decide, by decide +kernel, by decide +kernel, by decide +kernel,
    by decide +kernel⟩

end Usbmuxd
