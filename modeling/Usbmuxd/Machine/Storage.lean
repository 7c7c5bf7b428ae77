import Usbmuxd.Machine.Reading
import Usbmuxd.Model.Config

/-! # The daemon and its configuration files

Client commands reach `conf.c` through one call each. A state of the daemon is paired with the files
of its host, and the results of the call that an event makes replace those of the outside world.
-/

namespace Usbmuxd

/-- The call of `conf.c` that a command of the property-list protocol makes. -/
def Plist.confCall? (dict : Plist) (message : String) : Option ConfCall :=
  match message with
  | "ReadBUID" => some .buid
  | "ReadPairRecord" => (dict.getStringVal "PairRecordID").map .get
  | "SavePairRecord" =>
    match dict.getStringVal "PairRecordID", (dict.getItem "PairRecordData").bind Plist.dataVal? with
    | some recordId, some record => some (.set recordId record)
    | _, _ => none
  | "DeletePairRecord" => (dict.getStringVal "PairRecordID").map .remove
  | _ => none

/-- The outside world of a command whose call had the given outcome. -/
def Env.backed (env : Env) (outcome : ConfOutcome) : Env :=
  { env with sock := fun n =>
      { env.sock n with conf := outcome.conf, record := outcome.record, buid := outcome.buid } }

/-- A command of the property-list protocol with the call it makes. -/
def storedCommand (host : Host) (env : Env) (k : ClientPtr) (tag : UInt32) (message : String) (dict : Plist)
    (s : Daemon) (files : Files) : (ℤ × Daemon) × Files :=
  match dict.confCall? message with
  | none => (plistCommand env k tag message dict s, files)
  | some call =>
    let r := call.perform host files
    (plistCommand (env.backed r.1) k tag message dict s, r.2)

/-- The call of `conf.c` that a frame asks for. -/
def frameCall (env : Env) (frame : Bytes) : Option ConfCall :=
  match readRequest env frame with
  | .plist (some dict) => ((dict.getItem "MessageType").bind Plist.stringVal?).bind dict.confCall?
  | _ => none

/-- The call of `conf.c` that an event makes. -/
def requestedCall (env : Env) (s : Daemon) (event : Event) : Option ConfCall :=
  match readingClient s event with
  | none => none
  | some k =>
    match (readCommand env k s.clients).1 with
    | .frame bytes =>
      if (s.clients.client k).any fun client => client.state = .command then frameCall env bytes else none
    | _ => none

/-- The daemon, the files of its host and the calls made so far with their outcomes. -/
structure Stored where
  daemon : Daemon
  files : Files
  history : List (ConfCall × ConfOutcome)

/-- What an event does to the daemon and the files. -/
def storedStep (host : Host) (env : Env) (s : Stored) (event : Event) : Stored :=
  match requestedCall env s.daemon event with
  | none => { s with daemon := step env s.daemon event }
  | some call =>
    let r := call.perform host s.files
    ⟨step (env.backed r.1) s.daemon event, r.2, s.history ++ [(call, r.1)]⟩

/-- The state after a sequence of events, from given files. -/
def storedRun (host : Host) (env : Env) (files : Files) (events : List Event) : Stored :=
  events.foldl (storedStep host env) ⟨Daemon.initial, files, []⟩

theorem storedRun_snoc (host : Host) (env : Env) (files : Files) (before : List Event) (event : Event) :
    storedRun host env files (before ++ [event]) = storedStep host env (storedRun host env files before) event := by
  simp [storedRun]

end Usbmuxd
