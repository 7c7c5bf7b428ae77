import Usbmuxd.Model.Directories
import Usbmuxd.Model.Environment

/-! # The configuration directory

`conf.c`: pair records and the system BUID are property lists in one directory, at paths that are put
together from the directory, a name and an extension. Paths are strings, and several of them may name
one file.
-/

namespace Usbmuxd

/-- How `plist_write_to_file` ends: everything is written, the file cannot be opened, or it holds other
bytes than it should. -/
inductive Writing where
  | done
  | refused
  | cut (left : Bytes)
deriving DecidableEq, Repr

/-- What a call of `conf.c` is answered by the file system. -/
structure FileAnswer where
  /-- The directories at the time of the call. -/
  dirs : Directories
  /-- Error number of `remove` on a file that is there, zero if it is removed. -/
  removeErr : ℕ
  writing : Writing
  /-- The string that `config_generate_uuid` makes up. -/
  uuid : String

/-- The host that `conf.c` runs on: directory, file system and libplist. -/
structure Host where
  configDir : String
  /-- `config_dir` taken apart. -/
  configPath : Path
  dirSep : String
  /-- The file that a path names. -/
  resolve : String → String
  /-- Answers of the file system, one for each call of `conf.c`. -/
  answers : ℕ → FileAnswer
  /-- `plist_from_memory`, which also reads files. -/
  plistFromMemory : Bytes → Option Plist
  plistFromMemory_nil : plistFromMemory [] = none
  plistToXml : Plist → Bytes

/-- An access to a path. -/
inductive Access where
  | read (path : String)
  | write (path : String)
  | remove (path : String)
deriving DecidableEq, Repr

def Access.path : Access → String
  | read path | write path | remove path => path

/-- The files of the host, the accesses to them and the number of calls so far. -/
structure Files where
  contents : String → Option Bytes
  accesses : List Access
  calls : ℕ

/-- Note an access. -/
def Files.access (files : Files) (a : Access) : Files := { files with accesses := files.accesses ++ [a] }

/-- Replace or remove a file. -/
def Files.store (files : Files) (file : String) (data : Option Bytes) : Files :=
  { files with contents := Function.update files.contents file data }

/-- `plist_dict_remove_item` if the key is there, and `plist_dict_set_item`. -/
def Plist.setItem (node : Plist) (key : String) (value : Plist) : Plist :=
  match node with
  | dict entries => dict (entries.filter (fun entry => entry.1 ≠ key) ++ [(key, value)])
  | node => node

namespace Host

/-- `string_concat` of directory, separator, name and `CONFIG_EXT`. -/
def path (host : Host) (name : String) : String := host.configDir ++ host.dirSep ++ name ++ ".plist"

/-- The path of `CONFIG_FILE`. -/
def configFile (host : Host) : String := host.path "SystemConfiguration"

/-- `config_create_config_dir`, which stops at the latest where the path has no components left. -/
def createConfigDir (host : Host) (answer : FileAnswer) : ℤ :=
  ((configCreateConfigDir (host.configPath.names.length + 1) host.configPath answer.dirs).map Prod.fst).getD (-1)

/-- `buffer_read_from_filename`. The buffer stays a null pointer when the file is empty. -/
def readFile (host : Host) (path : String) (files : Files) : Option Bytes × Files :=
  ((files.contents (host.resolve path)).filter fun data => !data.isEmpty, files.access (.read path))

/-- `plist_read_from_file`. -/
def readPlist (host : Host) (path : String) (files : Files) : Option Plist × Files :=
  ((files.contents (host.resolve path)).bind host.plistFromMemory, files.access (.read path))

/-- `plist_write_to_file`. -/
def writePlist (host : Host) (answer : FileAnswer) (node : Plist) (path : String) (files : Files) : Bool × Files :=
  let files := files.access (.write path)
  match answer.writing with
  | .done => (true, files.store (host.resolve path) (some (host.plistToXml node)))
  | .refused => (false, files)
  | .cut left => (false, files.store (host.resolve path) (some left))

/-- `remove`, with the error number or zero. -/
def removeFile (host : Host) (answer : FileAnswer) (path : String) (files : Files) : ℕ × Files :=
  let files := files.access (.remove path)
  if files.contents (host.resolve path) = none then (2, files)
  else if answer.removeErr ≠ 0 then (answer.removeErr, files)
  else (0, files.store (host.resolve path) none)

end Host

/-- The check of `config_set_device_record`: ASCII letters, digits and hyphens. -/
def admissible (udid : String) : Bool := udid.toList.all fun c => c.isAlphanum || c = '-'

/-- `config_set_device_record`. -/
def configSetDeviceRecord (host : Host) (answer : FileAnswer) (udid : String) (record : Bytes) (files : Files) :
    ℤ × Files :=
  if record.length < 8 then (-22, files)
  else if ¬admissible udid then (-22, files)
  else
    match host.plistFromMemory record with
    | some (.dict entries) =>
      if host.createConfigDir answer < 0 then (-1, files)
      else
        let path := host.path udid
        let files := (host.removeFile answer path files).2
        let r := host.writePlist answer (.dict entries) path files
        (if r.1 then 0 else -2, r.2)
    | _ => (-22, files)

/-- `config_get_device_record`; the caller only looks at the record. -/
def configGetDeviceRecord (host : Host) (answer : FileAnswer) (udid : String) (files : Files) : Option Bytes × Files :=
  if host.createConfigDir answer < 0 then (none, files) else host.readFile (host.path udid) files

/-- `config_remove_device_record`. -/
def configRemoveDeviceRecord (host : Host) (answer : FileAnswer) (udid : String) (files : Files) : ℤ × Files :=
  let r := host.removeFile answer (host.path udid) files
  (-r.1, r.2)

/-- `internal_get_value`. -/
def internalGetValue (host : Host) (file key : String) (files : Files) : Option Plist × Files :=
  let r := host.readPlist file files
  (r.1.bind fun config => config.getItem key, r.2)

/-- `internal_set_value`. -/
def internalSetValue (host : Host) (answer : FileAnswer) (file key : String) (value : Plist) (files : Files) :
    Bool × Files :=
  let r := host.readPlist file files
  match r.1 with
  | none => host.writePlist answer (.dict [(key, value)]) file r.2
  | some config => host.writePlist answer (config.setItem key value) file (host.removeFile answer file r.2).2

/-- `config_set_system_buid`, through `config_set_value`. -/
def configSetSystemBuid (host : Host) (answer : FileAnswer) (buid : String) (files : Files) : Files :=
  if host.createConfigDir answer < 0 then files
  else (internalSetValue host answer host.configFile "SystemBUID" (.string buid) files).2

/-- `config_get_system_buid`. -/
def configGetSystemBuid (host : Host) (answer : FileAnswer) (files : Files) : String × Files :=
  let r := internalGetValue host host.configFile "SystemBUID" files
  match r.1.bind Plist.stringVal? with
  | some buid => (buid, r.2)
  | none => (answer.uuid, configSetSystemBuid host answer answer.uuid r.2)

/-- `config_has_device_record`. -/
def configHasDeviceRecord (host : Host) (answer : FileAnswer) (udid : String) (files : Files) : ℤ :=
  if host.createConfigDir answer < 0 then -1
  else if (files.contents (host.resolve (host.path udid))).isSome then 1 else 0

/-- `config_device_record_get_host_id`. -/
def configDeviceRecordGetHostId (host : Host) (udid : String) (files : Files) : Option String × Files :=
  let r := internalGetValue host (host.path udid) "HostID" files
  (r.1.bind Plist.stringVal?, r.2)

/-- The calls of `conf.c` that client commands make. -/
inductive ConfCall where
  | buid
  | get (udid : String)
  | set (udid : String) (record : Bytes)
  | remove (udid : String)
deriving DecidableEq, Repr

/-- What `client.c` takes from a call. -/
structure ConfOutcome where
  conf : ℤ
  record : Option Bytes
  buid : String
deriving DecidableEq, Repr

/-- Make a call with the next answer of the file system. -/
def ConfCall.perform (host : Host) (call : ConfCall) (files : Files) : ConfOutcome × Files :=
  let answer := host.answers files.calls
  let files := { files with calls := files.calls + 1 }
  match call with
  | .buid =>
    let r := configGetSystemBuid host answer files
    (⟨0, none, r.1⟩, r.2)
  | .get udid =>
    let r := configGetDeviceRecord host answer udid files
    (⟨0, r.1, ""⟩, r.2)
  | .set udid record =>
    let r := configSetDeviceRecord host answer udid record files
    (⟨r.1, none, ""⟩, r.2)
  | .remove udid =>
    let r := configRemoveDeviceRecord host answer udid files
    (⟨r.1, none, ""⟩, r.2)

end Usbmuxd
