import Usbmuxd.Machine.Storage
import Usbmuxd.Proofs.Commands
import Usbmuxd.Proofs.Directories

/-! # What the calls of `conf.c` touch

Every call stays at the paths it puts together, and leaves the files that none of them names as they
were. The event that serves a command of the property-list protocol carries out that command with the
outcome of its call.
-/

namespace Usbmuxd

/-- Only the given paths were accessed, and only files that they name have changed. -/
structure Files.Confined (host : Host) (paths : String → Prop) (files files' : Files) : Prop where
  accesses : ∃ accessed, files'.accesses = files.accesses ++ accessed ∧ ∀ a ∈ accessed, paths a.path
  contents : ∀ file, (∀ path, paths path → host.resolve path ≠ file) → files'.contents file = files.contents file

namespace Files.Confined

variable {host : Host} {paths : String → Prop} {files files' files'' : Files}

theorem refl (files : Files) : Files.Confined host paths files files :=
  ⟨⟨[], (List.append_nil _).symm, by simp⟩, fun _ _ => rfl⟩

private theorem trans (one : Files.Confined host paths files files') (two : Files.Confined host paths files' files'') :
    Files.Confined host paths files files'' := by
  obtain ⟨⟨first, grown, inside⟩, same⟩ := one
  obtain ⟨⟨second, grown', inside'⟩, same'⟩ := two
  refine ⟨⟨first ++ second, by rw [grown', grown, List.append_assoc], ?_⟩,
    fun file apart => (same' file apart).trans (same file apart)⟩
  intro a member
  exact (List.mem_append.mp member).elim (inside a) (inside' a)

theorem mono {wider : String → Prop} (confined : Files.Confined host paths files files')
    (allowed : ∀ path, paths path → wider path) : Files.Confined host wider files files' := by
  obtain ⟨⟨accessed, grown, inside⟩, same⟩ := confined
  exact ⟨⟨accessed, grown, fun a member => allowed _ (inside a member)⟩,
    fun file apart => same file fun path inPaths => apart path (allowed path inPaths)⟩

private theorem access {a : Access} (allowed : paths a.path) : Files.Confined host paths files (files.access a) :=
  ⟨⟨[a], rfl, fun b member => by rwa [List.mem_singleton.mp member]⟩, fun _ _ => rfl⟩

private theorem store {path : String} (allowed : paths path) (data : Option Bytes) :
    Files.Confined host paths files (files.store (host.resolve path) data) := by
  refine ⟨⟨[], (List.append_nil _).symm, by simp⟩, fun file apart => ?_⟩
  exact Function.update_of_ne (apart path allowed).symm _ _

private theorem count (n : ℕ) : Files.Confined host paths files { files with calls := n } :=
  ⟨⟨[], (List.append_nil _).symm, by simp⟩, fun _ _ => rfl⟩

end Files.Confined

section Calls

variable {host : Host} {paths : String → Prop} {path udid : String} (answer : FileAnswer) (files : Files)

private theorem writePlist_confined (node : Plist) (allowed : paths path) :
    files.Confined host paths (host.writePlist answer node path files).2 := by
  have noted : files.Confined host paths (files.access (.write path)) := .access allowed
  simp only [Host.writePlist]
  split
  · exact noted.trans (.store allowed _)
  · exact noted
  · exact noted.trans (.store allowed _)

private theorem removeFile_confined (allowed : paths path) :
    files.Confined host paths (host.removeFile answer path files).2 := by
  have noted : files.Confined host paths (files.access (.remove path)) := .access allowed
  simp only [Host.removeFile]
  split
  · exact noted
  split
  · exact noted
  · exact noted.trans (.store allowed _)

/-- `config_set_device_record` checks the identifier before it puts the path together. -/
theorem configSetDeviceRecord_confined (record : Bytes) :
    files.Confined host (fun path => admissible udid ∧ path = host.path udid)
      (configSetDeviceRecord host answer udid record files).2 := by
  simp only [configSetDeviceRecord]
  split
  · exact .refl files
  split
  · exact .refl files
  next checked =>
  have allowed : admissible udid ∧ host.path udid = host.path udid := ⟨not_not.mp checked, rfl⟩
  split
  · simp only [Host.createConfigDir_eq, lt_irrefl, if_false]
    exact (removeFile_confined answer files allowed).trans (writePlist_confined answer _ _ allowed)
  · exact .refl files

/-- An identifier that does not pass the check is refused. -/
theorem configSetDeviceRecord_refused (refused : ¬admissible udid) (record : Bytes) :
    configSetDeviceRecord host answer udid record files = (-22, files) := by
  rw [configSetDeviceRecord]
  split <;> rfl

private theorem configGetDeviceRecord_confined :
    files.Confined host (· = host.path udid) (configGetDeviceRecord host answer udid files).2 := by
  simp only [configGetDeviceRecord, Host.createConfigDir_eq, lt_irrefl, if_false]
  exact .access rfl

theorem configRemoveDeviceRecord_confined :
    files.Confined host (· = host.path udid) (configRemoveDeviceRecord host answer udid files).2 :=
  removeFile_confined answer files rfl

/-- Reading a record changes no file. -/
theorem configGetDeviceRecord_contents :
    (configGetDeviceRecord host answer udid files).2.contents = files.contents := by
  simp only [configGetDeviceRecord, Host.createConfigDir_eq, lt_irrefl, if_false]
  rfl

end Calls

namespace ConfCall

/-- The identifier that a call is about. -/
def udid? : ConfCall → Option String
  | buid => none
  | get udid | set udid _ | remove udid => some udid

/-- The calls that put a path together without looking at the identifier. -/
def Unchecked : ConfCall → Prop
  | get _ | remove _ => True
  | _ => False

end ConfCall

/-- A call about a pair record stays at the file of that record, if the identifier is admissible or
gets checked. -/
theorem ConfCall.perform_confined (host : Host) (call : ConfCall) (files : Files) {udid : String}
    (about : call.udid? = some udid) (checked : call.Unchecked → admissible udid) :
    files.Confined host (fun path => admissible udid ∧ path = host.path udid) (call.perform host files).2 := by
  have counted : files.Confined host (fun path => admissible udid ∧ path = host.path udid)
      { files with calls := files.calls + 1 } := .count _
  cases call with
  | buid => cases about
  | get udid =>
    obtain rfl := Option.some.inj about
    exact counted.trans ((configGetDeviceRecord_confined _ _).mono fun path same => ⟨checked trivial, same⟩)
  | set udid record =>
    obtain rfl := Option.some.inj about
    exact counted.trans (configSetDeviceRecord_confined _ _ record)
  | remove udid =>
    obtain rfl := Option.some.inj about
    exact counted.trans ((configRemoveDeviceRecord_confined _ _).mono fun path same => ⟨checked trivial, same⟩)

/-- A call that puts a path together without looking at the identifier accesses it. -/
theorem ConfCall.perform_accesses (host : Host) {call : ConfCall} (files : Files) {udid : String}
    (about : call.udid? = some udid) (unchecked : call.Unchecked) :
    ∃ a : Access, (call.perform host files).2.accesses = files.accesses ++ [a] ∧ a.path = host.path udid := by
  cases call with
  | buid | set => exact unchecked.elim
  | get udid =>
    obtain rfl := Option.some.inj about
    simp only [ConfCall.perform, configGetDeviceRecord, Host.createConfigDir_eq, lt_irrefl, if_false]
    exact ⟨.read (host.path udid), rfl, rfl⟩
  | remove udid =>
    obtain rfl := Option.some.inj about
    refine ⟨.remove (host.path udid), ?_, rfl⟩
    simp only [ConfCall.perform, configRemoveDeviceRecord, Host.removeFile]
    split
    · rfl
    split <;> rfl

/-- The end of `input_buffer_process`. -/
def finishCommand (k : ClientPtr) (s : Daemon) : Daemon :=
  s.setClients (s.clients.modify k fun client => { client with ibSize := 0 })

/-- The state in which a command of the property-list protocol is carried out. -/
def commandStart (env : Env) (k : ClientPtr) (dict : Plist) (s : Daemon) : Daemon :=
  let s := s.setClients (readCommand env k s.clients).2
  let s := s.setClients (s.clients.modify k fun client => { client with protoVersion := 1 })
  s.setClients (updateClientInfo k dict s.clients)

/-- The event serves a command of the property-list protocol. -/
structure Serves (env : Env) (s : Daemon) (event : Event) (k : ClientPtr) (frame : Bytes) (message : String)
    (dict : Plist) : Prop where
  reading : readingClient s event = some k
  commanding : (s.clients.client k).any fun client => client.state = .command
  framed : (readCommand env k s.clients).1 = .frame frame
  request : readRequest env frame = .plist (some dict)
  message : (dict.getItem "MessageType").bind Plist.stringVal? = some message

namespace Serves

variable {env : Env} {s : Daemon} {event : Event} {k : ClientPtr} {frame : Bytes} {message : String} {dict : Plist}

private theorem backed (serves : Serves env s event k frame message dict) (outcome : ConfOutcome) :
    Serves (env.backed outcome) s event k frame message dict :=
  ⟨serves.reading, serves.commanding, serves.framed, serves.request, serves.message⟩

theorem requestedCall (serves : Serves env s event k frame message dict) :
    Usbmuxd.requestedCall env s event = dict.confCall? message := by
  simp only [Usbmuxd.requestedCall, serves.reading, serves.framed, serves.commanding, frameCall, serves.request,
    serves.message, if_true, Option.bind_some]

private theorem step (serves : Serves env s event k frame message dict) :
    Usbmuxd.step env s event =
      finishCommand k (plistCommand env k (le32At frame 12) message dict (commandStart env k dict s)).2 := by
  obtain ⟨client, present, -, -, -, reads⟩ := step_of_reading env serves.reading
  have commanding : client.state = .command := by simpa [present] using serves.commanding
  obtain ⟨buffer, size, filled, -⟩ := (readCommand_refilled env present).state present
  have there : (s.setClients (readCommand env k s.clients).2).clients.client k =
      some { client with ibBuf := buffer, ibSize := size } := filled
  have handled : handleCommand env k frame (s.setClients (readCommand env k s.clients).2) =
      plistCommand env k (le32At frame 12) message dict (commandStart env k dict s) := by
    simp only [handleCommand, there, commanding, ne_eq, not_true_eq_false, if_false, serves.request, plistInput,
      serves.message]
    rfl
  rw [reads]
  simp only [inputBufferProcess, serves.framed, handled]
  rfl

/-- The event carries out the command on the files as well. -/
theorem storedStep (host : Host) {s : Stored} (serves : Serves env s.daemon event k frame message dict) :
    let r := storedCommand host env k (le32At frame 12) message dict (commandStart env k dict s.daemon) s.files
    (Usbmuxd.storedStep host env s event).daemon = finishCommand k r.1.2 ∧
      (Usbmuxd.storedStep host env s event).files = r.2 := by
  intro r
  simp only [Usbmuxd.storedStep, serves.requestedCall, r, storedCommand]
  rcases dict.confCall? message with _ | call
  · exact ⟨serves.step, rfl⟩
  · exact ⟨(serves.backed _).step, rfl⟩

end Serves

end Usbmuxd
