import Usbmuxd.Proofs.Storage
import Usbmuxd.Soundness.Pairing

/-! # Pair records and the configuration directory

Saving a pair record checks its identifier; reading and deleting one put it into a path as it is. With
identifiers that would pass the check, every command stays at the file of its record. A record is saved
by removing its file and writing it again, so that it is lost when it cannot be written.
-/

namespace Usbmuxd

/-- The commands about pair records. -/
def pairCommands : List String := ["ReadPairRecord", "SavePairRecord", "DeletePairRecord"]

/-- The call of a command about a pair record has the identifier of the command. -/
private theorem confCall_udid {dict : Plist} {message : String} {call : ConfCall} (pair : message ∈ pairCommands)
    (made : dict.confCall? message = some call) :
    ∃ udid, dict.getStringVal "PairRecordID" = some udid ∧ call.udid? = some udid ∧
      (call.Unchecked ↔ message ≠ "SavePairRecord") := by
  simp only [pairCommands, List.mem_cons, List.not_mem_nil, or_false] at pair
  rcases pair with rfl | rfl | rfl
  · obtain ⟨udid, known, rfl⟩ := Option.map_eq_some_iff.mp made
    exact ⟨udid, known, rfl, iff_of_true trivial (by decide)⟩
  · simp only [Plist.confCall?] at made
    split at made
    · next known _ =>
      obtain rfl := Option.some.inj made
      exact ⟨_, known, rfl, iff_of_false id (not_not.mpr rfl)⟩
    · cases made
  · obtain ⟨udid, known, rfl⟩ := Option.map_eq_some_iff.mp made
    exact ⟨udid, known, rfl, iff_of_true trivial (by decide)⟩

/-- Reading and deleting a record make a call whenever there is an identifier. -/
private theorem confCall_isSome {dict : Plist} {message udid : String} (pair : message ∈ pairCommands)
    (other : message ≠ "SavePairRecord") (known : dict.getStringVal "PairRecordID" = some udid) :
    (dict.confCall? message).isSome := by
  simp only [pairCommands, List.mem_cons, List.not_mem_nil, or_false] at pair
  rcases pair with rfl | rfl | rfl
  · simp only [Plist.confCall?, known, Option.map_some, Option.isSome_some]
  · exact absurd rfl other
  · simp only [Plist.confCall?, known, Option.map_some, Option.isSome_some]

/-- A command about a pair record stays at the file of the record exactly if its identifier passes the
check or is checked. -/
private theorem storedCommand_confined (host : Host) (env : Env) (k : ClientPtr) (tag : UInt32) {message : String}
    (dict : Plist) (s : Daemon) (files : Files) (pair : message ∈ pairCommands) :
    files.Confined host
      (fun path => ∃ udid ∈ dict.getStringVal "PairRecordID", admissible udid ∧ path = host.path udid)
      (storedCommand host env k tag message dict s files).2 ↔
    ∀ udid ∈ dict.getStringVal "PairRecordID", admissible udid ∨ message = "SavePairRecord" := by
  simp only [storedCommand]
  rcases made : dict.confCall? message with _ | call
  · refine iff_of_true (.refl files) fun udid known => .inr ?_
    by_contra other
    have called := confCall_isSome pair other known
    rw [made] at called
    cases called
  obtain ⟨udid, known, about, unchecked⟩ := confCall_udid pair made
  constructor
  · rintro ⟨⟨accessed, grown, inside⟩, -⟩ udid' known'
    obtain rfl := Option.some.inj (known.symm.trans known')
    by_contra! refused
    -- the access to the path of the identifier gives it away
    obtain ⟨a, access, path⟩ := call.perform_accesses host files about (unchecked.mpr refused.2)
    have only : accessed = [a] := List.append_cancel_left (grown.symm.trans access)
    obtain ⟨udid', known', passed, -⟩ := inside a (by simp [only])
    obtain rfl := Option.some.inj (known.symm.trans known')
    exact refused.1 passed
  · intro checked
    refine (call.perform_confined host files about fun raw => ?_).mono fun path inside =>
      ⟨udid, known, inside.1, inside.2⟩
    exact (checked udid known).resolve_right (unchecked.mp raw)

/-- A record with an identifier that does not pass the check is not saved. -/
private theorem storedCommand_refused (host : Host) (env : Env) (k : ClientPtr) (tag : UInt32) (dict : Plist)
    (s : Daemon)
    (files : Files) {udid : String} (known : dict.getStringVal "PairRecordID" = some udid)
    (refused : ¬admissible udid) :
    let r := storedCommand host env k tag "SavePairRecord" dict s files
    r.2.accesses = files.accesses ∧ r.2.contents = files.contents ∧
      ∃ x, (x = s ∨ x = s.setClients s.clients.bump) ∧ r.1 = replyResult env k tag errInval x := by
  rcases data : (dict.getItem "PairRecordData").bind Plist.dataVal? with _ | record
  · have none : dict.confCall? "SavePairRecord" = none := by simp only [Plist.confCall?, known, data]
    simp only [storedCommand, none]
    refine ⟨trivial, trivial, s, .inl rfl, ?_⟩
    simp only [plistCommand, savePairRecord, known, data]
  · have made : dict.confCall? "SavePairRecord" = some (.set udid record) := by
      simp only [Plist.confCall?, known, data]
    simp only [storedCommand, made, ConfCall.perform, configSetDeviceRecord_refused _ _ refused]
    refine ⟨trivial, trivial, s.setClients s.clients.bump, .inr rfl, ?_⟩
    simp only [plistCommand, savePairRecord, known, data]
    rfl

/-- The commands about pair records stay at `config_dir/<id>.plist` for an identifier made of ASCII
letters, digits and hyphens, and answer any other identifier with an error and without touching a file,
exactly if the identifier is of that kind or the command is `SavePairRecord`, which answers with
`EINVAL`. -/
theorem pair_records_confined (host : Host) (env : Env) (s : Stored) (event : Event) (k : ClientPtr) (frame : Bytes)
    (message : String) (dict : Plist) (serves : Serves env s.daemon event k frame message dict)
    (pair : message ∈ pairCommands) :
    let s' := storedStep host env s event
    (s.files.Confined host
      (fun path => ∃ udid ∈ dict.getStringVal "PairRecordID", admissible udid ∧ path = host.path udid) s'.files ∧
    ∀ udid ∈ dict.getStringVal "PairRecordID", ¬admissible udid →
      s'.files.accesses = s.files.accesses ∧ s'.files.contents = s.files.contents ∧
      ∃ x, (x = commandStart env k dict s.daemon ∨
          x = (commandStart env k dict s.daemon).setClients (commandStart env k dict s.daemon).clients.bump) ∧
        s'.daemon = finishCommand k (replyResult env k (le32At frame 12) errInval x).2) ↔
    ∀ udid ∈ dict.getStringVal "PairRecordID", admissible udid ∨ message = "SavePairRecord" := by
  obtain ⟨daemon, files⟩ := serves.storedStep host
  have stays := storedCommand_confined host env k (le32At frame 12) dict (commandStart env k dict s.daemon) s.files pair
  simp only [files, daemon, stays, and_iff_left_iff_imp]
  intro checked udid known refused
  obtain rfl := (checked udid known).resolve_left refused
  obtain ⟨accesses, contents, x, start, answer⟩ :=
    storedCommand_refused host env k (le32At frame 12) dict (commandStart env k dict s.daemon) s.files known refused
  exact ⟨accesses, contents, x, start, by rw [answer]⟩

/-- A property list that asks for a pair record. -/
def pairRequest (message udid : String) : Plist :=
  .dict [("MessageType", .string message), ("PairRecordID", .string udid),
    ("PairRecordData", .data (List.replicate 8 0))]

/-- A client that sends the given commands, one after the other, each with one byte of body. -/
def recordEnv (commands : List Plist) : Env :=
  { sessionEnv with
    plistFromXml := fun body => commands[(body.headD 0).toNat]?
    sock := fun n => { sessionEnv.sock n with
      recv := .received (if n % 4 = 1 then le32 17 ++ le32 1 ++ le32 8 ++ le32 7 else [UInt8.ofNat (n / 4)]) } }

/-- A host with the usual directory. Of a dictionary only the BUID is written. -/
def recordHost : Host where
  configDir := "/var/lib/lockdown"
  configPath := ⟨true, ["lockdown", "lib", "var"]⟩
  dirSep := "/"
  resolve := id
  answers n := ⟨bare [], 0, .done, toString n⟩
  plistFromMemory
    | [] => none
    | 1 :: bytes => (String.fromUTF8? ⟨bytes.toArray⟩).map fun buid => .dict [("SystemBUID", .string buid)]
    | _ => some (.dict [])
  plistFromMemory_nil := rfl
  plistToXml node :=
    match node.getStringVal "SystemBUID" with
    | some buid => 1 :: buid.toByteArray.data.toList
    | none => [0]

/-- A client has connected, and the header of its first command has arrived. -/
def asked (files : Files) (command : Plist) : Stored :=
  storedRun recordHost (recordEnv [command]) files [.accept, .clientProcess 5 ⟨true, false⟩]

/-- The body of a command arrives. -/
def body : Event := .clientProcess 5 ⟨true, false⟩

/-- The frame of a first command with tag 7. -/
def firstFrame : Bytes := le32 17 ++ le32 1 ++ le32 8 ++ le32 7 ++ [0]

/-- Deleting an ordinary record stays at its file, and a record that would leave the directory is not
saved. -/
theorem records_confined :
    let files : Files := ⟨fun _ => none, [], 0⟩
    let deleting := pairRequest "DeletePairRecord" "0a-F"
    let saving := pairRequest "SavePairRecord" "../x"
    (asked files deleting).files.Confined recordHost
      (fun path => ∃ udid ∈ deleting.getStringVal "PairRecordID", admissible udid ∧ path = recordHost.path udid)
      (storedStep recordHost (recordEnv [deleting]) (asked files deleting) body).files ∧
    (storedStep recordHost (recordEnv [saving]) (asked files saving) body).files.accesses =
      (asked files saving).files.accesses := by
  intro files deleting saving
  have deletes : Serves (recordEnv [deleting]) (asked files deleting).daemon body 0 firstFrame "DeletePairRecord"
      deleting := ⟨by decide +kernel, by decide +kernel, by decide +kernel, rfl, rfl⟩
  have saves : Serves (recordEnv [saving]) (asked files saving).daemon body 0 firstFrame "SavePairRecord" saving :=
    ⟨by decide +kernel, by decide +kernel, by decide +kernel, rfl, rfl⟩
  refine ⟨?_, ?_⟩
  · refine ((pair_records_confined recordHost (recordEnv [deleting]) (asked files deleting) body 0 firstFrame
      "DeletePairRecord" deleting deletes (by decide)).mpr fun udid known => .inl ?_).1
    rw [← Option.some.inj known]
    decide
  · exact (((pair_records_confined recordHost (recordEnv [saving]) (asked files saving) body 0 firstFrame
      "SavePairRecord" saving saves (by decide)).mpr fun _ _ => .inr rfl).2 "../x" rfl (by decide)).1

/-- Reading and deleting follow an identifier out of the directory: a file elsewhere is read, and it is
removed. -/
theorem records_traversed :
    let outside := "/var/lib/lockdown/../../../etc/x.plist"
    let files : Files := ⟨fun file => if file = outside then some [0] else none, [], 0⟩
    let reading := pairRequest "ReadPairRecord" "../../../etc/x"
    let deleting := pairRequest "DeletePairRecord" "../../../etc/x"
    let read := storedStep recordHost (recordEnv [reading]) (asked files reading) body
    let deleted := storedStep recordHost (recordEnv [deleting]) (asked files deleting) body
    ¬admissible "../../../etc/x" ∧
    read.files.accesses = [.read outside] ∧ read.history = [(.get "../../../etc/x", ⟨0, some [0], ""⟩)] ∧
    deleted.files.accesses = [.remove outside] ∧ deleted.files.contents outside = none := by
  decide +kernel

/-- What is left of a file with the given content that is to be removed and written again. -/
def FileAnswer.left (answer : FileAnswer) (written : Bytes) (old : Option Bytes) : Option Bytes :=
  match answer.writing with
  | .done => some written
  | .refused => if answer.removeErr = 0 then none else old
  | .cut left => some left

/-- What becomes of the file of a record that is removed and written again. -/
private theorem writePlist_removeFile (host : Host) (answer : FileAnswer) (node : Plist) (path : String) (files : Files)
    :
    let r := host.writePlist answer node path (host.removeFile answer path files).2
    (r.1 ↔ answer.writing = .done) ∧ r.2.contents = Function.update files.contents (host.resolve path)
      (answer.left (host.plistToXml node) (files.contents (host.resolve path))) := by
  have removed : (host.removeFile answer path files).2.contents = Function.update files.contents (host.resolve path)
      (if answer.removeErr = 0 then none else files.contents (host.resolve path)) := by
    simp only [Host.removeFile]
    split
    · next missing =>
      have missing : files.contents (host.resolve path) = none := missing
      rw [missing, ite_self, ← missing, Function.update_eq_self]
      rfl
    split
    · simp [Files.access]
    · next done => simp [not_not.mp done, Files.access, Files.store]
  simp only [Host.writePlist, FileAnswer.left]
  cases answer.writing with
  | done => simp [Files.store, Files.access, removed]
  | refused => simp [Files.access, removed]
  | cut left => simp [Files.store, Files.access, removed]

/-- A record that `config_set_device_record` does not refuse. -/
def Storable (host : Host) (udid : String) (record : Bytes) : Prop :=
  8 ≤ record.length ∧ admissible udid ∧ ∃ entries, host.plistFromMemory record = some (.dict entries)

/-- A failing write leaves the record as it was: it cannot be opened, and there was none or it could
not be removed either, or the bytes that are left happen to be those of the old record. -/
def FileAnswer.Spares (answer : FileAnswer) (old : Option Bytes) : Prop :=
  match answer.writing with
  | .done => True
  | .refused => old = none ∨ answer.removeErr ≠ 0
  | .cut left => old = some left

private theorem FileAnswer.left_eq_iff {answer : FileAnswer} {written : Bytes} {old : Option Bytes}
    (failed : answer.writing ≠ .done) : answer.left written old = old ↔ answer.Spares old := by
  rw [FileAnswer.left, FileAnswer.Spares]
  rcases writing : answer.writing with _ | _ | left
  · exact absurd writing failed
  · by_cases removed : answer.removeErr = 0
    · simp [removed, eq_comm]
    · simp [removed]
  · exact eq_comm

private theorem configSetDeviceRecord_invalid (host : Host) (answer : FileAnswer) {udid : String} {record : Bytes}
    (files : Files) (refused : ¬Storable host udid record) :
    configSetDeviceRecord host answer udid record files = (-22, files) := by
  rw [configSetDeviceRecord]
  split
  · rfl
  next long =>
  split
  · rfl
  next passed =>
  split
  · next entries parsed => exact absurd ⟨not_lt.mp long, not_not.mp passed, entries, parsed⟩ refused
  · rfl

private theorem configSetDeviceRecord_valid (host : Host) (answer : FileAnswer) {udid : String} {record : Bytes}
    (files : Files) {entries : List (String × Plist)} (storable : Storable host udid record)
    (parsed : host.plistFromMemory record = some (.dict entries)) :
    let r := configSetDeviceRecord host answer udid record files
    r.1 = (if answer.writing = .done then 0 else -2) ∧
      r.2.contents = Function.update files.contents (host.resolve (host.path udid))
        (answer.left (host.plistToXml (.dict entries)) (files.contents (host.resolve (host.path udid)))) := by
  obtain ⟨long, passed, -⟩ := storable
  obtain ⟨result, contents⟩ := writePlist_removeFile host answer (.dict entries) (host.path udid) files
  simp only [configSetDeviceRecord, not_lt.mpr long, passed, not_true_eq_false, if_false, parsed,
    Host.createConfigDir_eq, lt_irrefl, result, contents, and_self]

/-- A record is saved or nothing changes, exactly if it is refused, or written, or what is left after a
failing write is the old record. -/
theorem record_saved_or_kept (host : Host) (answer : FileAnswer) (udid : String) (record : Bytes) (files : Files)
    (faithful : ∀ entries, host.plistFromMemory record = some (.dict entries) →
      host.plistFromMemory (host.plistToXml (.dict entries)) = some (.dict entries)) :
    let r := configSetDeviceRecord host answer udid record files
    ((r.1 < 0 → UInt32.ofNat (-r.1).toNat ≠ 0 ∧ r.2.contents = files.contents) ∧
      (r.1 = 0 → (∀ file ≠ host.resolve (host.path udid), r.2.contents file = files.contents file) ∧
        ∃ plist, host.plistFromMemory record = some plist ∧ ∀ answer',
          (configGetDeviceRecord host answer' udid r.2).1.bind host.plistFromMemory = some plist)) ↔
    (Storable host udid record → answer.Spares (files.contents (host.resolve (host.path udid)))) := by
  by_cases storable : Storable host udid record
  swap
  · simp [configSetDeviceRecord_invalid host answer files storable, storable]
  obtain ⟨-, -, entries, parsed⟩ := id storable
  obtain ⟨result, contents⟩ := configSetDeviceRecord_valid host answer files storable parsed
  simp only [result, contents, storable, true_implies]
  by_cases writing : answer.writing = .done
  · -- the record is written, and its file is read
    have spared : answer.Spares (files.contents (host.resolve (host.path udid))) := by
      simp [FileAnswer.Spares, writing]
    refine iff_of_true ⟨fun negative => by simp [writing] at negative, fun _ => ⟨fun file other => ?_, .dict entries,
      parsed, fun answer' => ?_⟩⟩ spared
    · exact Function.update_of_ne other ..
    · have back := faithful entries parsed
      have some_byte : host.plistToXml (.dict entries) ≠ [] := by
        intro empty
        rw [empty, host.plistFromMemory_nil] at back
        cases back
      simp [configGetDeviceRecord, Host.readFile, contents, FileAnswer.left, writing, Option.filter_some, some_byte,
        back]
  · rw [if_neg writing, ← FileAnswer.left_eq_iff writing]
    constructor
    · intro kept
      simpa using congrFun (kept.1 (by decide)).2 (host.resolve (host.path udid))
    · intro same
      exact ⟨fun _ => ⟨by decide, by rw [same, Function.update_eq_self]⟩, fun zero => by simp at zero⟩

/-- An ordinary record is saved and can be read back, while another stays as it was. -/
theorem ordinary_record_saved :
    let files : Files := ⟨fun file => if file = "/var/lib/lockdown/b.plist" then some [5] else none, [], 0⟩
    let r := configSetDeviceRecord recordHost (recordHost.answers 0) "0a-F" (List.replicate 8 0) files
    r.1 = 0 ∧ r.2.contents "/var/lib/lockdown/b.plist" = some [5] := by
  intro files r
  have saved : r.1 = 0 := by decide +kernel
  refine ⟨saved, ?_⟩
  have whole := record_saved_or_kept recordHost (recordHost.answers 0) "0a-F" (List.replicate 8 0) files
    fun entries parsed => ?_
  · exact ((whole.mpr fun _ => trivial).2 saved).1 _ (by decide)
  · obtain rfl : entries = [] := by
      have same : some (Plist.dict entries) = some (Plist.dict []) := parsed.symm.trans rfl
      simpa using same
    rfl

/-- A disk on which nothing can be written. -/
def fullDisk : FileAnswer := ⟨bare [], 0, .refused, ""⟩

/-- The old record is gone when the new one cannot be written. -/
theorem record_lost :
    let files : Files := ⟨fun file => if file = recordHost.path "0a-F" then some [5] else none, [], 0⟩
    let r := configSetDeviceRecord recordHost fullDisk "0a-F" (List.replicate 8 0) files
    r.1 = -2 ∧ files.contents (recordHost.path "0a-F") = some [5] ∧ r.2.contents (recordHost.path "0a-F") = none := by
  decide +kernel

end Usbmuxd
