import Usbmuxd.Soundness.PairRecords

/-! # The system BUID

The BUID is an entry of a property list in the directory of the pair records. It stays as it was first
read, as long as no pair record is saved to or deleted from the file it is kept in.
-/

namespace Usbmuxd

open History

/-- The BUID that the configuration file holds. -/
def storedBuid (host : Host) (files : Files) : Option String :=
  ((files.contents (host.resolve host.configFile)).bind host.plistFromMemory).bind fun config =>
    config.getStringVal "SystemBUID"

/-- The configuration file, if it is a property list at all, is a dictionary. -/
def Dictionary (host : Host) (files : Files) : Prop :=
  ∀ config, (files.contents (host.resolve host.configFile)).bind host.plistFromMemory = some config →
    ∃ entries, config = .dict entries

namespace Host

/-- Files can be written. -/
def Writable (host : Host) : Prop := ∀ n, (host.answers n).writing = .done

/-- A dictionary that was written is read back as a dictionary with the same BUID. -/
def ReadsBack (host : Host) : Prop :=
  ∀ entries, ∃ entries', host.plistFromMemory (host.plistToXml (.dict entries)) = some (.dict entries') ∧
    (Plist.dict entries').getStringVal "SystemBUID" = (Plist.dict entries).getStringVal "SystemBUID"

end Host

/-- The call does not write or remove the configuration file under the name of a record. -/
def ConfCall.Apart (host : Host) : ConfCall → Prop
  | .set udid _ | .remove udid => host.resolve (host.path udid) ≠ host.resolve host.configFile
  | _ => True

instance (host : Host) : (call : ConfCall) → Decidable (call.Apart host)
  | .buid | .get _ => .isTrue trivial
  | .set udid _ | .remove udid =>
    inferInstanceAs (Decidable (host.resolve (host.path udid) ≠ host.resolve host.configFile))

section Files

variable {host : Host} {files files' : Files}

private theorem getStringVal_setItem (entries : List (String × Plist)) (key value : String) :
    ((Plist.dict entries).setItem key (.string value)).getStringVal key = some value := by
  have absent : (entries.filter fun entry => entry.1 ≠ key).find? (fun entry => entry.1 == key) = none := by
    rw [List.find?_eq_none]
    intro entry member
    simpa using (List.mem_filter.mp member).2
  simp only [Plist.setItem, Plist.getStringVal, Plist.getItem, List.find?_append, absent]
  simp [Plist.stringVal?]

private theorem storedBuid_congr (same : files'.contents (host.resolve host.configFile) =
    files.contents (host.resolve host.configFile)) : storedBuid host files' = storedBuid host files := by
  rw [storedBuid, same, storedBuid]

private theorem Dictionary.congr (same : files'.contents (host.resolve host.configFile) =
    files.contents (host.resolve host.configFile)) (dictionary : Dictionary host files) : Dictionary host files' := by
  rw [Dictionary, same]
  exact dictionary

private theorem internalGetValue_buid (files : Files) :
    (internalGetValue host host.configFile "SystemBUID" files).1.bind Plist.stringVal? = storedBuid host files := by
  simp only [internalGetValue, Host.readPlist, storedBuid, Option.bind_assoc]
  rfl

private theorem configGetSystemBuid_value (answer : FileAnswer) (files : Files) :
    (configGetSystemBuid host answer files).1 = (storedBuid host files).getD answer.uuid := by
  simp only [configGetSystemBuid, internalGetValue_buid]
  cases storedBuid host files <;> rfl

private theorem writePlist_stored (readsBack : host.ReadsBack) {answer : FileAnswer} (writes : answer.writing = .done)
    (entries : List (String × Plist)) (files : Files) :
    let files' := (host.writePlist answer (.dict entries) host.configFile files).2
    storedBuid host files' = (Plist.dict entries).getStringVal "SystemBUID" ∧ Dictionary host files' := by
  obtain ⟨entries', back, same⟩ := readsBack entries
  have held : (((host.writePlist answer (.dict entries) host.configFile files).2.contents
      (host.resolve host.configFile)).bind host.plistFromMemory) = some (.dict entries') := by
    simp [Host.writePlist, writes, Files.store, back]
  refine ⟨?_, fun config known => ⟨entries', ?_⟩⟩
  · rw [storedBuid, held, Option.bind_some, same]
  · exact Option.some.inj (known.symm.trans held)

/-- `config_get_system_buid` keeps a BUID that is stored, and stores one that it makes up. -/
private theorem configGetSystemBuid_stored (readsBack : host.ReadsBack) {answer : FileAnswer}
    (writes : answer.writing = .done) (dictionary : Dictionary host files) :
    storedBuid host (configGetSystemBuid host answer files).2 = some (configGetSystemBuid host answer files).1 ∧
      Dictionary host (configGetSystemBuid host answer files).2 := by
  rw [configGetSystemBuid_value]
  simp only [configGetSystemBuid, internalGetValue_buid]
  rcases known : storedBuid host files with _ | buid
  · -- nothing is stored, so that the file is made or gets another entry
    simp only [configSetSystemBuid, Host.createConfigDir_eq, lt_irrefl, if_false, internalSetValue]
    split
    · exact writePlist_stored readsBack writes _ _
    · next config parsed =>
      obtain ⟨entries, rfl⟩ := dictionary config parsed
      refine ⟨(writePlist_stored readsBack writes _ _).1.trans ?_, (writePlist_stored readsBack writes _ _).2⟩
      exact getStringVal_setItem entries "SystemBUID" answer.uuid
  · exact ⟨known, dictionary⟩

/-- A call about a record that is kept elsewhere leaves the configuration file alone. -/
private theorem ConfCall.perform_apart {call : ConfCall} (apart : call.Apart host) (record : call ≠ .buid)
    (files : Files) :
    (call.perform host files).2.contents (host.resolve host.configFile) =
      files.contents (host.resolve host.configFile) := by
  cases call with
  | buid => exact absurd rfl record
  | get udid => exact congrFun (configGetDeviceRecord_contents _ _) _
  | set udid data =>
    refine (configSetDeviceRecord_confined (host.answers files.calls) _ data).contents _ fun path allowed => ?_
    rw [allowed.2]
    exact apart
  | remove udid =>
    refine (configRemoveDeviceRecord_confined (host.answers files.calls) _).contents _ fun path same => ?_
    rw [same]
    exact apart

end Files

/-- The configuration file holds the BUID of every reply so far. -/
structure BuidKept (host : Host) (s : Stored) : Prop where
  dictionary : Dictionary host s.files
  kept : ∀ outcome, (.buid, outcome) ∈ s.history → storedBuid host s.files = some outcome.buid

private theorem BuidKept.step {host : Host} {env : Env} {s : Stored} {event : Event} (writable : host.Writable)
    (readsBack : host.ReadsBack) (before : BuidKept host s)
    (apart : ∀ call ∈ requestedCall env s.daemon event, call.Apart host) :
    BuidKept host (storedStep host env s event) := by
  rcases requested : requestedCall env s.daemon event with _ | call
  · simp only [storedStep, requested]
    exact ⟨before.dictionary, before.kept⟩
  simp only [storedStep, requested]
  by_cases buid : call = .buid
  · subst buid
    have counted : Dictionary host { s.files with calls := s.files.calls + 1 } := before.dictionary
    obtain ⟨stored, still⟩ := configGetSystemBuid_stored readsBack (writable s.files.calls) counted
    refine ⟨still, fun outcome member => ?_⟩
    rcases List.mem_append.mp member with old | new
    · -- the reply repeats what the file holds
      have same : (configGetSystemBuid host (host.answers s.files.calls)
          { s.files with calls := s.files.calls + 1 }).1 = outcome.buid := by
        have held : storedBuid host { s.files with calls := s.files.calls + 1 } = some outcome.buid :=
          before.kept outcome old
        rw [configGetSystemBuid_value, held, Option.getD_some]
      rw [← same]
      exact stored
    · obtain ⟨-, rfl⟩ := Prod.mk.inj (List.mem_singleton.mp new)
      exact stored
  · have same := ConfCall.perform_apart (apart call requested) buid s.files
    refine ⟨before.dictionary.congr same, fun outcome member => ?_⟩
    rcases List.mem_append.mp member with old | new
    · exact (storedBuid_congr same).trans (before.kept outcome old)
    · exact absurd (Prod.mk.inj (List.mem_singleton.mp new)).1.symm buid

private theorem storedRun_buidKept {host : Host} {env : Env} {files : Files} {events : List Event}
    (writable : host.Writable)
    (readsBack : host.ReadsBack) (dictionary : Dictionary host files)
    (apart : Each (fun before event => ∀ call ∈ requestedCall env (storedRun host env files before).daemon event,
      call.Apart host) events) : BuidKept host (storedRun host env files events) := by
  induction events using List.reverseRecOn with
  | nil => exact ⟨dictionary, by simp [storedRun]⟩
  | append_singleton before event ih =>
    rw [storedRun_snoc]
    exact (ih apart.of_append).step writable readsBack apart.last

/-- The system BUID is stable while no pair record is saved to or deleted from the file it is kept in:
all replies to `ReadBUID` carry the same string, each as the result of the call it made, and commands
about pair records do not change what `config_get_system_buid` returns. -/
theorem system_buid_stable (host : Host) (env : Env) (files : Files) (events : List Event) (writable : host.Writable)
    (readsBack : host.ReadsBack) (dictionary : Dictionary host files)
    (apart : Each (fun before event => ∀ call ∈ requestedCall env (storedRun host env files before).daemon event,
      call.Apart host) events) :
    (∀ one two, (.buid, one) ∈ (storedRun host env files events).history →
      (.buid, two) ∈ (storedRun host env files events).history → one.buid = two.buid) ∧
    (∀ before event after, events = before ++ event :: after →
      ∀ k frame dict, Serves env (storedRun host env files before).daemon event k frame "ReadBUID" dict →
      ∃ outcome,
        (storedRun host env files (before ++ [event])).history =
          (storedRun host env files before).history ++ [(.buid, outcome)] ∧
        let start := commandStart env k dict (storedRun host env files before).daemon
        (storedRun host env files (before ++ [event])).daemon = finishCommand k (answered
          (sendPlist env k (le32At frame 12) (.dict [("BUID", .string outcome.buid)]) start.clients.bump) start).2) ∧
    ∀ before event after, events = before ++ event :: after →
      ∀ call ∈ requestedCall env (storedRun host env files before).daemon event, call ≠ .buid → ∀ answer,
      (configGetSystemBuid host answer (storedRun host env files (before ++ [event])).files).1 =
        (configGetSystemBuid host answer (storedRun host env files before).files).1 := by
  refine ⟨?_, ?_, ?_⟩
  · intro one two first second
    have kept := (storedRun_buidKept writable readsBack dictionary apart).kept
    exact Option.some.inj ((kept one first).symm.trans (kept two second))
  · intro before event after split k frame dict serves
    have requested : requestedCall env (storedRun host env files before).daemon event = some .buid :=
      serves.requestedCall
    refine ⟨(ConfCall.buid.perform host (storedRun host env files before).files).1, ?_, ?_⟩
    · rw [storedRun_snoc]
      simp only [storedStep, requested]
    · rw [storedRun_snoc, (serves.storedStep host).1]
      rfl
  · intro before event after split call requested record answer
    have same := ConfCall.perform_apart (apart before event after split call requested) record
      (storedRun host env files before).files
    rw [storedRun_snoc, configGetSystemBuid_value, configGetSystemBuid_value]
    simp only [storedStep, Option.mem_def.mp requested]
    rw [storedBuid_congr same]

private theorem recordHost_readsBack : recordHost.ReadsBack := by
  intro entries
  simp only [recordHost]
  rcases (Plist.dict entries).getStringVal "SystemBUID" with _ | buid
  · exact ⟨[], rfl, rfl⟩
  · refine ⟨[("SystemBUID", .string buid)], ?_, rfl⟩
    have whole : (⟨buid.toByteArray.data.toList.toArray⟩ : ByteArray) = buid.toByteArray := by simp
    simp only [whole, String.fromUTF8?, dif_pos buid.isValidUTF8]
    rfl

/-- A host on which nothing was configured yet. -/
def noFiles : Files := ⟨fun _ => none, [], 0⟩

/-- A client that asks for the BUID, sends a command about a pair record, and asks again. -/
def buidEnv (command : Plist) : Env :=
  let readBuid : Plist := .dict [("MessageType", .string "ReadBUID")]
  recordEnv [readBuid, command, readBuid]

/-- The client connects, and the headers and bodies of its commands arrive. -/
def threeCommands : List Event := .accept :: List.replicate 6 body

/-- Saving an ordinary record does not change the BUID. -/
theorem threeCommands_stable :
    let env := buidEnv (pairRequest "SavePairRecord" "0a-F")
    let s := storedRun recordHost env noFiles threeCommands
    s.history.map Prod.fst = [.buid, .set "0a-F" (List.replicate 8 0), .buid] ∧
    ∀ one two, (.buid, one) ∈ s.history → (.buid, two) ∈ s.history → one.buid = two.buid := by
  intro env s
  refine ⟨by decide +kernel, ?_⟩
  exact (system_buid_stable recordHost env noFiles threeCommands (fun n => rfl) recordHost_readsBack
    (by simp [Dictionary, noFiles]) (by decide +kernel)).1

/-- Deleting the record `SystemConfiguration` deletes the BUID, and another one is made up. -/
theorem threeCommands_unstable :
    let env := buidEnv (pairRequest "DeletePairRecord" "SystemConfiguration")
    recordHost.Writable ∧ recordHost.ReadsBack ∧ Dictionary recordHost noFiles ∧
    (storedRun recordHost env noFiles threeCommands).history =
      [(.buid, ⟨0, none, "0"⟩), (.remove "SystemConfiguration", ⟨0, none, ""⟩), (.buid, ⟨0, none, "2"⟩)] := by
  intro env
  exact ⟨fun n => rfl, recordHost_readsBack, by simp [Dictionary, noFiles], by decide +kernel⟩

end Usbmuxd
