import Usbmuxd.Proofs.Crew

/-! # A worker comes to an end

After an SSL error the worker removes the pair record and starts over. It does so only when a record was
there, and it never writes one at that point itself, so it starts over at most once more than others
write files in the meantime. Everything else a worker does leads forward.
-/

namespace Usbmuxd

variable {host : Host} {files files' : Files} {desk : Desk}

/-- The pair record of a device is there. -/
def Host.hasRecord (host : Host) (udid : String) (files : Files) : Bool :=
  (files.contents (host.resolve (host.path udid))).isSome

/-- The steps a worker may still make if nobody writes a record. -/
def Desk.left (host : Host) (desk : Desk) : ℕ :=
  desk.worker.stage.rank +
    5 * (desk.worker.stage.mayRetry && host.hasRecord desk.worker.info.serial desk.files).toNat

variable (host) in
private theorem ConfCall.perform_absent {call : ConfCall} (reads : (DeskAction.call call).writes = false)
    {file : String}
    (absent : files.contents file = none) : (call.perform host files).2.contents file = none := by
  cases call with
  | buid => cases reads
  | set udid record => cases reads
  | get udid =>
    simp only [ConfCall.perform, configGetDeviceRecord]
    split <;> exact absent
  | remove udid =>
    simp only [ConfCall.perform, configRemoveDeviceRecord, Host.removeFile]
    split
    · exact absent
    split
    · exact absent
    · simp only [Files.store, Function.update_apply]
      split
      · rfl
      · exact absent

private theorem configRemoveDeviceRecord_removed {answer : FileAnswer} {udid : String}
    (removed : (configRemoveDeviceRecord host answer udid files).1 = 0) :
    host.hasRecord udid files = true ∧
      host.hasRecord udid (configRemoveDeviceRecord host answer udid files).2 = false := by
  simp only [configRemoveDeviceRecord, Host.removeFile, Host.hasRecord] at removed ⊢
  split at removed
  · simp at removed
  next present =>
  split at removed
  · next failed => simp [failed] at removed
  · next done =>
    rw [if_neg present, if_neg done]
    exact ⟨Option.isSome_iff_ne_none.mpr present, by simp [Files.store]⟩

private theorem Worker.Turn.forward {w : ℕ} {worker worker' : Worker} {call : Option WorkerCall}
    (turn : worker.Turn w worker' call) (busy : worker.stage.rests = false)
    (stays : ¬(worker.stage = .removeRecord ∧ worker'.stage = .connect)) :
    worker'.stage.rank < worker.stage.rank ∧ (worker'.stage.mayRetry → worker.stage.mayRetry) := by
  cases turn with
  | goes info cbdata log lockdown leads registered =>
    simp only [WorkerStage.leadsTo, busy, Bool.and_eq_true, Bool.or_eq_true, Bool.not_eq_true', Bool.false_eq_true,
      false_or, decide_eq_true_eq] at leads
    exact ⟨leads.2, fun retry => leads.1.2.resolve_left (by rw [retry]; decide)⟩
  | retries here => exact absurd ⟨here, rfl⟩ stays
  | proxies here np => rw [here]; simp [Worker.openProxy, Worker.goto]
  | connects here | registers here | reveals here | unregisters here | releases here | announces here | leaves here =>
    rw [here]
    simp [Worker.goto]

/-- Short of removing the record, a worker that may start over leaves all files as they are. -/
private theorem Worker.consult_kept {worker : Worker} {answer : PreflightAnswer} (retry : worker.stage.mayRetry)
    (other : worker.stage ≠ .removeRecord) : (worker.consult host answer files).2.contents = files.contents := by
  revert retry other
  cases here : worker.stage <;> simp [Worker.consult, here, configDeviceRecordGetHostId, internalGetValue,
    Host.readPlist, Files.access]

variable (host) in
/-- Every step of a worker that does not rest uses up one of those it has left. -/
private theorem Desk.worker_left (answer : PreflightAnswer) (busy : desk.worker.stage.rests = false) :
    (desk.step host (.worker answer)).left host < desk.left host := by
  have turn := Worker.advance_turn 0 (desk.worker.consult host answer desk.files).1 desk.worker
  by_cases here : desk.worker.stage = .removeRecord
  · -- the record that is removed pays for the way back
    simp only [Desk.left, Desk.step, Worker.advance, Worker.consult, here]
    split
    next removed =>
      obtain ⟨there, gone⟩ := configRemoveDeviceRecord_removed removed
      simp only [Worker.goto, Worker.freeLockdown, Worker.note, WorkerStage.rank, WorkerStage.mayRetry]
      rw [gone, show host.hasRecord desk.worker.info.serial desk.files = true from there]
      decide
    · simp only [Worker.goto, WorkerStage.rank, WorkerStage.mayRetry, Bool.false_and, Bool.toNat_false]
      omega
  · obtain ⟨lower, back⟩ := turn.forward busy fun retry => here retry.1
    simp only [Desk.left, Desk.step]
    by_cases retry : desk.worker.stage.mayRetry
    · rw [Host.hasRecord, Worker.consult_kept retry here, turn.info, retry, ← Host.hasRecord, Bool.true_and]
      exact Nat.add_lt_add_of_lt_of_le lower (Nat.mul_le_mul_left 5 (Bool.toNat_le_toNat (Bool.and_le_right _ _)))
    · rw [Bool.eq_false_iff.mpr fun again => retry (back again), Bool.false_and, Bool.toNat_false]
      omega

variable (host) in
private theorem Desk.rest_left (answer : PreflightAnswer) (rests : desk.worker.stage.rests = true) :
    (desk.step host (.worker answer)).left host ≤ desk.left host := by
  cases here : desk.worker.stage with
  | wait =>
    simp only [Desk.left, Desk.step, Worker.advance, here]
    split <;> simp [Worker.goto, here]
  | done => simp [Desk.left, Desk.step, Worker.advance, here]
  | _ => simp [here, WorkerStage.rests] at rests

variable (host) in
/-- What happens besides gives a worker five more steps at most, if it writes files. -/
private theorem Desk.step_left (desk : Desk) (action : DeskAction) :
    (desk.step host action).left host + (desk.step host action).steps ≤
      desk.left host + desk.steps + 5 * action.writes.toNat := by
  cases action with
  | worker answer =>
    cases rests : desk.worker.stage.rests with
    | false =>
      have used := Desk.worker_left host answer rests
      have counted : (desk.step host (.worker answer)).steps = desk.steps + 1 := by simp [Desk.step, rests]
      omega
    | true =>
      have kept := Desk.rest_left host answer rests
      have counted : (desk.step host (.worker answer)).steps = desk.steps := by simp [Desk.step, rests]
      omega
  | callback store => exact Nat.le_add_right _ _
  | call call =>
    simp only [Desk.left, Desk.step]
    cases writes : (DeskAction.call call).writes with
    | true =>
      have one := Bool.toNat_le (desk.worker.stage.mayRetry &&
        host.hasRecord desk.worker.info.serial (call.perform host desk.files).2)
      rw [Bool.toNat_true]
      omega
    | false =>
      cases there : host.hasRecord desk.worker.info.serial desk.files with
      | true =>
        have kept := Bool.toNat_le_toNat (Bool.and_le_left desk.worker.stage.mayRetry
          (host.hasRecord desk.worker.info.serial (call.perform host desk.files).2))
        rw [Bool.and_true]
        omega
      | false =>
        have absent := ConfCall.perform_absent host writes (by simpa [Host.hasRecord] using there)
        rw [Host.hasRecord, absent]
        simp

/-- Whatever lockdownd answers and whatever happens to the files in the meantime, a preflight worker makes
eighteen calls at most, and five more for a record that is there when it starts and for each call of
others that writes a file. Then it is done, or waits for the user. -/
theorem preflight_worker_comes_to_rest (host : Host) (info : DeviceInfo) (files : Files) (actions : List DeskAction) :
    (Desk.run host info files actions).steps ≤
      18 + 5 * (host.hasRecord info.serial files).toNat + 5 * actions.countP DeskAction.writes := by
  have bounded : (Desk.run host info files actions).left host + (Desk.run host info files actions).steps ≤
      18 + 5 * (host.hasRecord info.serial files).toNat + 5 * actions.countP DeskAction.writes := by
    induction actions using List.reverseRecOn with
    | nil => simp [Desk.run, Desk.start, Desk.left, Worker.start]
    | append_singleton earlier last before =>
      have next := Desk.step_left host (Desk.run host info files earlier) last
      rw [Desk.run, List.foldl_append, List.foldl_cons, List.foldl_nil, ← Desk.run, List.countP_append,
        List.countP_singleton]
      cases writes : last.writes <;> simp [writes] at next ⊢ <;> omega
  omega

end Usbmuxd
