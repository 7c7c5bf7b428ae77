import Mathlib.Tactic
import Usbmuxd.Model.Config

/-! # How `mkdir_with_parents` goes up

It calls itself for the parent until it meets a directory that exists or can be created, and returns
zero there. The directory that it was called for is not tried again.
-/

namespace Usbmuxd

variable {fs : Directories} {dir : Path}

/-- The directory exists, or nothing prevents its creation. -/
def Directories.ready (fs : Directories) (dir : Path) : Bool :=
  fs.present dir || fs.present dir.dirname && !fs.denied dir

/-- All directories on the way to a directory exist with it. -/
theorem Directories.ancestors (there : fs.present dir) {names : List String} (above : names <:+ dir.names) :
    fs.present ⟨dir.absolute, names⟩ := by
  obtain ⟨absolute, components⟩ := dir
  induction components with
  | nil =>
    obtain rfl := List.suffix_nil.mp above
    exact there
  | cons name rest ih =>
    rcases List.suffix_cons_iff.mp above with rfl | above
    · exact there
    · exact ih (fs.closed _ there) above

private theorem Directories.mkdir_ready (ready : fs.ready dir) :
    fs.mkdir dir = .error .eexist ∧ fs.present dir ∨
      ∃ fs', fs.mkdir dir = .ok fs' ∧ ∀ path, fs'.present path ↔ path = dir ∨ fs.present path := by
  rw [Directories.mkdir]
  split
  · next there => exact .inl ⟨rfl, there⟩
  next missing =>
  obtain ⟨parent, allowed⟩ : fs.present dir.dirname ∧ fs.denied dir = false := by
    simpa [Directories.ready, missing] using ready
  rw [dif_pos parent, if_neg (by simp [allowed])]
  exact .inr ⟨_, rfl, fun path => by simp [Directories.create]⟩

private theorem Directories.mkdir_not_ready (blocked : fs.ready dir = false) :
    ∃ error, fs.mkdir dir = .error error ∧ error ≠ .eexist := by
  obtain ⟨missing, prevented⟩ : fs.present dir = false ∧ (fs.present dir.dirname → fs.denied dir) := by
    simpa [Directories.ready] using blocked
  rw [Directories.mkdir, if_neg (by simp [missing])]
  split
  · next parent =>
    rw [if_pos (prevented parent)]
    exact ⟨.eacces, rfl, by decide⟩
  · exact ⟨.enoent, rfl, by decide⟩

/-- `mkdir_with_parents` returns zero after at most one call for each component and one more. The
directory exists then if it was ready; otherwise only a directory above it may have been created. -/
theorem mkdirWithParents_returns (fs : Directories) (dir : Path) :
    ∃ fs', (∀ fuel, dir.names.length < fuel → mkdirWithParents fuel dir fs = some (0, fs')) ∧
      (fs'.present dir ↔ fs.ready dir) ∧
      ∀ path, fs'.present path → fs.present path ∨ path.names.length ≤ dir.names.length := by
  obtain ⟨absolute, names⟩ := dir
  induction names with
  | nil =>
    refine ⟨fs, fun fuel enough => ?_, by simp [Directories.ready, fs.rooted], fun path there => .inl there⟩
    obtain ⟨fuel, rfl⟩ := Nat.exists_eq_add_of_lt enough
    have root : fs.mkdir ⟨absolute, []⟩ = .error .eexist := if_pos (fs.rooted absolute)
    simp only [mkdirWithParents, root]
  | cons name rest ih =>
    set dir : Path := ⟨absolute, name :: rest⟩
    cases blocked : fs.ready dir with
    | true =>
      rcases Directories.mkdir_ready blocked with ⟨known, there⟩ | ⟨fs', made, grown⟩
      · refine ⟨fs, fun fuel enough => ?_, by simp [there], fun path there => .inl there⟩
        obtain ⟨fuel, rfl⟩ := Nat.exists_eq_add_of_lt enough
        simp only [mkdirWithParents, known]
      · refine ⟨fs', fun fuel enough => ?_, by simp [grown], fun path there => ?_⟩
        · obtain ⟨fuel, rfl⟩ := Nat.exists_eq_add_of_lt enough
          simp only [mkdirWithParents, made]
        · exact ((grown path).mp there).symm.imp_right fun same => by rw [same]
    | false =>
      obtain ⟨error, failed, other⟩ := Directories.mkdir_not_ready blocked
      obtain ⟨fs', returns, _, bounded⟩ := ih
      have missing : fs.present dir = false := by simp_all [Directories.ready]
      refine ⟨fs', fun fuel enough => ?_, ?_, fun path there => (bounded path there).imp_right Nat.le_succ_of_le⟩
      · obtain ⟨fuel, rfl⟩ := Nat.exists_eq_add_of_lt enough
        rw [mkdirWithParents, failed]
        cases error with
        | eexist => exact absurd rfl other
        | enoent | eacces => exact returns _ (by simp only [dir, List.length_cons] at enough ⊢; omega)
      · refine iff_of_false (fun there => ?_) (by simp)
        rcases bounded dir there with there | short
        · simp [missing] at there
        · exact absurd short (Nat.not_succ_le_self _)

private theorem configCreateConfigDir_returns (fs : Directories) (dir : Path) :
    ∃ fs', ∀ fuel, dir.names.length < fuel → configCreateConfigDir fuel dir fs = some (0, fs') := by
  by_cases there : fs.present dir
  · exact ⟨fs, fun _ _ => if_pos there⟩
  · obtain ⟨fs', returns, _⟩ := mkdirWithParents_returns fs dir
    exact ⟨fs', fun fuel enough => (if_neg there).trans (returns fuel enough)⟩

@[simp]
theorem Host.createConfigDir_eq (host : Host) (answer : FileAnswer) : host.createConfigDir answer = 0 := by
  obtain ⟨_, returns⟩ := configCreateConfigDir_returns answer.dirs host.configPath
  rw [Host.createConfigDir, returns _ (Nat.lt_succ_self _)]
  rfl

/-- A file system with the root and the working directory, in which the given directories may not be
created. -/
def bare (denied : List Path) : Directories where
  present path := path.names = []
  denied path := path ∈ denied
  rooted _ := rfl
  closed path there := by simp_all [Path.dirname]

end Usbmuxd
