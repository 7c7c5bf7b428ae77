import Usbmuxd.Proofs.Directories

/-! # What becomes of a directory that is to be created

`mkdir_with_parents` reports success where it meets a directory that exists or can be created. The
directory it was called for exists afterwards exactly if it existed before or could be created at once.
-/

namespace Usbmuxd

/-- `mkdir_with_parents` returns, and it returns zero exactly if the directory exists afterwards with all
directories on the way to it, just in those cases in which the directory exists before or nothing
prevents its creation. -/
theorem directory_created (fs : Directories) (dir : Path) :
    ∃ result fs', (∀ fuel, dir.names.length < fuel → mkdirWithParents fuel dir fs = some (result, fs')) ∧
      ((result = 0 ↔ fs'.present dir ∧ ∀ names, names <:+ dir.names → fs'.present ⟨dir.absolute, names⟩) ↔
        fs.ready dir) := by
  obtain ⟨fs', returns, there, _⟩ := mkdirWithParents_returns fs dir
  refine ⟨0, fs', returns, ?_⟩
  rw [← there]
  constructor
  · intro agrees
    exact (agrees.mp rfl).1
  · intro present
    exact iff_of_true rfl ⟨present, fun names above => Directories.ancestors present above⟩

/-- `mkdir_with_parents` returns zero for a directory in a missing one, and creates only the latter; it
returns zero for a directory that may not be created, and creates nothing. -/
theorem directory_missing :
    (∀ r ∈ mkdirWithParents 3 ⟨true, ["b", "a"]⟩ (bare []), r.1 = 0 ∧ r.2.present ⟨true, ["a"]⟩ ∧
      ¬r.2.present ⟨true, ["b", "a"]⟩) ∧
    (∀ r ∈ mkdirWithParents 2 ⟨true, ["a"]⟩ (bare [⟨true, ["a"]⟩]), r.1 = 0 ∧ ¬r.2.present ⟨true, ["a"]⟩) ∧
    (mkdirWithParents 3 ⟨true, ["b", "a"]⟩ (bare [])).isSome ∧
    (mkdirWithParents 2 ⟨true, ["a"]⟩ (bare [⟨true, ["a"]⟩])).isSome := by
  decide

end Usbmuxd
