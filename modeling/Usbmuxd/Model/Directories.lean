import Mathlib.Data.Int.Notation
import Mathlib.Data.Nat.Notation

/-! # Creating the configuration directory

`mkdir_with_parents` of `conf.c` on a file system of which only the directories matter. A path is the
list of its components; the path without any is the root or the working directory.
-/

namespace Usbmuxd

/-- A path, with its components from the last to the first. -/
structure Path where
  absolute : Bool
  names : List String
deriving DecidableEq, Repr

/-- `dirname`. It never gives a null pointer. -/
def Path.dirname (path : Path) : Path := { path with names := path.names.tail }

/-- The directories that exist and those that may not be created. A directory lies in a directory, and
the root and the working directory always exist. -/
structure Directories where
  present : Path → Bool
  denied : Path → Bool
  rooted : ∀ absolute, present ⟨absolute, []⟩
  closed : ∀ path, present path → present path.dirname

/-- The errors of `mkdir`. -/
inductive MkdirError where
  | eexist
  | enoent
  | eacces
deriving DecidableEq, Repr

namespace Directories

/-- One directory more, in one that is there. -/
def create (fs : Directories) (dir : Path) (parent : fs.present dir.dirname) : Directories where
  present path := path = dir || fs.present path
  denied := fs.denied
  rooted absolute := by simp [fs.rooted]
  closed path there := by
    simp only [Bool.or_eq_true, decide_eq_true_eq] at there ⊢
    rcases there with rfl | there
    · exact .inr parent
    · exact .inr (fs.closed path there)

/-- `mkdir`. -/
def mkdir (fs : Directories) (dir : Path) : Except MkdirError Directories :=
  if fs.present dir then .error .eexist
  else if parent : fs.present dir.dirname then
    if fs.denied dir then .error .eacces else .ok (fs.create dir parent)
  else .error .enoent

end Directories

/-- `mkdir_with_parents`, as far as `fuel` calls go. -/
def mkdirWithParents : ℕ → Path → Directories → Option (ℤ × Directories)
  | 0, _, _ => none
  | fuel + 1, dir, fs =>
    match fs.mkdir dir with
    | .ok fs' => some (0, fs')
    | .error .eexist => some (0, fs)
    | .error _ => mkdirWithParents fuel dir.dirname fs

/-- `config_create_config_dir`. -/
def configCreateConfigDir (fuel : ℕ) (configPath : Path) (fs : Directories) : Option (ℤ × Directories) :=
  if fs.present configPath then some (0, fs) else mkdirWithParents fuel configPath fs

end Usbmuxd
