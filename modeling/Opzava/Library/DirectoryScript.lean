import Mathlib

/-!
Shell scripts over the files of one directory.

* `Script`: a script by its exit code, its output and the directory after it.
* `cat`, `ifFile`, `rmForce`, `rmdir`: commands.
* `orTrue`, `setE`: `… || true`, and a list of commands under `set -e`.
* `setE_cons_of_zero`, `rmdir_of_nonempty`: the rules for scripts that go through.
-/

namespace Opzava.Library

/-- The names and the contents of the files, if the directory exists. -/
abbrev Directory := Option (List (String × String))

structure ScriptResult where
  exitCode : ℕ
  stdout : String
  directory : Directory
  deriving DecidableEq

abbrev Script := Directory → ScriptResult

namespace Directory

/-- The content of a file. -/
def read (directory : Directory) (name : String) : Option String :=
  (directory.bind fun files => files.find? fun file => file.1 = name).map Prod.snd

/-- A file is written, if the directory exists. -/
def write (directory : Directory) (name content : String) : Directory :=
  directory.map fun files => files.filter (fun file => file.1 ≠ name) ++ [(name, content)]

/-- There are only files with some names. -/
def Within (names : List String) (directory : Directory) : Prop :=
  ∃ files, directory = some files ∧ ∀ file ∈ files, file.1 ∈ names

variable {directory : Directory} {name other content : String} {names : List String}

/-- A write leaves the other files alone. -/
lemma read_write_of_ne (h : other ≠ name) :
    (directory.write name content).read other = directory.read other := by
  cases directory with
  | none => rfl
  | some files =>
      have hfind : (files.filter (fun file => file.1 ≠ name) ++ [(name, content)]).find?
          (fun file => file.1 = other) = files.find? fun file => file.1 = other := by
        have hlast : [(name, content)].find? (fun file => file.1 = other) = none :=
          List.find?_eq_none.mpr fun file hfile => by
            rw [List.mem_singleton.mp hfile]
            simpa using h.symm
        rw [List.find?_append, hlast, Option.or_none, List.find?_filter]
        refine congrArg (List.find? · files) (funext fun file => ?_)
        by_cases hfile : file.1 = other
        · simp [hfile, h]
        · simp [hfile]
      exact congrArg (Option.map Prod.snd) hfind

lemma Within.write (h : directory.Within names) (hname : name ∈ names) :
    (directory.write name content).Within names := by
  obtain ⟨files, rfl, hfiles⟩ := h
  refine ⟨_, rfl, fun file hfile => ?_⟩
  rcases List.mem_append.mp hfile with hold | hlast
  · exact hfiles file (List.mem_of_mem_filter hold)
  · rw [List.mem_singleton.mp hlast]
    exact hname

end Directory

namespace Script

variable {directory : Directory} {files : List (String × String)} {name : String}

/-- `cat name`. -/
def cat (name : String) : Script := fun directory =>
  match directory.read name with
  | some content => ⟨0, content, directory⟩
  | none => ⟨1, "", directory⟩

/-- `if [ -f name ]; then script; fi`. -/
def ifFile (name : String) (script : Script) : Script := fun directory =>
  if (directory.read name).isSome then script directory else ⟨0, "", directory⟩

/-- `rm -f` of names. -/
def rmForce (names : List String) : Script := fun directory =>
  ⟨0, "", directory.map fun files => files.filter fun file => file.1 ∉ names⟩

/-- `rmdir` of the directory, which has to be there and empty. -/
def rmdir : Script := fun directory =>
  match directory with
  | some [] => ⟨0, "", none⟩
  | _ => ⟨1, "", directory⟩

/-- `script || true`. -/
def orTrue (script : Script) : Script := fun directory =>
  { script directory with exitCode := 0 }

/-- Commands one after the other under `set -e`. -/
def setE : List Script → Directory → ScriptResult
  | [], directory => ⟨0, "", directory⟩
  | script :: scripts, directory =>
      let result := script directory
      if result.exitCode = 0 then
        let rest := setE scripts result.directory
        { rest with stdout := result.stdout ++ rest.stdout }
      else result

/-- A script that only reads. -/
def Reads (script : Script) : Prop := ∀ directory, (script directory).directory = directory

lemma cat_reads (name : String) : Reads (cat name) := by
  intro directory
  unfold cat
  split
  · rfl
  · rfl

lemma orTrue_reads {script : Script} (h : Reads script) : Reads (orTrue script) := h

lemma cat_of_read {content : String} (h : directory.read name = some content) :
    cat name directory = ⟨0, content, directory⟩ := by
  rw [cat, h]

/-- A command that goes through. -/
lemma setE_cons_of_zero {script : Script} {scripts : List Script} {directory' : Directory}
    (h : script directory = ⟨0, "", directory'⟩) :
    setE (script :: scripts) directory = setE scripts directory' := by
  rw [setE, h]
  simp only [if_true, String.empty_append]

/-- A directory with a file in it is not removed. -/
lemma rmdir_of_nonempty (h : files ≠ []) : orTrue rmdir (some files) = ⟨0, "", some files⟩ := by
  cases files with
  | nil => exact absurd rfl h
  | cons file files => rfl

/-- The last files are removed. -/
lemma rmForce_within {names : List String} (h : ∀ file ∈ files, file.1 ∈ names) :
    rmForce names (some files) = ⟨0, "", some []⟩ := by
  have hnone : files.filter (fun file => file.1 ∉ names) = [] :=
    List.filter_eq_nil_iff.mpr fun file hfile => by simp [h file hfile]
  rw [rmForce, Option.map_some, hnone]

end Script

end Opzava.Library
