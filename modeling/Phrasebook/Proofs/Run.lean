import Phrasebook.FileSubstitution
import Phrasebook.Proofs.Outcome

/-! Runs taken apart at their first step. -/

namespace Phrasebook

namespace Run

variable {κ α β : Type} {first : Run κ α} {next : α → Run κ β} {workspace after : Workspace κ}

/-- A run in two steps succeeds exactly if both steps do, the second on what the first leaves. -/
theorem bind_eq_ok_iff {result : β} :
    (first >>= next) workspace = (.ok result, after) ↔
      ∃ value changed, first workspace = (.ok value, changed) ∧
        next value changed = (.ok result, after) := by
  -- The first step alone says whether there is a second.
  rcases step : first workspace with ⟨outcome, changed⟩
  cases outcome with
  | error cause => simp [bind_error step]
  | ok value => simp [bind_ok step, and_assoc]

/-- A run in two steps fails exactly if the first step fails, or succeeds and the second fails. -/
theorem bind_eq_error_iff {error : Error} :
    (first >>= next) workspace = (.error error, after) ↔
      first workspace = (.error error, after) ∨
        ∃ value changed, first workspace = (.ok value, changed) ∧
          next value changed = (.error error, after) := by
  -- What the first step changed up to its failure remains.
  rcases step : first workspace with ⟨outcome, changed⟩
  cases outcome with
  | error cause => simp [bind_error step]
  | ok value => simp [bind_ok step, and_assoc]

/-- To return is to succeed and change nothing. -/
theorem pure_eq (value : α) (workspace : Workspace κ) :
    (pure value : Run κ α) workspace = (.ok value, workspace) := rfl

/-- An outcome as a run changes nothing. -/
theorem ofExcept_eq (outcome : Except Error α) (workspace : Workspace κ) :
    ofExcept outcome workspace = (outcome, workspace) := by
  -- A success is returned and a failure raised.
  cases outcome <;> rfl

/-- To read a text changes nothing. -/
theorem readText_eq (path : String) (workspace : Workspace κ) :
    readText path workspace = (workspace.files.readText path, workspace) := by
  -- The files are looked at as they are.
  have looked : (files : Run κ FileTree) workspace = (.ok workspace.files, workspace) := rfl
  rw [readText, bind_ok looked, ofExcept_eq]

/-- To write a text changes the files if it succeeds, and otherwise nothing. -/
theorem writeText_eq (path text : String) (workspace : Workspace κ) :
    writeText path text workspace =
      match workspace.files.writeText path text with
      | .ok changed => (.ok (), { workspace with files := changed })
      | .error error => (.error error, workspace) := by
  -- The files are set only once there is a new state of them.
  have looked : (files : Run κ FileTree) workspace = (.ok workspace.files, workspace) := rfl
  rw [writeText, bind_ok looked]
  cases written : workspace.files.writeText path text with
  | error cause => exact bind_error (ofExcept_eq _ _)
  | ok changed => exact bind_ok (ofExcept_eq _ _)

/-- To write a language map changes the files even if it fails. -/
theorem writeMap_eq (path : String) (map : LanguageMap) (workspace : Workspace κ) :
    writeMap path map workspace =
      ((workspace.files.writeMap path map).1,
        { workspace with files := (workspace.files.writeMap path map).2 }) := by
  -- The files are set before the outcome is looked at.
  have looked : (files : Run κ FileTree) workspace = (.ok workspace.files, workspace) := rfl
  have set : ∀ changed : FileTree,
      (setFiles changed : Run κ Unit) workspace = (.ok (), { workspace with files := changed }) :=
    fun _ => rfl
  rw [writeMap, bind_ok looked]
  exact (bind_ok (set _)).trans (ofExcept_eq _ _)

end Run

end Phrasebook
