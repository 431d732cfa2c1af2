import Phrasebook.Files.TextFile

/-! Runs, which can fail and which read and change files on the way. -/

namespace Phrasebook

/-- What a run works on: the files, and notes that its caller keeps. -/
structure Workspace (κ : Type) where
  files : FileTree
  notes : κ

/-- A computation on a workspace, whose changes up to a failure remain. -/
def Run (κ α : Type) : Type :=
  Workspace κ → Except Error α × Workspace κ

namespace Run

variable {κ α β : Type}

/-- The run that does nothing and succeeds. -/
def done (value : α) : Run κ α := fun workspace =>
  (.ok value, workspace)

/-- The run that does nothing and fails. -/
def fail (error : Error) : Run κ α := fun workspace =>
  (.error error, workspace)

/-- The run that goes on as the result of a first one says, unless that fails. -/
def andThen (first : Run κ α) (next : α → Run κ β) : Run κ β := fun workspace =>
  -- A failure skips what would follow, but not what was done before it.
  match first workspace with
  | (.ok value, changed) => next value changed
  | (.error error, changed) => (.error error, changed)

instance : Monad (Run κ) where
  pure := done
  bind := andThen

/-- After a success the run goes on from what the first part left. -/
theorem bind_ok {first : Run κ α} {next : α → Run κ β} {workspace changed : Workspace κ}
    {value : α} (succeeds : first workspace = (.ok value, changed)) :
    (first >>= next) workspace = next value changed := by
  -- The second part is reached with the first one's value.
  simp [bind, andThen, succeeds]

/-- After a failure the run ends with what the first part left. -/
theorem bind_error {first : Run κ α} {next : α → Run κ β} {workspace changed : Workspace κ}
    {error : Error} (fails : first workspace = (.error error, changed)) :
    (first >>= next) workspace = (.error error, changed) := by
  -- The second part is never reached.
  simp [bind, andThen, fails]

/-- The run that has this outcome and changes nothing. -/
def ofExcept : Except Error α → Run κ α
  | .ok value => done value
  | .error error => fail error

/-- The files as they are now. -/
def files : Run κ FileTree := fun workspace =>
  (.ok workspace.files, workspace)

/-- Puts the files into another state. -/
def setFiles (files : FileTree) : Run κ Unit := fun workspace =>
  (.ok (), { workspace with files })

/-- Changes the notes. -/
def note (change : κ → κ) : Run κ Unit := fun workspace =>
  (.ok (), { workspace with notes := change workspace.notes })

/-- Reads the text of a file. -/
def readText (path : String) : Run κ String := do
  ofExcept ((← files).readText path)

/-- Writes a text to a file. -/
def writeText (path text : String) : Run κ Unit := do
  setFiles (← ofExcept ((← files).writeText path text))

/-- Writes a language map to a file, which is emptied even if the map is refused. -/
def writeMap (path : String) (map : LanguageMap) : Run κ Unit := do
  -- The files have been changed by the time a refusal ends the run.
  let (outcome, changed) := (← files).writeMap path map
  setFiles changed
  ofExcept outcome

end Run

end Phrasebook
