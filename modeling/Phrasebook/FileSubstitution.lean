import Phrasebook.Run
import Phrasebook.Substitution

/-! Substitution from file to file by the language map of a third. -/

namespace Phrasebook

/-- Which files to work on, and how. -/
structure FileJob where
  input : String
  output : String
  languageMap : String
  domain : String
  options : LoadOptions
  deriving DecidableEq, Repr

/-- What was done to a file. -/
structure FileReport where
  load : LoadReport
  substitution : Substitution
  deriving DecidableEq, Repr

variable {κ : Type}

/-- Loads a language map into a store of its own. -/
def loadAlone (path domain : String) (options : LoadOptions) : Run κ (LoadReport × Store) := do
  let (outcome, store) := Store.empty.loadFile (← Run.files) path domain options
  return (← Run.ofExcept outcome, store)

/--
Loads the language map, substitutes in the input and writes the output.

What is to happen once the map is loaded can end the run before the input is read. The output is
opened last, so it may be the same file as the input or the map.
-/
def substituteFileWith (job : FileJob) (onLoad : Store → LoadReport → Run κ Unit) :
    Run κ FileReport := do
  let (load, store) ← loadAlone job.languageMap job.domain job.options
  onLoad store load
  -- The input is read as the files are once the load has been followed up.
  let input ← Run.readText job.input
  let substitution ← Run.ofExcept (store.substitute job.domain input)
  Run.writeText job.output substitution.text
  return ⟨load, substitution⟩

/-- Loads the language map, substitutes in the input and writes the output. -/
def substituteFile (job : FileJob) : Run κ FileReport :=
  substituteFileWith job fun _ _ => pure ()

end Phrasebook
