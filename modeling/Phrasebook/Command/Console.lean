import Phrasebook.FileSubstitution

/-! Runs of a command, which print to two streams and end with an exit code. -/

namespace Phrasebook

/-- What a command has printed so far. -/
structure Console where
  stdout : String
  stderr : String
  deriving DecidableEq, Repr

/-- The streams before anything is printed. -/
def Console.empty : Console := ⟨"", ""⟩

/-- The way in which a command comes to its end. -/
inductive Ending where
  /-- Help was asked for. -/
  | help
  /-- The arguments make no sense to the command. -/
  | misused (exitCode : Nat)
  /-- The command did its work, or failed at it. -/
  | finished (exitCode : Nat) (workspace : Workspace Console)

namespace Command

/-- Some lines as a text, each with a line feed. -/
def onLines (lines : List String) : String :=
  String.join (lines.map (· ++ "\n"))

/-- Prints some lines. -/
def print (lines : List String) : Run Console Unit :=
  Run.note fun console => { console with stdout := console.stdout ++ onLines lines }

/-- Prints some lines for the person who runs the command. -/
def report (lines : List String) : Run Console Unit :=
  Run.note fun console => { console with stderr := console.stderr ++ onLines lines }

/-- The name and version of the commands. -/
def version : String := "langmap-cli 0.1.0"

/-- Runs a command on some files, and prints why it failed if it does. -/
def finish {α : Type} (files : FileTree) (command : Run Console α) : Ending :=
  match command ⟨files, .empty⟩ with
  | (.ok _, workspace) => .finished 0 workspace
  | (.error error, workspace) =>
    -- What was printed and written before the failure stays.
    .finished 1 (report [s!"Error: {error.message}"] workspace).2

end Command

end Phrasebook
