import Phrasebook.Command.Arguments
import Phrasebook.Command.Console
import Phrasebook.Export

/-! The command that replaces every key of a language map in a file. -/

namespace Phrasebook

/-- What the replace command is to do. -/
structure ReplaceOptions where
  job : FileJob
  /-- Where to write what was loaded, if anywhere. -/
  dump : Option String
  deriving DecidableEq, Repr

namespace Replace

/-- Whether a dump under this name is to be a language map. -/
def namesLanguageMap (target : String) : Bool :=
  ".langmap".toList.isSuffixOf target.toList

/--
Writes what was loaded to a target.

A name that ends as language maps do gets the one domain, any other name the whole store as JSON,
and a dash prints that.
-/
def dumpStore (store : Store) (domain target : String) : Run Console Unit :=
  if namesLanguageMap target then
    -- The load has registered the domain, so its table is there to be dumped.
    Run.writeMap target (.ofTable ((store.table? domain).getD .empty))
  else if target = "-" then Command.print [store.exportText]
  else Run.writeText target store.exportText

/-- Reports a load and dumps what it loaded, as the options say. -/
def reportLoad (options : ReplaceOptions) (store : Store) (load : LoadReport) :
    Run Console Unit := do
  Command.report load.messages
  -- The findings have been told by the time the dump can fail.
  match options.dump with
  | some target => dumpStore store options.job.domain target
  | none => return ()

/-- Runs the command, reporting on each step when it is done. -/
def run (options : ReplaceOptions) : Run Console Substitution := do
  let report ← substituteFileWith options.job (reportLoad options)
  Command.report [report.substitution.summary options.job.output]
  return report.substitution

/-- What the command accepts: input, output and language map, and how to treat them. -/
def signature : Signature where
  switches := commonSwitches ++ [
    ⟨"domain", some 'd', .takeValue⟩,
    ⟨"strict", none, .turnOn⟩,
    ⟨"dump", none, .takeValue⟩]
  positionals := 3

/-- The options that a command line asks for. -/
def optionsOf (line : List String) : Except ArgumentStop ReplaceOptions := do
  let arguments ← signature.read line
  -- The signature has asked for three positional arguments already.
  match arguments.positionals with
  | [input, output, languageMap] =>
    return {
      job := {
        input, output, languageMap
        domain := (arguments.value? "domain").getD mainDomain
        options := ⟨arguments.has "strict"⟩ }
      dump := arguments.value? "dump" }
  | _ => throw .misuse

/-- Carries out a command line on some files. -/
def command (line : List String) (files : FileTree) : Ending :=
  match optionsOf line with
  | .ok options => Command.finish files (run options)
  | .error .version => Command.finish files (Command.print [Command.version])
  | .error .help => .help
  | .error .misuse => .misused 1

end Replace

end Phrasebook
