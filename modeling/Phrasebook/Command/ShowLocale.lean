import Phrasebook.Command.Arguments
import Phrasebook.Command.Console
import Phrasebook.Locale

/-! The command that prints the user's locale. -/

namespace Phrasebook.ShowLocale

/-- What the command accepts: nothing but requests for help or version. -/
def signature : Signature where
  switches := commonSwitches
  positionals := 0

/-- Carries out a command line in a process with these variables. -/
def command (line : List String) (environment : Environment) : Ending :=
  match signature.read line with
  | .ok _ => Command.finish .empty (Command.print [environment.locale])
  | .error .version => Command.finish .empty (Command.print [Command.version])
  | .error .help => .help
  | .error .misuse => .misused 2

end Phrasebook.ShowLocale
