/-! What reading a language map finds amiss without failing. -/

namespace Phrasebook

/-- A finding on one line of a language map. -/
inductive Diagnostic where
  /-- A line outside any record is no blank line, comment or delimiter. -/
  | syntaxError (line : Nat)
  /-- The record opened on this line is still open where the lines end. -/
  | unclosedRecord (line : Nat)
  deriving DecidableEq, Repr

namespace Diagnostic

/-- The line that the finding is about. -/
def line : Diagnostic → Nat
  | .syntaxError line => line
  | .unclosedRecord line => line

/-- The name of this kind of finding. -/
def kindName : Diagnostic → String
  | .syntaxError _ => "syntax_error"
  | .unclosedRecord _ => "unclosed_record"

/-- What is said of the line. -/
def description : Diagnostic → String
  | .syntaxError _ => "syntax error"
  | .unclosedRecord _ => "record opened here was never closed"

/-- The finding on a line of its own, after the source it was made in. -/
def message (source : String) (diagnostic : Diagnostic) : String :=
  s!"{source}:{diagnostic.line}: {diagnostic.description}"

end Diagnostic

end Phrasebook
