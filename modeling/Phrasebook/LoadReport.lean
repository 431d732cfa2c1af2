import Phrasebook.Diagnostic

/-! Reports on what was loaded from where. -/

namespace Phrasebook

/-- What a load put into a domain. -/
structure LoadReport where
  /-- Where the records came from, for example the path of a file. -/
  source : String
  domain : String
  /-- The number of records read, repeated keys included. -/
  loaded : Nat
  diagnostics : List Diagnostic
  deriving DecidableEq, Repr

namespace LoadReport

/-- Whether anything was amiss. -/
def hasWarnings (report : LoadReport) : Bool :=
  !report.diagnostics.isEmpty

/-- One line on how much was loaded. -/
def summary (report : LoadReport) : String :=
  s!"{report.source}: loaded {report.loaded} messages."

/-- The findings in order and then the summary, a line each. -/
def messages (report : LoadReport) : List String :=
  report.diagnostics.map (·.message report.source) ++ [report.summary]

end LoadReport

end Phrasebook
