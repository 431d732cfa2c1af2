import Phrasebook.Json
import Phrasebook.Substitution

/-! Entries, tables, stores and reports as JSON values and as text for people. -/

namespace Phrasebook

/-- An entry as text for people. -/
def Entry.display (entry : Entry) : String :=
  s!"Entry \x7b key: {quoted entry.key}, message: {quoted entry.message} \x7d"

/-- An entry as a JSON object. -/
def Entry.toJson (entry : Entry) : JsonValue :=
  .object [("key", .string entry.key), ("message", .string entry.message)]

/-- A table as a JSON object, its entries in order. -/
def Table.toJson (table : Table) : JsonValue :=
  .object [("entries", .array (table.toList.map Entry.toJson))]

/-- A store as a JSON object with a member for each domain, in order. -/
def Store.toJson (store : Store) : JsonValue :=
  .object (store.toList.map fun (domain, table) => (domain, table.toJson))

/-- The whole store as indented JSON. -/
def Store.exportText (store : Store) : String :=
  store.toJson.pretty

/-- A finding as a JSON object. -/
def Diagnostic.toJson (diagnostic : Diagnostic) : JsonValue :=
  .object [("line", .number diagnostic.line), ("kind", .string diagnostic.kindName)]

/-- A load report as a JSON object. -/
def LoadReport.toJson (report : LoadReport) : JsonValue :=
  .object [
    ("source", .string report.source),
    ("domain", .string report.domain),
    ("loaded", .number report.loaded),
    ("diagnostics", .array (report.diagnostics.map Diagnostic.toJson))]

/-- A substitution as a JSON object. -/
def Substitution.toJson (substitution : Substitution) : JsonValue :=
  .object [("text", .string substitution.text), ("replaced", .number substitution.replaced)]

end Phrasebook
