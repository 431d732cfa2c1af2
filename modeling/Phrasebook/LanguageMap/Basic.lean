import Phrasebook.Diagnostic
import Phrasebook.Record
import Phrasebook.Table.Basic

/-! Language maps: records in file order, with what was amiss in the file. -/

namespace Phrasebook

/-- The records of a file and the findings on the lines that belong to none. -/
structure LanguageMap where
  /-- Complete records, in which a key may come more than once. -/
  records : List Record
  diagnostics : List Diagnostic
  deriving DecidableEq, Repr

/-- The key and message of a record. -/
def Record.entry (record : Record) : Entry :=
  ⟨record.key, record.message⟩

namespace LanguageMap

/-- The entries of the records, in file order. -/
def entries (map : LanguageMap) : List Entry :=
  map.records.map Record.entry

/-- The messages by key, where a later record takes the message of an earlier one. -/
def toTable (map : LanguageMap) : Table :=
  Table.ofList map.entries

/-- One record for each entry, on no line yet. -/
def ofTable (table : Table) : LanguageMap where
  records := table.toList.map fun entry => ⟨entry.key, entry.message, 0⟩
  diagnostics := []

end LanguageMap

end Phrasebook
