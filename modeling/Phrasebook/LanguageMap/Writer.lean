import Phrasebook.LanguageMap.Basic
import Phrasebook.Text.Newline
import Phrasebook.Text.Utf8
import Phrasebook.Error

/-! Writing records as lines, and refusing those that would not read back. -/

namespace Phrasebook

/-- The lines with which every written language map begins. -/
def fileHeader : String :=
  "# This file is automatically generated by langmap.\n" ++
  "# Each record is a key and a message framed by ''' lines.\n" ++
  "\n"

/-- The first defect that keeps a text from reading back, if it has one. -/
def defect? (text : String) : Option Defect :=
  -- Only one defect is told, even of a text that has several.
  if text.toList.head? == some '\n' then some .leadingBlankLine
  else if (lines text).contains delimiter then some .delimiterLine
  else if text.toList.contains '\r' then some .carriageReturn
  else none

/-- Refuses a text that would not read back. -/
def checkRepresentable (part : RecordPart) (text : String) : Except Error Unit :=
  match defect? text with
  | some defect => .error (.unrepresentable part text defect)
  | none => .ok ()

/-- A text on lines of its own, of which an empty text has none. -/
def asLines (text : String) : String :=
  if text.isEmpty then "" else text ++ "\n"

/-- The delimiter on a line of its own. -/
def delimiterLine : String :=
  delimiter ++ "\n"

/-- The lines of one record and a blank line after it. -/
def Record.block (record : Record) : String :=
  delimiterLine ++ asLines record.key ++
    delimiterLine ++ asLines record.message ++
    delimiterLine ++ "\n"

/-- The lines of one record, if both of its texts would read back. -/
def Record.render (record : Record) : Except Error String := do
  -- The key is looked at first, and its defect is then the one that is told.
  checkRepresentable .key record.key
  checkRepresentable .message record.message
  return record.block

namespace LanguageMap

/-- The file that holds the records, unless one of them would not read back. -/
def render (map : LanguageMap) : Except Error String := do
  -- The first record that would not read back refuses the whole file.
  let blocks ← map.records.mapM Record.render
  return fileHeader ++ String.join blocks

/--
Writes the records to a buffer that holds so many bytes, and tells what the buffer holds then.

A record that would not read back leaves the buffer empty, and a file that is too long fills it.
-/
def writeInto (map : LanguageMap) (capacity : Nat) : Except Error Unit × Bytes :=
  match map.render with
  | .error error => (.error error, [])
  | .ok text =>
    -- By now no record can be refused, so only the length matters.
    let bytes := Utf8.encode text
    if bytes.length ≤ capacity then (.ok (), bytes)
    else (.error (.file .outOfSpace), bytes.take capacity)

end LanguageMap

end Phrasebook
