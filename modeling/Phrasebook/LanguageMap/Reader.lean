import Phrasebook.LanguageMap.Basic
import Phrasebook.Text.Newline
import Phrasebook.Text.Utf8
import Phrasebook.Error

/-! Reading records from lines, where stray lines and an unclosed record are findings. -/

namespace Phrasebook

/-- Where a reader stands within a record, and what it has of that record. -/
inductive ReaderPosition where
  | outside
  | inKey (openedAt : Nat) (key : String)
  | inMessage (openedAt : Nat) (key message : String)
  deriving DecidableEq, Repr

/-- What a reader hands over, in the order of the lines that settle it. -/
inductive Finding where
  | record (complete : Record)
  | diagnostic (amiss : Diagnostic)
  deriving DecidableEq, Repr

/-- The record that a finding is. -/
def Finding.record? : Finding → Option Record
  | .record complete => some complete
  | .diagnostic _ => none

/-- The diagnostic that a finding is. -/
def Finding.diagnostic? : Finding → Option Diagnostic
  | .record _ => none
  | .diagnostic amiss => some amiss

/-- A text with one more line, so that blank lines at its start leave it empty. -/
def joinLine (text line : String) : String :=
  if text.isEmpty then line else text ++ "\n" ++ line

/-- Whether a line between records says nothing. -/
def isIgnorable (line : String) : Bool :=
  line.isEmpty || line.toList.head? == some commentMarker

namespace ReaderPosition

/-- Where the line with this number leads, and what it settles. -/
def read (position : ReaderPosition) (number : Nat) (line : String) :
    ReaderPosition × List Finding :=
  match position with
  | .outside =>
    -- Only here do blank lines and comments go unnoticed.
    if line = delimiter then (.inKey number "", [])
    else if isIgnorable line then (.outside, [])
    else (.outside, [.diagnostic (.syntaxError number)])
  | .inKey openedAt key =>
    if line = delimiter then (.inMessage openedAt key "", [])
    else (.inKey openedAt (joinLine key line), [])
  | .inMessage openedAt key message =>
    if line = delimiter then (.outside, [.record ⟨key, message, number⟩])
    else (.inMessage openedAt key (joinLine message line), [])

/-- What the end of the lines settles. -/
def finish : ReaderPosition → List Finding
  | .outside => []
  -- A record that was begun is told by the line that opened it, and is lost.
  | .inKey openedAt _ => [.diagnostic (.unclosedRecord openedAt)]
  | .inMessage openedAt _ _ => [.diagnostic (.unclosedRecord openedAt)]

/-- What the lines settle from here on, the first of them having the given number. -/
def findings (position : ReaderPosition) (number : Nat) : List String → List Finding
  | [] => position.finish
  | line :: rest =>
    let (next, settled) := position.read number line
    -- A line settles what it can before the lines after it are read.
    settled ++ next.findings (number + 1) rest

end ReaderPosition

namespace LanguageMap

/-- The language map that consists of some findings. -/
def ofFindings (findings : List Finding) : LanguageMap where
  records := findings.filterMap Finding.record?
  diagnostics := findings.filterMap Finding.diagnostic?

/-- The language map that stands on some lines. -/
def ofLines (lines : List String) : LanguageMap :=
  ofFindings (ReaderPosition.outside.findings 1 lines)

/-- The language map that stands in a text, with any line endings. -/
def ofText (text : String) : LanguageMap :=
  ofLines (lines (normalizeNewlines text))

/-- The language map that a reader hands over, where a byte-order mark is plain text. -/
def ofReader (content : Bytes) : Except Error LanguageMap :=
  -- The content is read to its end before the first line of it is looked at.
  match Utf8.decode? content with
  | some text => .ok (ofText text)
  | none => .error (.file .undecodable)

/-- The language map that stands in bytes of UTF-8. -/
def ofBytes (bytes : Bytes) : Except Error LanguageMap :=
  ofReader bytes

/-- The language map that stands in a string, read as a reader of its bytes does. -/
def ofString (text : String) : Except Error LanguageMap :=
  ofReader (Utf8.encode text)

end LanguageMap

end Phrasebook
