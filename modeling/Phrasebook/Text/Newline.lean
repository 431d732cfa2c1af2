import Phrasebook.Text.Replace

/-! Line endings, and the lines that a text consists of. -/

namespace Phrasebook

/-- A carriage return, alone or before a line feed, reads as a line feed. -/
def normalizeNewlines (text : String) : String :=
  -- Pairs go first, so that no pair is read as two line endings.
  if text.toList.contains '\r' then replaceAll "\r" "\n" (replaceAll "\r\n" "\n" text) else text

/-- The lines of a text, each ended by a line feed that only the last one may lack. -/
def lineChars : List Char → List (List Char)
  | [] => []
  | char :: rest =>
    if char = '\n' then [] :: lineChars rest
    else
      -- Any other character goes in front of the line that follows it.
      match lineChars rest with
      | [] => [[char]]
      | line :: later => (char :: line) :: later

/-- The lines of a text, without the line feeds that end them. -/
def lines (text : String) : List String :=
  (lineChars text.toList).map String.ofList

end Phrasebook
