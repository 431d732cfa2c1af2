import Phrasebook.Text.DefaultIgnorable
import Phrasebook.Text.GraphemeExtend
import Phrasebook.Text.Printable

/-! Text between quotation marks, with everything that would not show as itself escaped. -/

namespace Phrasebook

/--
Whether a character cannot be told apart from the one before it.

The halfwidth sound marks count as extending that character and yet stand beside it.
-/
def joinsNeighbour (char : Char) : Bool :=
  isGraphemeExtend char && char != '\uFF9E' && char != '\uFF9F'

/-- Whether a character shows as itself wherever it stands. -/
def showsAsItself (char : Char) : Bool :=
  isPrintable char && !isDefaultIgnorable char && !joinsNeighbour char

/-- A character as it stands in a quoted text. -/
def quotedChar (char : Char) : List Char :=
  match char with
  | '\x00' => ['\\', '0']
  | '\t' => ['\\', 't']
  | '\r' => ['\\', 'r']
  | '\n' => ['\\', 'n']
  | '"' => ['\\', '"']
  | '\\' => ['\\', '\\']
  | _ =>
    -- The code point in hexadecimal stands for what cannot be seen or would join its neighbour.
    if showsAsItself char then [char]
    else ['\\', 'u', '\x7b'] ++ Nat.toDigits 16 char.toNat ++ ['\x7d']

/-- The text between quotation marks. -/
def quoted (text : String) : String :=
  String.ofList ('"' :: text.toList.flatMap quotedChar ++ ['"'])

end Phrasebook
