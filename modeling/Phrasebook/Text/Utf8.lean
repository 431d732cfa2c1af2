/-! Text as bytes in UTF-8, and bytes as text with every malformed part marked. -/

namespace Phrasebook

/-- The content of a file. -/
abbrev Bytes := List UInt8

namespace Utf8

/-- The bytes that write a text. -/
def encode (text : String) : Bytes :=
  text.toList.flatMap String.utf8EncodeChar

/-- What is known of a character of which some bytes have been read. -/
inductive Pending where
  /-- No character has been begun. -/
  | idle
  /-- So many bytes are missing, the next of them within bounds, and so much is known. -/
  | partway (missing low high point : Nat)
  deriving DecidableEq, Repr

/--
What a byte does at the start of a character.

The bounds on the second byte keep out longer spellings than needed, surrogates, and points
past the last one, so a malformed part ends before the first byte that cannot continue it.
-/
def start (byte : Nat) : List (Option Char) × Pending :=
  if byte < 0x80 then ([some (Char.ofNat byte)], .idle)
  -- Continuations start nothing, nor do the two bytes that only longer spellings begin with.
  else if byte < 0xC2 then ([none], .idle)
  else if byte < 0xE0 then ([], .partway 1 0x80 0xBF (byte - 0xC0))
  else if byte = 0xE0 then ([], .partway 2 0xA0 0xBF 0)
  else if byte = 0xED then ([], .partway 2 0x80 0x9F 0xD)
  else if byte < 0xF0 then ([], .partway 2 0x80 0xBF (byte - 0xE0))
  else if byte = 0xF0 then ([], .partway 3 0x90 0xBF 0)
  else if byte < 0xF4 then ([], .partway 3 0x80 0xBF (byte - 0xF0))
  else if byte = 0xF4 then ([], .partway 3 0x80 0x8F 4)
  else ([none], .idle)

/-- What the next byte adds to the text, a malformed part being `none`. -/
def Pending.read (pending : Pending) (byte : Nat) : List (Option Char) × Pending :=
  match pending with
  | .idle => start byte
  | .partway missing low high point =>
    if low ≤ byte ∧ byte ≤ high then
      let point := point * 64 + (byte - 0x80)
      if missing = 1 then ([some (Char.ofNat point)], .idle)
      else ([], .partway (missing - 1) 0x80 0xBF point)
    else
      -- The bytes so far are one malformed part, and this byte starts anew.
      let (found, next) := start byte
      (none :: found, next)

/-- The characters from here on, each malformed part being `none`. -/
def parts : Pending → Bytes → List (Option Char)
  | .idle, [] => []
  | .partway .., [] => [none]
  | pending, byte :: rest =>
    let (found, next) := pending.read byte.toNat
    found ++ parts next rest

/-- The text that the bytes write, if all of them are well formed. -/
def decode? (bytes : Bytes) : Option String :=
  ((parts .idle bytes).mapM id).map String.ofList

/-- The text that the bytes write, with a replacement character for each malformed part. -/
def decodeLossy (bytes : Bytes) : String :=
  String.ofList ((parts .idle bytes).map (·.getD '\uFFFD'))

end Utf8

end Phrasebook
