import Phrasebook.Text.Utf16

/-! The encoding that the first bytes of a file announce. -/

namespace Phrasebook

/-- A mark at the start of a file that names its encoding. -/
inductive ByteOrderMark where
  | utf8
  | utf16 (order : Utf16.ByteOrder)
  deriving DecidableEq, Repr

namespace ByteOrderMark

/-- The mark as it stands in a file: U+FEFF in the encoding that it names. -/
def bytes : ByteOrderMark → Bytes
  | .utf8 => [0xEF, 0xBB, 0xBF]
  | .utf16 .littleEndian => [0xFF, 0xFE]
  | .utf16 .bigEndian => [0xFE, 0xFF]

/-- The text of the bytes that follow the mark. -/
def decode : ByteOrderMark → Bytes → String
  | .utf8, rest => Utf8.decodeLossy rest
  | .utf16 order, rest => Utf16.decodeLossy order rest

/-- The mark that some content starts with, and what follows it. -/
def split? (content : Bytes) : Option (ByteOrderMark × Bytes) :=
  -- Fewer than three bytes are never taken for a mark.
  if content.length < 3 then none
  else
    match content with
    | 0xEF :: 0xBB :: 0xBF :: rest => some (.utf8, rest)
    | 0xFF :: 0xFE :: rest => some (.utf16 .littleEndian, rest)
    | 0xFE :: 0xFF :: rest => some (.utf16 .bigEndian, rest)
    | _ => none

end ByteOrderMark

/-- The text of a file: as its mark says, and without a mark as well-formed UTF-8 only. -/
def decodeContent? (content : Bytes) : Option String :=
  -- Without a mark one malformed byte is enough for there to be no text.
  match ByteOrderMark.split? content with
  | some (mark, rest) => some (mark.decode rest)
  | none => Utf8.decode? content

end Phrasebook
