import Phrasebook.Text.Utf8

/-! Text as bytes in UTF-16 of either byte order, and back with every malformed part marked. -/

namespace Phrasebook.Utf16

/-- Which byte of a code unit comes first. -/
inductive ByteOrder where
  | littleEndian
  | bigEndian
  deriving DecidableEq, Repr

/-- The code units that write a character: one, or a pair of surrogates. -/
def unitsOf (char : Char) : List Nat :=
  if char.toNat < 0x10000 then [char.toNat]
  else [0xD800 + (char.toNat - 0x10000) / 0x400, 0xDC00 + (char.toNat - 0x10000) % 0x400]

/-- The two bytes of a code unit. -/
def ByteOrder.write (order : ByteOrder) (unit : Nat) : Bytes :=
  match order with
  | .littleEndian => [UInt8.ofNat (unit % 256), UInt8.ofNat (unit / 256)]
  | .bigEndian => [UInt8.ofNat (unit / 256), UInt8.ofNat (unit % 256)]

/-- The code unit of two bytes. -/
def ByteOrder.read (order : ByteOrder) (first second : UInt8) : Nat :=
  match order with
  | .littleEndian => first.toNat + 256 * second.toNat
  | .bigEndian => 256 * first.toNat + second.toNat

/-- The bytes that write a text, two for each of its code units. -/
def encode (order : ByteOrder) (text : String) : Bytes :=
  (text.toList.flatMap unitsOf).flatMap order.write

/-- Whether a code unit opens a pair of surrogates. -/
def isHighSurrogate (unit : Nat) : Bool :=
  0xD800 ≤ unit && unit < 0xDC00

/-- Whether a code unit closes a pair of surrogates. -/
def isLowSurrogate (unit : Nat) : Bool :=
  0xDC00 ≤ unit && unit < 0xE000

/-- What a code unit that completes no pair adds, and the high surrogate left open by it. -/
def start (unit : Nat) : List (Option Char) × Option Nat :=
  if isHighSurrogate unit then ([], some unit)
  else if isLowSurrogate unit then ([none], none)
  else ([some (Char.ofNat unit)], none)

/-- What the next code unit adds after an open high surrogate, if there is one. -/
def read (high : Option Nat) (unit : Nat) : List (Option Char) × Option Nat :=
  match high with
  | none => start unit
  | some high =>
    if isLowSurrogate unit then
      ([some (Char.ofNat (0x10000 + (high - 0xD800) * 0x400 + (unit - 0xDC00)))], none)
    else
      -- The high surrogate stood alone, and this unit starts anew.
      let (found, next) := start unit
      (none :: found, next)

/-- The characters from here on, whatever is left incomplete at the end being one `none`. -/
def parts (order : ByteOrder) : Option Nat → Bytes → List (Option Char)
  | none, [] => []
  | some _, [] => [none]
  -- A single byte at the end is no code unit, even after an open surrogate.
  | _, [_] => [none]
  | high, first :: second :: rest =>
    let (found, next) := read high (order.read first second)
    found ++ parts order next rest

/-- The text that the code units write, with a replacement character for each malformed part. -/
def decodeLossy (order : ByteOrder) (bytes : Bytes) : String :=
  String.ofList ((parts order none bytes).map (·.getD '\uFFFD'))

end Phrasebook.Utf16
