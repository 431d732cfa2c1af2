/-! JSON values and how they are written, on one line or indented. -/

namespace Phrasebook

/-- A JSON value, as far as reports and exports need them. -/
inductive JsonValue where
  | string (text : String)
  | number (value : Nat)
  | array (items : List JsonValue)
  | object (members : List (String × JsonValue))

/-- How the parts of a value are set apart. -/
structure JsonLayout where
  /-- What goes before an item at this depth, and before the bracket that ends the items. -/
  lineBreak : Nat → List Char
  /-- What goes between the name of a member and its value. -/
  colon : List Char

/-- Everything on one line without blanks. -/
def JsonLayout.compact : JsonLayout where
  lineBreak _ := []
  colon := [':']

/-- Each item on a line of its own, indented by two spaces for each level. -/
def JsonLayout.indented : JsonLayout where
  lineBreak depth := '\n' :: List.replicate (2 * depth) ' '
  colon := [':', ' ']

/-- The two hexadecimal digits of a number below 256. -/
def twoHexDigits (value : Nat) : List Char :=
  [Nat.digitChar (value / 16), Nat.digitChar (value % 16)]

/-- A character as it stands in a JSON string. -/
def jsonChar (char : Char) : List Char :=
  match char with
  | '"' => ['\\', '"']
  | '\\' => ['\\', '\\']
  | '\x08' => ['\\', 'b']
  | '\x0c' => ['\\', 'f']
  | '\n' => ['\\', 'n']
  | '\r' => ['\\', 'r']
  | '\t' => ['\\', 't']
  | _ =>
    -- Only the controls below the space have to be escaped.
    if char.toNat < 0x20 then ['\\', 'u', '0', '0'] ++ twoHexDigits char.toNat else [char]

/-- A JSON string. -/
def jsonString (text : String) : List Char :=
  '"' :: text.toList.flatMap jsonChar ++ ['"']

namespace JsonValue

mutual

/-- The characters of a value that stands at the given depth. -/
def chars (layout : JsonLayout) (depth : Nat) : JsonValue → List Char
  | .string text => jsonString text
  | .number value => (toString value).toList
  | .array [] => ['[', ']']
  | .array (item :: rest) =>
    -- The first item has no comma before it, and the bracket is as far out as the value.
    '[' :: layout.lineBreak (depth + 1) ++ item.chars layout (depth + 1) ++
      itemChars layout (depth + 1) rest ++ layout.lineBreak depth ++ [']']
  | .object [] => ['{', '}']
  | .object ((name, value) :: rest) =>
    '{' :: layout.lineBreak (depth + 1) ++ jsonString name ++ layout.colon ++
      value.chars layout (depth + 1) ++
      memberChars layout (depth + 1) rest ++ layout.lineBreak depth ++ ['}']

/-- The items after the first, each behind a comma. -/
def itemChars (layout : JsonLayout) (depth : Nat) : List JsonValue → List Char
  | [] => []
  | item :: rest =>
    ',' :: layout.lineBreak depth ++ item.chars layout depth ++ itemChars layout depth rest

/-- The members after the first, each behind a comma. -/
def memberChars (layout : JsonLayout) (depth : Nat) : List (String × JsonValue) → List Char
  | [] => []
  | (name, value) :: rest =>
    ',' :: layout.lineBreak depth ++ jsonString name ++ layout.colon ++
      value.chars layout depth ++ memberChars layout depth rest

end

/-- The value on one line. -/
def compact (value : JsonValue) : String :=
  String.ofList (value.chars .compact 0)

/-- The value on indented lines, without a line feed at the end. -/
def pretty (value : JsonValue) : String :=
  String.ofList (value.chars .indented 0)

end JsonValue

end Phrasebook
