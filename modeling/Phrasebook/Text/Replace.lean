/-! Literal replacement of a key throughout a text, leftmost first and without overlap. -/

namespace Phrasebook

/--
Replaces a non-empty key, where the first `skipped` characters belong to an occurrence already
replaced.
-/
def replaceFrom (key message : List Char) : Nat → List Char → List Char
  | _, [] => []
  | skipped + 1, _ :: rest => replaceFrom key message skipped rest
  | 0, char :: rest =>
    -- An occurrence that starts here is taken before any that would overlap it.
    if key.isPrefixOf (char :: rest) then
      message ++ replaceFrom key message (key.length - 1) rest
    else char :: replaceFrom key message 0 rest

/-- Characters of an occurrence that is already replaced are passed over. -/
theorem replaceFrom_drop (key message : List Char) (skipped : Nat) (text : List Char) :
    replaceFrom key message skipped text = replaceFrom key message 0 (text.drop skipped) := by
  -- Each step drops one character and lowers the count by one.
  induction skipped generalizing text with
  | zero => rfl
  | succ skipped ih =>
    cases text with
    | nil => simp [replaceFrom]
    | cons char rest => simp [replaceFrom, ih]

/-- The message before every character and once more at the end. -/
def insertThroughout (message : List Char) : List Char → List Char
  | [] => message
  | char :: rest => message ++ char :: insertThroughout message rest

/-- An empty key occurs between all characters and at both ends. -/
def replaceChars (key message text : List Char) : List Char :=
  if key.isEmpty then insertThroughout message text else replaceFrom key message 0 text

/-- The text with every occurrence of the key replaced by the message. -/
def replaceAll (key message text : String) : String :=
  String.ofList (replaceChars key.toList message.toList text.toList)

end Phrasebook
