import Phrasebook.Json
import Phrasebook.Text.Utf16

/-! The JSON grammar, told by what can be read from some characters and by what is left of them. -/

namespace Phrasebook

/-- A value of any kind that JSON has, with each number as it is written. -/
inductive JsonTree where
  | null
  | boolean (value : Bool)
  | number (numeral : String)
  | string (text : String)
  | array (items : List JsonTree)
  | object (members : List (String × JsonTree))

/-- Whether a character may stand anywhere between the parts of a value. -/
def isJsonBlank (char : Char) : Bool :=
  char == ' ' || char == '\t' || char == '\n' || char == '\r'

/-- What is left after the blanks at the start. -/
def skipBlanks (input : List Char) : List Char :=
  input.dropWhile isJsonBlank

/-- Some digits, one at least. -/
def AreDigits (chars : List Char) : Prop :=
  chars ≠ [] ∧ ∀ char ∈ chars, char.isDigit = true

/-- A whole number in decimal digits, which starts with zero only if it is zero. -/
def IsWhole (chars : List Char) : Prop :=
  AreDigits chars ∧ (chars.head? = some '0' → chars = ['0'])

/-- A number as JSON has it, with sign, fraction and exponent where there are any. -/
def IsNumeral (chars : List Char) : Prop :=
  ∃ sign whole fraction exponent, chars = sign ++ whole ++ fraction ++ exponent ∧
    -- There is no plus sign in front, and each of the parts behind may be missing.
    sign ∈ [[], ['-']] ∧ IsWhole whole ∧
    (fraction = [] ∨ ∃ digits, AreDigits digits ∧ fraction = '.' :: digits) ∧
    (exponent = [] ∨ ∃ mark ∈ ['e', 'E'], ∃ sign ∈ [[], ['+'], ['-']], ∃ digits,
      AreDigits digits ∧ exponent = mark :: sign ++ digits)

/-- Whether a character can be part of a number. -/
def isNumeralChar (char : Char) : Bool :=
  char.isDigit || ['-', '+', '.', 'e', 'E'].contains char

/-- The character that an escape of two characters stands for. -/
def shortEscape? : Char → Option Char
  | '"' => some '"'
  | '\\' => some '\\'
  | '/' => some '/'
  | 'b' => some '\x08'
  | 'f' => some '\x0c'
  | 'n' => some '\n'
  | 'r' => some '\r'
  | 't' => some '\t'
  | _ => none

/-- The value of a hexadecimal digit of either case. -/
def hexValue? (char : Char) : Option Nat :=
  if '0' ≤ char ∧ char ≤ '9' then some (char.toNat - '0'.toNat)
  -- Letters of either case go on where the ten digits end.
  else if 'a' ≤ char ∧ char ≤ 'f' then some (char.toNat - 'a'.toNat + 10)
  else if 'A' ≤ char ∧ char ≤ 'F' then some (char.toNat - 'A'.toNat + 10)
  else none

/-- The code unit of an escape with four digits, and what is left after it. -/
def unitEscape? : List Char → Option (Nat × List Char)
  | '\\' :: 'u' :: first :: second :: third :: fourth :: rest => do
    -- The first digit weighs most.
    let digits ← [first, second, third, fourth].mapM hexValue?
    return (digits.foldl (16 * · + ·) 0, rest)
  | _ => none

/-- The character that an escape at the start stands for, and what is left after the escape. -/
def readEscape? (input : List Char) : Option (Char × List Char) :=
  match unitEscape? input with
  | some (unit, after) =>
    if Utf16.isHighSurrogate unit then
      -- A high surrogate stands for a character only together with a low one.
      match unitEscape? after with
      | some (low, after) =>
        if Utf16.isLowSurrogate low then
          some (Char.ofNat (0x10000 + (unit - 0xD800) * 0x400 + (low - 0xDC00)), after)
        else none
      | none => none
    else if Utf16.isLowSurrogate unit then none
    else some (Char.ofNat unit, after)
  | none =>
    match input with
    | '\\' :: code :: after => (shortEscape? code).map fun char => (char, after)
    | _ => none

/-- The text that is read up to the quotation mark that ends it, and what is left after that. -/
inductive ReadsText : List Char → List Char → List Char → Prop
  | close (rest : List Char) : ReadsText ('"' :: rest) [] rest
  | plain {char : Char} {input text rest : List Char} (control : 0x20 ≤ char.toNat)
      (quote : char ≠ '"') (escape : char ≠ '\\') (onward : ReadsText input text rest) :
      ReadsText (char :: input) (char :: text) rest
  | escaped {input after text rest : List Char} {char : Char}
      (escape : readEscape? input = some (char, after)) (onward : ReadsText after text rest) :
      ReadsText input (char :: text) rest

/-- A part of a JSON text. -/
inductive JsonPart where
  | value (tree : JsonTree)
  /-- The items of an array, one at least, with the bracket that ends them. -/
  | items (trees : List JsonTree)
  /-- A member of an object: its name, and its value. -/
  | member (name : String) (tree : JsonTree)
  /-- The members of an object, one at least, with the brace that ends them. -/
  | members (named : List (String × JsonTree))

/-- The part that is read from the start of some characters, and what is left after it. -/
inductive Reads : List Char → JsonPart → List Char → Prop
  | null (rest : List Char) : Reads ('n' :: 'u' :: 'l' :: 'l' :: rest) (.value .null) rest
  | isTrue (rest : List Char) :
      Reads ('t' :: 'r' :: 'u' :: 'e' :: rest) (.value (.boolean true)) rest
  | isFalse (rest : List Char) :
      Reads ('f' :: 'a' :: 'l' :: 's' :: 'e' :: rest) (.value (.boolean false)) rest
  /-- A number goes as far as it can, since nothing that may follow it could be part of it. -/
  | number {input : List Char} (numeral : IsNumeral (input.takeWhile isNumeralChar)) :
      Reads input (.value (.number (.ofList (input.takeWhile isNumeralChar))))
        (input.dropWhile isNumeralChar)
  | string {input text rest : List Char} (chars : ReadsText input text rest) :
      Reads ('"' :: input) (.value (.string (.ofList text))) rest
  | emptyArray {input rest : List Char} (close : skipBlanks input = ']' :: rest) :
      Reads ('[' :: input) (.value (.array [])) rest
  | array {input rest : List Char} {trees : List JsonTree}
      (items : Reads (skipBlanks input) (.items trees) rest) :
      Reads ('[' :: input) (.value (.array trees)) rest
  | emptyObject {input rest : List Char} (close : skipBlanks input = '}' :: rest) :
      Reads ('{' :: input) (.value (.object [])) rest
  | object {input rest : List Char} {named : List (String × JsonTree)}
      (members : Reads (skipBlanks input) (.members named) rest) :
      Reads ('{' :: input) (.value (.object named)) rest
  | lastItem {input after rest : List Char} {tree : JsonTree}
      (item : Reads input (.value tree) after) (close : skipBlanks after = ']' :: rest) :
      Reads input (.items [tree]) rest
  | nextItem {input after next rest : List Char} {tree : JsonTree} {trees : List JsonTree}
      (item : Reads input (.value tree) after) (comma : skipBlanks after = ',' :: next)
      (later : Reads (skipBlanks next) (.items trees) rest) :
      Reads input (.items (tree :: trees)) rest
  | member {input text after next rest : List Char} {tree : JsonTree}
      (name : ReadsText input text after) (colon : skipBlanks after = ':' :: next)
      (value : Reads (skipBlanks next) (.value tree) rest) :
      Reads ('"' :: input) (.member (.ofList text) tree) rest
  | lastMember {input after rest : List Char} {name : String} {tree : JsonTree}
      (member : Reads input (.member name tree) after) (close : skipBlanks after = '}' :: rest) :
      Reads input (.members [(name, tree)]) rest
  | nextMember {input after next rest : List Char} {name : String} {tree : JsonTree}
      {named : List (String × JsonTree)} (member : Reads input (.member name tree) after)
      (comma : skipBlanks after = ',' :: next)
      (later : Reads (skipBlanks next) (.members named) rest) :
      Reads input (.members ((name, tree) :: named)) rest

/-- Some characters are a JSON text of a value if that is all there is but for blanks. -/
def IsJsonText (chars : List Char) (tree : JsonTree) : Prop :=
  ∃ rest, Reads (skipBlanks chars) (.value tree) rest ∧ skipBlanks rest = []

/-- Nothing but a part of the same kind, and this one only, can be read from some characters. -/
def JsonPart.IsOnlyReading (input rest : List Char) : JsonPart → Prop
  | .value tree => ∀ other after, Reads input (.value other) after → other = tree ∧ after = rest
  | .items trees => ∀ other after, Reads input (.items other) after → other = trees ∧ after = rest
  | .member name tree => ∀ otherName other after, Reads input (.member otherName other) after →
      otherName = name ∧ other = tree ∧ after = rest
  | .members named =>
      ∀ other after, Reads input (.members other) after → other = named ∧ after = rest

/-- An escape starts with a backslash. -/
theorem head_of_readEscape? {input after : List Char} {char : Char}
    (escape : readEscape? input = some (char, after)) : input.head? = some '\\' := by
  -- Both kinds of escapes look for the backslash first.
  unfold readEscape? at escape
  split at escape
  · rename_i found
    unfold unitEscape? at found
    split at found
    · rfl
    · cases found
  · split at escape
    · rfl
    · cases escape

/-- A character beyond the first plane is escaped by two surrogates, and neither goes alone. -/
example :
    readEscape? "\\ud83d\\uDE00!".toList = some ('😀', ['!']) ∧
      readEscape? "\\ud83d!".toList = none ∧ readEscape? "\\uDE00".toList = none := by
  decide +kernel

/-- The characters settle the text that is read from them. -/
theorem ReadsText.unique {input text rest otherText otherRest : List Char}
    (reads : ReadsText input text rest) (other : ReadsText input otherText otherRest) :
    otherText = text ∧ otherRest = rest := by
  -- The first character tells how the next character of the text is written.
  induction reads generalizing otherText with
  | close rest =>
    cases other with
    | close => exact ⟨rfl, rfl⟩
    | plain _ quote => exact absurd rfl quote
    | escaped escape => simpa using head_of_readEscape? escape
  | plain control quote notEscape onward ih =>
    -- The character is no mark and no backslash, so it stands for itself either way.
    cases other with
    | close => exact absurd rfl quote
    | plain _ _ _ otherOnward => simpa using ih otherOnward
    | escaped escape => exact absurd (by simpa using head_of_readEscape? escape) notEscape
  | escaped escape onward ih =>
    cases other with
    | close => simpa using head_of_readEscape? escape
    | plain _ _ notEscape => exact absurd (by simpa using head_of_readEscape? escape) notEscape
    | escaped otherEscape otherOnward =>
      -- An escape stands for one character, after which both go on.
      rw [escape, Option.some.injEq, Prod.mk.injEq] at otherEscape
      obtain ⟨rfl, rfl⟩ := otherEscape
      simpa using ih otherOnward

/-- A numeral is not empty. -/
theorem not_isNumeral_nil : ¬ IsNumeral [] := by
  -- A whole number has a digit at least.
  rintro ⟨sign, whole, fraction, exponent, parts, -, ⟨⟨notNil, -⟩, -⟩, -⟩
  simp at parts
  exact notNil parts.2.1

/-- No number is read where the first character cannot be part of one. -/
theorem not_isNumeral_takeWhile {char : Char} {input : List Char}
    (apart : isNumeralChar char = false) :
    ¬ IsNumeral ((char :: input).takeWhile isNumeralChar) := by
  -- Nothing is taken, and this is no number.
  rw [List.takeWhile_cons_of_neg (by simp [apart])]
  exact not_isNumeral_nil

/-- No list of items starts with the bracket that ends one. -/
theorem not_reads_items_close {input rest : List Char} {trees : List JsonTree} :
    ¬ Reads (']' :: input) (.items trees) rest := by
  -- The first item would be a number.
  intro reads
  cases reads with
  | lastItem item =>
    cases item with
    | number numeral => exact not_isNumeral_takeWhile (by decide) numeral
  | nextItem item =>
    cases item with
    | number numeral => exact not_isNumeral_takeWhile (by decide) numeral

/-- No list of members starts with the brace that ends one. -/
theorem not_reads_members_close {input rest : List Char} {named : List (String × JsonTree)} :
    ¬ Reads ('}' :: input) (.members named) rest := by
  -- A member starts with a quotation mark.
  intro reads
  cases reads with
  | lastMember member => cases member
  | nextMember member => cases member

/-- The characters settle the part of each kind that is read from them. -/
theorem Reads.isOnlyReading {input rest : List Char} {part : JsonPart}
    (reads : Reads input part rest) : part.IsOnlyReading input rest := by
  -- The next character settles the rule by which a part is read, and so it does for its parts.
  induction reads with
  | null rest =>
    intro other after otherReads
    cases otherReads with
    | null => exact ⟨rfl, rfl⟩
    | number numeral => exact absurd numeral (not_isNumeral_takeWhile (by decide))
  | isTrue rest =>
    intro other after otherReads
    cases otherReads with
    | isTrue => exact ⟨rfl, rfl⟩
    | number numeral => exact absurd numeral (not_isNumeral_takeWhile (by decide))
  | isFalse rest =>
    intro other after otherReads
    cases otherReads with
    | isFalse => exact ⟨rfl, rfl⟩
    | number numeral => exact absurd numeral (not_isNumeral_takeWhile (by decide))
  | number numeral =>
    -- All other values start with a character that no number starts with.
    intro other after otherReads
    cases otherReads with
    | number => exact ⟨rfl, rfl⟩
    | _ => exact absurd numeral (not_isNumeral_takeWhile (by decide))
  | string chars =>
    intro other after otherReads
    cases otherReads with
    | string otherChars =>
      obtain ⟨rfl, rfl⟩ := chars.unique otherChars
      exact ⟨rfl, rfl⟩
    | number numeral => exact absurd numeral (not_isNumeral_takeWhile (by decide))
  -- What follows a bracket or a brace tells whether anything is in it.
  | emptyArray close =>
    intro other after otherReads
    cases otherReads with
    | emptyArray otherClose =>
      obtain ⟨-, rfl⟩ := List.cons.inj (close.symm.trans otherClose)
      exact ⟨rfl, rfl⟩
    | array items => exact absurd (close ▸ items) not_reads_items_close
    | number numeral => exact absurd numeral (not_isNumeral_takeWhile (by decide))
  | array items ih =>
    intro other after otherReads
    cases otherReads with
    | emptyArray close => exact absurd (close ▸ items) not_reads_items_close
    | array otherItems => simpa using ih _ _ otherItems
    | number numeral => exact absurd numeral (not_isNumeral_takeWhile (by decide))
  | emptyObject close =>
    intro other after otherReads
    cases otherReads with
    | emptyObject otherClose =>
      obtain ⟨-, rfl⟩ := List.cons.inj (close.symm.trans otherClose)
      exact ⟨rfl, rfl⟩
    | object members => exact absurd (close ▸ members) not_reads_members_close
    | number numeral => exact absurd numeral (not_isNumeral_takeWhile (by decide))
  | object members ih =>
    intro other after otherReads
    cases otherReads with
    | emptyObject close => exact absurd (close ▸ members) not_reads_members_close
    | object otherMembers => simpa using ih _ _ otherMembers
    | number numeral => exact absurd numeral (not_isNumeral_takeWhile (by decide))
  -- The same first item leaves the same rest, which tells whether another one follows.
  | lastItem item close ih =>
    intro other after otherReads
    cases otherReads with
    | lastItem otherItem otherClose =>
      obtain ⟨rfl, rfl⟩ := ih _ _ otherItem
      obtain ⟨-, rfl⟩ := List.cons.inj (close.symm.trans otherClose)
      exact ⟨rfl, rfl⟩
    | nextItem otherItem comma =>
      obtain ⟨rfl, rfl⟩ := ih _ _ otherItem
      simp [close] at comma
  | nextItem item comma later ih laterIH =>
    intro other after otherReads
    cases otherReads with
    | lastItem otherItem close =>
      obtain ⟨rfl, rfl⟩ := ih _ _ otherItem
      simp [comma] at close
    | nextItem otherItem otherComma otherLater =>
      obtain ⟨rfl, rfl⟩ := ih _ _ otherItem
      obtain ⟨-, rfl⟩ := List.cons.inj (comma.symm.trans otherComma)
      obtain ⟨rfl, rfl⟩ := laterIH _ _ otherLater
      exact ⟨rfl, rfl⟩
  | member name colon value ih =>
    intro otherName other after otherReads
    cases otherReads with
    | member otherChars otherColon otherValue =>
      obtain ⟨rfl, rfl⟩ := name.unique otherChars
      obtain ⟨-, rfl⟩ := List.cons.inj (colon.symm.trans otherColon)
      obtain ⟨rfl, rfl⟩ := ih _ _ otherValue
      exact ⟨rfl, rfl, rfl⟩
  -- With members it is as with items.
  | lastMember member close ih =>
    intro other after otherReads
    cases otherReads with
    | lastMember otherMember otherClose =>
      obtain ⟨rfl, rfl, rfl⟩ := ih _ _ _ otherMember
      obtain ⟨-, rfl⟩ := List.cons.inj (close.symm.trans otherClose)
      exact ⟨rfl, rfl⟩
    | nextMember otherMember comma =>
      obtain ⟨rfl, rfl, rfl⟩ := ih _ _ _ otherMember
      simp [close] at comma
  | nextMember member comma later ih laterIH =>
    intro other after otherReads
    cases otherReads with
    | lastMember otherMember close =>
      obtain ⟨rfl, rfl, rfl⟩ := ih _ _ _ otherMember
      simp [comma] at close
    | nextMember otherMember otherComma otherLater =>
      obtain ⟨rfl, rfl, rfl⟩ := ih _ _ _ otherMember
      obtain ⟨-, rfl⟩ := List.cons.inj (comma.symm.trans otherComma)
      obtain ⟨rfl, rfl⟩ := laterIH _ _ otherLater
      exact ⟨rfl, rfl⟩

/-- Some characters are a JSON text of one value at most. -/
theorem IsJsonText.unique {chars : List Char} {first second : JsonTree}
    (ofFirst : IsJsonText chars first) (ofSecond : IsJsonText chars second) : first = second := by
  -- One value only can be read from the first character that is no blank.
  obtain ⟨_, readsFirst, -⟩ := ofFirst
  obtain ⟨_, readsSecond, -⟩ := ofSecond
  exact (readsSecond.isOnlyReading _ _ readsFirst).1

end Phrasebook
