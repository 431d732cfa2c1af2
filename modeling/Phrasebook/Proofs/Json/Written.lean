import Phrasebook.Proofs.Json.Grammar

/-! Values that are written as JSON are read back by the grammar, in either layout. -/

namespace Phrasebook

mutual

/-- A value as the grammar has it. -/
def JsonValue.tree : JsonValue → JsonTree
  | .string text => .string text
  -- The grammar keeps a number as the numeral that is written.
  | .number value => .number (toString value)
  | .array items => .array (JsonValue.trees items)
  | .object members => .object (JsonValue.namedTrees members)

/-- The values of some items. -/
def JsonValue.trees : List JsonValue → List JsonTree
  | [] => []
  | item :: rest => item.tree :: JsonValue.trees rest

/-- The values of some members, under their names. -/
def JsonValue.namedTrees : List (String × JsonValue) → List (String × JsonTree)
  | [] => []
  | (name, value) :: rest => (name, value.tree) :: JsonValue.namedTrees rest

end

/-- The values of items that are made from a list. -/
theorem JsonValue.trees_map {α : Type} (make : α → JsonValue) (items : List α) :
    JsonValue.trees (items.map make) = items.map fun item => (make item).tree := by
  induction items with
  | nil => rfl
  | cons item rest ih => simp [JsonValue.trees, ih]

/-- The values of members that are made from a list. -/
theorem JsonValue.namedTrees_map {α : Type} (make : α → String × JsonValue) (items : List α) :
    JsonValue.namedTrees (items.map make) =
      items.map fun item => ((make item).1, (make item).2.tree) := by
  induction items with
  | nil => rfl
  | cons item rest ih => simp [JsonValue.namedTrees, ih]

/-- A layout that puts nothing but blanks between the parts of a value. -/
structure JsonLayout.IsNeutral (layout : JsonLayout) : Prop where
  lineBreak : ∀ depth, ∀ char ∈ layout.lineBreak depth, isJsonBlank char = true
  colon : ∃ before after, layout.colon = before ++ ':' :: after ∧
    (∀ char ∈ before, isJsonBlank char = true) ∧ ∀ char ∈ after, isJsonBlank char = true

/-- Some characters that cannot go on with a number that stands before them. -/
def EndsNumber (chars : List Char) : Prop :=
  ∀ char ∈ chars.head?, isNumeralChar char = false

/-- On one line there are no blanks at all. -/
theorem JsonLayout.isNeutral_compact : JsonLayout.compact.IsNeutral where
  lineBreak := by simp [JsonLayout.compact]
  colon := ⟨[], [], by simp [JsonLayout.compact]⟩

/-- The indented layout has line feeds and spaces. -/
theorem JsonLayout.isNeutral_indented : JsonLayout.indented.IsNeutral where
  lineBreak := by
    -- A line break is a line feed, and two spaces for each level.
    intro depth char member
    rcases List.mem_cons.mp member with rfl | space
    · rfl
    · obtain ⟨-, rfl⟩ := List.mem_replicate.mp space
      rfl
  colon := ⟨[], [' '], by simp [JsonLayout.indented, isJsonBlank]⟩

/-- Blanks are skipped together with the blanks behind them. -/
theorem skipBlanks_append {blanks : List Char}
    (blank : ∀ char ∈ blanks, isJsonBlank char = true) (rest : List Char) :
    skipBlanks (blanks ++ rest) = skipBlanks rest :=
  List.dropWhile_append_of_pos blank

/-- Nothing is skipped before a character that is no blank. -/
theorem skipBlanks_cons {char : Char} (solid : isJsonBlank char = false) (rest : List Char) :
    skipBlanks (char :: rest) = char :: rest :=
  List.dropWhile_cons_of_neg (by simp [solid])

/-- No number goes on with a blank. -/
theorem isNumeralChar_of_isJsonBlank {char : Char} (blank : isJsonBlank char = true) :
    isNumeralChar char = false := by
  -- There are four blanks.
  simp only [isJsonBlank, Bool.or_eq_true, beq_iff_eq] at blank
  rcases blank with ((rfl | rfl) | rfl) | rfl
  all_goals rfl

/-- A number ends before blanks and a character that cannot be part of it. -/
theorem endsNumber_append {blanks : List Char}
    (blank : ∀ char ∈ blanks, isJsonBlank char = true) {char : Char}
    (apart : isNumeralChar char = false) (rest : List Char) :
    EndsNumber (blanks ++ char :: rest) := by
  -- The first character is a blank, or else the character itself.
  intro first isFirst
  cases blanks with
  | nil =>
    cases isFirst
    exact apart
  | cons other more =>
    cases isFirst
    exact isNumeralChar_of_isJsonBlank (blank _ List.mem_cons_self)

/-- Each of the sixteen digits has its own value. -/
theorem hexValue?_digitChar {value : Nat} (small : value < 16) :
    hexValue? (Nat.digitChar value) = some value := by
  -- There are few enough to be looked at one by one.
  have all : ∀ value < 16, hexValue? (Nat.digitChar value) = some value := by decide
  exact all value small

/-- The escape of a control character has the code of the character. -/
theorem unitEscape?_twoHexDigits {value : Nat} (small : value < 256) (rest : List Char) :
    unitEscape? ('\\' :: 'u' :: '0' :: '0' :: (twoHexDigits value ++ rest)) =
      some (value, rest) := by
  -- The two digits are those of the upper and of the lower half.
  have upper : hexValue? (Nat.digitChar (value / 16)) = some (value / 16) :=
    hexValue?_digitChar (by omega)
  have lower : hexValue? (Nat.digitChar (value % 16)) = some (value % 16) :=
    hexValue?_digitChar (by omega)
  have zero : hexValue? '0' = some 0 := rfl
  have halves : 16 * (value / 16) + value % 16 = value := Nat.div_add_mod value 16
  simp [unitEscape?, twoHexDigits, upper, lower, zero, halves]

/-- The escape of a control character stands for the character. -/
theorem readEscape?_twoHexDigits {char : Char} (control : char.toNat < 0x20) (rest : List Char) :
    readEscape? ('\\' :: 'u' :: '0' :: '0' :: (twoHexDigits char.toNat ++ rest)) =
      some (char, rest) := by
  -- The code of the character is far below the surrogates.
  have unit := unitEscape?_twoHexDigits (show char.toNat < 256 by omega) rest
  have notHigh : Utf16.isHighSurrogate char.toNat = false := by
    simp [Utf16.isHighSurrogate]
    omega
  have notLow : Utf16.isLowSurrogate char.toNat = false := by
    simp [Utf16.isLowSurrogate]
    omega
  simp [readEscape?, unit, notHigh, notLow]

/-- A character of a string is read as it was written. -/
theorem ReadsText.jsonChar_append {input text rest : List Char} (char : Char)
    (onward : ReadsText input text rest) :
    ReadsText (jsonChar char ++ input) (char :: text) rest := by
  -- Seven characters have an escape of their own, and the other controls one with four digits.
  unfold jsonChar
  split
  case h_8 quote backslash _ _ _ _ _ =>
    split
    · rename_i control
      exact .escaped (readEscape?_twoHexDigits control input) onward
    · rename_i printed
      exact .plain (Nat.not_lt.mp printed) quote backslash onward
  all_goals exact .escaped rfl onward

/-- A string is read as it was written. -/
theorem readsText_flatMap_jsonChar (text rest : List Char) :
    ReadsText (text.flatMap jsonChar ++ '"' :: rest) text rest := by
  -- Each character is read before those that follow it, up to the quotation mark.
  induction text with
  | nil => exact .close rest
  | cons char more ih =>
    rw [List.flatMap_cons, List.append_assoc]
    exact ih.jsonChar_append char

/-- Only zero is written with a zero first. -/
theorem head?_toDigits_ne_zero {value : Nat} (positive : 0 < value) :
    (Nat.toDigits 10 value).head? ≠ some '0' := by
  -- The first digit is that of the number without its last digit.
  induction value using Nat.strongRecOn with
  | ind value ih =>
    by_cases single : value < 10
    · have all : ∀ value < 10, 0 < value → [Nat.digitChar value].head? ≠ some '0' := by decide
      rw [Nat.toDigits_of_lt_base single]
      exact all value single positive
    · have start : (Nat.toDigits 10 value).head? = (Nat.toDigits 10 (value / 10)).head? := by
        rw [Nat.toDigits_of_base_le (by omega) (by omega)]
        rw [List.head?_append, List.head?_eq_some_head Nat.toDigits_ne_nil, Option.some_or]
      rw [start]
      exact ih (value / 10) (by omega) (by omega)

/-- The digits of a number are those of a whole number in JSON. -/
theorem isWhole_toDigits (value : Nat) : IsWhole (Nat.toDigits 10 value) := by
  -- There is a digit at least, and a zero comes first only if the number is zero.
  refine ⟨⟨Nat.toDigits_ne_nil, ?_⟩, ?_⟩
  · intro char member
    exact Nat.isDigit_of_mem_toDigits (by omega) (by omega) member
  · intro zeroFirst
    rcases Nat.eq_zero_or_pos value with rfl | positive
    · rfl
    · exact absurd zeroFirst (head?_toDigits_ne_zero positive)

/-- A number is read as it was written. -/
theorem reads_toString (value : Nat) {rest : List Char} (ends : EndsNumber rest) :
    Reads ((toString value).toList ++ rest) (.value (.number (toString value))) rest := by
  -- The digits are all that can be part of a number, since none goes on after them.
  have digits : (toString value).toList = Nat.toDigits 10 value := Nat.toList_repr
  have areNumeral : ∀ char ∈ Nat.toDigits 10 value, isNumeralChar char = true := by
    intro char member
    simp [isNumeralChar, (isWhole_toDigits value).1.2 char member]
  have stops : rest.takeWhile isNumeralChar = [] ∧ rest.dropWhile isNumeralChar = rest := by
    cases rest with
    | nil => exact ⟨rfl, rfl⟩
    | cons first more => simp [ends first rfl]
  have taken : (Nat.toDigits 10 value ++ rest).takeWhile isNumeralChar = Nat.toDigits 10 value := by
    rw [List.takeWhile_append_of_pos areNumeral, stops.1, List.append_nil]
  have left : (Nat.toDigits 10 value ++ rest).dropWhile isNumeralChar = rest := by
    rw [List.dropWhile_append_of_pos areNumeral, stops.2]
  have numeral : IsNumeral ((Nat.toDigits 10 value ++ rest).takeWhile isNumeralChar) := by
    rw [taken]
    exact ⟨[], _, [], [], by simp, by simp, isWhole_toDigits value, .inl rfl, .inl rfl⟩
  have reads := Reads.number numeral
  rw [taken, left, ← digits, String.ofList_toList] at reads
  exact reads

/-- No written value starts with a blank. -/
theorem skipBlanks_chars (value : JsonValue) (layout : JsonLayout) (depth : Nat)
    (rest : List Char) :
    skipBlanks (value.chars layout depth ++ rest) = value.chars layout depth ++ rest := by
  -- A value starts with a quotation mark, a digit, a bracket or a brace.
  cases value with
  | string text => rfl
  | number value =>
    have digits : (toString value).toList = Nat.toDigits 10 value := Nat.toList_repr
    rw [JsonValue.chars, digits]
    cases written : Nat.toDigits 10 value with
    | nil => exact absurd written Nat.toDigits_ne_nil
    | cons first more =>
      have isDigit := (isWhole_toDigits value).1.2 first (by simp [written])
      apply skipBlanks_cons
      cases blank : isJsonBlank first with
      | false => rfl
      | true =>
        have apart := isNumeralChar_of_isJsonBlank blank
        simp [isNumeralChar, isDigit] at apart
  | array items => cases items <;> rfl
  | object members => cases members <;> rfl

section

variable {layout : JsonLayout} (neutral : layout.IsNeutral)

include neutral

/-- What stands at the start of a line goes without the blanks before it. -/
theorem skipBlanks_lineBreak_chars (value : JsonValue) (lineDepth depth : Nat)
    (rest : List Char) :
    skipBlanks (layout.lineBreak lineDepth ++ (value.chars layout depth ++ rest)) =
      value.chars layout depth ++ rest := by
  -- The line break is all blanks, and the value starts with none.
  rw [skipBlanks_append (neutral.lineBreak lineDepth), skipBlanks_chars]

/-- The name of a member goes without the blanks before it. -/
theorem skipBlanks_lineBreak_jsonString (name : String) (lineDepth : Nat) (rest : List Char) :
    skipBlanks (layout.lineBreak lineDepth ++ (jsonString name ++ rest)) =
      jsonString name ++ rest := by
  -- A name starts with its quotation mark.
  rw [skipBlanks_append (neutral.lineBreak lineDepth)]
  rfl

/-- A member is read as it was written if its value is. -/
theorem reads_member (name : String) {value : JsonValue} {depth : Nat} {rest : List Char}
    (reads : Reads (value.chars layout depth ++ rest) (.value value.tree) rest) :
    Reads (jsonString name ++ (layout.colon ++ (value.chars layout depth ++ rest)))
      (.member name value.tree) rest := by
  -- The blanks on both sides of the colon are skipped.
  obtain ⟨before, after, colon, blankBefore, blankAfter⟩ := neutral.colon
  have text := readsText_flatMap_jsonChar name.toList
    (layout.colon ++ (value.chars layout depth ++ rest))
  have found : skipBlanks (layout.colon ++ (value.chars layout depth ++ rest)) =
      ':' :: (after ++ (value.chars layout depth ++ rest)) := by
    rw [colon, List.append_assoc, skipBlanks_append blankBefore]
    rfl
  have skipped : skipBlanks (after ++ (value.chars layout depth ++ rest)) =
      value.chars layout depth ++ rest := by
    rw [skipBlanks_append blankAfter, skipBlanks_chars]
  have member := Reads.member text found (skipped.symm ▸ reads)
  simpa [jsonString] using member

/-- A number ends before the items that follow, and before the bracket behind them. -/
theorem endsNumber_itemChars (items : List JsonValue) (depth lineDepth : Nat)
    (rest : List Char) :
    EndsNumber (JsonValue.itemChars layout depth items ++
      (layout.lineBreak lineDepth ++ ']' :: rest)) := by
  -- A comma comes next, or blanks and the bracket.
  cases items with
  | nil => exact endsNumber_append (neutral.lineBreak lineDepth) rfl rest
  | cons item more =>
    intro first isFirst
    cases isFirst
    rfl

/-- A number ends before the members that follow, and before the brace behind them. -/
theorem endsNumber_memberChars (members : List (String × JsonValue)) (depth lineDepth : Nat)
    (rest : List Char) :
    EndsNumber (JsonValue.memberChars layout depth members ++
      (layout.lineBreak lineDepth ++ '}' :: rest)) := by
  -- A comma comes next here too, or blanks and the brace.
  cases members with
  | nil => exact endsNumber_append (neutral.lineBreak lineDepth) rfl rest
  | cons member more =>
    intro first isFirst
    cases isFirst
    rfl

mutual

/-- A value is read as it was written, where a number would end. -/
theorem reads_chars (value : JsonValue) (depth : Nat) {rest : List Char}
    (ends : EndsNumber rest) :
    Reads (value.chars layout depth ++ rest) (.value value.tree) rest := by
  -- The recursion follows the value: its parts are read where they stand, then the whole.
  match value with
  | .string text =>
    have reads := Reads.string (readsText_flatMap_jsonChar text.toList rest)
    simpa [JsonValue.chars, JsonValue.tree, jsonString] using reads
  | .number value => exact reads_toString value ends
  | .array [] => exact .emptyArray rfl
  | .array (item :: more) =>
    have first := reads_chars item (depth + 1)
      (endsNumber_itemChars neutral more (depth + 1) depth rest)
    -- The first item is on a line of its own, and the others go on after it.
    have items := reads_itemChars more (depth + 1) depth first
    rw [← skipBlanks_lineBreak_chars neutral item (depth + 1)] at items
    simpa [JsonValue.chars, JsonValue.tree, JsonValue.trees] using Reads.array items
  | .object [] => exact .emptyObject rfl
  | .object ((name, value) :: more) =>
    have first := reads_member neutral name (reads_chars value (depth + 1)
      (endsNumber_memberChars neutral more (depth + 1) depth rest))
    -- The first member is on a line of its own as well.
    have members := reads_memberChars more (depth + 1) depth first
    rw [← skipBlanks_lineBreak_jsonString neutral name (depth + 1)] at members
    simpa [JsonValue.chars, JsonValue.tree, JsonValue.namedTrees] using Reads.object members

/-- The items that follow on one that was read are read as they were written. -/
theorem reads_itemChars (items : List JsonValue) (depth lineDepth : Nat) {input rest : List Char}
    {tree : JsonTree}
    (first : Reads input (.value tree)
      (JsonValue.itemChars layout depth items ++ (layout.lineBreak lineDepth ++ ']' :: rest))) :
    Reads input (.items (tree :: JsonValue.trees items)) rest := by
  -- The list ends with the bracket, or goes on after a comma.
  match items with
  | [] => exact .lastItem first (skipBlanks_append (neutral.lineBreak lineDepth) _)
  | item :: more =>
    have next := reads_chars item depth (endsNumber_itemChars neutral more depth lineDepth rest)
    have later := reads_itemChars more depth lineDepth next
    rw [← skipBlanks_lineBreak_chars neutral item depth] at later
    have comma : isJsonBlank ',' = false := rfl
    refine .nextItem first ?_ later
    simp [JsonValue.itemChars, skipBlanks_cons comma]

/-- The members that follow on one that was read are read as they were written. -/
theorem reads_memberChars (members : List (String × JsonValue)) (depth lineDepth : Nat)
    {input rest : List Char} {name : String} {tree : JsonTree}
    (first : Reads input (.member name tree)
      (JsonValue.memberChars layout depth members ++
        (layout.lineBreak lineDepth ++ '}' :: rest))) :
    Reads input (.members ((name, tree) :: JsonValue.namedTrees members)) rest := by
  -- The list ends with the brace, or a comma leads on to the next name.
  match members with
  | [] => exact .lastMember first (skipBlanks_append (neutral.lineBreak lineDepth) _)
  | (other, value) :: more =>
    have next := reads_member neutral other
      (reads_chars value depth (endsNumber_memberChars neutral more depth lineDepth rest))
    have later := reads_memberChars more depth lineDepth next
    rw [← skipBlanks_lineBreak_jsonString neutral other depth] at later
    have comma : isJsonBlank ',' = false := rfl
    refine .nextMember first ?_ later
    simp [JsonValue.memberChars, skipBlanks_cons comma]

end

end

/-- In a neutral layout a value is written as a JSON text of itself, and of nothing else. -/
theorem isJsonText_chars_iff {layout : JsonLayout} (neutral : layout.IsNeutral)
    (value : JsonValue) (depth : Nat) (tree : JsonTree) :
    IsJsonText (value.chars layout depth) tree ↔ tree = value.tree := by
  -- No second value is read from characters from which one was read.
  have ends : EndsNumber [] := by simp [EndsNumber]
  have reads := reads_chars neutral value depth ends
  rw [← skipBlanks_chars, List.append_nil] at reads
  have written : IsJsonText (value.chars layout depth) value.tree := ⟨[], reads, rfl⟩
  constructor
  · intro text
    exact text.unique written
  · intro same
    rw [same]
    exact written

/-- The text of a value on one line is a JSON text of the value, and of nothing else. -/
theorem isJsonText_compact_iff (value : JsonValue) (tree : JsonTree) :
    IsJsonText value.compact.toList tree ↔ tree = value.tree := by
  -- The characters of the text are those of the layout without blanks.
  rw [JsonValue.compact, String.toList_ofList]
  exact isJsonText_chars_iff JsonLayout.isNeutral_compact value 0 tree

/-- The indented text of a value is a JSON text of the value, and of nothing else. -/
theorem isJsonText_pretty_iff (value : JsonValue) (tree : JsonTree) :
    IsJsonText value.pretty.toList tree ↔ tree = value.tree := by
  -- The characters are those of the layout with a line for each part.
  rw [JsonValue.pretty, String.toList_ofList]
  exact isJsonText_chars_iff JsonLayout.isNeutral_indented value 0 tree

end Phrasebook
