import Phrasebook.Proofs.Text.Replace
import Phrasebook.Text.Newline

/-! Line endings are all line feeds once normalized, and a text is its lines joined by them. -/

namespace Phrasebook

/-- A key whose first character does not occur in a text leaves that text as it is. -/
theorem replaceFrom_of_notMem {first : Char} {more message text : List Char}
    (absent : first ∉ text) : replaceFrom (first :: more) message 0 text = text := by
  -- Wherever the key occurred, its first character would too.
  refine replaceFrom_of_absent message fun occurs => ?_
  exact absent (occurs.subset (by simp))

/-- A key of one character is replaced character by character. -/
theorem replaceFrom_singleton (key message : Char) (text : List Char) :
    replaceFrom [key] [message] 0 text =
      text.map fun char => if char = key then message else char := by
  -- No occurrence reaches beyond its own character.
  induction text with
  | nil => rfl
  | cons char rest ih =>
    by_cases same : char = key
    · simp [replaceFrom, List.isPrefixOf, same, ih]
    · simp [replaceFrom, List.isPrefixOf, same, Ne.symm same, ih]

/-- A key whose first character does not occur in a text is replaced nowhere. -/
theorem replaceAll_of_notMem {key text : String} (first : Char) (message : String)
    (starts : key.toList.head? = some first) (absent : first ∉ text.toList) :
    replaceAll key message text = text := by
  -- The key is not empty, so it is looked for character by character.
  obtain ⟨more, chars⟩ := List.head?_eq_some_iff.mp starts
  simp [replaceAll, replaceChars, chars, replaceFrom_of_notMem absent]

/-- A text without carriage returns is normalized already. -/
theorem normalizeNewlines_of_notMem {text : String} (absent : '\r' ∉ text.toList) :
    normalizeNewlines text = text := by
  -- Such a text takes the short way.
  rw [normalizeNewlines, if_neg (by simpa using absent)]

/-- Texts without carriage returns are no exception, as there is nothing to replace in them. -/
theorem normalizeNewlines_eq_replaceAll (text : String) :
    normalizeNewlines text = replaceAll "\r" "\n" (replaceAll "\r\n" "\n" text) := by
  -- Only a text without carriage returns takes another way.
  by_cases returns : '\r' ∈ text.toList
  · rw [normalizeNewlines, if_pos (by simpa using returns)]
  · -- Both keys start with the character that is missing.
    rw [normalizeNewlines_of_notMem returns, replaceAll_of_notMem '\r' _ (by simp) returns,
      replaceAll_of_notMem '\r' _ (by simp) returns]

/-- Once the pairs are replaced, the other carriage returns are replaced one by one. -/
theorem toList_normalizeNewlines_eq_map (text : String) :
    (normalizeNewlines text).toList =
      (replaceAll "\r\n" "\n" text).toList.map fun char => if char = '\r' then '\n' else char := by
  -- The second key is a single character.
  have single : ∀ chars, replaceChars "\r".toList "\n".toList chars =
      chars.map fun char => if char = '\r' then '\n' else char :=
    replaceFrom_singleton '\r' '\n'
  rw [normalizeNewlines_eq_replaceAll, replaceAll, String.toList_ofList, single]

/-- No carriage return is left once the line endings are normalized. -/
theorem return_notMem_normalizeNewlines (text : String) :
    '\r' ∉ (normalizeNewlines text).toList := by
  -- The second replacement leaves none of those that the first one left.
  rw [toList_normalizeNewlines_eq_map]
  intro member
  obtain ⟨char, _, same⟩ := List.mem_map.mp member
  -- A character that was a return is a line feed now, and any other one is none.
  split at same
  · simp at same
  · exact absurd same ‹_›

/-- The pieces of a text between its line feeds. -/
def pieces (text : String) : List String :=
  (text.toList.splitOn '\n').map String.ofList

/-- The characters before a line feed make lines of their own, whatever comes after it. -/
theorem lineChars_append (chars rest : List Char) :
    lineChars (chars ++ '\n' :: rest) = chars.splitOn '\n' ++ lineChars rest := by
  -- The first line grows by the characters that are no line feeds.
  induction chars with
  | nil => simp [lineChars]
  | cons char chars ih =>
    rw [List.cons_append, lineChars, ih, List.splitOn_cons_eq_if_modifyHead]
    by_cases feed : char = '\n'
    · simp [feed]
    · -- The character joins the first of the pieces, of which there is one at least.
      cases split : chars.splitOn '\n' with
      | nil => exact absurd split (List.splitOn_ne_nil _ _)
      | cons line later => simp [feed]

/-- The lines of a text that ends in a line feed are its pieces. -/
theorem lines_append (text rest : String) :
    lines (text ++ "\n" ++ rest) = pieces text ++ lines rest := by
  -- The line feed after the text ends its last piece.
  have chars : (text ++ "\n" ++ rest).toList = text.toList ++ '\n' :: rest.toList := by simp
  rw [lines, chars, lineChars_append, List.map_append, pieces, lines]

/-- Characters are split as they make lines, but for an empty part after a last line feed. -/
theorem splitOn_eq_lineChars (chars : List Char) :
    chars.splitOn '\n' = lineChars chars ∨ chars.splitOn '\n' = lineChars chars ++ [[]] := by
  -- Only a text that has come to its end right after a line feed has one piece more.
  induction chars with
  | nil => simp [lineChars]
  | cons char chars ih =>
    rw [List.splitOn_cons_eq_if_modifyHead, lineChars]
    by_cases feed : char = '\n'
    · -- A line feed puts an empty piece and an empty line first.
      simpa [feed] using ih
    · cases split : lineChars chars with
      | nil =>
        have only : chars.splitOn '\n' = [[]] := by
          simpa [split, List.splitOn_ne_nil] using ih
        simp [feed, only]
      | cons line later =>
        rw [split] at ih
        -- The character joins the first piece and the first line.
        rcases ih with same | more
        · simp [feed, same]
        · simp [feed, more]

/-- A text has the same pieces and lines, but for an empty piece after a last line feed. -/
theorem pieces_eq_lines (text : String) :
    pieces text = lines text ∨ pieces text = lines text ++ [""] := by
  -- The same is known of the characters.
  rcases splitOn_eq_lineChars text.toList with same | more
  · left
    rw [lines, pieces, same]
  · right
    simp [lines, pieces, more]

/-- A line that is not empty is one of the lines of a text if it is one of its pieces. -/
theorem mem_lines_iff {text line : String} (filled : line ≠ "") :
    line ∈ lines text ↔ line ∈ pieces text := by
  -- The piece that a text may have and its lines have not is empty.
  rcases pieces_eq_lines text with same | more
  · rw [same]
  · simp [more, filled]

/-- A text is its pieces joined by line feeds. -/
theorem intercalate_pieces (text : String) : "\n".intercalate (pieces text) = text := by
  -- The same is known of lists of characters.
  apply String.toList_inj.mp
  have strings : (pieces text).map String.toList = text.toList.splitOn '\n' := by
    simp [pieces, Function.comp_def]
  rw [String.toList_intercalate, strings]
  exact List.intercalate_splitOn '\n'

/-- Lines joined by line feeds are the pieces of what they make. -/
theorem pieces_intercalate {texts : List String} (some : texts ≠ [])
    (whole : ∀ line ∈ texts, '\n' ∉ line.toList) : pieces ("\n".intercalate texts) = texts := by
  -- No line is cut, since none has a line feed in it.
  have chars : ("\n".intercalate texts).toList = ['\n'].intercalate (texts.map String.toList) :=
    String.toList_intercalate
  rw [pieces, chars, List.splitOn_intercalate '\n' (by simpa using whole) (by simpa using some)]
  simp [Function.comp_def]

/-- A text without line feeds is the only piece of itself. -/
theorem pieces_line {line : String} (whole : '\n' ∉ line.toList) : pieces line = [line] := by
  -- A line on its own is what joining it makes.
  have joined : pieces ("\n".intercalate [line]) = [line] :=
    pieces_intercalate (by simp) (by simpa using whole)
  simpa using joined

/-- A text without line feeds is a line of its own. -/
theorem lines_line {line : String} (whole : '\n' ∉ line.toList) (rest : String) :
    lines (line ++ "\n" ++ rest) = line :: lines rest := by
  -- The line feed ends the one piece that comes before it.
  rw [lines_append, pieces_line whole, List.singleton_append]

/-- A text without line feeds is its only line, unless it is empty. -/
theorem lines_of_notMem {line : String} (whole : '\n' ∉ line.toList) (filled : line ≠ "") :
    lines line = [line] := by
  -- Nothing but an empty piece could be missing from the lines.
  rcases pieces_eq_lines line with same | more
  · rw [← same, pieces_line whole]
  · rw [pieces_line whole] at more
    cases none : lines line with
    | nil => simp [none, filled] at more
    | cons first later => simp [none] at more

/-- The characters of joined lines are those of the lines and the line feeds between them. -/
theorem mem_intercalate {texts : List String} {char : Char}
    (member : char ∈ ("\n".intercalate texts).toList) :
    char = '\n' ∨ ∃ line ∈ texts, char ∈ line.toList := by
  -- The first line and a line feed go before what the others make.
  induction texts with
  | nil => simp at member
  | cons line rest ih =>
    cases rest with
    | nil => exact Or.inr ⟨line, by simp, by simpa using member⟩
    | cons next rest =>
      rw [String.intercalate_cons_cons] at member
      simp only [String.toList_append, List.mem_append] at member
      rcases member with (first | feed) | later
      · exact Or.inr ⟨line, by simp, first⟩
      · exact Or.inl (by simpa using feed)
      · rcases ih later with feed | ⟨other, among, inside⟩
        · exact Or.inl feed
        · exact Or.inr ⟨other, List.mem_cons_of_mem _ among, inside⟩

/-- A line is made of the characters that are split into lines, and has no line feed among them. -/
theorem mem_of_mem_lineChars {chars line : List Char} (member : line ∈ lineChars chars)
    {char : Char} (inside : char ∈ line) : char ∈ chars ∧ char ≠ '\n' := by
  -- Only a character that is no line feed is put into the first line.
  induction chars generalizing line with
  | nil => simp [lineChars] at member
  | cons first chars ih =>
    rw [lineChars] at member
    by_cases feed : first = '\n'
    · -- A line feed puts an empty line before the others.
      rcases List.mem_cons.mp (by simpa [feed] using member) with rfl | later
      · simp at inside
      · have := ih later inside
        exact ⟨List.mem_cons_of_mem _ this.1, this.2⟩
    · cases split : lineChars chars with
      | nil =>
        have only : line = [first] := by simpa [feed, split] using member
        have same : char = first := by simpa [only] using inside
        simp [same, feed]
      | cons head later =>
        -- The line in question is the one that grows, or one of the later ones.
        rcases List.mem_cons.mp (by simpa [feed, split] using member) with rfl | tail
        · rcases List.mem_cons.mp inside with rfl | old
          · simp [feed]
          · have := ih (by simp [split]) old
            exact ⟨List.mem_cons_of_mem _ this.1, this.2⟩
        · have := ih (by simp [split, tail]) inside
          exact ⟨List.mem_cons_of_mem _ this.1, this.2⟩

/-- The characters of a line are those of its text, and none of them is a line feed. -/
theorem mem_of_mem_lines {text line : String} (member : line ∈ lines text) {char : Char}
    (inside : char ∈ line.toList) : char ∈ text.toList ∧ char ≠ '\n' := by
  -- The line was made from the characters of one of the lists.
  obtain ⟨chars, within, rfl⟩ := List.mem_map.mp member
  exact mem_of_mem_lineChars within (by simpa using inside)

/-- There is one piece more than there are line feeds. -/
theorem length_pieces (text : String) :
    (pieces text).length = 1 + text.toList.count '\n' := by
  -- Each line feed ends the piece before it and starts another.
  rw [pieces, List.length_map]
  induction text.toList with
  | nil => simp
  | cons char chars ih =>
    rw [List.splitOn_cons_eq_if_modifyHead, List.count_cons]
    by_cases feed : char = '\n'
    · simp [feed, ih]
      omega
    · simp [feed, ih]

end Phrasebook
