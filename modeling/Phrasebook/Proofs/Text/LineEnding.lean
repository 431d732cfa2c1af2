import Mathlib.Data.List.Chain
import Phrasebook.LanguageMap.Reader
import Phrasebook.Proofs.Text.Interplay
import Phrasebook.Proofs.Text.Newline

/-! Line endings of every kind: how they become line feeds, and the lines that they end. -/

namespace Phrasebook

/-- Makes every line ending a line feed in one pass, where a pair counts as one ending. -/
def unifyEndings : List Char → List Char
  | [] => []
  -- A pair is one ending, so it is looked for before a carriage return alone.
  | '\r' :: '\n' :: rest => '\n' :: unifyEndings rest
  | '\r' :: rest => '\n' :: unifyEndings rest
  | char :: rest => char :: unifyEndings rest

/-- A carriage return that no line feed follows becomes a line feed on its own. -/
theorem unifyEndings_return {rest : List Char} (alone : rest.head? ≠ some '\n') :
    unifyEndings ('\r' :: rest) = '\n' :: unifyEndings rest := by
  -- What follows is another character, or nothing at all.
  cases rest with
  | nil => rfl
  | cons char rest =>
    have other : char ≠ '\n' := by simpa using alone
    simp [unifyEndings, other]

/-- Any other character is copied. -/
theorem unifyEndings_cons {char : Char} (other : char ≠ '\r') (rest : List Char) :
    unifyEndings (char :: rest) = char :: unifyEndings rest := by
  simp [unifyEndings, other]

/-- Pairs replaced first and single carriage returns after them come to the same as one pass. -/
theorem map_replaceFrom_pair (chars : List Char) :
    (replaceFrom ['\r', '\n'] ['\n'] 0 chars).map (fun char => if char = '\r' then '\n' else char) =
      unifyEndings chars := by
  -- The cases are those of the single pass.
  fun_induction unifyEndings chars with
  | case1 => rfl
  | case2 rest ih => simp [replaceFrom, ih]
  | case3 rest alone ih =>
    have elsewhere : ¬ ['\r', '\n'] <+: '\r' :: rest := by
      intro starts
      obtain ⟨later, same⟩ := starts
      exact alone later (by simpa using same.symm)
    -- The return was left by the pairs, and is replaced on its own.
    rw [replaceFrom_cons elsewhere, List.map_cons, ih, if_pos rfl]
  | case4 char rest _ other ih =>
    have elsewhere : ¬ ['\r', '\n'] <+: char :: rest :=
      fun starts => other (List.cons_prefix_cons.mp starts).1.symm
    -- Any other character goes through both replacements as it is.
    rw [replaceFrom_cons elsewhere, List.map_cons, ih, if_neg other]

/-- To normalize the line endings of a text is to pass over it once. -/
theorem toList_normalizeNewlines (text : String) :
    (normalizeNewlines text).toList = unifyEndings text.toList := by
  -- The two replacements are made of the characters one after the other.
  rw [toList_normalizeNewlines_eq_map, ← map_replaceFrom_pair, replaceAll, String.toList_ofList]
  rfl

/-- Two parts of a text are normalized apart unless a pair stands across their border. -/
theorem unifyEndings_append {first second : List Char}
    (apart : first.getLast? = some '\r' → second.head? ≠ some '\n') :
    unifyEndings (first ++ second) = unifyEndings first ++ unifyEndings second := by
  -- The cases are those of the pass over the first part, which looks one character ahead.
  fun_induction unifyEndings first with
  | case1 => rfl
  | case2 rest ih =>
    have onward := ih fun last => apart (by simp [List.getLast?_cons, last])
    simp [unifyEndings, onward]
  | case3 rest alone ih =>
    have onward := ih fun last => apart (by simp [List.getLast?_cons, last])
    -- The return is the last of the first part, or is followed by what followed it there.
    have follows : (rest ++ second).head? ≠ some '\n' := by
      cases rest with
      | nil => exact apart rfl
      | cons char rest =>
        intro feed
        exact alone rest (by simpa using feed)
    rw [List.cons_append, unifyEndings_return follows, onward, List.cons_append]
  | case4 char rest _ other ih =>
    have onward := ih fun last => apart (by simp [List.getLast?_cons, last])
    rw [List.cons_append, unifyEndings_cons other, onward, List.cons_append]

/-- Two texts are normalized apart unless a pair stands across their border. -/
theorem normalizeNewlines_append {first second : String}
    (apart : first.toList.getLast? = some '\r' → second.toList.head? ≠ some '\n') :
    normalizeNewlines (first ++ second) = normalizeNewlines first ++ normalizeNewlines second := by
  -- The characters are those of one pass over both texts.
  apply String.toList_inj.mp
  simp only [toList_normalizeNewlines, String.toList_append, unifyEndings_append apart]

/-- The ways in which a line can end. -/
inductive LineEnding where
  | lineFeed
  | pair
  | carriageReturn
  deriving DecidableEq, Repr

/-- A line ending as it stands in a text. -/
def LineEnding.text : LineEnding → String
  | .lineFeed => "\n"
  | .pair => "\r\n"
  | .carriageReturn => "\r"

/-- A line with its ending. -/
structure EndedLine where
  line : String
  ending : LineEnding
  deriving DecidableEq, Repr

namespace EndedLine

/-- A line and its ending as they stand in a text. -/
def text (ended : EndedLine) : String :=
  ended.line ++ ended.ending.text

/-- No line ending stands within the line. -/
def IsWhole (ended : EndedLine) : Prop :=
  '\n' ∉ ended.line.toList ∧ '\r' ∉ ended.line.toList

/-- The endings of a line and of a blank line after it read as one. -/
def Merges (first second : EndedLine) : Prop :=
  first.ending = .carriageReturn ∧ second = ⟨"", .lineFeed⟩

end EndedLine

/-- The text of lines that each have their ending. -/
def endedText (lines : List EndedLine) : String :=
  String.join (lines.map EndedLine.text)

/-- A text that starts with a line feed starts with a blank line that is ended by it. -/
theorem EndedLine.eq_of_head? {ended : EndedLine} (whole : ended.IsWhole) {rest : String}
    (starts : (ended.text ++ rest).toList.head? = some '\n') : ended = ⟨"", .lineFeed⟩ := by
  -- The text starts with the first character of the line, or with the ending of a blank one.
  obtain ⟨line, ending⟩ := ended
  cases chars : line.toList with
  | nil =>
    -- What starts the text is then the ending.
    rw [String.toList_eq_nil_iff.mp chars] at starts ⊢
    cases ending with
    | lineFeed => rfl
    | pair => simp [text, LineEnding.text] at starts
    | carriageReturn => simp [text, LineEnding.text] at starts
  | cons char more =>
    -- A line has no line feed in it.
    have feed : char = '\n' := by simpa [text, chars] using starts
    exact absurd (by simp [chars, feed]) whole.1

/-- Every ending reads as a line feed, if no line feed follows a carriage return. -/
theorem normalizeNewlines_ending_append (ending : LineEnding) {rest : String}
    (apart : ending = .carriageReturn → rest.toList.head? ≠ some '\n') :
    normalizeNewlines (ending.text ++ rest) = "\n" ++ normalizeNewlines rest := by
  -- No pair stands across the border, so the ending is normalized on its own.
  have border : ending.text.toList.getLast? = some '\r' → rest.toList.head? ≠ some '\n' := by
    cases ending with
    | lineFeed => simp [LineEnding.text]
    | pair => simp [LineEnding.text]
    | carriageReturn => exact fun _ => apart rfl
  have feed : normalizeNewlines ending.text = "\n" := by
    cases ending <;> decide +kernel
  rw [normalizeNewlines_append border, feed]

/-- An ending ends the last piece of the text before it, and what follows has lines of its own. -/
theorem lines_normalizeNewlines_ending {before rest : String} (ending : LineEnding)
    (border : before.toList.getLast? = some '\r' → ending ≠ .lineFeed)
    (apart : ending = .carriageReturn → rest.toList.head? ≠ some '\n') :
    lines (normalizeNewlines (before ++ ending.text ++ rest)) =
      pieces (normalizeNewlines before) ++ lines (normalizeNewlines rest) := by
  -- Only a line feed could belong to a carriage return before it.
  have follows : before.toList.getLast? = some '\r' →
      (ending.text ++ rest).toList.head? ≠ some '\n' := by
    intro returned
    cases ending with
    | lineFeed => exact absurd rfl (border returned)
    | pair => simp [LineEnding.text]
    | carriageReturn => simp [LineEnding.text]
  rw [String.append_assoc, normalizeNewlines_append follows,
    normalizeNewlines_ending_append ending apart, ← String.append_assoc, lines_append]

/-- Ended lines are the lines of their text, whatever comes after it and does not merge with it. -/
theorem lines_endedText_append {ended : List EndedLine}
    (whole : ∀ line ∈ ended, line.IsWhole)
    (apart : ended.IsChain fun first second => ¬ first.Merges second) {rest : String}
    (border : rest.toList.head? ≠ some '\n') :
    lines (normalizeNewlines (endedText ended ++ rest)) =
      ended.map EndedLine.line ++ lines (normalizeNewlines rest) := by
  -- The induction takes off one line after another, each with its ending.
  induction ended with
  | nil => simp [endedText]
  | cons first later ih =>
    have firstWhole : first.IsWhole := whole first (by simp)
    have onward := ih (fun line member => whole line (List.mem_cons_of_mem _ member)) apart.tail
    -- The next line does not start with a line feed that this ending would take for its own.
    have follows : first.ending = .carriageReturn →
        (endedText later ++ rest).toList.head? ≠ some '\n' := by
      intro returned
      cases later with
      | nil => simpa [endedText] using border
      | cons second later =>
        intro starts
        have onNext : (second.text ++ (endedText later ++ rest)).toList.head? = some '\n' := by
          simpa [endedText, String.append_assoc] using starts
        have blank := EndedLine.eq_of_head? (whole second (by simp)) onNext
        exact (List.isChain_cons_cons.mp apart).1 ⟨returned, blank⟩
    -- The text is the first line, its ending, and the text of what comes after.
    have parts : endedText (first :: later) ++ rest =
        first.line ++ first.ending.text ++ (endedText later ++ rest) := by
      simp [endedText, EndedLine.text, String.append_assoc]
    -- The line has no carriage return in it, so its last character is none.
    have unreturned : first.line.toList.getLast? = some '\r' → first.ending ≠ .lineFeed :=
      fun last => absurd (List.mem_of_getLast? last) firstWhole.2
    rw [parts, lines_normalizeNewlines_ending first.ending unreturned follows,
      normalizeNewlines_of_notMem firstWhole.2, pieces_line firstWhole.1, onward]
    rfl

/--
Whichever way its lines end, a text is read as the same lines.

All line endings are made line feeds in one pass, which leaves no carriage return and has nothing
left to do afterwards. Lines that each have some ending are therefore the lines that are read, as
long as no carriage return stands right before the line feed of a blank line. The ending of a last
line that is not blank can as well be missing.
-/
theorem line_endings_read_alike :
    (∀ text,
      normalizeNewlines text = String.ofList (unifyEndings text.toList) ∧
      '\r' ∉ (normalizeNewlines text).toList ∧
      normalizeNewlines (normalizeNewlines text) = normalizeNewlines text) ∧
    ∀ ended : List EndedLine, (∀ line ∈ ended, line.IsWhole) →
      ended.IsChain (fun first second => ¬ first.Merges second) →
      LanguageMap.ofText (endedText ended) = .ofLines (ended.map EndedLine.line) ∧
      ∀ before last, ended = before ++ [last] → last.line ≠ "" →
        LanguageMap.ofText (endedText before ++ last.line) =
          .ofLines (ended.map EndedLine.line) := by
  -- The single pass is told of any text, and the lines of those made of ended lines.
  refine ⟨?_, ?_⟩
  · intro text
    -- A second pass finds no carriage return any more.
    have unreturned := return_notMem_normalizeNewlines text
    refine ⟨?_, unreturned, normalizeNewlines_of_notMem unreturned⟩
    rw [← toList_normalizeNewlines, String.ofList_toList]
  · intro ended whole apart
    refine ⟨?_, ?_⟩
    · -- Nothing comes after the last ending.
      have border : "".toList.head? ≠ some '\n' := by simp
      have none : lines (normalizeNewlines "") = [] := by decide +kernel
      have all := lines_endedText_append whole apart border
      rw [String.append_empty, none, List.append_nil] at all
      rw [LanguageMap.ofText, all]
    · intro before last parts filled
      -- The lines before the last one have their endings, and the last one is what comes after
      -- them.
      subst parts
      have lastWhole : last.IsWhole := whole last (by simp)
      have beforeApart := apart.left_of_append
      -- The last line starts with a character of its own.
      have border : last.line.toList.head? ≠ some '\n' :=
        fun starts => lastWhole.1 (List.mem_of_head? starts)
      have all := lines_endedText_append
        (fun line member => whole line (List.mem_append_left _ member)) beforeApart border
      rw [normalizeNewlines_of_notMem lastWhole.2, lines_of_notMem lastWhole.1 filled] at all
      rw [LanguageMap.ofText, all, List.map_append, List.map_singleton]

/-- All three endings in one text, also two of them in a row, and a last line without one. -/
theorem mixed_endings_read_alike :
    let ended : List EndedLine := [
      ⟨"'''", .carriageReturn⟩, ⟨"", .pair⟩, ⟨"key", .carriageReturn⟩, ⟨"", .carriageReturn⟩,
      ⟨"'''", .pair⟩, ⟨"", .lineFeed⟩, ⟨"message", .lineFeed⟩, ⟨"'''", .carriageReturn⟩]
    (∀ line ∈ ended, line.IsWhole) ∧
      ended.IsChain (fun first second => ¬ first.Merges second) ∧
      LanguageMap.ofText "'''\r\r\nkey\r\r'''\r\n\nmessage\n'''\r" =
        ⟨[⟨"key\n", "message", 8⟩], []⟩ ∧
      LanguageMap.ofText "'''\r\r\nkey\r\r'''\r\n\nmessage\n'''" =
        ⟨[⟨"key\n", "message", 8⟩], []⟩ := by
  -- The lines are told apart by hand, and the two texts are read as they are.
  intro ended
  have whole : ∀ line ∈ ended, line.IsWhole := by simp [ended, EndedLine.IsWhole]
  have apart : ended.IsChain (fun first second => ¬ first.Merges second) := by
    simp [ended, EndedLine.Merges]
  have read : LanguageMap.ofLines (ended.map EndedLine.line) =
      ⟨[⟨"key\n", "message", 8⟩], []⟩ := by decide +kernel
  obtain ⟨all, unended⟩ := line_endings_read_alike.2 ended whole apart
  refine ⟨whole, apart, ?_, ?_⟩
  · -- Every line has its ending.
    rw [← read, ← all]
    rfl
  · -- The ending of the last line is missing.
    have last := unended ended.dropLast ⟨"'''", .carriageReturn⟩ rfl (by decide)
    rw [← read, ← last]
    rfl

-- A carriage return and the line feed of a blank line would be taken for a pair.
example : lines (normalizeNewlines (endedText [⟨"key", .carriageReturn⟩, ⟨"", .lineFeed⟩])) =
    ["key"] := by decide +kernel

end Phrasebook
