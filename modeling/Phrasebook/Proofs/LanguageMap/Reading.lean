import Mathlib.Data.List.Induction
import Phrasebook.LanguageMap.Reader

/-! Reading lines in pieces: where a reader comes to stand, and what it has settled by then. -/

namespace Phrasebook

/-- The text that the lines of a record make: blank lines at the start are left out. -/
def textOfLines (lines : List String) : String :=
  "\n".intercalate (lines.dropWhile String.isEmpty)

/-- Without lines there is no text. -/
@[simp] theorem textOfLines_nil : textOfLines [] = "" := by
  simp [textOfLines]

/-- Lines with text in them do not make the empty text. -/
theorem intercalate_ne_empty {line : String} (rest : List String) (filled : line ≠ "") :
    "\n".intercalate (line :: rest) ≠ "" := by
  -- The first line is written in full before any line feed.
  cases rest with
  | nil => simpa using filled
  | cons next rest => simp [String.intercalate_cons_cons, filled]

/-- The text of one more line is what a reader makes of it. -/
theorem textOfLines_concat (lines : List String) (line : String) :
    textOfLines (lines ++ [line]) = joinLine (textOfLines lines) line := by
  -- Either all lines so far are blank, or the first of the others starts the text.
  unfold textOfLines joinLine
  cases kept : lines.dropWhile String.isEmpty with
  | nil =>
    by_cases blank : line = ""
    · simp [List.dropWhile_append, kept, blank]
    · simp [List.dropWhile_append, kept, blank]
  | cons first rest =>
    -- The first line that is kept is not blank, so the text has been started.
    have filled : first ≠ "" := by
      have := List.head?_dropWhile_not String.isEmpty lines
      simpa [kept] using this
    have started : ("\n".intercalate (first :: rest)).isEmpty = false := by
      simpa using intercalate_ne_empty rest filled
    rw [List.dropWhile_append, kept]
    simp only [List.isEmpty_cons, Bool.false_eq_true, if_false, started]
    rw [String.intercalate_append_of_ne_nil (by simp) (by simp), String.intercalate_singleton]

/-- A reader that joins lines one at a time ends with the text that they make. -/
theorem foldl_joinLine (lines : List String) : lines.foldl joinLine "" = textOfLines lines := by
  -- Each step adds one line at the end.
  induction lines using List.reverseRecOn with
  | nil => simp
  | append_singleton lines line ih => rw [List.foldl_append, ih, textOfLines_concat]; rfl

namespace ReaderPosition

/-- Where a reader stands after some lines, and what they have settled by then. -/
def readAll (position : ReaderPosition) (number : Nat) :
    List String → ReaderPosition × List Finding
  | [] => (position, [])
  | line :: rest =>
    let (next, settled) := position.read number line
    let (last, later) := next.readAll (number + 1) rest
    -- Unlike at the end of a file, a record that is open stays open.
    (last, settled ++ later)

/-- What lines settle is settled either by the time they are read or by their end. -/
theorem findings_eq_readAll (position : ReaderPosition) (number : Nat) (lines : List String) :
    position.findings number lines =
      (position.readAll number lines).2 ++ (position.readAll number lines).1.finish := by
  -- The findings of the first line go before those of the rest on either side.
  induction lines generalizing position number with
  | nil => rfl
  | cons line rest ih => simp [findings, readAll, ih]

/-- Reading goes on from where the lines before it left the reader. -/
theorem readAll_append (position : ReaderPosition) (number : Nat) (first second : List String) :
    position.readAll number (first ++ second) =
      let (middle, settled) := position.readAll number first
      let (last, later) := middle.readAll (number + first.length) second
      (last, settled ++ later) := by
  -- The induction is on the first lines, whose count moves on the number of the next.
  induction first generalizing position number with
  | nil => simp [readAll]
  | cons line rest ih =>
    have moved : number + 1 + rest.length = number + (rest.length + 1) := by omega
    simp [readAll, ih, moved]

/-- The last of some lines is read from where the others left the reader. -/
theorem readAll_concat (position : ReaderPosition) (number : Nat) (lines : List String)
    (line : String) :
    position.readAll number (lines ++ [line]) =
      let (middle, settled) := position.readAll number lines
      let (last, later) := middle.read (number + lines.length) line
      (last, settled ++ later) := by
  -- A single line is read in one step.
  simp [readAll_append, readAll]

end ReaderPosition

/-- The record on a line with another number. -/
def Record.renumber (change : Nat → Nat) (record : Record) : Record :=
  { record with line := change record.line }

/-- The diagnostic of a line with another number. -/
def Diagnostic.renumber (change : Nat → Nat) : Diagnostic → Diagnostic
  | .syntaxError line => .syntaxError (change line)
  | .unclosedRecord line => .unclosedRecord (change line)

/-- The finding on a line with another number. -/
def Finding.renumber (change : Nat → Nat) : Finding → Finding
  | .record complete => .record (complete.renumber change)
  | .diagnostic amiss => .diagnostic (amiss.renumber change)

/-- The position of a reader that counts the lines in another way. -/
def ReaderPosition.renumber (change : Nat → Nat) : ReaderPosition → ReaderPosition
  | .outside => .outside
  | .inKey openedAt key => .inKey (change openedAt) key
  | .inMessage openedAt key message => .inMessage (change openedAt) key message

/-- Line numbers pass through a reader without a part in what it does. -/
theorem ReaderPosition.read_renumber (position : ReaderPosition) (number : Nat) (line : String)
    (change : Nat → Nat) :
    (position.renumber change).read (change number) line =
      ((position.read number line).1.renumber change,
        (position.read number line).2.map (Finding.renumber change)) := by
  -- Every rule of the reader looks at the line alone.
  cases position with
  -- The number of the line is told, but nothing is decided by it.
  | outside =>
    simp only [renumber, read]
    split
    · rfl
    · split <;> rfl
  | inKey openedAt key =>
    simp only [renumber, read]
    split <;> rfl
  | inMessage openedAt key message =>
    simp only [renumber, read]
    split <;> rfl

/-- Both texts of a record have a property. -/
def Record.AllTexts (holds : String → Prop) (record : Record) : Prop :=
  holds record.key ∧ holds record.message

namespace ReaderPosition

/-- The texts that a reader has of an open record have a property. -/
def AllTexts (holds : String → Prop) : ReaderPosition → Prop
  | .outside => True
  | .inKey _ key => holds key
  | .inMessage _ key message => holds key ∧ holds message

variable {holds : String → Prop} {allowed : String → Prop}

/-- A property of the empty text that joining a line keeps is kept by reading that line. -/
theorem read_allTexts (empty : holds "")
    (joins : ∀ text line, holds text → allowed line → line ≠ delimiter →
      holds (joinLine text line))
    {position : ReaderPosition} (all : position.AllTexts holds) (number : Nat) {line : String}
    (allow : allowed line) :
    (position.read number line).1.AllTexts holds ∧
      ∀ record, .record record ∈ (position.read number line).2 → record.AllTexts holds := by
  -- A delimiter hands the texts on as they are, and any other line joins one of them.
  cases position with
  | outside =>
    simp only [read]
    split
    · -- The delimiter opens a record with an empty key.
      exact ⟨empty, by simp⟩
    · split
      · exact ⟨trivial, by simp⟩
      · exact ⟨trivial, by simp⟩
  | inKey openedAt key =>
    simp only [read]
    split
    · -- The delimiter closes the key, and the message is empty so far.
      exact ⟨⟨all, empty⟩, by simp⟩
    · exact ⟨joins key line all allow ‹_›, by simp⟩
  | inMessage openedAt key message =>
    simp only [read]
    split
    · refine ⟨trivial, ?_⟩
      intro record settled
      -- The record that is settled has the texts that were open.
      cases List.mem_singleton.mp settled
      exact all
    · exact ⟨⟨all.1, joins message line all.2 allow ‹_›⟩, by simp⟩

/-- Such a property holds of all records that are settled while reading. -/
theorem readAll_allTexts (empty : holds "")
    (joins : ∀ text line, holds text → allowed line → line ≠ delimiter →
      holds (joinLine text line))
    (lines : List String) (allow : ∀ line ∈ lines, allowed line)
    {position : ReaderPosition} (all : position.AllTexts holds) (number : Nat) :
    (position.readAll number lines).1.AllTexts holds ∧
      ∀ record, .record record ∈ (position.readAll number lines).2 → record.AllTexts holds := by
  -- The induction is on the lines still to be read.
  induction lines generalizing position number with
  | nil => exact ⟨all, by simp [readAll]⟩
  | cons line rest ih =>
    obtain ⟨next, first⟩ := read_allTexts empty joins all number (allow line (by simp))
    obtain ⟨last, later⟩ := ih (fun other among => allow other (by simp [among])) next (number + 1)
    refine ⟨last, ?_⟩
    intro record settled
    -- A record is settled by the first line or by one of the others.
    rcases List.mem_append.mp settled with now | afterwards
    · exact first record now
    · exact later record afterwards

end ReaderPosition

/-- A record of some lines has been settled while they were read. -/
theorem mem_records_ofLines {lines : List String} {record : Record} :
    record ∈ (LanguageMap.ofLines lines).records ↔
      .record record ∈ (ReaderPosition.outside.readAll 1 lines).2 := by
  -- The end of the lines settles no record.
  have none : ∀ position : ReaderPosition, .record record ∉ position.finish := by
    intro position
    cases position <;> simp [ReaderPosition.finish]
  -- A finding is a record or none.
  have own : ∀ finding : Finding, finding.record? = some record ↔ finding = .record record := by
    intro finding
    cases finding <;> simp [Finding.record?]
  simp [LanguageMap.ofLines, LanguageMap.ofFindings, ReaderPosition.findings_eq_readAll, own, none]

/-- A text that is made of some of the given lines, of which none is a delimiter. -/
def MadeFrom (lines : List String) (text : String) : Prop :=
  ∃ part, (∀ line ∈ part, line ∈ lines ∧ line ≠ delimiter) ∧ text = textOfLines part

/-- A text that is joined with one more of the lines is still made of them. -/
theorem MadeFrom.joinLine {lines : List String} {text line : String} (made : MadeFrom lines text)
    (among : line ∈ lines) (other : line ≠ delimiter) :
    MadeFrom lines (joinLine text line) := by
  -- The text is made of one line more, which is one of those that may be used.
  obtain ⟨part, inside, rfl⟩ := made
  refine ⟨part ++ [line], ?_, (textOfLines_concat part line).symm⟩
  intro old member
  rcases List.mem_append.mp member with before | last
  · exact inside old before
  · cases List.mem_singleton.mp last
    exact ⟨among, other⟩

/-- The texts of a record are made of the lines that it is read from. -/
theorem madeFrom_of_mem_ofLines {lines : List String} {record : Record}
    (member : record ∈ (LanguageMap.ofLines lines).records) :
    record.AllTexts (MadeFrom lines) := by
  -- Every text starts out empty and is joined with one line at a time.
  have empty : MadeFrom lines "" := ⟨[], by simp⟩
  have start : ReaderPosition.outside.AllTexts (MadeFrom lines) := trivial
  -- What joining keeps is kept while all lines are read.
  have settled := ReaderPosition.readAll_allTexts empty (fun _ _ made => made.joinLine) lines
    (fun _ among => among) start 1
  exact settled.2 record (mem_records_ofLines.mp member)

end Phrasebook
