import Phrasebook.LanguageMap.Writer
import Phrasebook.Proofs.LanguageMap.Reading
import Phrasebook.Proofs.Text.Newline

/-! The texts that a reader makes of lines are those that a writer accepts. -/

namespace Phrasebook

/-- A text that is read back from the lines on which it is written. -/
structure Representable (text : String) : Prop where
  /-- Blank lines at the start would be left out. -/
  noBlankStart : text.toList.head? ≠ some '\n'
  /-- A delimiter would end the text. -/
  noDelimiter : delimiter ∉ pieces text
  /-- A carriage return would be read as a line feed. -/
  noReturn : '\r' ∉ text.toList

/-- A writer looks for a blank line at the start, then for a delimiter, then for a return. -/
theorem defect?_eq_ite (text : String) :
    defect? text =
      if text.toList.head? = some '\n' then some .leadingBlankLine
      else if delimiter ∈ pieces text then some .delimiterLine
      else if '\r' ∈ text.toList then some .carriageReturn
      else none := by
  -- A delimiter is not empty, so it is one of the lines if it is one of the pieces.
  have filled : delimiter ≠ "" := by decide
  simp only [defect?, beq_iff_eq, List.contains_iff_mem, mem_lines_iff filled]

/-- A writer finds no defect in a text exactly if it can be read back. -/
theorem defect?_eq_none_iff (text : String) : defect? text = none ↔ Representable text := by
  -- The three checks are the three fields.
  rw [defect?_eq_ite]
  constructor
  · intro sound
    split_ifs at sound with blank delimited returned
    exact ⟨blank, delimited, returned⟩
  · intro sound
    rw [if_neg sound.noBlankStart, if_neg sound.noDelimiter, if_neg sound.noReturn]

/-- Lines that are neither delimiters nor broken make a text that can be read back. -/
theorem representable_textOfLines {part : List String}
    (clean : ∀ line ∈ part, line ≠ delimiter ∧ '\n' ∉ line.toList ∧ '\r' ∉ line.toList) :
    Representable (textOfLines part) := by
  -- Only the lines from the first filled one on are kept.
  unfold textOfLines
  have kept : ∀ line ∈ part.dropWhile String.isEmpty,
      line ≠ delimiter ∧ '\n' ∉ line.toList ∧ '\r' ∉ line.toList :=
    fun line member => clean line (List.dropWhile_sublist _ |>.subset member)
  have filled := List.head?_dropWhile_not String.isEmpty part
  generalize part.dropWhile String.isEmpty = rest at kept filled
  cases rest with
  | nil => exact ⟨by simp, by simp [pieces, delimiter], by simp⟩
  | cons first rest =>
    have firstKept := kept first (by simp)
    refine ⟨?_, ?_, ?_⟩
    · -- The first line is filled and has no line feed in it.
      intro blank
      obtain ⟨more, starts⟩ := List.head?_eq_some_iff.mp blank
      cases chars : first.toList with
      | nil => simp [String.toList_eq_nil_iff.mp chars] at filled
      | cons head tail =>
        have feed : head = '\n' := by
          cases rest <;> simp_all
        exact firstKept.2.1 (by simp [chars, feed])
    · -- The pieces of the text are the lines that were joined.
      rw [pieces_intercalate (by simp) fun line member => (kept line member).2.1]
      exact fun member => (kept _ member).1 rfl
    · -- A carriage return would stand in one of the lines.
      intro member
      rcases mem_intercalate member with feed | ⟨line, among, inside⟩
      · exact absurd feed (by decide)
      · exact (kept line among).2.2 inside

/-- Whatever text a record is read from, both of its own texts can be written. -/
theorem representable_of_mem_ofText {text : String} {record : Record}
    (member : record ∈ (LanguageMap.ofText text).records) :
    record.AllTexts Representable := by
  -- The lines of a normalized text have no line endings in them.
  have clean : ∀ line ∈ lines (normalizeNewlines text),
      '\n' ∉ line.toList ∧ '\r' ∉ line.toList := by
    intro line among
    refine ⟨fun inside => (mem_of_mem_lines among inside).2 rfl, ?_⟩
    exact fun inside => return_notMem_normalizeNewlines text (mem_of_mem_lines among inside).1
  -- A text of a record is made of such lines, without the delimiters.
  have whole : ∀ own, MadeFrom (lines (normalizeNewlines text)) own → Representable own := by
    intro own made
    obtain ⟨part, among, rfl⟩ := made
    apply representable_textOfLines
    intro line inside
    exact ⟨(among line inside).2, clean line (among line inside).1⟩
  have texts := madeFrom_of_mem_ofLines member
  exact ⟨whole _ texts.1, whole _ texts.2⟩

end Phrasebook
