import Phrasebook.Proofs.Files.Refusal
import Phrasebook.Proofs.Text.WellFormed

/-! Writing to a buffer: all records are checked first, and then it matters how much it holds. -/

namespace Phrasebook

/-- A text has the defect, which a writer may miss because it finds another one first. -/
def Defect.Spoils (text : String) : Defect → Prop
  | .leadingBlankLine => text.toList.head? = some '\n'
  | .delimiterLine => delimiter ∈ pieces text
  | .carriageReturn => '\r' ∈ text.toList

/-- Whether a defect spoils a text is seen from the text. -/
instance Defect.decidableSpoils (text : String) : ∀ defect : Defect, Decidable (defect.Spoils text)
  | .leadingBlankLine => inferInstanceAs (Decidable (text.toList.head? = some '\n'))
  | .delimiterLine => inferInstanceAs (Decidable (delimiter ∈ pieces text))
  | .carriageReturn => inferInstanceAs (Decidable ('\r' ∈ text.toList))

/-- The place of a defect in the order in which a writer looks for them. -/
def Defect.rank : Defect → Nat
  | .leadingBlankLine => 0
  | .delimiterLine => 1
  | .carriageReturn => 2

/-- The texts of a record by their names, in the order in which they are written. -/
def Record.texts (record : Record) : List (RecordPart × String) :=
  [(.key, record.key), (.message, record.message)]

/-- The texts of a language map by their names, in the order in which they are written. -/
def LanguageMap.texts (map : LanguageMap) : List (RecordPart × String) :=
  map.records.flatMap Record.texts

/-- An error names the first of some texts in which a writer finds a defect. -/
def Error.NamesFirst (error : Error) (texts : List (RecordPart × String)) : Prop :=
  ∃ before part text after defect, texts = before ++ (part, text) :: after ∧
    -- Nothing is amiss with the texts before it.
    (∀ earlier ∈ before, Representable earlier.2) ∧ defect? text = some defect ∧
    error = .unrepresentable part text defect

/-- The bytes of one record: its texts on lines of their own, and what stands around them. -/
def Record.size (record : Record) : Nat :=
  (record.key.utf8ByteSize + if record.key = "" then 0 else 1) +
    (record.message.utf8ByteSize + if record.message = "" then 0 else 1) + 13

/-- The bytes of the file that holds some records. -/
def fileSize (records : List Record) : Nat :=
  fileHeader.utf8ByteSize + (records.map Record.size).sum

/-- A text can be read back exactly if no defect spoils it. -/
theorem representable_iff_not_spoils {text : String} :
    Representable text ↔ ∀ defect : Defect, ¬ defect.Spoils text := by
  -- There is one defect for each thing that a text has to be without.
  constructor
  · intro sound defect
    cases defect with
    | leadingBlankLine => exact sound.noBlankStart
    | delimiterLine => exact sound.noDelimiter
    | carriageReturn => exact sound.noReturn
  · intro sound
    exact ⟨sound .leadingBlankLine, sound .delimiterLine, sound .carriageReturn⟩

/-- The defect that a writer finds is the first of those that spoil the text. -/
theorem spoils_of_defect? {text : String} {defect : Defect} (found : defect? text = some defect) :
    defect.Spoils text ∧ ∀ other : Defect, other.Spoils text → defect.rank ≤ other.rank := by
  -- The defects of a lower rank were looked for in vain.
  rw [defect?_eq_ite] at found
  split_ifs at found with blank delimited returned <;> cases found
  · exact ⟨blank, fun other _ => Nat.zero_le _⟩
  · -- A delimiter is told only if the text does not start with a blank line.
    refine ⟨delimited, ?_⟩
    rintro (_ | _ | _) spoiled
    · exact absurd spoiled blank
    · decide
    · decide
  · -- A carriage return is told only if both other defects are missing.
    refine ⟨returned, ?_⟩
    rintro (_ | _ | _) spoiled
    · exact absurd spoiled blank
    · exact absurd spoiled delimited
    · decide

/-- A text is refused exactly if it has a defect. -/
theorem checkRepresentable_eq_error_iff {part : RecordPart} {text : String} {error : Error} :
    checkRepresentable part text = .error error ↔
      ∃ defect, defect? text = some defect ∧ error = .unrepresentable part text defect := by
  -- The error names the part and the text that were given.
  unfold checkRepresentable
  cases defect? text <;> simp [eq_comm]

/-- A text is accepted exactly if it can be read back. -/
theorem checkRepresentable_eq_ok_iff {part : RecordPart} {text : String} :
    checkRepresentable part text = .ok () ↔ Representable text := by
  -- What has no defect is accepted.
  rw [← defect?_eq_none_iff, checkRepresentable]
  cases defect? text <;> simp

/-- A record is refused for the first of its texts that has a defect. -/
theorem Record.first_of_render_eq_error {record : Record} {error : Error}
    (refused : record.render = .error error) : error.NamesFirst record.texts := by
  -- The message is checked only after the key was accepted.
  rcases except_bind_eq_error_iff.mp refused with atKey | ⟨_, accepted, onward⟩
  · -- Nothing comes before the key.
    obtain ⟨defect, found, rfl⟩ := checkRepresentable_eq_error_iff.mp atKey
    exact ⟨[], .key, record.key, [(.message, record.message)], defect, rfl, by simp, found, rfl⟩
  rcases except_bind_eq_error_iff.mp onward with atMessage | ⟨_, _, written⟩
  · obtain ⟨defect, found, rfl⟩ := checkRepresentable_eq_error_iff.mp atMessage
    -- Only the key comes before the message.
    have sound := checkRepresentable_eq_ok_iff.mp accepted
    exact ⟨[(.key, record.key)], .message, record.message, [], defect, rfl, by simpa using sound,
      found, rfl⟩
  · -- A record whose texts were accepted is not refused.
    cases written

/-- The texts of records can be read back exactly if those of each record can. -/
theorem forall_mem_texts_iff {records : List Record} :
    (∀ named ∈ records.flatMap Record.texts, Representable named.2) ↔
      ∀ record ∈ records, record.AllTexts Representable := by
  -- A record has two texts.
  have own : ∀ record : Record,
      (∀ named ∈ record.texts, Representable named.2) ↔ record.AllTexts Representable := by
    simp [Record.texts, Record.AllTexts]
  simp only [List.forall_mem_flatMap, own]

/-- The first of some texts is the first of more of them, if those before it can be read back. -/
theorem Error.NamesFirst.append {error : Error} {texts before : List (RecordPart × String)}
    (first : error.NamesFirst texts) (sound : ∀ earlier ∈ before, Representable earlier.2)
    (after : List (RecordPart × String)) : error.NamesFirst (before ++ texts ++ after) := by
  -- The texts before the one that is told are those put before and those that were.
  obtain ⟨own, part, text, rest, defect, rfl, accepted, found, told⟩ := first
  refine ⟨before ++ own, part, text, rest ++ after, defect, by simp, ?_, found, told⟩
  exact List.forall_mem_append.mpr ⟨sound, accepted⟩

/-- A language map is refused for the first of its texts that has a defect. -/
theorem LanguageMap.first_of_render_eq_error {map : LanguageMap} {error : Error}
    (refused : map.render = .error error) : error.NamesFirst map.texts := by
  -- It is a text of the first record that is refused.
  obtain ⟨earlier, record, later, records, sound, fails⟩ :=
    (render_eq_error_iff map error).mp refused
  have first := (record.first_of_render_eq_error fails).append (forall_mem_texts_iff.mpr sound)
    (later.flatMap Record.texts)
  simpa [LanguageMap.texts, records] using first

/-- A text on lines of its own takes one more byte than the text, and an empty one none. -/
theorem utf8ByteSize_asLines (text : String) :
    (asLines text).utf8ByteSize = text.utf8ByteSize + if text = "" then 0 else 1 := by
  -- The one byte is the line feed that ends the last line.
  by_cases blank : text = ""
  · simp [asLines, blank]
  · have filled := String.isEmpty_eq_false_iff.mpr blank
    have feed : "\n".utf8ByteSize = 1 := by decide
    simp [asLines, blank, filled, String.utf8ByteSize_append, feed]

/-- A record takes the bytes of its texts and thirteen more for the lines around them. -/
theorem Record.utf8ByteSize_block (record : Record) :
    record.block.utf8ByteSize = record.size := by
  -- Three delimiters take four bytes each, and the blank line takes one.
  have line : delimiterLine.utf8ByteSize = 4 := by decide
  have feed : "\n".utf8ByteSize = 1 := by decide
  simp only [Record.block, Record.size, String.utf8ByteSize_append, utf8ByteSize_asLines, line,
    feed]
  omega

/-- A file takes the bytes of its header and of its records. -/
theorem length_encode_fileText (records : List Record) :
    (Utf8.encode (fileText records)).length = fileSize records := by
  -- The bytes of the blocks add up, so the induction is on the records.
  rw [Utf8.length_encode, fileText, String.utf8ByteSize_append, fileSize]
  congr 1
  induction records with
  | nil => rfl
  | cons record rest ih =>
    rw [List.map_cons, String.join_cons, String.utf8ByteSize_append, record.utf8ByteSize_block, ih,
      List.map_cons, List.sum_cons]

/-- A language map all of whose texts can be read back is written as far as it fits. -/
theorem LanguageMap.writeInto_of_sound {map : LanguageMap}
    (sound : ∀ named ∈ map.texts, Representable named.2) (capacity : Nat) :
    map.writeInto capacity =
      if fileSize map.records ≤ capacity then (.ok (), Utf8.encode (fileText map.records))
      else (.error (.file .outOfSpace), (Utf8.encode (fileText map.records)).take capacity) := by
  -- The texts of the map are those of its records, so that each record is accepted.
  have written := (render_eq_ok_iff map _).mpr ⟨forall_mem_texts_iff.mp sound, rfl⟩
  simp only [LanguageMap.writeInto, written, length_encode_fileText]

/--
A language map is checked as a whole before any of it is written.

If texts of records have defects, the first of these texts is told, with the first of its defects,
and the buffer stays empty, however much it could hold. The key of a record comes before its
message. If no text has a defect, the bytes of the file can be counted beforehand. All of them are
written if the buffer holds so many, and otherwise it is filled and out of space.
-/
theorem LanguageMap.writeInto_checks_before_writing (map : LanguageMap) :
    ((∃ named ∈ map.texts, ∃ defect : Defect, defect.Spoils named.2) →
      ∃ before part text after defect, map.texts = before ++ (part, text) :: after ∧
        (∀ earlier ∈ before, ∀ other : Defect, ¬ other.Spoils earlier.2) ∧
        defect.Spoils text ∧
        (∀ other : Defect, other.Spoils text → defect.rank ≤ other.rank) ∧
        ∀ capacity, map.writeInto capacity = (.error (.unrepresentable part text defect), [])) ∧
    ((∀ named ∈ map.texts, ∀ defect : Defect, ¬ defect.Spoils named.2) →
      (Utf8.encode (fileText map.records)).length = fileSize map.records ∧
      ∀ capacity, map.writeInto capacity =
        if fileSize map.records ≤ capacity then (.ok (), Utf8.encode (fileText map.records))
        else (.error (.file .outOfSpace),
          (Utf8.encode (fileText map.records)).take capacity)) := by
  -- Whether the map can be rendered is decided before the buffer is looked at.
  constructor
  · rintro ⟨named, among, defect, spoiled⟩
    cases rendered : map.render with
    | ok written =>
      -- Had the map been written, all its texts could be read back.
      have sound := forall_mem_texts_iff.mpr ((render_eq_ok_iff map written).mp rendered).1
      exact absurd spoiled (representable_iff_not_spoils.mp (sound named among) defect)
    | error error =>
      -- The error names the first text with a defect, and the first of its defects.
      obtain ⟨before, part, text, after, first, texts, sound, found, rfl⟩ :=
        first_of_render_eq_error rendered
      obtain ⟨spoils, least⟩ := spoils_of_defect? found
      refine ⟨before, part, text, after, first, texts, ?_, spoils, least, ?_⟩
      · exact fun earlier inside => representable_iff_not_spoils.mp (sound earlier inside)
      · -- There is nothing yet of which the buffer could hold a part.
        intro capacity
        simp only [writeInto, rendered]
  · intro sound
    -- All texts can be read back, so only the capacity is left to ask for.
    refine ⟨length_encode_fileText map.records, writeInto_of_sound ?_⟩
    exact fun named among => representable_iff_not_spoils.mpr (sound named among)

/-- One byte decides whether a map fits, and a map with a defect fits nowhere. -/
theorem LanguageMap.writeInto_at_the_boundary :
    let map : LanguageMap := ⟨[⟨"é", "", 0⟩, ⟨"k", "a\nb", 0⟩], []⟩
    let spoiled : LanguageMap := ⟨[⟨"é", "", 0⟩, ⟨"\n'''", "\r", 0⟩], []⟩
    let error : Error := .unrepresentable .key "\n'''" .leadingBlankLine
    fileSize map.records = 145 ∧ (map.writeInto 145).1 = .ok () ∧
      (map.writeInto 144).1 = .error (.file .outOfSpace) ∧
      ∀ capacity, spoiled.writeInto capacity = (.error error, []) := by
  -- The first map has no defect, so its size decides, and the second map has one.
  intro map spoiled error
  have sound : ∀ named ∈ map.texts, ∀ defect : Defect, ¬ defect.Spoils named.2 := by
    intro named among
    refine representable_iff_not_spoils.mp ((defect?_eq_none_iff _).mp ?_)
    revert named
    decide +kernel
  have size : fileSize map.records = 145 := by decide +kernel
  obtain ⟨_, written⟩ := (writeInto_checks_before_writing map).2 sound
  -- The carriage return is a defect, though not the first that is found.
  obtain ⟨_, part, text, _, defect, _, _, _, _, refused⟩ :=
    (writeInto_checks_before_writing spoiled).1
      ⟨(.message, "\r"), by decide, .carriageReturn, by decide⟩
  refine ⟨size, ?_, ?_, ?_⟩
  · rw [written, size]
    rfl
  · rw [written, size]
    rfl
  · -- What is told to a buffer without room is told to all.
    have told : spoiled.writeInto 0 = (.error error, []) := by decide +kernel
    intro capacity
    rw [refused, ← refused 0, told]

end Phrasebook
