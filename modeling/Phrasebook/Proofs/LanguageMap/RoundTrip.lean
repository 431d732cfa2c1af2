import Mathlib.Algebra.GroupWithZero.Nat
import Phrasebook.Proofs.LanguageMap.Representable
import Phrasebook.Proofs.Outcome

/-! Reading undoes writing: the lines of a written file, and what a reader makes of them. -/

namespace Phrasebook

/-- The lines on which a text is written, none for the empty text. -/
def writtenLines (text : String) : List String :=
  if text = "" then [] else pieces text

/-- The number of lines on which a text is written. -/
def lineCount (text : String) : Nat :=
  if text = "" then 0 else 1 + text.toList.count '\n'

/-- The lines of one record and the blank line after it. -/
def Record.blockLines (record : Record) : List String :=
  delimiter :: writtenLines record.key ++
    delimiter :: writtenLines record.message ++
    -- The blank line is outside the record, where it says nothing.
    [delimiter, ""]

/-- The number of lines of one record and the blank line after it. -/
def Record.height (record : Record) : Nat :=
  4 + lineCount record.key + lineCount record.message

/-- The header of a written language map, line by line. -/
def headerLines : List String := [
  "# This file is automatically generated by langmap.",
  "# Each record is a key and a message framed by ''' lines.",
  ""]

/-- The file that holds some records. -/
def fileText (records : List Record) : String :=
  fileHeader ++ String.join (records.map Record.block)

/-- The records with the numbers that they get when their lines follow one another. -/
def numberedFrom (number : Nat) : List Record → List Record
  | [] => []
  | record :: rest =>
    -- The last line of a record is blank, and the delimiter before it closes the record.
    { record with line := number + record.height - 2 } ::
      numberedFrom (number + record.height) rest

/-- A text is written on its pieces, followed by whatever comes next. -/
theorem lines_asLines (text rest : String) :
    lines (asLines text ++ rest) = writtenLines text ++ lines rest := by
  -- The empty text is written on no line at all.
  by_cases blank : text = ""
  · simp [asLines, writtenLines, blank]
  · have filled := String.isEmpty_eq_false_iff.mpr blank
    simp [asLines, writtenLines, blank, filled, lines_append]

/-- The delimiter is a line of its own. -/
theorem lines_delimiterLine (rest : String) :
    lines (delimiterLine ++ rest) = delimiter :: lines rest :=
  lines_line (by decide) rest

/-- A blank line is a line of its own. -/
theorem lines_feed (rest : String) : lines ("\n" ++ rest) = "" :: lines rest := by
  -- It is a line with nothing before its line feed.
  have blank : lines ("" ++ "\n" ++ rest) = "" :: lines rest := lines_line (by simp) rest
  simpa using blank

/-- A record is written on its lines, followed by whatever comes next. -/
theorem lines_block (record : Record) (rest : String) :
    lines (record.block ++ rest) = record.blockLines ++ lines rest := by
  -- The parts of the block are taken off one after another.
  simp only [Record.block, String.append_assoc, lines_delimiterLine, lines_asLines,
    lines_feed]
  simp [Record.blockLines]

/-- The header is written on three lines, followed by whatever comes next. -/
theorem lines_fileHeader (rest : String) :
    lines (fileHeader ++ rest) = headerLines ++ lines rest := by
  -- The header is two comments and a blank line.
  let first := "# This file is automatically generated by langmap."
  let second := "# Each record is a key and a message framed by ''' lines."
  have firstWhole : '\n' ∉ first.toList := by simp [first]
  have secondWhole : '\n' ∉ second.toList := by simp [second]
  have apart : fileHeader = first ++ "\n" ++ (second ++ "\n" ++ "\n") := by
    decide +kernel
  calc lines (fileHeader ++ rest)
    _ = lines (first ++ "\n" ++ (second ++ "\n" ++ ("\n" ++ rest))) := by
      rw [apart]
      simp only [String.append_assoc]
    _ = first :: lines (second ++ "\n" ++ ("\n" ++ rest)) := lines_line firstWhole _
    _ = first :: second :: lines ("\n" ++ rest) := congrArg _ (lines_line secondWhole _)
    _ = headerLines ++ lines rest := by rw [lines_feed]; rfl

/-- The lines of a file are those of its header and of its records. -/
theorem lines_fileText (records : List Record) :
    lines (fileText records) = headerLines ++ records.flatMap Record.blockLines := by
  -- The induction is on the records whose blocks follow the header.
  rw [fileText, lines_fileHeader]
  congr 1
  induction records with
  | nil => simp [lines, lineChars]
  | cons record rest ih => simp [lines_block, ih]

/-- A text is written on as many lines as are counted. -/
theorem length_writtenLines (text : String) : (writtenLines text).length = lineCount text := by
  -- A text that is not empty has one piece more than it has line feeds.
  by_cases blank : text = ""
  · simp [writtenLines, lineCount, blank]
  · simp [writtenLines, lineCount, blank, length_pieces]

/-- A text that can be read back is what its lines make. -/
theorem textOfLines_writtenLines {text : String} (sound : Representable text) :
    textOfLines (writtenLines text) = text := by
  -- The first line of a text that does not start with a line feed is not blank.
  by_cases blank : text = ""
  · simp [writtenLines, blank]
  · have joined := intercalate_pieces text
    rw [writtenLines, if_neg blank, textOfLines]
    cases split : pieces text with
    | nil => simp [split, Ne.symm blank] at joined
    | cons first rest =>
      rw [split] at joined
      -- Were the first piece empty, the text would be empty or start with a line feed.
      have filled : first ≠ "" := by
        intro empty
        apply sound.noBlankStart
        rw [← joined, empty]
        rw [empty] at joined
        cases rest with
        | nil => simp [Ne.symm blank] at joined
        | cons next rest => simp
      rw [List.dropWhile_cons_of_neg (by simpa using filled), joined]

/-- No line of a text that can be read back is a delimiter. -/
theorem delimiter_notMem_writtenLines {text : String} (sound : Representable text) :
    delimiter ∉ writtenLines text := by
  -- The lines are the pieces of the text, if there are any.
  unfold writtenLines
  split
  · simp
  · exact sound.noDelimiter

namespace ReaderPosition

/-- Lines without a delimiter are joined to an open key one after another. -/
theorem readAll_inKey (openedAt : Nat) (key : String) (number : Nat) {lines : List String}
    (plain : delimiter ∉ lines) :
    (inKey openedAt key).readAll number lines =
      (inKey openedAt (lines.foldl joinLine key), []) := by
  -- Each line leaves the reader in the key.
  induction lines generalizing key number with
  | nil => rfl
  | cons line rest ih =>
    have other : line ≠ delimiter := fun same => plain (by simp [same])
    have later : delimiter ∉ rest := fun member => plain (by simp [member])
    simp [readAll, read, other, ih _ _ later]

/-- Lines without a delimiter are joined to an open message one after another. -/
theorem readAll_inMessage (openedAt : Nat) (key message : String) (number : Nat)
    {lines : List String} (plain : delimiter ∉ lines) :
    (inMessage openedAt key message).readAll number lines =
      (inMessage openedAt key (lines.foldl joinLine message), []) := by
  -- Each line leaves the reader in the message.
  induction lines generalizing message number with
  | nil => rfl
  | cons line rest ih =>
    have other : line ≠ delimiter := fun same => plain (by simp [same])
    have later : delimiter ∉ rest := fun member => plain (by simp [member])
    simp [readAll, read, other, ih _ _ later]

/-- The lines of a record that can be written settle that record. -/
theorem readAll_blockLines {record : Record} (sound : record.AllTexts Representable)
    (number : Nat) :
    outside.readAll number record.blockLines =
      (outside, [.record { record with line := number + record.height - 2 }]) := by
  -- The reader goes from delimiter to delimiter, and each text is joined from its lines.
  have key : ∀ start, (inKey number "").readAll start (writtenLines record.key) =
      (inKey number record.key, []) := by
    intro start
    rw [readAll_inKey _ _ _ (delimiter_notMem_writtenLines sound.1), foldl_joinLine,
      textOfLines_writtenLines sound.1]
  have message : ∀ start,
      (inMessage number record.key "").readAll start (writtenLines record.message) =
        (inMessage number record.key record.message, []) := by
    intro start
    rw [readAll_inMessage _ _ _ _ (delimiter_notMem_writtenLines sound.2), foldl_joinLine,
      textOfLines_writtenLines sound.2]
  -- The blank line behind the record is no delimiter, and says nothing.
  have other : delimiter ≠ "" := by decide
  simp [Record.blockLines, Record.height, readAll_append, readAll, read, key, message,
    length_writtenLines, isIgnorable, other.symm]
  omega

/-- The lines of records that can be written settle those records. -/
theorem readAll_blocks {records : List Record}
    (sound : ∀ record ∈ records, record.AllTexts Representable) (number : Nat) :
    outside.readAll number (records.flatMap Record.blockLines) =
      (outside, (numberedFrom number records).map .record) := by
  -- The reader is outside again after each record.
  induction records generalizing number with
  | nil => rfl
  | cons record rest ih =>
    have first := readAll_blockLines (sound record (by simp)) number
    have later := ih fun other among => sound other (by simp [among])
    have height : record.blockLines.length = record.height := by
      simp [Record.blockLines, Record.height, length_writtenLines]
      omega
    rw [List.flatMap_cons, readAll_append, first, height]
    simp only [later]
    rfl

end ReaderPosition

/-- No carriage return is written with records that can be written. -/
theorem return_notMem_fileText {records : List Record}
    (sound : ∀ record ∈ records, record.AllTexts Representable) :
    '\r' ∉ (fileText records).toList := by
  -- Neither the header and the delimiters nor any text have one in them.
  have header : '\r' ∉ fileHeader.toList := by decide +kernel
  have delimiters : '\r' ∉ delimiterLine.toList := by decide
  -- On lines of its own a text gets a line feed at most.
  have texts : ∀ text, Representable text → '\r' ∉ (asLines text).toList := by
    intro text whole
    unfold asLines
    split
    · simp
    · simp [whole.noReturn]
  have blocks : ∀ record ∈ records, '\r' ∉ record.block.toList := by
    intro record among
    have := sound record among
    simp [Record.block, delimiters, texts _ this.1, texts _ this.2]
  simpa [fileText, header] using blocks

/-- A file is read back as its records, each on the line where it closes. -/
theorem ofText_fileText {records : List Record}
    (sound : ∀ record ∈ records, record.AllTexts Representable) :
    LanguageMap.ofText (fileText records) = ⟨numberedFrom 4 records, []⟩ := by
  -- The lines of the header settle nothing.
  have header : ReaderPosition.outside.readAll 1 headerLines = (.outside, []) := by decide
  -- The records settle themselves and nothing else.
  have settled : (numberedFrom 4 records).filterMap (Finding.record? ∘ .record) =
      numberedFrom 4 records := List.filterMap_some
  have silent : (numberedFrom 4 records).filterMap (Finding.diagnostic? ∘ .record) = [] :=
    List.filterMap_eq_nil_iff.mpr fun _ _ => rfl
  rw [LanguageMap.ofText, normalizeNewlines_of_notMem (return_notMem_fileText sound),
    lines_fileText, LanguageMap.ofLines, ReaderPosition.findings_eq_readAll,
    ReaderPosition.readAll_append, header]
  simp only [headerLines, List.length_cons, List.length_nil,
    ReaderPosition.readAll_blocks sound, ReaderPosition.finish, LanguageMap.ofFindings,
    List.nil_append, List.append_nil, List.filterMap_map, settled, silent]

/-- The sum of what comes before a record settles the line that closes it. -/
theorem numberedFrom_eq_mapIdx_height (number : Nat) (records : List Record) :
    numberedFrom number records =
      records.mapIdx fun i record => { record with
        line := number + ((records.take i).map Record.height).sum + record.height - 2 } := by
  -- Each record moves the start of the next by its height.
  induction records generalizing number with
  | nil => rfl
  | cons record rest ih =>
    rw [numberedFrom, ih, List.mapIdx_cons]
    simp [Nat.add_assoc]

/-- A record is closed after the header, the records before it and its own three delimiters. -/
theorem numberedFrom_eq_mapIdx (records : List Record) :
    numberedFrom 4 records =
      records.mapIdx fun i record => { record with
        line :=
          3 + ((records.take i).map fun earlier =>
            4 + lineCount earlier.key + lineCount earlier.message).sum +
          3 + lineCount record.key + lineCount record.message } := by
  -- The heights add up, and each of them is told by the lines of the texts.
  rw [numberedFrom_eq_mapIdx_height]
  congr 1
  funext i record
  -- The first record starts on line four, and a record closes two lines before its end.
  have closed : 4 + ((records.take i).map Record.height).sum + record.height - 2 =
      3 + ((records.take i).map Record.height).sum +
        3 + lineCount record.key + lineCount record.message := by
    unfold Record.height
    omega
  rw [closed]
  rfl

/-- A record is written exactly if both of its texts can be read back. -/
theorem Record.render_eq_ok_iff (record : Record) (block : String) :
    record.render = .ok block ↔ record.AllTexts Representable ∧ block = record.block := by
  -- The key is checked first and then the message.
  simp only [Record.render, checkRepresentable, Record.AllTexts, ← defect?_eq_none_iff]
  cases defect? record.key with
  | some defect => simp [Bind.bind, Except.bind]
  | none =>
    cases defect? record.message with
    | some defect => simp [Bind.bind, Except.bind]
    | none => simp [Bind.bind, Except.bind, Pure.pure, Except.pure, eq_comm]

/-- Records are written exactly if the texts of each of them can be read back. -/
theorem mapM_render_eq_ok_iff (records : List Record) (blocks : List String) :
    records.mapM Record.render = .ok blocks ↔
      (∀ record ∈ records, record.AllTexts Representable) ∧
        blocks = records.map Record.block := by
  -- The whole is written if the first record is, and so are the others.
  induction records generalizing blocks with
  | nil => simp [Pure.pure, Except.pure, eq_comm]
  | cons record rest ih =>
    simp only [List.mapM_cons, except_bind_eq_ok_iff, record.render_eq_ok_iff, ih]
    constructor
    · rintro ⟨_, ⟨sound, rfl⟩, _, ⟨all, rfl⟩, written⟩
      cases written
      exact ⟨List.forall_mem_cons.mpr ⟨sound, all⟩, rfl⟩
    · -- The texts of all records are those of the first and of the others.
      rintro ⟨all, rfl⟩
      obtain ⟨sound, others⟩ := List.forall_mem_cons.mp all
      exact ⟨_, ⟨sound, rfl⟩, _, ⟨others, rfl⟩, rfl⟩

/-- A language map is written exactly if all its texts can be read back. -/
theorem render_eq_ok_iff (map : LanguageMap) (written : String) :
    map.render = .ok written ↔
      (∀ record ∈ map.records, record.AllTexts Representable) ∧
        written = fileText map.records := by
  -- The header is put before the blocks, if there are any to put it before.
  rw [LanguageMap.render, except_bind_eq_ok_iff]
  simp only [mapM_render_eq_ok_iff]
  constructor
  · rintro ⟨_, ⟨all, rfl⟩, headed⟩
    cases headed
    exact ⟨all, rfl⟩
  · rintro ⟨all, rfl⟩
    exact ⟨_, ⟨all, rfl⟩, rfl⟩

/-- Numbering records changes neither their keys nor their messages. -/
theorem map_entry_numberedFrom (number : Nat) (records : List Record) :
    (numberedFrom number records).map Record.entry = records.map Record.entry := by
  -- An entry has no line.
  induction records generalizing number with
  | nil => rfl
  | cons record rest ih => simp [numberedFrom, ih, Record.entry]

/-- The file that holds some records does not depend on their numbers. -/
theorem fileText_numberedFrom (number : Nat) (records : List Record) :
    fileText (numberedFrom number records) = fileText records := by
  -- The line of a record is not written.
  have blocks : (numberedFrom number records).map Record.block = records.map Record.block := by
    induction records generalizing number with
    | nil => rfl
    | cons record rest ih => simp [numberedFrom, ih, Record.block]
  rw [fileText, fileText, blocks]

/-- What is true of all texts of some records depends on their keys and messages only. -/
theorem allTexts_of_map_entry {holds : String → Prop} {first second : List Record}
    (same : first.map Record.entry = second.map Record.entry)
    (all : ∀ record ∈ first, record.AllTexts holds) :
    ∀ record ∈ second, record.AllTexts holds := by
  -- Some record of the first list has the same key and message.
  intro record among
  have entry : record.entry ∈ first.map Record.entry := by
    rw [same]
    exact List.mem_map_of_mem among
  obtain ⟨source, member, equal⟩ := List.mem_map.mp entry
  have texts := all source member
  simp only [Record.entry, Entry.mk.injEq] at equal
  exact ⟨equal.1 ▸ texts.1, equal.2 ▸ texts.2⟩

/-- What is read from a file is written as the same file. -/
theorem render_ofText_fileText {records : List Record}
    (sound : ∀ record ∈ records, record.AllTexts Representable) :
    (LanguageMap.ofText (fileText records)).render = .ok (fileText records) := by
  -- The file is read as the same records but for their numbers.
  have numbered := allTexts_of_map_entry (map_entry_numberedFrom 4 records).symm sound
  rw [ofText_fileText sound, render_eq_ok_iff]
  exact ⟨numbered, (fileText_numberedFrom 4 records).symm⟩

/--
A writer accepts exactly the records that can be read, and reading its file undoes the writing.

The header takes up three lines. Each record takes up three delimiter lines, the lines of its texts
and a blank line, and is closed by the last of its delimiters. What was read can always be written,
and what is then read from the file is written as the same file.
-/
theorem reading_undoes_writing (map : LanguageMap) :
    ((∃ written, map.render = .ok written) ↔
      ∃ text, (LanguageMap.ofText text).entries = map.entries) ∧
    (∀ written, map.render = .ok written →
      (LanguageMap.ofText written).diagnostics = [] ∧
      (LanguageMap.ofText written).entries = map.entries ∧
      (LanguageMap.ofText written).records =
        map.records.mapIdx fun i record =>
          { record with
            line :=
              3 + ((map.records.take i).map fun earlier =>
                4 + lineCount earlier.key + lineCount earlier.message).sum +
              3 + lineCount record.key + lineCount record.message }) ∧
    (∀ text, ∃ written, (LanguageMap.ofText text).render = .ok written ∧
      (LanguageMap.ofText written).render = .ok written) := by
  -- What can be written are records whose texts can be read back, and reading makes only such.
  refine ⟨⟨?_, ?_⟩, ?_, ?_⟩
  · -- The file that was written is a text with these records.
    intro accepted
    obtain ⟨written, rendered⟩ := accepted
    obtain ⟨sound, rfl⟩ := (render_eq_ok_iff map written).mp rendered
    refine ⟨fileText map.records, ?_⟩
    rw [ofText_fileText sound]
    exact map_entry_numberedFrom 4 map.records
  · -- The texts are those of records that were read, and so all of them can be written.
    intro readable
    obtain ⟨text, same⟩ := readable
    have sound := allTexts_of_map_entry same fun _ => representable_of_mem_ofText
    exact ⟨fileText map.records, (render_eq_ok_iff map _).mpr ⟨sound, rfl⟩⟩
  · -- The file is read as its records, numbered by where they close.
    intro written rendered
    obtain ⟨sound, rfl⟩ := (render_eq_ok_iff map written).mp rendered
    rw [ofText_fileText sound]
    refine ⟨rfl, map_entry_numberedFrom 4 map.records, ?_⟩
    exact numberedFrom_eq_mapIdx map.records
  · -- Whatever was read can be written, and what is written reads back as the same records.
    intro text
    have sound : ∀ record ∈ (LanguageMap.ofText text).records, record.AllTexts Representable :=
      fun _ => representable_of_mem_ofText
    exact ⟨fileText (LanguageMap.ofText text).records, (render_eq_ok_iff _ _).mpr ⟨sound, rfl⟩,
      render_ofText_fileText sound⟩

end Phrasebook
