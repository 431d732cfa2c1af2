import Mathlib.Data.Prod.Basic
import Phrasebook.Proofs.FileSubstitution
import Phrasebook.Proofs.Files.ReadBack

/-! Substitutions write no carriage return, whichever the line endings were that they read. -/

namespace Phrasebook

/-- A text after several replacements has no characters but its own and those of the messages. -/
theorem mem_replaceEach {entries : List Entry} {text : String} {char : Char}
    (member : char ∈ (replaceEach entries text).toList) :
    (∃ entry ∈ entries, char ∈ entry.message.toList) ∨ char ∈ text.toList := by
  -- The first replacement makes the text in which the others are done.
  induction entries generalizing text with
  | nil => exact Or.inr member
  | cons entry rest ih =>
    rcases ih member with ⟨other, among, inside⟩ | changed
    · exact Or.inl ⟨other, List.mem_cons_of_mem entry among, inside⟩
    · -- A character of that text is one of the first message or of the text before.
      rcases mem_replaceAll changed with inside | old
      · exact Or.inl ⟨entry, by simp, inside⟩
      · exact Or.inr old

/-- A substitution makes a text of its input and of the messages of the domain. -/
theorem Store.mem_substitute {store : Store} {domain input : String} {table : Table}
    {substitution : Substitution} (known : store.table? domain = some table)
    (replaced : store.substitute domain input = .ok substitution) {char : Char}
    (member : char ∈ substitution.text.toList) :
    (∃ entry ∈ table.toList, char ∈ entry.message.toList) ∨ char ∈ input.toList := by
  -- The entries of the table are replaced in the input.
  cases (substitute_eq known input).symm.trans replaced
  exact mem_replaceEach member

/-- What a job loads is a table without carriage returns, whatever file it is loaded from. -/
theorem FileJob.table_of_load {job : FileJob} {files : FileTree} {load : LoadReport}
    {store : Store} (loaded : job.load files = (.ok load, store)) :
    ∃ table, store.table? job.domain = some table ∧
      ∀ entry ∈ table.toList, '\r' ∉ entry.key.toList ∧ '\r' ∉ entry.message.toList := by
  -- The map is loaded into the empty store, so the table is that of its records.
  obtain ⟨text, _, _, _, rfl⟩ := Store.loadFile_empty_eq_ok_iff.mp loaded
  refine ⟨_, Store.table?_changeTable_empty _ _, ?_⟩
  intro entry member
  -- The entry is that of a record, whose texts could be written again.
  obtain ⟨record, settled, rfl⟩ := List.mem_map.mp (Table.mem_of_mem_toList_ofList member)
  have sound := representable_of_mem_ofText settled
  exact ⟨sound.1.noReturn, sound.2.noReturn⟩

variable {κ : Type} {job : FileJob} {workspace after : Workspace κ} {report : FileReport}

/--
A substitution from file to file knows line feeds only.

Whatever bytes the language map and the input hold, there is no carriage return in the keys and
messages that were loaded, in the text that was made or in the bytes that were written. The output
is read back as that text, unless the text starts with a mark.
-/
theorem substituteFile_line_feeds_only
    (succeeds : substituteFile job workspace = (.ok report, after)) :
    (∃ store table, job.load workspace.files = (.ok report.load, store) ∧
      store.table? job.domain = some table ∧
      ∀ entry ∈ table.toList, '\r' ∉ entry.key.toList ∧ '\r' ∉ entry.message.toList) ∧
    '\r' ∉ report.substitution.text.toList ∧
    (∃ content, after.files.read job.output = .ok content ∧
      content = Utf8.encode report.substitution.text ∧ 0x0D ∉ content) ∧
    (report.substitution.text.toList.head? ≠ some '\uFEFF' →
      after.files.readText job.output = .ok report.substitution.text) := by
  -- The run succeeds, so each of its stages does.
  obtain ⟨store, changed, input, loaded, followed, opened, replaced, written, _⟩ :=
    substituteFileWith_eq_ok_iff.mp succeeds
  obtain ⟨table, known, clean⟩ := FileJob.table_of_load loaded
  -- Neither the messages nor the input had one to bring in.
  have unreturned : '\r' ∉ report.substitution.text.toList := by
    intro member
    rcases Store.mem_substitute known replaced member with ⟨entry, among, inside⟩ | inside
    · exact (clean entry among).2 inside
    · exact FileTree.return_notMem_of_readText opened inside
  -- What was written is read back as it is, but for marks and line endings.
  have back := FileTree.readText_of_writeText written
  obtain ⟨place, reached, put⟩ := FileTree.writeText_eq_ok_iff.mp written
  refine ⟨⟨store, table, loaded, known, clean⟩, unreturned, ⟨_, ?_, rfl, ?_⟩, ?_⟩
  · rw [put]
    exact FileTree.read_put_self reached
  · -- The byte would write a carriage return.
    have ascii : (0x0D : UInt8).toNat < 0x80 := by decide
    have char : Char.ofNat (0x0D : UInt8).toNat = '\r' := rfl
    rw [Utf8.mem_encode_iff ascii, char]
    exact unreturned
  · intro plain
    rw [withoutMark, if_neg plain, normalizeNewlines_of_notMem unreturned] at back
    exact back

/-- Of a map and an input with every kind of line ending the output has line feeds alone. -/
theorem substituteFile_mixed_line_endings :
    let map := "'''\r\nHi\rthere\r'''\nSalut\r\ntoi\n'''"
    let input := "Hi\r\nthere\r"
    let job : FileJob := ⟨"in.txt", "out.txt", "map.langmap", mainDomain, ⟨true⟩⟩
    let files := (FileTree.empty.put ["map.langmap"]
      (.file (TextEncoding.encode (.marked (.utf16 .littleEndian)) map))).put ["in.txt"]
      (.file (Utf8.encode input))
    let report : FileReport := ⟨⟨"map.langmap", mainDomain, 1, []⟩, ⟨"Salut\ntoi\n", 1⟩⟩
    (substituteFile job ⟨files, ()⟩).1 = .ok report ∧
      '\r' ∉ report.substitution.text.toList ∧
      (∃ content, (substituteFile job ⟨files, ()⟩).2.files.read "out.txt" = .ok content ∧
        0x0D ∉ content) ∧
      (substituteFile job ⟨files, ()⟩).2.files.readText "out.txt" = .ok "Salut\ntoi\n" := by
  -- The theorem is told of the run as it is evaluated.
  intro map input job files report
  have succeeds : (substituteFile job ⟨files, ()⟩).1 = .ok report := by decide +kernel
  obtain ⟨_, unreturned, ⟨content, stored, _, clean⟩, back⟩ :=
    substituteFile_line_feeds_only (Prod.fst_eq_iff.mp succeeds)
  have plain : report.substitution.text.toList.head? ≠ some '\uFEFF' := by decide +kernel
  exact ⟨succeeds, unreturned, ⟨content, stored, clean⟩, back plain⟩

end Phrasebook
