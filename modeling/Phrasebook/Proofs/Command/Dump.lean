import Mathlib.Data.Prod.Basic
import Phrasebook.Proofs.Command.Replace

/-! A dump that is a language map, and a run that takes it for the one it was made from. -/

namespace Phrasebook

/-- Whether an operation failed over the data that it was to write. -/
def Error.isInvalidData : Error → Bool
  | .unrepresentable .. => true
  | .refused _ => true
  | _ => false

/-- The content of the language map that a table is dumped to. -/
def Table.dump (table : Table) : Bytes :=
  Utf8.encode (fileText (LanguageMap.ofTable table).records)

namespace LanguageMap

/-- The records of a table are its entries, whatever their numbers. -/
theorem map_entry_ofTable (number : Nat) (table : Table) :
    (numberedFrom number (ofTable table).records).map Record.entry = table.toList := by
  -- The number that each record is given is left out again.
  rw [map_entry_numberedFrom]
  simp [ofTable, Record.entry, Function.comp_def]

/-- Whatever was read from a text can be written as a table. -/
theorem representable_ofTable_toTable (text : String) :
    ∀ record ∈ (ofTable (ofText text).toTable).records, record.AllTexts Representable := by
  intro record member
  -- The entry is that of some record which was read.
  have among : record.entry ∈ (ofText text).entries := by
    apply Table.mem_of_mem_toList_ofList
    rw [← toTable, ← map_entry_ofTable 0, map_entry_numberedFrom]
    exact List.mem_map_of_mem member
  obtain ⟨source, read, same⟩ := List.mem_map.mp among
  have sound := representable_of_mem_ofText read
  simp only [Record.entry, Entry.mk.injEq] at same
  simpa only [Record.AllTexts, same.1, same.2] using sound

/-- The records of a table, whatever their numbers, have different keys. -/
theorem nodup_keys_numberedFrom (number : Nat) (table : Table) :
    ((numberedFrom number (ofTable table).records).map Record.key).Nodup := by
  -- Their keys are those of the table.
  have keys : (numberedFrom number (ofTable table).records).map Record.key = table.keys := by
    rw [Table.keys, ← map_entry_ofTable number table, List.map_map]
    rfl
  exact keys ▸ table.nodup_keys

/-- The records of a table, whatever their numbers, make the table again. -/
theorem toTable_numberedFrom (number : Nat) (table : Table) (diagnostics : List Diagnostic) :
    (⟨numberedFrom number (ofTable table).records, diagnostics⟩ : LanguageMap).toTable =
      table := by
  -- The entries are those of the table, which are a table of their own.
  rw [toTable, entries, map_entry_ofTable, Table.ofList_toList]

end LanguageMap

/-- The dump of a table is loaded as that table, and nothing is amiss. -/
theorem Store.loadFile_of_read_dump {files : FileTree} {path : String} {table : Table}
    (sound : ∀ record ∈ (LanguageMap.ofTable table).records, record.AllTexts Representable)
    (stored : files.read path = .ok table.dump) (domain : String) (options : LoadOptions) :
    ∃ store,
      Store.empty.loadFile files path domain options =
        (.ok ⟨path, domain, table.size, []⟩, store) ∧
      store.table? domain = some table := by
  -- The records read back have different keys, so that even a strict load takes them.
  have read := FileTree.readMap_of_read_fileText sound stored
  have accepted := (refusedRecord?_empty_eq_none_iff domain options _).mpr
    fun _ => LanguageMap.nodup_keys_numberedFrom 4 table
  refine ⟨_, loadFile_eq_ok_iff.mpr ⟨_, read, accepted, ?_, rfl⟩, ?_⟩
  · have count : (numberedFrom 4 (LanguageMap.ofTable table).records).length = table.size := by
      rw [Table.size_eq_length_toList, ← LanguageMap.map_entry_ofTable 4 table, List.length_map]
    rw [count]
  · rw [table?_changeTable_empty, LanguageMap.toTable_numberedFrom]

namespace Replace

variable {job : FileJob} {target : String} {workspace after : Workspace Console}
  {substitution : Substitution}

/-- What was loaded from a text is dumped if there is a place for the dump. -/
theorem reportLoad_of_text (named : namesLanguageMap target = true) (text : String)
    (load : LoadReport) (workspace : Workspace Console) :
    let map := LanguageMap.ofText text
    let store := Store.empty.changeTable job.domain (·.insertMany map.entries)
    let told := workspace.notes.reported load.messages
    reportLoad ⟨job, some target⟩ store load workspace =
      match workspace.files.locateTarget target with
      | .error cause => (.error (.file cause), ⟨workspace.files, told⟩)
      | .ok place => (.ok (), ⟨workspace.files.put place (.file map.toTable.dump), told⟩) := by
  intro map store told
  have known : store.table? job.domain = some map.toTable :=
    Store.table?_changeTable_empty job.domain map
  -- The table was loaded from a text, so all of it can be written.
  have rendered := (render_eq_ok_iff _ _).mpr
    ⟨LanguageMap.representable_ofTable_toTable text, rfl⟩
  rw [reportLoad_with_dump named known, FileTree.writeMap_of_render rendered]
  cases workspace.files.locateTarget target <;> rfl

/-- A dump that is a language map is written before the input is read. -/
theorem run_with_dump (named : namesLanguageMap target = true)
    (succeeds : run ⟨job, some target⟩ workspace = (.ok substitution, after)) :
    ∃ text input place,
      let table := (LanguageMap.ofText text).toTable
      let dumped := workspace.files.put place (.file table.dump)
      workspace.files.readText job.languageMap = .ok text ∧
      workspace.files.locateTarget target = .ok place ∧
      dumped.readText job.input = .ok input ∧
      substitution = ⟨table.replaceKeys input, table.size⟩ ∧
      dumped.writeText job.output substitution.text = .ok after.files := by
  -- The stages are those of every substitution, with the dump for what follows the load.
  obtain ⟨load, changed, substituted, same⟩ := run_eq_ok_iff.mp succeeds
  obtain ⟨store, between, input, loaded, followed, opened, replaced, written, _⟩ :=
    substituteFileWith_eq_ok_iff.mp substituted
  obtain ⟨text, readText, _, _, made⟩ := Store.loadFile_empty_eq_ok_iff.mp loaded
  rw [made] at followed replaced
  rw [reportLoad_of_text named] at followed
  rw [Store.substitute_eq (Store.table?_changeTable_empty _ _)] at replaced
  split at followed
  · cases followed
  · rename_i place reached
    obtain ⟨_, rfl⟩ := Prod.mk.inj followed
    have done := Except.ok.inj replaced
    rw [same]
    exact ⟨text, input, place, readText, reached, opened, done.symm, written⟩

/-- A dump that is a language map is never refused over the data. -/
theorem isInvalidData_run_with_dump {error : Error} (named : namesLanguageMap target = true)
    (fails : run ⟨job, some target⟩ workspace = (.error error, after)) :
    error.isInvalidData = false := by
  -- A run fails over a load, over what follows the load, or over a file afterwards.
  rw [run_eq_error_iff] at fails
  rcases substituteFileWith_eq_error fails with
    ⟨cause, rfl⟩ | ⟨key, line, rfl⟩ | ⟨load, store, loaded, followed⟩
  · rfl
  · rfl
  · obtain ⟨text, _, _, _, made⟩ := Store.loadFile_empty_eq_ok_iff.mp loaded
    rw [made, reportLoad_of_text named] at followed
    -- Only the place of the dump can be at fault.
    split at followed
    · cases followed
      rfl
    · cases followed

/-- Without a dump the command does what its stages do. -/
theorem run_without_dump (job : FileJob) {files changed : FileTree} {console : Console}
    {load : LoadReport} {store : Store} {input : String}
    (loaded : Store.empty.loadFile files job.languageMap job.domain job.options =
      (.ok load, store))
    (opened : files.readText job.input = .ok input)
    (replaced : store.substitute job.domain input = .ok substitution)
    (written : files.writeText job.output substitution.text = .ok changed) :
    run ⟨job, none⟩ ⟨files, console⟩ =
      (.ok substitution, ⟨changed,
        (console.reported load.messages).reported [substitution.summary job.output]⟩) := by
  -- What follows the load is its report only.
  have substituted : substituteFileWith job (reportLoad ⟨job, none⟩) ⟨files, console⟩ =
      (.ok ⟨load, substitution⟩, ⟨changed, console.reported load.messages⟩) :=
    substituteFileWith_eq_ok_iff.mpr ⟨store, _, input, loaded,
      reportLoad_without_dump _ _ _ _, opened, replaced, written, rfl⟩
  exact run_eq_ok_iff.mpr ⟨load, _, substituted, rfl⟩

/--
A dump that is a language map never fails over the data, and stands in for the map it was made of.

It has one record for each key that was loaded, in order. So nothing is amiss in it and none of its
records is refused, whatever the domain, and a run that takes it for its map gives the same result
and leaves all files as they are. The input may itself be the dump.
-/
theorem run_from_dump_eq {job : FileJob} {target : String} {workspace : Workspace Console}
    (named : namesLanguageMap target = true)
    (inputApart : workspace.files.Apart job.input job.output)
    (targetApart : workspace.files.Apart target job.output) :
    (∀ error after, run ⟨job, some target⟩ workspace = (.error error, after) →
      error.isInvalidData = false) ∧
    ∀ substitution after, run ⟨job, some target⟩ workspace = (.ok substitution, after) →
      (∃ original copy,
        workspace.files.readMap job.languageMap = .ok original ∧
        after.files.readMap target = .ok copy ∧
        copy.entries = original.toTable.toList ∧
        copy.diagnostics = []) ∧
      ∀ domain options console,
        let load : LoadReport := ⟨target, domain, substitution.replaced, []⟩
        let again : FileJob := { job with languageMap := target, domain, options }
        (Store.empty.loadFile after.files target domain options).1 = .ok load ∧
        run ⟨again, none⟩ ⟨after.files, console⟩ =
          (.ok substitution, ⟨after.files,
            (console.reported load.messages).reported [substitution.summary job.output]⟩) := by
  -- No failure is over the data, so let the first run succeed.
  refine ⟨fun _ _ fails => isInvalidData_run_with_dump named fails, ?_⟩
  intro substitution after succeeds
  -- The first run put the dump down before it read the input and wrote the output.
  obtain ⟨text, input, place, readText, reached, opened, done, written⟩ :=
    run_with_dump named succeeds
  have free := FileTree.free_of_locateTarget reached
  have sound := LanguageMap.representable_ofTable_toTable text
  have again := FileTree.writeText_again written
  -- The output stands neither where the dump was put nor where the input was found.
  obtain ⟨outputPlace, outputReached, outputPut⟩ := FileTree.writeText_eq_ok_iff.mp written
  have outputFree := FileTree.free_of_locateTarget outputReached
  rw [FileTree.locateTarget_put_iff free] at outputReached
  have distinct : place ≠ outputPlace := by
    intro same
    have dumpNamed := FileTree.mem_places_iff.mpr (Or.inr reached)
    have outputNamed := FileTree.mem_places_iff.mpr (Or.inr outputReached)
    exact targetApart place dumpNamed (same ▸ outputNamed)
  -- So both are read as before.
  have stored : after.files.read target = .ok (LanguageMap.ofText text).toTable.dump := by
    rw [outputPut]
    exact FileTree.read_put outputFree
      (FileTree.locate_put_ne free targetApart outputReached distinct)
      (FileTree.read_put_self reached)
  have openedAgain : after.files.readText job.input = .ok input := by
    rw [outputPut]
    exact FileTree.readText_put outputFree
      (FileTree.locate_put_ne free inputApart outputReached distinct) opened
  -- The dump is read as the table that was made of the map.
  refine ⟨⟨_, _, FileTree.readMap_eq_ok_iff.mpr ⟨text, readText, rfl⟩,
    FileTree.readMap_of_read_fileText sound stored, ?_, rfl⟩, ?_⟩
  · rw [LanguageMap.entries, LanguageMap.map_entry_ofTable]
  · -- The second run reads the same table and the same input, and writes the same output.
    intro domain options console load secondJob
    obtain ⟨store, loaded, known⟩ := Store.loadFile_of_read_dump sound stored domain options
    have count : (LanguageMap.ofText text).toTable.size = substitution.replaced := by rw [done]
    rw [count] at loaded
    have replaced := Store.substitute_eq known input
    rw [← done] at replaced
    refine ⟨congrArg Prod.fst loaded, ?_⟩
    exact run_without_dump secondJob loaded openedAgain replaced again

/-- Files with a text and a language map in which a key comes again. -/
def greetingFiles : FileTree :=
  let text := "HELLO world"
  -- The last record takes the message of the first one away.
  let map := "'''\nHELLO\n'''\nHey\n'''\n" ++
    "'''\nHi\n'''\nGreetings\n'''\n" ++
    "'''\nHELLO\n'''\nHi\n'''\n"
  (FileTree.empty.put ["in.txt"] (.file (Utf8.encode text))).put ["map.langmap"]
    (.file (Utf8.encode map))

/-- The job to replace by that language map. -/
def greetingJob : FileJob :=
  ⟨"in.txt", "out.txt", "map.langmap", mainDomain, ⟨false⟩⟩

/-- A dump of two keys is as good as the map of three records, also to a strict load. -/
theorem run_from_greetings_dump :
    ∃ after,
      run ⟨greetingJob, some "copy.langmap"⟩ ⟨greetingFiles, .empty⟩ =
        (.ok ⟨"Greetings world", 2⟩, after) ∧
      run ⟨{ greetingJob with languageMap := "copy.langmap", domain := "ui", options := ⟨true⟩ },
          none⟩ ⟨after.files, .empty⟩ =
        (.ok ⟨"Greetings world", 2⟩, ⟨after.files,
          ⟨"", "copy.langmap: loaded 2 messages.\nout.txt: replaced 2 words.\n"⟩⟩) := by
  -- The first run is evaluated, and the second follows from it.
  have named : namesLanguageMap "copy.langmap" = true := by decide +kernel
  have inputApart : greetingFiles.Apart greetingJob.input greetingJob.output := by
    decide +kernel
  have targetApart : greetingFiles.Apart "copy.langmap" greetingJob.output := by decide +kernel
  have first : (run ⟨greetingJob, some "copy.langmap"⟩ ⟨greetingFiles, .empty⟩).1 =
      .ok ⟨"Greetings world", 2⟩ := by decide +kernel
  have told : ((Console.empty.reported
      (LoadReport.messages ⟨"copy.langmap", "ui", 2, []⟩)).reported
      [Substitution.summary ⟨"Greetings world", 2⟩ greetingJob.output]) =
      ⟨"", "copy.langmap: loaded 2 messages.\nout.txt: replaced 2 words.\n"⟩ := by decide +kernel
  obtain ⟨after, succeeds⟩ : ∃ after,
      run ⟨greetingJob, some "copy.langmap"⟩ ⟨greetingFiles, .empty⟩ =
        (.ok ⟨"Greetings world", 2⟩, after) := ⟨_, Prod.fst_eq_iff.mp first⟩
  have dumped := @run_from_dump_eq greetingJob "copy.langmap" ⟨greetingFiles, .empty⟩ named
    inputApart targetApart
  have second := ((dumped.2 _ _ succeeds).2 "ui" ⟨true⟩ .empty).2
  rw [told] at second
  exact ⟨after, succeeds, second⟩

end Replace

end Phrasebook
