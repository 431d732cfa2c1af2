import Phrasebook.Proofs.Files.TextFile

/-! Loads: which records are refused, and what else can fail. -/

namespace Phrasebook.Store

/-- No record is refused exactly if the keys are new and different from each other. -/
theorem firstRepeated?_eq_none_iff (seen : Std.TreeSet String) (records : List Record) :
    firstRepeated? seen records = none ↔
      (records.map Record.key).Nodup ∧ ∀ record ∈ records, ¬ seen.contains record.key := by
  -- A key that was let through is seen by the later records.
  induction records generalizing seen with
  | nil => simp [firstRepeated?]
  | cons record rest ih =>
    rw [firstRepeated?]
    by_cases known : seen.contains record.key = true
    · have member := Std.TreeSet.mem_iff_contains.mpr known
      simp [member]
    · rw [if_neg known, ih]
      simp only [Std.TreeSet.contains_insert, List.map_cons, List.nodup_cons, List.mem_map,
        List.mem_cons]
      grind

/-- A load into the empty store refuses no record if it need not, or if all keys are different. -/
theorem refusedRecord?_empty_eq_none_iff (domain : String) (options : LoadOptions)
    (records : List Record) :
    empty.refusedRecord? domain options records = none ↔
      (options.strict = true → (records.map Record.key).Nodup) := by
  -- No key counts as seen when the load starts.
  have unseen : ∀ key : String, ¬ (Std.TreeSet.ofList (empty.keys domain)).contains key := by
    simp [keys]
  unfold refusedRecord?
  split
  · rename_i strict
    rw [firstRepeated?_eq_none_iff]
    exact ⟨fun accepted _ => accepted.1,
      fun different => ⟨different strict, fun record _ => unseen record.key⟩⟩
  · rename_i lenient
    exact ⟨fun _ strict => absurd strict lenient, fun _ => rfl⟩

/-- A load fails over the record that is refused, if there is one. -/
theorem failureOf_load (store : Store) (map : LanguageMap) (source domain : String)
    (options : LoadOptions) :
    failureOf (store.load map source domain options).1 =
      (store.refusedRecord? domain options map.records).map
        fun record => .duplicateKey record.key record.line := by
  -- A load that refuses no record succeeds.
  unfold load
  cases store.refusedRecord? domain options map.records <;> rfl

/-- A file is loaded as the text that is read from it. -/
theorem loadFile_eq (store : Store) (files : FileTree) (path domain : String)
    (options : LoadOptions) :
    store.loadFile files path domain options =
      match files.readText path with
      | .error error => (.error error, store)
      | .ok text => store.loadText text path domain options := by
  -- What is read is the language map of the text, which is then loaded either way.
  rw [loadFile, FileTree.readMap_eq]
  cases files.readText path <;> rfl

variable {store after : Store} {files : FileTree} {path domain : String} {options : LoadOptions}

/-- A language map is loaded if none of its records is refused. -/
theorem load_eq_ok_iff {map : LanguageMap} {source : String} {load : LoadReport} :
    store.load map source domain options = (.ok load, after) ↔
      store.refusedRecord? domain options map.records = none ∧
        load = ⟨source, domain, map.records.length, map.diagnostics⟩ ∧
        after = store.changeTable domain (·.insertMany map.entries) := by
  -- The records are looked at before any is committed.
  unfold Store.load
  cases refused : store.refusedRecord? domain options map.records with
  | some record => simp
  | none => simp [eq_comm]

/-- A file is loaded if it can be read and none of its records is refused. -/
theorem loadFile_eq_ok_iff {load : LoadReport} :
    store.loadFile files path domain options = (.ok load, after) ↔
      ∃ map, files.readMap path = .ok map ∧
        store.refusedRecord? domain options map.records = none ∧
        load = ⟨path, domain, map.records.length, map.diagnostics⟩ ∧
        after = store.changeTable domain (·.insertMany map.entries) := by
  -- The file is read first, and then its records are looked at.
  unfold loadFile
  cases files.readMap path with
  | error cause => simp
  | ok map => simp [load_eq_ok_iff]

/-- A file is loaded into the empty store if it can be read and, if need be, has no key twice. -/
theorem loadFile_empty_eq_ok_iff {load : LoadReport} :
    empty.loadFile files path domain options = (.ok load, after) ↔
      ∃ text, files.readText path = .ok text ∧
        let map := LanguageMap.ofText text
        (options.strict = true → (map.records.map Record.key).Nodup) ∧
        load = ⟨path, domain, map.records.length, map.diagnostics⟩ ∧
        after = empty.changeTable domain (·.insertMany map.entries) := by
  -- The language map is that of the text, and no key is known before.
  rw [loadFile_eq_ok_iff]
  simp only [FileTree.readMap_eq_ok_iff, refusedRecord?_empty_eq_none_iff]
  constructor
  · rintro ⟨_, ⟨text, read, rfl⟩, loaded⟩
    exact ⟨text, read, loaded⟩
  · rintro ⟨text, read, loaded⟩
    exact ⟨_, ⟨text, read, rfl⟩, loaded⟩

/-- A text is loaded into the empty store if that need not be strict, or all keys are different. -/
theorem exists_loadText_empty_iff {text source : String} :
    (∃ load after, empty.loadText text source domain options = (.ok load, after)) ↔
      (options.strict = true → ((LanguageMap.ofText text).records.map Record.key).Nodup) := by
  -- There is no other reason to refuse a record.
  simp [loadText, load_eq_ok_iff, refusedRecord?_empty_eq_none_iff]

/-- A load fails over the file, or over a key that comes again. -/
theorem loadFile_eq_error {error : Error}
    (fails : store.loadFile files path domain options = (.error error, after)) :
    (∃ cause, error = .file cause) ∨ ∃ key line, error = .duplicateKey key line := by
  -- A language map that could be read is refused for one of its records only.
  unfold loadFile Store.load at fails
  cases read : files.readMap path with
  | error cause =>
    rw [read] at fails
    cases fails
    rw [FileTree.readMap_eq] at read
    -- A language map cannot be read exactly if its text cannot.
    cases text : files.readText path with
    | error unread =>
      rw [text] at read
      cases read
      exact Or.inl (FileTree.readText_eq_error text)
    | ok found =>
      rw [text] at read
      cases read
  | ok map =>
    rw [read] at fails
    cases refused : store.refusedRecord? domain options map.records with
    | none => simp [refused] at fails
    | some record =>
      simp only [refused, Prod.mk.injEq, Except.error.injEq] at fails
      exact Or.inr ⟨record.key, record.line, fails.1.symm⟩

/-- What is loaded into the empty store is the table of the language map. -/
theorem table?_changeTable_empty (domain : String) (map : LanguageMap) :
    (empty.changeTable domain (·.insertMany map.entries)).table? domain = some map.toTable := by
  -- The domain is unknown before, so its table starts without entries.
  rw [table?_changeTable, if_pos rfl, table?_empty]
  rfl

end Phrasebook.Store
