import Mathlib.Data.Finset.Card
import Mathlib.Data.Prod.Basic
import Phrasebook.Proofs.FileSubstitution
import Phrasebook.Proofs.Files.ReadBack
import Phrasebook.Proofs.LanguageMap.Positional

/-! The two numbers that a substitution tells: of the records loaded, and of the keys replaced. -/

namespace Phrasebook

/-- The first keys are the different ones. -/
theorem length_firstKeys (entries : List Entry) :
    (firstKeys entries).length = (entries.map Entry.key).toFinset.card := by
  -- The keys of a table are different, so there are as many as there are in the set of them.
  have different : (firstKeys entries).Nodup := by
    rw [← Table.keys_ofList]
    exact (Table.ofList entries).nodup_keys
  rw [← List.toFinset_card_of_nodup different]
  congr 1
  ext key
  rw [List.mem_toFinset, List.mem_toFinset, firstKeys, List.mem_eraseDups]

/-- One record is framed by each three of the delimiters. -/
theorem length_framedRecords (lines : List String) :
    (framedRecords lines).length = lines.count delimiter / 3 := by
  rw [framedRecords, List.length_map, List.length_range, length_delimiterNumbers]

/-- Without carriage returns, the records of a text are framed by the delimiters among its lines. -/
theorem LanguageMap.records_ofText {text : String} (plain : '\r' ∉ text.toList) :
    (ofText text).records = framedRecords (lines text) := by
  rw [ofText, normalizeNewlines_of_notMem plain, ofLines_eq_positionalMap, positionalMap]

/-- The entries of the records have the keys of the records. -/
theorem LanguageMap.map_key_entries (map : LanguageMap) :
    map.entries.map Entry.key = map.records.map Record.key := by
  -- The entry of a record has its key.
  rw [entries, List.map_map]
  rfl

variable {κ : Type} {job : FileJob} {workspace after : Workspace κ} {report : FileReport}

/-- What a substitution counts are the records of its language map, and their different keys. -/
theorem counts_of_substituteFileWith {onLoad : Store → LoadReport → Run κ Unit}
    (succeeds : substituteFileWith job onLoad workspace = (.ok report, after)) :
    ∃ text, workspace.files.readText job.languageMap = .ok text ∧
      let records := (LanguageMap.ofText text).records
      report.load.loaded = records.length ∧
      report.substitution.replaced = (records.map Record.key).toFinset.card ∧
      (job.options.strict = true → (records.map Record.key).Nodup) := by
  -- The map is loaded into an empty store, so its table has the keys of its records.
  obtain ⟨store, changed, input, loaded, _, _, replaced, _⟩ :=
    substituteFileWith_eq_ok_iff.mp succeeds
  obtain ⟨text, read, accepted, reported, rfl⟩ := Store.loadFile_empty_eq_ok_iff.mp loaded
  refine ⟨text, read, ?_, ?_, accepted⟩
  · rw [reported]
  · -- All keys of the table are gone through, and it has each key once.
    have known := Store.table?_changeTable_empty job.domain (.ofText text)
    have made := Except.ok.inj ((Store.substitute_eq known input).symm.trans replaced)
    rw [← made, LanguageMap.toTable, Table.size_ofList, length_firstKeys,
      LanguageMap.map_key_entries]

/--
The two numbers that a substitution tells agree with each other and with the language map alone.

As many records are loaded as there are complete ones, which is a third of the delimiter lines. As
many keys are replaced as these records have different ones. So no more are replaced than loaded,
and as many exactly if no key comes again, as is certain of a strict load. Any other substitution
by a language map with the same text, of whatever input, tells the same numbers.
-/
theorem substituteFile_counts_agree
    (succeeds : substituteFile job workspace = (.ok report, after)) :
    ∃ text, workspace.files.readText job.languageMap = .ok text ∧
      let records := framedRecords (lines text)
      let keys := records.map Record.key
      (LanguageMap.ofText text).records = records ∧
      report.load.loaded = records.length ∧
      report.load.loaded = (lines text).count delimiter / 3 ∧
      report.substitution.replaced = keys.toFinset.card ∧
      report.substitution.replaced ≤ report.load.loaded ∧
      (report.substitution.replaced = report.load.loaded ↔ keys.Nodup) ∧
      (job.options.strict = true → report.substitution.replaced = report.load.loaded) ∧
      ∀ {other : FileJob} {elsewhere left : Workspace κ} {second : FileReport},
        elsewhere.files.readText other.languageMap = .ok text →
        substituteFile other elsewhere = (.ok second, left) →
        second.load.loaded = report.load.loaded ∧
          second.substitution.replaced = report.substitution.replaced := by
  -- Both counts are told by the records, and these by the delimiters among the lines.
  obtain ⟨text, read, loaded, replaced, strict⟩ := counts_of_substituteFileWith succeeds
  have framed := LanguageMap.records_ofText (FileTree.return_notMem_of_readText read)
  -- There are as many different keys as records exactly if no key comes again.
  have equal : report.substitution.replaced = report.load.loaded ↔
      ((LanguageMap.ofText text).records.map Record.key).Nodup := by
    rw [replaced, loaded, ← List.length_map (f := Record.key)]
    exact Multiset.toFinset_card_eq_card_iff_nodup
  rw [framed] at loaded replaced strict equal
  refine ⟨text, read, framed, loaded, ?_, replaced, ?_, equal, fun refuses => ?_, ?_⟩
  · rw [loaded, length_framedRecords]
  · rw [replaced, loaded, ← List.length_map (f := Record.key)]
    exact List.toFinset_card_le _
  · exact equal.mpr (strict refuses)
  · -- The other run counts the records of the same text.
    intro other elsewhere left second readAgain succeedsToo
    obtain ⟨same, reads, loadedToo, replacedToo, _⟩ := counts_of_substituteFileWith succeedsToo
    cases reads.symm.trans readAgain
    rw [framed] at loadedToo replacedToo
    exact ⟨loadedToo.trans loaded.symm, replacedToo.trans replaced.symm⟩

/-- Of a map that breaks off, with a key that comes again, two records and one key are counted. -/
theorem substituteFile_counts_of_broken_map :
    let map := "'''\nHi\n'''\nSalut\n'''\n'''\n\nHi\n'''\nBonjour\n'''\n'''"
    let files := (FileTree.empty.put ["map.langmap"] (.file (Utf8.encode map))).put ["in.txt"]
      (.file (Utf8.encode "Hi Hi"))
    let job : FileJob := ⟨"in.txt", "out.txt", "map.langmap", mainDomain, ⟨false⟩⟩
    let load : LoadReport := ⟨"map.langmap", mainDomain, 2, [.unclosedRecord 12]⟩
    (substituteFile job ⟨files, ()⟩).1 = .ok ⟨load, ⟨"Bonjour Bonjour", 1⟩⟩ ∧
      (lines map).count delimiter / 3 = 2 ∧
      ((framedRecords (lines map)).map Record.key).toFinset.card = 1 ∧
      ¬ ((framedRecords (lines map)).map Record.key).Nodup ∧
      ∀ report, (substituteFile { job with input := "map.langmap" } ⟨files, ()⟩).1 = .ok report →
        report.load.loaded = 2 ∧ report.substitution.replaced = 1 := by
  -- The run is evaluated once, and the counts are those of the theorem.
  intro map files job load
  have succeeds : (substituteFile job ⟨files, ()⟩).1 = .ok ⟨load, ⟨"Bonjour Bonjour", 1⟩⟩ := by
    decide +kernel
  have opened : files.readText "map.langmap" = .ok map := by decide +kernel
  obtain ⟨text, read, _, _, third, different, _, equal, _, again⟩ :=
    substituteFile_counts_agree (Prod.fst_eq_iff.mp succeeds)
  cases read.symm.trans opened
  refine ⟨succeeds, third.symm, different.symm, ?_, ?_⟩
  · intro nodup
    exact absurd (equal.mpr nodup) (by decide)
  · -- The other run substitutes in the map itself.
    intro report succeedsToo
    refine again ?_ (Prod.fst_eq_iff.mp succeedsToo)
    exact opened

end Phrasebook
