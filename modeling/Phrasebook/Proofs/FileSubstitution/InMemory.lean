import Phrasebook.Proofs.FileSubstitution.Stages

/-! Substitution from file to file as what is done to the texts that the files hold at first. -/

namespace Phrasebook

variable {κ : Type} {job : FileJob} {onLoad : Store → LoadReport → Run κ Unit}

section Follows

variable (follows : ∀ store load workspace, ∃ notes,
  onLoad store load workspace = (.ok (), ⟨workspace.files, notes⟩))

include follows

/-- A substitution reads both texts from the files as they are at first, and writes last. -/
theorem substituteFileWith_eq_ok_iff_texts {workspace after : Workspace κ} {report : FileReport} :
    substituteFileWith job onLoad workspace = (.ok report, after) ↔
      ∃ text input store place,
        workspace.files.readText job.languageMap = .ok text ∧
        workspace.files.readText job.input = .ok input ∧
        Store.empty.loadText text job.languageMap job.domain job.options =
          (.ok report.load, store) ∧
        store.substitute job.domain input = .ok report.substitution ∧
        workspace.files.locateTarget job.output = .ok place ∧
        after.files =
          workspace.files.put place (.file (Utf8.encode report.substitution.text)) ∧
        after.notes = (onLoad store report.load workspace).2.notes := by
  -- What follows the load leaves the files alone, so all texts are those that were there at first.
  rw [substituteFileWith_eq_ok_iff]
  constructor
  · intro stages
    obtain ⟨store, changed, input, loaded, followed, opened, replaced, written, noted⟩ := stages
    obtain ⟨notes, same⟩ := follows store report.load workspace
    cases followed.symm.trans same
    -- The map is loaded as the text that is read from it.
    rw [Store.loadFile_eq] at loaded
    cases read : workspace.files.readText job.languageMap with
    | error error =>
      rw [read] at loaded
      cases loaded
    | ok text =>
      rw [read] at loaded
      obtain ⟨place, reached, put⟩ := FileTree.writeText_eq_ok_iff.mp written
      refine ⟨text, input, store, place, rfl, opened, loaded, replaced, reached, put, ?_⟩
      rw [noted, same]
  · intro texts
    -- The other way round, every stage finds what the texts say.
    obtain ⟨text, input, store, place, read, opened, loaded, replaced, reached, put, noted⟩ := texts
    obtain ⟨notes, same⟩ := follows store report.load workspace
    refine ⟨store, ⟨workspace.files, notes⟩, input, ?_, same, opened, replaced, ?_, ?_⟩
    · rw [Store.loadFile_eq, read]
      exact loaded
    · exact FileTree.writeText_eq_ok_iff.mpr ⟨place, reached, put⟩
    · rw [noted, same]

/-- A substitution succeeds if both texts can be read, the keys are accepted, and it can write. -/
theorem exists_substituteFileWith_iff (workspace : Workspace κ) :
    (∃ report, (substituteFileWith job onLoad workspace).1 = .ok report) ↔
      (∃ text, workspace.files.readText job.languageMap = .ok text ∧
        (job.options.strict = true →
          ((LanguageMap.ofText text).records.map Record.key).Nodup)) ∧
      (∃ input, workspace.files.readText job.input = .ok input) ∧
      ∃ place, workspace.files.locateTarget job.output = .ok place := by
  -- A substitution in memory never fails, so what can fail are the files and the keys.
  constructor
  · intro success
    obtain ⟨report, succeeds⟩ := success
    obtain ⟨text, input, store, place, read, opened, loaded, _, reached, _⟩ :=
      (substituteFileWith_eq_ok_iff_texts follows).mp (Prod.ext succeeds rfl)
    have different := Store.exists_loadText_empty_iff.mp ⟨_, _, loaded⟩
    exact ⟨⟨text, read, different⟩, ⟨input, opened⟩, place, reached⟩
  · intro conditions
    obtain ⟨⟨text, read, different⟩, ⟨input, opened⟩, place, reached⟩ := conditions
    -- The conditions make each stage succeed, and then the run is told by its texts.
    obtain ⟨load, store, loaded⟩ := Store.exists_loadText_empty_iff.mpr different
    obtain ⟨substitution, replaced⟩ := store.exists_substitute job.domain input
    have done : substituteFileWith job onLoad workspace =
        (.ok ⟨load, substitution⟩,
          ⟨workspace.files.put place (.file (Utf8.encode substitution.text)),
            (onLoad store load workspace).2.notes⟩) :=
      (substituteFileWith_eq_ok_iff_texts follows).mpr
        ⟨text, input, store, place, read, opened, loaded, replaced, reached, rfl, rfl⟩
    exact ⟨_, congrArg Prod.fst done⟩

/-- Whatever follows the load, as long as it succeeds and leaves the files alone, is not missed. -/
theorem substituteFile_eq (workspace : Workspace κ) :
    let (outcome, after) := substituteFileWith job onLoad workspace
    substituteFile job workspace = (outcome, ⟨after.files, workspace.notes⟩) := by
  -- The course is that of the run, whichever it is.
  obtain ⟨outcome, after, course⟩ := exists_course job onLoad workspace
  rw [course.substituteFileWith_eq]
  dsimp only
  rw [substituteFile, course_iff]
  -- Without anything to follow the load, the run takes the same course.
  cases course with
  | unloaded loaded => exact .unloaded loaded
  | @stopped load store _ _ loaded followed =>
    -- What follows the load does not stop the run.
    obtain ⟨notes, same⟩ := follows store load workspace
    cases followed.symm.trans same
  | @unwritten load store _ _ loaded followed rewritten =>
    obtain ⟨notes, same⟩ := follows store load workspace
    cases followed.symm.trans same
    exact .unwritten loaded (Run.pure_eq _ _) rewritten
  | @written load store _ _ _ loaded followed rewritten =>
    obtain ⟨notes, same⟩ := follows store load workspace
    cases followed.symm.trans same
    exact .written loaded (Run.pure_eq _ _) rewritten

/--
A substitution from file to file is one in memory, of the texts that the files hold at first.

Whatever follows the load has to succeed and to leave the files alone. The run succeeds if the
language map and the input can be read, a strict load finds no key that comes again, and the
output can be written. The paths may name the same file. What follows the load is called once,
with the store and the report of the load in memory. Nothing but the output is changed.
-/
theorem substituteFileWith_in_memory (workspace : Workspace κ) :
    let run := substituteFileWith job onLoad workspace
    ((∃ report, run.1 = .ok report) ↔
      (∃ text, workspace.files.readText job.languageMap = .ok text ∧
        (job.options.strict = true →
          ((LanguageMap.ofText text).records.map Record.key).Nodup)) ∧
      (∃ input, workspace.files.readText job.input = .ok input) ∧
      ∃ place, workspace.files.locateTarget job.output = .ok place) ∧
    (∀ report, run.1 = .ok report → ∃ text input store place,
      workspace.files.readText job.languageMap = .ok text ∧
      workspace.files.readText job.input = .ok input ∧
      Store.empty.loadText text job.languageMap job.domain job.options =
        (.ok report.load, store) ∧
      store.substitute job.domain input = .ok report.substitution ∧
      substituteFileWith job (recorded onLoad) ⟨workspace.files, workspace.notes, []⟩ =
        (.ok report, ⟨run.2.files, run.2.notes, [(store, report.load)]⟩) ∧
      workspace.files.locateTarget job.output = .ok place ∧
      run.2.files.read job.output = .ok (Utf8.encode report.substitution.text) ∧
      ∀ location, run.2.files.node? location =
        if location = place then some (.file (Utf8.encode report.substitution.text))
        else workspace.files.node? location) ∧
    substituteFile job workspace = (run.1, ⟨run.2.files, workspace.notes⟩) ∧
    (substituteFile job : Run κ FileReport) = substituteFileWith job fun _ _ => pure () := by
  -- A run that succeeds is told by its texts, and by the one place that it changes.
  intro run
  refine ⟨exists_substituteFileWith_iff follows workspace, ?_,
    substituteFile_eq follows workspace, rfl⟩
  intro report succeeds
  obtain ⟨text, input, store, place, read, opened, loaded, replaced, reached, put, _⟩ :=
    (substituteFileWith_eq_ok_iff_texts follows).mp (Prod.ext succeeds rfl)
  have free := FileTree.free_of_locateTarget reached
  -- What follows the load is called with what the map is loaded as.
  have called : job.load workspace.files = (.ok report.load, store) := by
    rw [FileJob.load, Store.loadFile_eq, read]
    exact loaded
  refine ⟨text, input, store, place, read, opened, loaded, replaced, ?_, reached, ?_, ?_⟩
  · rw [substituteFileWith_recorded, loaded?_of_load called]
    exact congrArg (·, _) succeeds
  · exact put ▸ FileTree.read_put_self reached
  · intro location
    -- The output is no directory, so the file is put at its place and nowhere else.
    have changed := FileTree.node?_put workspace.files place
      (.file (Utf8.encode report.substitution.text)) (FileTree.ne_root_of_free free) location
    simp only [run, put, changed, eq_comm]

end Follows

/-- A language map may be rewritten by itself, and what follows its load sees what it held. -/
theorem substituteFileWith_one_file :
    let text := "'''\nHELLO\n'''\nHi\n'''\n"
    let files := FileTree.empty.put ["a.langmap"] (.file (Utf8.encode text))
    let job : FileJob := ⟨"a.langmap", "a.langmap", "a.langmap", mainDomain, ⟨true⟩⟩
    let count : Store → LoadReport → Run Nat Unit := fun _ load => Run.note (· + load.loaded)
    let report : FileReport :=
      ⟨⟨"a.langmap", mainDomain, 1, []⟩, ⟨"'''\nHi\n'''\nHi\n'''\n", 1⟩⟩
    (∀ store load workspace, ∃ notes,
      count store load workspace = (.ok (), ⟨workspace.files, notes⟩)) ∧
    (substituteFileWith job count ⟨files, 0⟩).1 = .ok report ∧
    (substituteFileWith job count ⟨files, 0⟩).2.files.read "a.langmap" =
      .ok (Utf8.encode report.substitution.text) ∧
    (∃ store, (substituteFileWith job (recorded count) ⟨files, 0, []⟩).2.notes.2 =
      [(store, report.load)]) ∧
    (substituteFile job ⟨files, 0⟩).1 = .ok report := by
  -- The number of records is all that follows the load, which leaves the files alone.
  intro text files job count report
  have follows : ∀ store load workspace, ∃ notes,
      count store load workspace = (.ok (), ⟨workspace.files, notes⟩) :=
    fun _ _ _ => ⟨_, rfl⟩
  have succeeds : (substituteFileWith job count ⟨files, 0⟩).1 = .ok report := by decide +kernel
  obtain ⟨_, texts, quietly, _⟩ :=
    @substituteFileWith_in_memory Nat job count follows ⟨files, 0⟩
  -- The one store that was seen is that of the map as it was before.
  obtain ⟨_, _, store, _, _, _, _, _, called, _, stored, _⟩ := texts report succeeds
  refine ⟨follows, succeeds, stored, ⟨store, ?_⟩, ?_⟩
  · rw [called]
  · rw [quietly]
    exact succeeds

end Phrasebook
