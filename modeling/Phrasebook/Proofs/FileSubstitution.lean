import Phrasebook.FileSubstitution
import Phrasebook.Proofs.Store.Load
import Phrasebook.Proofs.Substitution

/-! Substitution from file to file, taken apart into its stages. -/

namespace Phrasebook

variable {κ : Type} {workspace after : Workspace κ} {job : FileJob}
  {onLoad : Store → LoadReport → Run κ Unit}

/-- To load a file alone changes nothing. -/
theorem loadAlone_eq (path domain : String) (options : LoadOptions) (workspace : Workspace κ) :
    loadAlone path domain options workspace =
      match Store.empty.loadFile workspace.files path domain options with
      | (.ok load, store) => (.ok (load, store), workspace)
      | (.error error, _) => (.error error, workspace) := by
  -- Only the store is new, and it is handed on.
  have looked : (Run.files : Run κ FileTree) workspace = (.ok workspace.files, workspace) := rfl
  rw [loadAlone, Run.bind_ok looked]
  rcases loaded : Store.empty.loadFile workspace.files path domain options with ⟨outcome, store⟩
  cases outcome with
  | ok load => exact Run.bind_ok (Run.ofExcept_eq _ _)
  | error error => exact Run.bind_error (Run.ofExcept_eq _ _)

/-- The load that a job starts with. -/
def FileJob.load (job : FileJob) (files : FileTree) : Except Error LoadReport × Store :=
  Store.empty.loadFile files job.languageMap job.domain job.options

/-- What is done once a language map was loaded and what follows that is over: all or nothing. -/
def rewriteFile (job : FileJob) (store : Store) (load : LoadReport) (files : FileTree) :
    Except Error (FileReport × FileTree) := do
  let input ← files.readText job.input
  let substitution ← store.substitute job.domain input
  -- The output is opened last, so nothing changes if an earlier step fails.
  let changed ← files.writeText job.output substitution.text
  return (⟨load, substitution⟩, changed)

/-- The last stages of a substitution rewrite the file or change nothing. -/
theorem run_rewriteFile (job : FileJob) (store : Store) (load : LoadReport)
    (workspace : Workspace κ) :
    (do
      let input ← Run.readText job.input
      let substitution ← Run.ofExcept (store.substitute job.domain input)
      Run.writeText job.output substitution.text
      return ⟨load, substitution⟩ : Run κ FileReport) workspace =
      match rewriteFile job store load workspace.files with
      | .error error => (.error error, workspace)
      | .ok (report, files) => (.ok report, { workspace with files }) := by
  -- Each stage looks at the files as they are when the first one starts.
  cases opened : workspace.files.readText job.input with
  | error error =>
    have fails : rewriteFile job store load workspace.files = .error error := by
      simp [rewriteFile, opened, Bind.bind, Except.bind]
    rw [fails]
    exact Run.bind_error ((Run.readText_eq _ _).trans (by rw [opened]))
  | ok input =>
    -- A substitution never fails, so only the output can.
    rw [Run.bind_ok ((Run.readText_eq _ _).trans (by rw [opened]))]
    obtain ⟨substitution, replaced⟩ := store.exists_substitute job.domain input
    rw [replaced, Run.bind_ok (Run.ofExcept_eq _ _)]
    cases written : workspace.files.writeText job.output substitution.text with
    | error error =>
      have fails : rewriteFile job store load workspace.files = .error error := by
        simp [rewriteFile, opened, replaced, written, Bind.bind, Except.bind]
      rw [fails]
      exact Run.bind_error ((Run.writeText_eq _ _ _).trans (by rw [written]))
    | ok files =>
      have succeeds : rewriteFile job store load workspace.files =
          .ok (⟨load, substitution⟩, files) := by
        simp [rewriteFile, opened, replaced, written, Bind.bind, Except.bind, Pure.pure,
          Except.pure]
      rw [succeeds]
      exact Run.bind_ok ((Run.writeText_eq _ _ _).trans (by rw [written]))

/-- The course that a substitution takes, with the outcome and the workspace that it ends in. -/
inductive Course (job : FileJob) (onLoad : Store → LoadReport → Run κ Unit)
    (workspace : Workspace κ) : Except Error FileReport → Workspace κ → Prop where
  /-- The language map cannot be read, or it is refused. -/
  | unloaded {error : Error} {store : Store}
      (loaded : job.load workspace.files = (.error error, store)) :
      Course job onLoad workspace (.error error) workspace
  /-- What follows the load ends the run. -/
  | stopped {load : LoadReport} {store : Store} {error : Error} {changed : Workspace κ}
      (loaded : job.load workspace.files = (.ok load, store))
      (followed : onLoad store load workspace = (.error error, changed)) :
      Course job onLoad workspace (.error error) changed
  /-- The input cannot be read, or the output cannot be written. -/
  | unwritten {load : LoadReport} {store : Store} {changed : Workspace κ} {error : Error}
      (loaded : job.load workspace.files = (.ok load, store))
      (followed : onLoad store load workspace = (.ok (), changed))
      (rewritten : rewriteFile job store load changed.files = .error error) :
      Course job onLoad workspace (.error error) changed
  /-- The output is written. -/
  | written {load : LoadReport} {store : Store} {changed : Workspace κ} {report : FileReport}
      {files : FileTree}
      (loaded : job.load workspace.files = (.ok load, store))
      (followed : onLoad store load workspace = (.ok (), changed))
      (rewritten : rewriteFile job store load changed.files = .ok (report, files)) :
      Course job onLoad workspace (.ok report) { changed with files }

/-- Some course is taken. -/
theorem exists_course (job : FileJob) (onLoad : Store → LoadReport → Run κ Unit)
    (workspace : Workspace κ) : ∃ outcome after, Course job onLoad workspace outcome after := by
  -- Each stage either ends the run or leads to the next.
  rcases loaded : job.load workspace.files with ⟨_ | load, store⟩
  · exact ⟨_, _, .unloaded loaded⟩
  rcases followed : onLoad store load workspace with ⟨_ | _, changed⟩
  · exact ⟨_, _, .stopped loaded followed⟩
  cases rewritten : rewriteFile job store load changed.files with
  | error error => exact ⟨_, _, .unwritten loaded followed rewritten⟩
  | ok done => exact ⟨_, _, .written loaded followed rewritten⟩

/-- A substitution ends as its course does. -/
theorem Course.substituteFileWith_eq {outcome : Except Error FileReport}
    (course : Course job onLoad workspace outcome after) :
    substituteFileWith job onLoad workspace = (outcome, after) := by
  -- Each course names the outcome of the stages that it has come through.
  have alone : ∀ {load store}, job.load workspace.files = (.ok load, store) →
      loadAlone job.languageMap job.domain job.options workspace =
        (.ok (load, store), workspace) := by
    intro load store loaded
    rw [FileJob.load] at loaded
    rw [loadAlone_eq, loaded]
  -- The run ends with the first stage that fails, and otherwise goes on with the next.
  rw [substituteFileWith]
  cases course with
  | unloaded loaded =>
    rw [FileJob.load] at loaded
    exact Run.bind_error (by rw [loadAlone_eq, loaded])
  | stopped loaded followed =>
    rw [Run.bind_ok (alone loaded)]
    exact Run.bind_error followed
  | unwritten loaded followed rewritten =>
    rw [Run.bind_ok (alone loaded)]
    dsimp only
    rw [Run.bind_ok followed, run_rewriteFile, rewritten]
  | written loaded followed rewritten =>
    rw [Run.bind_ok (alone loaded)]
    dsimp only
    rw [Run.bind_ok followed, run_rewriteFile, rewritten]

/-- The course of a substitution is told by how it ends. -/
theorem course_iff {outcome : Except Error FileReport} :
    substituteFileWith job onLoad workspace = (outcome, after) ↔
      Course job onLoad workspace outcome after := by
  -- The run has one end, and the course that is taken has the same.
  constructor
  · intro ends
    obtain ⟨_, _, course⟩ := exists_course job onLoad workspace
    cases course.substituteFileWith_eq.symm.trans ends
    exact course
  · exact Course.substituteFileWith_eq

/-- Where nothing follows the load, the file is rewritten at once. -/
theorem substituteFile_eq_rewriteFile (job : FileJob) (workspace : Workspace κ) :
    substituteFile job workspace =
      match job.load workspace.files with
      | (.error error, _) => (.error error, workspace)
      | (.ok load, store) =>
        match rewriteFile job store load workspace.files with
        | .error error => (.error error, workspace)
        | .ok (report, files) => (.ok report, { workspace with files }) := by
  -- Nothing fails between the load and the last stages, and nothing changes.
  obtain ⟨outcome, after, course⟩ := exists_course job (fun _ _ => pure ()) workspace
  rw [substituteFile, course.substituteFileWith_eq]
  cases course with
  | unloaded loaded => simp only [loaded]
  | stopped loaded followed => cases followed
  | unwritten loaded followed rewritten =>
    cases followed
    simp only [loaded, rewritten]
  | written loaded followed rewritten =>
    cases followed
    simp only [loaded, rewritten]

/-- The file is rewritten if the input can be read and the output can be written. -/
theorem rewriteFile_eq_ok_iff {store : Store} {load : LoadReport} {files changed : FileTree}
    {report : FileReport} :
    rewriteFile job store load files = .ok (report, changed) ↔
      ∃ input, files.readText job.input = .ok input ∧
        store.substitute job.domain input = .ok report.substitution ∧
        files.writeText job.output report.substitution.text = .ok changed ∧
        report.load = load := by
  -- Each stage is reached because those before it succeeded.
  simp only [rewriteFile, except_bind_eq_ok_iff]
  refine exists_congr fun input => and_congr_right fun _ => ?_
  constructor
  · intro stages
    obtain ⟨_, replaced, _, written, returned⟩ := stages
    cases returned
    exact ⟨replaced, written, rfl⟩
  · intro stages
    obtain ⟨replaced, written, rfl⟩ := stages
    exact ⟨_, replaced, _, written, rfl⟩

/-- To rewrite the file fails over the input, or else over the output. -/
theorem failureOf_rewriteFile (job : FileJob) (store : Store) (load : LoadReport)
    (files : FileTree) :
    failureOf (rewriteFile job store load files) =
      (failureOf (files.readText job.input)).or
        ((failureOf (files.locateTarget job.output)).map .file) := by
  -- The text that is written does not matter.
  rw [rewriteFile]
  cases files.readText job.input with
  | error error => rfl
  | ok input =>
    obtain ⟨substitution, replaced⟩ := store.exists_substitute job.domain input
    -- Once the input is read, nothing can fail but the output.
    have tried := files.failureOf_writeText job.output substitution.text
    cases written : files.writeText job.output substitution.text with
    | error error => simpa [replaced, written, failureOf, Bind.bind, Except.bind] using tried
    | ok changed =>
      simpa [replaced, written, failureOf, Bind.bind, Except.bind, Pure.pure, Except.pure]
        using tried

/-- A substitution succeeds if its stages do: load, what follows it, read, substitute and write. -/
theorem substituteFileWith_eq_ok_iff {report : FileReport} :
    substituteFileWith job onLoad workspace = (.ok report, after) ↔
      ∃ store changed input,
        Store.empty.loadFile workspace.files job.languageMap job.domain job.options =
          (.ok report.load, store) ∧
        onLoad store report.load workspace = (.ok (), changed) ∧
        changed.files.readText job.input = .ok input ∧
        store.substitute job.domain input = .ok report.substitution ∧
        changed.files.writeText job.output report.substitution.text = .ok after.files ∧
        after.notes = changed.notes := by
  -- Only the course that writes the output ends in a success.
  rw [course_iff]
  constructor
  · intro course
    cases course with
    | written loaded followed rewritten =>
      obtain ⟨input, opened, replaced, written, rfl⟩ := rewriteFile_eq_ok_iff.mp rewritten
      exact ⟨_, _, input, loaded, followed, opened, replaced, written, rfl⟩
  · intro stages
    obtain ⟨store, changed, input, loaded, followed, opened, replaced, written, noted⟩ := stages
    have course : Course job onLoad workspace (.ok report) ⟨after.files, changed.notes⟩ :=
      .written loaded followed
        (rewriteFile_eq_ok_iff.mpr ⟨input, opened, replaced, written, rfl⟩)
    rwa [← noted] at course

/-- A substitution fails over a file or a repeated key, or as what follows the load does. -/
theorem substituteFileWith_eq_error {error : Error}
    (fails : substituteFileWith job onLoad workspace = (.error error, after)) :
    (∃ cause, error = .file cause) ∨ (∃ key line, error = .duplicateKey key line) ∨
      ∃ load store,
        Store.empty.loadFile workspace.files job.languageMap job.domain job.options =
          (.ok load, store) ∧
        onLoad store load workspace = (.error error, after) := by
  -- The first stage that fails decides.
  cases course_iff.mp fails with
  | unloaded loaded => exact (Store.loadFile_eq_error loaded).imp_right Or.inl
  | stopped loaded followed => exact Or.inr (Or.inr ⟨_, _, loaded, followed⟩)
  | unwritten loaded followed rewritten =>
    -- After the load and what follows it, a file is at fault.
    have cause := failureOf_eq_some_iff.mpr rewritten
    rw [failureOf_rewriteFile] at cause
    rcases Option.or_eq_some_iff.mp cause with unread | ⟨_, unopened⟩
    · exact Or.inl (FileTree.readText_eq_error (failureOf_eq_some_iff.mp unread))
    · obtain ⟨cause, _, same⟩ := Option.map_eq_some_iff.mp unopened
      exact Or.inl ⟨cause, same.symm⟩

end Phrasebook
