import Phrasebook.Command.Replace
import Phrasebook.Proofs.FileSubstitution

/-! The replace command: what it reports, and when it succeeds. -/

namespace Phrasebook

/-- The console after some lines were printed for the person who runs the command. -/
def Console.reported (console : Console) (lines : List String) : Console :=
  { console with stderr := console.stderr ++ Command.onLines lines }

namespace Replace

variable {workspace after : Workspace Console}

/-- Without a dump, a load is only reported. -/
theorem reportLoad_without_dump (job : FileJob) (store : Store) (load : LoadReport)
    (workspace : Workspace Console) :
    reportLoad ⟨job, none⟩ store load workspace =
      (.ok (), ⟨workspace.files, workspace.notes.reported load.messages⟩) := rfl

/-- With a dump that is a language map, a load is reported and its table written. -/
theorem reportLoad_with_dump {job : FileJob} {target : String} {store : Store} {table : Table}
    (named : namesLanguageMap target = true) (known : store.table? job.domain = some table)
    (load : LoadReport) (workspace : Workspace Console) :
    reportLoad ⟨job, some target⟩ store load workspace =
      ((workspace.files.writeMap target (.ofTable table)).1,
        ⟨(workspace.files.writeMap target (.ofTable table)).2,
          workspace.notes.reported load.messages⟩) := by
  -- The report comes first, so it is printed even if the dump cannot be written.
  have reported : Command.report load.messages workspace =
      (.ok (), ⟨workspace.files, workspace.notes.reported load.messages⟩) := rfl
  rw [reportLoad, Run.bind_ok reported]
  simp only [dumpStore, named, if_true, known, Option.getD_some]
  exact Run.writeMap_eq _ _ _

/-- The command succeeds if the substitution does, and then tells what was replaced. -/
theorem run_eq_ok_iff {options : ReplaceOptions} {substitution : Substitution} :
    run options workspace = (.ok substitution, after) ↔
      ∃ load changed,
        substituteFileWith options.job (reportLoad options) workspace =
          (.ok ⟨load, substitution⟩, changed) ∧
        after = ⟨changed.files,
          changed.notes.reported [substitution.summary options.job.output]⟩ := by
  -- The last line is always printed.
  rw [run, Run.bind_eq_ok_iff]
  constructor
  · intro success
    -- The report of the load is dropped, and the summary printed.
    obtain ⟨⟨load, done⟩, changed, substituted, told⟩ := success
    obtain ⟨_, _, reported, returned⟩ := Run.bind_eq_ok_iff.mp told
    cases reported
    rw [Run.pure_eq, Prod.mk.injEq, Except.ok.injEq] at returned
    obtain ⟨rfl, rfl⟩ := returned
    exact ⟨load, changed, substituted, rfl⟩
  · intro success
    obtain ⟨load, changed, substituted, rfl⟩ := success
    exact ⟨_, changed, substituted, Run.bind_eq_ok_iff.mpr ⟨(), _, rfl, rfl⟩⟩

/-- The command fails exactly as the substitution does. -/
theorem run_eq_error_iff {options : ReplaceOptions} {error : Error} :
    run options workspace = (.error error, after) ↔
      substituteFileWith options.job (reportLoad options) workspace = (.error error, after) := by
  -- To print the last line never fails.
  rw [run, Run.bind_eq_error_iff]
  constructor
  · intro failure
    rcases failure with fails | ⟨report, changed, _, told⟩
    · exact fails
    · cases told
  · exact Or.inl

end Replace

end Phrasebook
