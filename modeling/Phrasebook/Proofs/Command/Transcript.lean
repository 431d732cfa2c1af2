import Mathlib.Data.Prod.Basic
import Phrasebook.Proofs.Command.Replace
import Phrasebook.Proofs.LanguageMap.Positional

/-! What a run of the replace command prints, how it ends, and which files it changes. -/

namespace Phrasebook.Replace

/-- What the dump of a store prints, which is nothing unless the dump goes to a dash. -/
def printedDump (options : ReplaceOptions) (store : Store) : String :=
  if options.dump = some "-" then store.exportText ++ "\n" else ""

/-- Files that have become others by no more than a dump. -/
def DumpedAt (options : ReplaceOptions) (files after : FileTree) : Prop :=
  after = files ∨
    ∃ target, options.dump = some target ∧ target ≠ "-" ∧ files.WrittenAt target after

/-- The last line that is printed for the person who runs the command. -/
def lastLine (options : ReplaceOptions) : Except Error Substitution → String
  | .ok substitution => substitution.summary options.job.output
  | .error error => s!"Error: {error.message}"

/-- The exit code that tells how a run ended. -/
def exitCodeOf : Except Error Substitution → Nat
  | .ok _ => 0
  | .error _ => 1

/-- What a run leaves once it has told why it failed, if it did. -/
def concluded (outcome : Except Error Substitution) (left : Workspace Console) :
    Workspace Console :=
  match outcome with
  | .ok _ => left
  | .error error => ⟨left.files, left.notes.reported [s!"Error: {error.message}"]⟩

variable {options : ReplaceOptions} {workspace left : Workspace Console} {load : LoadReport}
  {store : Store} {outcome : Except Error Substitution}

/-- More lines are printed behind those before them. -/
theorem onLines_append (first second : List String) :
    Command.onLines (first ++ second) = Command.onLines first ++ Command.onLines second := by
  -- Each line is ended on its own.
  simp [Command.onLines]

/-- An error is told on one line. -/
theorem onLines_error (error : Error) :
    Command.onLines [s!"Error: {error.message}"] = s!"Error: {error.message}\n" := by
  -- One line is joined with no others.
  simp only [Command.onLines, List.map_singleton, String.join_cons, String.join_nil,
    String.append_empty, String.append_assoc]
  rfl

/-- A dump prints the store or writes to its target, even if it fails. -/
theorem dumpStore_leaves {target : String} (asked : options.dump = some target) (store : Store)
    (workspace : Workspace Console) :
    let after := (dumpStore store options.job.domain target workspace).2
    after.notes = { workspace.notes with
        stdout := workspace.notes.stdout ++ printedDump options store } ∧
      DumpedAt options workspace.files after.files := by
  -- A dash is printed to, and any other target is a file, be it a language map or not.
  intro after
  by_cases dash : target = "-"
  · have printed : printedDump options store = store.exportText ++ "\n" := by
      simp [printedDump, asked, dash]
    have same : after = ⟨workspace.files, { workspace.notes with
        stdout := workspace.notes.stdout ++ Command.onLines [store.exportText] }⟩ := by
      simp only [after, dumpStore, dash]
      rfl
    rw [same, printed]
    exact ⟨by simp [Command.onLines], Or.inl rfl⟩
  · -- Nothing is printed for a file, which is written as a language map or as the export.
    have silent : printedDump options store = "" := by simp [printedDump, asked, dash]
    have written : after.notes = workspace.notes ∧
        workspace.files.WrittenAt target after.files := by
      by_cases named : namesLanguageMap target = true
      · simp only [after, dumpStore, if_pos named, Run.writeMap_eq]
        exact ⟨trivial, FileTree.writtenAt_writeMap _ _ _⟩
      · simp only [after, dumpStore, if_neg named, if_neg dash, Run.writeText_eq]
        -- An export that cannot be written leaves the files as they are.
        cases tried : workspace.files.writeText target store.exportText with
        | error error => exact ⟨rfl, Or.inl rfl⟩
        | ok changed => exact ⟨rfl, FileTree.writtenAt_of_writeText tried⟩
    rw [silent, String.append_empty]
    exact ⟨written.1, Or.inr ⟨target, asked, dash, written.2⟩⟩

/-- A report of a load prints its messages, and what else it does is the dump. -/
theorem reportLoad_leaves (options : ReplaceOptions) (store : Store) (load : LoadReport)
    (workspace : Workspace Console) :
    let after := (reportLoad options store load workspace).2
    after.notes = ⟨workspace.notes.stdout ++ printedDump options store,
        workspace.notes.stderr ++ Command.onLines load.messages⟩ ∧
      DumpedAt options workspace.files after.files := by
  -- The messages are printed before the dump is begun.
  have reported : Command.report load.messages workspace =
      (.ok (), ⟨workspace.files, workspace.notes.reported load.messages⟩) := rfl
  rw [reportLoad, Run.bind_ok reported]
  cases asked : options.dump with
  | none =>
    have silent : printedDump options store = "" := by simp [printedDump, asked]
    rw [silent, String.append_empty]
    exact ⟨rfl, Or.inl rfl⟩
  | some target => exact dumpStore_leaves asked store _

/-- A run whose language map is not loaded ends with that, and does nothing else. -/
theorem run_of_load_error {error : Error} (ran : run options workspace = (outcome, left))
    (unloaded : options.job.load workspace.files = (.error error, store)) :
    outcome = .error error ∧ left = workspace := by
  -- It is the first of the courses that a substitution can take.
  have ended : run options workspace = (.error error, workspace) :=
    run_eq_error_iff.mpr (course_iff.mpr (.unloaded unloaded))
  exact Prod.mk.inj (ran.symm.trans ended)

/-- What follows a load leaves what the report of it does, whether or not it fails. -/
theorem leaves_of_followed {reported : Except Error Unit} {changed : Workspace Console}
    (followed : reportLoad options store load workspace = (reported, changed)) :
    changed.notes = ⟨workspace.notes.stdout ++ printedDump options store,
        workspace.notes.stderr ++ Command.onLines load.messages⟩ ∧
      DumpedAt options workspace.files changed.files := by
  -- The report was run with this outcome.
  have leaves := reportLoad_leaves options store load workspace
  rwa [followed] at leaves

/-- A run that fails after its language map was loaded has told of the load, and dumped it. -/
theorem run_error_of_load {error : Error} (fails : run options workspace = (.error error, left))
    (loaded : options.job.load workspace.files = (.ok load, store)) :
    left.notes = ⟨workspace.notes.stdout ++ printedDump options store,
        workspace.notes.stderr ++ Command.onLines load.messages⟩ ∧
      DumpedAt options workspace.files left.files := by
  -- Neither a failure to read the input nor one to write the output leaves anything else.
  cases course_iff.mp (run_eq_error_iff.mp fails) with
  | unloaded unloaded => simp [loaded] at unloaded
  | stopped sameLoaded followed =>
    cases loaded.symm.trans sameLoaded
    exact leaves_of_followed followed
  | unwritten sameLoaded followed =>
    cases loaded.symm.trans sameLoaded
    exact leaves_of_followed followed

/-- A run that succeeds has told of the load and dumped it, before it wrote the output. -/
theorem run_ok_of_load {substitution : Substitution}
    (succeeds : run options workspace = (.ok substitution, left))
    (loaded : options.job.load workspace.files = (.ok load, store)) :
    left.notes = ⟨workspace.notes.stdout ++ printedDump options store,
        workspace.notes.stderr ++
          Command.onLines (load.messages ++ [substitution.summary options.job.output])⟩ ∧
      substitution.replaced = ((store.table? options.job.domain).getD .empty).size ∧
      ∃ dumped, DumpedAt options workspace.files dumped ∧
        dumped.WrittenAt options.job.output left.files := by
  -- Of the courses that a substitution takes only the last one succeeds.
  obtain ⟨sameLoad, changed, substituted, rfl⟩ := run_eq_ok_iff.mp succeeds
  cases course_iff.mp substituted with
  | written sameLoaded followed rewritten =>
    cases loaded.symm.trans sameLoaded
    obtain ⟨noted, dumped⟩ := leaves_of_followed followed
    obtain ⟨input, _, replaced, written, _⟩ := rewriteFile_eq_ok_iff.mp rewritten
    rw [Store.substitute_eq_getD] at replaced
    refine ⟨?_, ?_, _, dumped, FileTree.writtenAt_of_writeText written⟩
    · simp only [noted, Console.reported, onLines_append, String.append_assoc]
    · exact congrArg Substitution.replaced (Except.ok.inj replaced).symm

/-- Where a dump has changed a file, the dump was to a file, and this is the file. -/
theorem DumpedAt.target_of_changed {files after : FileTree} {location : Location}
    (dumped : DumpedAt options files after)
    (changed : after.node? location ≠ files.node? location) :
    ∃ target, options.dump = some target ∧ target ≠ "-" ∧
      files.locateTarget target = .ok location := by
  -- Without a file to go to the dump leaves all files as they are.
  rcases dumped with rfl | ⟨target, asked, other, written⟩
  · exact absurd rfl changed
  · exact ⟨target, asked, other, written.locateTarget_of_changed changed⟩

/-- A dump does not change where other files can be written. -/
theorem DumpedAt.locateTarget_iff {files after : FileTree} {path : String} {location : Location}
    (dumped : DumpedAt options files after) :
    after.locateTarget path = .ok location ↔ files.locateTarget path = .ok location := by
  -- To write a file does not move any other.
  rcases dumped with rfl | ⟨target, _, _, written⟩
  · rfl
  · exact written.locateTarget_iff

/-- A run whose language map was loaded tells of the load, and in one more line of its end. -/
theorem notes_concluded_of_load (ran : run options workspace = (outcome, left))
    (loaded : options.job.load workspace.files = (.ok load, store)) :
    (concluded outcome left).notes = ⟨workspace.notes.stdout ++ printedDump options store,
      workspace.notes.stderr ++ Command.onLines (load.messages ++ [lastLine options outcome])⟩ := by
  -- The run itself prints the line of a success, and what comes after it that of a failure.
  cases outcome with
  | error error =>
    obtain ⟨noted, _⟩ := run_error_of_load ran loaded
    simp only [concluded, noted, Console.reported, lastLine, onLines_append, String.append_assoc]
  | ok substitution =>
    obtain ⟨noted, _⟩ := run_ok_of_load ran loaded
    exact noted

/-- A run whose language map was loaded changes no more than its output and the dump's target. -/
theorem place_of_changed (ran : run options workspace = (outcome, left))
    (loaded : options.job.load workspace.files = (.ok load, store)) {location : Location}
    (changed : left.files.node? location ≠ workspace.files.node? location) :
    (∃ substitution, outcome = .ok substitution) ∧
        workspace.files.locateTarget options.job.output = .ok location ∨
      ∃ target, options.dump = some target ∧ target ≠ "-" ∧
        workspace.files.locateTarget target = .ok location := by
  -- A failure comes after the dump at most, and a success after the output as well.
  cases outcome with
  | error error =>
    obtain ⟨_, dumped⟩ := run_error_of_load ran loaded
    exact Or.inr (dumped.target_of_changed changed)
  | ok substitution =>
    obtain ⟨_, _, between, dumped, written⟩ := run_ok_of_load ran loaded
    by_cases early : between.node? location = workspace.files.node? location
    · -- The dump is not what changed the file, so the output is.
      rw [← early] at changed
      have reached := written.locateTarget_of_changed changed
      exact Or.inl ⟨⟨substitution, rfl⟩, dumped.locateTarget_iff.mp reached⟩
    · exact Or.inr (dumped.target_of_changed early)

/-- A command line that is accepted is run, and the exit code tells how the run ended. -/
theorem command_eq {line : List String} (accepted : optionsOf line = .ok options)
    {files : FileTree} (ran : run options ⟨files, .empty⟩ = (outcome, left)) :
    command line files = .finished (exitCodeOf outcome) (concluded outcome left) := by
  -- What the command line asks for is run on a console that is still empty.
  rw [command, accepted]
  simp only [Command.finish, ran]
  cases outcome <;> rfl

/-- What was loaded into the empty store has as many keys as the language map has different ones. -/
theorem size_table_of_load {files : FileTree} {job : FileJob}
    (loaded : job.load files = (.ok load, store)) :
    ∃ map, files.readMap job.languageMap = .ok map ∧
      load = ⟨job.languageMap, job.domain, map.records.length, map.diagnostics⟩ ∧
      ((store.table? job.domain).getD .empty).size = (firstKeys map.entries).length := by
  -- A table has the keys of its entries, each once.
  obtain ⟨map, read, _, rfl, rfl⟩ := Store.loadFile_eq_ok_iff.mp loaded
  refine ⟨map, read, rfl, ?_⟩
  rw [Store.table?_changeTable_empty, Option.getD_some]
  exact Table.size_ofList map.entries

/--
The streams, the exit code and the files tell the truth about every run.

The exit code is zero exactly if the run succeeded, and otherwise the last that is printed is the
error. A run whose language map is not loaded prints and changes nothing else. Any other run tells
of the load, its findings in the order of the lines, and in one more line of its end. It prints the
store if the dump goes to a dash, also if it fails later. No file changes but the output of a run
that succeeded and the target of the dump after a load.
-/
theorem command_tells_run {line : List String} (accepted : optionsOf line = .ok options)
    (files : FileTree) :
    let job := options.job
    let outcome := (run options ⟨files, .empty⟩).1
    ∃ exitCode after, command line files = .finished exitCode after ∧
      (exitCode = 0 ↔ ∃ substitution, outcome = .ok substitution) ∧
      (∀ error, outcome = .error error → exitCode = 1 ∧
        ∃ earlier, after.notes.stderr = earlier ++ s!"Error: {error.message}\n") ∧
      (∀ error store, job.load files = (.error error, store) →
        outcome = .error error ∧ after = ⟨files, ⟨"", s!"Error: {error.message}\n"⟩⟩) ∧
      (∀ load store, job.load files = (.ok load, store) →
        after.notes.stdout = (if options.dump = some "-" then store.exportText ++ "\n" else "") ∧
        ∃ map, files.readMap job.languageMap = .ok map ∧
          (map.diagnostics.map Diagnostic.line).Pairwise (· < ·) ∧
          after.notes.stderr = Command.onLines (
            map.diagnostics.map (·.message job.languageMap) ++
            [s!"{job.languageMap}: loaded {map.records.length} messages.",
              match outcome with
              | .ok _ => s!"{job.output}: replaced {(firstKeys map.entries).length} words."
              | .error error => s!"Error: {error.message}"])) ∧
      ∀ location, after.files.node? location ≠ files.node? location →
        (∃ substitution, outcome = .ok substitution) ∧
            files.locateTarget job.output = .ok location ∨
          (∃ load store, job.load files = (.ok load, store)) ∧
            ∃ target, options.dump = some target ∧ target ≠ "-" ∧
              files.locateTarget target = .ok location := by
  -- Name what the run leaves, which the command completes with the line of a failure.
  intro job
  rcases ran : run options ⟨files, .empty⟩ with ⟨outcome, left⟩
  dsimp only
  refine ⟨exitCodeOf outcome, concluded outcome left, command_eq accepted ran, ?_, ?_, ?_, ?_, ?_⟩
  · cases outcome <;> simp [exitCodeOf]
  · -- The line of a failure is printed behind all the others.
    intro error failed
    rw [failed]
    refine ⟨rfl, left.notes.stderr, ?_⟩
    rw [← onLines_error]
    rfl
  · -- Nothing but that line is printed when the language map is not loaded.
    intro error store unloaded
    obtain ⟨failed, same⟩ := run_of_load_error ran unloaded
    rw [failed, same, ← onLines_error]
    exact ⟨rfl, by simp [concluded, Console.reported, Console.empty]⟩
  · intro load store loaded
    -- After a load the streams hold the dump, the findings and the last line.
    have noted := notes_concluded_of_load ran loaded
    simp only [Console.empty, String.empty_append] at noted
    obtain ⟨map, read, reported, size⟩ := size_table_of_load loaded
    obtain ⟨text, _, made⟩ := FileTree.readMap_eq_ok_iff.mp read
    have inOrder : (map.diagnostics.map Diagnostic.line).Pairwise (· < ·) := by
      rw [made, LanguageMap.ofText]
      exact diagnostics_increasing _
    refine ⟨?_, map, read, inOrder, ?_⟩
    · rw [noted]
      rfl
    · rw [noted, reported, LoadReport.messages, List.append_assoc]
      cases outcome with
      | error error => rfl
      | ok substitution =>
        -- All that was loaded has been replaced.
        obtain ⟨_, replaced, _⟩ := run_ok_of_load ran loaded
        rw [lastLine, Substitution.summary, replaced, size]
        rfl
  · intro location changed
    -- To print the last line changes no file.
    have same : (concluded outcome left).files = left.files := by cases outcome <;> rfl
    rw [same] at changed
    rcases loaded : job.load files with ⟨_ | load, store⟩
    · -- Without a load nothing has changed.
      rw [(run_of_load_error ran loaded).2] at changed
      exact absurd rfl changed
    · rcases place_of_changed ran loaded changed with output | target
      · exact Or.inl output
      · exact Or.inr ⟨⟨load, store, rfl⟩, target⟩

/-- The store has been printed, though the input then turns out to be missing. -/
theorem command_missing_input :
    let line := ["missing.txt", "out.txt", "a.langmap", "--dump", "-"]
    let options : ReplaceOptions :=
      ⟨⟨"missing.txt", "out.txt", "a.langmap", mainDomain, ⟨false⟩⟩, some "-"⟩
    let files := FileTree.empty.put ["a.langmap"]
      (.file (Utf8.encode "stray\n'''\nHELLO\n'''\nHi\n'''\n"))
    optionsOf line = .ok options ∧
    ∃ after, command line files = .finished 1 after ∧
      after.notes.stdout = "\x7b\n  \"main\": \x7b\n    \"entries\": [\n      \x7b\n" ++
        "        \"key\": \"HELLO\",\n        \"message\": \"Hi\"\n" ++
        "      \x7d\n    ]\n  \x7d\n\x7d\n" ∧
      after.notes.stderr = "a.langmap:1: syntax error\n" ++ "a.langmap: loaded 1 messages.\n" ++
        "Error: I/O error: No such file or directory (os error 2)\n" ∧
      ∀ location, after.files.node? location = files.node? location := by
  intro line options files
  -- The run is evaluated up to its failure, as are the load and what the dump prints.
  have accepted : optionsOf line = .ok options := by decide +kernel
  have fails : (run options ⟨files, .empty⟩).1 = .error (.file .notFound) := by decide +kernel
  have loads : (options.job.load files).1 =
      .ok ⟨"a.langmap", mainDomain, 1, [.syntaxError 1]⟩ := by decide +kernel
  have readMap : files.readMap "a.langmap" = .ok ⟨[⟨"HELLO", "Hi", 6⟩], [.syntaxError 1]⟩ := by
    decide +kernel
  have printed : (options.job.load files).2.exportText ++ "\n" =
      "\x7b\n  \"main\": \x7b\n    \"entries\": [\n      \x7b\n" ++
        "        \"key\": \"HELLO\",\n        \"message\": \"Hi\"\n" ++
        "      \x7d\n    ]\n  \x7d\n\x7d\n" := by decide +kernel
  -- All else is told by the general statement, which here speaks of a failure.
  obtain ⟨exitCode, after, ran, _, failed, _, told, changed⟩ := command_tells_run accepted files
  rw [(failed _ fails).1] at ran
  obtain ⟨stdout, map, read, _, stderr⟩ := told _ _ (Prod.fst_eq_iff.mp loads)
  cases read.symm.trans readMap
  rw [fails] at stderr
  refine ⟨accepted, after, ran, ?_, ?_, ?_⟩
  · rw [stdout, if_pos rfl, printed]
  · rw [stderr]
    decide +kernel
  · -- Only the output or the target of a dump could change, and there is neither.
    intro location
    by_contra other
    rcases changed location other with ⟨⟨_, succeeds⟩, _⟩ | ⟨_, target, asked, apart, _⟩
    · rw [fails] at succeeds
      cases succeeds
    · cases asked
      exact apart rfl

end Phrasebook.Replace
