import Phrasebook.Proofs.FileSubstitution

/-! The stages of a substitution from file to file, the first of which to fail decides. -/

namespace Phrasebook

variable {κ : Type}

/-- What follows a load, with a note of what it was called with. -/
def recorded (onLoad : Store → LoadReport → Run κ Unit) (store : Store) (load : LoadReport) :
    Run (κ × List (Store × LoadReport)) Unit := fun workspace =>
  -- The call is put down whether or not it fails.
  let (outcome, after) := onLoad store load ⟨workspace.files, workspace.notes.1⟩
  (outcome, ⟨after.files, after.notes, workspace.notes.2 ++ [(store, load)]⟩)

/-- What a job has loaded before anything follows that. -/
def FileJob.loaded? (job : FileJob) (files : FileTree) : Option (Store × LoadReport) :=
  match job.load files with
  | (.ok load, store) => some (store, load)
  | (.error _, _) => none

/-- A stage at which a substitution can fail. -/
inductive Stage where
  /-- The language map is opened and decoded. -/
  | readMap
  /-- A strict load looks for a key that comes again. -/
  | checkKeys
  /-- What is to follow the load is done. -/
  | followLoad
  /-- The input is opened and decoded. -/
  | readInput
  /-- The output is opened to be written. -/
  | openOutput
  deriving DecidableEq, Repr

namespace Stage

/-- The stages in their order. -/
def all : List Stage :=
  [readMap, checkKeys, followLoad, readInput, openOutput]

/-- The stages that come before a stage. -/
def before (stage : Stage) : List Stage :=
  all.takeWhile (· ≠ stage)

/-- How a stage fails on some files, if it does, as long as the stages it needs do not. -/
def failure? (job : FileJob) (onLoad : Store → LoadReport → Run κ Unit)
    (workspace : Workspace κ) : Stage → Option Error
  | readMap => failureOf (workspace.files.readText job.languageMap)
  -- A stage fails for a reason of its own only if what it needs is there.
  | checkKeys =>
    match workspace.files.readText job.languageMap with
    | .ok text =>
      (Store.empty.refusedRecord? job.domain job.options (LanguageMap.ofText text).records).map
        fun record => .duplicateKey record.key record.line
    | .error _ => none
  | followLoad =>
    match job.loaded? workspace.files with
    | some (store, load) => failureOf (onLoad store load workspace).1
    | none => none
  | readInput => failureOf (workspace.files.readText job.input)
  -- The text can always be written once the place of the output is found.
  | openOutput => (failureOf (workspace.files.locateTarget job.output)).map .file

/-- The first failure among all stages, whatever they are. -/
theorem findSome?_all (failure? : Stage → Option Error) :
    all.findSome? failure? =
      ((failure? readMap).or (failure? checkKeys)).or
        ((failure? followLoad).or ((failure? readInput).or (failure? openOutput))) := by
  -- A stage is looked at if none of those before it fails.
  have first : ∀ stage later, (stage :: later).findSome? failure? =
      (failure? stage).or (later.findSome? failure?) := by
    intro stage later
    rw [List.findSome?_cons]
    cases failure? stage <;> rfl
  simp only [all, first, List.findSome?_nil, Option.or_none, Option.or_assoc]

end Stage

variable {job : FileJob} {onLoad : Store → LoadReport → Run κ Unit}
  {workspace changed : Workspace κ} {store : Store} {load : LoadReport}

/-- What follows a load is the same with a note of it, but for the note. -/
theorem recorded_eq {outcome : Except Error Unit} (calls : List (Store × LoadReport))
    (followed : onLoad store load workspace = (outcome, changed)) :
    recorded onLoad store load ⟨workspace.files, workspace.notes, calls⟩ =
      (outcome, ⟨changed.files, changed.notes, calls ++ [(store, load)]⟩) := by
  -- The note is added after the outcome is known.
  unfold recorded
  dsimp only
  rw [followed]

/-- What a successful load has made is what the job has loaded. -/
theorem loaded?_of_load (loaded : job.load workspace.files = (.ok load, store)) :
    job.loaded? workspace.files = some (store, load) := by
  -- The load has succeeded.
  rw [FileJob.loaded?, loaded]

/-- A recorded substitution is the same, and what follows the load is called at most once. -/
theorem substituteFileWith_recorded (job : FileJob) (onLoad : Store → LoadReport → Run κ Unit)
    (workspace : Workspace κ) :
    let (outcome, after) := substituteFileWith job onLoad workspace
    substituteFileWith job (recorded onLoad) ⟨workspace.files, workspace.notes, []⟩ =
      (outcome, ⟨after.files, after.notes, (job.loaded? workspace.files).toList⟩) := by
  -- The course of the run tells what the load has made, if anything.
  obtain ⟨outcome, after, course⟩ := exists_course job onLoad workspace
  rw [course.substituteFileWith_eq]
  dsimp only
  rw [course_iff]
  -- The recorded run takes the same course.
  cases course with
  | unloaded loaded =>
    have nothing : job.loaded? workspace.files = none := by rw [FileJob.loaded?, loaded]
    rw [nothing]
    exact .unloaded loaded
  | stopped loaded followed =>
    rw [loaded?_of_load loaded]
    exact .stopped loaded (recorded_eq [] followed)
  | unwritten loaded followed rewritten =>
    rw [loaded?_of_load loaded]
    exact .unwritten loaded (recorded_eq [] followed) rewritten
  | written loaded followed rewritten =>
    rw [loaded?_of_load loaded]
    exact @Course.written _ job (recorded onLoad) ⟨workspace.files, workspace.notes, []⟩ _ _ _ _ _
      loaded (recorded_eq [] followed) rewritten

/-- A job loads its map unless that cannot be read or one of its keys comes again. -/
theorem failureOf_load (job : FileJob) (onLoad : Store → LoadReport → Run κ Unit)
    (workspace : Workspace κ) :
    failureOf (job.load workspace.files).1 =
      (Stage.failure? job onLoad workspace .readMap).or
        (Stage.failure? job onLoad workspace .checkKeys) := by
  -- What is read is loaded as a text.
  rw [FileJob.load, Store.loadFile_eq]
  unfold Stage.failure?
  dsimp only
  cases workspace.files.readText job.languageMap with
  | error error => rfl
  | ok text => exact Store.failureOf_load .empty (.ofText text) _ _ _

/-- A job has loaded something exactly if its map was read and no record of it was refused. -/
theorem isSome_loaded?_iff (job : FileJob) (onLoad : Store → LoadReport → Run κ Unit)
    (workspace : Workspace κ) :
    (job.loaded? workspace.files).isSome ↔
      Stage.failure? job onLoad workspace .readMap = none ∧
        Stage.failure? job onLoad workspace .checkKeys = none := by
  -- The load fails at one of the two stages or succeeds.
  rw [← Option.or_eq_none_iff, ← failureOf_load, FileJob.loaded?]
  rcases job.load workspace.files with ⟨_ | load, store⟩ <;> simp [failureOf]

/-- After a load, the next stage fails as what follows the load does. -/
theorem failure?_followLoad (loaded : job.load workspace.files = (.ok load, store)) :
    Stage.failure? job onLoad workspace .followLoad =
      failureOf (onLoad store load workspace).1 := by
  -- The stage looks at what the job has loaded.
  unfold Stage.failure?
  dsimp only
  rw [loaded?_of_load loaded]

/-- Once the load and what follows it are over, no stage before the input has failed. -/
theorem failure?_eq_none_of_followed (loaded : job.load workspace.files = (.ok load, store))
    (followed : onLoad store load workspace = (.ok (), changed)) {stage : Stage}
    (early : stage ∈ Stage.before .readInput) :
    Stage.failure? job onLoad workspace stage = none := by
  -- Each of the three stages is behind the run.
  have read := (isSome_loaded?_iff job onLoad workspace).mp (by rw [loaded?_of_load loaded]; rfl)
  have stages : Stage.before .readInput = [.readMap, .checkKeys, .followLoad] := rfl
  simp only [stages, List.mem_cons, List.not_mem_nil, or_false] at early
  rcases early with rfl | rfl | rfl
  · exact read.1
  · exact read.2
  · rw [failure?_followLoad loaded, followed]
    rfl

/-- Jobs that load the same map run alike if they rewrite the files alike. -/
theorem substituteFileWith_congr {other : FileJob} (sameLoad : other.load = job.load)
    (alike : ∀ store load changed, job.load workspace.files = (.ok load, store) →
      onLoad store load workspace = (.ok (), changed) →
      rewriteFile other store load changed.files = rewriteFile job store load changed.files) :
    substituteFileWith other onLoad workspace = substituteFileWith job onLoad workspace := by
  -- The course of one job is a course of the other.
  obtain ⟨outcome, after, course⟩ := exists_course job onLoad workspace
  rw [course.substituteFileWith_eq, course_iff]
  -- Up to the input nothing else is looked at.
  cases course with
  | unloaded loaded => exact .unloaded (sameLoad ▸ loaded)
  | stopped loaded followed => exact .stopped (sameLoad ▸ loaded) followed
  | unwritten loaded followed rewritten =>
    exact .unwritten (sameLoad ▸ loaded) followed
      ((alike _ _ _ loaded followed).trans rewritten)
  | written loaded followed rewritten =>
    exact .written (sameLoad ▸ loaded) followed ((alike _ _ _ loaded followed).trans rewritten)

section Still

variable (still : ∀ store load workspace, (onLoad store load workspace).2.files = workspace.files)

include still

/-- What follows a load has left the files alone, however it ended. -/
theorem files_of_followed {outcome : Except Error Unit}
    (followed : onLoad store load workspace = (outcome, changed)) :
    changed.files = workspace.files := by
  -- What is known of the call is known of its end.
  have same := still store load workspace
  rwa [followed] at same

/-- A substitution fails as the first of its stages that does. -/
theorem failureOf_substituteFileWith (workspace : Workspace κ) :
    failureOf (substituteFileWith job onLoad workspace).1 =
      Stage.all.findSome? (Stage.failure? job onLoad workspace) := by
  -- The stages up to the load and those of the file are told together.
  obtain ⟨outcome, after, course⟩ := exists_course job onLoad workspace
  rw [course.substituteFileWith_eq, Stage.findSome?_all, ← failureOf_load]
  -- The input and the output are looked for in the files as they were at first.
  have last : ∀ store load, (Stage.failure? job onLoad workspace .readInput).or
      (Stage.failure? job onLoad workspace .openOutput) =
        failureOf (rewriteFile job store load workspace.files) :=
    fun store load => (failureOf_rewriteFile job store load workspace.files).symm
  -- Each course ends with the failure of its last stage, or without one.
  cases course with
  | unloaded loaded =>
    rw [loaded]
    rfl
  | stopped loaded followed =>
    rw [loaded, failure?_followLoad loaded, followed]
    rfl
  | @unwritten load store _ _ loaded followed rewritten =>
    rw [files_of_followed still followed] at rewritten
    rw [loaded, failure?_followLoad loaded, followed, last store load, rewritten]
    rfl
  | @written load store _ _ _ loaded followed rewritten =>
    rw [files_of_followed still followed] at rewritten
    rw [loaded, failure?_followLoad loaded, followed, last store load, rewritten]
    rfl

/-- A substitution that fails leaves the files as they were. -/
theorem files_of_failure {error : Error}
    (fails : (substituteFileWith job onLoad workspace).1 = .error error) :
    (substituteFileWith job onLoad workspace).2.files = workspace.files := by
  -- The course of the run tells where it ended.
  obtain ⟨outcome, after, course⟩ := exists_course job onLoad workspace
  rw [course.substituteFileWith_eq] at fails ⊢
  -- Only the last course changes the files, and it ends in a success.
  cases course with
  | unloaded => rfl
  | stopped _ followed => exact files_of_followed still followed
  | unwritten _ followed => exact files_of_followed still followed
  | written => cases fails

end Still

/--
A substitution fails as the first of its stages that does, and then leaves the files as they were.

This holds for whatever follows the load, as long as that leaves the files alone. It is called at
most once, and exactly if the map was read and no record was refused. A failure before the input
is read does not depend on the paths of the input and the output, and one at the input does not
depend on the path of the output.
-/
theorem substituteFileWith_first_failure
    (still : ∀ store load workspace, (onLoad store load workspace).2.files = workspace.files)
    (workspace : Workspace κ) :
    let failure? := Stage.failure? job onLoad workspace
    let run := fun job => substituteFileWith job onLoad workspace
    failureOf (run job).1 = Stage.all.findSome? failure? ∧
    (∀ error, (run job).1 = .error error → (run job).2.files = workspace.files) ∧
    substituteFileWith job (recorded onLoad) ⟨workspace.files, workspace.notes, []⟩ =
      ((run job).1,
        ⟨(run job).2.files, (run job).2.notes, (job.loaded? workspace.files).toList⟩) ∧
    ((job.loaded? workspace.files).isSome ↔
      failure? .readMap = none ∧ failure? .checkKeys = none) ∧
    (∀ input output, (∃ stage ∈ Stage.before .readInput, (failure? stage).isSome) →
      run { job with input, output } = run job) ∧
    ∀ output, (∃ stage ∈ Stage.before .openOutput, (failure? stage).isSome) →
      run { job with output } = run job := by
  -- What is left to show is which paths a failure can do without.
  intro failure? run
  refine ⟨failureOf_substituteFileWith still workspace, fun _ => files_of_failure still,
    substituteFileWith_recorded job onLoad workspace,
    isSome_loaded?_iff job onLoad workspace, ?_, ?_⟩
  · intro input output failed
    -- A stage before the input has failed, so the load or what follows it is the end.
    obtain ⟨stage, early, fails⟩ := failed
    refine substituteFileWith_congr rfl fun store load changed loaded followed => ?_
    have passed : failure? stage = none := failure?_eq_none_of_followed loaded followed early
    simp [passed] at fails
  · intro output failed
    obtain ⟨stage, early, fails⟩ := failed
    refine substituteFileWith_congr rfl fun store load changed loaded followed => ?_
    -- The stage before the output may also be that of the input itself.
    have stages : Stage.before .openOutput = Stage.before .readInput ++ [.readInput] := rfl
    rw [stages, List.mem_append, List.mem_singleton] at early
    rcases early with early | rfl
    · have passed : failure? stage = none := failure?_eq_none_of_followed loaded followed early
      simp [passed] at fails
    · -- Both jobs end with the failure of the input.
      obtain ⟨error, failure⟩ := Option.isSome_iff_exists.mp fails
      have unread : workspace.files.readText job.input = .error error :=
        failureOf_eq_some_iff.mp failure
      rw [files_of_followed still followed, rewriteFile, rewriteFile, unread]
      rfl

/-- A key that comes again fails the run, though all that comes after it would fail as well. -/
theorem substituteFileWith_repeated_key_first :
    let text := "'''\nHELLO\n'''\nHi\n'''\n'''\nHELLO\n'''\nHey\n'''\n"
    let files := FileTree.empty.put ["a.langmap"] (.file (Utf8.encode text))
    let job : FileJob := ⟨"missing.txt", "a.langmap/out.txt", "a.langmap", mainDomain, ⟨true⟩⟩
    let refuse : Store → LoadReport → Run Unit Unit := fun _ _ => Run.fail (.refused "stop")
    (∀ store load workspace, (refuse store load workspace).2.files = workspace.files) ∧
    (substituteFileWith job refuse ⟨files, ()⟩).1 = .error (.duplicateKey "HELLO" 10) ∧
    (substituteFileWith job refuse ⟨files, ()⟩).2.files = files ∧
    (substituteFileWith job (recorded refuse) ⟨files, (), []⟩).2.notes.2 = [] ∧
    substituteFileWith { job with input := "a.langmap", output := "b.txt" } refuse ⟨files, ()⟩ =
      substituteFileWith job refuse ⟨files, ()⟩ := by
  -- The map can be read, and the key comes again in it, whatever else is missing.
  intro text files job refuse
  have still : ∀ store load workspace,
      (refuse store load workspace).2.files = workspace.files := fun _ _ _ => rfl
  obtain ⟨first, unchanged, watched, loads, unopened, _⟩ :=
    @substituteFileWith_first_failure Unit job refuse still ⟨files, ()⟩
  have read : Stage.failure? job refuse ⟨files, ()⟩ .readMap = none := by decide +kernel
  have repeated : Stage.failure? job refuse ⟨files, ()⟩ .checkKeys =
      some (.duplicateKey "HELLO" 10) := by decide +kernel
  -- The first failure is that of the keys.
  have fails : (substituteFileWith job refuse ⟨files, ()⟩).1 =
      .error (.duplicateKey "HELLO" 10) := by
    rw [← failureOf_eq_some_iff, first, Stage.findSome?_all, read, repeated]
    rfl
  refine ⟨still, fails, unchanged _ fails, ?_, ?_⟩
  · -- Nothing was loaded, so nothing was called.
    have nothing : job.loaded? files = none := by
      rw [← Option.not_isSome_iff_eq_none, loads, repeated]
      simp
    rw [watched]
    exact congrArg Option.toList nothing
  · exact unopened _ _ ⟨.checkKeys, by decide, by rw [repeated]; rfl⟩

end Phrasebook
