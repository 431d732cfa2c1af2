import Phrasebook.Proofs.Command.Dump
import Phrasebook.Proofs.Command.Transcript
import Phrasebook.Proofs.Files.SameFile

/-! A dump that the rest of the run does not notice. -/

namespace Phrasebook.Replace

variable {options : ReplaceOptions} {job : FileJob} {target : String}
  {workspace after : Workspace Console} {substitution : Substitution}

/-- A text that is read after a dump to somewhere else was there before. -/
theorem DumpedAt.readText_of_readText {files dumped : FileTree} {path text : String}
    (left : DumpedAt ⟨job, some target⟩ files dumped)
    (apart : target = "-" ∨ ¬ files.SameFile target path)
    (readAfter : dumped.readText path = .ok text) : files.readText path = .ok text := by
  -- A dump that changes a file writes its target, which the text is not read from.
  rcases left with rfl | ⟨_, asked, other, written⟩
  · exact readAfter
  · cases asked
    exact written.readText_of_readText (apart.resolve_left other) readAfter

/-- A run with a dump loads the map, dumps it, and then reads and writes next to the dump. -/
theorem stages_of_run (succeeds : run options workspace = (.ok substitution, after)) :
    ∃ load store dumped input place,
      Store.empty.loadFile workspace.files options.job.languageMap options.job.domain
        options.job.options = (.ok load, store) ∧
      DumpedAt options workspace.files dumped ∧
      dumped.readText options.job.input = .ok input ∧
      store.substitute options.job.domain input = .ok substitution ∧
      workspace.files.locateTarget options.job.output = .ok place ∧
      after.files = dumped.put place (.file (Utf8.encode substitution.text)) ∧
      after.notes.stderr = workspace.notes.stderr ++
        Command.onLines (load.messages ++ [substitution.summary options.job.output]) := by
  -- The stages are those of every substitution, where what follows the load is the dump.
  obtain ⟨load, changed, substituted, same⟩ := run_eq_ok_iff.mp succeeds
  obtain ⟨store, between, input, loaded, followed, opened, replaced, written, _⟩ :=
    substituteFileWith_eq_ok_iff.mp substituted
  obtain ⟨_, dumped⟩ := leaves_of_followed followed
  -- The place of the output is the one that it had before the dump.
  obtain ⟨place, reached, put⟩ := FileTree.writeText_eq_ok_iff.mp written
  obtain ⟨told, _⟩ := run_ok_of_load succeeds loaded
  refine ⟨load, store, between.files, input, place, loaded, dumped, opened, replaced,
    dumped.locateTarget_iff.mp reached, ?_, ?_⟩
  · rw [same, put]
  · rw [told]

/--
A run with a dump that succeeds does what the same run does without one.

The dump is printed, or it goes to a file other than the input: be it a new one, the language map
that was just read, or the output that is then written over. The run without it starts from the
same files and succeeds with the same substitution. It tells the same, writes the same output, and
leaves the same files but for the target of the dump.
-/
theorem run_of_run_with_dump (apart : target = "-" ∨ ¬ workspace.files.SameFile target job.input)
    (succeeds : run ⟨job, some target⟩ workspace = (.ok substitution, after)) :
    ∃ plain, run ⟨job, none⟩ workspace = (.ok substitution, plain) ∧
      plain.notes.stderr = after.notes.stderr ∧
      plain.files.read job.output = .ok (Utf8.encode substitution.text) ∧
      after.files.read job.output = .ok (Utf8.encode substitution.text) ∧
      ∀ location, plain.files.node? location ≠ after.files.node? location →
        target ≠ "-" ∧ workspace.files.locateTarget target = .ok location := by
  -- Take the run apart into its stages, to put them together again without the dump.
  obtain ⟨load, store, dumped, input, place, loaded, left, opened, replaced, reached, files,
    told⟩ := stages_of_run succeeds
  -- The input was there before the dump, and so was the place of the output.
  have openedBefore := left.readText_of_readText apart opened
  let changed := workspace.files.put place (.file (Utf8.encode substitution.text))
  have written : workspace.files.writeText job.output substitution.text = .ok changed :=
    FileTree.writeText_eq_ok_iff.mpr ⟨place, reached, rfl⟩
  have ran : run ⟨job, none⟩ workspace = (.ok substitution, ⟨changed,
      (workspace.notes.reported load.messages).reported [substitution.summary job.output]⟩) :=
    run_without_dump job loaded openedBefore replaced written
  -- Both runs put the same output in the same place.
  have root := FileTree.ne_root_of_free (FileTree.free_of_locateTarget reached)
  refine ⟨_, ran, ?_, FileTree.read_put_self reached, ?_, ?_⟩
  · rw [told, onLines_append, ← String.append_assoc]
    rfl
  · rw [files]
    exact FileTree.read_put_self (left.locateTarget_iff.mpr reached)
  · intro location changed
    rw [files, FileTree.node?_put _ _ _ root, FileTree.node?_put _ _ _ root] at changed
    -- So only the dump can make the files differ anywhere else.
    by_cases same : place = location
    · simp [same] at changed
    · rw [if_neg same, if_neg same] at changed
      obtain ⟨_, asked, other, there⟩ := left.target_of_changed (Ne.symm changed)
      cases asked
      exact ⟨other, there⟩

/-- The dump may go over the very language map that was loaded. -/
theorem run_greetings_over_map :
    ¬ greetingFiles.SameFile "map.langmap" greetingJob.input ∧
    ∃ after plain,
      run ⟨greetingJob, some "map.langmap"⟩ ⟨greetingFiles, .empty⟩ =
        (.ok ⟨"Greetings world", 2⟩, after) ∧
      run ⟨greetingJob, none⟩ ⟨greetingFiles, .empty⟩ = (.ok ⟨"Greetings world", 2⟩, plain) ∧
      plain.notes.stderr = after.notes.stderr ∧
      plain.files.node? ["in.txt"] = after.files.node? ["in.txt"] ∧
      plain.files.node? ["out.txt"] = after.files.node? ["out.txt"] := by
  -- The map and the input are found in two different places.
  have map : greetingFiles.destination "map.langmap" = .ok ["map.langmap"] := by decide +kernel
  have input : greetingFiles.destination greetingJob.input = .ok ["in.txt"] := by decide +kernel
  have apart : ¬ greetingFiles.SameFile "map.langmap" greetingJob.input := by
    intro same
    obtain ⟨location, first, second⟩ := same
    have equal := (Except.ok.inj (map.symm.trans first)).trans
      (Except.ok.inj (input.symm.trans second)).symm
    exact absurd equal (by decide +kernel)
  -- The run with the dump is evaluated, and the one without follows from it.
  have result : (run ⟨greetingJob, some "map.langmap"⟩ ⟨greetingFiles, .empty⟩).1 =
      .ok ⟨"Greetings world", 2⟩ := by decide +kernel
  rcases ran : run ⟨greetingJob, some "map.langmap"⟩ ⟨greetingFiles, .empty⟩ with ⟨outcome, after⟩
  rw [ran] at result
  cases result
  obtain ⟨plain, ranPlain, told, _, _, changed⟩ := run_of_run_with_dump (Or.inr apart) ran
  -- Whatever else has changed stands where the map stands.
  have onlyMap : ∀ location, location ≠ ["map.langmap"] →
      plain.files.node? location = after.files.node? location := by
    intro location elsewhere
    by_contra other
    have target := FileTree.destination_of_locateTarget (changed location other).2
    exact elsewhere (Except.ok.inj (target.symm.trans map))
  exact ⟨apart, after, plain, rfl, ranPlain, told, onlyMap _ (by decide +kernel),
    onlyMap _ (by decide +kernel)⟩

end Phrasebook.Replace
