import Phrasebook.Proofs.FileSubstitution
import Phrasebook.Proofs.Files.Encoding

/-! Loads and substitutions that do not depend on how the texts of files are encoded. -/

namespace Phrasebook

/-- What stands at two places is the same, or it is one text in two encodings. -/
def HoldAlike (first second : Option Node) : Prop :=
  first = second ∨
    -- A text that is empty or starts with a mark may be read as something else.
    ∃ text : String, text ≠ "" ∧ text.toList.head? ≠ some '\uFEFF' ∧
      ∃ one two : TextEncoding,
        first = some (.file (one.encode text)) ∧ second = some (.file (two.encode text))

namespace FileTree

/-- Two trees that are the same but for the encodings of texts, chosen for each file on its own. -/
structure Recoded (first second : FileTree) : Prop where
  home : first.workingDirectory = second.workingDirectory
  alike : ∀ location, HoldAlike (first.node? location) (second.node? location)

/-- A tree is the same as itself. -/
theorem Recoded.refl (files : FileTree) : files.Recoded files :=
  ⟨rfl, fun _ => Or.inl rfl⟩

namespace Recoded

variable {first second : FileTree} (recoded : first.Recoded second)

include recoded

/-- Trees in which a place is changed alike are still the same but for encodings. -/
theorem put {place : Location} (below : place ≠ []) {one two : Node}
    (alike : HoldAlike (some one) (some two)) :
    (first.put place one).Recoded (second.put place two) := by
  -- The place itself holds the nodes that are alike, and any other place what it held.
  refine ⟨recoded.home, fun location => ?_⟩
  rw [node?_put _ _ _ below, node?_put _ _ _ below]
  split
  · exact alike
  · exact recoded.alike location

/-- The directories of both trees are the same. -/
theorem directory_iff (location : Location) :
    first.node? location = some .directory ↔ second.node? location = some .directory := by
  -- Where a file is recoded, a file stands in both.
  rcases recoded.alike location with same | ⟨text, _, _, one, two, left, right⟩
  · rw [same]
  · simp [left, right]

/-- Something stands in one tree exactly where something stands in the other. -/
theorem isSome_eq (location : Location) :
    (first.node? location).isSome = (second.node? location).isSome := by
  -- A recoded file stands for a file, and any other node for itself.
  rcases recoded.alike location with same | ⟨text, _, _, one, two, left, right⟩
  · rw [same]
  · rw [left, right]
    rfl

/-- Paths start alike. -/
theorem start_eq : first.start = second.start := by
  -- A path starts at the root or in the working directory.
  funext path
  rw [start, start, recoded.home]

/-- Names are entered alike. -/
theorem enter_eq : first.enter = second.enter := by
  -- Names are entered from directories only.
  funext here name
  simp only [enter, ne_eq, recoded.directory_iff]

/-- Names are followed alike. -/
theorem follow_eq : first.follow = second.follow := by
  -- To follow a name is to enter it and to ask whether something is there.
  funext here name
  simp only [follow, recoded.enter_eq, recoded.isSome_eq]

/-- A path leads to the same place in both trees. -/
theorem locate_eq (path : String) : first.locate path = second.locate path := by
  -- A path is located by following its names.
  simp only [locate, recoded.follow_eq, recoded.start_eq]

/-- A file is written at the same place in both trees. -/
theorem locateTarget_eq (path : String) : first.locateTarget path = second.locateTarget path := by
  -- The checks of a target only ask for directories.
  simp only [locateTarget, recoded.follow_eq, recoded.start_eq, recoded.enter_eq,
    recoded.directory_iff]

/-- Every path is read as the same text in both trees, or fails alike. -/
theorem readText_eq (path : String) : first.readText path = second.readText path := by
  -- Either path leads to the same place, at which two encodings of one text may stand.
  have there := recoded.locate_eq path
  cases found : first.locate path with
  | error cause =>
    refine readText_congr ?_
    rw [read, read, ← there, found]
    rfl
  | ok location =>
    rw [found] at there
    rcases recoded.alike location with same | ⟨text, filled, plain, one, two, left, right⟩
    · -- The same content stands there.
      refine readText_congr ?_
      rw [read, read, ← there, found]
      simp only [Bind.bind, Except.bind, same]
    · -- Both encodings are decoded to the one text.
      have leftRead : first.read path = .ok (one.encode text) :=
        read_eq_ok_iff.mpr ⟨location, found, left⟩
      have rightRead : second.read path = .ok (two.encode text) :=
        read_eq_ok_iff.mpr ⟨location, there.symm, right⟩
      rw [readText_of_read_encode filled plain leftRead,
        readText_of_read_encode filled plain rightRead]

/-- A job loads the same from both trees. -/
theorem load_eq (job : FileJob) : job.load first = job.load second := by
  -- A load takes no more from the files than this text.
  rw [FileJob.load, FileJob.load, Store.loadFile_eq, Store.loadFile_eq, recoded.readText_eq]

/-- To rewrite the file fails alike, or it puts the same content at the same place. -/
theorem rewriteFile_cases (job : FileJob) (store : Store) (load : LoadReport) :
    (∃ error, rewriteFile job store load first = .error error ∧
      rewriteFile job store load second = .error error) ∨
    ∃ report place, first.locateTarget job.output = .ok place ∧
      let node := Node.file (Utf8.encode report.substitution.text)
      rewriteFile job store load first = .ok (report, first.put place node) ∧
        rewriteFile job store load second = .ok (report, second.put place node) := by
  -- The run on the first tree tells of the one on the second.
  cases rewritten : rewriteFile job store load first with
  | error error =>
    -- The input and the place of the output are the same.
    have failure := failureOf_rewriteFile job store load second
    rw [← recoded.readText_eq, ← recoded.locateTarget_eq,
      ← failureOf_rewriteFile job store load first, rewritten] at failure
    exact Or.inl ⟨error, rfl, failureOf_eq_some_iff.mp failure⟩
  | ok done =>
    obtain ⟨report, files⟩ := done
    -- The same text is read and made, so the same bytes are written.
    obtain ⟨input, opened, replaced, written, loaded⟩ := rewriteFile_eq_ok_iff.mp rewritten
    obtain ⟨place, reached, rfl⟩ := writeText_eq_ok_iff.mp written
    refine Or.inr ⟨report, place, reached, rfl, ?_⟩
    refine rewriteFile_eq_ok_iff.mpr ⟨input, ?_, replaced, ?_, loaded⟩
    · rw [← recoded.readText_eq, opened]
    · exact writeText_eq_ok_iff.mpr ⟨place, (recoded.locateTarget_eq _).symm.trans reached, rfl⟩

/--
A substitution has the same outcome on both trees, and leaves them the same but for encodings.

If it succeeds, the output holds the same bytes in both.
-/
theorem substituteFile_eq {κ : Type} (job : FileJob) (notes : κ) :
    let one := substituteFile job ⟨first, notes⟩
    let two := substituteFile job ⟨second, notes⟩
    one.1 = two.1 ∧ one.2.files.Recoded two.2.files ∧
      ∀ report, one.1 = .ok report →
        one.2.files.read job.output = .ok (Utf8.encode report.substitution.text) ∧
        two.2.files.read job.output = .ok (Utf8.encode report.substitution.text) := by
  -- Both runs load the same, and rewrite the file alike.
  intro one two
  simp only [one, two, substituteFile_eq_rewriteFile, ← recoded.load_eq]
  rcases job.load first with ⟨error | load, store⟩
  · exact ⟨rfl, recoded, by simp⟩
  · dsimp only
    rcases recoded.rewriteFile_cases job store load with
      ⟨error, left, right⟩ | ⟨report, place, reached, left, right⟩
    · rw [left, right]
      exact ⟨rfl, recoded, by simp⟩
    · rw [left, right]
      -- What is written is not encoded in any other way.
      have below := ne_root_of_free (free_of_locateTarget reached)
      refine ⟨rfl, recoded.put below (Or.inl rfl), ?_⟩
      intro other same
      cases same
      have there := (recoded.locateTarget_eq job.output).symm.trans reached
      exact ⟨read_put_self reached, read_put_self there⟩

end Recoded

end FileTree

/--
Loads and substitutions do not depend on how the texts of files are encoded.

A text that is not empty and does not start with a mark is read alike from all four encodings,
with its line endings normalized, and a file that holds it is loaded as the text itself. If two
trees of files are the same but for encodings, chosen for each file on its own, a substitution has
the same outcome on both and writes the same bytes.
-/
theorem readText_whatever_encoding :
    (∀ text : String, text ≠ "" → text.toList.head? ≠ some '\uFEFF' →
      ∀ (encoding : TextEncoding) (files : FileTree) (path : String),
        files.read path = .ok (encoding.encode text) →
          files.readText path = .ok (normalizeNewlines text) ∧
          ∀ (store : Store) (domain : String) (options : LoadOptions),
            store.loadFile files path domain options =
              store.loadText text path domain options) ∧
    ∀ first second : FileTree, first.Recoded second →
      ∀ job : FileJob,
        let one := substituteFile job ⟨first, ()⟩
        let two := substituteFile job ⟨second, ()⟩
        one.1 = two.1 ∧
        ∀ report, one.1 = .ok report →
          one.2.files.read job.output = .ok (Utf8.encode report.substitution.text) ∧
          two.2.files.read job.output = .ok (Utf8.encode report.substitution.text) := by
  -- The first part is about one file, and the second about whole trees.
  refine ⟨?_, ?_⟩
  · intro text filled plain encoding files path content
    exact ⟨FileTree.readText_of_read_encode filled plain content,
      Store.loadFile_of_read_encode filled plain content⟩
  · intro first second recoded job
    obtain ⟨outcome, _, written⟩ := recoded.substituteFile_eq job ()
    exact ⟨outcome, written⟩

/-- A map in one UTF-16 and an input in the other are as good as both in UTF-8 without a mark. -/
theorem substituteFile_mixed_encodings :
    let map := "'''\r\nHi\r\n'''\r\n😀\r\n'''\r\n"
    let input := "Hi, Zoë"
    let job : FileJob := ⟨"in.txt", "out.txt", "map.langmap", mainDomain, ⟨true⟩⟩
    let holding := fun one two : TextEncoding =>
      (FileTree.empty.put ["map.langmap"] (.file (one.encode map))).put ["in.txt"]
        (.file (two.encode input))
    let first := holding (.marked (.utf16 .littleEndian)) (.marked (.utf16 .bigEndian))
    let second := holding .unmarked .unmarked
    let report : FileReport := ⟨⟨"map.langmap", mainDomain, 1, []⟩, ⟨"😀, Zoë", 1⟩⟩
    first.readText "map.langmap" = .ok "'''\nHi\n'''\n😀\n'''\n" ∧
    (Store.empty.loadFile first "map.langmap" mainDomain ⟨true⟩ =
      Store.empty.loadText map "map.langmap" mainDomain ⟨true⟩) ∧
    first.Recoded second ∧
    (substituteFile job ⟨first, ()⟩).1 = .ok report ∧
    (substituteFile job ⟨second, ()⟩).1 = .ok report ∧
    (substituteFile job ⟨first, ()⟩).2.files.read "out.txt" = .ok (Utf8.encode "😀, Zoë") := by
  -- Two files are recoded, one after the other, and the run is evaluated on UTF-8 alone.
  intro map input job holding first second report
  have content : first.read "map.langmap" =
      .ok (TextEncoding.encode (.marked (.utf16 .littleEndian)) map) := by decide +kernel
  have normal : normalizeNewlines map = "'''\nHi\n'''\n😀\n'''\n" := by decide +kernel
  obtain ⟨read, loaded⟩ := readText_whatever_encoding.1 map (by decide +kernel)
    (by decide +kernel) _ first "map.langmap" content
  have recoded : first.Recoded second :=
    ((FileTree.Recoded.refl .empty).put (by decide)
      (Or.inr ⟨map, by decide +kernel, by decide +kernel, _, _, rfl, rfl⟩)).put (by decide)
      (Or.inr ⟨input, by decide +kernel, by decide +kernel, _, _, rfl, rfl⟩)
  -- The run on the recoded files has the outcome of this one.
  have succeeds : (substituteFile job ⟨second, ()⟩).1 = .ok report := by decide +kernel
  obtain ⟨outcome, written⟩ := readText_whatever_encoding.2 first second recoded job
  have same := outcome.trans succeeds
  exact ⟨normal ▸ read, loaded _ _ _, recoded, same, succeeds, (written report same).1⟩

end Phrasebook
