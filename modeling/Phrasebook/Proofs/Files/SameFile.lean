import Phrasebook.Proofs.Files.TextFile

/-! Paths that lead to the same place, and files that stand elsewhere than the one just written. -/

namespace Phrasebook.FileTree

/-- Where a path leads, be something there or not. -/
def destination (files : FileTree) (path : String) : Except FileError Location := do
  let parsed ← Path.ofString path
  -- The last name need not lead to anything, as when a file is to be made.
  match parsed.names.getLast? with
  | none => return files.start parsed
  | some last =>
    let folder ← parsed.names.dropLast.foldlM files.follow (files.start parsed)
    files.enter folder last

/-- Two paths that lead to the same place, be something there or not. -/
def SameFile (files : FileTree) (first second : String) : Prop :=
  ∃ location, files.destination first = .ok location ∧ files.destination second = .ok location

/-- A file is written where its path leads. -/
theorem destination_of_locateTarget {files : FileTree} {path : String} {location : Location}
    (reached : files.locateTarget path = .ok location) :
    files.destination path = .ok location := by
  -- The checks on the way leave the last step as it is.
  obtain ⟨parsed, last, folder, read, final, walked, _, _, entered, _⟩ :=
    locateTarget_eq_ok_iff.mp reached
  refine except_bind_eq_ok_iff.mpr ⟨parsed, read, ?_⟩
  simp only [final]
  exact except_bind_eq_ok_iff.mpr ⟨folder, walked, entered⟩

section Put

variable {files : FileTree} {place : Location} {written : Bytes} {path : String}
  (free : files.node? place ≠ some .directory)

include free

/-- A path under which a new file is found led to its place before. -/
theorem destination_of_locate_put
    (found : (files.put place (.file written)).locate path = .ok place) :
    files.destination path = .ok place := by
  -- The last name is entered as before, and the names before it do not lead to the new file.
  obtain ⟨parsed, read, walked, _⟩ := locate_eq_ok_iff.mp found
  refine except_bind_eq_ok_iff.mpr ⟨parsed, read, ?_⟩
  cases final : parsed.names.getLast? with
  -- Without names the path leads to where it starts.
  | none =>
    rw [List.getLast?_eq_none_iff.mp final] at walked
    exact walked
  | some last =>
    -- The last name is one more step from the folder.
    have names : parsed.names = parsed.names.dropLast ++ [last] := by
      rw [List.dropLast_append_getLast? last final]
    rw [names, List.foldlM_append, except_bind_eq_ok_iff] at walked
    obtain ⟨folder, toFolder, onward⟩ := walked
    rw [List.foldlM_cons, except_bind_eq_ok_iff] at onward
    obtain ⟨there, followed, returned⟩ := onward
    cases returned
    have entered := (follow_eq_ok_iff.mp followed).1
    rw [enter_put free] at entered
    rcases walk_of_walk_put free toFolder with same | before
    · -- The new file is no directory that could be entered.
      exact absurd (same ▸ directory_of_enter entered) free
    · exact except_bind_eq_ok_iff.mpr ⟨folder, before, entered⟩

/-- What is read next to a new file was there before. -/
theorem read_of_read_put {content : Bytes} (elsewhere : files.destination path ≠ .ok place)
    (readAfter : (files.put place (.file written)).read path = .ok content) :
    files.read path = .ok content := by
  -- The path leads elsewhere than to the new file, so what it finds is what was there.
  obtain ⟨location, found, stored⟩ := read_eq_ok_iff.mp readAfter
  have apart : place ≠ location := by
    intro same
    subst same
    exact elsewhere (destination_of_locate_put free found)
  rw [node?_put _ _ _ (ne_root_of_free free), if_neg apart] at stored
  -- A place that is not the new file was found before.
  rcases locate_of_locate_put free found with same | before
  · exact absurd same apart
  · exact read_eq_ok_iff.mpr ⟨location, before, stored⟩

/-- A text that is read next to a new file was there before. -/
theorem readText_of_readText_put {text : String} (elsewhere : files.destination path ≠ .ok place)
    (readAfter : (files.put place (.file written)).readText path = .ok text) :
    files.readText path = .ok text := by
  -- The bytes were there before, and they decode to the text.
  obtain ⟨content, decoded, stored, decodes, normal⟩ := readText_eq_ok_iff.mp readAfter
  exact readText_eq_ok_iff.mpr
    ⟨content, decoded, read_of_read_put free elsewhere stored, decodes, normal⟩

end Put

/-- A text that is read after another file was written was there before. -/
theorem WrittenAt.readText_of_readText {files after : FileTree} {target path text : String}
    (written : files.WrittenAt target after) (apart : ¬ files.SameFile target path)
    (readAfter : after.readText path = .ok text) : files.readText path = .ok text := by
  -- If a file was put anywhere, the path does not lead to its place.
  rcases written with rfl | ⟨place, content, reached, rfl⟩
  · exact readAfter
  · refine readText_of_readText_put (free_of_locateTarget reached) ?_ readAfter
    intro same
    exact apart ⟨place, destination_of_locateTarget reached, same⟩

end Phrasebook.FileTree
