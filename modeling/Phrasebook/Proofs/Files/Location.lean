import Mathlib.Data.List.Basic
import Phrasebook.Proofs.Run

/-! Where paths lead, before and after a file is put where no directory is. -/

namespace Phrasebook.FileTree

/-- The places that a path names: where a file is found under it, and where one is written. -/
def places (files : FileTree) (path : String) : List Location :=
  [files.locate path, files.locateTarget path].filterMap Except.toOption

/-- Two paths that name no place in common. -/
def Apart (files : FileTree) (first second : String) : Prop :=
  ∀ location ∈ files.places first, location ∉ files.places second

instance (files : FileTree) (first second : String) : Decidable (files.Apart first second) :=
  inferInstanceAs (Decidable (∀ location ∈ files.places first, location ∉ files.places second))

/-- A path names a place if it leads there, be it only to write. -/
theorem mem_places_iff {files : FileTree} {path : String} {location : Location} :
    location ∈ files.places path ↔
      files.locate path = .ok location ∨ files.locateTarget path = .ok location := by
  -- Of the two outcomes those that succeed are kept.
  have succeeds : ∀ outcome : Except FileError Location,
      outcome.toOption = some location ↔ outcome = .ok location := by
    intro outcome
    cases outcome <;> simp [Except.toOption]
  simp [places, succeeds, eq_comm]

/-- A name is followed exactly to where it leads, if something is there. -/
theorem follow_eq_ok_iff {files : FileTree} {here there : Location} {name : String} :
    files.follow here name = .ok there ↔
      files.enter here name = .ok there ∧ (files.node? there).isSome := by
  -- The name is entered first, and the place it leads to is looked at next.
  rw [follow, except_bind_eq_ok_iff]
  constructor
  · intro followed
    obtain ⟨reached, entered, found⟩ := followed
    split at found
    · rename_i present
      cases found
      exact ⟨entered, present⟩
    · cases found
  · intro reached
    obtain ⟨entered, present⟩ := reached
    exact ⟨there, entered, by rw [if_pos present]; rfl⟩

/-- Only a directory is entered. -/
theorem directory_of_enter {files : FileTree} {here there : Location} {name : String}
    (entered : files.enter here name = .ok there) : files.node? here = some .directory := by
  -- Entering anything else fails at once.
  by_cases folder : files.node? here = some .directory
  · exact folder
  · simp [enter, folder] at entered

/-- The name that stays leads from a directory to itself. -/
theorem follow_dot_eq_ok_iff {files : FileTree} {here there : Location} :
    files.follow here "." = .ok there ↔ files.node? here = some .directory ∧ there = here := by
  -- A directory that is entered is there to be followed to.
  rw [follow_eq_ok_iff]
  constructor
  · intro followed
    obtain ⟨entered, present⟩ := followed
    have folder := directory_of_enter entered
    simp only [enter, folder, ne_eq, not_true_eq_false, if_false, if_true] at entered
    cases entered
    exact ⟨folder, rfl⟩
  · intro stays
    obtain ⟨folder, rfl⟩ := stays
    simp [enter, folder]

/-- The place that a path names is where its names lead, and a directory if it ends in a slash. -/
theorem locate_eq_ok_iff {files : FileTree} {path : String} {location : Location} :
    files.locate path = .ok location ↔
      ∃ parsed, Path.ofString path = .ok parsed ∧
        parsed.names.foldlM files.follow (files.start parsed) = .ok location ∧
        (parsed.trailingSlash = true → files.node? location = some .directory) := by
  -- The names are followed one after another, and a slash at the end is followed as one name more.
  rw [locate, except_bind_eq_ok_iff]
  refine exists_congr fun parsed => and_congr_right fun _ => ?_
  rw [except_bind_eq_ok_iff]
  -- The step that a slash at the end asks for stays where it is.
  by_cases slash : parsed.trailingSlash = true
  · simp only [slash, if_true, follow_dot_eq_ok_iff, forall_const]
    constructor
    · intro found
      obtain ⟨_, walked, folder, rfl⟩ := found
      exact ⟨walked, folder⟩
    · intro found
      exact ⟨location, found.1, found.2, rfl⟩
  · simp [slash, Pure.pure, Except.pure]

/-- The place of a file to write is one step from a directory, and no directory itself. -/
theorem locateTarget_eq_ok_iff {files : FileTree} {path : String} {location : Location} :
    files.locateTarget path = .ok location ↔
      ∃ parsed last folder, Path.ofString path = .ok parsed ∧
        parsed.names.getLast? = some last ∧
        parsed.names.dropLast.foldlM files.follow (files.start parsed) = .ok folder ∧
        files.node? folder = some .directory ∧
        (parsed.trailingSlash || last == "." || last == "..") = false ∧
        files.enter folder last = .ok location ∧
        files.node? location ≠ some .directory := by
  -- The path is gone through in the order in which its checks are made.
  rw [locateTarget, except_bind_eq_ok_iff]
  constructor
  · -- Each check is passed before the next is made.
    intro success
    obtain ⟨parsed, read, reached⟩ := success
    split at reached
    · cases reached
    · rename_i last final
      -- There is a last name, so the names before it lead to a folder, which is a directory.
      obtain ⟨folder, walked, onward⟩ := except_bind_eq_ok_iff.mp reached
      obtain ⟨here, stayed, asked⟩ := except_bind_eq_ok_iff.mp onward
      obtain ⟨directory, rfl⟩ := follow_dot_eq_ok_iff.mp stayed
      cases named : parsed.trailingSlash || last == "." || last == ".." with
      | true =>
        simp only [named, if_true] at asked
        cases asked
      | false =>
        simp only [named, Bool.false_eq_true, if_false] at asked
        -- The last name is entered, and must not have led to a directory.
        obtain ⟨there, entered, settled⟩ := except_bind_eq_ok_iff.mp asked
        split at settled
        · cases settled
        · rename_i free
          cases settled
          exact ⟨parsed, last, here, read, final, walked, directory, named, entered, free⟩
  · -- With every check passed, the last name is entered.
    intro checks
    obtain ⟨parsed, last, folder, read, final, walked, directory, named, entered, free⟩ := checks
    refine ⟨parsed, read, ?_⟩
    have stayed := follow_dot_eq_ok_iff.mpr ⟨directory, rfl⟩
    simp only [final]
    refine except_bind_eq_ok_iff.mpr ⟨folder, walked, ?_⟩
    refine except_bind_eq_ok_iff.mpr ⟨folder, stayed, ?_⟩
    simp only [named, Bool.false_eq_true, if_false]
    exact except_bind_eq_ok_iff.mpr ⟨location, entered, by rw [if_neg free]; rfl⟩

/-- No file is written where a directory is. -/
theorem free_of_locateTarget {files : FileTree} {path : String} {location : Location}
    (reached : files.locateTarget path = .ok location) :
    files.node? location ≠ some .directory := by
  -- It is the last of the checks.
  obtain ⟨_, _, _, _, _, _, _, _, _, free⟩ := locateTarget_eq_ok_iff.mp reached
  exact free

/-- A file that can be written and is there is also found. -/
theorem locate_of_locateTarget {files : FileTree} {path : String} {location : Location}
    (reached : files.locateTarget path = .ok location)
    (present : (files.node? location).isSome) : files.locate path = .ok location := by
  -- The checks of a target are those of a file that is found, but for its being there.
  obtain ⟨parsed, last, folder, read, final, walked, _, named, entered, _⟩ :=
    locateTarget_eq_ok_iff.mp reached
  refine locate_eq_ok_iff.mpr ⟨parsed, read, ?_, ?_⟩
  · -- The last name is followed to where it leads.
    have names : parsed.names = parsed.names.dropLast ++ [last] := by
      rw [List.dropLast_append_getLast? last final]
    rw [names, List.foldlM_append, except_bind_eq_ok_iff]
    refine ⟨folder, walked, ?_⟩
    rw [List.foldlM_cons, except_bind_eq_ok_iff]
    exact ⟨location, follow_eq_ok_iff.mpr ⟨entered, present⟩, rfl⟩
  · -- A target does not end in a slash.
    intro slash
    simp [slash] at named

section Put

variable {files : FileTree} {place : Location} {content : Bytes}
  (free : files.node? place ≠ some .directory)

include free

/-- The root is no place for a file. -/
theorem ne_root_of_free : place ≠ [] := by
  -- The root is a directory in every tree.
  intro root
  subst root
  exact free rfl

/-- A file that is put where no directory is leaves the directories as they are. -/
theorem directory_put_iff (other : Location) :
    (files.put place (.file content)).node? other = some .directory ↔
      files.node? other = some .directory := by
  -- At the place itself there is a directory neither before nor after.
  rw [node?_put _ _ _ (ne_root_of_free free)]
  by_cases same : place = other
  · simp [same, same ▸ free]
  · simp [same]

/-- What is there afterwards is what was there, and the file. -/
theorem isSome_put_iff (other : Location) :
    ((files.put place (.file content)).node? other).isSome ↔
      place = other ∨ (files.node? other).isSome := by
  -- Every other place holds what it held.
  rw [node?_put _ _ _ (ne_root_of_free free)]
  by_cases same : place = other <;> simp [same]

/-- Names are entered as before. -/
theorem enter_put (here : Location) (name : String) :
    (files.put place (.file content)).enter here name = files.enter here name := by
  -- To enter a place only asks whether it is a directory.
  simp only [enter, ne_eq, directory_put_iff free]

/-- A name that was followed still is. -/
theorem follow_put {here there : Location} {name : String}
    (followed : files.follow here name = .ok there) :
    (files.put place (.file content)).follow here name = .ok there := by
  -- It is entered as before, and nothing is gone.
  obtain ⟨entered, present⟩ := follow_eq_ok_iff.mp followed
  rw [follow_eq_ok_iff, enter_put free, isSome_put_iff free]
  exact ⟨entered, Or.inr present⟩

/-- A name that is followed now was followed before, unless it leads to the file. -/
theorem follow_of_follow_put {here there : Location} {name : String}
    (followed : (files.put place (.file content)).follow here name = .ok there) :
    place = there ∨ files.follow here name = .ok there := by
  -- Only the file is new.
  rw [follow_eq_ok_iff, enter_put free, isSome_put_iff free] at followed
  obtain ⟨entered, same | present⟩ := followed
  · exact Or.inl same
  · exact Or.inr (follow_eq_ok_iff.mpr ⟨entered, present⟩)

/-- Names that were followed still are. -/
theorem walk_put {here there : Location} {names : List String}
    (walked : names.foldlM files.follow here = .ok there) :
    names.foldlM (files.put place (.file content)).follow here = .ok there := by
  -- The induction is on the names still to be followed.
  induction names generalizing here with
  | nil => exact walked
  | cons name rest ih =>
    rw [List.foldlM_cons, except_bind_eq_ok_iff] at walked ⊢
    obtain ⟨next, followed, onward⟩ := walked
    exact ⟨next, follow_put free followed, ih onward⟩

/-- Names that are followed now were followed before, unless they lead to the file. -/
theorem walk_of_walk_put {here there : Location} {names : List String}
    (walked : names.foldlM (files.put place (.file content)).follow here = .ok there) :
    place = there ∨ names.foldlM files.follow here = .ok there := by
  -- The induction is on the names still to be followed, the first of which may lead to the file.
  induction names generalizing here with
  | nil => exact Or.inr walked
  | cons name rest ih =>
    rw [List.foldlM_cons, except_bind_eq_ok_iff] at walked
    obtain ⟨next, followed, onward⟩ := walked
    rcases follow_of_follow_put free followed with rfl | before
    · -- No name leads on from a file.
      cases rest with
      | nil =>
        cases onward
        exact Or.inl rfl
      | cons other later =>
        rw [List.foldlM_cons, except_bind_eq_ok_iff] at onward
        obtain ⟨further, followed, _⟩ := onward
        obtain ⟨entered, _⟩ := follow_eq_ok_iff.mp followed
        rw [enter_put free] at entered
        exact absurd (directory_of_enter entered) free
    · -- The first name was followed before, and the others lead on from there.
      rcases ih onward with same | walked
      · exact Or.inl same
      · right
        rw [List.foldlM_cons, except_bind_eq_ok_iff]
        exact ⟨next, before, walked⟩

/-- A path that was found still is, at the same place. -/
theorem locate_put {path : String} {location : Location}
    (found : files.locate path = .ok location) :
    (files.put place (.file content)).locate path = .ok location := by
  -- The names lead there as before, and what was a directory is one.
  obtain ⟨parsed, read, walked, slash⟩ := locate_eq_ok_iff.mp found
  refine locate_eq_ok_iff.mpr ⟨parsed, read, walk_put free walked, ?_⟩
  rw [directory_put_iff free]
  exact slash

/-- A path that is found now was found before, unless it names the file. -/
theorem locate_of_locate_put {path : String} {location : Location}
    (found : (files.put place (.file content)).locate path = .ok location) :
    place = location ∨ files.locate path = .ok location := by
  -- A slash at the end asks for a directory, which the file is not.
  obtain ⟨parsed, read, walked, slash⟩ := locate_eq_ok_iff.mp found
  rw [directory_put_iff free] at slash
  rcases walk_of_walk_put free walked with same | before
  · exact Or.inl same
  · exact Or.inr (locate_eq_ok_iff.mpr ⟨parsed, read, before, slash⟩)

/-- The files that can be written are at the same places as before. -/
theorem locateTarget_put_iff {path : String} {location : Location} :
    (files.put place (.file content)).locateTarget path = .ok location ↔
      files.locateTarget path = .ok location := by
  -- The names before the last one lead where they led, as directories have stayed the same.
  simp only [locateTarget_eq_ok_iff, directory_put_iff free, enter_put free, ne_eq]
  constructor
  · -- The file is no directory in which another could be written.
    intro reached
    obtain ⟨parsed, last, folder, read, final, walked, directory, rest⟩ := reached
    rcases walk_of_walk_put free walked with rfl | before
    · exact absurd directory free
    · exact ⟨parsed, last, folder, read, final, before, directory, rest⟩
  · intro reached
    obtain ⟨parsed, last, folder, read, final, walked, rest⟩ := reached
    exact ⟨parsed, last, folder, read, final, walk_put free walked, rest⟩

/-- A path does not come to lead to a place that it had not in common with another. -/
theorem locate_put_ne {path output : String} {other : Location}
    (apart : files.Apart path output) (reached : files.locateTarget output = .ok other)
    (distinct : place ≠ other) : (files.put place (.file content)).locate path ≠ .ok other := by
  -- It led there before, or it leads to the file, which stands elsewhere.
  intro found
  rcases locate_of_locate_put free found with same | before
  · exact distinct same
  · exact apart other (mem_places_iff.mpr (Or.inl before)) (mem_places_iff.mpr (Or.inr reached))

end Put

end Phrasebook.FileTree
