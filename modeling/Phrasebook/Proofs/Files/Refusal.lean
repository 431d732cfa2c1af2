import Phrasebook.Proofs.Files.TextFile

/-! What is left of a file when the records that it was to hold are refused. -/

namespace Phrasebook

/-- Records are refused for the first of them that would not read back. -/
theorem mapM_render_eq_error_iff (records : List Record) (error : Error) :
    records.mapM Record.render = .error error ↔
      ∃ before record later, records = before ++ record :: later ∧
        (∀ earlier ∈ before, earlier.AllTexts Representable) ∧ record.render = .error error := by
  -- The induction is on the records still to be written, the first of which may be the one.
  induction records with
  | nil => simp [Pure.pure, Except.pure]
  | cons first rest ih =>
    rw [List.mapM_cons, except_bind_eq_error_iff]
    constructor
    · rintro (refused | ⟨block, rendered, onward⟩)
      · exact ⟨[], first, rest, rfl, by simp, refused⟩
      · -- The first is written, so that one of the others is refused.
        have sound := ((first.render_eq_ok_iff block).mp rendered).1
        rcases except_bind_eq_error_iff.mp onward with refused | ⟨_, _, written⟩
        · obtain ⟨before, record, later, rfl, earlier, fails⟩ := ih.mp refused
          exact ⟨first :: before, record, later, rfl, by simpa using ⟨sound, earlier⟩, fails⟩
        · cases written
    · rintro ⟨before, record, later, split, earlier, fails⟩
      cases before with
      | nil =>
        cases split
        exact Or.inl fails
      | cons head before =>
        cases split
        -- The first record is written, and one of the others is refused.
        obtain ⟨sound, earlier⟩ := List.forall_mem_cons.mp earlier
        refine Or.inr ⟨_, (first.render_eq_ok_iff _).mpr ⟨sound, rfl⟩, ?_⟩
        have refused := ih.mpr ⟨before, record, later, rfl, earlier, fails⟩
        exact except_bind_eq_error_iff.mpr (Or.inl refused)

/-- A language map is refused for the first of its records that would not read back. -/
theorem render_eq_error_iff (map : LanguageMap) (error : Error) :
    map.render = .error error ↔
      ∃ before record later, map.records = before ++ record :: later ∧
        (∀ earlier ∈ before, earlier.AllTexts Representable) ∧ record.render = .error error := by
  -- Once all the records are written nothing can fail.
  rw [LanguageMap.render, except_bind_eq_error_iff, mapM_render_eq_error_iff]
  simp [Pure.pure, Except.pure]

namespace FileTree

/-- A tree in which a node is put is as it was exactly if the node stood there already. -/
theorem put_eq_self_iff {files : FileTree} {place : Location} {node : Node}
    (below : place ≠ []) : files.put place node = files ↔ files.node? place = some node := by
  -- A tree is told by what stands at each of its places.
  constructor
  · intro same
    have stands := files.node?_put place node below place
    rwa [same, if_pos rfl] at stands
  · intro stands
    -- The node is looked up in the map, which is therefore as it was.
    have stored : files.nodes[place]? = some node := by simpa [node?, below] using stands
    have same : files.nodes.insert place node = files.nodes := by
      apply Std.ExtTreeMap.ext_getElem?
      intro other
      rw [Std.ExtTreeMap.getElem?_insert]
      split
      · rename_i found
        rw [← Std.LawfulEqCmp.compare_eq_iff_eq.mp found, stored]
      · rfl
    simp [put, same]

/-- A language map is not written if there is no place for it, or if its records are refused. -/
theorem writeMap_eq_error_iff {files after : FileTree} {path : String} {map : LanguageMap}
    {error : Error} :
    files.writeMap path map = (.error error, after) ↔
      (∃ cause, files.locateTarget path = .error cause ∧ error = .file cause ∧ after = files) ∨
      ∃ place, files.locateTarget path = .ok place ∧ map.render = .error error ∧
        after = files.put place (.file []) := by
  -- The file is opened in between, and then it is empty.
  unfold writeMap
  cases files.locateTarget path with
  | error cause => simp [eq_comm]
  | ok place => cases map.render <;> simp [eq_comm]

/--
A language map that is refused leaves an empty file where it was to be written.

It is refused for the first record that would not read back, and not a byte of it is written.
The file was opened before, so whatever it held is gone, and if there was none there is one now.
The files are as they were exactly if the file was there and empty.
-/
theorem refused_map_leaves_empty_file {files after : FileTree} {path : String}
    {map : LanguageMap} {error : Error}
    (refused : files.writeMap path map = (.error error, after))
    (overData : ∀ cause, error ≠ .file cause) :
    ∃ place, files.locateTarget path = .ok place ∧
      (∃ before record later, map.records = before ++ record :: later ∧
        (∀ earlier ∈ before, earlier.AllTexts Representable) ∧ record.render = .error error) ∧
      (∀ capacity, map.writeInto capacity = (.error error, [])) ∧
      after = files.put place (.file []) ∧ after.read path = .ok [] ∧
      (after = files ↔ files.node? place = some (.file [])) := by
  -- A place was found, since otherwise the file would be at fault.
  rcases writeMap_eq_error_iff.mp refused with ⟨cause, _, atFault, _⟩ | found
  · exact absurd atFault (overData cause)
  obtain ⟨place, reached, unwritten, rfl⟩ := found
  have below := ne_root_of_free (free_of_locateTarget reached)
  refine ⟨place, reached, (render_eq_error_iff map error).mp unwritten, ?_, rfl,
    read_put_self reached, put_eq_self_iff below⟩
  -- The records are checked before the first byte is handed on.
  intro capacity
  simp only [LanguageMap.writeInto, unwritten]

/-- The old messages are lost to a delimiter in a new one. -/
theorem refused_message_empties_file :
    let files := FileTree.empty.put ["x"] (.file (Utf8.encode "old\n"))
    let map : LanguageMap := ⟨[⟨"k", "'''", 0⟩], []⟩
    let after := files.put ["x"] (.file [])
    let error := Error.unrepresentable .message "'''" .delimiterLine
    files.writeMap "x" map = (.error error, after) ∧ (∀ cause, error ≠ .file cause) ∧
      after.read "x" = .ok [] ∧ after ≠ files := by
  -- The error is over the message and over no file.
  intro files map after error
  have refused : files.writeMap "x" map = (.error error, after) := by decide +kernel
  have overData : ∀ cause, error ≠ .file cause := by simp [error]
  obtain ⟨place, reached, _, _, _, lost, spared⟩ := refused_map_leaves_empty_file refused overData
  refine ⟨refused, overData, lost, ?_⟩
  -- Something stood in the file.
  have there : files.locateTarget "x" = .ok ["x"] := by decide +kernel
  rw [there, Except.ok.injEq] at reached
  rw [ne_eq, spared, ← reached]
  decide +kernel

end FileTree

end Phrasebook
