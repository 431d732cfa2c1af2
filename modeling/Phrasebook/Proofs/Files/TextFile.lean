import Phrasebook.Proofs.Files.Location
import Phrasebook.Proofs.LanguageMap.RoundTrip
import Phrasebook.Proofs.Text.Utf8

/-! What is read from a file after it, or another, was written. -/

namespace Phrasebook

/-- Content that starts with a mark starts with its bytes. -/
theorem ByteOrderMark.eq_of_split? {content rest : Bytes} {mark : ByteOrderMark}
    (marked : split? content = some (mark, rest)) : content = mark.bytes ++ rest := by
  -- Each mark that is found was matched byte by byte.
  unfold split? at marked
  split at marked
  · cases marked
  · split at marked <;> cases marked <;> rfl

/-- A text that does not start with the mark itself is written without one. -/
theorem ByteOrderMark.split?_encode {text : String} (plain : text.toList.head? ≠ some '\uFEFF') :
    split? (Utf8.encode text) = none := by
  -- A mark that is found would have to come from the first characters of the text.
  cases marked : split? (Utf8.encode text) with
  | none => rfl
  | some found =>
    -- The content is read as the characters of the text, so the bytes of the mark are too.
    obtain ⟨mark, rest⟩ := found
    have read := Utf8.parts_encode text
    rw [eq_of_split? marked] at read
    cases mark with
    | utf8 =>
      -- The three bytes are read as the mark, which is then the first character.
      have first : Utf8.parts .idle (bytes .utf8 ++ rest) =
          some '\uFEFF' :: Utf8.parts .idle rest := rfl
      rw [first] at read
      cases chars : text.toList with
      | nil => simp [chars] at read
      | cons char later =>
        rw [chars, List.map_cons, List.cons.injEq, Option.some.injEq] at read
        simp [chars, ← read.1] at plain
    | utf16 order =>
      -- In either order no byte of the mark is ever part of a character.
      have first : Utf8.parts .idle (bytes (.utf16 order) ++ rest) =
          none :: none :: Utf8.parts .idle rest := by
        cases order <;> rfl
      have lost : none ∈ text.toList.map some := by simp [← read, first]
      simp at lost

/-- A text that does not start with a mark is read back as it was written. -/
theorem decodeContent?_encode {text : String} (plain : text.toList.head? ≠ some '\uFEFF') :
    decodeContent? (Utf8.encode text) = some text := by
  -- Without a mark the content is read as well-formed UTF-8.
  rw [decodeContent?, ByteOrderMark.split?_encode plain]
  exact Utf8.decode?_encode text

/-- A string is read as the text that it is, through the bytes that write it. -/
theorem LanguageMap.ofString_eq (text : String) : ofString text = .ok (.ofText text) := by
  -- The bytes of a string are well formed.
  rw [ofString, ofReader, Utf8.decode?_encode]

namespace FileTree

/-- What is put at a place last stays there. -/
theorem put_put (files : FileTree) (location : Location) (first second : Node) :
    (files.put location first).put location second = files.put location second := by
  -- A map holds one value for each place.
  have same : (files.nodes.insert location first).insert location second =
      files.nodes.insert location second := by
    apply Std.ExtTreeMap.ext_getElem?
    intro other
    simp only [Std.ExtTreeMap.getElem?_insert]
    split <;> rfl
  simp [put, same]

/-- A path is read as the file that stands where it leads. -/
theorem read_eq_ok_iff {files : FileTree} {path : String} {content : Bytes} :
    files.read path = .ok content ↔
      ∃ location, files.locate path = .ok location ∧
        files.node? location = some (.file content) := by
  -- The path is located, and what stands there has to be a file.
  rw [read, except_bind_eq_ok_iff]
  refine exists_congr fun location => and_congr_right fun _ => ?_
  cases standing : files.node? location with
  | none => simp [throw, throwThe, MonadExceptOf.throw]
  | some node =>
    cases node with
    | file stored => simp [Pure.pure, Except.pure]
    | directory => simp [throw, throwThe, MonadExceptOf.throw]

/-- A file that is written stands where its path can be written. -/
theorem write_eq_ok_iff {files after : FileTree} {path : String} {content : Bytes} :
    files.write path content = .ok after ↔
      ∃ location, files.locateTarget path = .ok location ∧
        after = files.put location (.file content) := by
  -- Nothing can fail once there is a place.
  rw [write, except_bind_eq_ok_iff]
  simp [Pure.pure, Except.pure, eq_comm]

/-- A file that stands elsewhere is read as before. -/
theorem read_put {files : FileTree} {place : Location} {content other : Bytes} {path : String}
    (free : files.node? place ≠ some .directory) (elsewhere : files.locate path ≠ .ok place)
    (readBefore : files.read path = .ok content) :
    (files.put place (.file other)).read path = .ok content := by
  -- The path leads where it led, and the place there holds what it held.
  obtain ⟨location, found, stored⟩ := read_eq_ok_iff.mp readBefore
  have apart : place ≠ location := by
    intro same
    exact elsewhere (same ▸ found)
  rw [read_eq_ok_iff]
  refine ⟨location, locate_put free found, ?_⟩
  rw [node?_put _ _ _ (ne_root_of_free free), if_neg apart, stored]

/-- A file that was just written is read as its content. -/
theorem read_put_self {files : FileTree} {place : Location} {content : Bytes} {path : String}
    (reached : files.locateTarget path = .ok place) :
    (files.put place (.file content)).read path = .ok content := by
  -- The path can be written as before, and now it leads to something.
  have free := free_of_locateTarget reached
  -- The place is not the root, so the file stands there.
  have stored : (files.put place (.file content)).node? place = some (.file content) := by
    rw [node?_put _ _ _ (ne_root_of_free free), if_pos rfl]
  rw [read_eq_ok_iff]
  refine ⟨place, ?_, stored⟩
  exact locate_of_locateTarget ((locateTarget_put_iff free).mpr reached) (by simp [stored])

/-- A text is read if the bytes are and if they are well formed. -/
theorem readText_eq_ok_iff {files : FileTree} {path text : String} :
    files.readText path = .ok text ↔
      ∃ content decoded, files.read path = .ok content ∧
        decodeContent? content = some decoded ∧ text = normalizeNewlines decoded := by
  -- First the bytes are read, and then they are decoded.
  rw [readText, except_bind_eq_ok_iff]
  simp only [mapError_eq_ok_iff]
  refine exists_congr fun content => ?_
  cases decodeContent? content with
  | none => simp [throw, throwThe, MonadExceptOf.throw]
  | some decoded => simp [Pure.pure, Except.pure, eq_comm]

/-- A path at which the same bytes are read is read as the same text. -/
theorem readText_congr {first second : FileTree} {path : String}
    (content : first.read path = second.read path) :
    first.readText path = second.readText path := by
  -- Nothing but the bytes is decoded.
  rw [readText, readText, content]

/-- A text that cannot be read is a fault of its file. -/
theorem readText_eq_error {files : FileTree} {path : String} {error : Error}
    (fails : files.readText path = .error error) : ∃ cause, error = .file cause := by
  -- Either the bytes cannot be read, or they are no text.
  rw [readText, except_bind_eq_error_iff] at fails
  rcases fails with unread | ⟨content, _, undecoded⟩
  · obtain ⟨cause, _, same⟩ := mapError_eq_error_iff.mp unread
    exact ⟨cause, same.symm⟩
  · split at undecoded
    · cases undecoded
    · cases undecoded
      exact ⟨.undecodable, rfl⟩

/-- A text that stands elsewhere is read as before. -/
theorem readText_put {files : FileTree} {place : Location} {other : Bytes} {path text : String}
    (free : files.node? place ≠ some .directory) (elsewhere : files.locate path ≠ .ok place)
    (readBefore : files.readText path = .ok text) :
    (files.put place (.file other)).readText path = .ok text := by
  -- The bytes are the same, and so is what they decode to.
  obtain ⟨content, decoded, stored, decodes, normal⟩ := readText_eq_ok_iff.mp readBefore
  exact readText_eq_ok_iff.mpr ⟨content, decoded, read_put free elsewhere stored, decodes, normal⟩

/-- A text is written where its path can be written. -/
theorem writeText_eq_ok_iff {files after : FileTree} {path text : String} :
    files.writeText path text = .ok after ↔
      ∃ location, files.locateTarget path = .ok location ∧
        after = files.put location (.file (Utf8.encode text)) := by
  -- The bytes of the text are written.
  rw [writeText, mapError_eq_ok_iff, write_eq_ok_iff]

/-- A text cannot be written if there is no place for it, whatever it is. -/
theorem failureOf_writeText (files : FileTree) (path text : String) :
    failureOf (files.writeText path text) = (failureOf (files.locateTarget path)).map .file := by
  -- Once there is a place nothing can fail.
  rw [writeText, write]
  cases files.locateTarget path <;> rfl

/-- A text that is written again leaves the files as they are. -/
theorem writeText_again {files after : FileTree} {path text : String}
    (written : files.writeText path text = .ok after) : after.writeText path text = .ok after := by
  -- The place is the same, and it holds the text already.
  obtain ⟨location, reached, rfl⟩ := writeText_eq_ok_iff.mp written
  have free := free_of_locateTarget reached
  rw [writeText_eq_ok_iff]
  exact ⟨location, (locateTarget_put_iff free).mpr reached, (put_put _ _ _ _).symm⟩

/-- A file is read as the language map of its text, as every text makes one. -/
theorem readMap_eq (files : FileTree) (path : String) :
    files.readMap path = (files.readText path).map LanguageMap.ofText := by
  -- The text passes through its bytes again on the way.
  rw [readMap]
  cases files.readText path with
  | error error => rfl
  | ok text => exact LanguageMap.ofString_eq text

/-- A language map is read if its text is. -/
theorem readMap_eq_ok_iff {files : FileTree} {path : String} {map : LanguageMap} :
    files.readMap path = .ok map ↔
      ∃ text, files.readText path = .ok text ∧ map = .ofText text := by
  -- Every text makes a language map.
  rw [readMap_eq]
  cases files.readText path <;> simp [Except.map, eq_comm]

/-- A language map that can be written is written where its path can be. -/
theorem writeMap_of_render {files : FileTree} {path : String} {map : LanguageMap} {text : String}
    (rendered : map.render = .ok text) :
    files.writeMap path map =
      match files.locateTarget path with
      | .error cause => (.error (.file cause), files)
      | .ok location => (.ok (), files.put location (.file (Utf8.encode text))) := by
  -- That the file was emptied first leaves no trace.
  unfold writeMap
  cases files.locateTarget path with
  | error cause => rfl
  | ok location => simp only [rendered, put_put]

/-- The text of a written language map is read back as it was. -/
theorem readText_of_read_fileText {files : FileTree} {path : String} {records : List Record}
    (sound : ∀ record ∈ records, record.AllTexts Representable)
    (stored : files.read path = .ok (Utf8.encode (fileText records))) :
    files.readText path = .ok (fileText records) := by
  -- There is neither a mark at the start nor a line ending to change.
  rw [readText_eq_ok_iff]
  refine ⟨_, fileText records, stored, decodeContent?_encode ?_, ?_⟩
  · -- Every written language map starts with its header.
    have header : fileHeader.toList.head? = some '#' := by decide +kernel
    rw [fileText, String.toList_append, List.head?_append, header]
    simp
  · -- No carriage return is written with the records.
    exact (normalizeNewlines_of_notMem (return_notMem_fileText sound)).symm

/-- A written language map is read back as its records, each on its line, and nothing is amiss. -/
theorem readMap_of_read_fileText {files : FileTree} {path : String} {records : List Record}
    (sound : ∀ record ∈ records, record.AllTexts Representable)
    (stored : files.read path = .ok (Utf8.encode (fileText records))) :
    files.readMap path = .ok ⟨numberedFrom 4 records, []⟩ := by
  -- Reading undoes writing.
  rw [readMap_eq, readText_of_read_fileText sound stored]
  exact congrArg Except.ok (ofText_fileText sound)

/-- Files that have become others by no more than a file written under a path. -/
def WrittenAt (files : FileTree) (path : String) (after : FileTree) : Prop :=
  after = files ∨ ∃ place content,
    files.locateTarget path = .ok place ∧ after = files.put place (.file content)

/-- A text is written under its path only. -/
theorem writtenAt_of_writeText {files after : FileTree} {path text : String}
    (written : files.writeText path text = .ok after) : files.WrittenAt path after := by
  -- The place is the one at which the path can be written.
  obtain ⟨place, reached, rfl⟩ := writeText_eq_ok_iff.mp written
  exact Or.inr ⟨place, _, reached, rfl⟩

/-- A language map is written under its path only, also if it is refused. -/
theorem writtenAt_writeMap (files : FileTree) (path : String) (map : LanguageMap) :
    files.WrittenAt path (files.writeMap path map).2 := by
  -- Whether or not there are records to write, the file is emptied first.
  unfold writeMap
  cases reached : files.locateTarget path with
  | error cause => exact Or.inl rfl
  | ok place =>
    cases rendered : map.render with
    | error error => exact Or.inr ⟨place, _, reached, rfl⟩
    | ok text =>
      refine Or.inr ⟨place, Utf8.encode text, reached, ?_⟩
      simp only [put_put]

/-- A file that was written does not change where others can be written. -/
theorem WrittenAt.locateTarget_iff {files after : FileTree} {path other : String}
    {location : Location} (written : files.WrittenAt path after) :
    after.locateTarget other = .ok location ↔ files.locateTarget other = .ok location := by
  -- The file is put where no directory was, so the directories are the same.
  rcases written with rfl | ⟨place, content, reached, rfl⟩
  · rfl
  · exact locateTarget_put_iff (free_of_locateTarget reached)

/-- Only under the path has anything changed. -/
theorem WrittenAt.locateTarget_of_changed {files after : FileTree} {path : String}
    {location : Location} (written : files.WrittenAt path after)
    (changed : after.node? location ≠ files.node? location) :
    files.locateTarget path = .ok location := by
  -- If a file was put anywhere, only the place of that file holds something else.
  rcases written with rfl | ⟨place, content, reached, rfl⟩
  · exact absurd rfl changed
  · rw [node?_put _ _ _ (ne_root_of_free (free_of_locateTarget reached))] at changed
    by_cases same : place = location
    · rw [reached, same]
    · simp [same] at changed

end FileTree

end Phrasebook
