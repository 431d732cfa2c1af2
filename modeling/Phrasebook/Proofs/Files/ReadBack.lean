import Phrasebook.Proofs.Files.Encoding
import Phrasebook.Proofs.Text.WellFormed

/-! Text files as they are read back once written, and the bytes that are no text. -/

namespace Phrasebook

/-- A text without the mark that it starts with, if it does. -/
def withoutMark (text : String) : String :=
  if text.toList.head? = some '\uFEFF' then String.ofList text.toList.tail else text

/-- Content of three bytes at least, the first of which are a mark. -/
def IsMarked (content : Bytes) : Prop :=
  3 ≤ content.length ∧ ∃ mark : ByteOrderMark, mark.bytes <+: content

/-- Content has no mark exactly if none is found. -/
theorem ByteOrderMark.split?_eq_none_iff {content : Bytes} :
    split? content = none ↔ ¬ IsMarked content := by
  -- A mark is found with what follows it.
  rw [Option.eq_none_iff_forall_ne_some]
  constructor
  · rintro unfound ⟨long, mark, rest, rfl⟩
    exact unfound (mark, rest) (split?_eq_some_iff.mpr ⟨long, rfl⟩)
  · intro unmarked found marked
    obtain ⟨long, parts⟩ := split?_eq_some_iff.mp marked
    exact unmarked ⟨long, found.1, found.2, parts.symm⟩

/-- Content is no text exactly if it has no mark and is not what writes a text. -/
theorem decodeContent?_eq_none_iff {content : Bytes} :
    decodeContent? content = none ↔
      (∀ text, content ≠ Utf8.encode text) ∧ ¬ IsMarked content := by
  -- Behind a mark every malformed part is replaced.
  rw [← Utf8.decode?_eq_none_iff, ← ByteOrderMark.split?_eq_none_iff, decodeContent?]
  cases ByteOrderMark.split? content <;> simp

/-- What writes a text is read as that text, but for a mark at its start. -/
theorem decodeContent?_encode_eq (text : String) :
    decodeContent? (Utf8.encode text) = some (withoutMark text) := by
  -- Whether a mark is found is told by the first character.
  by_cases starts : text.toList.head? = some '\uFEFF'
  · -- The first character is written as the three bytes of the mark.
    obtain ⟨rest, chars⟩ := List.head?_eq_some_iff.mp starts
    have parts : Utf8.encode text =
        ByteOrderMark.utf8.bytes ++ Utf8.encode (String.ofList rest) := by
      simp only [Utf8.encode, chars, List.flatMap_cons, String.toList_ofList]
      rfl
    have marked : ByteOrderMark.split? (Utf8.encode text) =
        some (.utf8, Utf8.encode (String.ofList rest)) := by
      rw [ByteOrderMark.split?_eq_some_iff]
      exact ⟨by simp [parts, ByteOrderMark.bytes], parts⟩
    rw [decodeContent?, marked, withoutMark, if_pos starts, chars, List.tail_cons]
    exact congrArg some (Utf8.decodeLossy_encode _)
  · -- Any other text is read as it was written.
    rw [decodeContent?_encode starts, withoutMark, if_neg starts]

namespace FileTree

variable {files after : FileTree} {path text : String} {content : Bytes}

/-- A text that was written is read back without a mark at its start and with line feeds only. -/
theorem readText_of_writeText (written : files.writeText path text = .ok after) :
    after.readText path = .ok (normalizeNewlines (withoutMark text)) := by
  -- What was written stands where the path leads.
  obtain ⟨place, reached, rfl⟩ := writeText_eq_ok_iff.mp written
  exact readText_eq_ok_iff.mpr
    ⟨_, _, read_put_self reached, decodeContent?_encode_eq text, rfl⟩

/-- A file that can be opened is no text exactly if its content is none. -/
theorem readText_eq_error_iff (stored : files.read path = .ok content) (error : Error) :
    files.readText path = .error error ↔
      error = .file .undecodable ∧ (∀ text, content ≠ Utf8.encode text) ∧ ¬ IsMarked content := by
  -- The bytes are there, so nothing but their decoding can fail.
  have opened : (files.read path).mapError Error.file = .ok content :=
    mapError_eq_ok_iff.mpr stored
  rw [← decodeContent?_eq_none_iff, readText, opened, except_bind_eq_error_iff]
  simp only [reduceCtorEq, false_or, Except.ok.injEq, exists_eq_left']
  cases decodeContent? content with
  | none => simp [throw, throwThe, MonadExceptOf.throw, eq_comm]
  | some decoded => simp [Pure.pure, Except.pure]

/-- Whatever is read as a text has no carriage return. -/
theorem return_notMem_of_readText (read : files.readText path = .ok text) :
    '\r' ∉ text.toList := by
  -- The line endings are normalized last.
  obtain ⟨_, decoded, _, _, rfl⟩ := readText_eq_ok_iff.mp read
  exact return_notMem_normalizeNewlines decoded

/--
Reading a file back loses a mark at the start and the carriage returns, and nothing else.

A text is written under its path only. What is read back is the text without a first mark, with
its line endings normalized. A file that can be opened is no text exactly if its bytes neither
write one nor start with a mark, and what is read from it never has a carriage return.
-/
theorem reading_back_loses_mark_and_returns :
    (∀ (files after : FileTree) (path text : String), files.writeText path text = .ok after →
      after.readText path = .ok (normalizeNewlines (withoutMark text)) ∧
      ∃ place, files.locateTarget path = .ok place ∧
        ∀ location, after.node? location =
          if location = place then some (.file (Utf8.encode text)) else files.node? location) ∧
    ∀ (files : FileTree) (path : String) (content : Bytes), files.read path = .ok content →
      (∀ error, files.readText path = .error error ↔
        error = .file .undecodable ∧ (∀ text, content ≠ Utf8.encode text) ∧
          ¬ (3 ≤ content.length ∧ ∃ mark : ByteOrderMark, mark.bytes <+: content)) ∧
      ∀ text, files.readText path = .ok text → '\r' ∉ text.toList := by
  -- What was written is one file among all others, and what is read is some file's content.
  refine ⟨?_, ?_⟩
  · intro files after path text written
    obtain ⟨place, reached, put⟩ := writeText_eq_ok_iff.mp written
    refine ⟨readText_of_writeText written, place, reached, fun location => ?_⟩
    -- The place is not the root, so it is the only one that changes.
    have below := ne_root_of_free (free_of_locateTarget reached)
    rw [put, node?_put _ _ _ below]
    simp only [eq_comm]
  · intro files path content stored
    exact ⟨readText_eq_error_iff stored, fun text => return_notMem_of_readText⟩

/-- Of two marks one is read back, and two bytes that could be a mark are no text. -/
theorem reading_back_two_marks :
    let text := "\uFEFF\uFEFFone\r\n\rtwo"
    let files := FileTree.empty.put ["b"] (.file [0xFF, 0xFE])
    let after := files.put ["a"] (.file (Utf8.encode text))
    files.writeText "a" text = .ok after ∧ after.readText "a" = .ok "\uFEFFone\n\ntwo" ∧
      after.read "b" = .ok [0xFF, 0xFE] ∧ after.readText "b" = .error (.file .undecodable) := by
  -- The first part of the theorem is used for the text, and the second for the two bytes.
  intro text files after
  have written : files.writeText "a" text = .ok after := by decide +kernel
  have stored : after.read "b" = .ok [0xFF, 0xFE] := by decide +kernel
  have back : normalizeNewlines (withoutMark text) = "\uFEFFone\n\ntwo" := by decide +kernel
  have unwritten : ∀ text, [0xFF, 0xFE] ≠ Utf8.encode text :=
    Utf8.decode?_eq_none_iff.mp (by decide +kernel)
  obtain ⟨read, _⟩ := reading_back_loses_mark_and_returns.1 files after "a" text written
  obtain ⟨fails, _⟩ := reading_back_loses_mark_and_returns.2 after "b" _ stored
  exact ⟨written, back ▸ read, stored, (fails _).mpr ⟨rfl, unwritten, by simp⟩⟩

end FileTree

end Phrasebook
