import Phrasebook.Proofs.Files.TextFile
import Phrasebook.Proofs.Text.Utf16

/-! The encodings in which a text can stand in a file, all of which are read as the same text. -/

namespace Phrasebook

/-- How a text stands in a file: as UTF-8 alone, or behind the mark that names the encoding. -/
inductive TextEncoding where
  | unmarked
  | marked (mark : ByteOrderMark)
  deriving DecidableEq, Repr

/-- The bytes that write a text in the encoding that a mark names. -/
def ByteOrderMark.encode : ByteOrderMark → String → Bytes
  | .utf8, text => Utf8.encode text
  | .utf16 order, text => Utf16.encode order text

/-- The content of a file that holds a text. -/
def TextEncoding.encode : TextEncoding → String → Bytes
  | .unmarked, text => Utf8.encode text
  | .marked mark, text => mark.bytes ++ mark.encode text

/-- Text that is written as UTF-8 is read back as it was, with nothing to replace. -/
theorem Utf8.decodeLossy_encode (text : String) : decodeLossy (encode text) = text := by
  -- Every part is a character.
  rw [decodeLossy, parts_encode]
  simp [Function.comp_def]

namespace ByteOrderMark

/-- What follows a mark is read in the encoding that it was written in. -/
theorem decode_encode (mark : ByteOrderMark) (text : String) :
    mark.decode (mark.encode text) = text := by
  -- Each mark names the encoding by which it is written and read.
  cases mark with
  | utf8 => exact Utf8.decodeLossy_encode text
  | utf16 order => exact Utf16.decodeLossy_encode order text

/-- A text that is not empty takes some bytes to write. -/
theorem encode_ne_nil (mark : ByteOrderMark) {text : String} (filled : text ≠ "") :
    mark.encode text ≠ [] := by
  -- No bytes are read as the empty text.
  intro nothing
  have read := mark.decode_encode text
  rw [nothing] at read
  cases mark with
  | utf8 => exact filled read.symm
  | utf16 order => exact filled read.symm

/-- A mark is found, and taken off once, exactly if there are three bytes at least. -/
theorem split?_eq_some_iff {content rest : Bytes} {mark : ByteOrderMark} :
    split? content = some (mark, rest) ↔ 3 ≤ content.length ∧ content = mark.bytes ++ rest := by
  -- A mark is looked for only where there are three bytes.
  constructor
  · intro marked
    refine ⟨?_, eq_of_split? marked⟩
    by_contra short
    unfold split? at marked
    rw [if_pos (by omega)] at marked
    cases marked
  · -- The bytes of the mark are matched one by one.
    rintro ⟨long, rfl⟩
    unfold split?
    rw [if_neg (by omega)]
    cases mark with
    | utf8 => rfl
    | utf16 order => cases order <;> rfl

/-- A mark before something is found. -/
theorem split?_append (mark : ByteOrderMark) {rest : Bytes} (follows : rest ≠ []) :
    split? (mark.bytes ++ rest) = some (mark, rest) := by
  -- Every mark has two bytes at least.
  have positive : 0 < rest.length := List.length_pos_iff.mpr follows
  rw [split?_eq_some_iff]
  refine ⟨?_, rfl⟩
  cases mark with
  | utf8 => simp [bytes]
  | utf16 order => cases order <;> simp [bytes] <;> omega

end ByteOrderMark

/-- Content in any of the encodings is read as the text that it holds. -/
theorem TextEncoding.decodeContent?_encode (encoding : TextEncoding) {text : String}
    (filled : text ≠ "") (plain : text.toList.head? ≠ some '\uFEFF') :
    decodeContent? (encoding.encode text) = some text := by
  -- Without a mark none is found, and a mark that is there is taken off.
  cases encoding with
  | unmarked => exact Phrasebook.decodeContent?_encode plain
  | marked mark =>
    rw [encode, decodeContent?, mark.split?_append (mark.encode_ne_nil filled)]
    exact congrArg some (mark.decode_encode text)

/-- A file that holds a text in any of the encodings is read as that text. -/
theorem FileTree.readText_of_read_encode {files : FileTree} {path text : String}
    (filled : text ≠ "") (plain : text.toList.head? ≠ some '\uFEFF') {encoding : TextEncoding}
    (content : files.read path = .ok (encoding.encode text)) :
    files.readText path = .ok (normalizeNewlines text) :=
  readText_eq_ok_iff.mpr
    ⟨_, text, content, encoding.decodeContent?_encode filled plain, rfl⟩

/-- A text is the same language map once its line endings are normalized. -/
theorem LanguageMap.ofText_normalizeNewlines (text : String) :
    ofText (normalizeNewlines text) = ofText text := by
  -- There is nothing left to normalize.
  rw [ofText, ofText, normalizeNewlines_of_notMem (return_notMem_normalizeNewlines text)]

/-- A file that holds a text in any of the encodings is loaded as that text. -/
theorem Store.loadFile_of_read_encode {files : FileTree} {path text : String}
    (filled : text ≠ "") (plain : text.toList.head? ≠ some '\uFEFF') {encoding : TextEncoding}
    (content : files.read path = .ok (encoding.encode text)) (store : Store) (domain : String)
    (options : LoadOptions) :
    store.loadFile files path domain options = store.loadText text path domain options := by
  -- The text is normalized when it is read, and nothing is left to do when its lines are.
  rw [loadFile, FileTree.readMap_eq, FileTree.readText_of_read_encode filled plain content]
  exact congrArg (store.load · path domain options) (LanguageMap.ofText_normalizeNewlines text)

end Phrasebook
