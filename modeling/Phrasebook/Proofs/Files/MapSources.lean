import Phrasebook.Proofs.Files.ReadBack

/-! Language maps from bytes, from texts and from files, all of which are read alike. -/

namespace Phrasebook

namespace LanguageMap

/-- A text is read through its bytes as it is read itself. -/
theorem ofBytes_encode (text : String) : ofBytes (Utf8.encode text) = .ok (.ofText text) := by
  -- The bytes are decoded to the text that they write.
  rw [ofBytes, ofReader, Utf8.decode?_encode]

/-- Bytes that write no text are refused. -/
theorem ofBytes_of_not_text {bytes : Bytes} (malformed : ∀ text, bytes ≠ Utf8.encode text) :
    ofBytes bytes = .error (.file .undecodable) := by
  -- There is nothing that the bytes are decoded to.
  rw [ofBytes, ofReader, Utf8.decode?_eq_none_iff.mpr malformed]

end LanguageMap

namespace FileTree

variable {files : FileTree} {path : String} {content : Bytes}

/-- A file is read as the language map of the text that its content is, if it is one. -/
theorem readMap_of_read (stored : files.read path = .ok content) :
    files.readMap path =
      match decodeContent? content with
      | some text => .ok (.ofText text)
      | none => .error (.file .undecodable) := by
  -- A file is read as a map exactly if it is read as a text.
  cases decoded : decodeContent? content with
  | some text =>
    -- That the line endings are normalized twice makes no difference.
    have read : files.readText path = .ok (normalizeNewlines text) :=
      readText_eq_ok_iff.mpr ⟨content, text, stored, decoded, rfl⟩
    rw [readMap_eq, read]
    exact congrArg Except.ok (LanguageMap.ofText_normalizeNewlines text)
  | none =>
    -- Content that is no text is a fault of the file.
    have fails : files.readText path = .error (.file .undecodable) :=
      (readText_eq_error_iff stored _).mpr ⟨rfl, decodeContent?_eq_none_iff.mp decoded⟩
    rw [readMap_eq, fails]
    rfl

/-- A file without a mark is read as its bytes are. -/
theorem readMap_of_unmarked (stored : files.read path = .ok content)
    (unmarked : ¬ IsMarked content) : files.readMap path = LanguageMap.ofBytes content := by
  -- Without a mark the content is decoded as bytes always are.
  have decoded : decodeContent? content = Utf8.decode? content := by
    rw [decodeContent?, ByteOrderMark.split?_eq_none_iff.mpr unmarked]
  cases read : Utf8.decode? content <;>
    simp only [readMap_of_read stored, decoded, read, LanguageMap.ofBytes, LanguageMap.ofReader]

/-- A file that holds a text behind the mark of its encoding is read as the text alone. -/
theorem readMap_of_marked {text : String}
    (stored : files.read path = .ok (ByteOrderMark.utf8.bytes ++ Utf8.encode text)) :
    files.readMap path = LanguageMap.ofBytes (Utf8.encode text) := by
  -- The mark has three bytes, so it is found even if nothing follows.
  have marked : ByteOrderMark.split? (ByteOrderMark.utf8.bytes ++ Utf8.encode text) =
      some (.utf8, Utf8.encode text) :=
    ByteOrderMark.split?_eq_some_iff.mpr ⟨by simp [ByteOrderMark.bytes], rfl⟩
  have decoded : decodeContent? (ByteOrderMark.utf8.bytes ++ Utf8.encode text) = some text := by
    rw [decodeContent?, marked]
    exact congrArg some (Utf8.decodeLossy_encode text)
  rw [readMap_of_read stored, decoded, LanguageMap.ofBytes_encode]

/--
Language maps are read alike from bytes, from strings, from texts and from files.

Bytes that write a text are read as the text is, and so is a string. Other bytes are refused. A
file is read as its bytes are, unless it has three bytes and starts with a mark. The mark of UTF-8
is taken off once, and what follows is read as bytes are. Whatever is read from a file is what a
load of it commits and reports.
-/
theorem maps_read_alike :
    (∀ bytes : Bytes,
      ((∀ text, bytes ≠ Utf8.encode text) →
        LanguageMap.ofBytes bytes = .error (.file .undecodable)) ∧
      ∀ text, bytes = Utf8.encode text →
        LanguageMap.ofBytes bytes = .ok (.ofText text) ∧
        LanguageMap.ofString text = .ok (.ofText text)) ∧
    (∀ content : Bytes,
      content.length < 3 ∨ (∀ mark : ByteOrderMark, ¬ mark.bytes <+: content) →
      ∀ (files : FileTree) (path : String), files.read path = .ok content →
        files.readMap path = LanguageMap.ofBytes content) ∧
    (∀ (text : String) (files : FileTree) (path : String),
      files.read path = .ok (ByteOrderMark.utf8.bytes ++ Utf8.encode text) →
        files.readMap path = LanguageMap.ofBytes (Utf8.encode text)) ∧
    ∀ (files : FileTree) (path : String) (map : LanguageMap), files.readMap path = .ok map →
      ∀ (store : Store) (domain : String) (options : LoadOptions),
        store.loadFile files path domain options = store.load map path domain options := by
  -- Bytes and strings are read by one reader, and a file is read through its text.
  refine ⟨fun bytes => ⟨LanguageMap.ofBytes_of_not_text, ?_⟩, ?_, ?_, ?_⟩
  · rintro text rfl
    exact ⟨LanguageMap.ofBytes_encode text, LanguageMap.ofString_eq text⟩
  · intro content short files path stored
    refine readMap_of_unmarked stored ?_
    rintro ⟨long, mark, starts⟩
    -- Content is marked only if it is long enough and starts with a mark.
    rcases short with few | unmarked
    · omega
    · exact unmarked mark starts
  · intro text files path
    exact readMap_of_marked
  · intro files path map read store domain options
    rw [Store.loadFile, read]

/-- Two bytes that could be a mark are refused, and a mark before a language map goes unnoticed. -/
theorem marked_map_reads_alike :
    let text := "'''\r\nHi\r'''\nSalut\n'''"
    let map : LanguageMap := ⟨[⟨"Hi", "Salut", 5⟩], []⟩
    let files := (FileTree.empty.put ["a"] (.file [0xFF, 0xFE])).put ["b"]
      (.file (ByteOrderMark.utf8.bytes ++ Utf8.encode text))
    LanguageMap.ofBytes (Utf8.encode text) = .ok map ∧ LanguageMap.ofString text = .ok map ∧
      files.readMap "a" = .error (.file .undecodable) ∧ files.readMap "b" = .ok map ∧
      Store.empty.loadFile files "b" mainDomain ⟨true⟩ =
        Store.empty.load map "b" mainDomain ⟨true⟩ := by
  -- The two bytes are too short to be marked, and the text stands behind its mark.
  intro text map files
  have short : files.read "a" = .ok [0xFF, 0xFE] := by decide +kernel
  have marked : files.read "b" = .ok (ByteOrderMark.utf8.bytes ++ Utf8.encode text) := by
    decide +kernel
  have read : LanguageMap.ofText text = map := by decide +kernel
  have malformed : ∀ text, [0xFF, 0xFE] ≠ Utf8.encode text :=
    Utf8.decode?_eq_none_iff.mp (by decide +kernel)
  obtain ⟨bytes, unmarked, behindMark, loads⟩ := maps_read_alike
  -- The text is the same map through its bytes, as a string, and in its file.
  have whole : LanguageMap.ofBytes (Utf8.encode text) = .ok map := read ▸ ((bytes _).2 text rfl).1
  have string : LanguageMap.ofString text = .ok map := read ▸ ((bytes _).2 text rfl).2
  have inFile : files.readMap "b" = .ok map := (behindMark text files "b" marked).trans whole
  refine ⟨whole, string, ?_, inFile, loads files "b" map inFile _ _ _⟩
  rw [unmarked _ (Or.inl (by decide)) files "a" short]
  exact (bytes _).1 malformed

end FileTree

end Phrasebook
