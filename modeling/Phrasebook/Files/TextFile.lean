import Phrasebook.Files.Tree
import Phrasebook.LanguageMap.Reader
import Phrasebook.LanguageMap.Writer
import Phrasebook.Store
import Phrasebook.Text.ByteOrderMark

/-! Files that hold text, and among them those that hold language maps. -/

namespace Phrasebook

namespace FileTree

/-- The text of a file, decoded as its first bytes say, with every line ending a line feed. -/
def readText (files : FileTree) (path : String) : Except Error String := do
  let content ← (files.read path).mapError .file
  -- Line endings are unified after decoding, in every encoding alike.
  match decodeContent? content with
  | some text => return normalizeNewlines text
  | none => throw (.file .undecodable)

/-- Writes a text to a file as UTF-8 without a mark. -/
def writeText (files : FileTree) (path text : String) : Except Error FileTree :=
  (files.write path (Utf8.encode text)).mapError .file

/-- The language map that stands in a file. -/
def readMap (files : FileTree) (path : String) : Except Error LanguageMap := do
  let text ← files.readText path
  -- A mark was taken off with the decoding, so what is left is plain text.
  LanguageMap.ofString text

/--
Writes a language map to a file.

The file is emptied before the records are looked at, so a record that would not read back leaves
an empty file behind.
-/
def writeMap (files : FileTree) (path : String) (map : LanguageMap) :
    Except Error Unit × FileTree :=
  match files.locateTarget path with
  | .error cause => (.error (.file cause), files)
  | .ok location =>
    -- From here on the earlier content is gone, whatever comes of the records.
    let opened := files.put location (.file [])
    match map.render with
    | .error error => (.error error, opened)
    | .ok text => (.ok (), opened.put location (.file (Utf8.encode text)))

end FileTree

/-- Commits the records of a file, whose path is then the source of the load. -/
def Store.loadFile (store : Store) (files : FileTree) (path domain : String)
    (options : LoadOptions) : Except Error LoadReport × Store :=
  match files.readMap path with
  | .error error => (.error error, store)
  | .ok map => store.load map path domain options

end Phrasebook
