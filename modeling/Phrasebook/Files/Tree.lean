import Phrasebook.Files.Path
import Phrasebook.Text.Utf8
import Std.Data.ExtTreeMap

/-! A tree of files and directories, and what opening a path in it comes to. -/

namespace Phrasebook

/-- What stands at a place in the tree. -/
inductive Node where
  | file (content : Bytes)
  | directory
  deriving DecidableEq, Repr

/-- A place in the tree: the names that lead there from the root. -/
abbrev Location := List String

/-- The files and directories that a run can see. -/
structure FileTree where
  /-- Everything but the root, which is always a directory. -/
  nodes : Std.ExtTreeMap Location Node
  /-- Where relative paths start. -/
  workingDirectory : Location
  deriving DecidableEq

namespace FileTree

/-- The tree with nothing in it. -/
def empty : FileTree where
  nodes := ∅
  workingDirectory := []

/-- What stands at a place. -/
def node? (files : FileTree) (location : Location) : Option Node :=
  -- The root needs no entry among the nodes.
  if location.isEmpty then some .directory else files.nodes[location]?

/-- Puts a node at a place. -/
def put (files : FileTree) (location : Location) (node : Node) : FileTree :=
  { files with nodes := files.nodes.insert location node }

/-- Only the place that a node is put at holds something else afterwards. -/
theorem node?_put (files : FileTree) (location : Location) (node : Node)
    (below : location ≠ []) (other : Location) :
    (files.put location node).node? other =
      if location = other then some node else files.node? other := by
  -- The root stays a directory, and every other place is looked up in the map.
  cases other with
  | nil => simp [node?, below]
  | cons name rest => simp [node?, put, Std.ExtTreeMap.getElem?_insert]

/-- Puts a node at a place, with directories on the way where there is nothing yet. -/
def plant (files : FileTree) (location : Location) (node : Node) : FileTree :=
  let ancestors := (List.range location.length).map location.take
  -- What stands on the way already is left as it is.
  let grown := ancestors.foldl
    (fun files ancestor =>
      if (files.node? ancestor).isSome then files else files.put ancestor .directory)
    files
  grown.put location node

/-- Where a path starts. -/
def start (files : FileTree) (path : Path) : Location :=
  if path.absolute then [] else files.workingDirectory

/-- Where a name leads that may not exist yet, from a place that has to be a directory. -/
def enter (files : FileTree) (here : Location) (name : String) : Except FileError Location :=
  -- Even a name that stays here or goes up has to be entered from a directory.
  if files.node? here ≠ some .directory then .error .notDirectory
  else if name = "." then .ok here
  else if name = ".." then .ok here.dropLast
  else if Path.longestName < name.utf8ByteSize then .error .nameTooLong
  else .ok (here ++ [name])

/-- Where a name leads that has to exist. -/
def follow (files : FileTree) (here : Location) (name : String) : Except FileError Location := do
  let there ← files.enter here name
  if (files.node? there).isSome then return there else throw .notFound

/-- The place that a path names, which has to exist. -/
def locate (files : FileTree) (path : String) : Except FileError Location := do
  let parsed ← Path.ofString path
  let there ← parsed.names.foldlM files.follow (files.start parsed)
  -- A slash at the end asks for a directory, as one more step would.
  if parsed.trailingSlash then files.follow there "." else return there

/-- The place of a file that is to be written and need not exist, in a directory that does. -/
def locateTarget (files : FileTree) (path : String) : Except FileError Location := do
  let parsed ← Path.ofString path
  match parsed.names.getLast? with
  | none => throw .isDirectory
  | some last =>
    let folder ← parsed.names.dropLast.foldlM files.follow (files.start parsed)
    let here ← files.follow folder "."
    -- No file is made under a name that can only mean a directory.
    if parsed.trailingSlash || last == "." || last == ".." then throw .isDirectory
    let there ← files.enter here last
    if files.node? there = some .directory then throw .isDirectory
    return there

/-- The content of the file that a path names. -/
def read (files : FileTree) (path : String) : Except FileError Bytes := do
  let location ← files.locate path
  -- The place exists, so what is no file there is a directory.
  match files.node? location with
  | some (.file content) => return content
  | _ => throw .isDirectory

/-- Gives the file that a path names this content, whatever it held before. -/
def write (files : FileTree) (path : String) (content : Bytes) : Except FileError FileTree := do
  let location ← files.locateTarget path
  return files.put location (.file content)

end FileTree

end Phrasebook
