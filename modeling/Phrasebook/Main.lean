import Phrasebook.Command.Replace
import Phrasebook.Command.ShowLocale

/-! The commands as programs: files and variables are fetched, and what a run leaves is put back. -/

namespace Phrasebook

/-- The path of a place, from the root. -/
def diskPath (location : Location) : String :=
  "/" ++ String.intercalate "/" location

/-- What stands at a place on disk. -/
def fetchNode (location : Location) : IO (Option Node) := do
  let path := (← IO.currentDir) / diskPath location
  if ← path.isDir then return some .directory
  else if ← path.pathExists then
    -- Whatever is there and is no directory is read to its end.
    return some (.file (← IO.FS.readBinFile path).data.toList)
  else return none

/-- The places that a path passes through. -/
def passedBy (here : Location) : List String → List Location
  | [] => []
  | name :: rest =>
    let there :=
      if name = "." then here else if name = ".." then here.dropLast else here ++ [name]
    there :: passedBy there rest

/-- Adds what the places of a path hold on disk. -/
def fetchPath (files : FileTree) (path : String) : IO FileTree := do
  match Path.ofString path with
  | .error _ => return files
  | .ok parsed =>
    -- Directories on the way are fetched too, as a path is followed through them.
    (passedBy (files.start parsed) parsed.names).foldlM
      (fun files location => do
        match ← fetchNode location with
        | some node => return files.put location node
        | none => return files)
      files

/-- The files that some paths are about, and the working directory. -/
def fetchFiles (paths : List String) : IO FileTree := do
  let home := ((← IO.currentDir).toString.splitOn "/").filter (!·.isEmpty)
  let nothing := { FileTree.empty.plant home .directory with workingDirectory := home }
  paths.foldlM fetchPath nothing

/-- Writes the files in which two trees differ. -/
def storeChanges (before after : FileTree) : IO Unit :=
  after.nodes.toList.forM fun (location, node) => do
    -- A file that was not changed is not written again.
    if before.node? location ≠ some node then
      if let .file content := node then
        IO.FS.writeBinFile (diskPath location) ⟨content.toArray⟩

/-- Brings a command to its end, with a usage line for those who need it. -/
def conclude (usage : String) (before : FileTree) : Ending → IO UInt32
  | .help => do
    IO.println usage
    return 0
  | .misused exitCode => do
    IO.eprintln usage
    return UInt32.ofNat exitCode
  | .finished exitCode workspace => do
    -- The files are put back before anything is printed.
    storeChanges before workspace.files
    IO.print workspace.notes.stdout
    IO.eprint workspace.notes.stderr
    return UInt32.ofNat exitCode

/-- The replace command on the files of this machine. -/
def replaceMain (line : List String) : IO UInt32 := do
  -- Only the files that the options name can matter to the run.
  let paths := match Replace.optionsOf line with
    | .ok options =>
      [options.job.input, options.job.output, options.job.languageMap] ++ options.dump.toList
    | .error _ => []
  let files ← fetchFiles paths
  let usage := "Usage: langmap [--domain DOMAIN] [--strict] [--dump PATH] INPUT OUTPUT LANGMAP"
  conclude usage files (Replace.command line files)

/-- The locale command with the variables of this process. -/
def localeMain (line : List String) : IO UInt32 := do
  let environment ← localeVariables.filterMapM fun name => do
    return (← IO.getEnv name).map fun value => (name, Utf8.encode value)
  conclude "Usage: langmap-locale" .empty (ShowLocale.command line environment)

end Phrasebook

/-- Runs the command by whose name the program is called. -/
def main (line : List String) : IO UInt32 := do
  if (← IO.appPath).fileName == some "langmap-locale" then Phrasebook.localeMain line
  else Phrasebook.replaceMain line
