import Phrasebook.Error

/-! Paths as they are written, and the names that they are made of. -/

namespace Phrasebook

/-- The pieces of a text between its slashes. -/
def slashPieces : List Char → List (List Char)
  | [] => [[]]
  | char :: rest =>
    if char = '/' then [] :: slashPieces rest
    else
      -- Any other character goes in front of the piece that follows it.
      match slashPieces rest with
      | [] => [[char]]
      | piece :: later => (char :: piece) :: later

/-- A path, cut into names. -/
structure Path where
  /-- Whether the path starts from the root, and not from the working directory. -/
  absolute : Bool
  /-- The names to follow, of which `.` stays and `..` goes up. -/
  names : List String
  /-- Whether the path ends in a slash and so can only mean a directory. -/
  trailingSlash : Bool
  deriving DecidableEq, Repr

namespace Path

/-- The length in bytes from which on no path is followed. -/
def lengthLimit : Nat := 4096

/-- The greatest length of a name in bytes. -/
def longestName : Nat := 255

/-- The names of a path that is neither empty nor too long and has no NUL in it. -/
def ofString (text : String) : Except FileError Path :=
  let chars := text.toList
  -- The cause that is told is the first of these, whatever else is amiss.
  if chars.contains '\x00' then .error .nulInPath
  else if text.isEmpty then .error .notFound
  else if lengthLimit ≤ text.utf8ByteSize then .error .nameTooLong
  else
    -- Repeated slashes count as one.
    .ok {
      absolute := chars.head? == some '/'
      names := ((slashPieces chars).filter (!·.isEmpty)).map String.ofList
      trailingSlash := chars.getLast? == some '/' }

end Path

end Phrasebook
