import Phrasebook.Text.Quoted

/-! The causes for which an operation can fail, and how each is told. -/

namespace Phrasebook

/-- Why a file or a stream could not be read or written. -/
inductive FileError where
  /-- A name on the path does not exist, or the path is empty. -/
  | notFound
  /-- A directory stands where a file is asked for. -/
  | isDirectory
  /-- A file stands where the path needs a directory. -/
  | notDirectory
  /-- The path or one of its names is longer than file names may be. -/
  | nameTooLong
  /-- The path holds the character that ends file names. -/
  | nulInPath
  /-- The bytes are no UTF-8 and no mark names another encoding. -/
  | undecodable
  /-- What is to be written does not fit. -/
  | outOfSpace
  /-- Any other cause, in its own words. -/
  | other (text : String)
  deriving DecidableEq, Repr

/-- The cause in words. -/
def FileError.message : FileError → String
  | .notFound => "No such file or directory (os error 2)"
  | .isDirectory => "Is a directory (os error 21)"
  | .notDirectory => "Not a directory (os error 20)"
  | .nameTooLong => "File name too long (os error 36)"
  -- Only the causes above have a number with the operating system.
  | .nulInPath => "file name contained an unexpected NUL byte"
  | .undecodable => "stream did not contain valid UTF-8"
  | .outOfSpace => "failed to write whole buffer"
  | .other text => text

/-- Which text of a record is meant. -/
inductive RecordPart where
  | key
  | message
  deriving DecidableEq, Repr

/-- The name of this part of a record. -/
def RecordPart.name : RecordPart → String
  | .key => "key"
  | .message => "message"

/-- Why a text would not read back from the lines of a record. -/
inductive Defect where
  | leadingBlankLine
  | delimiterLine
  | carriageReturn
  deriving DecidableEq, Repr

/-- What the text does that a record cannot keep. -/
def Defect.description : Defect → String
  | .leadingBlankLine => "starts with a blank line, which the language map format drops"
  | .delimiterLine => "contains a delimiter line"
  | .carriageReturn => "contains a carriage return, which reads back as a line break"

/-- Why an operation failed. -/
inductive Error where
  | file (cause : FileError)
  | domainNotFound (domain : String)
  | keyNotFound (domain key : String)
  /-- A strict load met a key again in the record closed on this line. -/
  | duplicateKey (key : String) (line : Nat)
  /-- A text of a record cannot be written so that it reads back. -/
  | unrepresentable (part : RecordPart) (text : String) (defect : Defect)
  /-- Whoever was asked refused the data for a reason of their own. -/
  | refused (reason : String)
  deriving DecidableEq, Repr

/-- The failure in words. -/
def Error.message : Error → String
  | .file cause => s!"I/O error: {cause.message}"
  | .domainNotFound domain => s!"invalid domain '{domain}'"
  | .keyNotFound domain key => s!"invalid key '{key}' in domain '{domain}'"
  | .duplicateKey key line => s!"duplicate key '{key}' committed at line {line}"
  | .unrepresentable part text defect =>
    s!"invalid data: {part.name} {quoted text} {defect.description}"
  | .refused reason => s!"invalid data: {reason}"

end Phrasebook
