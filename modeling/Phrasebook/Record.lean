/-! Records, each of which pairs a key with the message that replaces it. -/

namespace Phrasebook

/-- The line that opens a record, parts its key from its message, and closes it. -/
def delimiter : String := "'''"

/-- The first character of a comment between records. -/
def commentMarker : Char := '#'

/-- One key and its message, as read from a language map. -/
structure Record where
  key : String
  message : String
  /-- The line of the delimiter that closed the record, counted from one, or zero if none did. -/
  line : Nat
  deriving DecidableEq, Repr

end Phrasebook
