import Std.Data.ExtTreeMap

/-! The messages of one domain by key, in the order in which the keys first came. -/

namespace Phrasebook

/-- A key and the message that it stands for. -/
structure Entry where
  key : String
  message : String
  deriving DecidableEq, Repr

/-- Messages by key: the entries in order, with an index into them. -/
structure Table where
  entries : Array Entry
  index : Std.ExtTreeMap String Nat
  /-- The index finds a key exactly where the entry of that key stands. -/
  aligned : ∀ (key : String) (position : Nat),
    index[key]? = some position ↔ (entries[position]?).map Entry.key = some key

namespace Table

/-- The table without entries. -/
def empty : Table where
  entries := #[]
  index := ∅
  aligned := by simp

/-- The entries in the order in which their keys first came. -/
def toList (table : Table) : List Entry :=
  table.entries.toList

/-- The keys in the order in which they first came. -/
def keys (table : Table) : List String :=
  table.toList.map Entry.key

/-- The number of keys. -/
def size (table : Table) : Nat :=
  table.entries.size

/-- Whether there are no keys. -/
def isEmpty (table : Table) : Bool :=
  table.entries.isEmpty

/-- Whether the table has an entry for the key. -/
def contains (table : Table) (key : String) : Bool :=
  table.index.contains key

/-- The message that the key stands for. -/
def get? (table : Table) (key : String) : Option String :=
  (table.index[key]?).bind fun position => (table.entries[position]?).map Entry.message

/-- Sets the message of a key, and tells the message that the key had before. -/
def getThenInsert? (table : Table) (key message : String) : Option String × Table :=
  match found : table.index[key]? with
  | some position =>
    -- A known key keeps its place.
    ((table.entries[position]?).map Entry.message,
      { entries := table.entries.modify position ({ · with message })
        index := table.index
        aligned := by
          intro other place
          rw [table.aligned, Array.getElem?_modify]
          split <;> simp [Option.map_map, Function.comp_def] })
  | none =>
    -- A new key goes to the end.
    (none,
      { entries := table.entries.push ⟨key, message⟩
        index := table.index.insert key table.entries.size
        aligned := by
          intro other place
          rw [Std.ExtTreeMap.getElem?_insert, Array.getElem?_push]
          by_cases last : place = table.entries.size
          · -- Nothing stood at the end before.
            have free : table.index[other]? ≠ some place := by
              rw [ne_eq, table.aligned, last]
              simp
            by_cases same : key = other
            · simp [last, same]
            · rw [last] at free
              simp [last, same, free]
          · -- Every other place keeps its entry, and none of those is of the new key.
            rw [if_neg last, ← table.aligned]
            by_cases same : key = other
            · simp [← same, found, Ne.symm last]
            · simp [same] })

/-- Sets the message of a key. -/
def insert (table : Table) (key message : String) : Table :=
  (table.getThenInsert? key message).2

/-- Sets the messages of several keys, one after another. -/
def insertMany (table : Table) (entries : List Entry) : Table :=
  entries.foldl (fun table entry => table.insert entry.key entry.message) table

/-- The table of some entries, where a later message of a key takes the place of an earlier. -/
def ofList (entries : List Entry) : Table :=
  empty.insertMany entries

/-- Tables with the same entries are the same. -/
@[ext] theorem ext {first second : Table} (same : first.toList = second.toList) :
    first = second := by
  -- Where every key stands can be read off the entries.
  have sameEntries : first.entries = second.entries := Array.toList_inj.mp same
  have sameIndex : first.index = second.index := by
    apply Std.ExtTreeMap.ext_getElem?
    intro key
    apply Option.ext
    intro position
    rw [first.aligned, second.aligned, sameEntries]
  cases first
  cases second
  simp_all

instance : DecidableEq Table := fun first second =>
  decidable_of_iff (first.toList = second.toList) ⟨ext, fun same => by rw [same]⟩

end Table

end Phrasebook
