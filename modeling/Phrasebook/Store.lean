import Phrasebook.Error
import Phrasebook.LanguageMap.Reader
import Phrasebook.LoadReport
import Std.Data.ExtTreeMap
import Std.Data.TreeSet

/-! Messages by domain and key, filled by loads and by single insertions. -/

namespace Phrasebook

/-- The domain that is meant where none is named. -/
def mainDomain : String := "main"

/-- The table of each domain, in the order of the domains' names. -/
structure Store where
  tables : Std.ExtTreeMap String Table
  deriving DecidableEq

/-- What a load is to go by. -/
structure LoadOptions where
  /-- Whether a key that comes again fails the load. -/
  strict : Bool
  deriving DecidableEq, Repr

namespace Store

/-- The store without domains. -/
def empty : Store where
  tables := ∅

/-- The names of the domains, in order. -/
def domains (store : Store) : List String :=
  store.tables.keys

/-- The domains with their tables, in order. -/
def toList (store : Store) : List (String × Table) :=
  store.tables.toList

/-- Whether there are no domains. -/
def isEmpty (store : Store) : Bool :=
  store.tables.isEmpty

/-- Whether the domain is known, be it without keys. -/
def containsDomain (store : Store) (domain : String) : Bool :=
  store.tables.contains domain

/-- The table of a domain. -/
def table? (store : Store) (domain : String) : Option Table :=
  store.tables[domain]?

/-- No domain is known to the empty store. -/
@[simp] theorem table?_empty (domain : String) : empty.table? domain = none := by
  -- There is not one table.
  simp [empty, table?]

/-- Changes the table of a domain, an unknown domain being added without keys first. -/
def changeTable (store : Store) (domain : String) (change : Table → Table) : Store where
  -- To name a domain is enough to register it, whatever the change does.
  tables := store.tables.insert domain (change ((store.table? domain).getD .empty))

/-- Only the table of the changed domain differs afterwards. -/
theorem table?_changeTable (store : Store) (domain : String) (change : Table → Table)
    (other : String) :
    (store.changeTable domain change).table? other =
      if domain = other then some (change ((store.table? domain).getD .empty))
      else store.table? other := by
  -- The tables are a map in which one binding is replaced.
  simp [changeTable, table?, Std.ExtTreeMap.getElem?_insert]

/-- Stores with the same tables are the same. -/
@[ext] theorem ext_table? {first second : Store}
    (same : ∀ domain, first.table? domain = second.table? domain) : first = second := by
  -- A map is determined by what it holds for each name.
  cases first
  cases second
  simpa [table?] using Std.ExtTreeMap.ext_getElem? same

/-- Sets the message of a key in a domain. -/
def insert (store : Store) (domain key message : String) : Store :=
  store.changeTable domain (·.insert key message)

/-- The keys of a domain in the order in which they first came, none if it is unknown. -/
def keys (store : Store) (domain : String) : List String :=
  ((store.table? domain).map Table.keys).getD []

/-- The table of a domain that has to be known. -/
def requireTable (store : Store) (domain : String) : Except Error Table :=
  match store.table? domain with
  | some table => .ok table
  | none => .error (.domainNotFound domain)

/-- The message of a key, or what stands in for a key that the domain does not have. -/
def lookup (store : Store) (domain key : String) (fallback : Option String) :
    Except Error String := do
  let table ← store.requireTable domain
  -- The fallback has a say only where the key has none.
  match table.get? key, fallback with
  | some message, _ => return message
  | none, some text => return text
  | none, none => throw (.keyNotFound domain key)

/-- The message of a key, or the fallback for a key that the domain does not have, if not empty. -/
def get (store : Store) (domain key fallback : String) : Except Error String :=
  -- An empty fallback is none at all, so the key has to be there.
  if fallback.isEmpty then store.lookup domain key none
  else do
    let table ← store.requireTable domain
    return (table.get? key).getD fallback

/-- The first record whose key was seen before it. -/
def firstRepeated? (seen : Std.TreeSet String) : List Record → Option Record
  | [] => none
  | record :: rest =>
    -- A record that passes adds its key to what the later ones are compared with.
    if seen.contains record.key then some record
    else firstRepeated? (seen.insert record.key) rest

/-- The record for which the options refuse to load some records into a domain. -/
def refusedRecord? (store : Store) (domain : String) (options : LoadOptions)
    (records : List Record) : Option Record :=
  -- Keys that the domain has already count as seen.
  if options.strict then firstRepeated? (Std.TreeSet.ofList (store.keys domain)) records
  else none

/--
Commits all records to a domain in file order, which registers the domain even without records.

A refused record fails the load before anything is committed.
-/
def load (store : Store) (map : LanguageMap) (source domain : String) (options : LoadOptions) :
    Except Error LoadReport × Store :=
  match store.refusedRecord? domain options map.records with
  | some record => (.error (.duplicateKey record.key record.line), store)
  | none =>
    -- From here on nothing can fail, so every record is committed and counted.
    (.ok ⟨source, domain, map.records.length, map.diagnostics⟩,
      store.changeTable domain (·.insertMany map.entries))

/-- Commits the records that stand in a text. -/
def loadText (store : Store) (text source domain : String) (options : LoadOptions) :
    Except Error LoadReport × Store :=
  store.load (.ofText text) source domain options

end Store

end Phrasebook
