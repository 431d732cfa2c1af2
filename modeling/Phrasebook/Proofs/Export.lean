import Phrasebook.Export
import Phrasebook.Proofs.Json.Written
import Phrasebook.Proofs.Store.History

/-! The export of a store is JSON from which the store can be told again. -/

namespace Phrasebook

/-- An entry as the grammar has it, under the names of its fields. -/
def Entry.tree (entry : Entry) : JsonTree :=
  .object [("key", .string entry.key), ("message", .string entry.message)]

/-- A table as the grammar has it: its entries, and nothing of its index. -/
def Table.tree (table : Table) : JsonTree :=
  .object [("entries", .array (table.toList.map Entry.tree))]

/-- A store as the grammar has it, with the table of each domain under the domain's name. -/
def Store.tree (store : Store) : JsonTree :=
  .object (store.toList.map fun (domain, table) => (domain, table.tree))

/-- A table is exported with its entries in order. -/
theorem Table.tree_toJson (table : Table) : table.toJson.tree = table.tree := by
  -- The index of the table is not exported.
  simp only [toJson, tree, JsonValue.tree, JsonValue.namedTrees, JsonValue.trees_map]
  rfl

/-- A store is exported with its domains in order. -/
theorem Store.tree_toJson (store : Store) : store.toJson.tree = store.tree := by
  -- Each table is exported under the name of its domain.
  simp only [toJson, tree, JsonValue.tree, JsonValue.namedTrees_map, Table.tree_toJson]

/-- An entry can be told from its tree. -/
theorem Entry.tree_injective {first second : Entry} (same : first.tree = second.tree) :
    first = second := by
  -- The tree holds the key and the message, and there is nothing else to an entry.
  cases first
  cases second
  simpa [tree] using same

/-- A table can be told from its tree, since its entries settle its index. -/
theorem Table.tree_injective {first second : Table} (same : first.tree = second.tree) :
    first = second := by
  -- The trees of two different entries differ, so the lists of entries are the same.
  have entries : first.toList.map Entry.tree = second.toList.map Entry.tree := by
    simpa [tree] using same
  exact Table.ext ((List.map_inj_right fun _ _ => Entry.tree_injective).mp entries)

/-- A store can be told from its tree. -/
theorem Store.tree_injective {first second : Store} (same : first.tree = second.tree) :
    first = second := by
  -- Each domain comes with its table, and the tables make up the store.
  have named : ∀ left right : String × Table,
      (left.1, left.2.tree) = (right.1, right.2.tree) → left = right := by
    intro left right sameNamed
    obtain ⟨sameName, sameTree⟩ := Prod.mk.inj sameNamed
    exact Prod.ext sameName (Table.tree_injective sameTree)
  have members : first.toList = second.toList := by
    apply (List.map_inj_right named).mp
    simpa [tree] using same
  have tables : first.tables = second.tables := Std.ExtTreeMap.toList_inj.mp members
  cases first
  cases second
  simpa using tables

/--
Nothing of a store is lost in its export.

The export is a JSON text of one value only: an object that has as its members the domains of the
store, each once and in order, and under each domain the entries of its table in order. So two
stores have the same export exactly if they are the same.
-/
theorem Store.exportText_tells_store (store : Store) :
    (∃ members : List (String × JsonTree),
      (∀ tree, IsJsonText store.exportText.toList tree ↔ tree = .object members) ∧
      members.map Prod.fst = store.domains ∧
      store.domains.Pairwise (· < ·) ∧
      ∀ domain tree, (domain, tree) ∈ members ↔
        ∃ table, store.table? domain = some table ∧
          tree = .object [("entries", .array (table.toList.map fun entry =>
            .object [("key", .string entry.key), ("message", .string entry.message)]))]) ∧
    ∀ other : Store, store.exportText = other.exportText ↔ store = other := by
  -- The export is written in the indented layout, which only adds blanks.
  have readsAs : ∀ (store : Store) (tree : JsonTree),
      IsJsonText store.exportText.toList tree ↔ tree = store.tree := by
    intro store tree
    rw [exportText, isJsonText_pretty_iff, tree_toJson]
  constructor
  · refine ⟨_, readsAs store, ?_, store.domains_increasing, ?_⟩
    · -- The names are the keys of the map of the tables.
      simp [Function.comp_def, toList, domains]
    · intro domain tree
      rw [List.mem_map]
      constructor
      · -- A member is a domain of the store, under its own name.
        rintro ⟨⟨name, table⟩, member, same⟩
        obtain ⟨rfl, rfl⟩ := Prod.mk.inj same
        exact ⟨table, Std.ExtTreeMap.mem_toList_iff_getElem?_eq_some.mp member, rfl⟩
      · rintro ⟨table, known, rfl⟩
        exact ⟨(domain, table), Std.ExtTreeMap.mem_toList_iff_getElem?_eq_some.mpr known, rfl⟩
  · intro other
    constructor
    · intro sameText
      -- The shared text is a JSON text of the trees of both.
      have own := (readsAs store store.tree).mpr rfl
      rw [sameText] at own
      exact tree_injective ((readsAs other store.tree).mp own)
    · intro same
      rw [same]

end Phrasebook
