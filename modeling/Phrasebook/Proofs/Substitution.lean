import Phrasebook.Proofs.Run
import Phrasebook.Proofs.Store.Lookup
import Phrasebook.Proofs.Text.Replace
import Phrasebook.Substitution

/-! Substitution as what the table of a domain does to a text. -/

namespace Phrasebook

/-- The text in which the keys of some entries are replaced, one after another. -/
def replaceEach (entries : List Entry) (text : String) : String :=
  entries.foldl (fun text entry => replaceAll entry.key entry.message text) text

/-- The text in which every key of a table is replaced, one after another. -/
def Table.replaceKeys (table : Table) (text : String) : String :=
  replaceEach table.toList text

/-- The first key is replaced before the others. -/
theorem replaceEach_cons (entry : Entry) (rest : List Entry) (text : String) :
    replaceEach (entry :: rest) text =
      replaceEach rest (replaceAll entry.key entry.message text) :=
  rfl

/-- The keys of some entries are replaced before those of others that follow. -/
theorem replaceEach_append (entries later : List Entry) (text : String) :
    replaceEach (entries ++ later) text = replaceEach later (replaceEach entries text) :=
  List.foldl_append

/-- A text in which the keys of some entries are replaced, each in what the ones before it left. -/
inductive ReplacedInTurn : List Entry → String → String → Prop where
  | done (text : String) : ReplacedInTurn [] text text
  | step {entry : Entry} {rest : List Entry} {text next result : String}
      (first : Replaces entry.key entry.message text next)
      (onward : ReplacedInTurn rest next result) : ReplacedInTurn (entry :: rest) text result

/-- To replace the keys of some entries in turn has one result. -/
theorem replacedInTurn_iff {entries : List Entry} {text result : String} :
    ReplacedInTurn entries text result ↔ result = replaceEach entries text := by
  -- Each step has one result, from which the next one goes on.
  induction entries generalizing text with
  | nil =>
    constructor
    · intro replaced
      cases replaced
      rfl
    · intro same
      rw [same]
      exact .done text
  | cons entry rest ih =>
    rw [replaceEach_cons, ← ih]
    constructor
    · intro replaced
      cases replaced with
      | step first onward => exact replaces_iff.mp first ▸ onward
    · intro onward
      exact .step (replaces_iff.mpr rfl) onward

namespace Store

variable {store : Store} {domain : String} {table : Table}

/-- A key that has a message is replaced by it. -/
theorem replaceKey_eq (known : store.table? domain = some table) {entry : Entry}
    (member : entry ∈ table.toList) (text : String) :
    store.replaceKey domain text entry.key = .ok (replaceAll entry.key entry.message text) := by
  -- The key is looked up in the table, where the entry stands for it.
  have found := (table.mem_toList entry).mp member
  have message : store.get domain entry.key entry.key = .ok entry.message := by
    -- The fallback, which an empty key goes without, is not needed.
    rw [get_eq_lookup, lookup_of_table? known, found, Option.some_or]
  rw [replaceKey, message]
  rfl

/-- Substitution in a known domain succeeds, and depends on its table only. -/
theorem substitute_eq (known : store.table? domain = some table) (input : String) :
    store.substitute domain input = .ok ⟨table.replaceKeys input, table.size⟩ := by
  -- The keys that are gone through are those of the entries, in their order.
  have keys : store.keys domain = table.toList.map Entry.key := by
    simp [Store.keys, known, Table.keys]
  -- The induction is over the entries still to come, all of which are in the table.
  have replaced : ∀ (entries : List Entry) (text : String),
      (∀ entry ∈ entries, entry ∈ table.toList) →
      (entries.map Entry.key).foldlM (store.replaceKey domain) text =
        .ok (replaceEach entries text) := by
    intro entries
    induction entries with
    | nil =>
      intro text _
      rfl
    | cons entry rest ih =>
      intro text inside
      rw [List.map_cons, List.foldlM_cons, replaceKey_eq known (inside entry (by simp)) text]
      exact ih _ fun other among => inside other (by simp [among])
  -- The count is that of the keys, however often each of them was found.
  rw [substitute, keys, except_bind_eq_ok_iff]
  refine ⟨_, replaced _ _ fun _ member => member, ?_⟩
  simp [Table.replaceKeys, Table.size, Table.toList, Pure.pure, Except.pure]

/-- Substitution in a domain that is not known succeeds, as in one without keys. -/
theorem substitute_eq_getD (store : Store) (domain input : String) :
    let table := (store.table? domain).getD .empty
    store.substitute domain input = .ok ⟨table.replaceKeys input, table.size⟩ := by
  -- Without a table there are no keys to go through.
  cases known : store.table? domain with
  | some table => exact substitute_eq known input
  | none => simp [substitute, keys, known, Pure.pure, Except.pure, Table.replaceKeys, replaceEach,
      Table.toList, Table.size, Table.empty, Bind.bind, Except.bind]

/-- Substitution never fails. -/
theorem exists_substitute (store : Store) (domain input : String) :
    ∃ substitution, store.substitute domain input = .ok substitution :=
  ⟨_, store.substitute_eq_getD domain input⟩

/--
Substitution never fails, and replaces what was committed to the domain, key after key.

The keys come in the order in which they were first committed, each with the message that was
committed for it last. Every key counts once, and a domain that is not known has none.
-/
theorem substitute_performAll (calls : List StoreCall) (domain input : String) :
    let store := (Store.empty.performAll calls).2
    let committed := historyOf domain (Store.empty.performAll calls).1
    let table := (store.table? domain).getD .empty
    table.toList.map (fun entry => (entry.key, some entry.message)) =
        (firstKeys committed).map (fun key => (key, lastMessage? committed key)) ∧
      ∃ text, (∀ result, ReplacedInTurn table.toList input result ↔ result = text) ∧
        store.substitute domain input = .ok ⟨text, (firstKeys committed).length⟩ := by
  -- The table is made of what was committed, and the text is what it makes of the input.
  intro store committed table
  have made : table = Table.ofList committed := getD_table?_performAll calls domain
  refine ⟨?_, table.replaceKeys input, fun _ => replacedInTurn_iff, ?_⟩
  · rw [made, Table.map_toList_ofList]
  · rw [← Table.size_ofList, ← made]
    exact store.substitute_eq_getD domain input

end Store

end Phrasebook
