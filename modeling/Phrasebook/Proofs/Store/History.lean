import Phrasebook.Files.TextFile
import Phrasebook.Proofs.Table.History

/-! A store after any calls: exactly the entries that the successful ones have committed. -/

namespace Phrasebook

/-- The key and the message of each record, in the order of the file. -/
def committedBy (records : List Record) : List Entry :=
  records.map fun record => { key := record.key, message := record.message }

/-- A language map has the entries that its records commit. -/
theorem LanguageMap.entries_eq_committedBy (map : LanguageMap) :
    map.entries = committedBy map.records := by
  -- The entry of a record is its key and its message, without its line.
  rw [entries, committedBy]
  exact List.map_congr_left fun record _ => rfl

/-- A call that is to write to a store. -/
inductive StoreCall where
  | loadText (text source domain : String) (options : LoadOptions)
  | loadMap (map : LanguageMap) (source domain : String) (options : LoadOptions)
  /-- A file is loaded from the files as they are at the time of the call. -/
  | loadFile (files : FileTree) (path domain : String) (options : LoadOptions)
  | insert (domain key message : String)

namespace StoreCall

/-- The domain that a call names. -/
def domain : StoreCall → String
  | loadText _ _ domain _ => domain
  | loadMap _ _ domain _ => domain
  | loadFile _ _ domain _ => domain
  | insert domain _ _ => domain

/-- What a call commits if it succeeds: each record that it brings, or its one message. -/
def entries : StoreCall → List Entry
  | loadText text _ _ _ => committedBy (LanguageMap.ofText text).records
  | loadMap map _ _ _ => committedBy map.records
  | loadFile files path _ _ =>
    match files.readMap path with
    | .ok map => committedBy map.records
    -- A file that cannot be read brings no records.
    | .error _ => []
  | insert _ key message => [⟨key, message⟩]

/-- What a call tells: what came of a load, or that a message was inserted. -/
inductive Outcome where
  | loaded (result : Except Error LoadReport)
  | inserted
  deriving DecidableEq

/-- Whether the call has succeeded, as an insertion always does. -/
def Outcome.succeeded : Outcome → Bool
  | loaded result => result.isOk
  | inserted => true

end StoreCall

namespace Store

/-- Carries out a call: what it tells, and the store that it leaves. -/
def perform (store : Store) : StoreCall → StoreCall.Outcome × Store
  | .loadText text source domain options =>
    let (result, after) := store.loadText text source domain options
    (.loaded result, after)
  | .loadMap map source domain options =>
    let (result, after) := store.load map source domain options
    (.loaded result, after)
  | .loadFile files path domain options =>
    let (result, after) := store.loadFile files path domain options
    (.loaded result, after)
  | .insert domain key message => (.inserted, store.insert domain key message)

/-- Carries out calls one after another: those that succeed, and the store that they leave. -/
def performAll (store : Store) : List StoreCall → List StoreCall × Store
  | [] => ([], store)
  | call :: rest =>
    let (outcome, next) := store.perform call
    let (later, last) := next.performAll rest
    -- A call that failed is left out, and the next one finds the store that it left.
    (if outcome.succeeded then call :: later else later, last)

end Store

/-- What some calls have committed: each entry with the domain it went to, in order. -/
def history (calls : List StoreCall) : List (String × Entry) :=
  calls.flatMap fun call => call.entries.map (call.domain, ·)

/-- What some calls have committed to one domain, in order. -/
def historyOf (domain : String) (calls : List StoreCall) : List Entry :=
  ((history calls).filter (·.1 == domain)).map Prod.snd

/-- The entries of the first call go before those of the others. -/
theorem historyOf_cons (domain : String) (call : StoreCall) (calls : List StoreCall) :
    historyOf domain (call :: calls) =
      (if call.domain = domain then call.entries else []) ++ historyOf domain calls := by
  -- All entries of a call go to the one domain that it names.
  by_cases same : call.domain = domain <;>
    simp [historyOf, history, List.filter_append, List.filter_map, Function.comp_def, same]

/-- Calls that name other domains commit nothing to this one. -/
theorem historyOf_eq_nil {domain : String} {calls : List StoreCall}
    (others : ¬ ∃ call ∈ calls, call.domain = domain) : historyOf domain calls = [] := by
  -- Neither the first call nor a later one names the domain.
  induction calls with
  | nil => rfl
  | cons call rest ih =>
    have first : call.domain ≠ domain := fun same => others ⟨call, by simp, same⟩
    have later : ¬ ∃ other ∈ rest, other.domain = domain := by
      intro named
      obtain ⟨other, among, same⟩ := named
      exact others ⟨other, by simp [among], same⟩
    rw [historyOf_cons, if_neg first, ih later, List.nil_append]

namespace Store

/-- A load commits all records or fails and changes nothing. -/
theorem load_cases (store : Store) (map : LanguageMap) (source domain : String)
    (options : LoadOptions) :
    ((store.load map source domain options).1.isOk = true ∧
      (store.load map source domain options).2 =
        store.changeTable domain (·.insertMany (committedBy map.records))) ∨
    ((store.load map source domain options).1.isOk = false ∧
      (store.load map source domain options).2 = store) := by
  -- It fails exactly if one of the records is refused.
  rw [← map.entries_eq_committedBy]
  unfold load
  cases store.refusedRecord? domain options map.records with
  | some record => exact Or.inr ⟨rfl, rfl⟩
  | none => exact Or.inl ⟨rfl, rfl⟩

/-- A call commits its entries to its domain if it succeeds, and otherwise changes nothing. -/
theorem perform_cases (store : Store) (call : StoreCall) :
    ((store.perform call).1.succeeded = true ∧
      (store.perform call).2 = store.changeTable call.domain (·.insertMany call.entries)) ∨
    ((store.perform call).1.succeeded = false ∧ (store.perform call).2 = store) := by
  -- All loads come down to one, and a single insertion never fails.
  cases call with
  | loadText text source domain options => exact store.load_cases (.ofText text) _ _ _
  | loadMap map source domain options => exact store.load_cases map _ _ _
  | loadFile files path domain options =>
    simp only [perform, loadFile, StoreCall.entries, StoreCall.domain]
    cases files.readMap path with
    | error cause => exact Or.inr ⟨rfl, rfl⟩
    | ok map => exact store.load_cases map _ _ _
  | insert domain key message => exact Or.inl ⟨rfl, rfl⟩

/-- A domain is known after some calls if it was before, or if one that succeeded names it. -/
theorem table?_performAll (store : Store) (calls : List StoreCall) (domain : String) :
    (store.performAll calls).2.table? domain =
      if ∃ call ∈ (store.performAll calls).1, call.domain = domain then
        some (((store.table? domain).getD .empty).insertMany
          (historyOf domain (store.performAll calls).1))
      else store.table? domain := by
  -- The induction is on the calls still to be carried out, from whatever store they find.
  induction calls generalizing store with
  | nil => simp [performAll]
  | cons call rest ih =>
    rcases store.perform_cases call with ⟨succeeds, after⟩ | ⟨fails, after⟩
    · simp only [performAll, succeeds, after, if_true, ih, table?_changeTable, historyOf_cons]
      generalize ((store.changeTable call.domain _).performAll rest).1 = later
      by_cases named : call.domain = domain
      · have first : ∃ other ∈ call :: later, other.domain = domain := ⟨call, by simp, named⟩
        rw [if_pos first]
        -- The entries of this call are in the table that the later calls find.
        split
        · simp [named, Table.insertMany_append]
        · rename_i others
          simp [named, historyOf_eq_nil others]
      · simp [named]
    · simp only [performAll, fails, after, Bool.false_eq_true, if_false, ih]

/-- The table of a domain is that of all that was committed to it. -/
theorem getD_table?_performAll (calls : List StoreCall) (domain : String) :
    (((empty.performAll calls).2.table? domain).getD .empty) =
      Table.ofList (historyOf domain (empty.performAll calls).1) := by
  -- A domain that no call names is not known, and nothing was committed to it.
  rw [table?_performAll, table?_empty]
  split
  · rfl
  · rename_i others
    rw [historyOf_eq_nil others]
    rfl

/-- The domains come in the order of their names. -/
theorem domains_increasing (store : Store) : store.domains.Pairwise (· < ·) := by
  -- The tree map compares its keys as texts are compared.
  have ordered := Std.ExtTreeMap.ordered_keys (t := store.tables)
  apply ordered.imp
  intro first second before
  exact (compareOfLessAndEq_eq_lt).mp before

/-- The domains that are listed are those that have a table. -/
theorem mem_domains_iff (store : Store) (domain : String) :
    domain ∈ store.domains ↔ (store.table? domain).isSome := by
  -- The domains are the keys of the tree map.
  rw [domains, Std.ExtTreeMap.mem_keys, table?, Std.ExtTreeMap.isSome_getElem?_iff_mem]

/-- The keys of a domain are those of its table. -/
theorem keys_of_table? {store : Store} {domain : String} {table : Table}
    (known : store.table? domain = some table) : store.keys domain = table.keys := by
  -- Only an unknown domain is given no keys without a table.
  simp [keys, known]

/--
A store is what the calls that succeeded have made of the empty one, in order.

Calls that failed leave no trace. A domain has a table exactly if a call that succeeded names it,
be it without entries. The table has the keys committed to the domain in the order in which they
first came, each with the message that was committed last. Domains are listed in order.
-/
theorem performAll_eq_history (calls : List StoreCall) :
    let succeeded := (Store.empty.performAll calls).1
    let store := (Store.empty.performAll calls).2
    (∀ domain,
      ((store.table? domain).isSome ↔ ∃ call ∈ succeeded, call.domain = domain) ∧
      (∀ table, store.table? domain = some table →
        table.toList.map Entry.key = firstKeys (historyOf domain succeeded) ∧
        ∀ entry ∈ table.toList,
          lastMessage? (historyOf domain succeeded) entry.key = some entry.message) ∧
      store.keys domain = firstKeys (historyOf domain succeeded)) ∧
    store.domains.Pairwise (· < ·) ∧
    ∀ domain, domain ∈ store.domains ↔ (store.table? domain).isSome := by
  -- The order of the domains holds of every store, and the rest of each domain by itself.
  intro succeeded store
  refine ⟨?_, store.domains_increasing, store.mem_domains_iff⟩
  intro domain
  -- No domain is known at the start, so each table has only what the calls have committed.
  have found : store.table? domain =
      if ∃ call ∈ succeeded, call.domain = domain then
        some (Table.ofList (historyOf domain succeeded))
      else none := by
    have := table?_performAll .empty calls domain
    rw [table?_empty] at this
    exact this
  by_cases named : ∃ call ∈ succeeded, call.domain = domain
  · -- A known domain has the table of all that was committed to it.
    rw [if_pos named] at found
    refine ⟨by simp [found, named], ?_, ?_⟩
    · intro table known
      cases Option.some.inj (found.symm.trans known)
      -- A table finds for a key the message that was inserted for it last.
      refine ⟨Table.keys_ofList _, ?_⟩
      intro entry member
      rw [← Table.get?_ofList]
      exact (Table.mem_toList _ _).mp member
    · rw [keys_of_table? found, Table.keys_ofList]
  · -- Nothing was committed to an unknown domain.
    rw [if_neg named] at found
    refine ⟨by simp [found, named], by simp [found], ?_⟩
    simp [keys, found, historyOf_eq_nil named, firstKeys]

end Store

end Phrasebook
