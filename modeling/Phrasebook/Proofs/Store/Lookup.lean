import Mathlib.Data.List.Nodup
import Phrasebook.Proofs.Store.History
import Phrasebook.Proofs.Table.Agreement

/-! Looking messages up: what is found, what stands in for it, and what is missing. -/

namespace Phrasebook

/-- A key that is found has one entry. -/
theorem Table.filter_key_eq_singleton {table : Table} {key message : String}
    (found : table.get? key = some message) :
    table.toList.filter (·.key == key) = [⟨key, message⟩] := by
  -- No entry comes twice, and those of the key have the message that is found.
  have different : (table.toList.filter (·.key == key)).Nodup :=
    (List.Nodup.of_map Entry.key table.nodup_keys).filter _
  have only : ∀ entry, entry ∈ table.toList.filter (·.key == key) ↔
      entry ∈ [(⟨key, message⟩ : Entry)] := by
    intro entry
    rw [List.mem_filter, table.mem_toList, beq_iff_eq, List.mem_singleton]
    constructor
    · rintro ⟨stored, rfl⟩
      rw [found, Option.some.injEq] at stored
      rw [stored]
    · rintro rfl
      exact ⟨found, rfl⟩
  -- So the list has this entry and no other, once.
  apply List.perm_singleton.mp
  exact (List.perm_ext_iff_of_nodup different (List.nodup_singleton _)).mpr only

namespace Store

variable {store : Store} {domain : String} {table : Table}

/-- In a known domain the message is found, or else the fallback stands in for it. -/
theorem lookup_of_table? (known : store.table? domain = some table) (key : String)
    (fallback : Option String) :
    store.lookup domain key fallback =
      match (table.get? key).or fallback with
      | some text => .ok text
      | none => .error (.keyNotFound domain key) := by
  -- The fallback is looked at only if the key has no entry.
  have required : store.requireTable domain = .ok table := by rw [requireTable, known]
  rw [lookup, required]
  dsimp only [Bind.bind, Except.bind]
  cases table.get? key <;> cases fallback <;> rfl

/-- A domain that is not known is told of, whatever the key and the fallback. -/
theorem lookup_of_unknown (unknown : store.table? domain = none) (key : String)
    (fallback : Option String) :
    store.lookup domain key fallback = .error (.domainNotFound domain) := by
  -- The table is asked for before anything else.
  have required : store.requireTable domain = .error (.domainNotFound domain) := by
    rw [requireTable, unknown]
  rw [lookup, required]
  rfl

/-- To get a message is to look it up with a fallback that counts unless it is empty. -/
theorem get_eq_lookup (store : Store) (domain key text : String) :
    store.get domain key text =
      store.lookup domain key (if text = "" then none else some text) := by
  -- Only a text that is not empty takes a way of its own, which leads to the same table.
  by_cases blank : text = ""
  · rw [if_pos blank, get, if_pos (String.isEmpty_iff.mpr blank)]
  · have filled : ¬ text.isEmpty = true := mt String.isEmpty_iff.mp blank
    rw [if_neg blank, get, if_neg filled]
    cases known : store.table? domain with
    | none =>
      rw [lookup_of_unknown known, requireTable, known]
      rfl
    | some table =>
      rw [lookup_of_table? known, requireTable, known]
      show (.ok ((table.get? key).getD text) : Except Error String) = _
      cases table.get? key <;> rfl

/-- The domain is found missing exactly if it is not among those that are listed. -/
theorem lookup_eq_domainNotFound_iff (store : Store) (domain key : String)
    (fallback : Option String) :
    store.lookup domain key fallback = .error (.domainNotFound domain) ↔
      domain ∉ store.domains := by
  -- In a known domain only a key can be missing.
  rw [mem_domains_iff]
  cases known : store.table? domain with
  | none => simp [lookup_of_unknown known]
  | some table =>
    rw [lookup_of_table? known]
    cases (table.get? key).or fallback <;> simp

/--
After any calls a message is looked up in two ways that agree with each other and with the keys.

To get a message is to look it up, where an empty text is no fallback. A domain is missing exactly
if it is not listed. A key that is listed stands for the message of its one entry, which is the
message that was committed last. For any other key of a known domain the fallback stands in, be it
empty, and without a fallback the key is missing.
-/
theorem lookups_agree_after_calls (calls : List StoreCall) (domain key : String) :
    let succeeded := (Store.empty.performAll calls).1
    let store := (Store.empty.performAll calls).2
    (∀ text, store.get domain key text =
      store.lookup domain key (if text = "" then none else some text)) ∧
    ∀ fallback : Option String,
      (store.lookup domain key fallback = .error (.domainNotFound domain) ↔
        domain ∉ store.domains) ∧
      (key ∈ store.keys domain → ∃ table entry,
        store.table? domain = some table ∧
        table.toList.filter (·.key == key) = [entry] ∧
        lastMessage? (historyOf domain succeeded) key = some entry.message ∧
        store.lookup domain key fallback = .ok entry.message) ∧
      (domain ∈ store.domains → key ∉ store.keys domain →
        store.lookup domain key fallback =
          match fallback with
          | some text => .ok text
          | none => .error (.keyNotFound domain key)) := by
  -- The first two statements hold of every store, and the others of one table.
  intro succeeded store
  refine ⟨store.get_eq_lookup domain key, fun fallback =>
    ⟨store.lookup_eq_domainNotFound_iff domain key fallback, ?_, ?_⟩⟩
  · -- What the index finds for a key that is listed is the message of its entry.
    intro listed
    cases known : store.table? domain with
    | none => simp [keys, known] at listed
    | some table =>
      rw [keys_of_table? known, ← table.isSome_get?_iff] at listed
      obtain ⟨message, found⟩ := Option.isSome_iff_exists.mp listed
      -- The table is made of what the calls have committed to the domain.
      have made : table = Table.ofList (historyOf domain succeeded) := by
        have all := getD_table?_performAll calls domain
        rw [known] at all
        exact all
      refine ⟨table, ⟨key, message⟩, rfl, Table.filter_key_eq_singleton found, ?_, ?_⟩
      · rw [← Table.get?_ofList, ← made, found]
      · rw [lookup_of_table? known, found, Option.some_or]
  · intro listed missing
    -- A domain that is listed has a table, in which the key has no entry.
    obtain ⟨table, known⟩ := Option.isSome_iff_exists.mp ((store.mem_domains_iff domain).mp listed)
    rw [keys_of_table? known, ← table.isSome_get?_iff, Option.not_isSome_iff_eq_none] at missing
    rw [lookup_of_table? known, missing, Option.none_or]

/-- In a domain without keys an empty text stands in as a fallback, but not as a default. -/
example :
    let store := (Store.empty.loadText "" "inline" mainDomain ⟨true⟩).2
    store.get mainDomain "" "" = .error (.keyNotFound mainDomain "") ∧
      store.lookup mainDomain "" (some "") = .ok "" := by
  decide +kernel

end Store

end Phrasebook
