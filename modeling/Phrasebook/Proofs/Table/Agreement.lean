import Phrasebook.Proofs.Table.History

/-! The entries of a table and the index into them, which describe one map after any insertions. -/

namespace Phrasebook.Table

/-- A key is found at a position exactly if that is a place of the entries and has the key. -/
theorem getElem?_index_iff_getElem (table : Table) (key : String) (position : Nat) :
    table.index[key]? = some position ↔
      ∃ within : position < table.entries.size, table.entries[position].key = key := by
  -- To have an entry at a position is to have the position within the entries.
  rw [table.aligned, Option.map_eq_some_iff]
  constructor
  · rintro ⟨entry, here, same⟩
    obtain ⟨within, stored⟩ := Array.getElem?_eq_some_iff.mp here
    exact ⟨within, stored ▸ same⟩
  · rintro ⟨within, same⟩
    exact ⟨_, Array.getElem?_eq_getElem within, same⟩

/-- For the key of an entry the message of that entry is found. -/
theorem get?_key (table : Table) (position : Fin table.entries.size) :
    table.get? table.entries[position].key = some table.entries[position].message := by
  -- The entry is one of those that lookups find.
  have member : table.entries[position] ∈ table.toList := by simp [toList]
  exact (table.mem_toList _).mp member

/-- A message is found for the keys of the table and for no other. -/
theorem isSome_get?_iff (table : Table) (key : String) :
    (table.get? key).isSome ↔ key ∈ table.keys := by
  -- The key and the message found for it are an entry, and every entry is found.
  rw [Option.isSome_iff_exists, keys, List.mem_map]
  constructor
  · rintro ⟨message, found⟩
    exact ⟨⟨key, message⟩, (table.mem_toList ⟨key, message⟩).mpr found, rfl⟩
  · rintro ⟨entry, member, rfl⟩
    exact ⟨entry.message, (table.mem_toList entry).mp member⟩

/-- An insertion tells what a lookup would have found just before. -/
theorem getThenInsert?_fst (table : Table) (key message : String) :
    (table.getThenInsert? key message).1 = table.get? key := by
  -- Both ask the index first, and the insertion has written nothing by then.
  unfold getThenInsert?
  split <;> rename_i found <;> simp [get?, found]

/-- A table grows by one exactly if nothing was found for the key before. -/
theorem size_insert (table : Table) (key message : String) :
    (table.insert key message).size =
      if table.get? key = none then table.size + 1 else table.size := by
  -- Only a key that is not among the others makes them more.
  have known := table.isSome_get?_iff key
  rw [size_eq_length_keys, keys_insert, size_eq_length_keys]
  by_cases member : key ∈ table.keys
  · have found : table.get? key ≠ none := Option.isSome_iff_ne_none.mp (known.mpr member)
    rw [if_pos member, if_neg found]
  · -- The keys are one more, and nothing was found for the new one.
    have missing : table.get? key = none := by
      rw [← Option.not_isSome_iff_eq_none, known]
      exact member
    rw [if_neg member, if_pos missing, List.length_append, List.length_singleton]

/-- To compare the entries and the index of two tables is to compare their entries. -/
theorem beq_entries_and_index (first second : Table) :
    (first.entries == second.entries && first.index == second.index) =
      decide (first.toList = second.toList) := by
  -- The index is made from the entries, so it adds nothing to the comparison.
  rw [Bool.eq_iff_iff, Bool.and_eq_true, beq_iff_eq, beq_iff_eq, decide_eq_true_iff]
  constructor
  · rintro ⟨entries, -⟩
    exact congrArg Array.toList entries
  · intro same
    rw [ext same]
    exact ⟨rfl, rfl⟩

/--
After any insertions the entries and the index of a table describe one map.

Its keys are those inserted, each where it first came, and each stands for its last message.
The index leads from every key to the one place that has it, and to no place beyond the entries.
One more insertion tells what the key stood for, changes that alone, and puts a new key last.
Two tables compare equal in their entries and their indices exactly if their entries are the same.
-/
theorem entries_and_index_agree (insertions others : List Entry) :
    let table := ofList insertions
    let other := ofList others
    (table.keys = firstKeys insertions ∧ table.keys.Nodup) ∧
    (∀ key position, table.index[key]? = some position ↔
      ∃ within : position < table.entries.size, table.entries[position].key = key) ∧
    (∀ position : Fin table.entries.size,
      table.get? table.entries[position].key = some table.entries[position].message) ∧
    (∀ key, table.get? key = lastMessage? insertions key ∧
      (table.contains key ↔ key ∈ table.keys) ∧
      (key ∈ table.keys ↔ (table.get? key).isSome)) ∧
    (∀ key message,
      let told := (table.getThenInsert? key message).1
      let after := (table.getThenInsert? key message).2
      after = ofList (insertions ++ [⟨key, message⟩]) ∧
      told = table.get? key ∧
      (∀ sought, after.get? sought = if key = sought then some message else table.get? sought) ∧
      after.keys = (if key ∈ table.keys then table.keys else table.keys ++ [key]) ∧
      after.size = (if told = none then table.size + 1 else table.size)) ∧
    (table.entries == other.entries && table.index == other.index) =
      decide (table.toList = other.toList) ∧
    (table = other ↔ table.toList = other.toList) := by
  intro table other
  -- What is told of the keys and of the index is true of every table.
  refine ⟨⟨keys_ofList insertions, table.nodup_keys⟩, table.getElem?_index_iff_getElem,
    table.get?_key, ?_, ?_, beq_entries_and_index table other, ?_⟩
  · -- What lookups find, and for which keys.
    intro key
    exact ⟨get?_ofList insertions key, table.contains_iff key, (table.isSome_get?_iff key).symm⟩
  · -- One more insertion.
    intro key message told after
    have toldIs : told = table.get? key := table.getThenInsert?_fst key message
    refine ⟨(ofList_concat insertions ⟨key, message⟩).symm, toldIs,
      table.get?_insert key message, table.keys_insert key message, ?_⟩
    rw [toldIs]
    exact table.size_insert key message
  · -- The index is made from the entries.
    exact ⟨fun same => congrArg toList same, ext⟩

/-- The first of two keys keeps its place when it is given another message. -/
example : (ofList [⟨"a", "1"⟩, ⟨"b", "2"⟩]).getThenInsert? "a" "3" =
    (some "1", ofList [⟨"a", "3"⟩, ⟨"b", "2"⟩]) := by
  decide

end Phrasebook.Table
