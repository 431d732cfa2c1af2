import Mathlib.Data.List.Nodup
import Phrasebook.Proofs.Table.History

/-! What the order of insertions does to a table: nothing but the order of the keys that are new. -/

namespace Phrasebook

/-- Where no key comes twice, each entry brings the message that its key comes with last. -/
theorem lastMessage?_eq_some_iff {entries : List Entry}
    (different : (entries.map Entry.key).Nodup) {key message : String} :
    lastMessage? entries key = some message ↔ ⟨key, message⟩ ∈ entries := by
  -- The entries are those of a table, in which messages are found by their keys.
  have found := Table.mem_toList (Table.ofList entries) ⟨key, message⟩
  rw [Table.toList_ofList_of_nodup different, Table.get?_ofList] at found
  exact found.symm

/-- Where no key comes twice, the order of the entries does not matter for their messages. -/
theorem lastMessage?_perm {entries permuted : List Entry}
    (different : (entries.map Entry.key).Nodup) (perm : entries.Perm permuted) (key : String) :
    lastMessage? entries key = lastMessage? permuted key := by
  -- The messages are told by the entries alone, and those are the same.
  have stillDifferent := (perm.map Entry.key).nodup different
  apply Option.ext
  intro message
  rw [lastMessage?_eq_some_iff different, lastMessage?_eq_some_iff stillDifferent, perm.mem_iff]

namespace Table

/-- A table has the message of each of its keys, in the order of the keys. -/
theorem toList_eq_filterMap_keys (table : Table) :
    table.toList = table.keys.filterMap fun key => (table.get? key).map (Entry.mk key) := by
  -- For the key of an entry its own message is found.
  have own : ∀ entry ∈ table.toList,
      (table.get? entry.key).map (Entry.mk entry.key) = some entry := by
    intro entry member
    rw [(table.mem_toList entry).mp member]
    rfl
  rw [keys, List.filterMap_map]
  exact ((List.filterMap_congr own).trans List.filterMap_some).symm

/-- Insertions of different keys put those that are new behind the others, as they come. -/
theorem keys_insertMany (table : Table) {entries : List Entry}
    (different : (entries.map Entry.key).Nodup) :
    (table.insertMany entries).keys =
      table.keys ++ (entries.filter (·.key ∉ table.keys)).map Entry.key := by
  -- A key that is neither in the table nor among the entries so far goes to the end.
  induction entries using List.reverseRecOn with
  | nil => simp [insertMany]
  | append_singleton entries entry ih =>
    simp only [List.map_append, List.map_singleton, List.nodup_append] at different
    obtain ⟨old, _, apart⟩ := different
    -- No earlier entry has the key of the last one.
    have fresh : ∀ other ∈ entries, other.key ≠ entry.key := by
      intro other member
      exact apart _ (List.mem_map_of_mem member) _ (by simp)
    rw [insertMany_concat, keys_insert, ih old, List.filter_append, List.map_append]
    -- Only if the table does not have it either, the last entry passes the filter.
    by_cases known : entry.key ∈ table.keys
    · simp [known]
    · simpa [known] using fun other member _ => fresh other member

/-- Insertions of different keys change the messages of known keys and add the other entries. -/
theorem toList_insertMany (table : Table) {entries : List Entry}
    (different : (entries.map Entry.key).Nodup) :
    (table.insertMany entries).toList =
      table.keys.filterMap (fun key =>
        ((lastMessage? entries key).or (table.get? key)).map (Entry.mk key)) ++
      entries.filter (·.key ∉ table.keys) := by
  -- An entry that is added has the last message of its key, there being no other.
  have own : ∀ entry ∈ entries.filter (·.key ∉ table.keys),
      ((lastMessage? entries entry.key).or (table.get? entry.key)).map (Entry.mk entry.key) =
        some entry := by
    intro entry member
    rw [(lastMessage?_eq_some_iff different).mpr (List.mem_filter.mp member).1]
    rfl
  rw [toList_eq_filterMap_keys, keys_insertMany table different, List.filterMap_append,
    List.filterMap_map]
  simp only [get?_insertMany]
  congr 1
  exact (List.filterMap_congr own).trans List.filterMap_some

end Table

end Phrasebook
