import Mathlib.Data.List.Induction
import Phrasebook.Table.Lemmas

/-! A table after any insertions: the keys as they first came, with the messages set last. -/

namespace Phrasebook

/-- The keys of some entries, each where it first comes. -/
def firstKeys (entries : List Entry) : List String :=
  (entries.map Entry.key).eraseDups

/-- The message with which a key comes last among some entries. -/
def lastMessage? (entries : List Entry) (key : String) : Option String :=
  (entries.filter (·.key == key)).getLast?.map Entry.message

/-- One more entry adds its key unless that came before. -/
theorem firstKeys_concat (entries : List Entry) (entry : Entry) :
    firstKeys (entries ++ [entry]) =
      if entry.key ∈ firstKeys entries then firstKeys entries
      else firstKeys entries ++ [entry.key] := by
  -- A key is kept at its first place only.
  simp only [firstKeys, List.map_append, List.map_singleton, List.eraseDups_append,
    List.mem_eraseDups]
  generalize entries.map Entry.key = keys
  by_cases known : entry.key ∈ keys
  · simp [List.removeAll, known]
  · simp [List.removeAll, known, List.eraseDups_cons]

/-- One more entry is the last with its key. -/
theorem lastMessage?_concat (entries : List Entry) (entry : Entry) (key : String) :
    lastMessage? (entries ++ [entry]) key =
      if entry.key = key then some entry.message else lastMessage? entries key := by
  -- It is picked last, or not at all.
  by_cases same : entry.key = key <;> simp [lastMessage?, List.filter_append, same]

namespace Table

/-- Insertions after others go on from the table that those left. -/
theorem insertMany_append (table : Table) (first second : List Entry) :
    table.insertMany (first ++ second) = (table.insertMany first).insertMany second := by
  -- The insertions are one fold over the entries.
  simp [insertMany, List.foldl_append]

/-- The last of some entries is inserted into what the others have made of a table. -/
theorem insertMany_concat (table : Table) (entries : List Entry) (entry : Entry) :
    table.insertMany (entries ++ [entry]) =
      (table.insertMany entries).insert entry.key entry.message := by
  -- The fold ends with the last entry.
  simp [insertMany]

/-- The last of some entries is inserted into the table of the others. -/
theorem ofList_concat (entries : List Entry) (entry : Entry) :
    ofList (entries ++ [entry]) = (ofList entries).insert entry.key entry.message :=
  insertMany_concat .empty entries entry

/-- A table has the keys of its entries in the order in which they first came. -/
theorem keys_ofList (entries : List Entry) : (ofList entries).keys = firstKeys entries := by
  -- An insertion changes the keys as one more entry does.
  induction entries using List.reverseRecOn with
  | nil => rfl
  | append_singleton entries entry ih => rw [ofList_concat, keys_insert, firstKeys_concat, ih]

/-- A table has as many entries as its entries have different keys. -/
theorem size_ofList (entries : List Entry) :
    (ofList entries).size = (firstKeys entries).length := by
  -- Every key has one entry.
  rw [size_eq_length_keys, keys_ofList]

/-- After insertions a key has the message that was inserted for it last, if there was one. -/
theorem get?_insertMany (table : Table) (entries : List Entry) (key : String) :
    (table.insertMany entries).get? key = (lastMessage? entries key).or (table.get? key) := by
  -- An insertion changes what is found as one more entry does.
  induction entries using List.reverseRecOn with
  | nil => simp [insertMany, lastMessage?]
  | append_singleton entries entry ih =>
    rw [insertMany_concat, get?_insert, lastMessage?_concat, ih]
    split <;> simp

/-- A key stands for the message with which it came last. -/
theorem get?_ofList (entries : List Entry) (key : String) :
    (ofList entries).get? key = lastMessage? entries key := by
  -- Nothing is found before the first insertion.
  have missing : empty.get? key = none := by simp [get?, empty]
  rw [ofList, get?_insertMany, missing, Option.or_none]

/-- The entries of a table are exactly the keys with the messages found for them. -/
theorem mem_toList (table : Table) (entry : Entry) :
    entry ∈ table.toList ↔ table.get? entry.key = some entry.message := by
  -- The index leads from the key to the place of the entry.
  have find := table.aligned entry.key
  constructor
  · intro member
    obtain ⟨position, place⟩ := List.mem_iff_getElem?.mp member
    have here : table.entries[position]? = some entry := by simpa [toList] using place
    have found := (find position).mpr (by simp [here])
    simp [get?, found, here]
  · intro found
    obtain ⟨position, indexed, message⟩ := Option.bind_eq_some_iff.mp found
    have key := (find position).mp indexed
    obtain ⟨stored, here, same⟩ := Option.map_eq_some_iff.mp message
    simp only [here, Option.map_some, Option.some.injEq] at key
    -- The entry at that place has the key and the message, so it is the one asked for.
    have equal : stored = entry := by cases stored; cases entry; simp_all
    rw [toList, Array.mem_toList_iff, ← equal]
    exact Array.mem_of_getElem? here

/-- A table has each key where it first came, with the message that came with it last. -/
theorem map_toList_ofList (entries : List Entry) :
    (ofList entries).toList.map (fun entry => (entry.key, some entry.message)) =
      (firstKeys entries).map (fun key => (key, lastMessage? entries key)) := by
  -- The message of each entry is the one that is found for its key.
  rw [← keys_ofList, keys, List.map_map]
  refine List.map_congr_left fun entry member => ?_
  have found := (mem_toList _ entry).mp member
  rw [get?_ofList] at found
  simp [found]

/-- A key that is new comes last with its message. -/
theorem toList_insert_of_notMem (table : Table) {key : String} (message : String)
    (fresh : key ∉ table.keys) :
    (table.insert key message).toList = table.toList ++ [⟨key, message⟩] := by
  -- The index does not find the key, so the entry is pushed at the end.
  have missing : table.index[key]? = none := by
    have := table.isSome_index_iff key
    simpa [fresh] using this
  unfold insert getThenInsert?
  split
  · rename_i position found
    simp [missing] at found
  · simp [toList]

/-- Entries with different keys are the entries of their table. -/
theorem toList_ofList_of_nodup {entries : List Entry} (different : (entries.map Entry.key).Nodup) :
    (ofList entries).toList = entries := by
  -- Each of them brings a new key.
  induction entries using List.reverseRecOn with
  | nil => rfl
  | append_singleton entries entry ih =>
    simp only [List.map_append, List.map_singleton, List.nodup_append] at different
    obtain ⟨old, _, apart⟩ := different
    -- The key of the last entry is not among those before it.
    have fresh : entry.key ∉ (ofList entries).keys := by
      rw [keys, ih old]
      exact fun member => apart _ member _ (by simp) rfl
    rw [ofList_concat, toList_insert_of_notMem _ _ fresh, ih old]

/-- A table is the table of its own entries. -/
theorem ofList_toList (table : Table) : ofList table.toList = table := by
  -- No key comes twice among the entries.
  apply ext
  exact toList_ofList_of_nodup table.nodup_keys

/-- The entries of a table are among those that it was made from. -/
theorem mem_of_mem_toList_ofList {entries : List Entry} {entry : Entry}
    (member : entry ∈ (ofList entries).toList) : entry ∈ entries := by
  -- Its message is the one with which its key came last.
  rw [mem_toList, get?_ofList] at member
  obtain ⟨last, found, message⟩ := Option.map_eq_some_iff.mp member
  have inside := List.mem_filter.mp (List.mem_of_getLast? found)
  have equal : last = entry := by cases last; cases entry; simp_all
  exact equal ▸ inside.1

end Table

end Phrasebook
