import Phrasebook.Table.Basic

/-! What the operations of a table do to its keys and to the messages found in it. -/

namespace Phrasebook.Table

/-- The index finds a key exactly where the key stands among the keys. -/
theorem getElem?_index (table : Table) (key : String) (position : Nat) :
    table.index[key]? = some position ↔ table.keys[position]? = some key := by
  -- The keys stand as their entries do.
  rw [table.aligned]
  simp [keys, toList]

/-- The index finds no more than the keys. -/
theorem isSome_index_iff (table : Table) (key : String) :
    (table.index[key]?).isSome ↔ key ∈ table.keys := by
  -- A key among the keys stands at some position, where the index finds it.
  rw [Option.isSome_iff_exists, List.mem_iff_getElem?]
  simp only [getElem?_index]

/-- The table has an entry for a key exactly if the key is among its keys. -/
theorem contains_iff (table : Table) (key : String) :
    table.contains key ↔ key ∈ table.keys := by
  -- To contain a key is to find it in the index.
  rw [← isSome_index_iff, contains, Std.ExtTreeMap.contains_eq_isSome_getElem?]

/-- No key comes twice. -/
theorem nodup_keys (table : Table) : table.keys.Nodup := by
  -- The index would have to find the key at both positions.
  rw [List.Nodup, List.pairwise_iff_getElem]
  intro first second firstWithin secondWithin before same
  have atFirst := (table.getElem?_index _ first).mpr (List.getElem?_eq_getElem firstWithin)
  have atSecond := (table.getElem?_index _ second).mpr (List.getElem?_eq_getElem secondWithin)
  -- The key is found at one position, so the two are the same.
  rw [same, atSecond, Option.some.injEq] at atFirst
  omega

/-- The size counts the entries. -/
theorem size_eq_length_toList (table : Table) : table.size = table.toList.length := by
  -- The list has the entries of the array.
  rw [size, toList, Array.length_toList]

/-- There are as many entries as keys. -/
theorem size_eq_length_keys (table : Table) : table.size = table.keys.length := by
  -- Each key is that of one entry.
  rw [size_eq_length_toList, keys, List.length_map]

/-- A key that is known stays where it is, and a new one comes last. -/
theorem keys_insert (table : Table) (key message : String) :
    (table.insert key message).keys =
      if key ∈ table.keys then table.keys else table.keys ++ [key] := by
  -- Writing a message over another changes no key, and a new entry is pushed at the end.
  have known := table.isSome_index_iff key
  unfold insert getThenInsert?
  split
  · rename_i position found
    rw [if_pos (known.mp (by simp [found]))]
    -- At every position the key is what it was, whether or not the message is.
    apply List.ext_getElem?
    intro i
    simp only [keys, toList, List.getElem?_map, Array.getElem?_toList, Array.getElem?_modify]
    split <;> simp [Option.map_map, Function.comp_def]
  · rename_i found
    rw [if_neg (fun member => by simp [found] at known; exact known member)]
    simp [keys, toList]

/-- The message set last is the one found, and no other key is touched. -/
theorem get?_insert (table : Table) (key message other : String) :
    (table.insert key message).get? other =
      if key = other then some message else table.get? other := by
  -- Either the entry of the key is written over, or the new entry is the last.
  unfold insert getThenInsert?
  split
  · rename_i position found
    have here := (table.aligned key position).mp found
    by_cases same : key = other
    · -- The entry that the index finds is the one written over.
      subst same
      obtain ⟨entry, stored, _⟩ := Option.map_eq_some_iff.mp here
      simp [get?, found, stored, Array.getElem?_modify]
    · -- Another key is found at another place, if anywhere.
      rw [if_neg same]
      simp only [get?]
      cases place : table.index[other]? with
      | none => rfl
      | some spot =>
        have apart : position ≠ spot := by
          intro equal
          have stored := (table.aligned other spot).mp place
          rw [← equal, here, Option.some.injEq] at stored
          exact same stored
        simp only [Option.bind_some, Array.getElem?_modify, if_neg apart]
  · rename_i found
    by_cases same : key = other
    · -- The index finds the new entry at the end.
      simp [get?, ← same]
    · -- Whatever else the index finds was there before.
      simp only [get?, Std.ExtTreeMap.getElem?_insert, if_neg same]
      cases place : table.index[other]? with
      | none => simp [same]
      | some spot =>
        have stored := (table.aligned other spot).mp place
        obtain ⟨entry, here, _⟩ := Option.map_eq_some_iff.mp stored
        have within := (Array.getElem?_eq_some_iff.mp here).1
        simp [same, Array.getElem?_push, here, Nat.ne_of_lt within]

end Phrasebook.Table
