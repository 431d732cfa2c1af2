import Phrasebook.Proofs.Substitution
import Phrasebook.Proofs.Table.Order
import Phrasebook.Proofs.Text.Interplay

/-! Entries that do not touch each other, whose order makes no difference to a substitution. -/

namespace Phrasebook

/-- Entries of which none replaces, or brings in, a character of another one's key. -/
structure Independent (entries : List Entry) : Prop where
  different : (entries.map Entry.key).Nodup
  filled : ∀ entry ∈ entries, entry.key ≠ "" ∧ entry.message ≠ ""
  keysApart : ∀ first ∈ entries, ∀ second ∈ entries, first.key ≠ second.key →
    SharesNoChar first.key second.key
  messagesApart : ∀ first ∈ entries, ∀ second ∈ entries, first.key ≠ second.key →
    SharesNoChar first.message second.key

/-- Two of the entries can be replaced in either order. -/
theorem Independent.replaceAll_comm {entries : List Entry} (independent : Independent entries)
    {first second : Entry} (firstIn : first ∈ entries) (secondIn : second ∈ entries)
    (text : String) :
    replaceAll second.key second.message (replaceAll first.key first.message text) =
      replaceAll first.key first.message (replaceAll second.key second.message text) := by
  -- Either the two have different keys, which do not touch each other, or they are one.
  by_cases same : first.key = second.key
  · -- No key comes twice, so the two are one entry.
    cases List.inj_on_of_nodup_map independent.different firstIn secondIn same
    rfl
  · obtain ⟨firstFilled, firstMessageFilled⟩ := independent.filled first firstIn
    obtain ⟨secondFilled, secondMessageFilled⟩ := independent.filled second secondIn
    exact Phrasebook.replaceAll_comm firstFilled secondFilled firstMessageFilled
      secondMessageFilled (independent.keysApart first firstIn second secondIn same)
      (independent.messagesApart first firstIn second secondIn same)
      (independent.messagesApart second secondIn first firstIn (Ne.symm same)) text

/-- Some of the entries can be replaced in any order. -/
theorem Independent.replaceEach_perm {entries part permuted : List Entry}
    (independent : Independent entries) (inside : part ⊆ entries) (perm : part.Perm permuted)
    (text : String) : replaceEach part text = replaceEach permuted text :=
  -- Any order is reached by exchanging neighbours.
  perm.foldl_eq' (fun _ first _ second text =>
    independent.replaceAll_comm (inside first) (inside second) text) text

/-- A table into which the entries are inserted in any order replaces its keys alike. -/
theorem Independent.replaceKeys_insertMany_perm {entries permuted : List Entry}
    (independent : Independent entries) (perm : entries.Perm permuted) (table : Table)
    (text : String) :
    (table.insertMany entries).replaceKeys text = (table.insertMany permuted).replaceKeys text ∧
      (table.insertMany entries).size = (table.insertMany permuted).size := by
  -- Spell both tables out: what was there with its new messages, and then what is new.
  have stillDifferent := (perm.map Entry.key).nodup independent.different
  have first := table.toList_insertMany independent.different
  have second := table.toList_insertMany stillDifferent
  simp only [← lastMessage?_perm independent.different perm] at second
  -- The keys that were in the table come first, and after them only the new ones change places.
  have added := perm.filter (·.key ∉ table.keys)
  constructor
  · show replaceEach (table.insertMany entries).toList text =
      replaceEach (table.insertMany permuted).toList text
    rw [first, second, replaceEach_append, replaceEach_append]
    exact independent.replaceEach_perm (List.filter_subset_self entries) added _
  · rw [Table.size_eq_length_toList, Table.size_eq_length_toList, first, second,
      List.length_append, List.length_append, added.length_eq]

namespace Store

/-- Sets the messages of several keys in a domain, one after another. -/
def insertEach (store : Store) (domain : String) (entries : List Entry) : Store :=
  entries.foldl (fun store entry => store.insert domain entry.key entry.message) store

/-- What is inserted into a domain goes into its table. -/
theorem getD_table?_insertEach (store : Store) (domain : String) (entries : List Entry) :
    ((store.insertEach domain entries).table? domain).getD .empty =
      ((store.table? domain).getD .empty).insertMany entries := by
  -- Each insertion changes the table that the ones before it have left.
  induction entries generalizing store with
  | nil => rfl
  | cons entry rest ih =>
    have next := ih (store.insert domain entry.key entry.message)
    rw [insert, table?_changeTable, if_pos rfl] at next
    exact next

/--
Entries that do not touch each other can be inserted in any order.

No key or message may be empty, no two keys may have a character in common, and no message one of
another entry's key. Whatever the store holds before, also in the domain itself, any text is then
given the same replacements, with the same count, over either store.
-/
theorem substitute_insertEach_perm {entries permuted : List Entry}
    (independent : Independent entries) (perm : entries.Perm permuted) (store : Store)
    (domain input : String) :
    ∃ substitution,
      (store.insertEach domain entries).substitute domain input = .ok substitution ∧
      (store.insertEach domain permuted).substitute domain input = .ok substitution := by
  -- Both substitutions are told by the table that the entries were inserted into.
  have first := (store.insertEach domain entries).substitute_eq_getD domain input
  have second := (store.insertEach domain permuted).substitute_eq_getD domain input
  simp only [getD_table?_insertEach] at first second
  obtain ⟨text, size⟩ :=
    independent.replaceKeys_insertMany_perm perm ((store.table? domain).getD .empty) input
  rw [← text, ← size] at second
  exact ⟨_, first, second⟩

/-- Messages may have characters of their own keys, and keys may have been known before. -/
theorem substitute_insertEach_reverse :
    let store := (Store.empty.insert mainDomain "X" "aab").insert mainDomain "b" "?"
    let entries : List Entry := [⟨"aa", "a"⟩, ⟨"b", "bb"⟩, ⟨"c", "d"⟩]
    Independent entries ∧ entries.Perm entries.reverse ∧
      (store.insertEach mainDomain entries).substitute mainDomain "Xaaac" =
        .ok ⟨"abbaad", 4⟩ ∧
      (store.insertEach mainDomain entries.reverse).substitute mainDomain "Xaaac" =
        .ok ⟨"abbaad", 4⟩ := by
  -- One order is evaluated, and the reversed one has the same result.
  intro store entries
  have independent : Independent entries :=
    ⟨by decide +kernel, by decide +kernel, by decide +kernel, by decide +kernel⟩
  have perm : entries.Perm entries.reverse := (List.reverse_perm entries).symm
  have result : (store.insertEach mainDomain entries).substitute mainDomain "Xaaac" =
      .ok ⟨"abbaad", 4⟩ := by decide +kernel
  obtain ⟨substitution, first, second⟩ :=
    substitute_insertEach_perm independent perm store mainDomain "Xaaac"
  cases result.symm.trans first
  exact ⟨independent, perm, result, second⟩

end Store

end Phrasebook
