import Phrasebook.Proofs.Substitution
import Phrasebook.Proofs.Text.Interplay

/-! Substitutions that leave no key behind, so that to substitute again changes nothing. -/

namespace Phrasebook

/-- Entries of which no message can bring back a key, be it another one or its own. -/
structure Settling (entries : List Entry) : Prop where
  filled : ∀ entry ∈ entries, entry.key ≠ "" ∧ entry.message ≠ ""
  apart : ∀ first ∈ entries, ∀ second ∈ entries, SharesNoChar first.message second.key

/-- Some of the entries do not bring back each other's keys either. -/
theorem Settling.of_subset {entries part : List Entry} (settling : Settling entries)
    (inside : part ⊆ entries) : Settling part where
  filled entry member := settling.filled entry (inside member)
  apart first member second other := settling.apart first (inside member) second (inside other)

/-- The last of some entries is replaced in what the others left. -/
theorem replaceEach_concat (entries : List Entry) (last : Entry) (text : String) :
    replaceEach (entries ++ [last]) text =
      replaceAll last.key last.message (replaceEach entries text) :=
  replaceEach_append entries [last] text

/-- Once all keys are replaced, none of them occurs. -/
theorem not_occurs_replaceEach {entries : List Entry} (settling : Settling entries)
    (text : String) : ∀ entry ∈ entries, ¬ Occurs entry.key (replaceEach entries text) := by
  -- The induction adds one entry at the end, whose message must not bring back an earlier key.
  induction entries using List.reverseRecOn with
  | nil => simp
  | append_singleton entries last ih =>
    have before := ih (settling.of_subset (List.subset_append_left entries [last]))
    obtain ⟨keyFilled, filled⟩ := settling.filled last (by simp)
    intro entry member
    have apart := settling.apart last (by simp) entry member
    rw [replaceEach_concat]
    -- An earlier key was gone before, and the last one is replaced now.
    rcases List.mem_append.mp member with earlier | same
    · intro occurs
      exact before entry earlier (occurs_of_occurs_replaceAll keyFilled filled apart occurs)
    · cases List.mem_singleton.mp same
      exact not_occurs_replaceAll keyFilled filled apart _

/-- Keys that do not occur in a text leave it as it is. -/
theorem replaceEach_of_not_occurs {entries : List Entry} {text : String}
    (filled : ∀ entry ∈ entries, entry.key ≠ "")
    (absent : ∀ entry ∈ entries, ¬ Occurs entry.key text) : replaceEach entries text = text := by
  -- Each step finds the text as it was at the start.
  induction entries with
  | nil => rfl
  | cons entry rest ih =>
    have kept := replaceAll_of_not_occurs (filled entry (by simp)) entry.message
      (absent entry (by simp))
    rw [replaceEach_cons, kept]
    exact ih (fun other among => filled other (by simp [among]))
      fun other among => absent other (by simp [among])

namespace Store

/-- A domain that is not known has the keys of the table without entries. -/
theorem keys_eq_getD (store : Store) (domain : String) :
    store.keys domain = ((store.table? domain).getD .empty).keys := by
  -- The table without entries has no keys.
  cases known : store.table? domain with
  | some table => simp [keys, known]
  | none => simp [keys, known, Table.keys, Table.toList, Table.empty]

/--
Substitution leaves no key behind, and is over once it was done.

This needs that no key and no message is empty and that no message has a character of a key. Keys
may overlap or contain each other. Another substitution then finds nothing to replace, and goes
through as many keys as the first.
-/
theorem substitute_leaves_no_key (store : Store) (domain : String)
    (settling : Settling ((store.table? domain).getD .empty).toList) (input : String) :
    ∃ substitution, store.substitute domain input = .ok substitution ∧
      (∀ key ∈ store.keys domain, ¬ Occurs key substitution.text) ∧
      store.substitute domain substitution.text = .ok substitution := by
  -- Both substitutions go through one table, and the second finds what the first has left.
  have done := store.substitute_eq_getD domain
  have keys := store.keys_eq_getD domain
  generalize (store.table? domain).getD .empty = table at settling done keys
  have gone := not_occurs_replaceEach settling input
  refine ⟨_, done input, ?_, ?_⟩
  · intro key member
    rw [keys] at member
    obtain ⟨entry, stored, rfl⟩ := List.mem_map.mp member
    exact gone entry stored
  · -- None of the keys occurs in that, so the second changes nothing.
    have same : table.replaceKeys (table.replaceKeys input) = table.replaceKeys input :=
      replaceEach_of_not_occurs (fun entry member => (settling.filled entry member).1) gone
    rw [done, same]

/-- Keys of which one is part of another are all gone, whichever of them comes first. -/
theorem substitute_nested_keys :
    let store := ((Store.empty.insert mainDomain "aba" "x").insert mainDomain "ab" "y").insert
      mainDomain "b" "z"
    Settling ((store.table? mainDomain).getD .empty).toList ∧
      store.substitute mainDomain "abababb" = .ok ⟨"xzyz", 3⟩ ∧
      (∀ key ∈ ["aba", "ab", "b"], ¬ Occurs key "xzyz") ∧
      store.substitute mainDomain "xzyz" = .ok ⟨"xzyz", 3⟩ := by
  -- The first substitution is evaluated, and tells what the second does.
  intro store
  have settling : Settling ((store.table? mainDomain).getD .empty).toList :=
    ⟨by decide +kernel, by decide +kernel⟩
  have keys : store.keys mainDomain = ["aba", "ab", "b"] := by decide +kernel
  have result : store.substitute mainDomain "abababb" = .ok ⟨"xzyz", 3⟩ := by decide +kernel
  obtain ⟨substitution, done, gone, again⟩ :=
    substitute_leaves_no_key store mainDomain settling "abababb"
  cases result.symm.trans done
  rw [keys] at gone
  exact ⟨settling, result, gone, again⟩

end Store

end Phrasebook
