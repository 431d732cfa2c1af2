import Mathlib.Order.Bounds.Basic
import Phrasebook.Store

/-! Strict loads: which record they refuse, and that they are like any other load if none is. -/

namespace Phrasebook

/-- The record at a position has a key that is known already, or that an earlier record has. -/
def RepeatsAt (known : List String) (records : List Record) (position : Nat) : Prop :=
  ∃ record ∈ records[position]?,
    record.key ∈ known ∨
      -- Earlier records count even if their own keys were repeated.
      ∃ earlier < position, (records[earlier]?).map Record.key = some record.key

instance (known : List String) (records : List Record) (position : Nat) :
    Decidable (RepeatsAt known records position) :=
  inferInstanceAs (Decidable (∃ record ∈ records[position]?, _ ∨ ∃ earlier < position, _))

/-- The first record repeats a key only if that is known. -/
theorem repeatsAt_zero (known : List String) (record : Record) (rest : List Record) :
    RepeatsAt known (record :: rest) 0 ↔ record.key ∈ known := by
  -- No record is earlier.
  simp [RepeatsAt]

/-- To the later records the key of the first is one more that is known. -/
theorem repeatsAt_succ (known : List String) (record : Record) (rest : List Record)
    (position : Nat) :
    RepeatsAt known (record :: rest) (position + 1) ↔
      RepeatsAt (record.key :: known) rest position := by
  -- The earlier records are the first one and those between.
  have earlier : ∀ key,
      (∃ earlier < position + 1, ((record :: rest)[earlier]?).map Record.key = some key) ↔
        key = record.key ∨ ∃ earlier < position, (rest[earlier]?).map Record.key = some key := by
    intro key
    rw [Nat.exists_lt_succ_left]
    simp [eq_comm]
  simp only [RepeatsAt, List.getElem?_cons_succ, earlier, List.mem_cons]
  refine exists_congr fun later => and_congr_right fun _ => ?_
  rw [or_left_comm, or_assoc]

namespace Store

/-- The record that is found is the first of those that repeat a key, if there are any. -/
theorem firstRepeated?_cases {known : List String} {seen : Std.TreeSet String}
    (same : ∀ key, seen.contains key = true ↔ key ∈ known) (records : List Record) :
    (firstRepeated? seen records = none ∧ ∀ position, ¬ RepeatsAt known records position) ∨
      ∃ record position, firstRepeated? seen records = some record ∧
        records[position]? = some record ∧
        IsLeast {place | RepeatsAt known records place} position := by
  -- Each record that is passed over adds its key to those that the rest is compared with.
  induction records generalizing known seen with
  | nil => simp [firstRepeated?, RepeatsAt]
  | cons record rest ih =>
    rw [firstRepeated?]
    by_cases repeated : record.key ∈ known
    · -- The first record repeats a key, and no position is before it.
      right
      refine ⟨record, 0, by rw [if_pos ((same _).mpr repeated)], rfl, ?_, ?_⟩
      · exact (repeatsAt_zero _ _ _).mpr repeated
      · exact fun _ _ => Nat.zero_le _
    · rw [if_neg (mt (same _).mp repeated)]
      -- The rest is compared with the keys that are known and with this one.
      have onward : ∀ key,
          (seen.insert record.key).contains key = true ↔ key ∈ record.key :: known := by
        intro key
        rw [Std.TreeSet.contains_insert, Bool.or_eq_true, same, beq_iff_eq,
          Std.LawfulEqCmp.compare_eq_iff_eq, List.mem_cons, eq_comm]
      rcases ih onward with ⟨missing, nowhere⟩ | ⟨later, position, found, stored, repeats, least⟩
      · refine Or.inl ⟨missing, fun position => ?_⟩
        cases position with
        | zero => rwa [repeatsAt_zero]
        | succ position =>
          rw [repeatsAt_succ]
          exact nowhere position
      · -- What was found in the rest is one position further on.
        refine Or.inr ⟨later, position + 1, found, by simpa using stored, ?_, ?_⟩
        · exact (repeatsAt_succ _ _ _ _).mpr repeats
        · intro place repeatsThere
          cases place with
          | zero => exact absurd ((repeatsAt_zero _ _ _).mp repeatsThere) repeated
          | succ place =>
            exact Nat.succ_le_succ (least ((repeatsAt_succ _ _ _ _).mp repeatsThere))

/--
A strict load refuses the first record whose key the domain has or an earlier record has.

It then leaves the store as it was. Without such a record it is the load that is not strict, which
always commits all records.
-/
theorem load_strict_first_repeated (store : Store) (map : LanguageMap) (source domain : String) :
    let repeated := {position | RepeatsAt (store.keys domain) map.records position}
    (repeated.Nonempty → ∃ position record, IsLeast repeated position ∧
      map.records[position]? = some record ∧
      store.load map source domain ⟨true⟩ =
        (.error (.duplicateKey record.key record.line), store)) ∧
    (¬ repeated.Nonempty →
      store.load map source domain ⟨true⟩ = store.load map source domain ⟨false⟩) ∧
    store.load map source domain ⟨false⟩ =
      (.ok ⟨source, domain, map.records.length, map.diagnostics⟩,
        store.changeTable domain (·.insertMany map.entries)) := by
  -- The search starts from the keys that the domain has.
  intro repeated
  have same : ∀ key, (Std.TreeSet.ofList (store.keys domain)).contains key = true ↔
      key ∈ store.keys domain := by simp
  refine ⟨?_, ?_, rfl⟩
  · -- A repeated position makes the search stop, and it stops at the first one.
    intro present
    rcases firstRepeated?_cases same map.records with
      ⟨_, nowhere⟩ | ⟨record, position, found, stored, least⟩
    · obtain ⟨position, repeats⟩ := present
      exact absurd repeats (nowhere position)
    · refine ⟨position, record, least, stored, ?_⟩
      simp [load, refusedRecord?, found]
  · -- Where no position repeats a key, no record is refused, as in a load that is not strict.
    intro absent
    rcases firstRepeated?_cases same map.records with
      ⟨missing, _⟩ | ⟨_, position, _, _, least⟩
    · simp [load, refusedRecord?, missing]
    · exact absurd ⟨position, least.1⟩ absent

/-- A blank key that comes again is refused before a key that the domain has, or else loaded. -/
theorem load_strict_blank_key :
    let store := Store.empty.insert mainDomain "Hi" "Greetings"
    let records : List Record := [⟨"", "x", 5⟩, ⟨"a\nb", "y", 11⟩]
    let more : List Record := [⟨"", "z", 15⟩, ⟨"Hi", "w", 20⟩]
    let repeated := fun records => {position | RepeatsAt (store.keys mainDomain) records position}
    ((repeated (records ++ more)).Nonempty ∧
      store.load ⟨records ++ more, []⟩ "inline" mainDomain ⟨true⟩ =
        (.error (.duplicateKey "" 15), store)) ∧
    (¬ (repeated records).Nonempty ∧
      (store.load ⟨records, []⟩ "inline" mainDomain ⟨true⟩).1 =
        .ok ⟨"inline", mainDomain, 2, []⟩) := by
  -- The third record has the blank key of the first, and no record before it is refused.
  intro store records more repeated
  have third : RepeatsAt (store.keys mainDomain) (records ++ more) 2 := by decide +kernel
  have before : ∀ place < 2, ¬ RepeatsAt (store.keys mainDomain) (records ++ more) place := by
    decide +kernel
  have different : ¬ (repeated records).Nonempty := by
    -- Only the two positions of the records come into question.
    intro present
    obtain ⟨place, record, stored, known⟩ := present
    have within : place < 2 := (List.getElem?_eq_some_iff.mp stored).1
    have fresh : ∀ place < 2, ¬ RepeatsAt (store.keys mainDomain) records place := by
      decide +kernel
    exact fresh place within ⟨record, stored, known⟩
  refine ⟨⟨⟨2, third⟩, ?_⟩, different, ?_⟩
  · obtain ⟨position, record, ⟨repeats, least⟩, stored, refused⟩ :=
      (load_strict_first_repeated store ⟨records ++ more, []⟩ "inline" mainDomain).1 ⟨2, third⟩
    -- The least repeated position can be neither before that record nor after it.
    have notBefore : ¬ position < 2 := fun earlier => before position earlier repeats
    have here : position = 2 := by
      have := least third
      omega
    subst here
    cases stored
    exact refused
  · rw [(load_strict_first_repeated store ⟨records, []⟩ "inline" mainDomain).2.1 different,
      (load_strict_first_repeated store ⟨records, []⟩ "inline" mainDomain).2.2]
    rfl

end Store

end Phrasebook
