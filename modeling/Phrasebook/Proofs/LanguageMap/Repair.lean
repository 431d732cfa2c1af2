import Phrasebook.Proofs.LanguageMap.Positional

/-! Taking the lines that findings are about out of a language map, which leaves all its records. -/

namespace Phrasebook

/-- Whether a finding is about the line with this number. -/
def Diagnostic.concerns (amiss : Diagnostic) (number : Nat) : Bool :=
  match amiss with
  | .syntaxError line => number == line
  -- All lines from the opening on belong to a record without an end.
  | .unclosedRecord line => decide (line ≤ number)

/-- Whether some finding is about the line with this number. -/
def LanguageMap.concerns (map : LanguageMap) (number : Nat) : Bool :=
  map.diagnostics.any (·.concerns number)

/-- The lines without those whose numbers are dropped, the first having number one. -/
def linesWithout (drops : Nat → Bool) (lines : List String) : List String :=
  ((lines.zipIdx 1).filter fun (_, number) => !drops number).map Prod.fst

/-- The number of a line once the lines before it whose numbers are dropped are taken out. -/
def numberWithout (drops : Nat → Bool) (number : Nat) : Nat :=
  number - (List.range' 1 (number - 1)).countP drops

/-- Behind other lines, more lines are dropped by the numbers that they have there. -/
theorem linesWithout_append (drops : Nat → Bool) (first second : List String) :
    linesWithout drops (first ++ second) =
      linesWithout drops first ++
        ((second.zipIdx (1 + first.length)).filter fun (_, number) => !drops number).map
          Prod.fst := by
  -- The numbers of the first lines do not depend on what comes after them.
  simp only [linesWithout, List.zipIdx_append, List.filter_append, List.map_append]

/-- One more line is dropped or not, and the others stay what they were. -/
theorem linesWithout_concat (drops : Nat → Bool) (lines : List String) (line : String) :
    linesWithout drops (lines ++ [line]) =
      linesWithout drops lines ++ if drops (lines.length + 1) then [] else [line] := by
  -- The last line has the number that follows the count of the others.
  rw [linesWithout_append, Nat.add_comm 1 lines.length]
  cases dropped : drops (lines.length + 1) <;> simp [dropped]

/-- The line after some lines comes after those of them that are left. -/
theorem numberWithout_next (drops : Nat → Bool) (lines : List String) :
    1 + (linesWithout drops lines).length = numberWithout drops (lines.length + 1) := by
  -- A line is either left or among those that are counted.
  have parted : (linesWithout drops lines).length +
      (List.range' 1 lines.length).countP drops = lines.length := by
    induction lines using List.reverseRecOn with
    | nil => rfl
    | append_singleton lines line ih =>
      rw [linesWithout_concat, List.length_append, List.length_append, List.length_singleton,
        List.range'_1_concat, List.countP_append, List.countP_singleton, Nat.add_comm 1]
      cases drops (lines.length + 1) <;> simp <;> omega
  rw [numberWithout, Nat.add_sub_cancel]
  omega

/-- Lines that are all dropped can as well be missing. -/
theorem linesWithout_of_all_beyond {drops : Nat → Bool} {first second : List String}
    (beyond : ∀ number, first.length < number → number ≤ (first ++ second).length →
      drops number = true) :
    linesWithout drops (first ++ second) = linesWithout drops first := by
  -- Every line behind the first ones has a number that is dropped.
  have none : ((second.zipIdx (1 + first.length)).filter fun (_, number) => !drops number) =
      [] := by
    rw [List.filter_eq_nil_iff]
    intro (line, number) member
    -- Its number is beyond the count of the first lines, and not beyond that of all.
    have after : 1 + first.length ≤ number := List.le_snd_of_mem_zipIdx member
    have within : number < 1 + first.length + second.length :=
      List.snd_lt_add_of_mem_zipIdx member
    simp [beyond number (by omega) (by rw [List.length_append]; omega)]
  rw [linesWithout_append, none, List.map_nil, List.append_nil]

/-- A stray line moves neither the reader nor the records. -/
theorem positionAfter_concat_stray {lines : List String} {line : String}
    (other : line ≠ delimiter) (outside : (delimiterNumbers lines).length % 3 = 0) :
    positionAfter (lines ++ [line]) = positionAfter lines ∧
      framedRecords (lines ++ [line]) = framedRecords lines := by
  -- Both are told by the delimiters, of which there is none more.
  constructor
  · simp [positionAfter, delimiterNumbers_concat, other, outside]
  · simp [framedRecords_concat, other]

/-- A line that is not stray settles records only. -/
theorem settledNext_of_not_stray {lines : List String} {line : String}
    (proper : ¬ (line ≠ delimiter ∧ isIgnorable line = false ∧
      (delimiterNumbers lines).length % 3 = 0)) :
    settledNext lines line =
      ((settledNext lines line).filterMap Finding.record?).map Finding.record := by
  -- A delimiter settles a record or nothing, and any other line could only be stray.
  unfold settledNext
  split
  · split <;> rfl
  · rename_i other
    rw [if_neg fun stray => proper ⟨other, stray⟩]
    rfl

/-- Without the stray lines a reader comes to stand in the same place, with the same records. -/
theorem readAll_linesWithout {drops : Nat → Bool} (lines : List String)
    (stray : ∀ number, 1 ≤ number → number ≤ lines.length →
      (drops number = true ↔ number ∈ strayNumbers lines)) :
    ReaderPosition.outside.readAll 1 (linesWithout drops lines) =
      ((positionAfter lines).renumber (numberWithout drops),
        (framedRecords lines).map fun record =>
          .record (record.renumber (numberWithout drops))) := by
  -- The last line is either dropped or read from where the lines left before it lead.
  induction lines using List.reverseRecOn with
  | nil => rfl
  | append_singleton lines line ih =>
    have before := ih fun number positive within =>
      (stray number positive (by rw [List.length_append]; omega)).trans
        (mem_strayNumbers_concat_of_le within)
    -- Whether the last line is dropped is whether it is stray.
    have next := (stray (lines.length + 1) (by omega) (by simp)).trans last_mem_strayNumbers_concat
    rw [linesWithout_concat]
    by_cases isStray : line ≠ delimiter ∧ isIgnorable line = false ∧
      (delimiterNumbers lines).length % 3 = 0
    · -- It is dropped, and it would have moved nothing.
      obtain ⟨position, records⟩ := positionAfter_concat_stray isStray.1 isStray.2.2
      rw [if_pos (next.mpr isStray), List.append_nil, before, position, records]
    · -- It is left, and is read as it was but for the numbers.
      have step := ReaderPosition.read_renumber (positionAfter lines) (lines.length + 1) line
        (numberWithout drops)
      rw [positionAfter_read] at step
      rw [if_neg (mt next.mp isStray), ReaderPosition.readAll_concat, before]
      simp only [numberWithout_next, step, records_settledNext, List.map_append]
      rw [settledNext_of_not_stray isStray]
      simp [Function.comp_def, Finding.renumber, Finding.record?]

/-- Without the stray lines of whole records, the records are left and nothing is amiss. -/
theorem ofLines_linesWithout {drops : Nat → Bool} {lines : List String}
    (outside : (delimiterNumbers lines).length % 3 = 0)
    (stray : ∀ number, 1 ≤ number → number ≤ lines.length →
      (drops number = true ↔ number ∈ strayNumbers lines)) :
    LanguageMap.ofLines (linesWithout drops lines) =
      ⟨(framedRecords lines).map (Record.renumber (numberWithout drops)), []⟩ := by
  -- No record is left open, so the end of the lines settles nothing either.
  have settled := readAll_linesWithout lines stray
  have position : positionAfter lines = .outside := by simp [positionAfter, outside]
  simp [LanguageMap.ofLines, ReaderPosition.findings_eq_readAll, settled, position,
    LanguageMap.ofFindings, ReaderPosition.renumber, ReaderPosition.finish, Finding.record?,
    Finding.diagnostic?, List.filterMap_map, Function.comp_def]

/-- Findings are about stray lines up to the end of the last whole record, and all lines beyond. -/
theorem exists_concerned (lines : List String) :
    ∃ closed rest, lines = closed ++ rest ∧ (delimiterNumbers closed).length % 3 = 0 ∧
      (LanguageMap.ofLines lines).records = framedRecords closed ∧
      ∀ number ≤ lines.length, (LanguageMap.ofLines lines).concerns number = true ↔
        number ∈ strayNumbers closed ∨ closed.length < number := by
  -- If a record has no end, its opening divides the lines.
  rw [ofLines_eq_positionalMap]
  by_cases outside : (delimiterNumbers lines).length % 3 = 0
  · -- No record is left open, so there is nothing beyond.
    refine ⟨lines, [], (List.append_nil lines).symm, outside, rfl, ?_⟩
    intro number within
    rw [or_iff_left (by omega)]
    simp [positionalMap, outside, LanguageMap.concerns, Diagnostic.concerns]
  · -- The record without an end concerns its opening and everything behind it.
    obtain ⟨closed, rest, parts, before, records, stray, opened⟩ := exists_opening lines outside
    refine ⟨closed, rest, parts, before, records, ?_⟩
    intro number _
    rw [← Nat.succ_le_iff]
    simp [positionalMap, outside, LanguageMap.concerns, Diagnostic.concerns, opened, stray]

/--
The findings on a language map are about just the lines that have to go.

Without the lines at which a syntax error is found, and without all lines from the opening of a
record without an end on, the same records are read and nothing is amiss any more. The line of a
record goes down by the count of the lines before it that are gone.
-/
theorem ofLines_linesWithout_concerned (lines : List String) :
    let map := LanguageMap.ofLines lines
    LanguageMap.ofLines (linesWithout map.concerns lines) =
      ⟨map.records.map (Record.renumber (numberWithout map.concerns)), []⟩ := by
  -- The lines are divided into those that make whole records and those that all have to go.
  intro map
  obtain ⟨closed, rest, parts, outside, records, concerned⟩ := exists_concerned lines
  have count : lines.length = closed.length + rest.length := by rw [parts, List.length_append]
  -- Of the first part the stray lines are dropped.
  have stays : ∀ number, 1 ≤ number → number ≤ closed.length →
      (map.concerns number = true ↔ number ∈ strayNumbers closed) := by
    intro number _ within
    rw [concerned number (by omega), or_iff_left (by omega)]
  -- Of the second part every line is dropped.
  have goes : ∀ number, closed.length < number → number ≤ (closed ++ rest).length →
      map.concerns number = true := by
    intro number beyond within
    rw [← parts] at within
    exact (concerned number within).mpr (Or.inr beyond)
  rw [parts, linesWithout_of_all_beyond goes, ofLines_linesWithout outside stays, records]

/-- A stray line and a record without an end are taken out, and the record moves up by one. -/
example :
    let lines := ["stray", "'''", "key", "'''", "'''", "'''", "open"]
    let left := linesWithout (LanguageMap.ofLines lines).concerns lines
    left = ["'''", "key", "'''", "'''"] ∧
      LanguageMap.ofLines left = ⟨[⟨"key", "", 4⟩], []⟩ := by decide +kernel

end Phrasebook
