import Phrasebook.Proofs.LanguageMap.Reading

/-!
Reading records by the positions of the delimiters alone, which is what reading line by line does.
-/

namespace Phrasebook

/-- The numbers of the lines that a test on line and number picks, the first having number one. -/
def numbersWhere (lines : List String) (picks : String → Nat → Bool) : List Nat :=
  ((lines.zipIdx 1).filter fun (line, number) => picks line number).map Prod.snd

/-- The numbers of the lines that are delimiters. -/
def delimiterNumbers (lines : List String) : List Nat :=
  numbersWhere lines fun line _ => line == delimiter

/-- The number of the delimiter line with so many delimiter lines before it. -/
def delimiterNumber (lines : List String) (before : Nat) : Nat :=
  (delimiterNumbers lines).getD before 0

/-- The text of the lines strictly between two line numbers. -/
def textBetween (lines : List String) (first second : Nat) : String :=
  textOfLines ((lines.take (second - 1)).drop first)

/-- The record that the delimiters after so many whole records frame. -/
def framedRecord (lines : List String) (before : Nat) : Record where
  -- Three delimiters belong to each record, of which the last one closes it.
  key := textBetween lines (delimiterNumber lines (3 * before))
    (delimiterNumber lines (3 * before + 1))
  message := textBetween lines (delimiterNumber lines (3 * before + 1))
    (delimiterNumber lines (3 * before + 2))
  line := delimiterNumber lines (3 * before + 2)

/-- One record for each three delimiters. -/
def framedRecords (lines : List String) : List Record :=
  (List.range ((delimiterNumbers lines).length / 3)).map (framedRecord lines)

/-- Whether a line belongs to no record and yet is neither blank, a delimiter nor a comment. -/
def isStray (lines : List String) (line : String) (number : Nat) : Bool :=
  line != "" && line != delimiter && line.toList.head? != some commentMarker &&
    (lines.take (number - 1)).count delimiter % 3 == 0

/-- The numbers of the stray lines. -/
def strayNumbers (lines : List String) : List Nat :=
  numbersWhere lines (isStray lines)

/-- The language map that the positions of the delimiters make of some lines. -/
def positionalMap (lines : List String) : LanguageMap where
  records := framedRecords lines
  diagnostics :=
    (strayNumbers lines).map .syntaxError ++
      -- A delimiter that is left over after whole records opens one that is never closed.
      if (delimiterNumbers lines).length % 3 = 0 then []
      else [.unclosedRecord (delimiterNumber lines (3 * ((delimiterNumbers lines).length / 3)))]

/-- A picked number is that of a line which passes the test. -/
theorem mem_numbersWhere {lines : List String} {picks : String → Nat → Bool} {number : Nat} :
    number ∈ numbersWhere lines picks ↔
      ∃ line, 1 ≤ number ∧ lines[number - 1]? = some line ∧ picks line number := by
  -- A line and its number stand together in the numbered list.
  simp only [numbersWhere, List.mem_map, List.mem_filter]
  constructor
  · intro picked
    obtain ⟨⟨line, _⟩, ⟨inside, passes⟩, rfl⟩ := picked
    obtain ⟨positive, found⟩ := List.mk_mem_zipIdx_iff_le_and_getElem?_sub.mp inside
    exact ⟨line, positive, found, passes⟩
  · intro passing
    obtain ⟨line, positive, found, passes⟩ := passing
    have inside := List.mk_mem_zipIdx_iff_le_and_getElem?_sub.mpr ⟨positive, found⟩
    exact ⟨(line, number), ⟨inside, passes⟩, rfl⟩

/-- Picked numbers come in increasing order. -/
theorem numbersWhere_increasing (lines : List String) (picks : String → Nat → Bool) :
    (numbersWhere lines picks).Pairwise (· < ·) := by
  -- They are some of the numbers that follow one another from one on.
  have numbered : ((lines.zipIdx 1).map Prod.snd).Pairwise (· < ·) := by
    rw [List.zipIdx_map_snd]
    exact List.pairwise_lt_range'
  exact numbered.sublist (List.filter_sublist.map Prod.snd)

/-- One more line is picked or not, and the others stay what they were. -/
theorem numbersWhere_concat (lines : List String) (picks : String → Nat → Bool) (line : String) :
    numbersWhere (lines ++ [line]) picks =
      numbersWhere lines picks ++
        if picks line (lines.length + 1) then [lines.length + 1] else [] := by
  -- The new line has the number that follows the count of the others.
  simp only [numbersWhere, List.zipIdx_append, List.filter_append, List.map_append,
    List.zipIdx_cons, List.zipIdx_nil, List.filter_cons, List.filter_nil]
  rw [Nat.add_comm 1 lines.length]
  split <;> rfl

/-- Tests that agree on the lines pick the same numbers. -/
theorem numbersWhere_congr {lines : List String} {first second : String → Nat → Bool}
    (agree : ∀ line number, number ≤ lines.length → first line number = second line number) :
    numbersWhere lines first = numbersWhere lines second := by
  -- No line has a number beyond the count of the lines.
  unfold numbersWhere
  congr 1
  apply List.filter_congr
  intro numbered inside
  obtain ⟨line, number⟩ := numbered
  have within : number < 1 + lines.length := List.snd_lt_add_of_mem_zipIdx inside
  exact agree line number (by omega)

/-- One more line is a delimiter or not. -/
theorem delimiterNumbers_concat (lines : List String) (line : String) :
    delimiterNumbers (lines ++ [line]) =
      delimiterNumbers lines ++ if line = delimiter then [lines.length + 1] else [] := by
  -- The test does not look at the number.
  simp [delimiterNumbers, numbersWhere_concat]

/-- There are as many delimiter numbers as delimiters. -/
theorem length_delimiterNumbers (lines : List String) :
    (delimiterNumbers lines).length = lines.count delimiter := by
  -- Each further line counts on both sides or on neither.
  induction lines using List.reverseRecOn with
  | nil => rfl
  | append_singleton lines line ih =>
    rw [delimiterNumbers_concat, List.length_append, ih, List.count_append]
    by_cases same : line = delimiter <;> simp [same]

/-- No delimiter stands beyond the last line. -/
theorem delimiterNumber_le (lines : List String) (before : Nat) :
    delimiterNumber lines before ≤ lines.length := by
  -- A number that is missing counts as zero.
  rw [delimiterNumber, List.getD_eq_getElem?_getD]
  cases found : (delimiterNumbers lines)[before]? with
  | none => simp
  | some number =>
    -- A number that is there is that of a line.
    obtain ⟨line, positive, inside, _⟩ := mem_numbersWhere.mp (List.mem_of_getElem? found)
    have := (List.getElem?_eq_some_iff.mp inside).1
    simp only [Option.getD_some]
    omega

/-- One more line does not move the delimiters before it. -/
theorem delimiterNumber_concat (lines : List String) (line : String) (before : Nat)
    (within : before < (delimiterNumbers lines).length) :
    delimiterNumber (lines ++ [line]) before = delimiterNumber lines before := by
  -- The number is looked up in the part of the list that was there already.
  simp [delimiterNumber, delimiterNumbers_concat, List.getElem?_append_left within]

/-- A delimiter that comes last has the number of the last line. -/
theorem delimiterNumber_concat_delimiter (lines : List String) :
    delimiterNumber (lines ++ [delimiter]) (delimiterNumbers lines).length = lines.length + 1 := by
  -- It is the first entry after those that were there already.
  simp [delimiterNumber, delimiterNumbers_concat]

/-- Text that ends before a new last line does not depend on it. -/
theorem textBetween_concat (lines : List String) (line : String) (first : Nat) {second : Nat}
    (within : second ≤ lines.length + 1) :
    textBetween (lines ++ [line]) first second = textBetween lines first second := by
  -- The lines before the second number are all old.
  rw [textBetween, textBetween, List.take_append_of_le_length (by omega)]

/-- A new last line is joined to the text of the open lines before it. -/
theorem textBetween_concat_open (lines : List String) (line : String) {first : Nat}
    (within : first ≤ lines.length) :
    textBetween (lines ++ [line]) first (lines.length + 2) =
      joinLine (textBetween lines first (lines.length + 1)) line := by
  -- Every line from the first number on is taken on both sides.
  simp only [textBetween, Nat.add_sub_cancel, List.take_length]
  rw [List.take_of_length_le (by simp), List.drop_append_of_le_length within,
    textOfLines_concat]

/-- After the last line there is no text yet. -/
theorem textBetween_end (lines : List String) (second : Nat) :
    textBetween lines lines.length second = "" := by
  -- All lines are dropped.
  rw [textBetween, List.drop_eq_nil_of_le (List.length_take_le' _ _), textOfLines_nil]

/-- One more line is stray or not, and the others stay what they were. -/
theorem strayNumbers_concat (lines : List String) (line : String) :
    strayNumbers (lines ++ [line]) =
      strayNumbers lines ++
        if line ≠ delimiter ∧ isIgnorable line = false ∧ (delimiterNumbers lines).length % 3 = 0
        then [lines.length + 1] else [] := by
  -- What comes after a line does not make it stray.
  have old : numbersWhere lines (isStray (lines ++ [line])) = strayNumbers lines := by
    apply numbersWhere_congr
    intro earlier number within
    rw [isStray, isStray, List.take_append_of_le_length (by omega)]
  -- The new line is told by itself and by the delimiters before it.
  have last : isStray (lines ++ [line]) line (lines.length + 1) =
      decide (line ≠ delimiter ∧ isIgnorable line = false ∧
        (delimiterNumbers lines).length % 3 = 0) := by
    simp only [isStray, Nat.add_sub_cancel, List.take_left, length_delimiterNumbers, isIgnorable]
    by_cases blank : line = ""
    · simp [blank]
    · have := String.isEmpty_eq_false_iff.mpr blank
      grind
  rw [strayNumbers, numbersWhere_concat, old, last]
  simp only [decide_eq_true_eq]

/-- A line has a number that is at most the count of the lines. -/
theorem le_of_mem_strayNumbers {lines : List String} {number : Nat}
    (member : number ∈ strayNumbers lines) : number ≤ lines.length := by
  -- The line of that number is among the lines.
  obtain ⟨_, _, inside, _⟩ := mem_numbersWhere.mp member
  have := (List.getElem?_eq_some_iff.mp inside).1
  omega

/-- The last line is stray if no record is open before it and it says something. -/
theorem last_mem_strayNumbers_concat {lines : List String} {line : String} :
    lines.length + 1 ∈ strayNumbers (lines ++ [line]) ↔
      line ≠ delimiter ∧ isIgnorable line = false ∧ (delimiterNumbers lines).length % 3 = 0 := by
  -- The number is too high for any line before the last.
  have fresh : lines.length + 1 ∉ strayNumbers lines := by
    intro member
    have := le_of_mem_strayNumbers member
    omega
  rw [strayNumbers_concat, List.mem_append, or_iff_right fresh]
  split <;> simp [*]

/-- Another line is stray whatever comes last. -/
theorem mem_strayNumbers_concat_of_le {lines : List String} {line : String} {number : Nat}
    (within : number ≤ lines.length) :
    number ∈ strayNumbers (lines ++ [line]) ↔ number ∈ strayNumbers lines := by
  -- The number is too low for the last line.
  have other : number ≠ lines.length + 1 := by omega
  rw [strayNumbers_concat, List.mem_append, or_iff_left]
  split <;> simp [other]

/-- A line that ends no record leaves the records as they were. -/
theorem framedRecord_concat (lines : List String) (line : String) {before : Nat}
    (within : before < (delimiterNumbers lines).length / 3) :
    framedRecord (lines ++ [line]) before = framedRecord lines before := by
  -- The three delimiters of the record are old, and so are the lines between them.
  have first := delimiterNumber_concat lines line (3 * before) (by omega)
  have second := delimiterNumber_concat lines line (3 * before + 1) (by omega)
  have third := delimiterNumber_concat lines line (3 * before + 2) (by omega)
  have inside := delimiterNumber_le lines
  simp only [framedRecord, first, second, third,
    textBetween_concat lines line _ (Nat.le_succ_of_le (inside _))]

/-- Only a delimiter that comes third makes the delimiters of a record whole. -/
theorem length_delimiterNumbers_concat_div_three {lines : List String} {line : String}
    (third : ¬ (line = delimiter ∧ (delimiterNumbers lines).length % 3 = 2)) :
    (delimiterNumbers (lines ++ [line])).length / 3 = (delimiterNumbers lines).length / 3 := by
  -- A first or second delimiter of three does not make the quotient larger.
  by_cases same : line = delimiter
  · have : (delimiterNumbers lines).length % 3 ≠ 2 := fun last => third ⟨same, last⟩
    simp only [delimiterNumbers_concat, same, if_true, List.length_append, List.length_singleton]
    omega
  · simp [delimiterNumbers_concat, same]

/-- A record is added exactly by a delimiter that comes third. -/
theorem framedRecords_concat (lines : List String) (line : String) :
    framedRecords (lines ++ [line]) =
      framedRecords lines ++
        if line = delimiter ∧ (delimiterNumbers lines).length % 3 = 2
        then [framedRecord (lines ++ [line]) ((delimiterNumbers lines).length / 3)] else [] := by
  -- The number of whole records goes up with the third delimiter only.
  have old : (List.range ((delimiterNumbers lines).length / 3)).map
        (framedRecord (lines ++ [line])) = framedRecords lines := by
    apply List.map_congr_left
    intro before inside
    exact framedRecord_concat lines line (List.mem_range.mp inside)
  -- Whether there is one record more is told by the line and the remainder alone.
  by_cases third : line = delimiter ∧ (delimiterNumbers lines).length % 3 = 2
  · obtain ⟨same, last⟩ := third
    -- The third delimiter completes the quotient.
    have count : (delimiterNumbers (lines ++ [line])).length / 3 =
        (delimiterNumbers lines).length / 3 + 1 := by
      simp only [delimiterNumbers_concat, same, if_true, List.length_append, List.length_singleton]
      omega
    rw [if_pos ⟨same, last⟩, framedRecords, count, List.range_succ, List.map_append, old,
      List.map_singleton]
  · rw [if_neg third, framedRecords, length_delimiterNumbers_concat_div_three third, old,
      List.append_nil]

/-- Where a reader has to stand after some lines, going by the delimiters among them. -/
def positionAfter (lines : List String) : ReaderPosition :=
  let whole := 3 * ((delimiterNumbers lines).length / 3)
  let opened := delimiterNumber lines whole
  let parted := delimiterNumber lines (whole + 1)
  let next := lines.length + 1
  -- How many delimiters go beyond the whole records tells what is open.
  match (delimiterNumbers lines).length % 3 with
  | 0 => .outside
  | 1 => .inKey opened (textBetween lines opened next)
  | _ => .inMessage opened (textBetween lines opened parted) (textBetween lines parted next)

/-- What the next line settles, going by the delimiters among the lines before it. -/
def settledNext (lines : List String) (line : String) : List Finding :=
  if line = delimiter then
    -- Only the third delimiter of a record settles anything.
    if (delimiterNumbers lines).length % 3 = 2 then
      [.record (framedRecord (lines ++ [line]) ((delimiterNumbers lines).length / 3))]
    else []
  else if isIgnorable line = false ∧ (delimiterNumbers lines).length % 3 = 0 then
    [.diagnostic (.syntaxError (lines.length + 1))]
  else []

/-- Delimiters come in threes, of which none, one or two are left over. -/
theorem mod_three_cases (count : Nat) : count % 3 = 0 ∨ count % 3 = 1 ∨ count % 3 = 2 := by
  omega

/-- A delimiter takes the reader from one part of a record to the next. -/
theorem positionAfter_read_delimiter (lines : List String) :
    (positionAfter lines).read (lines.length + 1) delimiter =
      (positionAfter (lines ++ [delimiter]), settledNext lines delimiter) := by
  -- The new delimiter has the number of the next line, and the older ones keep theirs.
  have numbers : (delimiterNumbers (lines ++ [delimiter])).length =
      (delimiterNumbers lines).length + 1 := by simp [delimiterNumbers_concat]
  have newest := delimiterNumber_concat_delimiter lines
  have older := delimiterNumber_concat lines delimiter
  have inside := delimiterNumber_le lines
  have length : (lines ++ [delimiter]).length = lines.length + 1 := by simp
  have fresh : textBetween (lines ++ [delimiter]) (lines.length + 1) (lines.length + 2) = "" := by
    rw [← length, textBetween_end]
  -- The remainder goes up by one, or back to zero with a record.
  rcases mod_three_cases (delimiterNumbers lines).length with outside | inKey | inMessage
  · have whole : 3 * (((delimiterNumbers lines).length + 1) / 3) =
        (delimiterNumbers lines).length := by omega
    have part : ((delimiterNumbers lines).length + 1) % 3 = 1 := by omega
    simp only [positionAfter, settledNext, outside, numbers, part, whole, newest, length, fresh]
    rfl
  · have whole : 3 * (((delimiterNumbers lines).length + 1) / 3) =
        3 * ((delimiterNumbers lines).length / 3) := by omega
    have part : ((delimiterNumbers lines).length + 1) % 3 = 2 := by omega
    -- The second delimiter closes the key, and what follows it is empty so far.
    have place : 3 * ((delimiterNumbers lines).length / 3) + 1 =
        (delimiterNumbers lines).length := by omega
    simp only [positionAfter, settledNext, inKey, numbers, part, whole, place, newest, length,
      fresh, older _ (show 3 * ((delimiterNumbers lines).length / 3) < _ by omega),
      textBetween_concat lines delimiter _ (Nat.le_refl _)]
    rfl
  · have part : ((delimiterNumbers lines).length + 1) % 3 = 0 := by omega
    -- The third delimiter closes the message, and the record has its number.
    have place : 3 * ((delimiterNumbers lines).length / 3) + 2 =
        (delimiterNumbers lines).length := by omega
    simp only [positionAfter, settledNext, inMessage, numbers, part, framedRecord, place, newest,
      older _ (show 3 * ((delimiterNumbers lines).length / 3) < _ by omega),
      older _ (show 3 * ((delimiterNumbers lines).length / 3) + 1 < _ by omega),
      textBetween_concat lines delimiter _ (Nat.le_refl _),
      textBetween_concat lines delimiter _ (Nat.le_succ_of_le (inside _))]
    rfl

/-- Any other line stays within the part of the record that the reader is in. -/
theorem positionAfter_read_other (lines : List String) {line : String}
    (other : line ≠ delimiter) :
    (positionAfter lines).read (lines.length + 1) line =
      (positionAfter (lines ++ [line]), settledNext lines line) := by
  -- No delimiter moves, and the open text takes in the line.
  have numbers : (delimiterNumbers (lines ++ [line])).length =
      (delimiterNumbers lines).length := by simp [delimiterNumbers_concat, other]
  have older := delimiterNumber_concat lines line
  have inside := delimiterNumber_le lines
  have length : (lines ++ [line]).length = lines.length + 1 := by simp
  -- Between records the line is stray or not, and elsewhere it joins the text that is open.
  rcases mod_three_cases (delimiterNumbers lines).length with outside | inKey | inMessage
  · simp only [positionAfter, settledNext, outside, numbers, ReaderPosition.read, if_neg other]
    cases isIgnorable line <;> rfl
  · simp only [positionAfter, settledNext, inKey, numbers, length, ReaderPosition.read,
      if_neg other, older _ (show 3 * ((delimiterNumbers lines).length / 3) < _ by omega),
      textBetween_concat_open lines line (inside _)]
    simp
  · simp only [positionAfter, settledNext, inMessage, numbers, length, ReaderPosition.read,
      if_neg other, older _ (show 3 * ((delimiterNumbers lines).length / 3) < _ by omega),
      older _ (show 3 * ((delimiterNumbers lines).length / 3) + 1 < _ by omega),
      textBetween_concat lines line _ (Nat.le_succ_of_le (inside _)),
      textBetween_concat_open lines line (inside _)]
    simp

/-- One more line is read as its position among the delimiters says. -/
theorem positionAfter_read (lines : List String) (line : String) :
    (positionAfter lines).read (lines.length + 1) line =
      (positionAfter (lines ++ [line]), settledNext lines line) := by
  -- A delimiter and any other line are read by different rules.
  by_cases same : line = delimiter
  · rw [same, positionAfter_read_delimiter]
  · exact positionAfter_read_other lines same

/-- The records settled by the next line are those that it adds to the framed ones. -/
theorem records_settledNext (lines : List String) (line : String) :
    framedRecords (lines ++ [line]) =
      framedRecords lines ++ (settledNext lines line).filterMap Finding.record? := by
  -- Both sides gain a record with the third delimiter, and nothing otherwise.
  rw [framedRecords_concat, settledNext]
  by_cases same : line = delimiter
  · by_cases third : (delimiterNumbers lines).length % 3 = 2 <;>
      simp [same, third, Finding.record?]
  · -- Any other line settles a stray line at most.
    simp only [same, false_and, if_false]
    split <;> simp [Finding.record?]

/-- The findings settled by the next line are about the stray line that it is, if it is one. -/
theorem diagnostics_settledNext (lines : List String) (line : String) :
    (strayNumbers (lines ++ [line])).map Diagnostic.syntaxError =
      (strayNumbers lines).map Diagnostic.syntaxError ++
        (settledNext lines line).filterMap Finding.diagnostic? := by
  -- Both sides gain a finding with a stray line, which is never a delimiter.
  rw [strayNumbers_concat, settledNext]
  by_cases same : line = delimiter
  · -- A delimiter settles a record at most.
    simp only [same, ne_eq, not_true, false_and, if_false, if_true]
    split <;> simp [Finding.diagnostic?]
  · simp only [same, ne_eq, not_false_eq_true, true_and, if_false]
    split <;> simp [Finding.diagnostic?]

/-- Reading line by line keeps to the positions of the delimiters, however many lines are read. -/
theorem readAll_positional (lines : List String) :
    (ReaderPosition.outside.readAll 1 lines).1 = positionAfter lines ∧
      LanguageMap.ofFindings (ReaderPosition.outside.readAll 1 lines).2 =
        ⟨framedRecords lines, (strayNumbers lines).map .syntaxError⟩ := by
  -- The induction adds one line at the end, so that the numbers of the others do not change.
  induction lines using List.reverseRecOn with
  | nil => exact ⟨rfl, rfl⟩
  | append_singleton lines line ih =>
    obtain ⟨stands, settled⟩ := ih
    simp only [LanguageMap.ofFindings, LanguageMap.mk.injEq] at settled ⊢
    -- The reader stands where the delimiters say, so it reads the last line as they say.
    rw [ReaderPosition.readAll_concat]
    simp only [stands, Nat.add_comm 1 lines.length, positionAfter_read, List.filterMap_append,
      settled, records_settledNext, diagnostics_settledNext, and_self]

/-- The end of the lines settles whether a record is left open. -/
theorem finish_positionAfter (lines : List String) :
    (positionAfter lines).finish =
      if (delimiterNumbers lines).length % 3 = 0 then []
      else [.diagnostic (.unclosedRecord
        (delimiterNumber lines (3 * ((delimiterNumbers lines).length / 3))))] := by
  -- The reader is inside a record exactly if delimiters are left over.
  rcases mod_three_cases (delimiterNumbers lines).length with part | part | part <;>
    simp [positionAfter, part, ReaderPosition.finish]

/-- Reading line by line makes of any lines what the positions of the delimiters make of them. -/
theorem ofLines_eq_positionalMap (lines : List String) :
    LanguageMap.ofLines lines = positionalMap lines := by
  -- What the lines settle and what their end settles are the two parts of each side.
  obtain ⟨stands, settled⟩ := readAll_positional lines
  simp only [LanguageMap.ofFindings, LanguageMap.mk.injEq] at settled
  simp only [LanguageMap.ofLines, ReaderPosition.findings_eq_readAll, stands,
    finish_positionAfter, LanguageMap.ofFindings, List.filterMap_append, settled, positionalMap]
  split <;> simp [Finding.record?, Finding.diagnostic?]

/-- Before the opening of a record without an end, nothing is open, and nothing comes after it. -/
theorem exists_opening (lines : List String)
    (unclosed : (delimiterNumbers lines).length % 3 ≠ 0) :
    ∃ closed rest, lines = closed ++ rest ∧
      (delimiterNumbers closed).length % 3 = 0 ∧
      framedRecords lines = framedRecords closed ∧
      strayNumbers lines = strayNumbers closed ∧
      delimiterNumber lines (3 * ((delimiterNumbers lines).length / 3)) = closed.length + 1 := by
  -- The record is opened by the last line or stays open until its third delimiter.
  induction lines using List.reverseRecOn with
  | nil => exact absurd rfl unclosed
  | append_singleton lines line ih =>
    by_cases outside : (delimiterNumbers lines).length % 3 = 0
    · -- If nothing was open before the last line, it is the delimiter that opens the record.
      have opens : line = delimiter := by
        by_contra other
        simp [delimiterNumbers_concat, other, outside] at unclosed
      subst opens
      have whole : 3 * (((delimiterNumbers lines).length + 1) / 3) =
          (delimiterNumbers lines).length := by omega
      have numbers : (delimiterNumbers (lines ++ [delimiter])).length =
          (delimiterNumbers lines).length + 1 := by simp [delimiterNumbers_concat]
      refine ⟨lines, [delimiter], rfl, outside, ?_, ?_, ?_⟩
      · simp [framedRecords_concat, outside]
      · simp [strayNumbers_concat]
      · rw [numbers, whole, delimiterNumber_concat_delimiter]
    · -- Otherwise the record was open already, and the last line does not close it.
      obtain ⟨closed, rest, parts, before, records, stray, opened⟩ := ih outside
      have third : ¬ (line = delimiter ∧ (delimiterNumbers lines).length % 3 = 2) := by
        intro ends
        obtain ⟨same, last⟩ := ends
        simp only [delimiterNumbers_concat, same, if_true, List.length_append,
          List.length_singleton] at unclosed
        omega
      refine ⟨closed, rest ++ [line], by rw [parts, List.append_assoc], before, ?_, ?_, ?_⟩
      · rw [framedRecords_concat, if_neg third, List.append_nil, records]
      · simp [strayNumbers_concat, outside, stray]
      · rw [length_delimiterNumbers_concat_div_three third,
          delimiterNumber_concat lines line _ (by omega), opened]

/-- No stray line comes after a delimiter that opens a record without an end. -/
theorem strayNumbers_lt_unclosed (lines : List String)
    (unclosed : (delimiterNumbers lines).length % 3 ≠ 0) :
    ∀ number ∈ strayNumbers lines,
      number < delimiterNumber lines (3 * ((delimiterNumbers lines).length / 3)) := by
  -- All stray lines are among those before the opening.
  obtain ⟨closed, _, _, _, _, stray, opened⟩ := exists_opening lines unclosed
  intro number member
  rw [stray] at member
  have := le_of_mem_strayNumbers member
  omega

/-- The findings come in the order of the lines, and no line has two. -/
theorem diagnostics_increasing (lines : List String) :
    ((LanguageMap.ofLines lines).diagnostics.map Diagnostic.line).Pairwise (· < ·) := by
  -- Stray lines are told of in their order, so the record without an end is what could come too
  -- early.
  have stray : (strayNumbers lines).Pairwise (· < ·) := numbersWhere_increasing _ _
  have lineOf : ((strayNumbers lines).map Diagnostic.syntaxError).map Diagnostic.line =
      strayNumbers lines := by simp [Function.comp_def, Diagnostic.line]
  rw [ofLines_eq_positionalMap, positionalMap, List.map_append, lineOf]
  split
  · simpa using stray
  · -- It is told of last, and all stray lines come before its opening.
    rename_i unclosed
    rw [List.pairwise_append]
    refine ⟨stray, by simp, ?_⟩
    simpa [Diagnostic.line] using strayNumbers_lt_unclosed lines unclosed

/--
Records and findings are where the delimiters and the other lines put them.

The delimiter lines are numbered in order. Each three of them frame the texts of one record, and
the record has the number of the last of the three. A finding is made on exactly those lines that
are stray, in order, and last on the delimiter that opens a record without an end.
-/
theorem ofLines_positional (lines : List String) :
    (delimiterNumbers lines).Pairwise (· < ·) ∧
    (∀ number, number ∈ delimiterNumbers lines ↔
      1 ≤ number ∧ lines[number - 1]? = some delimiter) ∧
    (LanguageMap.ofLines lines).records =
      (List.range ((delimiterNumbers lines).length / 3)).map (fun before =>
        let opened := delimiterNumber lines (3 * before)
        let parted := delimiterNumber lines (3 * before + 1)
        let closed := delimiterNumber lines (3 * before + 2)
        ⟨textBetween lines opened parted, textBetween lines parted closed, closed⟩) ∧
    (strayNumbers lines).Pairwise (· < ·) ∧
    (∀ number, number ∈ strayNumbers lines ↔
      ∃ line, 1 ≤ number ∧ lines[number - 1]? = some line ∧
        line ≠ "" ∧ line ≠ delimiter ∧ line.toList.head? ≠ some commentMarker ∧
        (lines.take (number - 1)).count delimiter % 3 = 0) ∧
    (LanguageMap.ofLines lines).diagnostics =
      (strayNumbers lines).map .syntaxError ++
        if (delimiterNumbers lines).length % 3 = 0 then []
        else [.unclosedRecord
          (delimiterNumber lines (3 * ((delimiterNumbers lines).length / 3)))] := by
  -- What is left to show of the positional map is which lines its numbers are those of.
  rw [ofLines_eq_positionalMap]
  refine ⟨numbersWhere_increasing _ _, ?_, rfl, numbersWhere_increasing _ _, ?_, rfl⟩
  · intro number
    -- The delimiter lines are picked by the line alone.
    rw [delimiterNumbers, mem_numbersWhere]
    simp
  · intro number
    -- The stray lines are picked by the delimiters before them, too.
    rw [strayNumbers, mem_numbersWhere]
    simp only [isStray, Bool.and_eq_true, bne_iff_ne, beq_iff_eq, and_assoc]

end Phrasebook
