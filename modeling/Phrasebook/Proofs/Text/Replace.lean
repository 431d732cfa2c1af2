import Mathlib.Data.Nat.Find
import Phrasebook.Text.Replace

/-! Replacement by its rule: a text is cut at a key, leftmost first, and joined by a message. -/

namespace Phrasebook

/-- A text cut at a key into the gaps around its occurrences, each the leftmost after the last. -/
inductive CutAt (key : List Char) : List Char → List (List Char) → Prop where
  /-- The key does not occur any more. -/
  | last {gap : List Char} (absent : ¬ key <:+: gap) : CutAt key gap [gap]
  /-- No occurrence starts before the end of the gap, and the cut goes on after this one. -/
  | next {gap rest : List Char} {gaps : List (List Char)}
      (leftmost : ∀ before after, before ++ key ++ after = gap ++ key ++ rest →
        gap.length ≤ before.length)
      (onward : CutAt key rest gaps) : CutAt key (gap ++ key ++ rest) (gap :: gaps)

/--
A text in which every occurrence of a key is replaced by a message.

The occurrences of a key are taken leftmost first and do not overlap. An empty key occurs before
every character and once more at the end.
-/
def Replaces (key message text result : String) : Prop :=
  if key = "" then
    -- An empty key occurs before every character and at the end.
    result.toList = text.toList.flatMap (message.toList ++ [·]) ++ message.toList
  else
    -- Any other key parts the text into the gaps between its occurrences.
    ∃ gaps, CutAt key.toList text.toList gaps ∧ result.toList = message.toList.intercalate gaps

/-- There is a last gap at least. -/
theorem CutAt.ne_nil {key text : List Char} {gaps : List (List Char)}
    (cut : CutAt key text gaps) : gaps ≠ [] := by
  -- The list of the gaps starts with the first of them either way.
  cases cut <;> simp

/-- A key that occurs in a text has a leftmost occurrence. -/
theorem exists_leftmost {key text : List Char} (occurs : key <:+: text) :
    ∃ gap rest, gap ++ key ++ rest = text ∧
      ∀ before after, before ++ key ++ after = text → gap.length ≤ before.length := by
  -- It is the one with the fewest characters before it.
  have present : ∃ size before after, before ++ key ++ after = text ∧ before.length = size := by
    obtain ⟨before, after, same⟩ := occurs
    exact ⟨before.length, before, after, same, rfl⟩
  classical
  obtain ⟨gap, rest, same, size⟩ := Nat.find_spec present
  refine ⟨gap, rest, same, fun before after other => ?_⟩
  rw [size]
  exact Nat.find_min' present ⟨before, after, other, rfl⟩

/-- Every text can be cut at a key that is not empty. -/
theorem exists_cutAt {key : List Char} (filled : key ≠ []) (text : List Char) :
    ∃ gaps, CutAt key text gaps := by
  -- What follows an occurrence is shorter than the text by at least the key.
  induction measured : text.length using Nat.strong_induction_on generalizing text with
  | _ size ih =>
    by_cases occurs : key <:+: text
    · obtain ⟨gap, rest, rfl, leftmost⟩ := exists_leftmost occurs
      have positive := List.length_pos_iff.mpr filled
      have shorter : rest.length < size := by
        rw [← measured, List.length_append, List.length_append]
        omega
      obtain ⟨gaps, onward⟩ := ih rest.length shorter rest rfl
      exact ⟨gap :: gaps, .next leftmost onward⟩
    · -- Without an occurrence the text is one gap.
      exact ⟨[text], .last occurs⟩

/-- Characters among which a key does not stand are left as they are. -/
theorem replaceFrom_of_absent {key text : List Char} (message : List Char)
    (absent : ¬ key <:+: text) : replaceFrom key message 0 text = text := by
  -- The key neither starts the text nor occurs in what follows the first character.
  induction text with
  | nil => rfl
  | cons char rest ih =>
    rw [List.infix_cons_iff, not_or] at absent
    rw [replaceFrom, if_neg (mt List.isPrefixOf_iff_prefix.mp absent.1), ih absent.2]

/-- The leftmost occurrence of a key is replaced, and what follows it is replaced on its own. -/
theorem replaceFrom_leftmost {key gap rest : List Char} (message : List Char) (filled : key ≠ [])
    (leftmost : ∀ before after, before ++ key ++ after = gap ++ key ++ rest →
      gap.length ≤ before.length) :
    replaceFrom key message 0 (gap ++ key ++ rest) =
      gap ++ message ++ replaceFrom key message 0 rest := by
  -- The induction is on the gap, at no character of which the key starts.
  induction gap with
  | nil =>
    obtain ⟨first, more, rfl⟩ := List.exists_cons_of_ne_nil filled
    -- Without a gap the key starts the text, and its characters are skipped.
    have starts : (first :: more).isPrefixOf (first :: (more ++ rest)) = true := by
      simp [List.isPrefixOf_iff_prefix]
    simp only [List.nil_append, List.cons_append]
    rw [replaceFrom, if_pos starts, replaceFrom_drop]
    simp
  | cons char gap ih =>
    -- Before the end of the gap the key starts nowhere, so a character is kept.
    have notHere : ¬ key <+: char :: (gap ++ key ++ rest) := by
      intro starts
      obtain ⟨after, same⟩ := starts
      have := leftmost [] after (by simpa using same)
      simp at this
    -- What is leftmost in the whole is leftmost behind the first character.
    have later : ∀ before after, before ++ key ++ after = gap ++ key ++ rest →
        gap.length ≤ before.length := by
      intro before after same
      have := leftmost (char :: before) after (by simp [← same])
      simpa using this
    simp only [List.cons_append]
    rw [replaceFrom, if_neg (mt List.isPrefixOf_iff_prefix.mp notHere), ih later]

/-- The gaps of a text, joined by the message, are the text with the key replaced. -/
theorem CutAt.replaceFrom_eq {key text : List Char} {gaps : List (List Char)}
    (cut : CutAt key text gaps) (message : List Char) (filled : key ≠ []) :
    replaceFrom key message 0 text = message.intercalate gaps := by
  -- One occurrence is replaced after another, until the key does not occur any more.
  induction cut with
  | last absent => simp [replaceFrom_of_absent message absent]
  | next leftmost onward ih =>
    rw [replaceFrom_leftmost message filled leftmost, ih,
      List.intercalate_cons_of_ne_nil onward.ne_nil]

/-- To insert a message throughout is to put it before every character and at the end. -/
theorem insertThroughout_eq (message text : List Char) :
    insertThroughout message text = text.flatMap (message ++ [·]) ++ message := by
  -- Each character is preceded by one message.
  induction text with
  | nil => rfl
  | cons char rest ih => simp [insertThroughout, ih]

/-- The rule of replacement has one result, which is the one computed. -/
theorem replaces_iff {key message text result : String} :
    Replaces key message text result ↔ result = replaceAll key message text := by
  -- An empty key has a rule of its own, and any other one cuts the text in one way only.
  rw [← String.toList_inj, replaceAll, String.toList_ofList, replaceChars, Replaces]
  by_cases blank : key = ""
  · simp [blank, insertThroughout_eq]
  · have filled : key.toList ≠ [] := by simpa using blank
    rw [if_neg blank, if_neg (by simpa using filled)]
    constructor
    · intro replaced
      -- However the text was cut, its gaps make what is computed.
      obtain ⟨gaps, cut, same⟩ := replaced
      rw [same, cut.replaceFrom_eq _ filled]
    · intro same
      -- Some cut exists, and it makes what is computed.
      obtain ⟨gaps, cut⟩ := exists_cutAt filled text.toList
      exact ⟨gaps, cut, by rw [same, cut.replaceFrom_eq _ filled]⟩

-- A key that overlaps itself is taken as often as it fits from the left.
example : replaceAll "aa" "b" "aaaaa" = "bba" := by decide +kernel

/-- Characters after a replacement are some of those before it or of the message. -/
theorem mem_replaceFrom {key message text : List Char} {skipped : Nat} {char : Char}
    (member : char ∈ replaceFrom key message skipped text) : char ∈ message ∨ char ∈ text := by
  -- The cases are those of the replacement, character by character.
  fun_induction replaceFrom key message skipped text with
  | case1 => simp at member
  | case2 skipped first rest ih => exact (ih member).imp_right (List.mem_cons_of_mem first)
  | case3 first rest starts ih =>
    rcases List.mem_append.mp member with inside | later
    · exact Or.inl inside
    · exact (ih later).imp_right (List.mem_cons_of_mem first)
  | case4 first rest elsewhere ih =>
    rcases List.mem_cons.mp member with same | later
    · exact Or.inr (by simp [same])
    · exact (ih later).imp_right (List.mem_cons_of_mem first)

/-- A text after a replacement has no characters but its own and those of the message. -/
theorem mem_replaceAll {key message text : String} {char : Char}
    (member : char ∈ (replaceAll key message text).toList) :
    char ∈ message.toList ∨ char ∈ text.toList := by
  -- Both ways to replace are gone through, that of an empty key first.
  rw [replaceAll, String.toList_ofList, replaceChars] at member
  split at member
  · -- An empty key puts the message around every character.
    rw [insertThroughout_eq, List.mem_append, List.mem_flatMap] at member
    rcases member with ⟨other, inside, around⟩ | last
    · rcases List.mem_append.mp around with before | same
      · exact Or.inl before
      · exact Or.inr (List.mem_singleton.mp same ▸ inside)
    · exact Or.inl last
  · exact mem_replaceFrom member

end Phrasebook
