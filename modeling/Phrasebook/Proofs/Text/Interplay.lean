import Phrasebook.Proofs.Text.Replace

/-!
How the replacement of one key bears on the occurrences of another: not at all, where the message
that comes in is not empty and has no character of the other key.
-/

namespace Phrasebook

/-- Two texts without a character in common. -/
def SharesNoChar (first second : String) : Prop :=
  ∀ char ∈ first.toList, char ∉ second.toList

instance (first second : String) : Decidable (SharesNoChar first second) :=
  List.decidableBAll (fun char => char ∉ second.toList) first.toList

/-- A key that stands somewhere in a text. -/
def Occurs (key text : String) : Prop :=
  key.toList <:+: text.toList

section Chars

variable {key message other text : List Char}

/-- Where the key does not start, a character is kept. -/
theorem replaceFrom_cons {char : Char} {rest : List Char} (elsewhere : ¬ key <+: char :: rest) :
    replaceFrom key message 0 (char :: rest) = char :: replaceFrom key message 0 rest := by
  rw [replaceFrom, if_neg (mt List.isPrefixOf_iff_prefix.mp elsewhere)]

/-- Where the key starts, the message is put for it. -/
theorem replaceFrom_append_self (filled : key ≠ []) (rest : List Char) :
    replaceFrom key message 0 (key ++ rest) = message ++ replaceFrom key message 0 rest := by
  -- Nothing stands before this occurrence, so it is the leftmost.
  have leftmost : ∀ before after : List Char, before ++ key ++ after = [] ++ key ++ rest →
      ([] : List Char).length ≤ before.length := fun _ _ _ => Nat.zero_le _
  simpa using replaceFrom_leftmost message filled leftmost

/-- Characters that the key does not have are kept, and none of them starts an occurrence. -/
theorem replaceFrom_append_of_apart {gap : List Char} (filled : key ≠ [])
    (apart : ∀ char ∈ gap, char ∉ key) (rest : List Char) :
    replaceFrom key message 0 (gap ++ rest) = gap ++ replaceFrom key message 0 rest := by
  -- The induction is on the gap, each character of which stands where no key starts.
  induction gap with
  | nil => rfl
  | cons char gap ih =>
    obtain ⟨first, more, rfl⟩ := List.exists_cons_of_ne_nil filled
    -- An occurrence that started here would start with this character.
    have elsewhere : ¬ first :: more <+: char :: (gap ++ rest) := by
      intro starts
      have same := (List.cons_prefix_cons.mp starts).1
      exact apart char (by simp) (by simp [same])
    have onward := ih fun char inside => apart char (by simp [inside])
    rw [List.cons_append, replaceFrom_cons elsewhere, onward]
    rfl

/-- What starts a text after a replacement, and not with the message, started it before. -/
theorem prefix_of_prefix_replaceFrom (keyFilled : key ≠ []) (filled : message ≠ [])
    (apart : ∀ char ∈ message, char ∉ other) (starts : other <+: replaceFrom key message 0 text) :
    other <+: text := by
  -- The two texts are followed side by side for as long as the key does not start.
  induction text generalizing other with
  | nil => exact starts
  | cons char rest ih =>
    cases other with
    | nil => exact List.nil_prefix
    | cons first more =>
      by_cases here : key <+: char :: rest
      · -- The message would have to begin with a character of its own and of the other text.
        obtain ⟨after, same⟩ := here
        obtain ⟨head, tail, rfl⟩ := List.exists_cons_of_ne_nil filled
        rw [← same, replaceFrom_append_self keyFilled, List.cons_append,
          List.cons_prefix_cons] at starts
        exact absurd (by simp [starts.1]) (apart head (by simp))
      · rw [replaceFrom_cons here, List.cons_prefix_cons] at starts
        have onward := ih (fun char inside => mt (List.mem_cons_of_mem first) (apart char inside))
          starts.2
        exact List.cons_prefix_cons.mpr ⟨starts.1, onward⟩

section TwoKeys

variable {first second firstMessage secondMessage : List Char}

/-- Of two replacements the second keeps what the first put in. -/
theorem replaceFrom_replaceFrom_first (firstFilled : first ≠ []) (secondFilled : second ≠ [])
    (apart : ∀ char ∈ firstMessage, char ∉ second) (rest : List Char) :
    replaceFrom second secondMessage 0 (replaceFrom first firstMessage 0 (first ++ rest)) =
      firstMessage ++
        replaceFrom second secondMessage 0 (replaceFrom first firstMessage 0 rest) := by
  -- The message that was put in first is a gap to the second key.
  rw [replaceFrom_append_self firstFilled, replaceFrom_append_of_apart secondFilled apart]

/-- Of two replacements the first keeps what the second is to replace. -/
theorem replaceFrom_replaceFrom_second (firstFilled : first ≠ []) (secondFilled : second ≠ [])
    (apart : ∀ char ∈ second, char ∉ first) (rest : List Char) :
    replaceFrom second secondMessage 0 (replaceFrom first firstMessage 0 (second ++ rest)) =
      secondMessage ++
        replaceFrom second secondMessage 0 (replaceFrom first firstMessage 0 rest) := by
  -- The second key is a gap to the first one.
  rw [replaceFrom_append_of_apart firstFilled apart, replaceFrom_append_self secondFilled]

/-- Of two replacements neither touches a character where neither key starts. -/
theorem replaceFrom_replaceFrom_cons {char : Char} {rest : List Char} (firstFilled : first ≠ [])
    (filled : firstMessage ≠ []) (apart : ∀ char ∈ firstMessage, char ∉ second)
    (firstElsewhere : ¬ first <+: char :: rest) (secondElsewhere : ¬ second <+: char :: rest) :
    replaceFrom second secondMessage 0 (replaceFrom first firstMessage 0 (char :: rest)) =
      char :: replaceFrom second secondMessage 0 (replaceFrom first firstMessage 0 rest) := by
  -- The first replacement does not make the second key start here.
  have still : ¬ second <+: char :: replaceFrom first firstMessage 0 rest := by
    rw [← replaceFrom_cons firstElsewhere]
    exact mt (prefix_of_prefix_replaceFrom firstFilled filled apart) secondElsewhere
  rw [replaceFrom_cons firstElsewhere, replaceFrom_cons still]

/-- Characters come out the same in either order of two keys that meet neither key nor message. -/
theorem replaceFrom_comm (firstFilled : first ≠ []) (secondFilled : second ≠ [])
    (firstMessageFilled : firstMessage ≠ []) (secondMessageFilled : secondMessage ≠ [])
    (keysApart : ∀ char ∈ first, char ∉ second)
    (firstApart : ∀ char ∈ firstMessage, char ∉ second)
    (secondApart : ∀ char ∈ secondMessage, char ∉ first) (text : List Char) :
    replaceFrom second secondMessage 0 (replaceFrom first firstMessage 0 text) =
      replaceFrom first firstMessage 0 (replaceFrom second secondMessage 0 text) := by
  -- Whichever key starts the text is passed over whole, and is the only one that starts it.
  have keysApart' : ∀ char ∈ second, char ∉ first :=
    fun char inSecond inFirst => keysApart char inFirst inSecond
  -- As more than one character can be passed over, the induction is on the length.
  induction measured : text.length using Nat.strong_induction_on generalizing text with
  | _ size ih =>
    have onward : ∀ rest : List Char, rest.length < size →
        replaceFrom second secondMessage 0 (replaceFrom first firstMessage 0 rest) =
          replaceFrom first firstMessage 0 (replaceFrom second secondMessage 0 rest) :=
      fun rest shorter => ih rest.length shorter rest rfl
    -- To pass over a key leaves less to go through.
    have passed : ∀ key rest : List Char, key ≠ [] → text = key ++ rest → rest.length < size := by
      intro key rest filled starts
      have := List.length_pos_iff.mpr filled
      rw [← measured, starts, List.length_append]
      omega
    by_cases firstHere : first <+: text
    · obtain ⟨rest, rfl⟩ := firstHere
      have shorter := passed first rest firstFilled rfl
      -- The first key starts the text, and its message is put for it on both sides.
      rw [replaceFrom_replaceFrom_first firstFilled secondFilled firstApart,
        replaceFrom_replaceFrom_second secondFilled firstFilled keysApart, onward rest shorter]
    · by_cases secondHere : second <+: text
      · obtain ⟨rest, rfl⟩ := secondHere
        have shorter := passed second rest secondFilled rfl
        -- The second key starts the text, and the first one does not touch it.
        rw [replaceFrom_replaceFrom_second firstFilled secondFilled keysApart',
          replaceFrom_replaceFrom_first secondFilled firstFilled secondApart, onward rest shorter]
      · cases text with
        | nil => rfl
        | cons char rest =>
          -- No key starts the text, so its first character is kept on both sides.
          rw [replaceFrom_replaceFrom_cons firstFilled firstMessageFilled firstApart firstHere
              secondHere,
            replaceFrom_replaceFrom_cons secondFilled secondMessageFilled secondApart secondHere
              firstHere,
            onward rest (by simp [← measured])]

end TwoKeys

/-- What occurs around a text that it has no character of occurs before or behind that text. -/
theorem infix_of_infix_around {gap rest : List Char} (filled : message ≠ [])
    (apart : ∀ char ∈ message, char ∉ other) (occurs : other <:+: gap ++ (message ++ rest)) :
    other <:+: gap ∨ other <:+: rest := by
  -- Wherever the occurrence reaches into the message, it would have a character of it.
  rcases List.infix_append_iff.mp occurs with before | onward | ⟨left, right, rfl, ends, starts⟩
  · exact Or.inl before
  · -- The occurrence starts at or behind the end of the gap.
    rcases List.infix_append_iff.mp onward with inside | behind | ⟨left, right, rfl, ends, starts⟩
    · cases other with
      | nil => exact Or.inl (List.nil_infix)
      | cons char more => exact absurd (by simp) (apart char (inside.mem (by simp)))
    · exact Or.inr behind
    · cases left with
      | nil => exact Or.inr starts.isInfix
      | cons char more => exact absurd (by simp) (apart char (ends.mem (by simp)))
  · -- The occurrence starts within the gap, and must not reach beyond it.
    cases right with
    | nil => exact Or.inl (by simpa using ends.isInfix)
    | cons char more =>
      obtain ⟨head, tail, rfl⟩ := List.exists_cons_of_ne_nil filled
      rw [List.cons_append, List.cons_prefix_cons] at starts
      exact absurd (by simp [starts.1]) (apart head (by simp))

/-- The gaps of a text are parts of it. -/
theorem CutAt.infix_text {gaps : List (List Char)} (cut : CutAt key text gaps) :
    ∀ gap ∈ gaps, gap <:+: text := by
  -- Each gap stands at the start of what is left of the text when it is cut off.
  induction cut with
  | last => simp
  | @next gap rest gaps leftmost onward ih =>
    intro part member
    rcases List.mem_cons.mp member with rfl | later
    · exact ⟨[], key ++ rest, by simp⟩
    · exact (ih part later).trans ⟨gap ++ key, [], by simp⟩

/-- The key does not occur within a gap. -/
theorem CutAt.not_infix_gap {gaps : List (List Char)} (cut : CutAt key text gaps)
    (filled : key ≠ []) : ∀ gap ∈ gaps, ¬ key <:+: gap := by
  -- The last gap has no occurrence by the rule, and any other one ends at the leftmost.
  induction cut with
  | last absent => simpa using absent
  | @next gap rest gaps leftmost onward ih =>
    intro part member occurs
    rcases List.mem_cons.mp member with rfl | later
    · -- The occurrence at the end of the gap would not be the leftmost.
      obtain ⟨before, after, same⟩ := occurs
      have bound := leftmost before (after ++ key ++ rest) (by simp [← same])
      have positive := List.length_pos_iff.mpr filled
      have lengths := congrArg List.length same
      simp only [List.length_append] at lengths
      omega
    · exact ih part later occurs

/-- What occurs in the gaps joined by a message, with no character of it, occurs in one of them. -/
theorem CutAt.infix_gap {gaps : List (List Char)} (cut : CutAt key text gaps)
    (filled : message ≠ []) (apart : ∀ char ∈ message, char ∉ other)
    (occurs : other <:+: message.intercalate gaps) : ∃ gap ∈ gaps, other <:+: gap := by
  -- The induction is on the cut: the occurrence is in the first gap, or in the later ones joined.
  induction cut with
  | last => simpa using occurs
  | @next gap rest gaps leftmost onward ih =>
    rw [List.intercalate_cons_of_ne_nil onward.ne_nil, List.append_assoc] at occurs
    rcases infix_of_infix_around filled apart occurs with here | later
    · exact ⟨gap, by simp, here⟩
    · obtain ⟨part, member, inside⟩ := ih later
      exact ⟨part, by simp [member], inside⟩

/-- A replacement brings in nothing that its message has no character of. -/
theorem infix_of_infix_replaceFrom (keyFilled : key ≠ []) (filled : message ≠ [])
    (apart : ∀ char ∈ message, char ∉ other) (occurs : other <:+: replaceFrom key message 0 text) :
    other <:+: text := by
  -- What occurs in the result is in one of the gaps, and each gap is a part of the text.
  obtain ⟨gaps, cut⟩ := exists_cutAt keyFilled text
  rw [cut.replaceFrom_eq message keyFilled] at occurs
  obtain ⟨gap, member, inside⟩ := cut.infix_gap filled apart occurs
  exact inside.trans (cut.infix_text gap member)

/-- The key is not among the characters after a replacement unless the message brings it. -/
theorem not_infix_replaceFrom (keyFilled : key ≠ []) (filled : message ≠ [])
    (apart : ∀ char ∈ message, char ∉ key) (text : List Char) :
    ¬ key <:+: replaceFrom key message 0 text := by
  -- The key would have to occur in one of the gaps, at which it was cut.
  intro occurs
  obtain ⟨gaps, cut⟩ := exists_cutAt keyFilled text
  rw [cut.replaceFrom_eq message keyFilled] at occurs
  obtain ⟨gap, member, inside⟩ := cut.infix_gap filled apart occurs
  exact cut.not_infix_gap keyFilled gap member inside

end Chars

section Texts

variable {key message other text : String}

/-- A key that is not empty is replaced from the left. -/
theorem toList_replaceAll (keyFilled : key ≠ "") (message text : String) :
    (replaceAll key message text).toList =
      replaceFrom key.toList message.toList 0 text.toList := by
  -- Only an empty key takes another way.
  have filled : ¬ key.toList.isEmpty = true := by simpa using keyFilled
  rw [replaceAll, String.toList_ofList, replaceChars, if_neg filled]

/-- A text in which a key does not occur is left as it is. -/
theorem replaceAll_of_not_occurs (keyFilled : key ≠ "") (message : String)
    (absent : ¬ Occurs key text) : replaceAll key message text = text := by
  -- The characters of the text are those before the replacement.
  rw [← String.toList_inj, toList_replaceAll keyFilled, replaceFrom_of_absent _ absent]

/-- A key that its message has no character of is gone once it is replaced. -/
theorem not_occurs_replaceAll (keyFilled : key ≠ "") (filled : message ≠ "")
    (apart : SharesNoChar message key) (text : String) :
    ¬ Occurs key (replaceAll key message text) := by
  -- What is known of the characters is known of the text.
  rw [Occurs, toList_replaceAll keyFilled]
  exact not_infix_replaceFrom (by simpa using keyFilled) (by simpa using filled) apart text.toList

/-- A replacement brings in no key that its message has no character of. -/
theorem occurs_of_occurs_replaceAll (keyFilled : key ≠ "") (filled : message ≠ "")
    (apart : SharesNoChar message other) (occurs : Occurs other (replaceAll key message text)) :
    Occurs other text := by
  -- The other key stands among the characters of the text before it does so in the result.
  rw [Occurs, toList_replaceAll keyFilled] at occurs
  exact infix_of_infix_replaceFrom (by simpa using keyFilled) (by simpa using filled) apart occurs

end Texts

/-- Two keys can be replaced in either order if neither they nor their messages meet. -/
theorem replaceAll_comm {first second firstMessage secondMessage : String}
    (firstFilled : first ≠ "") (secondFilled : second ≠ "")
    (firstMessageFilled : firstMessage ≠ "") (secondMessageFilled : secondMessage ≠ "")
    (keysApart : SharesNoChar first second) (firstApart : SharesNoChar firstMessage second)
    (secondApart : SharesNoChar secondMessage first) (text : String) :
    replaceAll second secondMessage (replaceAll first firstMessage text) =
      replaceAll first firstMessage (replaceAll second secondMessage text) := by
  -- No key is empty, so both replacements go through the characters in the same way.
  rw [← String.toList_inj]
  simp only [toList_replaceAll firstFilled, toList_replaceAll secondFilled]
  exact replaceFrom_comm (by simpa using firstFilled) (by simpa using secondFilled)
    (by simpa using firstMessageFilled) (by simpa using secondMessageFilled) keysApart firstApart
    secondApart text.toList

end Phrasebook
