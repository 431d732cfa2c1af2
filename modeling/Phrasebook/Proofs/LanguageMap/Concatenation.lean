import Phrasebook.Proofs.LanguageMap.Positional
import Phrasebook.Proofs.Table.History
import Phrasebook.Proofs.Text.LineEnding
import Phrasebook.Store

/-! Language maps put one behind the other, which are read and loaded one after the other. -/

namespace Phrasebook

namespace LanguageMap

/-- No record is left open at the end of the lines. -/
def IsClosed (map : LanguageMap) : Prop :=
  ∀ line, .unclosedRecord line ∉ map.diagnostics

/-- The language map on lines that are numbered in another way. -/
def renumber (change : Nat → Nat) (map : LanguageMap) : LanguageMap where
  records := map.records.map (Record.renumber change)
  diagnostics := map.diagnostics.map (Diagnostic.renumber change)

/-- Language maps are put together record after record and finding after finding. -/
instance : Append LanguageMap where
  append first second :=
    ⟨first.records ++ second.records, first.diagnostics ++ second.diagnostics⟩

/-- The records of the first language map come before those of the second. -/
@[simp] theorem records_append (first second : LanguageMap) :
    (first ++ second).records = first.records ++ second.records := rfl

/-- The findings on the first language map come before those on the second. -/
@[simp] theorem diagnostics_append (first second : LanguageMap) :
    (first ++ second).diagnostics = first.diagnostics ++ second.diagnostics := rfl

/-- A language map without records and findings adds nothing to another. -/
@[simp] theorem append_empty (map : LanguageMap) : map ++ (⟨[], []⟩ : LanguageMap) = map := by
  -- Both lists are appended an empty one.
  show (⟨map.records ++ [], map.diagnostics ++ []⟩ : LanguageMap) = map
  simp only [List.append_nil]

end LanguageMap

/-- Whether a finding is about a line outside of all records. -/
def Diagnostic.isSyntaxError : Diagnostic → Bool
  | .syntaxError _ => true
  | .unclosedRecord _ => false

namespace ReaderPosition

/-- Lines behind some others settle what they settle on their own, on lines with other numbers. -/
theorem findings_renumber (position : ReaderPosition) (number count : Nat) (lines : List String) :
    (position.renumber (count + ·)).findings (count + number) lines =
      (position.findings number lines).map (Finding.renumber (count + ·)) := by
  -- Each line is read alike, and so is the end.
  induction lines generalizing position number with
  | nil => cases position <;> rfl
  | cons line rest ih =>
    have step := position.read_renumber number line (count + ·)
    have next : count + number + 1 = count + (number + 1) := by omega
    simp only [findings, step, next, ih, List.map_append]

/-- What lines settle is settled in the first of them or from where those left the reader. -/
theorem findings_append (position : ReaderPosition) (number : Nat) (first second : List String) :
    position.findings number (first ++ second) =
      (position.readAll number first).2 ++
        (position.readAll number first).1.findings (number + first.length) second := by
  -- What the end of the lines settles goes with the second ones.
  simp only [findings_eq_readAll, readAll_append, List.append_assoc]

end ReaderPosition

namespace LanguageMap

/-- Findings make up the language map of the earlier ones and that of the later ones. -/
theorem ofFindings_append (earlier later : List Finding) :
    ofFindings (earlier ++ later) = ofFindings earlier ++ ofFindings later := by
  -- Records and diagnostics are each picked out in order.
  simp only [ofFindings, List.filterMap_append]
  rfl

/-- Findings on other lines make up the language map on those lines. -/
theorem ofFindings_renumber (findings : List Finding) (change : Nat → Nat) :
    ofFindings (findings.map (Finding.renumber change)) =
      (ofFindings findings).renumber change := by
  -- A finding stays the record or the diagnostic that it is.
  have record : ∀ finding : Finding,
      (finding.renumber change).record? = finding.record?.map (Record.renumber change) := by
    intro finding
    cases finding <;> rfl
  have diagnostic : ∀ finding : Finding,
      (finding.renumber change).diagnostic? =
        finding.diagnostic?.map (Diagnostic.renumber change) := by
    intro finding
    cases finding <;> rfl
  simp only [ofFindings, renumber, List.filterMap_map, List.map_filterMap, Function.comp_def,
    record, diagnostic]

/-- A language map is what is settled while its lines are read, and what their end settles. -/
theorem ofLines_eq_readAll (lines : List String) :
    ofLines lines =
      ofFindings (ReaderPosition.outside.readAll 1 lines).2 ++
        ofFindings (ReaderPosition.outside.readAll 1 lines).1.finish := by
  -- The end of the lines comes after all of them.
  rw [ofLines, ReaderPosition.findings_eq_readAll, ofFindings_append]

/-- What is settled while lines are read does not hang on what comes after them. -/
theorem ofLines_append (first second : List String) :
    ofLines (first ++ second) =
      ofFindings (ReaderPosition.outside.readAll 1 first).2 ++
        ofFindings ((ReaderPosition.outside.readAll 1 first).1.findings (1 + first.length)
          second) := by
  -- The second lines are read from where the first ones left the reader.
  rw [ofLines, ReaderPosition.findings_append, ofFindings_append]

/-- While lines are read, no finding is made but on stray ones. -/
theorem syntaxErrors_readAll (lines : List String) :
    (ofFindings (ReaderPosition.outside.readAll 1 lines).2).diagnostics.filter
        Diagnostic.isSyntaxError =
      (ofFindings (ReaderPosition.outside.readAll 1 lines).2).diagnostics := by
  -- That a record was left open is told at the end only.
  rw [(readAll_positional lines).2]
  simp [Diagnostic.isSyntaxError]

/-- The end of the lines settles neither a record nor a syntax error. -/
theorem ofFindings_finish (position : ReaderPosition) :
    (ofFindings position.finish).records = [] ∧
      (ofFindings position.finish).diagnostics.filter Diagnostic.isSyntaxError = [] := by
  -- At most a record without an end is told of.
  cases position <;> exact ⟨rfl, rfl⟩

/-- More lines take nothing back: records and syntax errors stay, and others come after them. -/
theorem ofLines_prefix (first second : List String) :
    (ofLines first).records <+: (ofLines (first ++ second)).records ∧
      (ofLines first).diagnostics.filter Diagnostic.isSyntaxError <+:
        (ofLines (first ++ second)).diagnostics := by
  -- Only the end of the first lines is not told of any more, or later.
  obtain ⟨noRecord, noSyntaxError⟩ :=
    ofFindings_finish (ReaderPosition.outside.readAll 1 first).1
  rw [ofLines_append, ofLines_eq_readAll first]
  simp only [records_append, diagnostics_append, List.filter_append, noRecord, noSyntaxError,
    syntaxErrors_readAll, List.append_nil]
  exact ⟨List.prefix_append _ _, List.prefix_append _ _⟩

/-- After lines that leave no record open a reader stands outside of all records. -/
theorem IsClosed.readAll_eq {lines : List String} (closed : (ofLines lines).IsClosed) :
    (ReaderPosition.outside.readAll 1 lines).1 = .outside := by
  -- Within a record the end of the lines would be told of.
  rw [ofLines_eq_readAll] at closed
  cases stands : (ReaderPosition.outside.readAll 1 lines).1 with
  | outside => rfl
  | inKey openedAt key =>
    rw [stands] at closed
    exact absurd (List.mem_append_right _ (List.mem_singleton_self _)) (closed openedAt)
  | inMessage openedAt key message =>
    rw [stands] at closed
    exact absurd (List.mem_append_right _ (List.mem_singleton_self _)) (closed openedAt)

/-- Lines that leave no record open are read on their own, and what follows them on its own too. -/
theorem IsClosed.ofLines_append {first : List String} (closed : (ofLines first).IsClosed)
    (second : List String) :
    ofLines (first ++ second) = ofLines first ++ (ofLines second).renumber (first.length + ·) := by
  -- The reader comes to the second lines as it would come to the start of a file.
  have start := closed.readAll_eq
  have alone : ofLines first = ofFindings (ReaderPosition.outside.readAll 1 first).2 := by
    rw [ofLines_eq_readAll, start]
    exact append_empty _
  -- Behind so many lines the numbers are higher by their count.
  have shifted := ReaderPosition.findings_renumber .outside 1 first.length second
  rw [Nat.add_comm first.length 1] at shifted
  rw [LanguageMap.ofLines_append, start, alone, ofLines, ← ofFindings_renumber, ← shifted]
  rfl

/-- The entries of language maps that are put together follow one another. -/
theorem entries_append (first second : LanguageMap) :
    (first ++ second).entries = first.entries ++ second.entries := by
  -- The records follow one another, and so do their entries.
  simp [entries]

/-- On which lines records stand has no part in their entries. -/
theorem entries_renumber (change : Nat → Nat) (map : LanguageMap) :
    (map.renumber change).entries = map.entries := by
  -- Only the line of a record is changed, which its entry does not have.
  simp [entries, renumber, Function.comp_def, Record.renumber, Record.entry]

end LanguageMap

/-- A text behind another is read on lines of its own, at most one blank line behind the other. -/
theorem lines_normalizeNewlines_append (first second : String) :
    ∃ blank, (blank = [] ∨ blank = [""]) ∧
      lines (normalizeNewlines (first ++ "\n" ++ second)) =
        lines (normalizeNewlines first) ++ blank ++ lines (normalizeNewlines second) := by
  -- The line feed between the texts ends the first one, unless a carriage return has done so.
  by_cases returned : first.toList.getLast? = some '\r'
  · -- A carriage return at the end of the first text and the line feed are one ending.
    obtain ⟨before, parts⟩ := List.getLast?_eq_some_iff.mp returned
    have split : first = String.ofList before ++ "\r" := by
      apply String.toList_inj.mp
      simp [parts]
    have paired : first ++ "\n" ++ second =
        String.ofList before ++ LineEnding.pair.text ++ second := by
      rw [split, LineEnding.text]
      simp [String.append_assoc]
    have single : first = String.ofList before ++ LineEnding.carriageReturn.text ++ "" := by
      rw [split, String.append_empty]
      rfl
    have none : lines (normalizeNewlines "") = [] := by decide +kernel
    refine ⟨[], Or.inl rfl, ?_⟩
    -- Both with the line feed and without it, the last line of the first text is ended once.
    rw [paired, lines_normalizeNewlines_ending .pair (by simp) (by simp), single,
      lines_normalizeNewlines_ending .carriageReturn (by simp) (by simp), none]
    simp
  · -- The line feed ends the last line of the first text, or is a blank line.
    have all : lines (normalizeNewlines (first ++ "\n" ++ second)) =
        pieces (normalizeNewlines first) ++ lines (normalizeNewlines second) :=
      lines_normalizeNewlines_ending .lineFeed (fun last => absurd last returned) (by simp)
    rw [all]
    -- If the first text was ended already, the piece after its end is the blank line.
    rcases pieces_eq_lines (normalizeNewlines first) with same | more
    · exact ⟨[], Or.inl rfl, by rw [same, List.append_nil]⟩
    · exact ⟨[""], Or.inr rfl, by rw [more]⟩

namespace LanguageMap

/-- A blank line after lines that leave no record open goes unnoticed. -/
theorem IsClosed.ofLines_append_blank {first blank : List String}
    (closed : (ofLines first).IsClosed) (empty : blank = [] ∨ blank = [""]) :
    ofLines (first ++ blank) = ofLines first := by
  -- On its own it is a file without records.
  have nothing : ofLines blank = ⟨[], []⟩ := by
    rcases empty with rfl | rfl <;> decide +kernel
  rw [closed.ofLines_append, nothing]
  exact append_empty _

/-- A text that leaves no record open is read on its own, and a text behind it on its own too. -/
theorem IsClosed.ofText_append {first : String} (closed : (ofText first).IsClosed)
    (second : String) :
    ∃ count, ofText (first ++ "\n" ++ second) =
      ofText first ++ (ofText second).renumber (count + ·) := by
  -- The lines of the second text follow those of the first, and perhaps a blank one.
  obtain ⟨blank, empty, all⟩ := lines_normalizeNewlines_append first second
  have same := closed.ofLines_append_blank empty
  have stillClosed : (ofLines (lines (normalizeNewlines first) ++ blank)).IsClosed := by
    rw [same]
    exact closed
  refine ⟨(lines (normalizeNewlines first) ++ blank).length, ?_⟩
  rw [ofText, all, stillClosed.ofLines_append, same]
  rfl

end LanguageMap

namespace Store

/-- What is changed in a table twice is changed by both changes, one after the other. -/
theorem changeTable_changeTable (store : Store) (domain : String) (first second : Table → Table) :
    (store.changeTable domain first).changeTable domain second =
      store.changeTable domain fun table => second (first table) := by
  -- Other domains keep their tables both times.
  apply ext_table?
  intro other
  by_cases same : domain = other <;> simp [table?_changeTable, same]

/-- A load that is not strict commits all records. -/
theorem loadText_lenient (store : Store) (text source domain : String) :
    store.loadText text source domain ⟨false⟩ =
      (.ok ⟨source, domain, (LanguageMap.ofText text).records.length,
          (LanguageMap.ofText text).diagnostics⟩,
        store.changeTable domain (·.insertMany (LanguageMap.ofText text).entries)) := rfl

end Store

/--
Language maps can be read, and loaded, piece by piece.

More lines take nothing back: the records and the syntax errors of the lines before them stay, and
others come after them. Lines that leave no record open are even read on their own, and those that
follow them too, but for the numbers of the lines. So two texts, of which the first leaves no record
open, are loaded one after the other as the text is that has a line feed between them. The stores
are the same, and the counts add up.
-/
theorem ofLines_in_pieces :
    (∀ first second : List String,
      let map := LanguageMap.ofLines first
      let whole := LanguageMap.ofLines (first ++ second)
      map.records <+: whole.records ∧
      map.diagnostics.filter Diagnostic.isSyntaxError <+: whole.diagnostics ∧
      (map.IsClosed → whole = map ++ (LanguageMap.ofLines second).renumber (first.length + ·))) ∧
    ∀ first second : String, (LanguageMap.ofText first).IsClosed →
      ∀ (store : Store) (domain firstSource secondSource wholeSource : String),
        ∃ earlier later whole between after,
          store.loadText first firstSource domain ⟨false⟩ = (.ok earlier, between) ∧
          between.loadText second secondSource domain ⟨false⟩ = (.ok later, after) ∧
          store.loadText (first ++ "\n" ++ second) wholeSource domain ⟨false⟩ =
            (.ok whole, after) ∧
          whole.loaded = earlier.loaded + later.loaded := by
  -- Lines are put together by the rules above, and texts by the lines that they have.
  refine ⟨?_, ?_⟩
  · intro first second map whole
    -- Of the lines before, all is kept but what their end has settled.
    obtain ⟨records, syntaxErrors⟩ := LanguageMap.ofLines_prefix first second
    exact ⟨records, syntaxErrors, fun closed => closed.ofLines_append second⟩
  · intro first second closed store domain firstSource secondSource wholeSource
    let between := store.changeTable domain (·.insertMany (LanguageMap.ofText first).entries)
    obtain ⟨count, together⟩ := closed.ofText_append second
    -- None of the three loads is strict, so none of them fails.
    have onFirst := store.loadText_lenient first firstSource domain
    have onSecond := between.loadText_lenient second secondSource domain
    have onBoth := store.loadText_lenient (first ++ "\n" ++ second) wholeSource domain
    -- The entries of both texts are inserted one after another either way.
    have same : store.changeTable domain
          (·.insertMany (LanguageMap.ofText (first ++ "\n" ++ second)).entries) =
        between.changeTable domain (·.insertMany (LanguageMap.ofText second).entries) := by
      simp only [between, Store.changeTable_changeTable, together, LanguageMap.entries_append,
        LanguageMap.entries_renumber, Table.insertMany_append]
    rw [same] at onBoth
    refine ⟨_, _, _, _, _, onFirst, onSecond, onBoth, ?_⟩
    simp [together, LanguageMap.renumber]

/-- A first text that ends in a carriage return, and a second that leaves a record open. -/
theorem greetings_in_pieces :
    let first := "'''\rHi\r'''\rHello\r'''\r"
    let second := "stray\n'''\nHi\n'''\n'''\n'''"
    let lines := ["'''", "Hi", "'''", "Hello", "'''"]
    ((LanguageMap.ofLines lines).IsClosed ∧
      LanguageMap.ofLines (lines ++ ["stray", "'''"]) =
        ⟨[⟨"Hi", "Hello", 5⟩], [.syntaxError 6, .unclosedRecord 7]⟩) ∧
    ((LanguageMap.ofText first).IsClosed ∧
      ∃ earlier later whole between after,
        Store.empty.loadText first "first" mainDomain ⟨false⟩ = (.ok earlier, between) ∧
        between.loadText second "second" mainDomain ⟨false⟩ = (.ok later, after) ∧
        Store.empty.loadText (first ++ "\n" ++ second) "both" mainDomain ⟨false⟩ =
          (.ok whole, after) ∧
        whole.loaded = earlier.loaded + later.loaded) := by
  -- Nothing is amiss in the first part, so no record is left open there.
  intro first second lines
  have nothingAmiss : (LanguageMap.ofLines lines).diagnostics = [] := by decide +kernel
  have closed : (LanguageMap.ofLines lines).IsClosed := by simp [LanguageMap.IsClosed, nothingAmiss]
  have same : LanguageMap.ofText first = .ofLines lines := by decide +kernel
  have firstClosed : (LanguageMap.ofText first).IsClosed := by rwa [same]
  refine ⟨⟨closed, ?_⟩, firstClosed, ?_⟩
  · rw [(ofLines_in_pieces.1 lines ["stray", "'''"]).2.2 closed]
    decide +kernel
  · exact ofLines_in_pieces.2 first second firstClosed .empty mainDomain "first" "second" "both"

end Phrasebook
