import Phrasebook.Locale

/-! Which variables the locale is asked of, and that it depends on no others. -/

namespace Phrasebook

variable {lookup other : String → Option String}

/-- Looks a variable up, and puts its name behind those that were asked for before. -/
def asking (lookup : String → Option String) (name : String) :
    StateM (List String) (Option String) := do
  -- The name is put down whether or not the variable has a value.
  modify (· ++ [name])
  return lookup name

/-- A variable that names no locale, as it is unset or its value is empty. -/
def Silent (lookup : String → Option String) (name : String) : Prop :=
  lookup name = none ∨ lookup name = some ""

instance (lookup : String → Option String) (name : String) : Decidable (Silent lookup name) :=
  inferInstanceAs (Decidable (_ ∨ _))

/-- The names that a search among some names asks for, and the value that it finds. -/
inductive VariableSearch (lookup : String → Option String) :
    List String → List String → Option String → Prop where
  /-- The last name that is asked for is the first whose value is not empty. -/
  | found {before later : List String} {name value : String}
      (silent : ∀ earlier ∈ before, Silent lookup earlier)
      (named : lookup name = some value) (filled : value ≠ "") :
      VariableSearch lookup (before ++ name :: later) (before ++ [name]) (some value)
  /-- All names are asked for in vain. -/
  | missing {names : List String} (silent : ∀ name ∈ names, Silent lookup name) :
      VariableSearch lookup names names none

/-- A variable is not silent exactly if it has a value that is not empty. -/
theorem not_silent_iff {name : String} :
    ¬ Silent lookup name ↔ ∃ value, lookup name = some value ∧ value ≠ "" := by
  -- The value is missing, or it is there and may be empty.
  unfold Silent
  cases lookup name <;> simp

/-- Some search is made among any names. -/
theorem exists_variableSearch (lookup : String → Option String) (names : List String) :
    ∃ asked told, VariableSearch lookup names asked told := by
  -- The search ends with the first name that is not silent, if there is one.
  cases first : names.find? fun name => ¬ Silent lookup name with
  | none =>
    have silent : ∀ name ∈ names, Silent lookup name := by simpa using first
    exact ⟨_, _, .missing silent⟩
  | some name =>
    obtain ⟨speaks, before, later, rfl, silent⟩ := List.find?_eq_some_iff_append.mp first
    obtain ⟨value, named, filled⟩ := not_silent_iff.mp (of_decide_eq_true speaks)
    exact ⟨_, _, .found (by simpa using silent) named filled⟩

namespace VariableSearch

variable {names asked : List String} {told : Option String}

/-- The names are asked for in their order, none being passed over. -/
theorem asked_prefix (search : VariableSearch lookup names asked told) : asked <+: names := by
  -- What is left of the names comes behind those that were asked for.
  cases search with
  | found => exact ⟨_, List.append_assoc _ _ _⟩
  | missing => exact List.prefix_refl _

/-- The value that is found is not empty. -/
theorem filled {value : String} (search : VariableSearch lookup names asked (some value)) :
    value ≠ "" := by
  -- A search that finds a value ends with a name that is not silent.
  cases search with
  | found _ _ filled => exact filled

/-- Variables with the same values for all names that are asked for make for the same search. -/
theorem of_agree (search : VariableSearch lookup names asked told)
    (agree : ∀ name ∈ asked, other name = lookup name) : VariableSearch other names asked told := by
  -- Names that were not asked for may have any values, as none of them is looked at.
  have stillSilent : ∀ name ∈ asked, Silent lookup name → Silent other name := by
    intro name among silent
    rwa [Silent, agree name among]
  cases search with
  | found silent named filled =>
    apply found _ _ filled
    · exact fun earlier before =>
        stillSilent earlier (List.mem_append_left _ before) (silent earlier before)
    · rw [agree _ (by simp), named]
  | missing silent =>
    apply missing
    exact fun name among => stillSilent name among (silent name among)

end VariableSearch

/-- What is told of the first name decides whether the others are asked for at all. -/
theorem firstNonEmpty_cons {m : Type → Type} [Monad m] (ask : String → m (Option String))
    (name : String) (rest : List String) :
    firstNonEmpty ask (name :: rest) = do
      let told ← ask name
      if told = none ∨ told = some "" then firstNonEmpty ask rest else return told := by
  -- A value that is missing and one that is empty are passed over alike.
  rw [firstNonEmpty]
  congr 1
  funext told
  cases told with
  | none => simp
  | some value => by_cases blank : value = "" <;> simp [blank]

/-- A silent variable is asked for and passed over, and any other one is the last. -/
theorem run_firstNonEmpty_cons (lookup : String → Option String) (name : String)
    (rest asked : List String) :
    (firstNonEmpty (asking lookup) (name :: rest)).run asked =
      if Silent lookup name then (firstNonEmpty (asking lookup) rest).run (asked ++ [name])
      else (lookup name, asked ++ [name]) := by
  -- The name has been put down by the time its value is looked at.
  rw [firstNonEmpty_cons]
  show (if Silent lookup name then firstNonEmpty (asking lookup) rest
    else return lookup name : StateM (List String) (Option String)).run (asked ++ [name]) = _
  split <;> rfl

/-- Silent variables at the start are asked for and passed over. -/
theorem run_firstNonEmpty_append {before : List String}
    (silent : ∀ earlier ∈ before, Silent lookup earlier) (later asked : List String) :
    (firstNonEmpty (asking lookup) (before ++ later)).run asked =
      (firstNonEmpty (asking lookup) later).run (asked ++ before) := by
  -- Each of them adds its name to those that were asked for.
  induction before generalizing asked with
  | nil => simp
  | cons name rest ih =>
    have first : Silent lookup name := silent name (by simp)
    have onward := ih (fun earlier among => silent earlier (by simp [among])) (asked ++ [name])
    rw [List.cons_append, run_firstNonEmpty_cons, if_pos first, onward, List.append_assoc,
      List.singleton_append]

/-- The first value that is not empty is found as the search says. -/
theorem VariableSearch.run_firstNonEmpty {names asked : List String} {told : Option String}
    (search : VariableSearch lookup names asked told) (before : List String) :
    (firstNonEmpty (asking lookup) names).run before = (told, before ++ asked) := by
  -- The silent names are passed over first, and then either one speaks or none is left.
  cases search with
  | found silent named filled =>
    have speaks := not_silent_iff.mpr ⟨_, named, filled⟩
    rw [run_firstNonEmpty_append silent, run_firstNonEmpty_cons, if_neg speaks, named,
      List.append_assoc]
  | missing silent =>
    have ended := run_firstNonEmpty_append silent [] before
    rw [List.append_nil] at ended
    exact ended

/-- To put the names down does not change what is found. -/
theorem fst_run_firstNonEmpty (lookup : String → Option String) (names asked : List String) :
    ((firstNonEmpty (asking lookup) names).run asked).1 =
      Id.run (firstNonEmpty (fun name => pure (lookup name)) names) := by
  -- The names that were put down before have no part in the search among the others.
  induction names generalizing asked with
  | nil => rfl
  | cons name rest ih =>
    rw [run_firstNonEmpty_cons, firstNonEmpty_cons]
    show _ = Id.run (if Silent lookup name then firstNonEmpty (fun name => pure (lookup name)) rest
      else return lookup name)
    split
    · exact ih _
    · rfl

/-- The locale is what goes before the codeset in the value that a search finds. -/
theorem VariableSearch.run_resolveLocale {asked : List String} {told : Option String}
    (search : VariableSearch lookup localeVariables asked told) :
    (resolveLocale (asking lookup)).run [] = (withoutCodeset (told.getD defaultLocale), asked) := by
  -- The search starts before any name was put down.
  have found := search.run_firstNonEmpty []
  rw [List.nil_append] at found
  rw [resolveLocale, StateT.run_bind, found]
  rfl

/-- To put the names down does not change the locale. -/
theorem fst_run_resolveLocale (lookup : String → Option String) (asked : List String) :
    ((resolveLocale (asking lookup)).run asked).1 =
      Id.run (resolveLocale fun name => pure (lookup name)) := by
  -- The value that is found is the same, so what is cut from it is as well.
  have found := fst_run_firstNonEmpty lookup localeVariables asked
  show withoutCodeset
      (((firstNonEmpty (asking lookup) localeVariables).run asked).1.getD defaultLocale) = _
  rw [found]
  rfl

/-- The locale is the same whether or not the names are put down. -/
theorem VariableSearch.resolveLocale_eq {asked : List String} {told : Option String}
    (search : VariableSearch lookup localeVariables asked told) :
    Id.run (resolveLocale fun name => pure (lookup name)) =
      withoutCodeset (told.getD defaultLocale) := by
  -- The names can be put down and then forgotten.
  rw [← fst_run_resolveLocale lookup [], search.run_resolveLocale]

/-- What is left of a locale without its codeset has no dot. -/
theorem dot_notMem_withoutCodeset (locale : String) : '.' ∉ (withoutCodeset locale).toList := by
  -- Every character that was kept is something other than a dot.
  intro member
  rw [withoutCodeset, String.toList_ofList] at member
  have passed := List.all_takeWhile (p := (· != '.')) (l := locale.toList)
  simpa using List.all_eq_true.mp passed '.' member

/-- A locale has no codeset, or its codeset is what follows its first dot. -/
theorem eq_withoutCodeset_or (locale : String) :
    locale = withoutCodeset locale ∨
      ∃ codeset, locale = withoutCodeset locale ++ "." ++ codeset := by
  -- The characters from the first dot on are those that were not kept.
  have parts := List.takeWhile_append_dropWhile (p := (· != '.')) (l := locale.toList)
  cases dropped : locale.toList.dropWhile (· != '.') with
  | nil =>
    rw [dropped, List.append_nil] at parts
    exact Or.inl (by rw [withoutCodeset, parts, String.ofList_toList])
  | cons char rest =>
    have dot : char = '.' := by
      have stopped := List.head?_dropWhile_not (· != '.') locale.toList
      simpa [dropped] using stopped
    right
    refine ⟨String.ofList rest, ?_⟩
    apply String.toList_injective
    rw [dropped, dot] at parts
    simp [withoutCodeset, parts]

/-- Nothing is left of a locale exactly if it starts with its codeset. -/
theorem withoutCodeset_eq_empty_iff {locale : String} (filled : locale ≠ "") :
    withoutCodeset locale = "" ↔ locale.toList.head? = some '.' := by
  -- Only a first character that is a dot is left out together with all others.
  rw [← String.toList_inj, withoutCodeset, String.toList_ofList]
  cases chars : locale.toList with
  | nil => exact absurd (String.toList_inj.mp chars) filled
  | cons char rest => by_cases dot : char = '.' <;> simp [dot]

/--
The locale is resolved exactly and lazily.

Variables are asked for in their order, each at most once, up to the first that has a value which
is not empty. Of this value, or of the default where there is none, the locale is the part before
the first dot. No other variable has a part in it.
-/
theorem resolveLocale_exact_and_lazy (lookup : String → Option String) :
    let locale := Id.run (resolveLocale fun name => pure (lookup name))
    let asked := ((resolveLocale (asking lookup)).run []).2
    ((resolveLocale (asking lookup)).run []).1 = locale ∧
    asked <+: localeVariables ∧ asked.Nodup ∧
    (∃ told winning, VariableSearch lookup localeVariables asked told ∧
      winning = told.getD defaultLocale ∧
      (winning = locale ∨ ∃ codeset, winning = locale ++ "." ++ codeset) ∧
      (locale = "" ↔ winning.toList.head? = some '.')) ∧
    '.' ∉ locale.toList ∧
    ∀ other : String → Option String, (∀ name ∈ asked, other name = lookup name) →
      Id.run (resolveLocale fun name => pure (other name)) = locale ∧
      ((resolveLocale (asking other)).run []).2 = asked := by
  -- There is a search, and it settles both the locale and the names that were asked for.
  intro locale asked
  obtain ⟨names, told, search⟩ := exists_variableSearch lookup localeVariables
  have same : names = asked := (congrArg Prod.snd search.run_resolveLocale).symm
  have cut : locale = withoutCodeset (told.getD defaultLocale) := search.resolveLocale_eq
  rw [same] at search
  have inOrder : asked <+: localeVariables := search.asked_prefix
  have different : localeVariables.Nodup := by decide
  -- Neither the default nor a value that was found is empty.
  have filled : told.getD defaultLocale ≠ "" := by
    cases told with
    | none => decide
    | some value => exact search.filled
  refine ⟨fst_run_resolveLocale lookup [], inOrder, different.sublist inOrder.sublist,
    ⟨told, _, search, rfl, ?_, ?_⟩, ?_, ?_⟩
  · rw [cut]
    exact eq_withoutCodeset_or _
  · rw [cut]
    exact withoutCodeset_eq_empty_iff filled
  · rw [cut]
    exact dot_notMem_withoutCodeset _
  · -- The other search is the same, and so is what comes of it.
    intro other agree
    have again := search.of_agree agree
    refine ⟨again.resolveLocale_eq.trans cut.symm, ?_⟩
    rw [again.run_resolveLocale]

/-- A value that starts with its codeset wins over later variables, and leaves nothing. -/
example :
    (resolveLocale (asking fun name =>
      [("LANG", ""), ("LC_ALL", ".UTF-8"), ("LC_CTYPE", "de_DE")].lookup name)).run [] =
      ("", ["LANG", "LANGUAGE", "LC_ALL"]) :=
  rfl

end Phrasebook
