import Mathlib.Data.List.Forall2
import Phrasebook.Proofs.Store.Load
import Phrasebook.Proofs.Substitution

/-! Domains that do not interfere: what is asked of one is answered without regard to the others. -/

namespace Phrasebook

/-- What can be asked of a store: that something is written to it, or what it has. -/
inductive StoreRequest where
  | write (call : StoreCall)
  | get (domain key fallback : String)
  | lookup (domain key : String) (fallback : Option String)
  | keys (domain : String)

/-- What a store answers to a request. -/
inductive StoreAnswer where
  | written (outcome : StoreCall.Outcome)
  | found (outcome : Except Error String)
  | listed (keys : List String)
  deriving DecidableEq

namespace StoreRequest

/-- The domain that a request names. -/
def domain : StoreRequest → String
  | write call => call.domain
  | get domain _ _ => domain
  | lookup domain _ _ => domain
  | keys domain => domain

/-- Two requests that are the same, or that load what is the same content of a file. -/
inductive Alike : StoreRequest → StoreRequest → Prop
  | same (request : StoreRequest) : Alike request request
  | loadFile {first second : FileTree} {path : String} (domain : String) (options : LoadOptions)
      (content : first.read path = second.read path) :
      Alike (write (.loadFile first path domain options))
        (write (.loadFile second path domain options))

/-- Requests that are alike name the same domain. -/
theorem Alike.domain_eq {first second : StoreRequest} (alike : first.Alike second) :
    first.domain = second.domain := by
  cases alike <;> rfl

end StoreRequest

namespace Store

/-- Answers a request, and gives the store that the request leaves. -/
def answer (store : Store) : StoreRequest → StoreAnswer × Store
  | .write call =>
    let (outcome, after) := store.perform call
    (.written outcome, after)
  -- Requests that only read give the store back as it was.
  | .get domain key fallback => (.found (store.get domain key fallback), store)
  | .lookup domain key fallback => (.found (store.lookup domain key fallback), store)
  | .keys domain => (.listed (store.keys domain), store)

/-- Answers requests one after another: each with its answer, and the store that they leave. -/
def answerAll (store : Store) :
    List StoreRequest → List (StoreRequest × StoreAnswer) × Store
  | [] => ([], store)
  | request :: rest =>
    let (answer, next) := store.answer request
    let (later, last) := next.answerAll rest
    -- Each answer is kept with the request that it was given to.
    ((request, answer) :: later, last)

end Store

/-- The requests that name a domain. -/
def requestsTo (domain : String) (requests : List StoreRequest) : List StoreRequest :=
  requests.filter (·.domain = domain)

/-- The answers to those requests that name a domain. -/
def answersFor (domain : String) (answered : List (StoreRequest × StoreAnswer)) :
    List StoreAnswer :=
  (answered.filter (·.1.domain = domain)).map Prod.snd

namespace Store

variable {store other : Store} {domain : String}

/-- A request leaves the domains that it does not name as they are. -/
theorem table?_answer_of_ne {request : StoreRequest} (elsewhere : request.domain ≠ domain) :
    (store.answer request).2.table? domain = store.table? domain := by
  -- Only calls that write leave another store, and they change the one table.
  cases request with
  | write call =>
    show (store.perform call).2.table? domain = store.table? domain
    rcases store.perform_cases call with ⟨_, after⟩ | ⟨_, after⟩
    · rw [after, table?_changeTable]
      exact if_neg elsewhere
    · rw [after]
  | get => rfl
  | lookup => rfl
  | keys => rfl

section SameTable

variable (same : store.table? domain = other.table? domain)

include same

/-- A change to a table comes to the same wherever the table is the same. -/
theorem table?_changeTable_congr (change : Table → Table) :
    (store.changeTable domain change).table? domain =
      (other.changeTable domain change).table? domain := by
  simp only [table?_changeTable, if_true, same]

/-- A domain is known if it has a table. -/
theorem containsDomain_congr : store.containsDomain domain = other.containsDomain domain := by
  -- The tree map contains a name exactly if it holds a table for it.
  simp only [containsDomain, Std.ExtTreeMap.contains_eq_isSome_getElem?]
  exact congrArg Option.isSome same

/-- The keys of a domain are read off its table. -/
theorem keys_congr : store.keys domain = other.keys domain := by
  rw [keys, keys, same]

/-- To look up a message takes no more than the table of the domain. -/
theorem lookup_congr (key : String) (fallback : Option String) :
    store.lookup domain key fallback = other.lookup domain key fallback := by
  rw [lookup, lookup, requireTable, requireTable, same]

/-- To get a message takes no more than the table of the domain. -/
theorem get_congr (key fallback : String) :
    store.get domain key fallback = other.get domain key fallback := by
  rw [get, get, lookup_congr same, requireTable, requireTable, same]

/-- To substitute takes no more than the table of the domain. -/
theorem substitute_congr (text : String) :
    store.substitute domain text = other.substitute domain text := by
  rw [substitute_eq_getD, substitute_eq_getD, same]

/-- A load refuses the same record and leaves the same table wherever the table is the same. -/
theorem load_congr (map : LanguageMap) (source : String) (options : LoadOptions) :
    (store.load map source domain options).1 = (other.load map source domain options).1 ∧
      (store.load map source domain options).2.table? domain =
        (other.load map source domain options).2.table? domain := by
  -- Which record is refused depends on the keys that the domain has.
  have refused : store.refusedRecord? domain options map.records =
      other.refusedRecord? domain options map.records := by
    rw [refusedRecord?, refusedRecord?, keys_congr same]
  unfold load
  rw [refused]
  cases other.refusedRecord? domain options map.records with
  | some record => exact ⟨rfl, same⟩
  | none => exact ⟨rfl, table?_changeTable_congr same _⟩

/-- A file is loaded alike wherever the table is the same and the same bytes are read. -/
theorem loadFile_congr {first second : FileTree} {path : String}
    (content : first.read path = second.read path) (options : LoadOptions) :
    (store.loadFile first path domain options).1 =
        (other.loadFile second path domain options).1 ∧
      (store.loadFile first path domain options).2.table? domain =
        (other.loadFile second path domain options).2.table? domain := by
  -- What is read is loaded as a text, and a failure to read leaves the table as it is.
  rw [loadFile_eq, loadFile_eq, FileTree.readText_congr content]
  cases second.readText path with
  | error error => exact ⟨rfl, same⟩
  | ok text => exact load_congr same (.ofText text) path options

/-- A call tells the same and leaves the same table wherever the table of its domain is the same. -/
theorem perform_congr {call : StoreCall} (named : call.domain = domain) :
    (store.perform call).1 = (other.perform call).1 ∧
      (store.perform call).2.table? domain = (other.perform call).2.table? domain := by
  -- All loads come down to one, and an insertion is a change to the one table.
  subst named
  cases call with
  | loadText text source domain options =>
    obtain ⟨result, table⟩ := load_congr same (.ofText text) source options
    exact ⟨congrArg StoreCall.Outcome.loaded result, table⟩
  | loadMap map source domain options =>
    obtain ⟨result, table⟩ := load_congr same map source options
    exact ⟨congrArg StoreCall.Outcome.loaded result, table⟩
  | loadFile files path domain options =>
    obtain ⟨result, table⟩ := loadFile_congr same (rfl : files.read path = _) options
    exact ⟨congrArg StoreCall.Outcome.loaded result, table⟩
  | insert domain key message => exact ⟨rfl, table?_changeTable_congr same _⟩

/-- Requests that are alike are answered alike wherever the table of their domain is the same. -/
theorem answer_congr {first second : StoreRequest} (alike : first.Alike second)
    (named : first.domain = domain) :
    (store.answer first).1 = (other.answer second).1 ∧
      (store.answer first).2.table? domain = (other.answer second).2.table? domain := by
  -- Only loads of a file can be alike without being the same.
  subst named
  cases alike with
  | loadFile domain options content =>
    obtain ⟨result, table⟩ := loadFile_congr same content options
    exact ⟨congrArg (StoreAnswer.written ∘ StoreCall.Outcome.loaded) result, table⟩
  | same =>
    -- What reads leaves the store as it is, and what it tells is read off the one table.
    cases first with
    | write call =>
      obtain ⟨outcome, table⟩ := perform_congr same (rfl : call.domain = _)
      exact ⟨congrArg StoreAnswer.written outcome, table⟩
    | get domain key fallback => exact ⟨congrArg StoreAnswer.found (get_congr same _ _), same⟩
    | lookup domain key fallback =>
      exact ⟨congrArg StoreAnswer.found (lookup_congr same _ _), same⟩
    | keys domain => exact ⟨congrArg StoreAnswer.listed (keys_congr same), same⟩

end SameTable

/-- A domain fares as if nothing had been asked of any other. -/
theorem answerAll_requestsTo (same : store.table? domain = other.table? domain)
    (requests : List StoreRequest) :
    answersFor domain (store.answerAll requests).1 =
        answersFor domain (other.answerAll (requestsTo domain requests)).1 ∧
      (store.answerAll requests).2.table? domain =
        (other.answerAll (requestsTo domain requests)).2.table? domain := by
  -- The induction is on the requests still to come, from stores that agree on the domain.
  induction requests generalizing store other with
  | nil => exact ⟨rfl, same⟩
  | cons request rest ih =>
    by_cases named : request.domain = domain
    · obtain ⟨answered, table⟩ := answer_congr same (.same request) named
      obtain ⟨later, last⟩ := ih table
      simp only [answersFor, requestsTo] at later last ⊢
      simp [answerAll, named, answered, later, last]
    · -- The request is left out on the other side, and changes nothing on this one.
      obtain ⟨later, last⟩ := ih ((table?_answer_of_ne named).trans same)
      simp only [answersFor, requestsTo] at later last ⊢
      simp [answerAll, named, later, last]

/-- Requests to a domain that are alike are answered alike from stores that agree on it. -/
theorem answerAll_alike {first second : List StoreRequest}
    (alike : List.Forall₂ StoreRequest.Alike first second)
    (same : store.table? domain = other.table? domain)
    (named : ∀ request ∈ first, request.domain = domain) :
    answersFor domain (store.answerAll first).1 = answersFor domain (other.answerAll second).1 ∧
      (store.answerAll first).2.table? domain = (other.answerAll second).2.table? domain := by
  -- The induction takes two requests at a time, which leave stores that agree again.
  induction alike generalizing store other with
  | nil => exact ⟨rfl, same⟩
  | @cons one two _ _ head _ ih =>
    have here : one.domain = domain := named one (by simp)
    have there : two.domain = domain := head.domain_eq.symm.trans here
    obtain ⟨answered, table⟩ := answer_congr same head here
    obtain ⟨later, last⟩ := ih table fun request among => named request (by simp [among])
    simp only [answersFor] at later ⊢
    simp [answerAll, here, there, answered, later, last]

/--
What is asked of other domains makes no difference to a domain.

Two runs from the empty store are compared, which ask the same of the domain in the same order.
Each of these requests gets the same answer in both, and the domain ends up the same.
-/
theorem answerAll_other_domains {first second : List StoreRequest}
    (alike : List.Forall₂ StoreRequest.Alike (requestsTo domain first)
      (requestsTo domain second)) :
    let one := Store.empty.answerAll first
    let two := Store.empty.answerAll second
    answersFor domain one.1 = answersFor domain two.1 ∧
    one.2.table? domain = two.2.table? domain ∧
    (∀ text, one.2.substitute domain text = two.2.substitute domain text) ∧
    one.2.containsDomain domain = two.2.containsDomain domain ∧
    (domain ∈ one.2.domains ↔ domain ∈ two.2.domains) := by
  -- Each run is compared with the one that asks only the domain, and these two with each other.
  intro one two
  have named : ∀ request ∈ requestsTo domain first, request.domain = domain := by
    simp [requestsTo]
  obtain ⟨leftAnswers, leftTable⟩ := answerAll_requestsTo (rfl : empty.table? domain = _) first
  obtain ⟨rightAnswers, rightTable⟩ := answerAll_requestsTo (rfl : empty.table? domain = _) second
  obtain ⟨answers, table⟩ := answerAll_alike alike (rfl : empty.table? domain = _) named
  -- All that is asked for in the end is read off the table.
  have same : one.2.table? domain = two.2.table? domain :=
    leftTable.trans (table.trans rightTable.symm)
  refine ⟨leftAnswers.trans (answers.trans rightAnswers.symm), same,
    substitute_congr same, containsDomain_congr same, ?_⟩
  rw [mem_domains_iff, mem_domains_iff, same]

/-- A strict load that fails for a key is not helped by what another domain has. -/
theorem answerAll_strict_load_elsewhere :
    let text := "'''\nHi\n'''\nSalut\n'''\n"
    let files := FileTree.empty.put ["fr.langmap"] (.file (Utf8.encode text))
    let more := files.put ["more.langmap"] (.file [])
    let load := fun files => .write (.loadFile files "fr.langmap" "fr" ⟨true⟩)
    let first : List StoreRequest :=
      [.write (.insert "en" "Hi" "Hello"), load files, .get "fr" "Hi" "", load files]
    let second : List StoreRequest :=
      [load more, .write (.loadText text "inline" "en" ⟨true⟩), .get "fr" "Hi" "",
        .write (.loadText text "inline" "en" ⟨true⟩), load files, .keys "en"]
    let answers : List StoreAnswer :=
      [.written (.loaded (.ok ⟨"fr.langmap", "fr", 1, []⟩)), .found (.ok "Salut"),
        .written (.loaded (.error (.duplicateKey "Hi" 5)))]
    List.Forall₂ StoreRequest.Alike (requestsTo "fr" first) (requestsTo "fr" second) ∧
    answersFor "fr" (Store.empty.answerAll first).1 = answers ∧
    answersFor "fr" (Store.empty.answerAll second).1 = answers := by
  -- The two trees have the same bytes under the path that is loaded.
  intro text files more load first second answers
  have content : files.read "fr.langmap" = more.read "fr.langmap" := by decide +kernel
  have alike : List.Forall₂ StoreRequest.Alike (requestsTo "fr" first)
      (requestsTo "fr" second) :=
    .cons (.loadFile "fr" ⟨true⟩ content) (.cons (.same _) (.cons (.same _) .nil))
  -- The answers of the first run are evaluated, and the second has the same.
  have answered : answersFor "fr" (Store.empty.answerAll first).1 = answers := by
    decide +kernel
  exact ⟨alike, answered, (answerAll_other_domains alike).1.symm.trans answered⟩

end Store

end Phrasebook
