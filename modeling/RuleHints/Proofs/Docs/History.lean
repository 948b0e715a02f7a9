import Mathlib.Data.List.TakeWhile
import RuleHints.Proofs.Docs.Merging

/-!
# The history of a corpus

Everything that is done to a corpus is a sequence of insertions. `History` keeps the log of what was put
in: by an insertion, by starting again from a registry, and by the merge of a tree, also of one that
fails half way. The corpus is its log, whatever the order of the actions.
-/

namespace RuleHints.Corpus

/-! ### The log of a merge -/

/-- The entries that are put in one after the other: those that find no page with a body. -/
def accepted (corpus : Corpus) : List (Text × Page) → List (Text × Page)
  | [] => []
  | entry :: entries =>
    if (corpus.pages.get? entry.1).any Page.hasBody then accepted corpus entries
    else entry :: accepted (corpus.insert entry.1 entry.2) entries

theorem insertNested_eq (corpus : Corpus) (entry : Text × Page) :
    corpus.insertNested entry =
      if (corpus.pages.get? entry.1).any Page.hasBody then corpus
      else corpus.insert entry.1 entry.2 := by
  rw [insertNested]
  cases corpus.pages.get? entry.1 with
  | none => rfl
  | some page => by_cases h : page.body.isEmpty = true <;> simp [Page.hasBody, h]

theorem foldl_insertNested (corpus : Corpus) (entries : List (Text × Page)) :
    entries.foldl insertNested corpus = corpus.insertAll (accepted corpus entries) := by
  induction entries generalizing corpus with
  | nil => rfl
  | cons entry entries ih =>
    rw [List.foldl_cons, insertNested_eq, accepted]
    split
    · exact ih corpus
    · rw [insertAll_cons, ih]

theorem accepted_sublist (corpus : Corpus) (entries : List (Text × Page)) :
    (accepted corpus entries).Sublist entries := by
  induction entries generalizing corpus with
  | nil => exact List.Sublist.slnil
  | cons entry entries ih =>
    rw [accepted]
    split
    · exact (ih corpus).cons entry
    · exact (ih _).cons_cons entry

/-- What a merge of files puts in: the pages at the top up to the first one that is not text, and, if
there is none such, the pages further down that are accepted. -/
def mergeLog (corpus : Corpus) (base : Text) (files : List File) : List (Text × Page) :=
  let top := topEntries base (files.takeWhile fun file => !isBroken file)
  if files.any isBroken then top
  else top ++ accepted (corpus.insertAll top) (nestedEntries base files)

theorem mergeFiles_eq_insertAll (corpus : Corpus) (base : Text) (files : List File) :
    (corpus.mergeFiles base files).1 = corpus.insertAll (corpus.mergeLog base files) := by
  rcases readable_or_broken files with h | ⟨before, file, later, rfl, hbefore, hfile⟩
  · have hany : files.any isBroken = false := by simpa using h
    have hall : files.takeWhile (fun file => !isBroken file) = files := by
      rw [List.takeWhile_eq_self_iff]
      simpa using h
    rw [mergeFiles_readable h, foldl_insertNested, mergeLog, hany, hall, ← insertAll_append]
    rfl
  · have hany : (before ++ file :: later).any isBroken = true := by simp [hfile]
    have hall : (before ++ file :: later).takeWhile (fun file => !isBroken file) = before := by
      rw [List.takeWhile_append_of_pos (by simpa using hbefore),
        List.takeWhile_cons_of_neg (by simp [hfile]), List.append_nil]
    rw [mergeFiles_broken hbefore hfile, mergeLog, hany, hall]
    rfl

theorem mem_mergeLog {corpus : Corpus} {base : Text} {files : List File} {entry : Text × Page}
    (h : entry ∈ corpus.mergeLog base files) : ∃ file ∈ files, held? base file = some entry := by
  have htop : entry ∈ topEntries base (files.takeWhile fun file => !isBroken file) →
      ∃ file ∈ files, held? base file = some entry := by
    intro hmem
    obtain ⟨file, hfile, hentry⟩ := List.mem_filterMap.1 hmem
    exact ⟨file, List.takeWhile_subset _ (List.mem_filter.1 hfile).1, hentry⟩
  rw [mergeLog] at h
  split at h
  · exact htop h
  · rcases List.mem_append.1 h with hmem | hmem
    · exact htop hmem
    · obtain ⟨file, hfile, hentry⟩ := List.mem_filterMap.1 ((accepted_sublist ..).subset hmem)
      exact ⟨file, (List.mem_filter.1 hfile).1, hentry⟩

/-- What a merge of a tree puts in. -/
def treeLog (corpus : Corpus) (tree : FileTree) (directory base : Text) : List (Text × Page) :=
  match tree.directory? directory with
  | some path => corpus.mergeLog base (tree.below path)
  | none => []

theorem merge_eq_insertAll (corpus : Corpus) (tree : FileTree) (directory base : Text) :
    (corpus.merge tree directory base).1 =
      corpus.insertAll (corpus.treeLog tree directory base) := by
  rw [merge, treeLog]
  cases tree.directory? directory with
  | none => rfl
  | some path => exact mergeFiles_eq_insertAll corpus base (tree.below path)

/-! ### Histories -/

/-- What can be done to a corpus. -/
inductive Action where
  | insert (name : Text) (page : Page)
  /-- Starts again with the pages of a registry. -/
  | registry (registry : Registry) (base : Text)
  | merge (tree : FileTree) (directory base : Text)

/-- A corpus and the log of what was put in, the earliest first. -/
structure History where
  corpus : Corpus := {}
  log : List (Text × Page) := []

def registryLog (registry : Registry) (base : Text) : List (Text × Page) :=
  registry.keywords.map fun name => (name, ⟨protocolUrl base name, []⟩)

theorem ofRegistry_eq_insertAll (registry : Registry) (base : Text) :
    ofRegistry registry base = insertAll {} (registryLog registry base) := by
  rw [ofRegistry, insertAll, registryLog, List.foldl_map]

namespace History

def act (history : History) : Action → History
  | .insert name page => ⟨history.corpus.insert name page, history.log ++ [(name, page)]⟩
  | .registry registry base => ⟨.ofRegistry registry base, registryLog registry base⟩
  | .merge tree directory base =>
    ⟨(history.corpus.merge tree directory base).1,
      history.log ++ history.corpus.treeLog tree directory base⟩

def run (actions : List Action) : History := actions.foldl act {}

theorem act_corpus {history : History} (h : history.corpus = insertAll {} history.log)
    (action : Action) : (history.act action).corpus = insertAll {} (history.act action).log := by
  cases action with
  | insert name page =>
    simp only [act]
    rw [insertAll_concat, ← h]
  | registry registry base => exact ofRegistry_eq_insertAll registry base
  | merge tree directory base =>
    simp only [act]
    rw [insertAll_append, ← h, merge_eq_insertAll]

theorem run_corpus (actions : List Action) :
    (run actions).corpus = insertAll {} (run actions).log := by
  have hfold : ∀ history : History, history.corpus = insertAll {} history.log →
      (actions.foldl act history).corpus = insertAll {} (actions.foldl act history).log := by
    induction actions with
    | nil => exact fun history h => h
    | cons action actions ih => exact fun history h => ih _ (act_corpus h action)
  exact hfold {} rfl

end History

/-- After any history a name finds the page that was put in last under the bare name, else the page that
was put in last under a name with the same lower case, else nothing. So no name of the folded table
lacks a page, and nothing is found exactly if no name that was put in has that lower case. -/
theorem lookup_after_history (actions : List Action) (name : Text) :
    let history := History.run actions
    let bare := ruleName name
    history.corpus = insertAll {} history.log ∧
      history.corpus.lookup? name =
        ((latest? history.log (· = bare)).or
          (latest? history.log (Text.lower · = Text.lower bare))).map (·.2) ∧
      (∀ entry ∈ history.corpus.folded, (history.corpus.pages.get? entry.2).isSome) ∧
      (history.corpus.lookup? name = none ↔
        ∀ entry ∈ history.log, Text.lower entry.1 ≠ Text.lower bare) := by
  intro history bare
  have hcorpus : history.corpus = insertAll {} history.log := History.run_corpus actions
  have hlookup : history.corpus.lookup? name = (found? history.log bare).map (·.2) := by
    rw [hcorpus]
    exact lookup?_insertAll history.log name
  refine ⟨hcorpus, hlookup, ?_, ?_⟩
  · rw [hcorpus]
    exact (sound_insertAll history.log).live
  · rw [hlookup, Option.map_eq_none_iff]
    exact found?_eq_none_iff

end RuleHints.Corpus
