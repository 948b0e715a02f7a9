import Mathlib.Data.List.Induction
import Mathlib.Data.List.Nodup
import RuleHints.Docs.Corpus

/-!
# Corpora as logs of insertions

A corpus that was made by insertions is its log, read from the end. Under a name it has the page that
was put in last under that name, and under a lower case the name that was put in last with it. So
the two tables answer as one: `lookup?_insertAll`.
-/

namespace RuleHints

namespace Table

variable {α : Type}

theorem get?_put (key other : Text) (value : α) (table : Table α) :
    get? key (put other value table) = if other = key then some value else get? key table := by
  split
  · next h => rw [h, get?_put_self]
  · next h => exact get?_put_of_ne h value table

theorem mem_put {key : Text} {value : α} {table : Table α} {entry : Text × α}
    (h : entry ∈ put key value table) : entry = (key, value) ∨ entry ∈ table := by
  induction table with
  | nil => exact Or.inl (List.mem_singleton.1 h)
  | cons first rest ih =>
    simp only [put] at h
    split at h
    · next hkey =>
      rw [hkey] at h
      exact (List.mem_cons.1 h).imp_right (List.mem_cons_of_mem _)
    · rcases List.mem_cons.1 h with rfl | hrest
      · exact Or.inr (List.mem_cons_self ..)
      · exact (ih hrest).imp_right (List.mem_cons_of_mem _)

theorem nodup_put {table : Table α} (h : (table.map (·.1)).Nodup) (key : Text) (value : α) :
    ((put key value table).map (·.1)).Nodup := by
  induction table with
  | nil => exact List.nodup_singleton key
  | cons first rest ih =>
    obtain ⟨hfirst, hrest⟩ := List.nodup_cons.1 h
    simp only [put]
    split
    · exact h
    · next hkey =>
      refine List.nodup_cons.2 ⟨?_, ih hrest⟩
      intro hmem
      obtain ⟨entry, hentry, heq⟩ := List.mem_map.1 hmem
      rcases mem_put hentry with rfl | hold
      · exact hkey heq.symm
      · exact hfirst (List.mem_map.2 ⟨entry, hold, heq⟩)

theorem get?_eq_some_iff {table : Table α} (h : (table.map (·.1)).Nodup) {key : Text} {value : α} :
    get? key table = some value ↔ (key, value) ∈ table := by
  induction table with
  | nil => simp [get?]
  | cons first rest ih =>
    obtain ⟨hfirst, hrest⟩ := List.nodup_cons.1 h
    simp only [get?, List.mem_cons]
    split
    · next hkey =>
      subst hkey
      have habsent : (first.1, value) ∉ rest := fun hmem =>
        hfirst (List.mem_map.2 ⟨_, hmem, rfl⟩)
      simp only [habsent, or_false, Option.some.injEq, Prod.ext_iff, true_and]
      exact eq_comm
    · next hkey =>
      have hother : (key, value) ≠ first := fun heq => hkey (congrArg Prod.fst heq).symm
      simp only [hother, false_or]
      exact ih hrest

/-- The order of the entries of a table does not matter, if each key has one. -/
theorem get?_perm {table other : Table α} (h : (table.map (·.1)).Nodup) (hp : other.Perm table)
    (key : Text) : get? key other = get? key table := by
  have hother : (other.map (·.1)).Nodup := (hp.map _).nodup_iff.2 h
  ext value
  rw [get?_eq_some_iff h, get?_eq_some_iff hother]
  exact hp.mem_iff

end Table

namespace Corpus

/-- The last entry of a log with a name of a kind. -/
def latest? (log : List (Text × Page)) (kind : Text → Bool) : Option (Text × Page) :=
  (log.filter fun entry => kind entry.1).getLast?

theorem latest?_concat (log : List (Text × Page)) (entry : Text × Page) (kind : Text → Bool) :
    latest? (log ++ [entry]) kind = if kind entry.1 then some entry else latest? log kind := by
  cases h : kind entry.1 <;> simp [latest?, List.filter_append, h]

theorem latest?_eq_none_iff {log : List (Text × Page)} {kind : Text → Bool} :
    latest? log kind = none ↔ ∀ entry ∈ log, kind entry.1 = false := by
  simp [latest?]

theorem mem_of_latest? {log : List (Text × Page)} {kind : Text → Bool} {entry : Text × Page}
    (h : latest? log kind = some entry) : entry ∈ log ∧ kind entry.1 = true :=
  List.mem_filter.1 (List.mem_of_getLast? h)

/- The last entry of a wide kind is the last one of every narrower kind that it belongs to. -/
theorem latest?_of_narrower {log : List (Text × Page)} {wide narrow : Text → Bool}
    {entry : Text × Page} (h : latest? log wide = some entry) (hentry : narrow entry.1 = true)
    (hkinds : ∀ name, narrow name = true → wide name = true) :
    latest? log narrow = some entry := by
  induction log using List.reverseRecOn with
  | nil => cases h
  | append_singleton log last ih =>
    rw [latest?_concat] at h ⊢
    by_cases hwide : wide last.1 = true
    · rw [if_pos hwide] at h
      cases h
      rw [if_pos hentry]
    · rw [if_neg hwide] at h
      rw [if_neg (fun hnarrow => hwide (hkinds last.1 hnarrow))]
      exact ih h

/-- Puts pages in, one after the other. -/
def insertAll (corpus : Corpus) (log : List (Text × Page)) : Corpus :=
  log.foldl (fun corpus entry => corpus.insert entry.1 entry.2) corpus

theorem insertAll_cons (corpus : Corpus) (entry : Text × Page) (log : List (Text × Page)) :
    corpus.insertAll (entry :: log) = (corpus.insert entry.1 entry.2).insertAll log := rfl

theorem insertAll_append (corpus : Corpus) (log more : List (Text × Page)) :
    corpus.insertAll (log ++ more) = (corpus.insertAll log).insertAll more :=
  List.foldl_append

theorem insertAll_concat (corpus : Corpus) (log : List (Text × Page)) (entry : Text × Page) :
    corpus.insertAll (log ++ [entry]) = (corpus.insertAll log).insert entry.1 entry.2 :=
  insertAll_append corpus log [entry]

theorem get?_pages_insertAll (corpus : Corpus) (log : List (Text × Page)) (name : Text) :
    (corpus.insertAll log).pages.get? name =
      ((latest? log (· = name)).map (·.2)).or (corpus.pages.get? name) := by
  induction log using List.reverseRecOn with
  | nil => rfl
  | append_singleton log entry ih =>
    rw [insertAll_concat, latest?_concat, insert, Table.get?_put]
    by_cases h : entry.1 = name
    · simp [h]
    · simpa [h] using ih

theorem get?_folded_insertAll (corpus : Corpus) (log : List (Text × Page)) (folded : Text) :
    (corpus.insertAll log).folded.get? folded =
      ((latest? log (Text.lower · = folded)).map (·.1)).or (corpus.folded.get? folded) := by
  induction log using List.reverseRecOn with
  | nil => rfl
  | append_singleton log entry ih =>
    rw [insertAll_concat, latest?_concat, insert, Table.get?_put]
    by_cases h : Text.lower entry.1 = folded
    · simp [h]
    · simpa [h] using ih

/-- What a log says about a name: its last entry of that very name, else its last entry of a name with
the same lower case. -/
def found? (log : List (Text × Page)) (name : Text) : Option (Text × Page) :=
  (latest? log (· = name)).or (latest? log (Text.lower · = Text.lower name))

theorem lookup?_insertAll (log : List (Text × Page)) (name : Text) :
    (insertAll {} log).lookup? name = (found? log (ruleName name)).map (·.2) := by
  have hpages : ∀ key, (insertAll {} log).pages.get? key =
      (latest? log (· = key)).map (·.2) := by
    intro key
    rw [get?_pages_insertAll]
    exact Option.or_none
  have hfolded : ∀ key, (insertAll {} log).folded.get? key =
      (latest? log (Text.lower · = key)).map (·.1) := by
    intro key
    rw [get?_folded_insertAll]
    exact Option.or_none
  simp only [lookup?, found?, hpages, hfolded]
  cases hexact : latest? log (· = ruleName name) with
  | some entry => rfl
  | none =>
    cases hfold : latest? log (Text.lower · = Text.lower (ruleName name)) with
    | none => rfl
    | some entry =>
      -- The name in the folded table is that of the last entry, so its page is the page of that entry.
      have hlast : latest? log (· = entry.1) = some entry := by
        refine latest?_of_narrower hfold (by simp) ?_
        intro other hother
        have hlower := (mem_of_latest? hfold).2
        simp only [decide_eq_true_eq] at hother hlower ⊢
        rw [hother, hlower]
      simp [hlast]

theorem found?_eq_none_iff {log : List (Text × Page)} {name : Text} :
    found? log name = none ↔ ∀ entry ∈ log, Text.lower entry.1 ≠ Text.lower name := by
  rw [found?, Option.or_eq_none_iff, latest?_eq_none_iff, latest?_eq_none_iff]
  simp only [decide_eq_false_iff_not]
  constructor
  · exact fun h => h.2
  · intro h
    exact ⟨fun entry hentry heq => h entry hentry (by rw [heq]), h⟩

/-! ### The tables themselves -/

/-- The two tables have one entry for each key, the names of the folded one have pages, and all pages
come from the log. -/
structure Sound (corpus : Corpus) (log : List (Text × Page)) : Prop where
  pages : (corpus.pages.map (·.1)).Nodup
  folded : (corpus.folded.map (·.1)).Nodup
  live : ∀ entry ∈ corpus.folded, (corpus.pages.get? entry.2).isSome
  logged : ∀ entry ∈ corpus.pages, entry ∈ log

theorem Sound.insert {corpus : Corpus} {log : List (Text × Page)} (h : Sound corpus log)
    (name : Text) (page : Page) : Sound (corpus.insert name page) (log ++ [(name, page)]) where
  pages := Table.nodup_put h.pages name page
  folded := Table.nodup_put h.folded (Text.lower name) name
  live entry hentry := by
    rw [Corpus.insert, Table.get?_put]
    split
    · rfl
    · next hname =>
      rcases Table.mem_put hentry with rfl | hold
      · exact absurd rfl hname
      · exact h.live entry hold
  logged entry hentry := by
    rcases Table.mem_put hentry with rfl | hold
    · exact List.mem_append_right _ (List.mem_singleton_self _)
    · exact List.mem_append_left _ (h.logged entry hold)

theorem sound_insertAll (log : List (Text × Page)) : Sound (insertAll {} log) log := by
  induction log using List.reverseRecOn with
  | nil => exact ⟨List.nodup_nil, List.nodup_nil, by simp [insertAll], by simp [insertAll]⟩
  | append_singleton log entry ih =>
    rw [insertAll_concat]
    exact ih.insert entry.1 entry.2

end Corpus

end RuleHints
