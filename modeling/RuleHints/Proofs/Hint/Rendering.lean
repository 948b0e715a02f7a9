import RuleHints.Hint.Session
import RuleHints.Proofs.Text.Ends

/-!
# Rendered sets of hints

Each hint that is added brings one candidate and one entry of help under the same name, and a name
that is there already is refused. So the names of the candidates differ, they are the names of the
help, and every candidate shows its name and inserts a trimmed text after the protocol or variable.
-/

namespace RuleHints

namespace HintContext

variable (context : HintContext)

theorem helpRef_candidate (hint : RawHint) :
    (context.candidate hint).helpRef = context.key hint := by
  unfold candidate
  simp only
  split
  · simp only [Candidate.withDisplay]
    split <;> rfl
  · rfl

theorem insertText_candidate (hint : RawHint) :
    (context.candidate hint).insertText = context.rendered hint := by
  unfold candidate
  simp only
  split
  · simp only [Candidate.withDisplay]
    split <;> rfl
  · rfl

theorem display_candidate (hint : RawHint) :
    (context.candidate hint).display = context.key hint := by
  cases hl : label? hint with
  | none => simp [candidate, key, hl, Candidate.display, Candidate.withHelpRef, Candidate.ofText]
  | some label =>
    by_cases hsame : label = context.rendered hint <;>
      simp [candidate, key, hl, Candidate.display, Candidate.withDisplay, Candidate.withHelpRef,
        Candidate.ofText, hsame]

end HintContext

theorem HintSet.isSome_help? (set : HintSet) (name : Text) :
    (set.help? name).isSome = true ↔ name ∈ set.help.map (·.1) := by
  simp [HintSet.help?, List.find?_isSome]

namespace HintContext

variable (context : HintContext)

/-- The help that a hint brings, under its key. -/
def entry (hint : RawHint) : Text × Text :=
  (context.key hint, context.plugin.helpFor hint.help context.index)

/- What the hints that were not refused have left. -/
structure Holds (set : HintSet) (kept : List RawHint) : Prop where
  candidates : set.candidates = kept.map context.candidate
  help : set.help = kept.map context.entry
  distinct : (kept.map context.key).Nodup
  short : ∀ hint ∈ kept, (context.rendered hint).length < context.maxLength

/-- The hint is added to those that are kept: there is room for it, it is short, and its key is new. -/
def Accepts (kept : List RawHint) (hint : RawHint) : Prop :=
  kept.length < context.limits.candidates ∧ (context.rendered hint).length < context.maxLength ∧
    context.key hint ∉ kept.map context.key

instance (kept : List RawHint) (hint : RawHint) : Decidable (context.Accepts kept hint) :=
  inferInstanceAs (Decidable (_ ∧ _ ∧ _))

theorem push?_eq_some {context : HintContext} {set set' : HintSet} {hint : RawHint}
    (h : context.push? set hint = some set') :
    set'.candidates = set.candidates ++ [context.candidate hint] ∧
      set'.help = set.help ++ [context.entry hint] := by
  unfold push? at h
  split at h
  · cases h
  · split at h
    · cases h
    · split at h
      · cases h
      · cases h
        exact ⟨rfl, rfl⟩

theorem holds_empty : context.Holds {} [] := ⟨rfl, rfl, List.nodup_nil, by simp⟩

section

variable {context : HintContext} {set : HintSet} {kept : List RawHint}

theorem Holds.helpRefs (h : context.Holds set kept) :
    set.candidates.map (·.helpRef) = kept.map context.key := by
  simp [h.candidates, Function.comp_def, helpRef_candidate]

theorem Holds.names (h : context.Holds set kept) :
    set.help.map (·.1) = set.candidates.map (·.helpRef) := by
  rw [h.helpRefs]
  simp [h.help, Function.comp_def, entry]

theorem Holds.isSome_push? (h : context.Holds set kept) (hint : RawHint) :
    (context.push? set hint).isSome = true ↔ context.Accepts kept hint := by
  have hfull : context.isFull set = true ↔ ¬kept.length < context.limits.candidates := by
    rw [isFull, decide_eq_true_eq, h.candidates, List.length_map, Nat.not_lt]
  have hkey : (set.help? (context.key hint)).isSome = true ↔ context.key hint ∈ kept.map context.key := by
    rw [set.isSome_help?, h.names, h.helpRefs]
  simp only [push?, Accepts]
  split
  · next hnone => simp [hfull.1 hnone]
  · next hroom =>
    split
    · next hlong => simp [Nat.not_lt.2 hlong]
    · next hshort =>
      split
      · next hold => simp [hkey.1 hold]
      · next hnew =>
        refine iff_of_true rfl ⟨?_, Nat.lt_of_not_le hshort, fun hmem => hnew (hkey.2 hmem)⟩
        exact Decidable.of_not_not fun hno => hroom (hfull.2 hno)

theorem Holds.push_of_not_accepts (h : context.Holds set kept) {hint : RawHint}
    (hrefused : ¬context.Accepts kept hint) : context.push set hint = set := by
  rw [← h.isSome_push? hint, Option.not_isSome_iff_eq_none] at hrefused
  rw [HintContext.push, hrefused, Option.getD_none]

/- One push of a renderer: the hint is kept if it is accepted, and nothing happens if it is not. -/
theorem Holds.push (h : context.Holds set kept) (hint : RawHint) :
    context.Holds (context.push set hint) (kept ++ if context.Accepts kept hint then [hint] else []) := by
  by_cases haccepts : context.Accepts kept hint
  · obtain ⟨set', hset⟩ := Option.isSome_iff_exists.1 ((h.isSome_push? hint).2 haccepts)
    obtain ⟨hcandidates, hhelp⟩ := push?_eq_some hset
    rw [if_pos haccepts, HintContext.push, hset, Option.getD_some]
    refine ⟨?_, ?_, ?_, ?_⟩
    · rw [hcandidates, h.candidates, List.map_append]
      rfl
    · rw [hhelp, h.help, List.map_append]
      rfl
    · rw [List.map_append, List.nodup_append]
      refine ⟨h.distinct, by simp, ?_⟩
      intro a ha b hb hab
      rw [List.mem_singleton.1 hb] at hab
      exact haccepts.2.2 (hab ▸ ha)
    · intro other hother
      rcases List.mem_append.1 hother with hold | hlast
      · exact h.short other hold
      · rw [List.mem_singleton.1 hlast]
        exact haccepts.2.1
  · rw [if_neg haccepts, h.push_of_not_accepts haccepts, List.append_nil]
    exact h

theorem Holds.foldl (h : context.Holds set kept) (hints : List RawHint) :
    ∃ more, more.Sublist hints ∧ context.Holds (hints.foldl context.push set) (kept ++ more) := by
  induction hints generalizing set kept with
  | nil => exact ⟨[], List.nil_sublist _, by rwa [List.append_nil]⟩
  | cons hint hints ih =>
    obtain ⟨rest, hrest, hall⟩ := ih (h.push hint)
    rw [List.append_assoc] at hall
    refine ⟨_, ?_, hall⟩
    split
    · exact hrest.cons_cons hint
    · exact hrest.cons hint

theorem find?_entry {hint : RawHint} (hdistinct : (kept.map context.key).Nodup)
    (hmem : hint ∈ kept) :
    (kept.map context.entry).find? (·.1 = context.key hint) = some (context.entry hint) := by
  induction kept with
  | nil => cases hmem
  | cons first rest ih =>
    obtain ⟨hfirst, hrest⟩ := List.nodup_cons.1 hdistinct
    rcases List.mem_cons.1 hmem with rfl | hlater
    · simp [entry]
    · have hne : context.key first ≠ context.key hint := by
        intro heq
        exact hfirst (heq ▸ List.mem_map_of_mem hlater)
      simpa [entry, hne] using ih hrest hlater

/- Under the name of a candidate stands the help of the hint that it was made from. -/
theorem Holds.help?_candidate (h : context.Holds set kept) {hint : RawHint} (hmem : hint ∈ kept) :
    set.help? (context.candidate hint).helpRef =
      some (context.plugin.helpFor hint.help context.index) := by
  rw [HintSet.help?, helpRef_candidate, h.help, find?_entry h.distinct hmem]
  rfl

end

/-- A rendered set holds some of the hints, in their order. -/
theorem holds_renderAll (hints : List RawHint) :
    ∃ kept, kept.Sublist hints ∧ context.Holds (context.renderAll hints) kept :=
  context.holds_empty.foldl hints

end HintContext

/-! ### Sets for a key -/

/-- What can stand between the protocol or variable of a key and a hint. -/
def HintKey.marks (key : HintKey) : List Text :=
  match key.separator with
  | none => ["://"]
  | some _ => ["=", "."]

/-- The candidates and the help of a set belong together, and to the key. -/
structure HintSet.Coherent (set : HintSet) (key : HintKey) : Prop where
  distinct : (set.candidates.map (·.helpRef)).Nodup
  displayed : ∀ c ∈ set.candidates, c.helpRef = c.display
  helped : ∀ name, (set.help? name).isSome = true ↔ name ∈ set.candidates.map (·.helpRef)
  inserted : ∀ c ∈ set.candidates, ∃ mark ∈ key.marks, ∃ text, Text.IsTrimmed text ∧
    c.insertText = key.protocol ++ mark ++ text
  /-- Both come from one list of hints. -/
  rendered : ∃ (context : HintContext) (hints : List RawHint),
    set.candidates = (context.renderAll hints).candidates ∧
      set.help = (context.renderAll hints).help

theorem HintContext.rendered_mark (context : HintContext) (hint : RawHint) {key : HintKey}
    (hp : context.protocol = key.protocol)
    (hs : context.slot = .value ∧ key.separator = none ∨
      context.slot = .variable ∧ key.separator.isSome = true) :
    ∃ mark ∈ key.marks, ∃ text, Text.IsTrimmed text ∧
      context.rendered hint = key.protocol ++ mark ++ text := by
  have ht := Text.trim_isTrimmed hint.text
  rcases hs with ⟨hslot, hsep⟩ | ⟨hslot, hsep⟩
  · refine ⟨"://", by simp [HintKey.marks, hsep], Text.trim hint.text, ht, ?_⟩
    simp only [rendered, renderHint, hslot, hp]
    rfl
  · obtain ⟨separator, hsome⟩ := Option.isSome_iff_exists.1 hsep
    refine ⟨if hint.isKey then "." else "=", ?_, Text.trim hint.text, ht, ?_⟩
    · cases hint.isKey <;> simp [HintKey.marks, hsome]
    · cases hk : hint.isKey <;> simp [rendered, renderHint, hslot, hp, hk]

theorem HintContext.coherent_renderAll (context : HintContext) (hints : List RawHint)
    (key : HintKey) (hp : context.protocol = key.protocol)
    (hs : context.slot = .value ∧ key.separator = none ∨
      context.slot = .variable ∧ key.separator.isSome = true) :
    (context.renderAll hints).Coherent key := by
  obtain ⟨kept, _, h⟩ := context.holds_renderAll hints
  have made : ∀ c ∈ (context.renderAll hints).candidates, ∃ hint, context.candidate hint = c := by
    intro c hc
    rw [h.candidates] at hc
    obtain ⟨hint, _, heq⟩ := List.mem_map.1 hc
    exact ⟨hint, heq⟩
  refine ⟨h.helpRefs ▸ h.distinct, ?_, ?_, ?_, context, hints, rfl, rfl⟩
  · intro c hc
    obtain ⟨hint, rfl⟩ := made c hc
    rw [helpRef_candidate, display_candidate]
  · intro name
    rw [HintSet.isSome_help?, h.names]
  · intro c hc
    obtain ⟨hint, rfl⟩ := made c hc
    rw [insertText_candidate]
    exact context.rendered_mark hint hp hs

/- Where a hint is inserted has no part in it. -/
theorem HintSet.Coherent.moved {set : HintSet} {key : HintKey} (h : set.Coherent key)
    (position : InsertPosition) (offset : Nat) :
    HintSet.Coherent { set with position, offset } key :=
  ⟨h.distinct, h.displayed, h.helped, h.inserted, h.rendered⟩

end RuleHints
