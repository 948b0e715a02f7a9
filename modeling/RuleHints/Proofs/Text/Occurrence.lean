import RuleHints.Text.Basic

/-!
# Occurrences of a text in another

The search gives the first place at which a needle occurs, and gives none exactly if it occurs nowhere.
Where a text is continued with a character that the needle does not have, an occurrence lies in one of
the two parts.
-/

namespace RuleHints.Text

theorem occurs_iff {needle t : Text} : occurs needle t = true ↔ needle <:+: t := by
  induction t with
  | nil => cases needle <;> simp [occurs, occursAt?]
  | cons c t ih =>
    rw [List.infix_cons_iff, ← ih, ← List.isPrefixOf_iff_prefix]
    by_cases hstart : needle.isPrefixOf (c :: t) = true
    · simp [occurs, occursAt?, startsWith, hstart]
    · simp [occurs, occursAt?, startsWith, hstart]

/-! ### The first occurrence -/

/-- The needle stands in `t` behind `before`, and nowhere earlier. -/
structure OccursFirst (needle t before : Text) : Prop where
  occurs : before ++ needle <+: t
  first : ∀ other, other ++ needle <+: t → before <+: other

theorem OccursFirst.unique {needle t before other : Text} (h : OccursFirst needle t before)
    (h' : OccursFirst needle t other) : before = other := by
  have hle : before <+: other := h.first other h'.occurs
  have hge : other <+: before := h'.first before h.occurs
  exact hle.eq_of_length_le hge.length_le

theorem OccursFirst.isInfix {needle t before : Text} (h : OccursFirst needle t before) :
    needle <:+: t := by
  obtain ⟨rest, hrest⟩ := h.occurs
  exact ⟨before, rest, hrest⟩

theorem exists_occursFirst {needle t : Text} {column : Nat} (h : occursAt? needle t = some column) :
    ∃ before, before.length = column ∧ OccursFirst needle t before := by
  induction t generalizing column with
  | nil =>
    simp only [occursAt?] at h
    split at h
    · next hempty =>
      cases h
      rw [List.isEmpty_iff.1 hempty]
      exact ⟨[], rfl, List.nil_prefix, fun _ _ => List.nil_prefix⟩
    · cases h
  | cons c t ih =>
    simp only [occursAt?] at h
    split at h
    · next hstart =>
      cases h
      exact ⟨[], rfl, List.isPrefixOf_iff_prefix.1 hstart, fun _ _ => List.nil_prefix⟩
    · next hstart =>
      obtain ⟨column', hcolumn, rfl⟩ := Option.map_eq_some_iff.1 h
      obtain ⟨before, hlength, hbefore⟩ := ih hcolumn
      refine ⟨c :: before, by rw [List.length_cons, hlength], ?_, ?_⟩
      · rw [List.cons_append, List.prefix_cons_inj]
        exact hbefore.occurs
      · intro other hother
        cases other with
        | nil => exact absurd (List.isPrefixOf_iff_prefix.2 hother) hstart
        | cons d other =>
          obtain ⟨rfl, hrest⟩ := List.cons_prefix_cons.1 hother
          rw [List.prefix_cons_inj]
          exact hbefore.first other hrest

theorem occursAt?_bound {needle t : Text} {column : Nat} (h : occursAt? needle t = some column) :
    column + needle.length ≤ t.length := by
  obtain ⟨before, rfl, hbefore⟩ := exists_occursFirst h
  rw [← List.length_append]
  exact hbefore.occurs.length_le

theorem occursFrom?_bound {needle t : Text} {start column : Nat}
    (h : occursFrom? needle t start = some column) :
    start ≤ column ∧ column + needle.length ≤ t.length := by
  unfold occursFrom? at h
  split at h
  · next hstart =>
    obtain ⟨offset, hoffset, rfl⟩ := Option.map_eq_some_iff.1 h
    have hbound := occursAt?_bound hoffset
    rw [List.length_drop] at hbound
    omega
  · cases h

/-! ### Texts put together -/

/- A needle that does not hold the next character cannot reach over the end of a text. -/
theorem startsWith_append {needle rest : Text} (s : Text) (hrest : ∀ c ∈ rest.head?, c ∉ needle) :
    startsWith needle (s ++ rest) = startsWith needle s := by
  unfold startsWith
  induction s generalizing needle with
  | nil =>
    cases needle with
    | nil => rfl
    | cons a needle =>
      cases rest with
      | nil => rfl
      | cons c rest =>
        have hne : a ≠ c := fun heq => hrest c rfl (heq ▸ List.mem_cons_self)
        rw [List.nil_append, List.isPrefixOf_cons_cons, beq_false_of_ne hne]
        rfl
  | cons c s ih =>
    cases needle with
    | nil => rfl
    | cons a needle =>
      have htail := ih fun d hd hmem => hrest d hd (List.mem_cons_of_mem a hmem)
      simp only [List.cons_append, List.isPrefixOf_cons_cons, htail]

theorem occursAt?_append {needle rest : Text} (s : Text) (hne : needle ≠ [])
    (hrest : ∀ c ∈ rest.head?, c ∉ needle) :
    occursAt? needle (s ++ rest) =
      (occursAt? needle s).or ((occursAt? needle rest).map (s.length + ·)) := by
  induction s with
  | nil =>
    have hempty : occursAt? needle [] = none := by simp [occursAt?, hne]
    simp [hempty]
  | cons c s ih =>
    have hstart := startsWith_append (c :: s) hrest
    rw [List.cons_append] at hstart
    rw [List.cons_append, occursAt?, occursAt?, hstart, ih]
    split
    · rfl
    · rw [Option.map_or, Option.map_map]
      congr 2
      funext k
      simp only [Function.comp_apply, List.length_cons]
      omega

theorem occursFrom?_append {needle head rest : Text} {start : Nat} (hne : needle ≠ [])
    (hrest : ∀ c ∈ rest.head?, c ∉ needle) (hstart : start ≤ head.length) :
    occursFrom? needle (head ++ rest) start =
      (occursFrom? needle head start).or ((occursAt? needle rest).map (head.length + ·)) := by
  have hline : start ≤ (head ++ rest).length := by
    rw [List.length_append]
    omega
  rw [occursFrom?, occursFrom?, if_pos hline, if_pos hstart, List.drop_append_of_le_length hstart,
    occursAt?_append _ hne hrest, Option.map_or, Option.map_map]
  congr 2
  funext k
  simp only [Function.comp_apply, List.length_drop]
  omega

end RuleHints.Text
