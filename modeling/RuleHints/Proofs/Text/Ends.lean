import Mathlib.Data.List.Basic
import RuleHints.Text.Blank

/-!
# The ends of text

What is left of text without a lead, a tail, its first bytes or the blanks around it. `LeadTaken` and
`TailTaken` say this without the functions, and trimmed text is text that trimming leaves as it is.
-/

namespace RuleHints.Text

/-! ### Leads and tails -/

theorem dropLead?_eq_some {lead t rest : Text} :
    dropLead? lead t = some rest ↔ t = lead ++ rest := by
  rw [dropLead?, List.isPrefixOf?_eq_some_iff_append_eq, eq_comm]

theorem dropLead?_eq_none {lead t : Text} (h : ∀ rest, t ≠ lead ++ rest) :
    dropLead? lead t = none := by
  cases hd : dropLead? lead t with
  | none => rfl
  | some rest => exact absurd (dropLead?_eq_some.1 hd) (h rest)

theorem dropLead?_of_not_startsWith {lead t : Text} (h : startsWith lead t = false) :
    dropLead? lead t = none := by
  refine dropLead?_eq_none ?_
  rintro rest rfl
  exact Bool.noConfusion (h.symm.trans (List.isPrefixOf_iff_prefix.2 (List.prefix_append lead rest)))

/-- `rest` is `t` without one `lead` at its beginning, if it has one there. -/
def LeadTaken (lead t rest : Text) : Prop := t = lead ++ rest ∨ ¬lead <+: t ∧ rest = t

/-- `rest` is `t` without one `tail` at its end, if it has one there. -/
def TailTaken (tail t rest : Text) : Prop := t = rest ++ tail ∨ ¬tail <:+ t ∧ rest = t

theorem dropLead_append (lead t : Text) : dropLead lead (lead ++ t) = t := by
  rw [dropLead, dropLead?_eq_some.2 rfl]
  rfl

theorem dropLead_of_not_begins {lead t : Text} (h : ¬lead <+: t) : dropLead lead t = t := by
  rw [dropLead, dropLead?_eq_none]
  · rfl
  · rintro rest rfl
    exact h (List.prefix_append ..)

theorem dropLead_of_not_mem {lead t : Text} {c : Char} (hl : c ∈ lead) (ht : c ∉ t) :
    dropLead lead t = t :=
  dropLead_of_not_begins fun hbegins => ht (hbegins.subset hl)

theorem dropLead_isSuffix (lead t : Text) : dropLead lead t <:+ t := by
  rw [dropLead]
  cases hd : dropLead? lead t with
  | none => exact List.suffix_refl t
  | some rest => exact ⟨lead, (dropLead?_eq_some.1 hd).symm⟩

theorem leadTaken_iff {lead t rest : Text} : LeadTaken lead t rest ↔ rest = dropLead lead t := by
  constructor
  · rintro (rfl | ⟨hnot, rfl⟩)
    · exact (dropLead_append lead rest).symm
    · exact (dropLead_of_not_begins hnot).symm
  · rintro rfl
    by_cases hbegins : lead <+: t
    · obtain ⟨rest, rfl⟩ := hbegins
      rw [dropLead_append]
      exact Or.inl rfl
    · exact Or.inr ⟨hbegins, dropLead_of_not_begins hbegins⟩

theorem dropTail_append (t tail : Text) : dropTail tail (t ++ tail) = t := by
  rw [dropTail, dropTail?, List.isSuffixOf?_eq_some_iff_append_eq.2 rfl]
  rfl

theorem dropTail_of_not_ends {tail t : Text} (h : ¬tail <:+ t) : dropTail tail t = t := by
  rw [dropTail]
  cases hd : dropTail? tail t with
  | none => rfl
  | some rest => exact absurd ⟨rest, List.isSuffixOf?_eq_some_iff_append_eq.1 hd⟩ h

theorem dropTail_of_not_mem {tail t : Text} {c : Char} (hl : c ∈ tail) (ht : c ∉ t) :
    dropTail tail t = t :=
  dropTail_of_not_ends fun hends => ht (hends.subset hl)

theorem tailTaken_iff {tail t rest : Text} : TailTaken tail t rest ↔ rest = dropTail tail t := by
  constructor
  · rintro (rfl | ⟨hnot, rfl⟩)
    · exact (dropTail_append rest tail).symm
    · exact (dropTail_of_not_ends hnot).symm
  · rintro rfl
    by_cases hends : tail <:+ t
    · obtain ⟨rest, rfl⟩ := hends
      rw [dropTail_append]
      exact Or.inl rfl
    · exact Or.inr ⟨hends, dropTail_of_not_ends hends⟩

theorem dropBytes?_eq_some {n : Nat} {t rest : Text} :
    dropBytes? n t = some rest ↔ ∃ skipped, byteSize skipped = n ∧ t = skipped ++ rest := by
  induction t generalizing n with
  | nil =>
    cases n with
    | zero =>
      constructor
      · intro h
        cases h
        exact ⟨[], rfl, rfl⟩
      · rintro ⟨skipped, _, heq⟩
        rw [(List.append_eq_nil_iff.1 heq.symm).2]
        rfl
    | succ n =>
      constructor
      · intro h
        cases h
      · rintro ⟨skipped, hsize, heq⟩
        rw [(List.append_eq_nil_iff.1 heq.symm).1] at hsize
        cases hsize
  | cons c t ih =>
    have hpos := c.utf8Size_pos
    cases n with
    | zero =>
      constructor
      · intro h
        cases h
        exact ⟨[], rfl, rfl⟩
      · rintro ⟨skipped, hsize, heq⟩
        cases skipped with
        | nil => simp [dropBytes?, heq]
        | cons a skipped =>
          have hfirst := a.utf8Size_pos
          simp only [byteSize] at hsize
          omega
    | succ n =>
      simp only [dropBytes?]
      constructor
      · intro h
        split at h
        · obtain ⟨skipped, hsize, rfl⟩ := ih.1 h
          refine ⟨c :: skipped, ?_, rfl⟩
          simp only [byteSize]
          omega
        · cases h
      · rintro ⟨skipped, hsize, heq⟩
        cases skipped with
        | nil => cases hsize
        | cons a skipped =>
          cases heq
          simp only [byteSize] at hsize
          rw [if_pos (by omega)]
          exact ih.2 ⟨skipped, by omega, rfl⟩

/-! ### Blanks -/

/-- No blank at either end. -/
def IsTrimmed (t : Text) : Prop :=
  (∀ c ∈ t.head?, isBlank c = false) ∧ ∀ c ∈ t.getLast?, isBlank c = false

theorem head?_trimStart (t : Text) : ∀ c ∈ (trimStart t).head?, isBlank c = false := by
  intro c hc
  have h := List.head?_dropWhile_not isBlank t
  rw [trimStart] at hc
  rw [Option.mem_def.1 hc] at h
  simpa using h

theorem trimEnd_isPrefix (t : Text) : trimEnd t <+: t := by
  have h : t.reverse.dropWhile isBlank <:+ t.reverse := List.dropWhile_suffix isBlank
  rw [← List.reverse_prefix] at h
  simpa [trimEnd] using h

theorem trim_isTrimmed (t : Text) : IsTrimmed (trim t) := by
  constructor
  · intro c hc
    -- What is left at the end keeps the first character, if anything is left.
    obtain ⟨rest, hrest⟩ := trimEnd_isPrefix (trimStart t)
    cases htrim : trim t with
    | nil => simp [htrim] at hc
    | cons first tail =>
      rw [htrim] at hc
      have hstart : trimStart t = first :: (tail ++ rest) := by
        rw [← hrest]
        change trim t ++ rest = _
        rw [htrim, List.cons_append]
      have hfirst := head?_trimStart t
      rw [hstart] at hfirst
      exact hfirst c hc
  · intro c hc
    have hlast := head?_trimStart (trimStart t).reverse
    apply hlast
    simpa [trim, trimEnd, trimStart] using hc

theorem dropWhile_isBlank_of_head? {t : Text} (h : ∀ c ∈ t.head?, isBlank c = false) :
    t.dropWhile isBlank = t := by
  cases t with
  | nil => rfl
  | cons c t => exact List.dropWhile_cons_of_neg (by simp [h c rfl])

theorem IsTrimmed.trim_eq {t : Text} (h : IsTrimmed t) : trim t = t := by
  have hstart : trimStart t = t := dropWhile_isBlank_of_head? h.1
  have hend : t.reverse.dropWhile isBlank = t.reverse := by
    apply dropWhile_isBlank_of_head?
    rw [List.head?_reverse]
    exact h.2
  rw [trim, hstart, trimEnd, hend, List.reverse_reverse]

theorem trim_trim (t : Text) : trim (trim t) = trim t := (trim_isTrimmed t).trim_eq

theorem trim_isInfix (t : Text) : trim t <:+: t :=
  (trimEnd_isPrefix _).isInfix.trans (List.dropWhile_suffix isBlank).isInfix

theorem isTrimmed_iff {t : Text} :
    IsTrimmed t ↔ (∀ c, isBlank c = true → ¬[c] <+: t) ∧ ∀ c, isBlank c = true → ¬[c] <:+ t := by
  simp only [IsTrimmed, List.singleton_prefix_iff_head?_eq_some,
    List.singleton_suffix_iff_getLast?_eq_some, Option.mem_def, ← Bool.not_eq_true]
  constructor
  · rintro ⟨hhead, hlast⟩
    exact ⟨fun c hc hmem => hhead c hmem hc, fun c hc hmem => hlast c hmem hc⟩
  · rintro ⟨hhead, hlast⟩
    exact ⟨fun c hmem hc => hhead c hc hmem, fun c hmem hc => hlast c hc hmem⟩

end RuleHints.Text
