import RuleHints.Text.Casing

/-!
# The case of ASCII letters

Among ASCII characters the lower case of text is the lower case of each letter, so a text begins a
name in its lower case exactly if the name has no capital letter there.
-/

namespace RuleHints.Text

/-- Only ASCII characters. -/
def IsAscii (t : Text) : Prop := ∀ c ∈ t, c.toNat < 0x80

/-- The text begins the name, whatever the case of ASCII letters in either. -/
def BeginsAnyCase (t name : Text) : Prop := t.map Char.toLower <+: name.map Char.toLower

/-- No ASCII capital letter. -/
def IsUncapital (t : Text) : Prop := ∀ c ∈ t, c.isUpper = false

instance (t : Text) : Decidable (IsAscii t) :=
  List.decidableBAll (fun c : Char => c.toNat < 0x80) t

instance (t name : Text) : Decidable (BeginsAnyCase t name) :=
  inferInstanceAs (Decidable (t.map Char.toLower <+: name.map Char.toLower))

instance (t : Text) : Decidable (IsUncapital t) :=
  List.decidableBAll (fun c : Char => c.isUpper = false) t

theorem ascii_case {c : Char} (h : c.toNat < 0x80) :
    lowerChar c = c.toLower ∧ c.toLower.toNat < 0x80 ∧ (c.toLower = c ↔ c.isUpper = false) := by
  have hall : ∀ n < 0x80, lowerChar (Char.ofNat n) = (Char.ofNat n).toLower ∧
      (Char.ofNat n).toLower.toNat < 0x80 ∧
      ((Char.ofNat n).toLower = Char.ofNat n ↔ (Char.ofNat n).isUpper = false) := by decide
  have hc := hall c.toNat h
  rwa [Char.ofNat_toNat] at hc

theorem toLower_of_not_ascii {c : Char} (h : ¬c.toNat < 0x80) : c.toLower = c := by
  refine dif_neg ?_
  rintro ⟨-, hle⟩
  have hnat : c.toNat ≤ 90 := UInt32.le_iff_toNat_le.1 hle
  omega

theorem IsAscii.lower_eq {t : Text} (h : IsAscii t) : lower t = t.map Char.toLower := by
  rw [lower]
  generalize ([] : Text) = done
  induction t generalizing done with
  | nil => rfl
  | cons c t ih =>
    have hc : c.toNat < 0x80 := h c List.mem_cons_self
    have hsigma : c ≠ 'Σ' := by
      rintro rfl
      exact absurd hc (by decide)
    have hdotted : c ≠ 'İ' := by
      rintro rfl
      exact absurd hc (by decide)
    rw [lowerAfter, if_neg hsigma, if_neg hdotted, (ascii_case hc).1,
      ih fun d hd => h d (List.mem_cons_of_mem c hd)]
    rfl

section

variable {t name : Text} (h : BeginsAnyCase t name) (hname : IsAscii name)

include h hname

theorem BeginsAnyCase.isAscii : IsAscii t := by
  intro c hc
  obtain ⟨d, hd, heq⟩ := List.mem_map.1 (h.subset (List.mem_map_of_mem hc))
  refine Decidable.byContradiction fun hnot => hnot ?_
  rw [toLower_of_not_ascii hnot] at heq
  rw [← heq]
  exact (ascii_case (hname d hd)).2.1

/- The lower case of the text begins the name itself exactly if the name has no capital letter there. -/
theorem BeginsAnyCase.map_toLower_prefix_iff :
    t.map Char.toLower <+: name ↔ IsUncapital (name.take t.length) := by
  have heq : t.map Char.toLower = (name.take t.length).map Char.toLower := by
    rw [List.map_take]
    simpa using List.prefix_iff_eq_take.1 h
  have hself : t.map Char.toLower <+: name ↔
      (name.take t.length).map Char.toLower = (name.take t.length).map id := by
    rw [List.prefix_iff_eq_take, List.length_map, List.map_id, heq]
  rw [hself, List.map_inj_left]
  refine forall_congr' fun c => forall_congr' fun hc => ?_
  exact (ascii_case (hname c (List.mem_of_mem_take hc))).2.2

end

end RuleHints.Text
