import Mathlib.Data.List.TakeWhile
import RuleHints.Text.Basic

/-!
# Text between marks

What stands before the first mark and after the last one, the parts between all marks, and parts that
are put together with a mark between each two.
-/

namespace RuleHints.Text

/-! ### The first and the last mark -/

theorem before_isPrefix (mark : Char) (t : Text) : before mark t <+: t := List.takeWhile_prefix _

theorem not_mem_before (mark : Char) (t : Text) : mark ∉ before mark t := by
  intro hmem
  have hall := List.all_eq_true.1 List.all_takeWhile mark hmem
  simp at hall

theorem before_of_not_mem {mark : Char} {t : Text} (h : mark ∉ t) : before mark t = t := by
  refine List.takeWhile_eq_self_iff.2 fun c hc => ?_
  refine bne_iff_ne.2 ?_
  rintro rfl
  exact h hc

theorem before_append {mark : Char} {lead : Text} (h : mark ∉ lead) (t : Text) :
    before mark (lead ++ t) = lead ++ before mark t := by
  refine List.takeWhile_append_of_pos fun c hc => ?_
  refine bne_iff_ne.2 ?_
  rintro rfl
  exact h hc

theorem prefix_before_iff {mark : Char} {lead t : Text} (h : mark ∉ lead) :
    lead <+: before mark t ↔ lead <+: t := by
  constructor
  · exact fun hbegins => hbegins.trans (before_isPrefix mark t)
  · rintro ⟨rest, rfl⟩
    rw [before_append h]
    exact List.prefix_append ..

/-- What follows the last mark. -/
def afterLast (mark : Char) (t : Text) : Text := (t.reverse.takeWhile (· != mark)).reverse

theorem afterLast_append {mark : Char} {t : Text} (h : mark ∉ t) (lead : Text) :
    afterLast mark (lead ++ t) = afterLast mark lead ++ t := by
  have hall : ∀ c ∈ t.reverse, (c != mark) = true := by
    intro c hc
    rw [bne_iff_ne]
    rintro rfl
    exact h (List.mem_reverse.1 hc)
  rw [afterLast, List.reverse_append, List.takeWhile_append_of_pos hall, List.reverse_append,
    List.reverse_reverse]
  rfl

theorem afterLast_of_not_mem {mark : Char} {t : Text} (h : mark ∉ t) : afterLast mark t = t :=
  afterLast_append h []

theorem afterLast_cons_mark {mark : Char} {t : Text} (h : mark ∉ t) (lead : Text) :
    afterLast mark (lead ++ mark :: t) = t := by
  have hmark : afterLast mark (lead ++ [mark]) = [] := by
    rw [afterLast, List.reverse_append, List.reverse_singleton, List.singleton_append,
      List.takeWhile_cons_of_neg (by simp), List.reverse_nil]
  rw [List.append_cons, afterLast_append h, hmark, List.nil_append]

/- Either there is no mark, or the text is what stands before the last one, the mark and the rest. -/
theorem afterLast_cases (mark : Char) (t : Text) :
    afterLast mark t = t ∨ ∃ lead, t = lead ++ mark :: afterLast mark t := by
  have hsplit := List.takeWhile_append_dropWhile (p := (· != mark)) (l := t.reverse)
  cases hrest : t.reverse.dropWhile (· != mark) with
  | nil =>
    rw [hrest, List.append_nil] at hsplit
    exact Or.inl (by rw [afterLast, hsplit, List.reverse_reverse])
  | cons c rest =>
    have hhead := List.head?_dropWhile_not (· != mark) t.reverse
    rw [hrest] at hsplit hhead
    have hmark : c = mark := by simpa using hhead
    have hreverse := congrArg List.reverse hsplit
    rw [List.reverse_reverse, hmark] at hreverse
    refine Or.inr ⟨rest.reverse, ?_⟩
    rw [afterLast]
    simpa using hreverse.symm

/-! ### Parts -/

theorem not_mem_of_mem_splitOn {mark : Char} {t part : Text} (h : part ∈ t.splitOn mark) :
    mark ∉ part := by
  induction t generalizing part with
  | nil =>
    rw [List.splitOn_nil, List.mem_singleton] at h
    simp [h]
  | cons c t ih =>
    rw [List.splitOn_cons_eq_if_modifyHead] at h
    split at h
    · rcases List.mem_cons.1 h with rfl | hrest
      · simp
      · exact ih hrest
    · next hc =>
      -- The character begins the first part of the rest.
      obtain ⟨first, rest, hparts⟩ := List.exists_cons_of_ne_nil (List.splitOn_ne_nil mark t)
      rw [hparts] at h ih
      rcases List.mem_cons.1 h with rfl | hrest
      · have hfirst := ih List.mem_cons_self
        have hne : mark ≠ c := fun heq => hc (beq_iff_eq.2 heq.symm)
        exact List.not_mem_cons_of_ne_of_not_mem hne hfirst
      · exact ih (List.mem_cons_of_mem _ hrest)

theorem intercalate_concat (mark : Text) (first : Text) (texts : List Text) (last : Text) :
    mark.intercalate (first :: texts ++ [last]) =
      mark.intercalate (first :: texts) ++ mark ++ last := by
  induction texts generalizing first with
  | nil => simp
  | cons second texts ih =>
    have hstep := ih second
    rw [List.cons_append] at hstep
    simp only [List.cons_append, List.intercalate_cons_cons, hstep, List.append_assoc]

end RuleHints.Text
