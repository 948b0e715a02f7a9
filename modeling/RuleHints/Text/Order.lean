import RuleHints.Text.Basic

/-!
# Dictionary order

Two lists are compared at the first place where they differ, and a list that has ended there comes
first. Text is compared by its characters, which is also the order of its bytes in UTF-8.

The dictionary order over a strict order is a strict order: `IsStrict.precedes`.
-/

namespace RuleHints

/-- Of two different values one comes first, and never both. -/
structure IsStrict {α : Type} (less : α → α → Bool) : Prop where
  irrefl (a : α) : less a a = false
  trans {a b c : α} : less a b = true → less b c = true → less a c = true
  total {a b : α} : less a b = false → a ≠ b → less b a = true

theorem IsStrict.ne {α : Type} {less : α → α → Bool} (h : IsStrict less) {a b : α}
    (hab : less a b = true) : a ≠ b := by
  rintro rfl
  rw [h.irrefl] at hab
  cases hab

theorem IsStrict.asymm {α : Type} {less : α → α → Bool} (h : IsStrict less) {a b : α}
    (hab : less a b = true) : ¬less b a = true := fun hba => h.ne (h.trans hab hba) rfl

theorem isStrict_by {α : Type} {number : α → Nat} (hinj : ∀ {a b}, number a = number b → a = b) :
    IsStrict fun a b => decide (number a < number b) where
  irrefl a := by simp
  trans := by
    intro a b c ab bc
    simp only [decide_eq_true_eq] at ab bc ⊢
    omega
  total := by
    intro a b notBefore different
    have apart : number a ≠ number b := fun h => different (hinj h)
    simp only [decide_eq_false_iff_not, decide_eq_true_eq] at notBefore ⊢
    omega

/-- The first list comes before the second in the dictionary order over `less`. -/
def precedes {α : Type} [DecidableEq α] (less : α → α → Bool) : List α → List α → Bool
  | _, [] => false
  | [], _ :: _ => true
  | a :: as, b :: bs => less a b || (decide (a = b) && precedes less as bs)

section

variable {α : Type} [DecidableEq α] {less : α → α → Bool}

theorem precedes_cons {a b : α} {as bs : List α} :
    precedes less (a :: as) (b :: bs) = true ↔
      less a b = true ∨ a = b ∧ precedes less as bs = true := by
  simp [precedes]

theorem precedes_irrefl (h : IsStrict less) (as : List α) : precedes less as as = false := by
  induction as with
  | nil => rfl
  | cons a as ih => simp [precedes, h.irrefl, ih]

theorem precedes_trans (h : IsStrict less) {as bs cs : List α}
    (first : precedes less as bs = true) (second : precedes less bs cs = true) :
    precedes less as cs = true := by
  induction as generalizing bs cs with
  | nil =>
    cases cs with
    | nil => cases bs <;> simp [precedes] at second
    | cons c cs => rfl
  | cons a as ih =>
    cases bs with
    | nil => simp [precedes] at first
    | cons b bs =>
      cases cs with
      | nil => simp [precedes] at second
      | cons c cs =>
        rw [precedes_cons] at first second ⊢
        rcases first with ab | ⟨rfl, first⟩
        · rcases second with bc | ⟨rfl, _⟩
          · exact Or.inl (h.trans ab bc)
          · exact Or.inl ab
        · rcases second with bc | ⟨rfl, second⟩
          · exact Or.inl bc
          · exact Or.inr ⟨rfl, ih first second⟩

theorem precedes_total (h : IsStrict less) {as bs : List α}
    (notBefore : precedes less as bs = false) (different : as ≠ bs) :
    precedes less bs as = true := by
  induction as generalizing bs with
  | nil =>
    cases bs with
    | nil => exact absurd rfl different
    | cons b bs => simp [precedes] at notBefore
  | cons a as ih =>
    cases bs with
    | nil => rfl
    | cons b bs =>
      simp only [precedes, Bool.or_eq_false_iff] at notBefore
      rw [precedes_cons]
      by_cases same : a = b
      · subst same
        have rest : precedes less as bs = false := by simpa using notBefore.2
        exact Or.inr ⟨rfl, ih rest fun h => different (h ▸ rfl)⟩
      · exact Or.inl (h.total notBefore.1 same)

theorem IsStrict.precedes (h : IsStrict less) : IsStrict (precedes less) :=
  ⟨precedes_irrefl h, precedes_trans h, precedes_total h⟩

theorem IsStrict.precedes_append (h : IsStrict less) (common as bs : List α) :
    RuleHints.precedes less (common ++ as) (common ++ bs) = RuleHints.precedes less as bs := by
  induction common with
  | nil => rfl
  | cons a common ih => simpa [RuleHints.precedes, h.irrefl a] using ih

end

namespace Text

def charBefore (a b : Char) : Bool := decide (a.toNat < b.toNat)

theorem isStrict_charBefore : IsStrict charBefore :=
  isStrict_by fun h => Char.ext (UInt32.toNat_inj.1 h)

def isBefore : Text → Text → Bool := precedes charBefore

theorem isStrict_isBefore : IsStrict isBefore := isStrict_charBefore.precedes

end Text

end RuleHints
