import RuleHints.Text.Basic
import RuleHints.Text.Blank
import RuleHints.Text.Digit

/-!
# Digits

A natural number is read back from its decimal digits, and only zero begins with a zero. No decimal
digit of any script is a blank.
-/

namespace RuleHints.Text

theorem isAsciiDigit_iff {c : Char} : isAsciiDigit c = true ↔ 48 ≤ c.toNat ∧ c.toNat ≤ 57 := by
  simp [isAsciiDigit, Char.le_def, UInt32.le_iff_toNat_le]

theorem isAsciiDigit_of_mem_ofNat {n : Nat} {c : Char} (h : c ∈ ofNat n) : isAsciiDigit c = true := by
  have hdigit : c.isDigit = true := Nat.isDigit_of_mem_toDigits (by decide) (by decide) h
  simpa [isAsciiDigit, Char.isDigit, Char.le_def] using hdigit

theorem digitValue?_of_isAsciiDigit {c : Char} (h : isAsciiDigit c = true) :
    digitValue? 10 c = some (c.toNat - '0'.toNat) := by
  have hc := isAsciiDigit_iff.1 h
  have hzero : '0'.toNat = 48 := rfl
  have hnine : '9'.toNat = 57 := rfl
  have hvalue : c.toNat - 48 < 10 := by omega
  simp only [digitValue?, hzero, hnine, if_pos hc, Option.filter_some, hvalue, decide_true, if_true]

theorem digits?_eq_ofDigitChars {t : Text} (h : ∀ c ∈ t, isAsciiDigit c = true) (acc : Nat) :
    digits? 10 acc t = some (Nat.ofDigitChars 10 t acc) := by
  induction t generalizing acc with
  | nil => rfl
  | cons c t ih =>
    have hc := digitValue?_of_isAsciiDigit (h c List.mem_cons_self)
    have ht := ih fun d hd => h d (List.mem_cons_of_mem c hd)
    rw [digits?, hc, Nat.ofDigitChars_cons, Nat.mul_comm 10 acc]
    exact ht _

theorem ofNat_ne_nil (n : Nat) : ofNat n ≠ [] := Nat.toDigits_ne_nil

theorem natural?_ofNat (n : Nat) : natural? 10 (ofNat n) = some n := by
  have hne : (ofNat n).isEmpty = false := by simp [ofNat_ne_nil]
  rw [natural?, hne, digits?_eq_ofDigitChars fun c => isAsciiDigit_of_mem_ofNat]
  exact congrArg some Nat.ofDigitChars_ten_toDigits

/- Only zero begins with a zero, and it has no other digit. -/
theorem head?_ofNat {n : Nat} (h : 10 ≤ n) : (ofNat n).head? ≠ some '0' := by
  induction n using Nat.strongRecOn with
  | ind n ih =>
    have hstep : ofNat n = ofNat (n / 10) ++ [Nat.digitChar (n % 10)] :=
      Nat.toDigits_of_base_le (by decide) h
    have hhead : (ofNat n).head? = (ofNat (n / 10)).head? := by
      rw [hstep, List.head?_append, Option.or_of_isSome]
      exact List.isSome_head?.2 (ofNat_ne_nil _)
    rw [hhead]
    by_cases hsmall : n / 10 < 10
    · have hdigits : ∀ d < 10, d ≠ 0 → [Nat.digitChar d].head? ≠ some '0' := by decide
      rw [ofNat, Nat.toDigits_of_lt_base hsmall]
      exact hdigits (n / 10) hsmall (by omega)
    · exact ih (n / 10) (by omega) (by omega)

/- No row of digits reaches a blank character. -/
theorem decimalZeros_apart : ∀ z ∈ decimalZeros,
    0x20 < z ∧ z + 10 ≤ 0x85 ∨ 0xA0 < z ∧ z + 10 ≤ 0x1680 ∨ 0x1680 < z ∧ z + 10 ≤ 0x2000 ∨
      0x3000 < z := by
  decide

theorem not_isBlank_of_isDecimalDigit {c : Char} (h : isDecimalDigit c = true) :
    isBlank c = false := by
  have hrow : 0x20 < c.toNat ∧ c.toNat < 0x85 ∨ 0xA0 < c.toNat ∧ c.toNat < 0x1680 ∨
      0x1680 < c.toNat ∧ c.toNat < 0x2000 ∨ 0x3000 < c.toNat := by
    unfold isDecimalDigit at h
    simp only at h
    split at h
    · simp only [Bool.and_eq_true, decide_eq_true_eq] at h
      omega
    · obtain ⟨z, hz, hle⟩ := List.any_eq_true.1 h
      simp only [Bool.and_eq_true, decide_eq_true_eq] at hle
      have hapart := decimalZeros_apart z hz
      omega
  simp only [isBlank, Bool.or_eq_false_iff, Bool.and_eq_false_iff, beq_eq_false_iff_ne,
    decide_eq_false_iff_not]
  omega

end RuleHints.Text
