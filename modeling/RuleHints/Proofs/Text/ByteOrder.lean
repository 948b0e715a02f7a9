import RuleHints.Text.Order
import RuleHints.Text.Utf8

/-!
# The order of bytes

Text is compared by its characters. To compare it by its bytes in UTF-8 is the same: the first byte of a
character says how many bytes it has, and more bytes mean a larger number; among characters with equally
many bytes the first byte that differs decides.
-/

namespace RuleHints.Text

/-- The order of bytes by their numbers. -/
def byteBefore (a b : UInt8) : Bool := decide (a.toNat < b.toNat)

theorem isStrict_byteBefore : IsStrict byteBefore := isStrict_by UInt8.toNat_inj.1

/-- The bytes of the first text come before those of the second. -/
def bytesBefore (s t : Text) : Bool := precedes byteBefore (utf8Encode s) (utf8Encode t)

theorem precedes_ofNat_cons {m n : Nat} (hm : m < 256) (hn : n < 256) (as bs : List UInt8) :
    precedes byteBefore (UInt8.ofNat m :: as) (UInt8.ofNat n :: bs) = true ↔
      m < n ∨ m = n ∧ precedes byteBefore as bs = true := by
  have hmn : UInt8.ofNat m = UInt8.ofNat n ↔ m = n := by
    rw [← UInt8.toNat_inj, UInt8.toNat_ofNat_of_lt' hm, UInt8.toNat_ofNat_of_lt' hn]
  rw [precedes_cons, hmn, byteBefore, UInt8.toNat_ofNat_of_lt' hm, UInt8.toNat_ofNat_of_lt' hn,
    decide_eq_true_eq]

/-- The bytes of a character: a first one that tells their number, then digits of base 64. -/
inductive Encodes : Nat → List UInt8 → Prop
  | one {n : Nat} (h : n < 0x80) : Encodes n [.ofNat n]
  | two {n : Nat} (hmin : 0x80 ≤ n) (hmax : n < 0x800) :
    Encodes n [.ofNat (n / 64 + 0xC0), .ofNat (n % 64 + 0x80)]
  | three {n : Nat} (hmin : 0x800 ≤ n) (hmax : n < 0x10000) :
    Encodes n [.ofNat (n / 4096 + 0xE0), .ofNat (n / 64 % 64 + 0x80), .ofNat (n % 64 + 0x80)]
  | four {n : Nat} (hmin : 0x10000 ≤ n) (hmax : n < 0x110000) :
    Encodes n [.ofNat (n / 262144 + 0xF0), .ofNat (n / 4096 % 64 + 0x80), .ofNat (n / 64 % 64 + 0x80),
      .ofNat (n % 64 + 0x80)]

theorem encodes_utf8EncodeChar (c : Char) : Encodes c.toNat (String.utf8EncodeChar c) := by
  have hmax : c.toNat < 0x110000 := by
    have hvalid := c.valid
    simp only [UInt32.isValidChar, Nat.isValidChar] at hvalid
    simp only [Char.toNat]
    omega
  have hval : c.val.toNat = c.toNat := rfl
  simp only [String.utf8EncodeChar, hval]
  split
  · exact .one (by omega)
  · split
    · rw [Nat.mod_eq_of_lt (by omega : c.toNat / 64 < 32)]
      exact .two (by omega) (by omega)
    · split
      · rw [Nat.mod_eq_of_lt (by omega : c.toNat / 4096 < 16)]
        exact .three (by omega) (by omega)
      · rw [Nat.mod_eq_of_lt (by omega : c.toNat / 262144 < 8)]
        exact .four (by omega) hmax

/- The bytes of two characters differ before either of them ends, so it does not matter what follows. -/
theorem Encodes.precedes {m n : Nat} {cs ds : List UInt8} (hm : Encodes m cs) (hn : Encodes n ds)
    (hlt : m < n) (as bs : List UInt8) : precedes byteBefore (cs ++ as) (ds ++ bs) = true := by
  -- If the numbers of bytes differ, the first bytes do; else the digits are compared in turn.
  cases hm <;> cases hn <;>
    simp (disch := omega) only [List.cons_append, List.nil_append, precedes_ofNat_cons] <;>
    omega

theorem bytesBefore_of_isBefore {s t : Text} (h : isBefore s t = true) : bytesBefore s t = true := by
  induction s generalizing t with
  | nil =>
    cases t with
    | nil => cases h
    | cons d t =>
      have hd := encodes_utf8EncodeChar d
      rw [bytesBefore, utf8Encode, utf8Encode, List.flatMap_cons]
      generalize String.utf8EncodeChar d = ds at hd ⊢
      cases hd <;> rfl
  | cons c s ih =>
    cases t with
    | nil => cases h
    | cons d t =>
      rw [bytesBefore, utf8Encode, utf8Encode, List.flatMap_cons, List.flatMap_cons]
      rcases precedes_cons.1 h with hbefore | ⟨rfl, hrest⟩
      · exact (encodes_utf8EncodeChar c).precedes (encodes_utf8EncodeChar d)
          (of_decide_eq_true hbefore) _ _
      · rw [isStrict_byteBefore.precedes_append]
        exact ih hrest

/-- Bytes come in the order of the characters. -/
theorem bytesBefore_iff {s t : Text} : bytesBefore s t = true ↔ isBefore s t = true := by
  refine ⟨fun hbytes => ?_, bytesBefore_of_isBefore⟩
  cases hbefore : isBefore s t with
  | true => rfl
  | false =>
    -- Else the other text comes first, and so would its bytes.
    have hne : s ≠ t := fun heq => isStrict_byteBefore.precedes.ne hbytes (congrArg utf8Encode heq)
    have hback := bytesBefore_of_isBefore (isStrict_isBefore.total hbefore hne)
    exact absurd hback (isStrict_byteBefore.precedes.asymm hbytes)

end RuleHints.Text
