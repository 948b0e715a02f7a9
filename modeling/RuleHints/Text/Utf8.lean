import RuleHints.Text.Basic

/-!
# UTF-8

Files hold bytes. `utf8Decode?` reads bytes as text and refuses overlong forms, surrogates, code
points past the last one, and sequences that stop early; `utf8Encode` writes text as bytes.
-/

namespace RuleHints.Text

def utf8Encode (t : Text) : List UInt8 := t.flatMap String.utf8EncodeChar

def continuation? (b : UInt8) : Option Nat :=
  if 0x80 ≤ b.toNat ∧ b.toNat < 0xC0 then some (b.toNat - 0x80) else none

/-- The character of a code point that is at least `least` and no surrogate. -/
def scalar? (least n : Nat) : Option Char :=
  if h : n.isValidChar then (if least ≤ n then some (Char.ofNatAux n h) else none) else none

def utf8Decode? : List UInt8 → Option Text
  | [] => some []
  | a :: rest =>
    if a.toNat < 0x80 then do
      return (← scalar? 0 a.toNat) :: (← utf8Decode? rest)
    else if a.toNat < 0xE0 then
      match rest with
      | b :: rest => do
        if a.toNat < 0xC0 then none else
        let c ← scalar? 0x80 ((a.toNat - 0xC0) * 64 + (← continuation? b))
        return c :: (← utf8Decode? rest)
      | _ => none
    else if a.toNat < 0xF0 then
      match rest with
      | b :: c :: rest => do
        let n := ((a.toNat - 0xE0) * 64 + (← continuation? b)) * 64 + (← continuation? c)
        return (← scalar? 0x800 n) :: (← utf8Decode? rest)
      | _ => none
    else
      match rest with
      | b :: c :: d :: rest => do
        let n := (((a.toNat - 0xF0) * 64 + (← continuation? b)) * 64 + (← continuation? c)) * 64
          + (← continuation? d)
        return (← scalar? 0x10000 n) :: (← utf8Decode? rest)
      | _ => none

end RuleHints.Text
