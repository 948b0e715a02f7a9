import RuleHints.Text.NormalTable

/-!
# Normal form

One character with an accent can also be written as a letter and a mark. The normal form takes
characters apart, puts the marks after each letter in a fixed order, and puts together what
composes.
-/

namespace RuleHints.Text

/-! ### Syllables of Hangul -/

def syllableParts? (c : Char) : Option Text :=
  let n := c.toNat - 0xAC00
  if 0xAC00 ≤ c.toNat ∧ c.toNat < 0xD7A4 then
    let trailing : Text := if n % 28 = 0 then [] else [Char.ofNat (0x11A7 + n % 28)]
    some (Char.ofNat (0x1100 + n / 588) :: Char.ofNat (0x1161 + n % 588 / 28) :: trailing)
  else none

def syllable? (a b : Char) : Option Char :=
  let a := a.toNat
  let b := b.toNat
  if 0x1100 ≤ a ∧ a < 0x1113 ∧ 0x1161 ≤ b ∧ b < 0x1176 then
    some (Char.ofNat (0xAC00 + ((a - 0x1100) * 21 + (b - 0x1161)) * 28))
  else if 0xAC00 ≤ a ∧ a < 0xD7A4 ∧ (a - 0xAC00) % 28 = 0 ∧ 0x11A7 < b ∧ b < 0x11C3 then
    some (Char.ofNat (a + (b - 0x11A7)))
  else none

/-! ### Taking apart -/

/-- A character taken apart, `depth` times at most; four are enough for every character. -/
def decomposeChar : Nat → Char → Text
  | 0, c => [c]
  | depth + 1, c =>
    match syllableParts? c, Row.image? decompositionRows c, Row.image? compositionRows c with
    | some parts, _, _ => parts
    | none, some parts, _ => parts
    | none, none, some parts => parts.flatMap (decomposeChar depth)
    | none, none, none => [c]

def combiningClass (c : Char) : Nat := Row.number combiningRows c

/-- Puts a mark before the marks of a greater class that stand directly before it. -/
def insertMark (c : Char) : Text → Text
  | [] => [c]
  | d :: rest =>
    if combiningClass c ≠ 0 ∧ combiningClass c < combiningClass d then d :: insertMark c rest
    else c :: d :: rest

def decomposed (t : Text) : Text :=
  ((t.flatMap (decomposeChar 4)).foldl (fun done c => insertMark c done) []).reverse

/-! ### Putting together -/

def compose? (a b : Char) : Option Char :=
  match syllable? a b with
  | some c => some c
  | none =>
    (compositionRows.find? fun row => row.value = [a.toNat, b.toNat]).map fun row =>
      Char.ofNat row.first

/-- Puts together `starter`, the marks after it that stay (the last one first), and what follows. -/
def composeFrom (starter : Char) (marks : Text) : Text → Text
  | [] => starter :: marks.reverse
  | c :: rest =>
    let isNext : Bool := marks.head?.all fun m => combiningClass m < combiningClass c
    match if isNext then compose? starter c else none with
    | some composed => composeFrom composed marks rest
    | none =>
      if combiningClass c = 0 then starter :: (marks.reverse ++ composeFrom c [] rest)
      else composeFrom starter (c :: marks) rest

/-- Text with marks in order put together. Marks before the first letter stay. -/
def composed : Text → Text
  | [] => []
  | c :: rest => if combiningClass c = 0 then composeFrom c [] rest else c :: composed rest

def normal (t : Text) : Text := composed (decomposed t)

end RuleHints.Text
