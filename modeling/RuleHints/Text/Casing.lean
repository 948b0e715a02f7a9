import RuleHints.Text.CaseTable
import RuleHints.Text.Basic

/-!
# Lower case

`lower` is the full lower-case mapping of text. Two characters do not map on their own: the capital
sigma becomes a final sigma at the end of a word, and the capital dotted I becomes two characters.
-/

namespace RuleHints.Text

def inRanges (ranges : List (Nat × Nat)) (n : Nat) : Bool :=
  ranges.any fun (lo, hi) => lo ≤ n && n ≤ hi

def isCased (c : Char) : Bool := inRanges casedRanges c.toNat

def isCaseIgnorable (c : Char) : Bool := inRanges caseIgnorableRanges c.toNat

def lowerChar (c : Char) : Char :=
  let n := c.toNat
  if n < 0x80 then (if 0x41 ≤ n && n ≤ 0x5A then Char.ofNat (n + 32) else c)
  else
    match lowerRows.find? fun (lo, hi, step, _) => lo ≤ n && n ≤ hi && (n - lo) % step == 0 with
    | some (_, _, _, d) => Char.ofNat (n + d).toNat
    | none => c

/-- The nearest character that casing does not pass over is cased. -/
def meetsCased (t : Text) : Bool :=
  match t.find? fun c => !isCaseIgnorable c with
  | some c => isCased c
  | none => false

/-- Lower case of `rest`, where `done` holds the characters before it, the nearest first. -/
def lowerAfter (done : Text) : Text → Text
  | [] => []
  | c :: rest =>
    let image : Text :=
      if c = 'Σ' then [if meetsCased done && !meetsCased rest then 'ς' else 'σ']
      else if c = 'İ' then ['i', '̇']
      else [lowerChar c]
    image ++ lowerAfter (c :: done) rest

def lower (t : Text) : Text := lowerAfter [] t

end RuleHints.Text
