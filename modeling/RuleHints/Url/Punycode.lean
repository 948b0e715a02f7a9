import RuleHints.Text.Basic

/-!
# Punycode

Writes a name with any characters in ASCII: first the ASCII characters, then, for each other one,
how far it is from the one before in the order of code points and places. A distance is a number
with digits of changing weight, and its last digit is one below a threshold.
-/

namespace RuleHints.Url.Punycode

def digit (n : Nat) : Char := if n < 26 then Char.ofNat (97 + n) else Char.ofNat (22 + n)

def digitValue? (c : Char) : Option Nat :=
  let n := c.toNat
  if 97 ≤ n ∧ n ≤ 122 then some (n - 97)
  else if 65 ≤ n ∧ n ≤ 90 then some (n - 65)
  else if 48 ≤ n ∧ n ≤ 57 then some (n - 22)
  else none

/-- The threshold of the digit at a place, which is a multiple of thirty-six. -/
def threshold (bias place : Nat) : Nat :=
  if place ≤ bias then 1 else if bias + 26 ≤ place then 26 else place - bias

theorem threshold_pos (bias place : Nat) : 0 < threshold bias place := by
  unfold threshold
  split
  · omega
  · split <;> omega

def shrink (delta count : Nat) : Nat × Nat :=
  if h : 455 < delta then shrink (delta / 35) (count + 36) else (delta, count)
termination_by delta
decreasing_by exact Nat.div_lt_self (by omega) (by omega)

def adapt (delta size : Nat) (isFirst : Bool) : Nat :=
  let start := if isFirst then delta / 700 else delta / 2
  let (small, count) := shrink (start + start / size) 0
  count + 36 * small / (small + 38)

/-! ### Writing -/

def writeDistance (bias place delta : Nat) : Text :=
  let t := threshold bias place
  if delta < t then [digit delta]
  else
    digit (t + (delta - t) % (36 - t)) :: writeDistance bias (place + 36) ((delta - t) / (36 - t))
termination_by delta
decreasing_by
  have hpos := threshold_pos bias place
  exact Nat.lt_of_le_of_lt (Nat.div_le_self _ _) (by omega)

structure Writing where
  output : Text
  delta : Nat := 0
  bias : Nat := 72
  size : Nat

def Writing.step (point basic : Nat) (w : Writing) (c : Char) : Writing :=
  if c.toNat < point then { w with delta := w.delta + 1 }
  else if c.toNat = point then
    { output := w.output ++ writeDistance w.bias 36 w.delta
      bias := adapt w.delta (w.size + 1) (w.size = basic)
      size := w.size + 1 }
  else w

/-- Writes the characters of code points in ascending order; `next` is the least one not written. -/
def writePoints (name : Text) (basic : Nat) : List Nat → Nat → Writing → Writing
  | [], _, w => w
  | point :: rest, next, w =>
    let w := { w with delta := w.delta + (point - next) * (w.size + 1) }
    let w := name.foldl (Writing.step point basic) w
    writePoints name basic rest (point + 1) { w with delta := w.delta + 1 }

def points (name : Text) : List Nat :=
  (((name.map Char.toNat).filter (128 ≤ ·)).mergeSort).eraseDups

def encode (name : Text) : Text :=
  let basic := name.filter (·.toNat < 128)
  let start : Text := if basic.isEmpty then [] else basic ++ ['-']
  (writePoints name basic.length (points name) 128 { output := start, size := basic.length }).output

/-! ### Reading -/

def readDistance? (bias : Nat) : Nat → Nat → Nat → Text → Option (Nat × Text)
  | _, _, _, [] => none
  | place, weight, sum, c :: rest =>
    match digitValue? c with
    | none => none
    | some d =>
      let t := threshold bias place
      if d < t then some (sum + d * weight, rest)
      else readDistance? bias (place + 36) (weight * (36 - t)) (sum + d * weight) rest

theorem readDistance?_length {bias : Nat} {digits rest : Text} {place weight sum n : Nat}
    (h : readDistance? bias place weight sum digits = some (n, rest)) :
    rest.length < digits.length := by
  induction digits generalizing place weight sum with
  | nil => simp [readDistance?] at h
  | cons c digits ih =>
    simp only [readDistance?] at h
    split at h
    · simp at h
    · split at h
      · obtain ⟨-, rfl⟩ := Prod.mk.inj (Option.some.inj h)
        exact Nat.lt_succ_self _
      · exact Nat.lt_succ_of_lt (ih h)

/-- Puts characters into a name, from where `place` and the code point `point` stand. -/
def readPoints? (bias point place : Nat) (name : Text) (digits : Text) : Option Text :=
  match digits with
  | [] => some name
  | c :: digits =>
    match _found : readDistance? bias 36 1 0 (c :: digits) with
    | none => none
    | some (delta, rest) =>
      let size := name.length + 1
      let point' := point + (place + delta) / size
      let place' := (place + delta) % size
      if point'.isValidChar then
        readPoints? (adapt delta size (place = 0)) point' (place' + 1)
          (name.take place' ++ [Char.ofNat point'] ++ name.drop place') rest
      else none
termination_by digits.length
decreasing_by exact readDistance?_length _found

/-- Reads a name. The last hyphen ends the ASCII characters, unless there are none before it. -/
def decode? (t : Text) : Option Text :=
  let digits := (t.reverse.takeWhile (· != '-')).reverse
  let basic := t.take (t.length - digits.length - 1)
  if t.any (128 ≤ ·.toNat) then none
  else if basic.isEmpty then readPoints? 72 128 0 [] t
  else readPoints? 72 128 0 basic digits

end RuleHints.Url.Punycode
