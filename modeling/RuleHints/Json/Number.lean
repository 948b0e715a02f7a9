import RuleHints.Text.Basic

/-!
# Numbers of a data document

A number keeps the kind its spelling gives it: a natural number of at most 64 bits, a negative
integer of at most 64 bits, or a decimal. A decimal stands for a 64-bit binary float; `truncated` is
the integer part of that float.

A decimal is written with any number of digits, but only those are kept that fit into 64 bits, as
`Decimal.ofDigits` says. The float is found with exact fractions: the digits are rounded to a float,
then scaled by the float of a power of ten, and the result is rounded once more. Halves go to the
even neighbour. Powers beyond the greatest float are divided by in more than one step.
-/

namespace RuleHints

/-- `± digits · 10 ^ exponent`. -/
structure Decimal where
  negative : Bool
  digits : Nat
  exponent : Int
  deriving DecidableEq, Repr

inductive Number where
  | natural (n : Nat)
  | negative (n : Nat)
  | decimal (d : Decimal)
  deriving DecidableEq, Repr

def natural64Max : Nat := Nat.pow 2 64 - 1

/-! ### Binary rounding of fractions -/

structure Fraction where
  num : Nat
  den : Nat
  deriving DecidableEq, Repr

namespace Fraction

/-- The nearest natural number; halves go to the even one. -/
def round (q : Fraction) : Nat :=
  let whole := q.num / q.den
  let rest := q.num % q.den
  if 2 * rest < q.den then whole
  else if q.den < 2 * rest then whole + 1
  else whole + whole % 2

def floor (q : Fraction) : Nat := q.num / q.den

def shift (q : Fraction) : Int → Fraction
  | .ofNat k => ⟨q.num * Nat.pow 2 k, q.den⟩
  | .negSucc k => ⟨q.num, q.den * Nat.pow 2 (k + 1)⟩

/-- The greatest `k` with `2 ^ k ≤ q`, for a positive `q`. -/
def log2 (q : Fraction) : Int :=
  let k : Int := (q.num.log2 : Int) - q.den.log2
  if (q.shift (-k)).floor = 0 then k - 1 else k

/-- The nearest float: it has 53 binary digits, and none below the place of `2 ^ -1074`. The range
has no upper end here. -/
def roundFloat (q : Fraction) : Fraction :=
  if q.num = 0 then ⟨0, 1⟩
  else
    let k := max (q.log2 - 52) (-1074)
    (⟨(q.shift (-k)).round, 1⟩ : Fraction).shift k

def mul (p q : Fraction) : Fraction := ⟨p.num * q.num, p.den * q.den⟩

def div (p q : Fraction) : Fraction := ⟨p.num * q.den, p.den * q.num⟩

end Fraction

namespace Decimal

def digitCount (n : Nat) : Nat := if n = 0 then 0 else (Text.ofNat n).length

def isFinite (d : Decimal) : Bool :=
  let bound := Nat.pow 2 1024 - Nat.pow 2 970
  let size : Int := digitCount d.digits + d.exponent
  if d.digits = 0 ∨ size ≤ 300 then true
  else if 320 < size then false
  else
    match d.exponent with
    | .ofNat k => d.digits * Nat.pow 10 k < bound
    | .negSucc k => d.digits < bound * Nat.pow 10 (k + 1)

def extend? (digits : Nat) (c : Char) : Option Nat :=
  (Text.digitValue? 10 c).bind fun d =>
    if digits * 10 + d ≤ natural64Max then some (digits * 10 + d) else none

def takeDigits (digits : Nat) : Text → Nat × Text
  | [] => (digits, [])
  | c :: t =>
    match extend? digits c with
    | some digits => takeDigits digits t
    | none => (digits, c :: t)

/-- The decimal of the digits before and after the point. Digits that are left before the point only
raise the exponent; those that are left after it do not count. -/
def ofDigits (negative : Bool) (whole fraction : Text) (exponent : Int) : Decimal :=
  let (digits, raising) := takeDigits 0 whole
  let (digits, unread) := takeDigits digits fraction
  let taken := fraction.length - unread.length
  ⟨negative, digits, exponent + raising.length - taken⟩

def tenPower (k : Nat) : Fraction := (⟨Nat.pow 10 k, 1⟩ : Fraction).roundFloat

def greatestPower : Nat := 308

/-- Divides a float by a power of ten, in steps of which each is rounded. -/
def divided (q : Fraction) (k : Nat) : Fraction :=
  if k ≤ greatestPower then (q.div (tenPower k)).roundFloat
  else if q.num = 0 then q
  else divided (q.div (tenPower greatestPower)).roundFloat (k - greatestPower)
termination_by k
decreasing_by simp only [greatestPower] at *; omega

def magnitude (d : Decimal) : Fraction :=
  let digits := (⟨d.digits, 1⟩ : Fraction).roundFloat
  match d.exponent with
  | .ofNat k => if d.digits = 0 then ⟨0, 1⟩ else (digits.mul (tenPower k)).roundFloat
  | .negSucc k => divided digits (k + 1)

def hasFloat (d : Decimal) : Bool :=
  d.digits = 0 || (d.exponent ≤ greatestPower && d.magnitude.floor < Nat.pow 2 1024)

end Decimal

/-! ### Digits of floats -/

namespace Fraction

/-- Digits and an exponent for a float. At least seventeen digits are taken, as many as tell floats
apart. -/
def toDigits (q : Fraction) : Nat × Int :=
  if q.num = 0 then (0, 0)
  else
    let places : Int :=
      if q.num < q.den then Decimal.digitCount (q.den / q.num) + 17
      else 17 - (Decimal.digitCount q.floor : Int)
    let scaled : Fraction := match places with
      | .ofNat k => ⟨q.num * Nat.pow 10 k, q.den⟩
      | .negSucc k => ⟨q.num, q.den * Nat.pow 10 (k + 1)⟩
    (scaled.round, -places)

end Fraction

namespace Number

def isFinite : Number → Bool
  | .decimal d => d.hasFloat
  | _ => true

/-- The integer part of a finite number read as a float: zero for what is not positive, and never
more than 64 bits. -/
def truncated : Number → Nat
  | .natural n => min (⟨n, 1⟩ : Fraction).roundFloat.floor natural64Max
  | .negative _ => 0
  | .decimal d => if d.negative then 0 else min d.magnitude.floor natural64Max

end Number

end RuleHints
