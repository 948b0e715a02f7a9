/-!
# Text

Text is a list of Unicode scalar values, so a column of a line is a position in the list and a
range of columns is a pair of positions. A string literal stands for its list of characters.

* `occursAt?` gives the first position at which a needle occurs, `occurs` says whether there is one.
* `dropLead?` and `dropTail?` remove one occurrence at either end.
* `byteSize` measures text in UTF-8 and `dropBytes?` cuts at such a measure, which is possible only
  between two characters.
-/

namespace RuleHints

abbrev Text := List Char

instance : Coe String Text := ⟨String.toList⟩

namespace Text

/-! ### Searching -/

def startsWith (lead t : Text) : Bool := lead.isPrefixOf t

def occursAt? (needle : Text) : Text → Option Nat
  | [] => if needle.isEmpty then some 0 else none
  | c :: rest =>
    if startsWith needle (c :: rest) then some 0 else (occursAt? needle rest).map (· + 1)

def occurs (needle t : Text) : Bool := (occursAt? needle t).isSome

/-- The first position at or after `start` at which `needle` occurs; none past the end of `t`. -/
def occursFrom? (needle t : Text) (start : Nat) : Option Nat :=
  if start ≤ t.length then (occursAt? needle (t.drop start)).map (start + ·) else none

/-- What stands before the first `mark`, or all of `t` without one. -/
def before (mark : Char) (t : Text) : Text := t.takeWhile (· != mark)

/-! ### Ends -/

def dropLead? (lead t : Text) : Option Text := lead.isPrefixOf? t

def dropLead (lead t : Text) : Text := (dropLead? lead t).getD t

def dropTail? (tail t : Text) : Option Text := tail.isSuffixOf? t

def dropTail (tail t : Text) : Text := (dropTail? tail t).getD t

def dropTrailing (c : Char) (t : Text) : Text := (t.reverse.dropWhile (· == c)).reverse

/-! ### Measuring in UTF-8 -/

def byteSize : Text → Nat
  | [] => 0
  | c :: t => c.utf8Size + byteSize t

/-- `t` without its first `n` bytes; none if the cut falls inside a character or past the end. -/
def dropBytes? : Nat → Text → Option Text
  | 0, t => some t
  | _ + 1, [] => none
  | n + 1, c :: t => if c.utf8Size ≤ n + 1 then dropBytes? (n + 1 - c.utf8Size) t else none

/-! ### Numbers -/

def ofNat (n : Nat) : Text := Nat.toDigits 10 n

/-- The value of a digit of a base up to sixteen, in either case of letters. -/
def digitValue? (base : Nat) (c : Char) : Option Nat :=
  let n := c.toNat
  let value? : Option Nat :=
    if '0'.toNat ≤ n ∧ n ≤ '9'.toNat then some (n - '0'.toNat)
    else if 'a'.toNat ≤ n ∧ n ≤ 'f'.toNat then some (n - 'a'.toNat + 10)
    else if 'A'.toNat ≤ n ∧ n ≤ 'F'.toNat then some (n - 'A'.toNat + 10)
    else none
  value?.filter (· < base)

/-- The number that digits of a base write, the most significant first; `acc` is what stands
before them. -/
def digits? (base : Nat) : Nat → Text → Option Nat
  | acc, [] => some acc
  | acc, c :: rest => do digits? base (acc * base + (← digitValue? base c)) rest

def natural? (base : Nat) (t : Text) : Option Nat :=
  if t.isEmpty then none else digits? base 0 t

def isAsciiDigit (c : Char) : Bool := '0' ≤ c && c ≤ '9'

def isAsciiLetter (c : Char) : Bool := ('a' ≤ c && c ≤ 'z') || ('A' ≤ c && c ≤ 'Z')

end Text

end RuleHints
