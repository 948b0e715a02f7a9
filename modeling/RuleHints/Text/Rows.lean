import RuleHints.Text.Blank

/-!
# Rows

Tables of code points, written as text. A row is a code point or a range of them, in hexadecimal
digits, and perhaps a value of one or more numbers: `300-314=E6`, `C0=41+300`. Blanks divide rows.
-/

namespace RuleHints.Text

structure Row where
  first : Nat
  last : Nat
  value : List Nat := []
  deriving DecidableEq, Repr

namespace Row

def ofText? (t : Text) : Option Row := do
  let (range, value) ←
    match t.splitOn '=' with
    | [range] => some (range, [])
    | [range, value] => (range, ·) <$> (value.splitOn '+').mapM (natural? 16)
    | _ => none
  match ← (range.splitOn '-').mapM (natural? 16) with
  | [first] => some ⟨first, first, value⟩
  | [first, last] => some ⟨first, last, value⟩
  | _ => none

def table (t : String) : List Row := (t.toList.splitOnP isBlank).filterMap ofText?

def find? (rows : List Row) (c : Char) : Option Row :=
  List.find? (fun row => row.first ≤ c.toNat && c.toNat ≤ row.last) rows

def covers (rows : List Row) (c : Char) : Bool := (find? rows c).isSome

def number (rows : List Row) (c : Char) : Nat := (((find? rows c).bind (·.value.head?))).getD 0

/-- What a character is sent to. A range with one number sends its characters to a range. -/
def image? (rows : List Row) (c : Char) : Option Text :=
  (find? rows c).map fun row =>
    match row.value with
    | [n] => [Char.ofNat (n + (c.toNat - row.first))]
    | value => value.map Char.ofNat

end Row

example : Row.table "300-314=E6 C0=41+300 AD" =
    [⟨0x300, 0x314, [0xE6]⟩, ⟨0xC0, 0xC0, [0x41, 0x300]⟩, ⟨0xAD, 0xAD, []⟩] := by decide

end RuleHints.Text
