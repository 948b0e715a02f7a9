import RuleHints.Text.Basic

/-!
# Blank characters

A character is blank if it has the Unicode property `White_Space`: twenty-five code points, among
them the control characters from tab to carriage return, the no-break space and the ideographic
space. Words of a line are the runs between blanks, and trimming removes blanks at both ends.
-/

namespace RuleHints.Text

/-- The Unicode property `White_Space`. -/
def isBlank (c : Char) : Bool :=
  let n := c.toNat
  n == 0x20 || (0x9 ≤ n && n ≤ 0xD) || n == 0x85 || n == 0xA0 || n == 0x1680 ||
    (0x2000 ≤ n && n ≤ 0x200A) || n == 0x2028 || n == 0x2029 || n == 0x202F || n == 0x205F ||
    n == 0x3000

def trimStart (t : Text) : Text := t.dropWhile isBlank

def trimEnd (t : Text) : Text := (t.reverse.dropWhile isBlank).reverse

def trim (t : Text) : Text := trimEnd (trimStart t)

def isAllBlank (t : Text) : Bool := t.all isBlank

example : trim "　 a b\t" = ("a b" : Text) := by decide

end RuleHints.Text
