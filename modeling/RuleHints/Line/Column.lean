import RuleHints.Text.Blank

/-!
# Columns of a line

A line is a pattern followed by words, up to a comment that starts at the first `#`. A column is a
position between two characters. `wordStart` and `wordEnd` give the ends of the word around a
column. A column is held in a word of 64 bits, and `shift` is the one sum of columns that can be too
large for it.
-/

namespace RuleHints.Line

def isWordChar (c : Char) : Bool := !Text.isBlank c

def commentStart? (line : Text) : Option Nat := line.findIdx? (· == '#')

def trailingWord (t : Text) : Text := (t.reverse.takeWhile isWordChar).reverse

/-- The column at which the word before the cursor starts. A cursor past the end stands at the end.
-/
def wordStart (line : Text) (cursor : Nat) : Nat :=
  min cursor line.length - (trailingWord (line.take cursor)).length

/-- The column at which a word that starts at `start` ends: at a blank, at the comment or at the end
of the line. -/
def wordEnd (line : Text) (start : Nat) : Nat :=
  let limit := (commentStart? line).getD line.length
  start + (((line.take limit).drop start).takeWhile isWordChar).length

def slice (line : Text) (start stop : Nat) : Text := (line.take stop).drop start

/-- A column moved to the right. A sum that is too large wraps round. -/
def shift (column offset : Nat) : Nat := (column + offset) % UInt64.size

/-- The sum of the column and the offset is too large. Where sums are checked, nothing comes after it.
-/
def shiftOverflows (column offset : Nat) : Bool := UInt64.size ≤ column + offset

end RuleHints.Line
