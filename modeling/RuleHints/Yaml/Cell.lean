import RuleHints.Text.Basic

/-!
# Cells

A YAML document is read as a list of cells: characters with the line and column they stand at.
Indentation and the ends of lines matter, so the position is kept with the character. Every end of a
line is one cell; the carriage return and the next-line character are read as a line feed, while the
two Unicode separators stay what they are.
-/

namespace RuleHints.Yaml

/-- A place in a document; `index` counts the bytes of UTF-8 before it. -/
structure Mark where
  line : Nat
  column : Nat
  index : Nat
  deriving DecidableEq, Repr

structure Cell where
  char : Char
  mark : Mark
  deriving DecidableEq, Repr

/-- Ends a line, once other ends of lines are read as line feeds. -/
def isBreak (c : Char) : Bool := c == '\n' || c.toNat == 0x2028 || c.toNat == 0x2029

def isSpaceOrTab (c : Char) : Bool := c == ' ' || c == '\t'

def isAllowed (c : Char) : Bool :=
  let n := c.toNat
  n == 0x9 || n == 0xA || n == 0xD || (0x20 ≤ n && n ≤ 0x7E) || n == 0x85 ||
    (0xA0 ≤ n && n != 0xFFFE && n != 0xFFFF)

namespace Cell

def ofText (mark : Mark) : Text → List Cell
  | [] => []
  | '\r' :: '\n' :: t => ⟨'\n', mark⟩ :: ofText ⟨mark.line + 1, 0, mark.index + 2⟩ t
  | written :: t =>
    let c := if written == '\r' || written.toNat == 0x85 then '\n' else written
    let index := mark.index + written.utf8Size
    let next : Mark :=
      if isBreak c then ⟨mark.line + 1, 0, index⟩ else ⟨mark.line, mark.column + 1, index⟩
    ⟨c, mark⟩ :: ofText next t

def ofText? (t : Text) : Option (List Cell) :=
  if t.all isAllowed then some (ofText ⟨0, 0, 0⟩ t) else none

end Cell

def chars (cells : List Cell) : Text := cells.map (·.char)

/-- The column at which cells start; the end of the document stands in the first column. -/
def column (cells : List Cell) : Nat := (cells.head?.map (·.mark.column)).getD 0

def startsAs (p : Char → Bool) (cells : List Cell) : Bool := cells.head?.any fun cell => p cell.char

def atGap (cells : List Cell) : Bool :=
  cells.isEmpty || startsAs (fun c => isSpaceOrTab c || isBreak c) cells

def atLineEnd (cells : List Cell) : Bool := cells.isEmpty || startsAs isBreak cells

/-- `mark` of three characters alone at the start of a line, which begins or ends a document. -/
def atDocumentMark (mark : Text) (cells : List Cell) : Bool :=
  column cells == 0 && chars (cells.take 3) == mark && atGap (cells.drop 3)

def atAnyDocumentMark (cells : List Cell) : Bool :=
  atDocumentMark "---" cells || atDocumentMark "..." cells

end RuleHints.Yaml
