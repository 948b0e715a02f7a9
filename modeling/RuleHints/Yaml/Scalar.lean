import RuleHints.Yaml.Cell

/-!
# Scalars

The text of a scalar in each of its styles. Ends of lines inside plain and quoted scalars are
folded: one becomes a space, more become one less. Block scalars keep or fold them by their header.

Each reader takes the cells after what announces the scalar, and gives the text and the cells that
are left.
-/

namespace RuleHints.Yaml

inductive Style where
  | plain
  | singleQuoted
  | doubleQuoted
  | literal
  | folded
  deriving DecidableEq, Repr

/-! ### Folding -/

/-- Blanks that were read but whose meaning depends on what follows. `spaces` holds blanks on the
same line, the last one first. After an end of line, `ended` is set: `first` is that end, unless it
was escaped, and `more` are the ends after it, the last one first. -/
structure Gap where
  spaces : Text := []
  ended : Bool := false
  first : Option Char := none
  more : Text := []

namespace Gap

def isEmpty (gap : Gap) : Bool := gap.spaces.isEmpty && !gap.ended

def push (gap : Gap) (c : Char) : Gap :=
  if isBreak c then
    if gap.ended then { gap with more := c :: gap.more } else { ended := true, first := some c }
  else if gap.ended then gap
  else { gap with spaces := c :: gap.spaces }

def fold (gap : Gap) : Text :=
  if !gap.ended then gap.spaces
  else if gap.first = some '\n' then (if gap.more.isEmpty then [' '] else gap.more)
  else gap.more ++ gap.first.toList

end Gap

/-! ### Plain scalars -/

/-- A plain scalar that was read in part: its text with the last character first, and the gap after
it. -/
structure Plain where
  text : Text := []
  gap : Gap := {}

def isFlowIndicator (c : Char) : Bool := [',', '[', ']', '{', '}'].contains c

/-- Reads a plain scalar. Outside brackets, lines have to be indented by `indent`. -/
def readPlain? (flow : Bool) (indent : Int) (sofar : Plain) :
    List Cell → Option (Plain × List Cell)
  | [] => some (sofar, [])
  | cell :: rest =>
    let c := cell.char
    let cells := cell :: rest
    if isSpaceOrTab c || isBreak c then
      if c == '\t' && sofar.gap.ended && (cell.mark.column : Int) < indent then none
      else readPlain? flow indent { sofar with gap := sofar.gap.push c } rest
    else if !sofar.gap.isEmpty && ((!flow && (cell.mark.column : Int) < indent) || c == '#') then
      some (sofar, cells)
    else if sofar.gap.ended && atAnyDocumentMark cells then some (sofar, cells)
    else if flow && c == ':' && startsAs (fun d => isFlowIndicator d || d == '?') rest then none
    else if (c == ':' && atGap rest) || (flow && isFlowIndicator c) then some (sofar, cells)
    else readPlain? flow indent { text := c :: sofar.gap.fold ++ sofar.text } rest

/-! ### Quoted scalars -/

def escape? (c : Char) : Option Char :=
  match c with
  | '0' => some (Char.ofNat 0)
  | 'a' => some (Char.ofNat 7)
  | 'b' => some (Char.ofNat 8)
  | 't' | '\t' => some '\t'
  | 'n' => some '\n'
  | 'v' => some (Char.ofNat 11)
  | 'f' => some (Char.ofNat 12)
  | 'r' => some '\r'
  | 'e' => some (Char.ofNat 27)
  | ' ' | '"' | '/' | '\\' => some c
  | 'N' => some (Char.ofNat 0x85)
  | '_' => some (Char.ofNat 0xA0)
  | 'L' => some (Char.ofNat 0x2028)
  | 'P' => some (Char.ofNat 0x2029)
  | _ => none

def escapeDigits? (c : Char) : Option Nat :=
  match c with
  | 'x' => some 2
  | 'u' => some 4
  | 'U' => some 8
  | _ => none

def scalar? (n : Nat) : Option Char := if n.isValidChar then some (Char.ofNat n) else none

inductive Quoted where
  | text (gap : Gap)
  | digits (left value : Nat)

/-- Reads a quoted scalar after its first quote; `text` has the last character first. -/
def readQuoted? (double : Bool) (text : Text) (state : Quoted) :
    List Cell → Option (Text × List Cell)
  | [] => none
  | cell :: rest =>
    let c := cell.char
    match state with
    | .digits left value => do
      let value := value * 16 + (← Text.digitValue? 16 c)
      if left ≤ 1 then readQuoted? double ((← scalar? value) :: text) (.text {}) rest
      else readQuoted? double text (.digits (left - 1) value) rest
    | .text gap =>
      if atAnyDocumentMark (cell :: rest) then none
      else if isSpaceOrTab c || isBreak c then readQuoted? double text (.text (gap.push c)) rest
      else
        let text := gap.fold ++ text
        if double && c == '"' then some (text.reverse, rest)
        else if double && c == '\\' then
          match rest with
          | [] => none
          | next :: rest =>
            if isBreak next.char then readQuoted? double text (.text { ended := true }) rest
            else
              match escapeDigits? next.char with
              | some digits => readQuoted? double text (.digits digits 0) rest
              | none => do readQuoted? double ((← escape? next.char) :: text) (.text {}) rest
        else if !double && c == '\'' then
          match rest with
          | next :: after =>
            if next.char == '\'' then readQuoted? double ('\'' :: text) (.text {}) after
            else some (text.reverse, rest)
          | [] => some (text.reverse, rest)
        else readQuoted? double (c :: text) (.text {}) rest

/-! ### Block scalars -/

inductive Chomp where
  | strip
  | clip
  | keep
  deriving DecidableEq, Repr

/-- The signs after the mark of a block scalar, in either order: the chomping, and how much deeper
than the parent the text is indented. -/
def readHeader? (cells : List Cell) : Option (Chomp × Option Nat × List Cell) :=
  let chomp? (cells : List Cell) : Option (Chomp × List Cell) :=
    match cells with
    | ⟨'+', _⟩ :: rest => some (.keep, rest)
    | ⟨'-', _⟩ :: rest => some (.strip, rest)
    | _ => none
  let depth? (cells : List Cell) : Option (Option Nat × List Cell) :=
    match cells with
    | cell :: rest =>
      match Text.digitValue? 10 cell.char with
      | some 0 => none
      | some n => some (some n, rest)
      | none => some (none, cells)
    | [] => some (none, cells)
  match chomp? cells with
  | some (chomp, rest) => (depth? rest).map fun (depth, rest) => (chomp, depth, rest)
  | none => do
    let (depth, rest) ← depth? cells
    match depth, chomp? rest with
    | some _, some (chomp, rest) => return (chomp, depth, rest)
    | _, _ => return (.clip, depth, rest)

def lineStarts : List Cell → List (List Cell)
  | [] => []
  | cell :: rest => if isBreak cell.char then rest :: lineStarts rest else lineStarts rest

/-- A block scalar that was read in part. `indent` is zero until the first line of text gives it;
`deepest` is the deepest column reached before that. `lastEnd` is the end of the last line of text
and `more` the ends of empty lines after it, the last one first. -/
structure Block where
  indent : Nat
  deepest : Nat := 0
  text : Text := []
  lastEnd : Option Char := none
  more : Text := []
  leadingBlank : Bool := false

namespace Block

/-- The ends of lines before another line of text, the last one first. When folding, a single one
between two lines that do not start with a blank becomes a space. -/
def join (folded nextBlank : Bool) (block : Block) : Text :=
  if folded && block.lastEnd == some '\n' && !block.leadingBlank && !nextBlank then
    block.more ++ (if block.more.isEmpty then [' '] else [])
  else block.more ++ block.lastEnd.toList

def finish (chomp : Chomp) (block : Block) : Text :=
  (match chomp with
    | .strip => block.text
    | .clip => block.lastEnd.toList ++ block.text
    | .keep => block.more ++ block.lastEnd.toList ++ block.text).reverse

end Block

def dropSpaces : Nat → List Cell → List Cell
  | n + 1, ⟨' ', _⟩ :: rest => dropSpaces n rest
  | _, cells => cells

/-- Reads the lines of a block scalar below a parent indented by `parent`. Gives the cells from the
first line that is not part of it. -/
def readBlock? (folded : Bool) (parent : Int) (block : Block) :
    List (List Cell) → Option (Block × List Cell)
  | [] => some (block, [])
  | line :: lines =>
    let known := block.indent != 0
    let body := if known then dropSpaces block.indent line
      else line.dropWhile (·.char == ' ')
    let here := column body
    let deepest := max block.deepest here
    if body.isEmpty then some (block, [])
    else if startsAs (· == '\t') body && (!known || here < block.indent) then none
    else if startsAs isBreak body then
      readBlock? folded parent
        { block with deepest, more := chars (body.take 1) ++ block.more } lines
    else
      let indent := if known then block.indent else max (max deepest (parent + 1).toNat) 1
      if here != indent then some ({ block with indent }, body)
      else
        let nextBlank := startsAs isSpaceOrTab body
        let content := body.takeWhile fun cell => !isBreak cell.char
        let rest := body.dropWhile fun cell => !isBreak cell.char
        readBlock? folded parent
          { indent, deepest
            text := (chars content).reverse ++ block.join folded nextBlank ++ block.text
            lastEnd := rest.head?.map (·.char)
            leadingBlank := nextBlank } lines

end RuleHints.Yaml
