import RuleHints.Yaml.Scalar
import RuleHints.Yaml.Tag

/-!
# Tokens of YAML

`Token.scan?` cuts a document into tokens. Indentation is turned into tokens of its own: a block
collection starts where the text goes deeper and ends where it comes back.

A key is not announced in front of it. A place where a key may start is remembered; when a `:`
follows, the tokens for the key are put in at that place. Inside brackets each level has its own
place. A key has to be on one line, and no key is longer than 1024 bytes.
-/

namespace RuleHints.Yaml

inductive Sign where
  | documentStart | documentEnd
  | blockSequenceStart | blockMappingStart | blockEnd
  | flowSequenceStart | flowSequenceEnd | flowMappingStart | flowMappingEnd
  | blockEntry | flowEntry | key | value
  deriving DecidableEq, Repr

inductive Token where
  | version (major minor : Nat)
  | tagDirective (handle : Text) (lead : Tag)
  | sign (s : Sign)
  | alias (name : Text)
  | anchor (name : Text)
  | tag (handle : Text) (suffix : Tag)
  | scalar (style : Style) (text : Text)
  deriving Repr

/-- A place where a key may have started: before the token of that number. A required key is one
that the indentation asks for. -/
structure KeyStart where
  token : Nat
  required : Bool
  mark : Mark

/-- The state of a scan. `keys` has one place for each level of brackets, the innermost first. -/
structure Scan where
  cells : List Cell
  tokens : Array Token := #[]
  indent : Int := -1
  outer : List Int := []
  keyAllowed : Bool := true
  keys : List (Option KeyStart) := [none]

namespace Scan

def inFlow (s : Scan) : Bool := 1 < s.keys.length

def mark (s : Scan) : Mark :=
  match s.cells with
  | cell :: _ => cell.mark
  | [] => ⟨0, 0, 0⟩

def emit (t : Token) (s : Scan) : Scan := { s with tokens := s.tokens.push t }

def drop (n : Nat) (s : Scan) : Scan := { s with cells := s.cells.drop n }

/-! ### Indentation -/

/-- Goes deeper, to `column`, and puts the start of a collection before token `at?`, or at the end.
-/
def roll (column : Nat) (at? : Option Nat) (sign : Sign) (s : Scan) : Scan :=
  if s.inFlow || (column : Int) ≤ s.indent then s
  else
    { s with
      outer := s.indent :: s.outer
      indent := column
      tokens := match at? with
        | some i => s.tokens.insertIdxIfInBounds i (.sign sign)
        | none => s.tokens.push (.sign sign) }

def unrollFrom (column : Int) (tokens : Array Token) : Int → List Int → Array Token × Int × List Int
  | indent, [] => (tokens, indent, [])
  | indent, up :: outer =>
    if column < indent then unrollFrom column (tokens.push (.sign .blockEnd)) up outer
    else (tokens, indent, up :: outer)

def unroll (column : Int) (s : Scan) : Scan :=
  if s.inFlow then s
  else
    let (tokens, indent, outer) := unrollFrom column s.tokens s.indent s.outer
    { s with tokens, indent, outer }

/-! ### Keys -/

def removeKey? (s : Scan) : Option Scan :=
  match s.keys with
  | some k :: keys => if k.required then none else some { s with keys := none :: keys }
  | _ => some s

def saveKey? (s : Scan) : Option Scan :=
  if !s.keyAllowed then some s
  else do
    let required := !s.inFlow && s.indent == (s.mark.column : Int)
    let s ← s.removeKey?
    return { s with keys := some ⟨s.tokens.size, required, s.mark⟩ :: s.keys.drop 1 }

def forgetStale? (s : Scan) : Option Scan :=
  if s.cells.isEmpty then some s
  else do
    let keys ← s.keys.mapM fun key =>
      match key with
      | some k =>
        if k.mark.line < s.mark.line || k.mark.index + 1024 < s.mark.index then
          if k.required then none else some none
        else some (some k)
      | none => some none
    return { s with keys }

/-! ### Between tokens -/

/-- Passes over blanks, comments and ends of lines; `comment` is set inside a comment. A tab is a
blank only where no key may start. A byte order mark is a blank at the start of a line. -/
def toNextToken (inFlow : Bool) (comment keyAllowed : Bool) : List Cell → List Cell × Bool
  | [] => ([], keyAllowed)
  | cell :: rest =>
    let c := cell.char
    if isBreak c then toNextToken inFlow false (keyAllowed || !inFlow) rest
    else if comment then toNextToken inFlow true keyAllowed rest
    else if c == ' ' || (c == '\t' && (inFlow || !keyAllowed)) ||
        (c.toNat == 0xFEFF && cell.mark.column == 0) then
      toNextToken inFlow false keyAllowed rest
    else if c == '#' then toNextToken inFlow true keyAllowed rest
    else (cell :: rest, keyAllowed)

/-! ### Directives, anchors and tags -/

def isNameChar (c : Char) : Bool :=
  Text.isAsciiLetter c || Text.isAsciiDigit c || c == '_' || c == '-'

def span (p : Char → Bool) (cells : List Cell) : Text × List Cell :=
  (chars (cells.takeWhile fun cell => p cell.char), cells.dropWhile fun cell => p cell.char)

def endLine? (cells : List Cell) : Option (List Cell) :=
  let rest := (span isSpaceOrTab cells).2
  let rest := if startsAs (· == '#') rest then (span (fun c => !isBreak c) rest).2 else rest
  if atLineEnd rest then some rest else none

def isUriChar (c : Char) : Bool :=
  isNameChar c || ";/?:@&=+$.!~*'()%".toList.contains c

def isWideUriChar (c : Char) : Bool := isUriChar c || [',', '[', ']'].contains c

def readHandle? (cells : List Cell) : Option (Text × List Cell) :=
  match cells with
  | ⟨'!', _⟩ :: rest =>
    let (name, rest) := span isNameChar rest
    match rest with
    | ⟨'!', _⟩ :: rest => some ('!' :: name ++ ['!'], rest)
    | _ => some ('!' :: name, rest)
  | _ => none

def readDirective? (cells : List Cell) : Option (Token × List Cell) := do
  let (name, rest) := span isNameChar cells
  if !atGap rest then none else
  let (_, rest) := span isSpaceOrTab rest
  if name = "YAML" then
    let (major, rest) := span Text.isAsciiDigit rest
    let rest ← match rest with
      | ⟨'.', _⟩ :: rest => some rest
      | _ => none
    let (minor, rest) := span Text.isAsciiDigit rest
    if 9 < major.length || 9 < minor.length then none else
    return (.version (← Text.natural? 10 major) (← Text.natural? 10 minor), ← endLine? rest)
  else if name = "TAG" then
    let (handle, rest) ← readHandle? rest
    if handle != "!" && handle.getLast? != some '!' then none else
    if !startsAs isSpaceOrTab rest then none else
    let (_, rest) := span isSpaceOrTab rest
    let (lead, rest) := span isWideUriChar rest
    if lead.isEmpty || !atGap rest then none else
    return (.tagDirective handle (← Tag.unescape? lead), ← endLine? rest)
  else none

def readName? (cells : List Cell) : Option (Text × List Cell) :=
  let (name, rest) := span isNameChar cells
  if name.isEmpty then none
  else if atGap rest || startsAs ("?:,]\x7d%@`".toList.contains ·) rest then some (name, rest)
  else none

def readTag? (inFlow : Bool) (cells : List Cell) : Option (Token × List Cell) := do
  let (token, rest) ← match cells with
    | ⟨'!', _⟩ :: ⟨'<', _⟩ :: rest =>
      let (address, rest) := span isWideUriChar rest
      match rest with
      | ⟨'>', _⟩ :: rest =>
        if address.isEmpty then none else some (Token.tag [] (← Tag.unescape? address), rest)
      | _ => none
    | _ =>
      let (handle, rest) ← readHandle? cells
      if 1 < handle.length && handle.getLast? == some '!' then
        let (suffix, rest) := span isUriChar rest
        if suffix.isEmpty then none else some (Token.tag handle (← Tag.unescape? suffix), rest)
      else
        let (more, rest) := span isUriChar rest
        let suffix ← Tag.unescape? (handle.drop 1 ++ more)
        if suffix.isEmpty then some (Token.tag [] Tag.unspecific, rest)
        else some (Token.tag "!" suffix, rest)
  if atGap rest || (inFlow && startsAs (· == ',') rest) then return (token, rest) else none

/-! ### One token -/

def leaveDocument? (s : Scan) : Option Scan := do
  return { (← (s.unroll (-1)).removeKey?) with keyAllowed := false }

def beginNode? (s : Scan) : Option Scan := do return { (← s.saveKey?) with keyAllowed := false }

def openFlow? (sign : Sign) (s : Scan) : Option Scan := do
  let s ← s.saveKey?
  return { (s.emit (.sign sign)).drop 1 with keys := none :: s.keys, keyAllowed := true }

def closeFlow? (sign : Sign) (s : Scan) : Option Scan := do
  let s ← s.removeKey?
  let keys := if s.inFlow then s.keys.drop 1 else s.keys
  return { (s.emit (.sign sign)).drop 1 with keys, keyAllowed := false }

def blockMark? (collection sign : Sign) (keyAllowed : Bool) (s : Scan) : Option Scan := do
  if !s.inFlow && !s.keyAllowed then none else
  let s ← (s.roll s.mark.column none collection).removeKey?
  return { (s.emit (.sign sign)).drop 1 with keyAllowed }

/-- The mark of a value. If a key may have started on this level, its tokens are put in there. -/
def valueMark? (s : Scan) : Option Scan :=
  match s.keys with
  | some k :: keys =>
    let tokens := s.tokens.insertIdxIfInBounds k.token (.sign .key)
    let s := { s with tokens, keys := none :: keys }
    let s := s.roll k.mark.column (some k.token) .blockMappingStart
    some { (s.emit (.sign .value)).drop 1 with keyAllowed := false }
  | _ =>
    if !s.inFlow && !s.keyAllowed then none
    else
      let s := s.roll s.mark.column none .blockMappingStart
      some { (s.emit (.sign .value)).drop 1 with keyAllowed := !s.inFlow }

def blockScalar? (style : Style) (s : Scan) : Option Scan := do
  let s ← s.removeKey?
  let (chomp, depth, rest) ← readHeader? (s.cells.drop 1)
  let rest ← endLine? rest
  let indent := (depth.map fun d => ((max s.indent 0) + d).toNat).getD 0
  let (block, rest) ← readBlock? (style == .folded) s.indent { indent } (lineStarts rest)
  return { (s.emit (.scalar style (block.finish chomp))) with cells := rest, keyAllowed := true }

def quotedScalar? (double : Bool) (s : Scan) : Option Scan := do
  let s ← s.beginNode?
  let (text, rest) ← readQuoted? double [] (.text {}) (s.cells.drop 1)
  let style := if double then Style.doubleQuoted else .singleQuoted
  return { s.emit (.scalar style text) with cells := rest }

/-- A plain scalar. After an end of line, a key may start again. -/
def plainScalar? (s : Scan) : Option Scan := do
  let s ← s.beginNode?
  let (plain, rest) ← readPlain? s.inFlow (s.indent + 1) {} s.cells
  return { s.emit (.scalar .plain plain.text.reverse) with
    cells := rest, keyAllowed := plain.gap.ended }

def startsPlain (inFlow : Bool) (c : Char) (rest : List Cell) : Bool :=
  !("\t-?:,[]\x7b\x7d#&*!|>'\"%@`".toList.contains c) ||
    (c == '-' && !startsAs isSpaceOrTab rest) ||
    (!inFlow && (c == '?' || c == ':') && !atGap rest)

def token? (c : Char) (rest : List Cell) (s : Scan) : Option Scan :=
  if c == '%' && s.mark.column == 0 then do
    let s ← s.leaveDocument?
    let (t, rest) ← readDirective? rest
    return { s.emit t with cells := rest }
  else if atDocumentMark "---" s.cells then do
    return (((← s.leaveDocument?).emit (.sign .documentStart)).drop 3)
  else if atDocumentMark "..." s.cells then do
    return (((← s.leaveDocument?).emit (.sign .documentEnd)).drop 3)
  else if c == '[' then s.openFlow? .flowSequenceStart
  else if c == '{' then s.openFlow? .flowMappingStart
  else if c == ']' then s.closeFlow? .flowSequenceEnd
  else if c == '}' then s.closeFlow? .flowMappingEnd
  else if c == ',' then do
    return { (((← s.removeKey?).emit (.sign .flowEntry)).drop 1) with keyAllowed := true }
  else if c == '-' && atGap rest then s.blockMark? .blockSequenceStart .blockEntry true
  else if c == '?' && (s.inFlow || atGap rest) then
    s.blockMark? .blockMappingStart .key (!s.inFlow)
  else if c == ':' && (s.inFlow || atGap rest) then s.valueMark?
  else if c == '*' || c == '&' then do
    let s ← s.beginNode?
    let (name, rest) ← readName? rest
    return { s.emit (if c == '*' then .alias name else .anchor name) with cells := rest }
  else if c == '!' then do
    let s ← s.beginNode?
    let (t, rest) ← readTag? s.inFlow s.cells
    return { s.emit t with cells := rest }
  else if c == '|' && !s.inFlow then s.blockScalar? .literal
  else if c == '>' && !s.inFlow then s.blockScalar? .folded
  else if c == '\'' then s.quotedScalar? false
  else if c == '"' then s.quotedScalar? true
  else if startsPlain s.inFlow c rest then s.plainScalar?
  else none

/-- Scans the tokens that are left. Every token takes at least one character, so `left` characters
bound their number. -/
def run? : Nat → Scan → Option (Array Token)
  | 0, _ => none
  | left + 1, s => do
    let (cells, keyAllowed) := toNextToken s.inFlow false s.keyAllowed s.cells
    let s ← { s with cells, keyAllowed }.forgetStale?
    match s.cells with
    | [] => return (← (s.unroll (-1)).removeKey?).tokens
    | cell :: rest => run? left (← (s.unroll cell.mark.column).token? cell.char rest)

end Scan

def Token.scan? (t : Text) : Option (List Token) := do
  let cells ← Cell.ofText? t
  return (← Scan.run? (cells.length + 1) { cells }).toList

end RuleHints.Yaml
