import RuleHints.Text.Casing
import RuleHints.Text.Normal
import RuleHints.Url.NameTable
import RuleHints.Url.Percent
import RuleHints.Url.Punycode

/-!
# International names

The name of a host may hold any characters. `Name.toAscii?` gives its usual form: characters are
mapped, the result is put into normal form, and each label with other characters than ASCII is
written in Punycode after `xn--`. A label that is already written so has to stand for a usual one.
-/

namespace RuleHints.Url.Name

/-! ### Characters -/

def isDenied (c : Char) : Bool := controls c || (" %#/:<>?@[\\]^|" : Text).contains c

def mapChar? (c : Char) : Option Text :=
  if c.toNat < 0x80 then some [c.toLower]
  else if Text.Row.covers ignoredRows c then some []
  else
    match Text.Row.image? mappedRows c with
    | some image => some image
    | none => if Text.Row.covers refusedRows c then none else some (Text.lower [c])

def isUsual (c : Char) : Bool := mapChar? c = some [c] && !isDenied c

inductive Direction where
  | left
  | right
  | arabic
  | arabicNumber
  | number
  | numberSign
  | numberSeparator
  | numberEnd
  | neutral
  | boundary
  | mark
  deriving DecidableEq, Repr

def direction (c : Char) : Direction :=
  match Text.Row.number directionRows c with
  | 1 => .right
  | 2 => .arabic
  | 3 => .arabicNumber
  | 4 => .number
  | 5 => .numberSign
  | 6 => .numberSeparator
  | 7 => .numberEnd
  | 8 => .neutral
  | 9 => .boundary
  | 10 => .mark
  | _ => .left

def isMark (c : Char) : Bool := Text.Row.covers markRows c

/-! ### Joiners -/

def isVirama (c : Char) : Bool := Text.combiningClass c = 9

def isTransparent (c : Char) : Bool := Text.Row.number joiningRows c = 4

def joinsNext (c : Char) : Bool := [1, 2].contains (Text.Row.number joiningRows c)

def joinsPrevious (c : Char) : Bool := [1, 3].contains (Text.Row.number joiningRows c)

/-- Joiners stand only where they matter; `before` is what stands before, the last character first.
-/
def joinersFit (before : Text) : Text → Bool
  | [] => true
  | c :: rest =>
    let afterVirama := (before.head?.map isVirama).getD false
    let between :=
      (((before.dropWhile isTransparent).head?).map joinsNext).getD false &&
        (((rest.dropWhile isTransparent).head?).map joinsPrevious).getD false
    let fits :=
      if c.toNat = 0x200C then afterVirama || between
      else if c.toNat = 0x200D then afterVirama
      else true
    fits && joinersFit (c :: before) rest

/-! ### Directions -/

def hasRight (label : Text) : Bool :=
  label.any fun c => [Direction.right, .arabic, .arabicNumber].contains (direction c)

def lastDirection? (label : Text) : Option Direction :=
  ((label.map direction).reverse.dropWhile (· = .mark)).head?

def commonDirections : List Direction :=
  [.number, .numberSign, .numberSeparator, .numberEnd, .neutral, .boundary, .mark]

def directionsFit (label : Text) : Bool :=
  let all := label.map direction
  let last := lastDirection? label
  match all with
  | [] => true
  | .left :: _ =>
    all.all (fun d => d = .left || commonDirections.contains d) &&
      (last = some .left || last = some .number)
  | .right :: _ | .arabic :: _ =>
    all.all (fun d => [.right, .arabic, .arabicNumber].contains d || commonDirections.contains d) &&
      (last.map fun d => [.right, .arabic, .number, .arabicNumber].contains d).getD false &&
      !(all.contains .number && all.contains .arabicNumber)
  | _ => false

/-! ### Labels -/

def punycodeLead : Text := "xn--"

/-- The most characters that a label of other characters than ASCII may have. -/
def longestLabel : Nat := 1000

/-- The most characters that may follow what a label in Punycode begins with. -/
def longestDigits : Nat := 2000

def isAscii (label : Text) : Bool := label.all (·.toNat < 0x80)

def decodeLabel? (digits : Text) : Option Text := do
  if longestDigits < digits.length then none
  let label ← Punycode.decode? digits
  if !isAscii label && label.all isUsual && Text.normal label = label then some label
  else none

def readLabel? (label : Text) : Option Text :=
  match Text.dropLead? punycodeLead label with
  | some digits => decodeLabel? digits
  | none => if label.any isDenied then none else some label

def isLabel (label : Text) : Bool :=
  !(label.head?.map isMark).getD false && joinersFit [] label &&
    (isAscii label || label.length ≤ longestLabel)

def writeLabel (label : Text) : Text :=
  if isAscii label then label else punycodeLead ++ Punycode.encode label

def toAscii? (name : Text) : Option Text := do
  let mapped := (← name.mapM mapChar?).flatten
  let labels ← ((Text.normal mapped).splitOn '.').mapM readLabel?
  if labels.all isLabel && (!labels.any hasRight || labels.all directionsFit) then
    some (List.intercalate "." (labels.map writeLabel))
  else none

end RuleHints.Url.Name
