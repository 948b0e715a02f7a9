import RuleHints.Document.Reading
import RuleHints.Yaml.Node

/-!
# What a YAML node means

A plain scalar has no type of its own. Where text is wanted every scalar is text; where a truth
value or a number is wanted, only a plain scalar spelt like one will do. Where nothing is known of
what is wanted, its spelling or its tag says what a scalar is.

A missing value, or a text without a document, is also an empty sequence and an empty mapping. A tag
of the document's own (`!name`) is refused wherever the type is not known. An alias is followed when
its node is read; one that nothing asks for costs nothing, even if it has no end.
-/

namespace RuleHints.Yaml

/-! ### Spellings -/

def isNullWord (t : Text) : Bool := ["null", "Null", "NULL", "~"].any (·.toList == t)

def bool? (t : Text) : Option Bool :=
  if ["true", "True", "TRUE"].any (·.toList == t) then some true
  else if ["false", "False", "FALSE"].any (·.toList == t) then some false
  else none

def dropSign (signs : List Char) : Text → Text
  | c :: t => if signs.contains c then t else c :: t
  | [] => []

def hasSign (t : Text) : Bool := t.head?.any fun c => c == '+' || c == '-'

/-- Digits with a needless zero in front, which are text and no number. -/
def isZeroPadded (t : Text) : Bool :=
  let t := dropSign ['-', '+'] t
  1 < t.length && t.head? == some '0' && t.all Text.isAsciiDigit

def marked? (mark : Text) (base bound : Nat) (t : Text) : Option Nat :=
  ((Text.dropLead? mark t).bind (Text.natural? base)).filter (· ≤ bound)

/-- A natural number up to `bound`: perhaps `+`, then a base other than ten or plain digits. -/
def natural? (bound : Nat) (t : Text) : Option Nat :=
  let digits := Text.dropLead "+" t
  match marked? "0x" 16 bound digits, marked? "0o" 8 bound digits, marked? "0b" 2 bound digits with
  | some n, _, _ | none, some n, _ | none, none, some n => some n
  | none, none, none =>
    if hasSign digits || isZeroPadded t then none
    else (Text.natural? 10 digits).filter (· ≤ bound)

def negative? (bound : Nat) (t : Text) : Option Nat :=
  match marked? "-0x" 16 bound t, marked? "-0o" 8 bound t, marked? "-0b" 2 bound t with
  | some n, _, _ | none, some n, _ | none, none, some n => some n
  | none, none, none =>
    if isZeroPadded t then none
    else ((Text.dropLead? "-" t).bind (Text.natural? 10)).filter (· ≤ bound)

def isDecimal (t : Text) : Bool :=
  let whole := t.takeWhile Text.isAsciiDigit
  let rest := t.dropWhile Text.isAsciiDigit
  let (fraction, rest) : Text × Text := match rest with
    | '.' :: rest => (rest.takeWhile Text.isAsciiDigit, rest.dropWhile Text.isAsciiDigit)
    | _ => ([], rest)
  let exponent : Bool := match rest with
    | [] => true
    | c :: rest => (c == 'e' || c == 'E') &&
      (let digits := dropSign ['-', '+'] rest
       !digits.isEmpty && digits.all Text.isAsciiDigit)
  !(whole.isEmpty && fraction.isEmpty) && exponent

/-- A decimal within the range of 64-bit floats. The exponent decides, with the place of the first
digit that counts. -/
def isFiniteDecimal (t : Text) : Bool :=
  let t := dropSign ['-', '+'] t
  isDecimal t &&
    (let whole := t.takeWhile Text.isAsciiDigit
     let rest := t.dropWhile Text.isAsciiDigit
     let (fraction, rest) : Text × Text := match rest with
       | '.' :: rest => (rest.takeWhile Text.isAsciiDigit, rest.dropWhile Text.isAsciiDigit)
       | _ => ([], rest)
     let digits := (Text.natural? 10 (whole ++ fraction)).getD 0
     let exponent : Int := match rest.drop 1 with
       | '-' :: e => -(((Text.natural? 10 e).getD 0 : Nat) : Int)
       | e => ((Text.natural? 10 (dropSign ['+'] e)).getD 0 : Nat)
     (Decimal.mk false digits (exponent - fraction.length)).isFinite)

def isFloat (t : Text) : Bool :=
  let digits := Text.dropLead "+" t
  [".inf", ".Inf", ".INF"].any (·.toList == digits) ||
    ["-.inf", "-.Inf", "-.INF", ".nan", ".NaN", ".NAN"].any (·.toList == t) ||
    ((digits.length == t.length || !hasSign digits) && isFiniteDecimal digits)

/-! ### Scalars by themselves -/

/-- An integer: at most 64 bits can be read, up to 128 bits it is refused. The outer absence says
that it is no integer. -/
def integer? (t : Text) : Option (Option Content) :=
  match natural? (Nat.pow 2 64 - 1) t with
  | some n => some (some (.natural n))
  | none =>
    if (negative? (Nat.pow 2 63) t).isSome then some (some .number)
    else if (natural? (Nat.pow 2 128 - 1) t).isSome || (negative? (Nat.pow 2 127) t).isSome then
      some none
    else none

def ofSpelling? (t : Text) : Option Content :=
  if t.isEmpty || isNullWord t then some .null
  else
    match bool? t, integer? t with
    | some b, _ => some (.bool b)
    | none, some content => content
    | none, none => if !isZeroPadded t && isFloat t then some .number else some (.text t)

/-- A scalar by its tag, its style and its text; none if it is refused. A tag that begins like a
local one but is no text leaves a plain scalar to its spelling. -/
def ofScalar? (tag : Option Tag) (style : Style) (t : Text) : Option Content :=
  match tag with
  | none => if style == .plain then ofSpelling? t else some (.text t)
  | some tag =>
    if tag.isLocal then none
    else if tag = Tag.core "bool" then (bool? t).map .bool
    else if tag = Tag.core "int" then (integer? t).getD none
    else if tag = Tag.core "float" then (if isFloat t then some .number else none)
    else if tag = Tag.core "null" then (if isNullWord t then some .null else none)
    else if tag.isMarked && style == .plain then ofSpelling? t
    else some (.text t)

/-! ### Parts -/

structure Part where
  document : Document
  node : Node
  room : Nat

def nestingLimit : Nat := 128

def Document.part (document : Document) : Part := ⟨document, document.root, nestingLimit⟩

namespace Document

def followed (document : Document) : Node → Read Node
  | .alias number => do
    Read.follow
    Read.ofOption (document.target? number)
  | node => return node

def content (document : Document) : Nat → Node → Read Content
  | room, node => do
    match ← document.followed node, room with
    | .nothing, _ => return .null
    | .scalar tag style t, _ => Read.ofOption (ofScalar? tag style t)
    | .sequence tag items, room + 1 =>
      if tag.any Tag.isLocal then failure
      return .list (← items.mapM (document.content room))
    | .mapping tag entries, room + 1 =>
      if tag.any Tag.isLocal then failure
      return .record (← entries.mapM fun (entry : Node × Node) => do
        return (← document.content room entry.1, ← document.content room entry.2))
    | _, _ => failure

end Document

namespace Part

def followed (part : Part) : Read Part := do
  return { part with node := ← part.document.followed part.node }

def inner (part : Part) (node : Node) : Part := { part with node, room := part.room - 1 }

def mayBe (typeName : Text) (tag : Option Tag) (style : Style) : Bool :=
  style == .plain || (style == .literal && tag == some (Tag.core typeName))

def isMissing : Node → Bool
  | .nothing => true
  | .scalar _ .plain [] => true
  | _ => false

/-- A plain scalar stands for nothing. Its tag may say so, and is then refused with any other text;
none if it is. -/
def isNull? (tag : Option Tag) (t : Text) : Option Bool :=
  match tag with
  | none => some (t.isEmpty || isNullWord t)
  | some tag =>
    if tag = Tag.core "null" then (if isNullWord t then some true else none) else some false

def reading : Reading Part where
  text part := do
    match (← part.followed).node with
    | .scalar _ _ t => return t
    | _ => failure
  bool part := do
    match (← part.followed).node with
    | .scalar tag style t => Read.ofOption (if mayBe "bool" tag style then bool? t else none)
    | _ => failure
  natural part := do
    match (← part.followed).node with
    | .scalar tag style t =>
      Read.ofOption (if mayBe "int" tag style then natural? natural64Max t else none)
    | _ => failure
  present part := do
    let part ← part.followed
    match part.node with
    | .nothing => return none
    | .scalar tag .plain t => return if ← Read.ofOption (isNull? tag t) then none else some part
    | _ => return some part
  items part := do
    match (← part.followed).node with
    | .sequence _ items => return items.map part.inner
    | node => if isMissing node then return [] else failure
  record part := do
    match (← part.followed).node with
    | .mapping _ entries =>
      return .named (← entries.mapM fun (entry : Node × Node) => do
        match (← (part.inner entry.1).followed).node with
        | .scalar _ _ name => return (FieldKey.name name, part.inner entry.2)
        | _ => failure)
    | node => if isMissing node then return .named [] else failure
  content part := part.document.content part.room part.node

end Part

end RuleHints.Yaml
