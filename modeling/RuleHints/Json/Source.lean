import RuleHints.Json.Basic

/-!
# Reading data

A well-formed JSON document is first read as a `Source`: the tree of what is written, before it is
asked what the parts mean. A part that nobody asks about may hold an unpaired surrogate, a number
out of range or any depth of nesting; a part that is read as data may not.

* `Lexeme.scan?` cuts a document into lexemes with an automaton that sees one character at a time.
* `Source.ofText?` builds the tree from the lexemes with an explicit stack of open containers.
* `Source.data?` reads a tree as a value. `room` is the number of levels of nesting still allowed.
-/

namespace RuleHints.Json

/-! ### Strings and numbers as written -/

/-- Joins code points to text, where two escapes may form a surrogate pair; none if a surrogate
stays alone. -/
def joinSurrogates? : List Nat → Option Text
  | [] => some []
  | n :: rest =>
    if 0xD800 ≤ n ∧ n < 0xDC00 then
      match rest with
      | m :: rest =>
        if 0xDC00 ≤ m ∧ m < 0xE000 then
          (joinSurrogates? rest).map
            (Char.ofNat (0x10000 + (n - 0xD800) * 0x400 + (m - 0xDC00)) :: ·)
        else none
      | [] => none
    else if 0xDC00 ≤ n ∧ n < 0xE000 then none
    else (joinSurrogates? rest).map (Char.ofNat n :: ·)

def exponent? : Text → Option Int
  | '-' :: t => (Text.natural? 10 t).map fun n => -(n : Int)
  | '+' :: t => (Text.natural? 10 t).map Int.ofNat
  | t => (Text.natural? 10 t).map Int.ofNat

/-- A number without its sign: digits without a needless zero in front, then perhaps a fraction,
then perhaps an exponent. -/
def unsigned? (negative : Bool) (t : Text) : Option Number := do
  let whole := t.takeWhile Text.isAsciiDigit
  let rest := t.dropWhile Text.isAsciiDigit
  if whole.isEmpty || (whole.length > 1 && whole.head? == some '0') then none else
  let (fraction, rest) ← match rest with
    | '.' :: rest =>
      let fraction := rest.takeWhile Text.isAsciiDigit
      if fraction.isEmpty then none else some (fraction, rest.dropWhile Text.isAsciiDigit)
    | _ => some ([], rest)
  let exponent ← match rest with
    | [] => some none
    | c :: rest => if c = 'e' ∨ c = 'E' then (exponent? rest).map some else none
  let digits ← Text.natural? 10 (whole ++ fraction)
  let decimal := Number.decimal (.ofDigits negative whole fraction (exponent.getD 0))
  if !fraction.isEmpty || exponent.isSome then return decimal
  else if negative then
    return (if 0 < digits ∧ digits ≤ Nat.pow 2 63 then .negative digits else decimal)
  else return (if digits ≤ natural64Max then .natural digits else decimal)

def number? : Text → Option Number
  | '-' :: t => unsigned? true t
  | t => unsigned? false t

/-! ### Lexemes -/

/-- The smallest parts of a document. A string without text holds an unpaired surrogate. -/
inductive Lexeme where
  | leftBracket | rightBracket | leftBrace | rightBrace | comma | colon
  | null
  | bool (b : Bool)
  | number (n : Number)
  | string (t : Option Text)
  deriving Repr

namespace Lexeme

/-- What the scan is inside of. What was read of it is kept with the last character first. -/
inductive Mode where
  | between
  | word (seen : Text)
  | number (seen : Text)
  | quoted (seen : List Nat)
  | escaped (seen : List Nat)
  | hex (seen : List Nat) (left value : Nat)

def word? (t : Text) : Option Lexeme :=
  if t = "null" then some .null else if t = "true" then some (.bool true)
  else if t = "false" then some (.bool false) else none

def finish? : Mode → Option (List Lexeme)
  | .between => some []
  | .word seen => (word? seen.reverse).map ([·])
  | .number seen => (number? seen.reverse).map fun n => [.number n]
  | _ => none

def isNumberChar (c : Char) : Bool :=
  Text.isAsciiDigit c || c == '-' || c == '+' || c == '.' || c == 'e' || c == 'E'

def start? (c : Char) : Option (List Lexeme × Mode) :=
  if c = ' ' ∨ c = '\t' ∨ c = '\n' ∨ c = '\r' then some ([], .between)
  else if c = '[' then some ([.leftBracket], .between)
  else if c = ']' then some ([.rightBracket], .between)
  else if c = '{' then some ([.leftBrace], .between)
  else if c = '}' then some ([.rightBrace], .between)
  else if c = ',' then some ([.comma], .between)
  else if c = ':' then some ([.colon], .between)
  else if c = '"' then some ([], .quoted [])
  else if c = '-' ∨ Text.isAsciiDigit c then some ([], .number [c])
  else if Text.isAsciiLetter c then some ([], .word [c])
  else none

def escape? (c : Char) : Option Nat :=
  if c = '"' ∨ c = '\\' ∨ c = '/' then some c.toNat
  else if c = 'b' then some 8 else if c = 'f' then some 12 else if c = 'n' then some 10
  else if c = 'r' then some 13 else if c = 't' then some 9 else none

/-- One character of the scan: the lexemes it completes and what the scan is inside of after it. -/
def step? (mode : Mode) (c : Char) : Option (List Lexeme × Mode) :=
  match mode with
  | .between => start? c
  | .word seen =>
    if Text.isAsciiLetter c then some ([], .word (c :: seen)) else leave? mode c
  | .number seen =>
    if isNumberChar c then some ([], .number (c :: seen)) else leave? mode c
  | .quoted seen =>
    if c = '"' then some ([.string (joinSurrogates? seen.reverse)], .between)
    else if c = '\\' then some ([], .escaped seen)
    else if c.toNat < 0x20 then none
    else some ([], .quoted (c.toNat :: seen))
  | .escaped seen =>
    if c = 'u' then some ([], .hex seen 4 0)
    else (escape? c).map fun n => ([], .quoted (n :: seen))
  | .hex seen left value => do
    let value := value * 16 + (← Text.digitValue? 16 c)
    if left ≤ 1 then return ([], .quoted (value :: seen))
    else return ([], .hex seen (left - 1) value)
where
  leave? (mode : Mode) (c : Char) : Option (List Lexeme × Mode) := do
    let ended ← finish? mode
    let (begun, mode) ← start? c
    return (ended ++ begun, mode)

def scanFrom? (mode : Mode) : Text → Option (List Lexeme)
  | [] => finish? mode
  | c :: rest => do
    let (lexemes, mode) ← step? mode c
    return lexemes ++ (← scanFrom? mode rest)

def scan? (t : Text) : Option (List Lexeme) := scanFrom? .between t

end Lexeme

/-! ### Trees -/

inductive Source where
  | null
  | bool (b : Bool)
  | number (n : Number)
  | string (t : Option Text)
  | array (items : List Source)
  | object (fields : List (Option Text × Source))
  deriving Inhabited

namespace Source

/-- A container that is not closed yet, its parts with the last one first. An object may hold a name
whose value is still to come. -/
inductive Frame where
  | array (items : List Source)
  | object (fields : List (Option Text × Source)) (name : Option Text)

inductive Expect where
  | value | valueOrEnd | name | nameOrEnd | colon | commaOrEnd

inductive Partial where
  | inside (stack : List Frame) (expect : Expect)
  | whole (s : Source)

def place (s : Source) : List Frame → Partial
  | [] => .whole s
  | .array items :: stack => .inside (.array (s :: items) :: stack) .commaOrEnd
  | .object fields name :: stack =>
    .inside (.object ((name, s) :: fields) none :: stack) .commaOrEnd

def beginValue? (stack : List Frame) : Lexeme → Option Partial
  | .null => some (place .null stack)
  | .bool b => some (place (.bool b) stack)
  | .number n => some (place (.number n) stack)
  | .string t => some (place (.string t) stack)
  | .leftBracket => some (.inside (.array [] :: stack) .valueOrEnd)
  | .leftBrace => some (.inside (.object [] none :: stack) .nameOrEnd)
  | _ => none

def step? : Partial → Lexeme → Option Partial
  | .inside stack .value, l => beginValue? stack l
  | .inside (.array items :: stack) .valueOrEnd, .rightBracket =>
    some (place (.array items.reverse) stack)
  | .inside stack .valueOrEnd, l => beginValue? stack l
  | .inside (.object fields _ :: stack) .nameOrEnd, .rightBrace =>
    some (place (.object fields.reverse) stack)
  | .inside (.object fields _ :: stack) .nameOrEnd, .string t =>
    some (.inside (.object fields t :: stack) .colon)
  | .inside (.object fields _ :: stack) .name, .string t =>
    some (.inside (.object fields t :: stack) .colon)
  | .inside stack .colon, .colon => some (.inside stack .value)
  | .inside (.array items :: stack) .commaOrEnd, .comma =>
    some (.inside (.array items :: stack) .value)
  | .inside (.array items :: stack) .commaOrEnd, .rightBracket =>
    some (place (.array items.reverse) stack)
  | .inside (.object fields name :: stack) .commaOrEnd, .comma =>
    some (.inside (.object fields name :: stack) .name)
  | .inside (.object fields _ :: stack) .commaOrEnd, .rightBrace =>
    some (place (.object fields.reverse) stack)
  | _, _ => none

def ofText? (t : Text) : Option Source := do
  match ← (← Lexeme.scan? t).foldlM step? (.inside [] .value) with
  | .whole s => return s
  | .inside .. => none

mutual

/-- The value of a tree with `room` levels of nesting. -/
def data? (room : Nat) : Source → Option Json
  | .null => some .null
  | .bool b => some (.bool b)
  | .number n => if n.isFinite then some (.number n) else none
  | .string t => t.map .string
  | .array items =>
    match room with
    | 0 => none
    | room + 1 => (dataItems? room items).map .array
  | .object fields =>
    match room with
    | 0 => none
    | room + 1 => (dataFields? room fields).map .object

def dataItems? (room : Nat) : List Source → Option (List Json)
  | [] => some []
  | s :: rest => do return (← data? room s) :: (← dataItems? room rest)

def dataFields? (room : Nat) : List (Option Text × Source) → Option (List (Text × Json))
  | [] => some []
  | (name, s) :: rest => do return (← name, ← data? room s) :: (← dataFields? room rest)

end

end Source

def nestingLimit : Nat := 127

def read? (t : Text) : Option Json := do (← Source.ofText? t).data? nestingLimit

end RuleHints.Json
