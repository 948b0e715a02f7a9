import RuleHints.Json.Number

/-!
# Data

`Json` is the dynamic value of a data document: what a transport answers and what settings and
metadata are written as. An object keeps its fields in order; a name that comes twice keeps its last
value, as `field?` says.
-/

namespace RuleHints

inductive Json where
  | null
  | bool (b : Bool)
  | number (n : Number)
  | string (t : Text)
  | array (items : List Json)
  | object (fields : List (Text × Json))
  deriving Repr, Inhabited

namespace Json

def lastField? (name : Text) (fields : List (Text × Json)) : Option Json :=
  (fields.reverse.find? (·.1 = name)).map (·.2)

def field? (name : Text) : Json → Option Json
  | .object fields => lastField? name fields
  | _ => none

def text? : Json → Option Text
  | .string t => some t
  | _ => none

def bool? : Json → Option Bool
  | .bool b => some b
  | _ => none

def items? : Json → Option (List Json)
  | .array items => some items
  | _ => none

/-- The natural number of a number spelt as one. -/
def natural? : Json → Option Nat
  | .number (.natural n) => some n
  | _ => none

def ofNat (n : Nat) : Json := .number (.natural n)

def ofOption : Option Text → Json
  | some t => .string t
  | none => .null

def ofTexts (ts : List Text) : Json := .array (ts.map .string)

end Json

end RuleHints
