import RuleHints.Failure
import RuleHints.Hint.Set

/-!
# Payloads

What a transport answers: a list of hints, or an object with a list, where to insert a hint, and an
offset. Members that are no hints are passed over.
-/

namespace RuleHints

structure Payload where
  items : List RawHint := []
  position : InsertPosition := .word
  offset : Nat := 0
  deriving DecidableEq, Repr

namespace Payload

def string? (fields : List (Text × Json)) (name : Text) : Option Text :=
  (Json.lastField? name fields).bind Json.text?

def hint? : Json → Option RawHint
  | .string text => some { text := Text.trim text }
  | .object fields => do
    let text ← string? fields "value"
    let labels := [string? fields "label", string? fields "display"].filterMap id
    return {
      text := Text.trim text
      label := (labels.map Text.trim).find? (!·.isEmpty)
      isKey := ((Json.lastField? "isKey" fields).bind Json.bool?).getD false
      help := string? fields "help" }
  | _ => none

/-- The positive integer of at most 63 bits that text writes. -/
def positive? (t : Text) : Option Nat :=
  (Text.natural? 10 (Text.dropLead "+" t)).filter fun n => 0 < n && n < Nat.pow 2 63

/-- The offset that a value stands for; nothing and what is not positive stand for zero. -/
def offsetOf : Option Json → Nat
  | some (.number n) => n.truncated
  | some (.string t) => (positive? (Text.trim t)).getD 0
  | _ => 0

def positionOf : Option Text → InsertPosition
  | some t => if t = "cursor" then .cursor else if t = "tail" then .tail else .word
  | none => .word

def kindName : Json → Text
  | .null => "null"
  | .bool _ => "bool"
  | .number _ => "number"
  | .string _ => "string"
  | .array _ => "array"
  | .object _ => "object"

def ofJson : Json → Except Failure Payload
  | .array items => .ok { items := items.filterMap hint? }
  | .object fields =>
    match Json.lastField? "list" fields with
    | some (.array items) => .ok {
        items := items.filterMap hint?
        position := positionOf (string? fields "position")
        offset := offsetOf (Json.lastField? "offset" fields) }
    | _ => .error (.invalidResponse "expected an array or an object with a list")
  | j => .error (.invalidResponse ("unexpected hint payload: " ++ kindName j))

end Payload

end RuleHints
