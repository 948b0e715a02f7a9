import RuleHints.Failure
import RuleHints.Json.Basic
import RuleHints.Line.Token

/-!
# Requests for hints

What a transport is asked and what it answers. A transport is a function of the number of calls made
before and of the request; its reply comes after a delay.
-/

namespace RuleHints

structure HintRequest where
  endpoint : Text
  protocol : Text
  value : Text
  separator : Option Separator := none
  deriving DecidableEq, Repr

namespace HintRequest

/-- The parameters of a request; the endpoint is not one of them. -/
def parameters (request : HintRequest) : List (Text × Text) :=
  let named (name : Text) (value : Text) : Text × Text := (name, value)
  [named "protocol" request.protocol, named "value" request.value] ++
    (request.separator.map fun s => named "sep" [s.toChar]).toList

def toJson (request : HintRequest) : Json :=
  .object (request.parameters.map fun parameter => (parameter.1, .string parameter.2))

end HintRequest

structure Reply where
  outcome : Except Failure Json
  delay : Nat := 0

/-- Answers requests, by the number of calls before. -/
structure Transport where
  answer : Nat → HintRequest → Reply

structure HintEvent where
  generation : Nat
  outcome : Except Failure Json

end RuleHints
