import RuleHints.Document.Reading
import RuleHints.Failure
import RuleHints.Yaml.Resolve

/-!
# Loading documents

A document is text in one of two languages. `load` reads it with a reader that works for every kind
of document.
-/

namespace RuleHints

inductive Language where
  | json
  | yaml
  deriving DecidableEq, Repr

namespace Language

/-- Reads a document of this language. Only one of the languages has references. -/
def load {α : Type} (language : Language) (read : {δ : Type} → Reading δ → δ → Read α)
    (content : Text) : Except Failure α :=
  match language with
  | .json =>
    match (Json.Part.ofText? content).bind fun part =>
        (read Json.Part.reading part).result? 0 with
    | some a => .ok a
    | none => .error .json
  | .yaml =>
    match (Yaml.Document.ofText? content).bind fun document =>
        (read Yaml.Part.reading document.part).result? document.referenceLimit with
    | some a => .ok a
    | none => .error .yaml

end Language

end RuleHints
