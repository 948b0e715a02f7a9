import RuleHints.Document.Reading
import RuleHints.Text.Casing

/-!
# Hints of a plugin

A plugin may declare hints in its metadata. A hint is plain text, or an entry that also carries a
label, a mark that it names a key, and a help address.
-/

namespace RuleHints.Plugin

inductive Hint where
  | plain (text : Text)
  | entry (text : Text) (label : Option Text) (isKey : Bool) (help : Option Text)
  deriving DecidableEq, Repr

namespace Hint

def text : Hint → Text
  | .plain text => text
  | .entry text .. => text

def label : Hint → Option Text
  | .plain _ => none
  | .entry _ label .. => label

def isKey : Hint → Bool
  | .plain _ => false
  | .entry _ _ isKey _ => isKey

def help : Hint → Option Text
  | .plain _ => none
  | .entry _ _ _ help => help

/-- The needle occurs in the lower case of the text or of the label. -/
def offers (needle : Text) (hint : Hint) : Bool :=
  Text.occurs needle (Text.lower hint.text) ||
    hint.label.any fun label => Text.occurs needle (Text.lower label)

def fieldNames : List Text := ["text", "displayText", "isKey", "help"]

/-- The hint that a content is: text or an entry. An entry is never positional. -/
def ofContent? : Content → Option Hint
  | .text text => some (.plain text)
  | .record fields => do
    let keyed ← fields.mapM fun (field : Content × Content) =>
      (FieldKey.ofContent? field.1).map (·, field.2)
    let field ← (Record.named keyed).view? fieldNames
    let optional (name : Text) : Option (Option Text) :=
      ((field name).map Content.optionalText?).getD (some none)
    return .entry (← (field "text").bind Content.text?) (← optional "displayText")
      (← ((field "isKey").map Content.bool?).getD (some false)) (← optional "help")
  | _ => none

def read {δ : Type} (reading : Reading δ) (d : δ) : Read Hint := do
  Read.ofOption (ofContent? (← reading.content d))

def toJson : Hint → Json
  | .plain text => .string text
  | .entry text label isKey help =>
    .object [("text", .string text), ("displayText", .ofOption label), ("isKey", .bool isKey),
      ("help", .ofOption help)]

end Hint

end RuleHints.Plugin
