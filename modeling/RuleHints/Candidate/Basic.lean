import RuleHints.Document.Reading

/-!
# Candidates

What can be inserted at the cursor: the text to insert, the text to show if it is another one, and
the name under which help is found.
-/

namespace RuleHints

structure Candidate where
  insertText : Text
  displayText : Option Text := none
  helpRef : Text
  deriving DecidableEq, Repr

namespace Candidate

def ofText (text : Text) : Candidate := { insertText := text, helpRef := text }

/-- Shows another text, if it is another one. -/
def withDisplay (candidate : Candidate) (text : Text) : Candidate :=
  if text = candidate.insertText then candidate else { candidate with displayText := some text }

def withHelpRef (candidate : Candidate) (name : Text) : Candidate :=
  { candidate with helpRef := name }

def display (candidate : Candidate) : Text := candidate.displayText.getD candidate.insertText

def fieldNames : List Text := ["insert_text", "display_text", "help_ref"]

def read {δ : Type} (reading : Reading δ) (d : δ) : Read Candidate := do
  let field ← reading.fields fieldNames d
  return {
    insertText := ← Reading.required reading.text (field "insert_text")
    displayText := ← reading.optional reading.text (field "display_text")
    helpRef := ← Reading.required reading.text (field "help_ref") }

/-- Writes a candidate as a named record; a text to show is written only if there is one. -/
def toJson (candidate : Candidate) : Json :=
  let shown : List (Text × Json) :=
    match candidate.displayText with
    | some text => [("display_text", .string text)]
    | none => []
  let first : Text × Json := ("insert_text", .string candidate.insertText)
  let last : Text × Json := ("help_ref", .string candidate.helpRef)
  .object (first :: shown ++ [last])

end Candidate

end RuleHints
