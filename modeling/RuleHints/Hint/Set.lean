import RuleHints.Candidate.Basic
import RuleHints.Limits
import RuleHints.Plugin.Metadata
import RuleHints.Registry
import RuleHints.Text.Blank

/-!
# Sets of hints

Hints of a plugin become candidates by rendering: the hint is put after its protocol or variable,
and a hint is refused if the set is full, if the rendered text is too long, or if a hint with the
same key is there. The key is the label, or the rendered text without one; help is kept by key.
-/

namespace RuleHints

/-- Where a hint goes: over the word, from the cursor on, or after the word. -/
inductive InsertPosition where
  | word
  | cursor
  | tail
  deriving DecidableEq, Repr

structure RawHint where
  text : Text
  label : Option Text := none
  isKey : Bool := false
  help : Option Text := none
  deriving DecidableEq, Repr

structure HintSet where
  candidates : List Candidate := []
  help : List (Text × Text) := []
  position : InsertPosition := .word
  offset : Nat := 0
  deriving DecidableEq, Repr

namespace HintSet

def isEmpty (set : HintSet) : Bool := set.candidates.isEmpty

def help? (set : HintSet) (key : Text) : Option Text := (set.help.find? (·.1 = key)).map (·.2)

end HintSet

namespace Plugin.Hint

def raw (hint : Hint) : RawHint := ⟨hint.text, hint.label, hint.isKey, hint.help⟩

end Plugin.Hint

def renderHint (protocol : Text) (slot : Plugin.Slot) (isKey : Bool) (text : Text) : Text :=
  match slot with
  | .value => protocol ++ protocolMark ++ text
  | .variable => protocol ++ (if isKey then '.' else '=') :: text

structure HintContext where
  plugin : Plugin.Metadata
  protocol : Text
  slot : Plugin.Slot
  limits : Limits
  index : Text

namespace HintContext

variable (context : HintContext)

/-- Rendered texts are shorter than this. -/
def maxLength : Nat :=
  match context.slot with
  | .value => context.limits.hintLength
  | .variable => context.limits.varLength

def isFull (set : HintSet) : Bool := context.limits.candidates ≤ set.candidates.length

def rendered (hint : RawHint) : Text :=
  renderHint context.protocol context.slot hint.isKey (Text.trim hint.text)

/-- A label without blanks around it, if something is left. -/
def label? (hint : RawHint) : Option Text := (hint.label.map Text.trim).filter (!·.isEmpty)

def key (hint : RawHint) : Text := (label? hint).getD (context.rendered hint)

def candidate (hint : RawHint) : Candidate :=
  let plain := (Candidate.ofText (context.rendered hint)).withHelpRef (context.key hint)
  match label? hint with
  | some label => plain.withDisplay label
  | none => plain

def push? (set : HintSet) (hint : RawHint) : Option HintSet :=
  if context.isFull set then none
  else if context.maxLength ≤ (context.rendered hint).length then none
  else if (set.help? (context.key hint)).isSome then none
  else some { set with
    candidates := set.candidates ++ [context.candidate hint]
    help := set.help ++ [(context.key hint, context.plugin.helpFor hint.help context.index)] }

def push (set : HintSet) (hint : RawHint) : HintSet := (context.push? set hint).getD set

def renderAll (hints : List RawHint) : HintSet := hints.foldl context.push {}

/-- The plugin's declared hints that hold the value, whatever its case; none if it declares none. -/
def declared? (value : Text) : Option HintSet :=
  let needle := Text.lower value
  (context.plugin.hints? context.slot).map fun hints =>
    context.renderAll ((hints.filter fun h => needle.isEmpty || h.offers needle).map (·.raw))

end HintContext

end RuleHints
