import RuleHints.Candidate.Basic
import RuleHints.Line.Token

/-!
# The host editor

What the user does with keys, and what is handed to the editor: the language, popups of candidates
and tooltips.
-/

namespace RuleHints

inductive Keystroke where
  | character (c : Char)
  | backspace
  | delete
  | enter
  | other
  deriving DecidableEq, Repr

namespace Keystroke

/-- The marks that ask for candidates when typed. -/
def triggerMarks : Text := "-_@.,<>:/?!$%^&*=+'\";\\|~[]\x7b\x7d()"

def asks : Keystroke → Bool
  | .character c => Text.isAsciiLetter c || Text.isAsciiDigit c || triggerMarks.contains c
  | .backspace | .delete | .enter => true
  | .other => false

def trigger : Keystroke → Trigger
  | .backspace | .delete => .delete
  | .enter => .enter
  | .character _ | .other => .character

end Keystroke

structure Language.Registration where
  name : Text
  aliases : List Text
  lineComment : Text
  keywords : List Text
  deriving DecidableEq, Repr

def rulesLanguage (keywords : List Text) : Language.Registration where
  name := "rules"
  aliases := ["whistle"]
  lineComment := "#"
  keywords

inductive PopupMode where
  | protocol
  | atValue
  | variable
  | spec
  | hint
  deriving DecidableEq, Repr

structure Popup where
  candidates : List Candidate
  start : Nat
  stop : Nat
  mode : PopupMode
  deriving DecidableEq, Repr

structure Tooltip where
  markup : Text
  start : Nat
  stop : Nat
  deriving DecidableEq, Repr

inductive Notice where
  | language (registration : Language.Registration)
  | popup (popup : Popup)
  | tooltip (tooltip : Tooltip)
  deriving DecidableEq, Repr

end RuleHints
