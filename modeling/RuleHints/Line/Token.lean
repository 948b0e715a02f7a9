import RuleHints.Text.Basic

/-!
# Tokens

The word that the user is typing, by what it can be completed to.
-/

namespace RuleHints

inductive Trigger where
  | character
  | delete
  | enter
  | manual
  | plugin
  deriving DecidableEq, Repr

namespace Trigger

/-- Nothing is offered at an empty word: the user is removing text, or hints arrived late. -/
def suppressesEmptyWord : Trigger → Bool
  | .delete | .plugin => true
  | _ => false

end Trigger

inductive Separator where
  | value
  | key
  deriving DecidableEq, Repr

namespace Separator

def ofChar? (c : Char) : Option Separator :=
  if c = '=' then some .value else if c = '.' then some .key else none

def toChar : Separator → Char
  | .value => '='
  | .key => '.'

end Separator

inductive TokenKind where
  | protocol
  | atValue (keyword : Text)
  | variableName (value : Text)
  | variableValue (plugin : Text) (separator : Separator) (value : Text)
  /-- The name of a plugin after a protocol that takes one. -/
  | pluginName (spec : Text) (value : Text)
  | pluginValue (plugin : Text) (protocol : Text) (value : Text)
  deriving DecidableEq, Repr

structure Token where
  kind : TokenKind
  text : Text
  start : Nat
  stop : Nat
  deriving DecidableEq, Repr

end RuleHints
