/-!
# Limits

How many candidates a list may hold, and how long a word and the value of a plugin variable may be
before no help is offered for them. Lengths count characters.
-/

namespace RuleHints

structure Limits where
  candidates : Nat := 60
  hintLength : Nat := 512
  varLength : Nat := 100
  deriving DecidableEq, Repr

end RuleHints
