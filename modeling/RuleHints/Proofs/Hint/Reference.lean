import Mathlib.Data.List.Induction
import RuleHints.Proofs.Hint.Rendering

/-!
# What a renderer keeps

Hints are pushed one after the other, and each push is refused or not by what was kept before it. The
same hints are chosen by looking at all of them at once: the short ones, of these the first one under
each key, and of these as many as the limits allow. The pushes are numbered, so that equal hints are
told apart.
-/

namespace RuleHints

namespace HintContext

variable (context : HintContext)

/-- The short hints, the first one under each key. -/
def firsts (numbered : List (RawHint × Nat)) : List (RawHint × Nat) :=
  (numbered.filter fun h => (context.rendered h.1).length < context.maxLength).eraseDupsBy
    fun a b => context.key a.1 == context.key b.1

/-- The hints that are kept. -/
def kept (numbered : List (RawHint × Nat)) : List (RawHint × Nat) :=
  (context.firsts numbered).take context.limits.candidates

end HintContext

end RuleHints
