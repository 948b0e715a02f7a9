import RuleHints.Hint.Set
import RuleHints.Line.Token

/-!
# The session of hints

A session holds one list of hints and what it was asked for. The list is served while it is on the
screen; only then is help taken from it.
-/

namespace RuleHints

structure HintKey where
  protocol : Text
  value : Text
  separator : Option Separator := none
  deriving DecidableEq, Repr

structure Session where
  key : Option HintKey := none
  hints : HintSet := {}
  served : Bool := false
  deriving DecidableEq, Repr

namespace Session

/-- The list, if it is for this key and not empty. -/
def cached? (session : Session) (key : HintKey) : Option HintSet :=
  if session.key = some key ∧ !session.hints.isEmpty then some session.hints else none

def replace (key : HintKey) (hints : HintSet) : Session := { key := some key, hints }

def cleared : Session := {}

def markServed (session : Session) : Session := { session with served := session.key.isSome }

def clearServed (session : Session) : Session := { session with served := false }

def helpFor? (session : Session) (name : Text) : Option Text :=
  if session.served then session.hints.help? name else none

@[simp] theorem cached?_cleared (key : HintKey) : cleared.cached? key = none := by
  simp [cached?, cleared]

theorem cached?_replace (key : HintKey) (hints : HintSet) :
    (replace key hints).cached? key = if hints.isEmpty then none else some hints := by
  cases h : hints.isEmpty <;> simp [cached?, replace, h]

theorem key_of_cached? {session : Session} {key : HintKey} {hints : HintSet}
    (h : session.cached? key = some hints) : session.key = some key ∧ session.hints = hints := by
  unfold cached? at h
  split at h
  · next hk => exact ⟨hk.1, Option.some.inj h⟩
  · cases h

@[simp] theorem cached?_markServed (session : Session) (key : HintKey) :
    session.markServed.cached? key = session.cached? key := rfl

@[simp] theorem cached?_clearServed (session : Session) (key : HintKey) :
    session.clearServed.cached? key = session.cached? key := rfl

@[simp] theorem helpFor?_clearServed (session : Session) (name : Text) :
    session.clearServed.helpFor? name = none := rfl

@[simp] theorem helpFor?_replace (key : HintKey) (hints : HintSet) (name : Text) :
    (replace key hints).helpFor? name = none := rfl

end Session

end RuleHints
