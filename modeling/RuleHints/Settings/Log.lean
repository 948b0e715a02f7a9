import RuleHints.Settings.Basic
import RuleHints.Text.Casing

/-!
# Logging

A process sets up its log once. The level is taken from the settings, whatever its case; an unknown
level means `info`. Setting it up a second time fails and changes nothing.
-/

namespace RuleHints

namespace Logging

def effectiveLevel (logging : Logging) : Text :=
  let level := Text.lower logging.level
  if levels.contains level then level else "info"

end Logging

structure Log where
  level? : Option Text := none
  deriving DecidableEq, Repr

namespace Log

def setUp (log : Log) (logging : Logging) : Except Failure Log :=
  match log.level? with
  | none => .ok ⟨some logging.effectiveLevel⟩
  | some _ => .error (.configuration ("Logging already initialized: " ++
      "a global default trace dispatcher has already been set"))

end Log

end RuleHints
