import RuleHints.Plugin.Metadata
import RuleHints.Text.Blank

/-!
# Names of rules

Help is found under the bare name of a rule. `ruleName` gets it from a protocol, from a word of a
line or from a name that a user typed.
-/

namespace RuleHints

/-- The bare name: without blanks around it, without one leading `whistle.`, and up to the first
colon. -/
def ruleName (name : Text) : Text :=
  Text.before ':' (Text.dropLead Plugin.moduleLead (Text.trim name))

end RuleHints
