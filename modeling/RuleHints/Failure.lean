import RuleHints.Text.Basic

/-!
# Failures

The causes for which an operation gives no result. The wording of each cause is in `message?`;
a file or a document that cannot be read has no wording of its own here.
-/

namespace RuleHints

inductive Failure where
  | configuration (reason : Text)
  | file
  | json
  | yaml
  | transport (reason : Text)
  | invalidResponse (reason : Text)
  | cancelled
  deriving DecidableEq, Repr

namespace Failure

def message? : Failure → Option Text
  | .configuration reason => some ("Configuration error: " ++ reason)
  | .transport reason => some ("Transport error: " ++ reason)
  | .invalidResponse reason => some ("Invalid hint response: " ++ reason)
  | .cancelled => some "Request cancelled"
  | .file | .json | .yaml => none

end Failure

end RuleHints
