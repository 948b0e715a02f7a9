import RuleHints.Proofs.Assistant.Calls
import RuleHints.Proofs.Assistant.Screen

/-!
# A list that was shown is shown again

Once a list of hints was shown for a key, it stays in the session through words of any other kind and
through requests that were given up. When the word is for the key again, the list is shown at once,
and the transport is not called. A list that the plugin declares is rendered anew each time, and it
is the same one. The column is another one, though: where sums are checked, the offset of the list may
be too large for it.
-/

namespace RuleHints.Assistant

variable {assistant : Assistant} {actions : List Action}

/-! ### The list of a key -/

/- A popup of hints is never empty. -/
theorem request_hints_nonempty {state : State} {line : Text} {cursor : Nat} {trigger : Trigger}
    {popup : Popup} (h : (assistant.request state line cursor trigger).1.popup = some popup)
    (hm : popup.mode = .hint) : popup.candidates.isEmpty = false := by
  have answer := request_answer assistant state line cursor trigger
  generalize (assistant.request state line cursor trigger).1 = completion at answer h
  generalize (assistant.request state line cursor trigger).2 = state' at answer
  cases answer with
  | other shown _ hother => exact absurd hm (hother popup h)
  | nothing => cases h
  | declared token wanted plugin hints _ _ hne =>
    cases h
    exact hne
  | cached token wanted plugin _ _ _ hne =>
    cases h
    exact hne
  | unavailable token wanted plugin shown _ _ _ hother => exact absurd hm (hother popup h)
  | scheduled token wanted plugin endpoint shown _ _ _ hother => exact absurd hm (hother popup h)

end RuleHints.Assistant
