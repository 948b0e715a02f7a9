import RuleHints.Proofs.Assistant.Freshness
import RuleHints.Proofs.Hint.Rendering

/-!
# The session is whole

After any run, a session without a key is empty and not on the screen, and the list and the help of a
session with a key come from one rendering for that key.
-/

namespace RuleHints

/-- The lists that a plugin declares and those that it answers are rendered for the key. -/
theorem Assistant.FromPlugin.coherent {assistant : Assistant} {actions : List Assistant.Action}
    {wanted : Assistant.Wanted} {hints : HintSet}
    (h : Assistant.FromPlugin assistant actions wanted hints) (regular : wanted.Regular) :
    hints.Coherent wanted.key := by
  have hs : wanted.slot = .value ∧ wanted.key.separator = none ∨
      wanted.slot = .variable ∧ wanted.key.separator.isSome = true := by
    rcases regular.2 with ⟨hslot, hsep, _⟩ | ⟨hslot, hsep, _⟩
    · exact Or.inr ⟨hslot, hsep⟩
    · exact Or.inl ⟨hslot, hsep⟩
  obtain ⟨plugin, _, hd | ha⟩ := h
  · obtain ⟨list, _, rfl⟩ := Option.map_eq_some_iff.1 hd
    exact HintContext.coherent_renderAll _ _ wanted.key rfl hs
  · obtain ⟨_, event, payload, _, _, _, _, _, rfl⟩ := ha
    have hrender := HintContext.coherent_renderAll
      (Pending.context ⟨event.generation, wanted.key, plugin, wanted.slot⟩ assistant.service.limits
        assistant.service.index) payload.items wanted.key rfl hs
    exact hrender.moved payload.position payload.offset

namespace Assistant

theorem request_session_unkeyed {assistant : Assistant} {state : State} {line : Text}
    {cursor : Nat} {trigger : Trigger}
    (h : state.fetcher.session.key = none → state.fetcher.session = {}) :
    (assistant.request state line cursor trigger).2.fetcher.session.key = none →
      (assistant.request state line cursor trigger).2.fetcher.session = {} := by
  have answer := request_answer assistant state line cursor trigger
  generalize (assistant.request state line cursor trigger).1 = completion at answer
  generalize (assistant.request state line cursor trigger).2 = state' at answer ⊢
  have hcleared : state.fetcher.session.clearServed.key = none →
      state.fetcher.session.clearServed = {} := by
    intro hk
    rw [h hk]
    rfl
  cases answer with
  | other => exact hcleared
  | nothing => simpa [beginRequest] using hcleared
  | declared =>
    intro hk
    cases hk
  | cached token wanted plugin _ _ hkey _ =>
    intro hk
    exact absurd (hkey.symm.trans hk) (by simp)
  | unavailable => simpa [beginRequest] using hcleared
  | scheduled => simpa [beginRequest, Fetcher.start] using hcleared

theorem receive_session_unkeyed {assistant : Assistant} {state : State}
    (awaits : Awaits assistant state) {event : HintEvent}
    (h : state.fetcher.session.key = none → state.fetcher.session = {}) :
    (assistant.receive state event).2.fetcher.session.key = none →
      (assistant.receive state event).2.fetcher.session = {} := by
  have arrival := receive_arrival assistant awaits event
  generalize (assistant.receive state event).1 = completion at arrival
  generalize (assistant.receive state event).2 = state' at arrival ⊢
  cases arrival with
  | stale => exact h
  | failed => exact fun _ => rfl
  | kept | shown =>
    intro hk
    cases hk

theorem after_session_unkeyed (assistant : Assistant) (actions : List Action) :
    (assistant.after actions).fetcher.session.key = none →
      (assistant.after actions).fetcher.session = {} := by
  refine after_induction assistant
    (I := fun _ state => state.fetcher.session.key = none → state.fetcher.session = {})
    (fun _ => rfl) ?_ actions
  intro actions action h
  rcases step_cases assistant (assistant.after actions) action with
    ⟨line, cursor, trigger, rfl, same⟩ | ⟨event, rfl, same⟩ | ⟨rfl, same⟩ | ⟨_, _, same⟩
  · rw [same.session]
    exact request_session_unkeyed h
  · rw [same.session]
    exact receive_session_unkeyed (after_awaits assistant actions) h
  · rw [same.session]
    exact fun _ => rfl
  · rw [same.session]
    exact h

/-- After any run, a session without a key holds nothing and is not served. In a session with a key
the candidates have different help names, which are what they show and are the names of its help;
each inserts a trimmed text after the protocol of the key and its mark; and the candidates and the
help come from one list of hints. -/
theorem session_is_whole (assistant : Assistant) (actions : List Action) :
    let session := (assistant.after actions).fetcher.session
    (session.key = none → session.hints = {} ∧ session.served = false) ∧
      ∀ key, session.key = some key → session.hints.Coherent key := by
  intro session
  constructor
  · intro hk
    have hempty : session = {} := after_session_unkeyed assistant actions hk
    rw [hempty]
    exact ⟨rfl, rfl⟩
  · intro key hk
    obtain ⟨wanted, regular, rfl, hfrom⟩ := (after_traced assistant actions).session key hk
    exact hfrom.coherent regular

end Assistant

end RuleHints
