import RuleHints.Proofs.Assistant.Calls

/-!
# What supersedes a pending request

A word that wants hints of a plugin drops the pending request, and so does the loss of the focus. A
word of any other kind leaves it alone: the request is sent when it is due, and its answer is applied.
-/

namespace RuleHints.Assistant

variable {assistant : Assistant} {actions : List Action} {generation : Nat}

/-- The action does not supersede a pending request: it is not the loss of the focus, nor a request
that wants hints of a plugin. -/
def Passive (assistant : Assistant) : Action → Prop
  | .blur => False
  | .request line cursor trigger => assistant.wantedAt? line cursor trigger = none
  | .receive _ | .attach | .enable _ | .advance _ | .take => True

/-- The request of this generation stands: of the requests of the run that want hints of a plugin it
is the latest one, and the focus was not lost since. -/
def Stands (assistant : Assistant) (actions : List Action) (generation : Nat) : Prop :=
  ∃ before line cursor trigger later,
    actions = before ++ .request line cursor trigger :: later ∧
      (∃ wanted, assistant.wantedAt? line cursor trigger = some wanted) ∧
      (assistant.request (assistant.after before) line cursor trigger).1.pending = some generation ∧
      ∀ action ∈ later, Passive assistant action

theorem Stands.concat (h : Stands assistant actions generation) {action : Action}
    (hpassive : Passive assistant action) : Stands assistant (actions ++ [action]) generation := by
  obtain ⟨before, line, cursor, trigger, later, heq, hw, hp, hlater⟩ := h
  refine ⟨before, line, cursor, trigger, later ++ [action], by simp [heq], hw, hp, ?_⟩
  intro other hother
  rcases List.mem_append.1 hother with hold | hnew
  · exact hlater other hold
  · rw [List.mem_singleton.1 hnew]
    exact hpassive

/-! ### The pending request stands -/

theorem request_stands {line : Text} {cursor : Nat} {trigger : Trigger}
    (h : ∀ pending ∈ (assistant.after actions).fetcher.pending,
      Stands assistant actions pending.generation) :
    ∀ pending ∈ (assistant.request (assistant.after actions) line cursor trigger).2.fetcher.pending,
      Stands assistant (actions ++ [.request line cursor trigger]) pending.generation := by
  have answer := request_answer assistant (assistant.after actions) line cursor trigger
  have hnew : ∀ generation wanted, assistant.wantedAt? line cursor trigger = some wanted →
      (assistant.request (assistant.after actions) line cursor trigger).1.pending =
        some generation →
      Stands assistant (actions ++ [.request line cursor trigger]) generation :=
    fun generation wanted hw hp =>
      ⟨actions, line, cursor, trigger, [], rfl, ⟨wanted, hw⟩, hp, by simp⟩
  generalize (assistant.request (assistant.after actions) line cursor trigger).1 = completion
    at answer hnew
  generalize (assistant.request (assistant.after actions) line cursor trigger).2 = state' at answer ⊢
  cases answer with
  | other popup hother => exact fun pending hp => (h pending hp).concat hother
  | nothing | declared | cached | unavailable => simp
  | scheduled token wanted plugin endpoint popup asks =>
    intro pending hp
    cases hp
    refine hnew _ wanted asks.wantedAt? ?_
    simp [beginRequest]

theorem receive_stands {event : HintEvent}
    (h : ∀ pending ∈ (assistant.after actions).fetcher.pending,
      Stands assistant actions pending.generation) :
    ∀ pending ∈ (assistant.receive (assistant.after actions) event).2.fetcher.pending,
      Stands assistant (actions ++ [.receive event]) pending.generation := by
  have arrival := receive_arrival assistant (after_awaits assistant actions) event
  generalize (assistant.receive (assistant.after actions) event).1 = completion at arrival
  generalize (assistant.receive (assistant.after actions) event).2 = state' at arrival ⊢
  cases arrival with
  | stale => exact fun pending hp => (h pending hp).concat trivial
  | failed | kept | shown => simp

theorem pending_stands (assistant : Assistant) (actions : List Action) :
    ∀ pending ∈ (assistant.after actions).fetcher.pending,
      Stands assistant actions pending.generation := by
  refine after_induction assistant (I := fun actions state =>
    ∀ pending ∈ state.fetcher.pending, Stands assistant actions pending.generation) ?_ ?_ actions
  · intro pending hp
    cases hp
  · intro actions action h
    cases action with
    | request line cursor trigger => exact request_stands h
    | receive event => exact receive_stands h
    | blur =>
      intro pending hp
      have hnone : (assistant.step (assistant.after actions) .blur).fetcher.pending = none :=
        Fetcher.pending_reset _
      rw [hnone] at hp
      cases hp
    | attach | enable | advance | take =>
      intro pending hp
      rw [(step_sameHints assistant _ (by simp) (by simp) (by simp)).pending] at hp
      exact (h pending hp).concat trivial

/-! ### What is sent, applied and left alone -/

theorem sends_stand {action : Action} (own : OwnEvents assistant (actions ++ [action]))
    {call : Waiting} (hcall : call ∈ assistant.sends (assistant.after actions) action) :
    Stands assistant (actions ++ [action]) call.generation := by
  obtain ⟨pending, hp, hg⟩ := pending_of_sends own hcall
  rw [← hg]
  exact pending_stands assistant (actions ++ [action]) pending hp

theorem applied_stands (event : HintEvent) :
    assistant.receive (assistant.after actions) event = ({}, assistant.after actions) ∨
      Stands assistant actions event.generation := by
  by_cases hcurrent : ∃ pending, (assistant.after actions).fetcher.pending = some pending ∧
      pending.generation = event.generation
  · obtain ⟨pending, hp, hg⟩ := hcurrent
    rw [← hg]
    exact Or.inr (pending_stands assistant actions pending hp)
  · exact Or.inl (receive_stale assistant fun pending hp hg => hcurrent ⟨pending, hp, hg⟩)

theorem request_of_unwanted {state : State} {line : Text} {cursor : Nat} {trigger : Trigger}
    (hw : assistant.wantedAt? line cursor trigger = none) :
    (assistant.request state line cursor trigger).2 = beginRequest state line cursor := by
  have answer := request_answer assistant state line cursor trigger
  generalize (assistant.request state line cursor trigger).1 = completion at answer
  generalize (assistant.request state line cursor trigger).2 = state' at answer ⊢
  cases answer with
  | other => rfl
  | nothing token wanted plugin hints asks => cases hw.symm.trans asks.wantedAt?
  | declared token wanted plugin hints asks => cases hw.symm.trans asks.wantedAt?
  | cached token wanted plugin asks => cases hw.symm.trans asks.wantedAt?
  | unavailable token wanted plugin popup asks => cases hw.symm.trans asks.wantedAt?
  | scheduled token wanted plugin endpoint popup asks => cases hw.symm.trans asks.wantedAt?

/-- What is asked of a plugin follows the words that want it. In any run with its own events, a request
is sent only if it stands, and an event that is applied is the answer to a request that stands: no
later word has wanted hints of a plugin, and the focus was not lost. A word that wants nothing of a
plugin leaves everything as it is, except that no list is on the screen. -/
theorem fetch_follows_plugin_words (assistant : Assistant) (actions : List Action) (action : Action)
    (own : OwnEvents assistant (actions ++ [action])) :
    let state := assistant.after actions
    ((assistant.after (actions ++ [action])).fetcher.traffic.sent =
        ((assistant.sends state action).map (·.request)).reverse ++ state.fetcher.traffic.sent ∧
      ∀ call ∈ assistant.sends state action,
        Stands assistant (actions ++ [action]) call.generation) ∧
    (∀ event, assistant.receive state event = ({}, state) ∨
      Stands assistant actions event.generation) ∧
    ∀ line cursor trigger, assistant.wantedAt? line cursor trigger = none →
      (assistant.request state line cursor trigger).2.fetcher =
        { state.fetcher with session := state.fetcher.session.clearServed } := by
  intro state
  refine ⟨⟨?_, ?_⟩, applied_stands, ?_⟩
  · rw [after_concat]
    exact sent_step assistant state action
  · intro call hcall
    exact sends_stand own hcall
  · intro line cursor trigger hw
    rw [request_of_unwanted hw]
    rfl

/- The request of the first word is sent after another word was typed, and it stands. -/
theorem inspector_request_stands :
    let actions := [typed "inspect://a", typed "@x"]
    OwnEvents inspector (actions ++ [.advance 120]) ∧
      Stands inspector (actions ++ [.advance 120]) 1 := by
  intro actions
  have own : OwnEvents inspector (actions ++ [.advance 120]) :=
    (((ownEvents_nil inspector).concat (by simp [typed])).concat (by simp [typed])).concat (by simp)
  have hcall : ⟨1, ⟨"plugin.inspect/hints", "inspect", "a", none⟩, 120⟩ ∈
      inspector.sends (inspector.after actions) (.advance 120) := by decide
  exact ⟨own, (fetch_follows_plugin_words inspector actions (.advance 120) own).1.2 _ hcall⟩

/- The latest word wants nothing of a plugin. Still the request of the word before is sent, and its
answer makes the session. -/
theorem inspector_sends_for_earlier_word :
    let actions := [typed "inspect://a", typed "@x"]
    let answer : HintEvent := ⟨1, .ok (.array [])⟩
    let run := actions ++ [.advance 120, .take]
    OwnEvents inspector (run ++ [.receive answer]) ∧
      latestRequest? run = some (("@x" : Text), 2, .character) ∧
      inspector.wantedAt? "@x" 2 .character = none ∧
      (inspector.sends (inspector.after actions) (.advance 120)).map (·.generation) = [1] ∧
      (inspector.after run).fetcher.session.key = none ∧
      (inspector.after (run ++ [.receive answer])).fetcher.session.key =
        some ⟨"inspect", "a", none⟩ := by
  intro actions answer run
  have own : OwnEvents inspector run :=
    ((((ownEvents_nil inspector).concat (by simp [typed])).concat (by simp [typed])).concat
      (by simp)).concat (by simp)
  have htaken : inspector.taken run = [answer] := rfl
  refine ⟨own.concat ?_, rfl, by decide, by decide, by decide, by decide⟩
  intro event heq
  cases heq
  rw [htaken]
  exact List.mem_singleton_self _

end RuleHints.Assistant
