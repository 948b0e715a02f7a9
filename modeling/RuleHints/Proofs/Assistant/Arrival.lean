import RuleHints.Proofs.Assistant.Run

/-!
# The arrival of hints

An event is applied only if it is for the pending request. Then the request is over, the session
holds the list of the answer or none, and nothing new is asked for: when the hints are still waited
for, the word is classified again, its plugin declares no list for it, and the list that is found for
its key is the one that has just arrived. Where sums are checked, an offset that is too large for the
column of the word keeps it from being shown.
-/

namespace RuleHints.Assistant

/-- Hints are waited for only while the word of the latest request wants them of a plugin without a
list of its own, and only the request for that word can be pending then. -/
def Awaits (assistant : Assistant) (state : State) : Prop :=
  state.waiting = true → ∃ line cursor token wanted plugin,
    state.latest = some (line, cursor) ∧ Asks assistant line cursor .plugin token wanted plugin ∧
      assistant.declared? plugin wanted = none ∧
        ∀ pending ∈ state.fetcher.pending, pending.key = wanted.key

theorem Awaits.sameHints {assistant : Assistant} {state state' : State}
    (h : Awaits assistant state) (same : SameHints state state') : Awaits assistant state' := by
  intro hw
  obtain ⟨line, cursor, token, wanted, plugin, hl, asks, hd, hp⟩ := h (same.waiting ▸ hw)
  refine ⟨line, cursor, token, wanted, plugin, same.latest ▸ hl, asks, hd, ?_⟩
  rw [same.pending]
  exact hp

/- A request settles whether hints are waited for, whatever was before. -/
theorem request_awaits (assistant : Assistant) (state : State) (line : Text) (cursor : Nat)
    (trigger : Trigger) :
    Awaits assistant (assistant.request state line cursor trigger).2 := by
  have answer := request_answer assistant state line cursor trigger
  generalize (assistant.request state line cursor trigger).1 = completion at answer
  generalize (assistant.request state line cursor trigger).2 = state' at answer ⊢
  intro hw
  cases answer with
  | other popup _ _ => cases hw
  | nothing token wanted plugin hints _ _ _ => cases hw
  | declared token wanted plugin hints _ _ _ => cases hw
  | cached token wanted plugin _ _ _ _ => cases hw
  | unavailable token wanted plugin popup asks hd _ _ =>
    refine ⟨line, cursor, token, wanted, plugin, rfl, asks.plugin, hd, ?_⟩
    intro pending hp
    simp at hp
  | scheduled token wanted plugin endpoint popup asks hd _ _ _ =>
    refine ⟨line, cursor, token, wanted, plugin, rfl, asks.plugin, hd, ?_⟩
    intro pending hp
    cases hp
    rfl

/-! ### The ways in which an event is taken -/

theorem receive_stale (assistant : Assistant) {state : State} {event : HintEvent}
    (h : ∀ pending ∈ state.fetcher.pending, pending.generation ≠ event.generation) :
    assistant.receive state event = ({}, state) := by
  unfold receive
  rw [Fetcher.apply_of_ne h]
  simp

theorem receive_failed (assistant : Assistant) {state : State} {event : HintEvent}
    {pending : Pending} {failure : Failure} (hp : state.fetcher.pending = some pending)
    (hg : pending.generation = event.generation)
    (ho : event.outcome.bind Payload.ofJson = .error failure) :
    assistant.receive state event =
      ({}, { state with
        fetcher := { state.fetcher with pending := none, session := .cleared } }) := by
  have ha : Fetcher.answered assistant.service pending event.outcome = .cleared := by
    simp only [Fetcher.answered, ho]
  unfold receive
  rw [Fetcher.apply_current hp hg, ha]
  rfl

theorem answered_ok {service : HintService} {pending : Pending} {outcome : Except Failure Json}
    {payload : Payload} (ho : outcome.bind Payload.ofJson = .ok payload) :
    Fetcher.answered service pending outcome =
      .replace pending.key (Fetcher.render service pending payload) := by
  simp only [Fetcher.answered, ho]

theorem receive_quiet (assistant : Assistant) {state : State} {event : HintEvent}
    {pending : Pending} {payload : Payload} (hp : state.fetcher.pending = some pending)
    (hg : pending.generation = event.generation)
    (ho : event.outcome.bind Payload.ofJson = .ok payload)
    (hq : ¬((Fetcher.render assistant.service pending payload).isEmpty = false ∧
      state.waiting = true)) :
    assistant.receive state event =
      ({}, { state with
        fetcher := { state.fetcher with
          pending := none
          session := .replace pending.key (Fetcher.render assistant.service pending payload) } }) := by
  unfold receive
  rw [Fetcher.apply_current hp hg, answered_ok ho]
  have hb : ((!(Fetcher.render assistant.service pending payload).isEmpty) && state.waiting) =
      false := by
    cases he : (Fetcher.render assistant.service pending payload).isEmpty <;>
      cases hw : state.waiting <;> simp_all
  simp only [Session.replace, hb, Bool.false_eq_true, if_false]

/- The request that is made again finds the list that has just arrived. -/
theorem receive_shown (assistant : Assistant) {state : State} {event : HintEvent}
    {pending : Pending} {payload : Payload} (awaits : Awaits assistant state)
    (hp : state.fetcher.pending = some pending) (hg : pending.generation = event.generation)
    (ho : event.outcome.bind Payload.ofJson = .ok payload)
    (hne : (Fetcher.render assistant.service pending payload).isEmpty = false)
    (hw : state.waiting = true) :
    ∃ line cursor token wanted plugin, state.latest = some (line, cursor) ∧
      Asks assistant line cursor .plugin token wanted plugin ∧ pending.key = wanted.key ∧
      assistant.receive state event =
        (hintCompletion line cursor token (Fetcher.render assistant.service pending payload),
          { state with
            waiting := false
            fetcher := { state.fetcher with
              pending := none
              session := {
                key := some pending.key
                hints := Fetcher.render assistant.service pending payload
                served := true } } }) := by
  obtain ⟨line, cursor, token, wanted, plugin, hl, asks, hd, hk⟩ := awaits hw
  have hkey : pending.key = wanted.key := hk pending hp
  refine ⟨line, cursor, token, wanted, plugin, hl, asks, hkey, ?_⟩
  unfold receive
  rw [Fetcher.apply_current hp hg, answered_ok ho]
  simp only [Session.replace, hne, hw, hl, Bool.not_false, Bool.and_self, if_true]
  rw [request_cached assistant _ asks hd (congrArg some hkey) hne]
  rw [Fetcher.cancel_of_pending rfl]
  simp only [beginRequest]

/-- The ways in which an event is taken: it is for another request; its answer cannot be used; its
list is kept; its list is shown. -/
inductive Arrival (assistant : Assistant) (state : State) (event : HintEvent) :
    Completion → State → Prop where
  | stale :
      (∀ pending ∈ state.fetcher.pending, pending.generation ≠ event.generation) →
      Arrival assistant state event {} state
  | failed (pending : Pending) (failure : Failure) :
      state.fetcher.pending = some pending → pending.generation = event.generation →
      event.outcome.bind Payload.ofJson = .error failure →
      Arrival assistant state event {}
        { state with fetcher := { state.fetcher with pending := none, session := .cleared } }
  | kept (pending : Pending) (payload : Payload) :
      state.fetcher.pending = some pending → pending.generation = event.generation →
      event.outcome.bind Payload.ofJson = .ok payload →
      Arrival assistant state event {}
        { state with
          fetcher := { state.fetcher with
            pending := none
            session := .replace pending.key (Fetcher.render assistant.service pending payload) } }
  | shown (pending : Pending) (payload : Payload) (line : Text) (cursor : Nat) (token : Token)
      (wanted : Wanted) (plugin : Plugin.Metadata) :
      state.fetcher.pending = some pending → pending.generation = event.generation →
      event.outcome.bind Payload.ofJson = .ok payload →
      state.waiting = true → state.latest = some (line, cursor) →
      Asks assistant line cursor .plugin token wanted plugin → pending.key = wanted.key →
      Arrival assistant state event
        (hintCompletion line cursor token (Fetcher.render assistant.service pending payload))
        { state with
          waiting := false
          fetcher := { state.fetcher with
            pending := none
            session := {
              key := some pending.key
              hints := Fetcher.render assistant.service pending payload
              served := true } } }

theorem receive_arrival (assistant : Assistant) {state : State} (awaits : Awaits assistant state)
    (event : HintEvent) :
    Arrival assistant state event (assistant.receive state event).1
      (assistant.receive state event).2 := by
  by_cases hstale : ∀ pending ∈ state.fetcher.pending, pending.generation ≠ event.generation
  · rw [receive_stale assistant hstale]
    exact .stale hstale
  · obtain ⟨pending, hp, hg⟩ : ∃ pending, state.fetcher.pending = some pending ∧
        pending.generation = event.generation := by
      simpa using hstale
    cases ho : event.outcome.bind Payload.ofJson with
    | error failure =>
      rw [receive_failed assistant hp hg ho]
      exact .failed pending failure hp hg ho
    | ok payload =>
      by_cases hs : (Fetcher.render assistant.service pending payload).isEmpty = false ∧
          state.waiting = true
      · obtain ⟨line, cursor, token, wanted, plugin, hl, asks, hk, heq⟩ :=
          receive_shown assistant awaits hp hg ho hs.1 hs.2
        rw [heq]
        exact .shown pending payload line cursor token wanted plugin hp hg ho hs.2 hl asks hk
      · rw [receive_quiet assistant hp hg ho hs]
        exact .kept pending payload hp hg ho

/-! ### Over a run -/

theorem receive_awaits (assistant : Assistant) {state : State} (awaits : Awaits assistant state)
    (event : HintEvent) : Awaits assistant (assistant.receive state event).2 := by
  have arrival := receive_arrival assistant awaits event
  generalize (assistant.receive state event).1 = completion at arrival
  generalize (assistant.receive state event).2 = state' at arrival ⊢
  -- After an event nothing is pending, so nothing that is pending can be for another word.
  have dropped : ∀ session, Awaits assistant
      { state with fetcher := { state.fetcher with pending := none, session } } := by
    intro session hw
    obtain ⟨line, cursor, token, wanted, plugin, hl, asks, hd, _⟩ := awaits hw
    exact ⟨line, cursor, token, wanted, plugin, hl, asks, hd, by simp⟩
  cases arrival with
  | stale _ => exact awaits
  | failed pending failure _ _ _ => exact dropped _
  | kept pending payload _ _ _ => exact dropped _
  | shown pending payload line cursor token wanted plugin _ _ _ _ _ _ _ =>
    intro hw
    cases hw

theorem step_awaits (assistant : Assistant) {state : State} (awaits : Awaits assistant state)
    (action : Action) : Awaits assistant (assistant.step state action) := by
  rcases step_cases assistant state action with
    ⟨line, cursor, trigger, rfl, same⟩ | ⟨event, rfl, same⟩ | ⟨rfl, same⟩ | ⟨_, _, same⟩
  · exact (request_awaits assistant _ line cursor trigger).sameHints same
  · exact (receive_awaits assistant awaits event).sameHints same
  · refine Awaits.sameHints ?_ same
    intro hw
    cases hw
  · exact awaits.sameHints same

theorem after_awaits (assistant : Assistant) (actions : List Action) :
    Awaits assistant (assistant.after actions) := by
  refine after_induction assistant (I := fun _ state => Awaits assistant state) ?_ ?_ actions
  · intro hw
    cases hw
  · intro actions action awaits
    exact step_awaits assistant awaits action

theorem receive_schedules_nothing (assistant : Assistant) {state : State}
    (awaits : Awaits assistant state) (event : HintEvent) :
    (assistant.receive state event).1.pending = none ∧
      (assistant.receive state event).2.fetcher.generation = state.fetcher.generation ∧
      (assistant.receive state event).2.fetcher.traffic = state.fetcher.traffic := by
  have arrival := receive_arrival assistant awaits event
  generalize (assistant.receive state event).1 = completion at arrival ⊢
  generalize (assistant.receive state event).2 = state' at arrival ⊢
  cases arrival <;> exact ⟨rfl, rfl, rfl⟩

end RuleHints.Assistant
