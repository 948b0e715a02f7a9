import RuleHints.Proofs.Assistant.Arrival

/-!
# Hints on the screen are those of the latest word

Answers may come late, twice or not at all, and requests of other kinds leave a pending request
alone. Still a popup of hints shows a list for the word of the latest request only: the list is the
one that the plugin declares, or it is the answer to a request that was made for the same key.
-/

namespace RuleHints.Assistant

/-! ### The history of a run -/

def Action.request? : Action → Option (Text × Nat × Trigger)
  | .request line cursor trigger => some (line, cursor, trigger)
  | _ => none

/-- The latest request for candidates of a run. -/
def latestRequest? (actions : List Action) : Option (Text × Nat × Trigger) :=
  (actions.filterMap Action.request?).getLast?

/-- In the run, a request for candidates whose word wanted this had hints asked for, under this
generation. -/
def Scheduled (assistant : Assistant) (actions : List Action) (generation : Nat)
    (wanted : Wanted) : Prop :=
  ∃ before line cursor trigger later,
    actions = before ++ .request line cursor trigger :: later ∧
      assistant.wantedAt? line cursor trigger = some wanted ∧
        (assistant.request (assistant.after before) line cursor trigger).1.pending = some generation

/-- In the run, an event brought this list, and its generation was given to an earlier request for the
same key and to no request for another one. -/
def Arrived (assistant : Assistant) (actions : List Action) (wanted : Wanted)
    (plugin : Plugin.Metadata) (hints : HintSet) : Prop :=
  ∃ before event payload later,
    actions = before ++ .receive event :: later ∧
      Scheduled assistant before event.generation wanted ∧
        (∀ other, Scheduled assistant before event.generation other → other = wanted) ∧
          event.outcome.bind Payload.ofJson = .ok payload ∧
            hints = Fetcher.render assistant.service
              ⟨event.generation, wanted.key, plugin, wanted.slot⟩ payload

theorem latestRequest?_request (actions : List Action) (line : Text) (cursor : Nat)
    (trigger : Trigger) :
    latestRequest? (actions ++ [.request line cursor trigger]) = some (line, cursor, trigger) := by
  simp [latestRequest?, Action.request?]

theorem latestRequest?_other (actions : List Action) {action : Action}
    (h : ∀ line cursor trigger, action ≠ .request line cursor trigger) :
    latestRequest? (actions ++ [action]) = latestRequest? actions := by
  have hn : action.request? = none := by
    cases action with
    | request line cursor trigger => exact absurd rfl (h line cursor trigger)
    | attach | receive | blur | enable | advance | take => rfl
  simp [latestRequest?, hn]

theorem Scheduled.concat {assistant : Assistant} {actions : List Action} {generation : Nat}
    {wanted : Wanted} (h : Scheduled assistant actions generation wanted) (action : Action) :
    Scheduled assistant (actions ++ [action]) generation wanted := by
  obtain ⟨before, line, cursor, trigger, later, heq, hw, hp⟩ := h
  exact ⟨before, line, cursor, trigger, later ++ [action], by simp [heq], hw, hp⟩

theorem Scheduled.regular {assistant : Assistant} {actions : List Action} {generation : Nat}
    {wanted : Wanted} (h : Scheduled assistant actions generation wanted) : wanted.Regular := by
  obtain ⟨_, _, _, _, _, _, hw, _⟩ := h
  exact wantedAt?_regular hw

theorem Arrived.concat {assistant : Assistant} {actions : List Action} {wanted : Wanted}
    {plugin : Plugin.Metadata} {hints : HintSet} (h : Arrived assistant actions wanted plugin hints)
    (action : Action) : Arrived assistant (actions ++ [action]) wanted plugin hints := by
  obtain ⟨before, event, payload, later, heq, hrest⟩ := h
  exact ⟨before, event, payload, later ++ [action], by simp [heq], hrest⟩

/-! ### Generations -/

theorem generation_of_request {assistant : Assistant} {state : State} {line : Text} {cursor : Nat}
    {trigger : Trigger} {generation : Nat}
    (h : (assistant.request state line cursor trigger).1.pending = some generation) :
    generation = state.fetcher.generation + 1 ∧
      (assistant.request state line cursor trigger).2.fetcher.generation = generation := by
  have answer := request_answer assistant state line cursor trigger
  generalize (assistant.request state line cursor trigger).1 = completion at answer h
  generalize (assistant.request state line cursor trigger).2 = state' at answer ⊢
  cases answer with
  | other | nothing | declared | cached | unavailable => cases h
  | scheduled =>
    cases h
    simp [Fetcher.start, beginRequest]

theorem generation_le_request (assistant : Assistant) (state : State) (line : Text) (cursor : Nat)
    (trigger : Trigger) :
    state.fetcher.generation ≤
      (assistant.request state line cursor trigger).2.fetcher.generation := by
  have answer := request_answer assistant state line cursor trigger
  generalize (assistant.request state line cursor trigger).1 = completion at answer
  generalize (assistant.request state line cursor trigger).2 = state' at answer ⊢
  cases answer <;> simp [Fetcher.start, beginRequest]

theorem generation_le_step (assistant : Assistant) (actions : List Action) (action : Action) :
    (assistant.after actions).fetcher.generation ≤
      (assistant.step (assistant.after actions) action).fetcher.generation := by
  rcases step_cases assistant (assistant.after actions) action with
    ⟨line, cursor, trigger, rfl, same⟩ | ⟨event, rfl, same⟩ | ⟨rfl, same⟩ | ⟨_, _, same⟩
  · rw [same.generation]
    exact generation_le_request ..
  · have hkept :=
      (receive_schedules_nothing assistant (after_awaits assistant actions) event).2.1
    exact Nat.le_of_eq (same.generation.trans hkept).symm
  · rw [same.generation]
    simp [blur, Fetcher.reset]
  · exact Nat.le_of_eq same.generation.symm

theorem generation_le_after (assistant : Assistant) (before later : List Action) :
    (assistant.after before).fetcher.generation ≤
      (assistant.after (before ++ later)).fetcher.generation := by
  induction later using List.reverseRecOn with
  | nil => simp
  | append_singleton later action ih =>
    rw [← List.append_assoc, after_concat]
    exact Nat.le_trans ih (generation_le_step assistant (before ++ later) action)

/- The later of two requests is given a greater generation. -/
theorem generation_lt_of_later {assistant : Assistant} {before later : List Action}
    {line line' : Text} {cursor cursor' : Nat} {trigger trigger' : Trigger}
    {generation generation' : Nat}
    (h : (assistant.request (assistant.after before) line cursor trigger).1.pending =
      some generation)
    (h' : (assistant.request (assistant.after (before ++ .request line cursor trigger :: later))
      line' cursor' trigger').1.pending = some generation') : generation < generation' := by
  have hnow : (assistant.after (before ++ [.request line cursor trigger])).fetcher.generation =
      generation := by
    rw [after_concat]
    exact (generation_of_request h).2
  have hle := generation_le_after assistant (before ++ [.request line cursor trigger]) later
  have hsplit : before ++ [Action.request line cursor trigger] ++ later =
      before ++ .request line cursor trigger :: later := by simp
  rw [hsplit, hnow] at hle
  have hthen := (generation_of_request h').1
  omega

theorem Scheduled.unique {assistant : Assistant} {actions : List Action} {generation : Nat}
    {wanted other : Wanted} (h : Scheduled assistant actions generation wanted)
    (h' : Scheduled assistant actions generation other) : other = wanted := by
  obtain ⟨before, line, cursor, trigger, later, heq, hw, hp⟩ := h
  obtain ⟨before', line', cursor', trigger', later', heq', hw', hp'⟩ := h'
  rw [heq] at heq'
  rcases List.append_eq_append_iff.1 heq' with ⟨mid, hb, hl⟩ | ⟨mid, hb, hl⟩
  · cases mid with
    | nil =>
      cases hl
      exact Option.some.inj (hw'.symm.trans hw)
    | cons action mid =>
      cases hl
      rw [hb] at hp'
      exact absurd (generation_lt_of_later hp hp') (Nat.lt_irrefl _)
  · cases mid with
    | nil =>
      cases hl
      exact Option.some.inj (hw'.symm.trans hw)
    | cons action mid =>
      cases hl
      rw [hb] at hp
      exact absurd (generation_lt_of_later hp' hp) (Nat.lt_irrefl _)

/-! ### Where the list of the session comes from -/

def FromPlugin (assistant : Assistant) (actions : List Action) (wanted : Wanted)
    (hints : HintSet) : Prop :=
  ∃ plugin, assistant.plugins.get? wanted.plugin = some plugin ∧
    (assistant.declared? plugin wanted = some hints ∨
      Arrived assistant actions wanted plugin hints)

theorem FromPlugin.concat {assistant : Assistant} {actions : List Action} {wanted : Wanted}
    {hints : HintSet} (h : FromPlugin assistant actions wanted hints) (action : Action) :
    FromPlugin assistant (actions ++ [action]) wanted hints := by
  obtain ⟨plugin, hp, hd | ha⟩ := h
  · exact ⟨plugin, hp, Or.inl hd⟩
  · exact ⟨plugin, hp, Or.inr (ha.concat action)⟩

/-- What the history of a run says about its state. -/
structure Traced (assistant : Assistant) (actions : List Action) (state : State) : Prop where
  latest : state.latest = (latestRequest? actions).map fun request => (request.1, request.2.1)
  waiting : state.waiting = true → ∃ line cursor trigger wanted,
    latestRequest? actions = some (line, cursor, trigger) ∧
      assistant.wantedAt? line cursor trigger = some wanted
  pending : ∀ pending ∈ state.fetcher.pending, ∃ wanted,
    Scheduled assistant actions pending.generation wanted ∧
      assistant.plugins.get? wanted.plugin = some pending.plugin ∧
        pending.key = wanted.key ∧ pending.slot = wanted.slot
  session : ∀ key, state.fetcher.session.key = some key → ∃ wanted, wanted.Regular ∧
    wanted.key = key ∧ FromPlugin assistant actions wanted state.fetcher.session.hints

theorem Traced.sameHints {assistant : Assistant} {actions : List Action} {state state' : State}
    (h : Traced assistant actions state) (same : SameHints state state') :
    Traced assistant actions state' := by
  refine ⟨same.latest ▸ h.latest, same.waiting ▸ h.waiting, ?_, ?_⟩
  · rw [same.pending]
    exact h.pending
  · rw [same.session]
    exact h.session

/- An action that is no request keeps what was scheduled and what has arrived. -/
theorem Traced.concat {assistant : Assistant} {actions : List Action} {state : State}
    (h : Traced assistant actions state) (action : Action)
    (ha : ∀ line cursor trigger, action ≠ .request line cursor trigger) :
    Traced assistant (actions ++ [action]) state := by
  have hr := latestRequest?_other actions ha
  refine ⟨hr ▸ h.latest, hr ▸ h.waiting, ?_, ?_⟩
  · intro pending hp
    obtain ⟨wanted, hs, hrest⟩ := h.pending pending hp
    exact ⟨wanted, hs.concat action, hrest⟩
  · intro key hk
    obtain ⟨wanted, hreg, hkey, hfrom⟩ := h.session key hk
    exact ⟨wanted, hreg, hkey, hfrom.concat action⟩

theorem traced_initial (assistant : Assistant) : Traced assistant [] assistant.initial :=
  ⟨rfl, fun h => (by cases h), fun _ h => (by cases h), fun _ h => (by cases h)⟩

theorem traced_request {assistant : Assistant} {actions : List Action}
    (h : Traced assistant actions (assistant.after actions)) (line : Text) (cursor : Nat)
    (trigger : Trigger) :
    Traced assistant (actions ++ [.request line cursor trigger])
      (assistant.request (assistant.after actions) line cursor trigger).2 := by
  have hr := latestRequest?_request actions line cursor trigger
  have answer := request_answer assistant (assistant.after actions) line cursor trigger
  have hscheduled : ∀ generation wanted, assistant.wantedAt? line cursor trigger = some wanted →
      (assistant.request (assistant.after actions) line cursor trigger).1.pending =
        some generation →
      Scheduled assistant (actions ++ [.request line cursor trigger]) generation wanted :=
    fun generation wanted hw hp => ⟨actions, line, cursor, trigger, [], rfl, hw, hp⟩
  -- The session of the state before keeps its origin when one more request is made.
  have hsession : ∀ key, (assistant.after actions).fetcher.session.key = some key →
      ∃ wanted, wanted.Regular ∧ wanted.key = key ∧
        FromPlugin assistant (actions ++ [.request line cursor trigger]) wanted
          (assistant.after actions).fetcher.session.hints := by
    intro key hk
    obtain ⟨wanted, hreg, hkey, hfrom⟩ := h.session key hk
    exact ⟨wanted, hreg, hkey, hfrom.concat _⟩
  have hpending : ∀ pending ∈ (assistant.after actions).fetcher.pending, ∃ wanted,
      Scheduled assistant (actions ++ [.request line cursor trigger]) pending.generation wanted ∧
        assistant.plugins.get? wanted.plugin = some pending.plugin ∧
          pending.key = wanted.key ∧ pending.slot = wanted.slot := by
    intro pending hp
    obtain ⟨wanted, hs, hrest⟩ := h.pending pending hp
    exact ⟨wanted, hs.concat _, hrest⟩
  generalize (assistant.request (assistant.after actions) line cursor trigger).1 = completion
    at answer hscheduled
  generalize (assistant.request (assistant.after actions) line cursor trigger).2 = state'
    at answer ⊢
  cases answer with
  | other popup _ _ =>
    exact ⟨by simp [hr, beginRequest], fun hw => (by cases hw), hpending, hsession⟩
  | nothing token wanted plugin hints _ _ _ =>
    refine ⟨by simp [hr, beginRequest], fun hw => (by cases hw), by simp, ?_⟩
    simpa [beginRequest, Session.clearServed] using hsession
  | declared token wanted plugin hints asks hd _ =>
    refine ⟨by simp [hr, beginRequest], fun hw => (by cases hw), by simp, ?_⟩
    intro key hk
    cases hk
    exact ⟨wanted, wantedAt?_regular asks.wantedAt?, rfl, plugin, asks.found, Or.inl hd⟩
  | cached token wanted plugin _ _ _ _ =>
    exact ⟨by simp [hr, beginRequest], fun hw => (by cases hw), by simp, hsession⟩
  | unavailable token wanted plugin popup asks _ _ _ =>
    refine ⟨by simp [hr, beginRequest], fun _ => ⟨line, cursor, trigger, wanted, hr, asks.wantedAt?⟩,
      by simp, ?_⟩
    simpa [beginRequest, Session.clearServed] using hsession
  | scheduled token wanted plugin endpoint popup asks _ _ _ _ =>
    refine ⟨by simp [hr, beginRequest],
      fun _ => ⟨line, cursor, trigger, wanted, hr, asks.wantedAt?⟩, ?_, ?_⟩
    · intro pending hp
      cases hp
      refine ⟨wanted, ?_, asks.found, rfl, rfl⟩
      refine hscheduled _ wanted asks.wantedAt? ?_
      simp [beginRequest]
    · simpa [beginRequest, Fetcher.start, Session.clearServed] using hsession

theorem traced_receive {assistant : Assistant} {actions : List Action}
    (h : Traced assistant actions (assistant.after actions)) (event : HintEvent) :
    Traced assistant (actions ++ [.receive event])
      (assistant.receive (assistant.after actions) event).2 := by
  have arrival := receive_arrival assistant (after_awaits assistant actions) event
  have kept := h.concat (.receive event) (by simp)
  -- An answer that can be used brings the list of the request that was pending.
  have harrived : ∀ pending payload, (assistant.after actions).fetcher.pending = some pending →
      pending.generation = event.generation →
      event.outcome.bind Payload.ofJson = .ok payload → ∃ wanted, wanted.Regular ∧
        wanted.key = pending.key ∧ FromPlugin assistant (actions ++ [.receive event]) wanted
          (Fetcher.render assistant.service pending payload) := by
    intro pending payload hp hg ho
    obtain ⟨wanted, hs, hplugin, hk, hslot⟩ := h.pending pending hp
    have hpend : pending = ⟨event.generation, wanted.key, pending.plugin, wanted.slot⟩ := by
      rw [← hg, ← hk, ← hslot]
    refine ⟨wanted, hs.regular, hk.symm, pending.plugin, hplugin, Or.inr ?_⟩
    rw [hg] at hs
    exact ⟨actions, event, payload, [], rfl, hs, fun other h' => hs.unique h', ho, by rw [← hpend]⟩
  generalize (assistant.receive (assistant.after actions) event).1 = completion at arrival
  generalize (assistant.receive (assistant.after actions) event).2 = state' at arrival ⊢
  cases arrival with
  | stale _ => exact kept
  | failed pending failure _ _ _ =>
    exact ⟨kept.latest, kept.waiting, by simp, fun _ hk => (by cases hk)⟩
  | kept pending payload hp hg ho =>
    refine ⟨kept.latest, kept.waiting, by simp, ?_⟩
    intro key hk
    cases hk
    exact harrived pending payload hp hg ho
  | shown pending payload line cursor token wanted plugin hp hg ho _ _ _ _ =>
    refine ⟨kept.latest, fun hw => (by cases hw), by simp, ?_⟩
    intro key hk
    cases hk
    exact harrived pending payload hp hg ho

theorem after_traced (assistant : Assistant) (actions : List Action) :
    Traced assistant actions (assistant.after actions) := by
  refine after_induction assistant (I := Traced assistant) (traced_initial assistant) ?_ actions
  intro actions action h
  rcases step_cases assistant (assistant.after actions) action with
    ⟨line, cursor, trigger, rfl, same⟩ | ⟨event, rfl, same⟩ | ⟨rfl, same⟩ | ⟨ha, _, same⟩
  · exact (traced_request h line cursor trigger).sameHints same
  · exact (traced_receive h event).sameHints same
  · have kept := h.concat .blur (by simp)
    have blurred : Traced assistant (actions ++ [.blur]) (blur (assistant.after actions)) :=
      ⟨kept.latest, fun hw => (by cases hw), by simp [blur], fun _ hk => (by cases hk)⟩
    exact blurred.sameHints same
  · exact (h.concat action ha).sameHints same

/-! ### Popups of hints -/

/- The two ways to a popup of hints: the answer to a request, and the arrival of its hints. -/
theorem shown_of_request {assistant : Assistant} {actions : List Action} {line : Text}
    {cursor : Nat} {trigger : Trigger} {popup : Popup}
    (h : (assistant.request (assistant.after actions) line cursor trigger).1.popup = some popup)
    (hm : popup.mode = .hint) :
    let state' := (assistant.request (assistant.after actions) line cursor trigger).2
    ∃ wanted, assistant.wantedAt? line cursor trigger = some wanted ∧
      state'.fetcher.session.key = some wanted.key ∧
        popup.candidates = state'.fetcher.session.hints.candidates := by
  have answer := request_answer assistant (assistant.after actions) line cursor trigger
  generalize (assistant.request (assistant.after actions) line cursor trigger).1 = completion
    at answer h
  generalize (assistant.request (assistant.after actions) line cursor trigger).2 = state' at answer ⊢
  cases answer with
  | other shown _ hother => exact absurd hm (hother popup h)
  | nothing => cases h
  | declared token wanted plugin hints asks _ _ =>
    cases h
    exact ⟨wanted, asks.wantedAt?, rfl, rfl⟩
  | cached token wanted plugin asks _ hk _ =>
    cases h
    exact ⟨wanted, asks.wantedAt?, hk, rfl⟩
  | unavailable token wanted plugin shown _ _ _ hother => exact absurd hm (hother popup h)
  | scheduled token wanted plugin endpoint shown _ _ _ hother _ => exact absurd hm (hother popup h)

theorem shown_of_receive {assistant : Assistant} {actions : List Action} {event : HintEvent}
    {popup : Popup}
    (h : (assistant.receive (assistant.after actions) event).1.popup = some popup) :
    let state' := (assistant.receive (assistant.after actions) event).2
    ∃ line cursor trigger wanted, latestRequest? actions = some (line, cursor, trigger) ∧
      assistant.wantedAt? line cursor trigger = some wanted ∧
        state'.fetcher.session.key = some wanted.key ∧
          popup.candidates = state'.fetcher.session.hints.candidates := by
  have traced := after_traced assistant actions
  have arrival := receive_arrival assistant (after_awaits assistant actions) event
  generalize (assistant.receive (assistant.after actions) event).1 = completion at arrival h
  generalize (assistant.receive (assistant.after actions) event).2 = state' at arrival ⊢
  cases arrival with
  | stale | failed | kept => cases h
  | shown pending payload line cursor token wanted plugin _ _ _ hw hl asks hk =>
    cases h
    obtain ⟨line', cursor', trigger, wanted', hr, hwanted⟩ := traced.waiting hw
    have hlatest := traced.latest
    rw [hr, hl] at hlatest
    cases hlatest
    -- The word wants the same under the trigger of the request and under that of the arrival.
    have hsame : some wanted' = some wanted :=
      (wantedAt?_plugin hwanted).symm.trans asks.wantedAt?
    cases hsame
    exact ⟨_, _, trigger, wanted, hr, hwanted, congrArg some hk, rfl⟩

end RuleHints.Assistant
