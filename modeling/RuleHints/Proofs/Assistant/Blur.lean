import RuleHints.Proofs.Assistant.Calls

/-!
# The loss of the focus

When the editor loses the focus, a request may wait for its time, be with the transport, or have its
answer in the queue. In a run with its own events only the pending request can be on its way, so
dropping it leaves nothing that waits or is to arrive, and what is in the queue is for no request that
is pending. From there on nothing happens until candidates are asked for again.
-/

namespace RuleHints

namespace Traffic

/-- Nothing is on its way. -/
structure Idle (traffic : Traffic) : Prop where
  waiting : traffic.waiting = []
  arriving : traffic.arriving = []

theorem Idle.settled {traffic : Traffic} (h : traffic.Idle) : traffic.Settled := by
  refine ⟨?_, ?_⟩
  · simp [h.waiting]
  · simp [h.arriving]

theorem Idle.dueBy {traffic : Traffic} (h : traffic.Idle) (time : Nat) :
    traffic.dueBy time = [] := by
  simp [Traffic.dueBy, h.waiting]

/- Only the clock moves. -/
theorem Idle.advanceTo {traffic : Traffic} (h : traffic.Idle) (transport : Transport) (time : Nat) :
    traffic.advanceTo transport time = { traffic with now := max traffic.now time } := by
  have later : Idle { traffic with now := max traffic.now time } := ⟨h.waiting, h.arriving⟩
  exact later.settled.settle_eq transport

end Traffic

namespace Assistant

variable {assistant : Assistant} {state : State} {actions later : List Action}

/-- Nothing is known, awaited, or on its way. -/
structure Dormant (assistant : Assistant) (state : State) : Prop where
  session : state.fetcher.session = .cleared
  pending : state.fetcher.pending = none
  waiting : state.waiting = false
  idle : ∀ transport ∈ assistant.service.transport, state.fetcher.traffic.Idle

/-- None of the actions asks for candidates. -/
def Unasked (actions : List Action) : Prop :=
  ∀ action ∈ actions, ∀ line cursor trigger, action ≠ .request line cursor trigger

/-! ### One action -/

theorem Dormant.receive (h : Dormant assistant state) (event : HintEvent) :
    assistant.receive state event = ({}, state) := by
  refine receive_stale assistant ?_
  simp [h.pending]

theorem Dormant.settle (h : Dormant assistant state) : assistant.settle state = state := by
  have htraffic : assistant.service.run Traffic.settle state.fetcher.traffic =
      state.fetcher.traffic := by
    unfold HintService.run
    split
    · next transport ht => exact (h.idle transport ht).settled.settle_eq transport
    · rfl
  rw [Assistant.settle, Fetcher.settle, htraffic]

theorem Dormant.blur (h : Dormant assistant state) : Assistant.blur state = state := by
  rw [Assistant.blur, Fetcher.reset, Fetcher.cancel_of_pending h.pending, ← h.session, ← h.waiting]

/- What an action leaves of the traffic: nothing is sent, and nothing comes into the queue. -/
structure Calm (before after : Traffic) : Prop where
  waiting : after.waiting = before.waiting
  arriving : after.arriving = before.arriving
  sent : after.sent = before.sent
  events : after.events <:+ before.events

theorem Calm.refl (traffic : Traffic) : Calm traffic traffic :=
  ⟨rfl, rfl, rfl, List.suffix_rfl⟩

theorem Calm.trans {first second third : Traffic} (h : Calm first second)
    (h' : Calm second third) : Calm first third :=
  ⟨h'.waiting.trans h.waiting, h'.arriving.trans h.arriving, h'.sent.trans h.sent,
    h'.events.trans h.events⟩

theorem calm_take (traffic : Traffic) : Calm traffic traffic.take.2 := by
  unfold Traffic.take
  split
  · exact Calm.refl traffic
  · next event rest hevents => exact ⟨rfl, rfl, rfl, hevents ▸ List.suffix_cons event rest⟩

theorem Dormant.advance (h : Dormant assistant state) (ms : Nat) :
    Calm state.fetcher.traffic (state.fetcher.advance assistant.service ms).traffic := by
  unfold Fetcher.advance HintService.run
  split
  · next transport ht =>
    simp only [(h.idle transport ht).advanceTo]
    exact ⟨rfl, rfl, rfl, List.suffix_rfl⟩
  · exact Calm.refl _

theorem Dormant.act (h : Dormant assistant state) {action : Action}
    (hr : ∀ line cursor trigger, action ≠ .request line cursor trigger) :
    (assistant.act state action).1 = {} ∧
      SameHints state (assistant.act state action).2 ∧
      Calm state.fetcher.traffic (assistant.act state action).2.fetcher.traffic := by
  cases action with
  | request line cursor trigger => exact absurd rfl (hr line cursor trigger)
  | receive event =>
    rw [Assistant.act, h.receive event]
    exact ⟨rfl, ⟨rfl, rfl, rfl, rfl, rfl⟩, Calm.refl _⟩
  | blur =>
    rw [Assistant.act, h.blur]
    exact ⟨rfl, ⟨rfl, rfl, rfl, rfl, rfl⟩, Calm.refl _⟩
  | attach =>
    refine ⟨rfl, attach_sameHints assistant state, ?_⟩
    rw [Assistant.act, attach_fetcher]
    exact Calm.refl _
  | enable enabled => exact ⟨rfl, ⟨rfl, rfl, rfl, rfl, rfl⟩, Calm.refl _⟩
  | advance ms => exact ⟨rfl, ⟨rfl, rfl, rfl, rfl, rfl⟩, h.advance ms⟩
  | take => exact ⟨rfl, ⟨rfl, rfl, rfl, rfl, rfl⟩, calm_take state.fetcher.traffic⟩

theorem Dormant.same {state' : State} (h : Dormant assistant state) (same : SameHints state state')
    (calm : Calm state.fetcher.traffic state'.fetcher.traffic) : Dormant assistant state' where
  session := same.session.trans h.session
  pending := same.pending.trans h.pending
  waiting := same.waiting.trans h.waiting
  idle transport ht :=
    ⟨calm.waiting.trans (h.idle transport ht).waiting,
      calm.arriving.trans (h.idle transport ht).arriving⟩

theorem Dormant.step (h : Dormant assistant state) {action : Action}
    (hr : ∀ line cursor trigger, action ≠ .request line cursor trigger) :
    Dormant assistant (assistant.step state action) ∧
      Calm state.fetcher.traffic (assistant.step state action).fetcher.traffic := by
  obtain ⟨_, same, calm⟩ := h.act hr
  have acted := h.same same calm
  rw [Assistant.step, acted.settle]
  exact ⟨acted, calm⟩

/-! ### Whole runs -/

theorem Dormant.proceed (h : Dormant assistant state) (hr : Unasked later) :
    Dormant assistant (assistant.proceed state later) ∧
      Calm state.fetcher.traffic (assistant.proceed state later).fetcher.traffic := by
  induction later generalizing state with
  | nil => exact ⟨h, Calm.refl _⟩
  | cons action rest ih =>
    obtain ⟨haction, hrest⟩ := List.forall_mem_cons.1 hr
    obtain ⟨next, calm⟩ := h.step haction
    obtain ⟨last, calm'⟩ := ih next hrest
    exact ⟨last, calm.trans calm'⟩

theorem Dormant.popups (h : Dormant assistant state) (hr : Unasked later) :
    assistant.popups state later = [] := by
  induction later generalizing state with
  | nil => rfl
  | cons action rest ih =>
    obtain ⟨haction, hrest⟩ := List.forall_mem_cons.1 hr
    have hnone : (assistant.act state action).1 = {} := (h.act haction).1
    have hlater : assistant.popups (assistant.step state action) rest = [] :=
      ih (h.step haction).1 hrest
    rw [Assistant.popups, hnone, hlater]
    rfl

/- Dropping the pending request stops the only one that can be on its way. -/
theorem dormant_blur (own : OwnEvents assistant actions) :
    Dormant assistant (blur (assistant.after actions)) where
  session := rfl
  pending := Fetcher.pending_reset _
  waiting := rfl
  idle transport ht := by
    obtain ⟨given, orderly⟩ := after_orderly ht own
    obtain ⟨hwaiting, harriving⟩ := orderly.phase.cancel
    exact ⟨hwaiting, harriving⟩

theorem after_blur (own : OwnEvents assistant actions) :
    assistant.after (actions ++ [.blur]) = blur (assistant.after actions) := by
  rw [after_concat]
  exact (dormant_blur own).settle

/-- The loss of the focus is final. After it, and as long as candidates are not asked for, whatever
else happens (time passes, events are taken, events of any kind arrive, the focus is lost again): the
session is empty and nothing is pending or waited for; an event shows nothing and changes nothing; no
popup is shown; the transport has seen no more calls than before; and no answer comes into the queue
beyond those that were there. -/
theorem blur_is_final (own : OwnEvents assistant actions) (hr : Unasked later) :
    let lost := assistant.after (actions ++ [.blur])
    let state := assistant.proceed lost later
    (state.fetcher.session = .cleared ∧ state.fetcher.pending = none ∧ state.waiting = false) ∧
      (∀ event, assistant.receive state event = ({}, state)) ∧
      assistant.popups lost later = [] ∧
      state.fetcher.traffic.sent = (assistant.after actions).fetcher.traffic.sent ∧
      state.fetcher.traffic.events <:+ (assistant.after actions).fetcher.traffic.events := by
  intro lost state
  have hlost : lost = blur (assistant.after actions) := after_blur own
  have dormant : Dormant assistant lost := hlost ▸ dormant_blur own
  obtain ⟨last, calm⟩ := dormant.proceed hr
  have hsent : lost.fetcher.traffic.sent = (assistant.after actions).fetcher.traffic.sent := by
    rw [hlost]
    exact Fetcher.sent_cancel _
  have hevents : lost.fetcher.traffic.events = (assistant.after actions).fetcher.traffic.events := by
    rw [hlost]
    exact Fetcher.events_cancel _
  exact ⟨⟨last.session, last.pending, last.waiting⟩, last.receive, dormant.popups hr,
    calm.sent.trans hsent, hevents ▸ calm.events⟩

/- One answer is in the queue and another request waits when the focus is lost. -/
theorem inspector_loses_focus :
    let actions := [typed "inspect://a", .advance 120, typed "inspect://ab"]
    let later := [.advance 120, .take, .receive (brought 1 "abc"), .receive (brought 2 "abc")]
    let lost := inspector.after (actions ++ [.blur])
    ((inspector.after actions).fetcher.traffic.events.length = 1 ∧
        (inspector.after actions).fetcher.traffic.waiting.length = 1) ∧
      OwnEvents inspector actions ∧ Unasked later ∧ inspector.popups lost later = [] ∧
      (inspector.proceed lost later).fetcher.traffic.sent =
        (inspector.after actions).fetcher.traffic.sent := by
  intro actions later lost
  have own : OwnEvents inspector actions := by
    intro before event rest heq
    have hmem : Action.receive event ∈ actions := by simp [heq]
    simp [actions, typed] at hmem
  have hr : Unasked later := by simp [Unasked, later]
  have final := blur_is_final own hr
  exact ⟨⟨by decide, by decide⟩, own, hr, final.2.2.1, final.2.2.2.1⟩

end Assistant

end RuleHints
