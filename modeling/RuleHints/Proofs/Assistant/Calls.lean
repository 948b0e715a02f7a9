import RuleHints.Proofs.Assistant.Freshness
import RuleHints.Proofs.Remote.Flight

/-!
# What an assistant sends

The requests that reach the transport in each step of a run. A run is with its own events if each
event that arrives was taken from the queue before. Then, as in the runs of a fetcher, there is at
most one request on its way, and it is the pending one.
-/

namespace RuleHints

namespace Traffic

/-- Nothing is due. -/
structure Settled (traffic : Traffic) : Prop where
  waiting : ∀ w ∈ traffic.waiting, traffic.now < w.due
  arriving : ∀ a ∈ traffic.arriving, traffic.now < a.due

theorem Settled.settle_eq {traffic : Traffic} (h : traffic.Settled) (transport : Transport) :
    traffic.settle transport = traffic := by
  have hdue : traffic.dueBy traffic.now = [] := by
    refine List.filter_eq_nil_iff.2 fun w hw => ?_
    have hlt := h.waiting w hw
    simpa using hlt
  rw [settle, dispatch_of_dueBy_nil transport hdue, deliver_of_late h.arriving]

theorem Settled.stop {traffic : Traffic} (h : traffic.Settled) (generation : Nat) :
    (traffic.stop generation).Settled :=
  ⟨fun w hw => h.waiting w (List.mem_filter.1 hw).1,
    fun a ha => h.arriving a (List.mem_filter.1 ha).1⟩

theorem sent_settle (transport : Transport) (traffic : Traffic) :
    (traffic.settle transport).sent =
      ((traffic.dueBy traffic.now).map (·.request)).reverse ++ traffic.sent :=
  sent_dispatch ..

end Traffic

namespace Fetcher

end Fetcher

namespace Assistant

/-! ### Between two steps nothing is due -/

/-- The requests that become due while an action lets time pass. -/
def Action.passes (traffic : Traffic) : Action → List Waiting
  | .advance ms => traffic.dueBy (traffic.now + ms)
  | _ => []

/-- The requests that are sent in the step of an action, the earliest first. -/
def sends (assistant : Assistant) (state : State) (action : Action) : List Waiting :=
  match assistant.service.transport with
  | some _ =>
    let traffic := (assistant.act state action).2.fetcher.traffic
    action.passes state.fetcher.traffic ++ traffic.dueBy traffic.now
  | none => []

theorem sent_request (assistant : Assistant) (state : State) (line : Text) (cursor : Nat)
    (trigger : Trigger) :
    (assistant.request state line cursor trigger).2.fetcher.traffic.sent =
      state.fetcher.traffic.sent := by
  have answer := request_answer assistant state line cursor trigger
  generalize (assistant.request state line cursor trigger).1 = completion at answer
  generalize (assistant.request state line cursor trigger).2 = state' at answer ⊢
  cases answer <;> simp [beginRequest, Fetcher.start, Traffic.launch]

theorem traffic_apply (service : HintService) (fetcher : Fetcher) (event : HintEvent) :
    (fetcher.apply service event).2.traffic = fetcher.traffic := by
  unfold Fetcher.apply
  split
  · split <;> rfl
  · rfl

theorem sent_receive (assistant : Assistant) (state : State) (event : HintEvent) :
    (assistant.receive state event).2.fetcher.traffic.sent = state.fetcher.traffic.sent := by
  have happly := traffic_apply assistant.service state.fetcher event
  unfold receive
  simp only
  split
  · split
    · rw [sent_request]
      exact congrArg Traffic.sent happly
    · exact congrArg Traffic.sent happly
  · exact congrArg Traffic.sent happly

theorem attach_fetcher (assistant : Assistant) (state : State) :
    (assistant.attach state).2.fetcher = state.fetcher := by
  unfold attach
  split <;> rfl

theorem sent_take (fetcher : Fetcher) : fetcher.take.2.traffic.sent = fetcher.traffic.sent := by
  unfold Fetcher.take Traffic.take
  cases fetcher.traffic.events <;> rfl

theorem sent_advance {service : HintService} {transport : Transport}
    (ht : service.transport = some transport) (fetcher : Fetcher) (ms : Nat) :
    (fetcher.advance service ms).traffic.sent =
      ((fetcher.traffic.dueBy (fetcher.traffic.now + ms)).map (·.request)).reverse ++
        fetcher.traffic.sent := by
  have hmax : max fetcher.traffic.now (fetcher.traffic.now + ms) = fetcher.traffic.now + ms :=
    Nat.max_eq_right (Nat.le_add_right _ _)
  simp only [Fetcher.advance, HintService.run, ht, Traffic.advanceTo, hmax, Traffic.sent_settle]
  rfl

theorem sent_act_of_ne_advance (assistant : Assistant) (state : State) {action : Action}
    (hn : ∀ ms, action ≠ .advance ms) :
    (assistant.act state action).2.fetcher.traffic.sent = state.fetcher.traffic.sent := by
  cases action with
  | request line cursor trigger => exact sent_request ..
  | receive event => exact sent_receive ..
  | attach => exact congrArg (·.traffic.sent) (attach_fetcher ..)
  | blur => exact Fetcher.sent_cancel _
  | take => exact sent_take _
  | enable enabled => rfl
  | advance ms => exact absurd rfl (hn ms)

/- What the transport has seen after a step, beyond what it had seen before. -/
theorem sent_step (assistant : Assistant) (state : State) (action : Action) :
    (assistant.step state action).fetcher.traffic.sent =
      ((assistant.sends state action).map (·.request)).reverse ++ state.fetcher.traffic.sent := by
  cases ht : assistant.service.transport with
  | none =>
    have hsends : assistant.sends state action = [] := by simp only [sends, ht]
    have hstep : (assistant.step state action).fetcher.traffic.sent =
        (assistant.act state action).2.fetcher.traffic.sent := by
      simp only [step, settle, Fetcher.settle, HintService.run, ht]
    rw [hstep, hsends]
    by_cases hadvance : ∃ ms, action = .advance ms
    · obtain ⟨ms, rfl⟩ := hadvance
      simp [act, Fetcher.advance, HintService.run, ht]
    · exact sent_act_of_ne_advance assistant state fun ms h => hadvance ⟨ms, h⟩
  | some transport =>
    simp only [step, settle, Fetcher.settle, HintService.run, ht, Traffic.sent_settle, sends,
      List.map_append, List.reverse_append, List.append_assoc]
    congr 1
    by_cases hadvance : ∃ ms, action = .advance ms
    · obtain ⟨ms, rfl⟩ := hadvance
      exact sent_advance ht state.fetcher ms
    · rw [sent_act_of_ne_advance assistant state fun ms h => hadvance ⟨ms, h⟩]
      cases action with
      | advance ms => exact absurd ⟨ms, rfl⟩ hadvance
      | request | receive | attach | blur | take | enable => rfl

/-! ### Runs with their own events -/

/-- The requests that were sent in a run, the earliest first. -/
def calls (assistant : Assistant) : List Action → List Waiting :=
  assistant.record (fun state action seen => seen ++ assistant.sends state action) []

/-- The events that were taken from the queue in a run, the earliest first. -/
def taken (assistant : Assistant) : List Action → List HintEvent :=
  assistant.record (fun state action seen =>
    match action with
    | .take => seen ++ state.fetcher.take.1.toList
    | _ => seen) []

/-- Each event that arrives in the run was taken from the queue before. -/
def OwnEvents (assistant : Assistant) (actions : List Action) : Prop :=
  ∀ before event later, actions = before ++ .receive event :: later →
    event ∈ assistant.taken before

theorem OwnEvents.left {assistant : Assistant} {actions more : List Action}
    (h : OwnEvents assistant (actions ++ more)) : OwnEvents assistant actions := by
  intro before event later heq
  exact h before event (later ++ more) (by simp [heq])

theorem ownEvents_nil (assistant : Assistant) : OwnEvents assistant [] := by
  intro before event later heq
  cases before <;> cases heq

theorem OwnEvents.concat {assistant : Assistant} {actions : List Action}
    (h : OwnEvents assistant actions) {action : Action}
    (hevent : ∀ event, action = .receive event → event ∈ assistant.taken actions) :
    OwnEvents assistant (actions ++ [action]) := by
  intro before event later heq
  rcases List.eq_nil_or_concat later with rfl | ⟨later, last, rfl⟩
  · obtain ⟨rfl, hlast⟩ := List.append_inj' heq rfl
    exact hevent event (List.singleton_inj.1 hlast)
  · have hsplit : actions ++ [action] = (before ++ .receive event :: later) ++ [last] := by
      simp [heq]
    obtain ⟨rfl, _⟩ := List.append_inj' hsplit rfl
    exact h before event later rfl

theorem calls_concat (assistant : Assistant) (actions : List Action) (action : Action) :
    assistant.calls (actions ++ [action]) =
      assistant.calls actions ++ assistant.sends (assistant.after actions) action :=
  record_concat ..

theorem taken_take (assistant : Assistant) (actions : List Action) :
    assistant.taken (actions ++ [.take]) =
      assistant.taken actions ++ (assistant.after actions).fetcher.take.1.toList :=
  record_concat ..

theorem taken_of_ne_take (assistant : Assistant) (actions : List Action) {action : Action}
    (h : action ≠ .take) : assistant.taken (actions ++ [action]) = assistant.taken actions := by
  rw [taken, record_concat]
  cases action with
  | take => exact absurd rfl h
  | request | receive | attach | blur | advance | enable => rfl

/-- What was seen of the fetcher in a run, apart from the generations that were given. -/
def journal (assistant : Assistant) (actions : List Action) (given : List Nat) : Fetcher.Journal where
  fetcher := (assistant.after actions).fetcher
  given
  taken := assistant.taken actions
  calls := assistant.calls actions

/-- The same for one more action, before everything happens that is due. -/
def acted (assistant : Assistant) (actions : List Action) (action : Action) (given : List Nat) :
    Fetcher.Journal where
  fetcher := (assistant.act (assistant.after actions) action).2.fetcher
  given
  taken := assistant.taken (actions ++ [action])
  calls := assistant.calls actions ++ action.passes (assistant.after actions).fetcher.traffic

variable {assistant : Assistant} {transport : Transport}

theorem journal_concat (ht : assistant.service.transport = some transport) (actions : List Action)
    (action : Action) (given : List Nat) :
    assistant.journal (actions ++ [action]) given =
      (assistant.acted actions action given).settle assistant.service := by
  rw [journal, calls_concat, after_concat]
  simp only [Fetcher.Journal.settle, Fetcher.Journal.perform, Fetcher.Dated.step, acted, sends, ht,
    step, settle, List.append_assoc]

/- The order of the requests does not depend on the list that is kept. -/
theorem orderly_session {journal : Fetcher.Journal} (h : Fetcher.Orderly transport journal)
    (session : Session) :
    Fetcher.Orderly transport { journal with fetcher := { journal.fetcher with session } } :=
  ⟨h.phase, h.inOrder.moves (.kept rfl rfl rfl), h.log, h.once, h.called, h.answered,
    h.answeredOnce⟩

theorem request_orderly (journal : Fetcher.Journal) {state : State}
    (h : Fetcher.Orderly transport { journal with fetcher := state.fetcher }) (line : Text)
    (cursor : Nat) (trigger : Trigger) :
    ∃ given, Fetcher.Orderly transport
      { journal with
        fetcher := (assistant.request state line cursor trigger).2.fetcher
        given } := by
  have begun := orderly_session h state.fetcher.session.clearServed
  have answer := request_answer assistant state line cursor trigger
  generalize (assistant.request state line cursor trigger).1 = completion at answer
  generalize (assistant.request state line cursor trigger).2 = state' at answer ⊢
  cases answer with
  | other => exact ⟨journal.given, begun⟩
  | nothing | unavailable => exact ⟨journal.given, begun.cancel⟩
  | declared | cached => exact ⟨journal.given, orderly_session begun.cancel _⟩
  | scheduled token wanted plugin endpoint =>
    exact ⟨_, begun.start assistant.service plugin wanted.key wanted.slot endpoint⟩

theorem receive_orderly (journal : Fetcher.Journal) {state : State}
    (awaits : Awaits assistant state)
    (h : Fetcher.Orderly transport { journal with fetcher := state.fetcher }) {event : HintEvent}
    (he : event ∈ journal.taken) :
    Fetcher.Orderly transport
      { journal with fetcher := (assistant.receive state event).2.fetcher } := by
  have arrival := receive_arrival assistant awaits event
  generalize (assistant.receive state event).1 = completion at arrival
  generalize (assistant.receive state event).2 = state' at arrival ⊢
  -- An event for the pending request ends it, whatever becomes of the list.
  have ended : ∀ pending session, state.fetcher.pending = some pending →
      pending.generation = event.generation →
      Fetcher.Orderly transport
        { journal with fetcher := { state.fetcher with pending := none, session } } := by
    intro pending session hp hg
    have applied := h.apply assistant.service he
    rw [Fetcher.apply_current hp hg] at applied
    exact orderly_session applied session
  cases arrival with
  | stale => exact h
  | failed pending failure hp hg => exact ended pending _ hp hg
  | kept pending payload hp hg => exact ended pending _ hp hg
  | shown pending payload line cursor token wanted plugin hp hg => exact ended pending _ hp hg

theorem acted_orderly (ht : assistant.service.transport = some transport) {actions : List Action}
    {action : Action} (own : OwnEvents assistant (actions ++ [action])) {given : List Nat}
    (h : Fetcher.Orderly transport (assistant.journal actions given)) :
    ∃ given, Fetcher.Orderly transport (assistant.acted actions action given) := by
  -- Most actions neither take an event nor let time pass.
  have still : action ≠ .take → action.passes (assistant.after actions).fetcher.traffic = [] →
      (∃ given, Fetcher.Orderly transport
        { assistant.journal actions given with
          fetcher := (assistant.act (assistant.after actions) action).2.fetcher }) →
      ∃ given, Fetcher.Orderly transport (assistant.acted actions action given) := by
    intro hn hp hacted
    simp only [acted, taken_of_ne_take assistant actions hn, hp, List.append_nil]
    exact hacted
  cases action with
  | request line cursor trigger =>
    exact still (by simp) rfl
      (request_orderly (assistant.journal actions given) h line cursor trigger)
  | receive event =>
    have he : event ∈ assistant.taken actions := own actions event [] rfl
    exact still (by simp) rfl
      ⟨given, receive_orderly (assistant.journal actions given) (after_awaits assistant actions) h
        he⟩
  | blur => exact still (by simp) rfl ⟨given, h.reset⟩
  | enable enabled => exact still (by simp) rfl ⟨given, h⟩
  | attach =>
    refine still (by simp) rfl ⟨given, ?_⟩
    rw [act, attach_fetcher]
    exact h
  | advance ms =>
    refine ⟨given, ?_⟩
    rw [acted, taken_of_ne_take assistant actions (by simp)]
    exact h.advance ht ms
  | take =>
    refine ⟨given, ?_⟩
    simp only [acted, taken_take, Action.passes, List.append_nil]
    exact h.take assistant.service

theorem after_orderly (ht : assistant.service.transport = some transport) {actions : List Action}
    (own : OwnEvents assistant actions) :
    ∃ given, Fetcher.Orderly transport (assistant.journal actions given) := by
  induction actions using List.reverseRecOn with
  | nil => exact ⟨[], Fetcher.orderly_start transport⟩
  | append_singleton actions action ih =>
    obtain ⟨given, h⟩ := ih own.left
    obtain ⟨given', acted⟩ := acted_orderly ht own h
    refine ⟨given', ?_⟩
    rw [journal_concat ht]
    exact acted.settle ht

/- What is sent in a step is for the request that is pending after it. -/
theorem pending_of_sends {actions : List Action} {action : Action}
    (own : OwnEvents assistant (actions ++ [action])) {call : Waiting}
    (hcall : call ∈ assistant.sends (assistant.after actions) action) :
    ∃ pending, (assistant.after (actions ++ [action])).fetcher.pending = some pending ∧
      pending.generation = call.generation := by
  cases ht : assistant.service.transport with
  | none => simp [sends, ht] at hcall
  | some transport =>
    obtain ⟨given, h⟩ := after_orderly ht own.left
    obtain ⟨given', acted⟩ := acted_orderly ht own h
    have hwaits : ∀ traffic : Traffic, ∀ time, call ∈ traffic.dueBy time →
        call.generation ∈ traffic.live := by
      intro traffic time hdue
      exact List.mem_append_left _ (List.mem_map_of_mem (List.mem_filter.1 hdue).1)
    rw [after_concat]
    simp only [sends, ht] at hcall
    rcases List.mem_append.1 hcall with hpassed | hdue
    · cases action with
      | advance ms => exact h.phase.live.2 _ (hwaits _ _ hpassed)
      | request | receive | attach | blur | take | enable => cases hpassed
    · exact acted.phase.live.2 _ (hwaits _ _ hdue)

end Assistant

end RuleHints
