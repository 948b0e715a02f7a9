import RuleHints.Proofs.Assistant.Arrival

/-!
# The switch for protocols

Two assistants that differ only in whether protocols are offered go through the same states. A word
such as `name:` asks its plugin for hints and shows protocols meanwhile, so the switch lies on the
way of requests to plugins; but it is read only when a popup of protocols is made. `quietly` says what
one action does when the switch is off, and the runs follow action by action.
-/

namespace RuleHints

/-- The same completion, but for a popup of protocols. -/
def Completion.withoutProtocols (completion : Completion) : Completion :=
  { completion with popup := completion.popup.filter (·.mode ≠ .protocol) }

theorem filter_protocols_eq_self {popup : Option Popup} (h : ∀ p ∈ popup, p.mode ≠ .protocol) :
    popup.filter (·.mode ≠ .protocol) = popup := by
  cases popup with
  | none => rfl
  | some p => simp [h p rfl]

namespace Assistant

/-- The same assistant, with another switch at the start. -/
def switched (assistant : Assistant) (enabled : Bool) : Assistant :=
  { assistant with settings := { assistant.settings with enabled } }

/-- The result of an action, without a popup of protocols and with the switch off. -/
def quietly (result : Completion × State) : Completion × State :=
  (result.1.withoutProtocols, setEnabled result.2 false)

/-! ### One request -/

/- There are no protocols to show, so there is no popup of them. -/
theorem protocolPopup_off (assistant : Assistant) (enabled : Bool) (line : Text) (token : Token) :
    protocolPopup (assistant.sources false) line token =
      (protocolPopup (assistant.sources enabled) line token).filter (·.mode ≠ .protocol) := by
  have hoff : protocolPopup (assistant.sources false) line token = none := rfl
  rw [hoff, eq_comm, Option.filter_eq_none_iff]
  intro popup hp
  simp [protocolPopup_mode hp]

theorem tokenPopup_filter {token : Token} {candidates : List Candidate} {mode : PopupMode}
    (h : mode ≠ .protocol) :
    (tokenPopup token candidates mode).filter (·.mode ≠ .protocol) =
      tokenPopup token candidates mode := by
  refine filter_protocols_eq_self fun popup hp => ?_
  rwa [tokenPopup_mode hp]

theorem serve_setEnabled (assistant : Assistant) (state : State) (plugin : Plugin.Metadata)
    (wanted : Wanted) (enabled : Bool) :
    assistant.serve (setEnabled state enabled) plugin wanted =
      ((assistant.serve state plugin wanted).1,
        setEnabled (assistant.serve state plugin wanted).2 enabled) := by
  simp only [serve, setEnabled]
  split <;> rfl

theorem lookup_setEnabled (assistant : Assistant) (state : State) (wanted : Wanted)
    (enabled : Bool) :
    assistant.lookup (setEnabled state enabled) wanted =
      ((assistant.lookup state wanted).1,
        setEnabled (assistant.lookup state wanted).2 enabled) := by
  unfold lookup
  split
  · rfl
  · next plugin hp =>
    split
    · next hints hd =>
      split
      · rfl
      · exact serve_setEnabled assistant
          { state with fetcher := state.fetcher.cancel.install wanted.key hints } plugin wanted
          enabled
    · exact serve_setEnabled assistant { state with fetcher := state.fetcher.cancel } plugin wanted
        enabled

theorem complete_off (assistant : Assistant) (state : State) (line : Text) (cursor : Nat)
    (token : Token) :
    assistant.complete (setEnabled state false) line cursor token =
      quietly (assistant.complete state line cursor token) := by
  unfold complete
  cases hw : wanted? token with
  | some wanted =>
    simp only [lookup_setEnabled]
    rcases assistant.lookup state wanted with ⟨found, state'⟩
    cases found with
    | shown hints => rfl
    | empty => rfl
    | pending generation =>
      -- The request to the plugin is on its way in both; only the popup meanwhile is missing.
      cases mayBeProtocol token with
      | false => rfl
      | true =>
        simp only [if_true, quietly, Completion.withoutProtocols]
        rw [← protocolPopup_off assistant state.enabled]
        rfl
  | none =>
    simp only [quietly, Completion.withoutProtocols]
    split
    · next keyword hk =>
      rw [tokenPopup_filter (by decide)]
      simp only [Sources.candidates, hk]
      rfl
    · next value hk =>
      rw [tokenPopup_filter (by decide)]
      simp only [Sources.candidates, hk]
      rfl
    · next spec value hk =>
      rw [tokenPopup_filter (by decide)]
      simp only [Sources.candidates, hk]
      rfl
    · rw [← protocolPopup_off assistant state.enabled]
      rfl

theorem request_off (assistant : Assistant) (state : State) (line : Text) (cursor : Nat)
    (trigger : Trigger) :
    assistant.request (setEnabled state false) line cursor trigger =
      quietly (assistant.request state line cursor trigger) := by
  unfold request
  cases Line.classify? assistant.plugins assistant.settings.limits line cursor trigger with
  | none => rfl
  | some token => exact complete_off assistant (beginRequest state line cursor) line cursor token

theorem receive_off (assistant : Assistant) (state : State) (event : HintEvent) :
    assistant.receive (setEnabled state false) event = quietly (assistant.receive state event) := by
  unfold receive
  cases hfound : (state.fetcher.apply assistant.service event).1 && state.waiting with
  | false => simp [setEnabled, hfound, quietly, Completion.withoutProtocols]
  | true =>
    simp only [setEnabled, hfound, if_true]
    cases hl : state.latest with
    | none => rfl
    | some place =>
      exact request_off assistant
        { state with
          fetcher := (state.fetcher.apply assistant.service event).2
          latest := some place } place.1 place.2 .plugin

/- An event shows the hints that it brought or nothing. -/
theorem receive_popup_mode (assistant : Assistant) {state : State}
    (awaits : Awaits assistant state) (event : HintEvent) :
    ∀ popup ∈ (assistant.receive state event).1.popup, popup.mode = .hint := by
  have arrival := receive_arrival assistant awaits event
  generalize (assistant.receive state event).1 = completion at arrival ⊢
  generalize (assistant.receive state event).2 = state' at arrival
  cases arrival with
  | stale | failed | kept =>
    intro popup hp
    cases hp
  | shown =>
    intro popup hp
    cases hp
    rfl

theorem receive_completion_off (assistant : Assistant) {state : State}
    (awaits : Awaits assistant state) (event : HintEvent) :
    (assistant.receive (setEnabled state false) event).1 = (assistant.receive state event).1 := by
  rw [receive_off]
  simp only [quietly, Completion.withoutProtocols]
  rw [filter_protocols_eq_self]
  intro popup hp
  simp [receive_popup_mode assistant awaits event popup hp]

/-! ### One action -/

theorem attach_off (assistant : Assistant) (state : State) :
    assistant.attach (setEnabled state false) =
      ((assistant.attach state).1, setEnabled (assistant.attach state).2 false) := by
  unfold attach
  cases hr : state.registered <;> simp [setEnabled, hr]

theorem act_off (assistant : Assistant) (state : State) {action : Action}
    (h : ∀ enabled, action ≠ .enable enabled) :
    assistant.act (setEnabled state false) action = quietly (assistant.act state action) := by
  cases action with
  | request line cursor trigger => exact request_off assistant state line cursor trigger
  | receive event => exact receive_off assistant state event
  | attach =>
    simp only [act, attach_off]
    rfl
  | enable enabled => exact absurd rfl (h enabled)
  | blur | advance | take => rfl

theorem step_off (assistant : Assistant) (state : State) {action : Action}
    (h : ∀ enabled, action ≠ .enable enabled) :
    assistant.step (setEnabled state false) action =
      setEnabled (assistant.step state action) false := by
  rw [step, act_off assistant state h]
  rfl

theorem enabled_request (assistant : Assistant) (state : State) (line : Text) (cursor : Nat)
    (trigger : Trigger) :
    (assistant.request state line cursor trigger).2.enabled = state.enabled := by
  have answer := request_answer assistant state line cursor trigger
  generalize (assistant.request state line cursor trigger).1 = completion at answer
  generalize (assistant.request state line cursor trigger).2 = state' at answer ⊢
  cases answer <;> rfl

theorem enabled_receive (assistant : Assistant) (state : State) (event : HintEvent) :
    (assistant.receive state event).2.enabled = state.enabled := by
  simp only [receive]
  split
  · split
    · exact enabled_request ..
    · rfl
  · rfl

theorem enabled_step (assistant : Assistant) (state : State) {action : Action}
    (h : ∀ enabled, action ≠ .enable enabled) :
    (assistant.step state action).enabled = state.enabled := by
  have hact : (assistant.act state action).2.enabled = state.enabled := by
    cases action with
    | request line cursor trigger => exact enabled_request ..
    | receive event => exact enabled_receive ..
    | attach =>
      simp only [act, attach]
      split <;> rfl
    | enable enabled => exact absurd rfl (h enabled)
    | blur | advance | take => rfl
  exact hact

/-! ### Whole runs -/

/-- None of the actions turns the switch. -/
def Unswitched (actions : List Action) : Prop :=
  ∀ action ∈ actions, ∀ enabled, action ≠ .enable enabled

theorem proceed_awaits (assistant : Assistant) {state : State} (awaits : Awaits assistant state)
    (actions : List Action) : Awaits assistant (assistant.proceed state actions) := by
  induction actions generalizing state with
  | nil => exact awaits
  | cons action rest ih => exact ih (step_awaits assistant awaits action)

theorem enabled_proceed (assistant : Assistant) (state : State) {actions : List Action}
    (h : Unswitched actions) : (assistant.proceed state actions).enabled = state.enabled := by
  induction actions generalizing state with
  | nil => rfl
  | cons action rest ih =>
    obtain ⟨haction, hrest⟩ := List.forall_mem_cons.1 h
    calc (assistant.proceed (assistant.step state action) rest).enabled
        = (assistant.step state action).enabled := ih _ hrest
      _ = state.enabled := enabled_step assistant state haction

theorem proceed_off (assistant : Assistant) (state : State) {actions : List Action}
    (h : Unswitched actions) :
    assistant.proceed (setEnabled state false) actions =
      setEnabled (assistant.proceed state actions) false := by
  induction actions generalizing state with
  | nil => rfl
  | cons action rest ih =>
    obtain ⟨haction, hrest⟩ := List.forall_mem_cons.1 h
    calc assistant.proceed (assistant.step (setEnabled state false) action) rest
        = assistant.proceed (setEnabled (assistant.step state action) false) rest := by
          rw [step_off assistant state haction]
      _ = setEnabled (assistant.proceed (assistant.step state action) rest) false := ih _ hrest

theorem popups_off (assistant : Assistant) (state : State) {actions : List Action}
    (h : Unswitched actions) :
    assistant.popups (setEnabled state false) actions =
      (assistant.popups state actions).filter (·.mode ≠ .protocol) := by
  induction actions generalizing state with
  | nil => rfl
  | cons action rest ih =>
    obtain ⟨haction, hrest⟩ := List.forall_mem_cons.1 h
    simp only [popups, act_off assistant state haction, step_off assistant state haction,
      ih _ hrest, quietly, Completion.withoutProtocols, Option.toList_filter, List.filter_append]

/- The switch at the start has no part in what an assistant does later. -/
theorem popups_switched (assistant : Assistant) (enabled : Bool) (state : State)
    (actions : List Action) :
    (assistant.switched enabled).popups state actions = assistant.popups state actions := by
  induction actions generalizing state with
  | nil => rfl
  | cons action rest ih =>
    exact congrArg ((assistant.act state action).1.popup.toList ++ ·)
      (ih (assistant.step state action))

/-- Two assistants that were set up alike, apart from the switch at the start, go on from the same
state, except that protocols are offered by the one and not by the other. Whatever happens then but
for the switch being turned, their states differ only in the switch. So hints that arrive are shown
alike, help is the same, and a request gives the same completion apart from a popup of protocols. The
popups of the run are the same, in order, but for those of protocols. -/
theorem switch_affects_protocols_only (assistant : Assistant) (configured : Bool)
    (before actions : List Action) (h : Unswitched actions) :
    let other := assistant.switched configured
    let offering := setEnabled (assistant.after before) true
    let silent := setEnabled (assistant.after before) false
    let on := assistant.proceed offering actions
    let off := other.proceed silent actions
    (on.enabled = true ∧ off = setEnabled on false) ∧
      (∀ event, (other.receive off event).1 = (assistant.receive on event).1) ∧
      (∀ line cursor selected,
        other.help? off line cursor selected = assistant.help? on line cursor selected) ∧
      (∀ line cursor trigger, (other.request off line cursor trigger).1 =
        (assistant.request on line cursor trigger).1.withoutProtocols) ∧
      other.popups silent actions =
        (assistant.popups offering actions).filter (·.mode ≠ .protocol) := by
  intro other offering silent on off
  have hoff : off = setEnabled on false := proceed_off assistant offering h
  have start : Awaits assistant offering :=
    (after_awaits assistant before).sameHints ⟨rfl, rfl, rfl, rfl, rfl⟩
  have awaits : Awaits assistant on := proceed_awaits assistant start actions
  refine ⟨⟨enabled_proceed assistant offering h, hoff⟩, ?_, ?_, ?_, ?_⟩
  · intro event
    rw [hoff]
    exact receive_completion_off assistant awaits event
  · intro line cursor selected
    rw [hoff]
    rfl
  · intro line cursor trigger
    rw [hoff]
    exact congrArg Prod.fst (request_off assistant on line cursor trigger)
  · exact (popups_switched assistant configured silent actions).trans
      (popups_off assistant offering h)

/- The word asks the plugin and may still be a protocol; the hints come in both cases. -/
theorem inspector_without_protocols :
    let assistant := { inspector with registry := ⟨["inspect://"]⟩ }
    let actions := [typed "inspect:", .advance 120, .receive (brought 1 "abc")]
    let offering := setEnabled (assistant.after []) true
    let silent := setEnabled (assistant.after []) false
    Unswitched actions ∧ (assistant.popups offering actions).map (·.mode) = [.protocol, .hint] ∧
      ((assistant.switched false).popups silent actions).map (·.mode) = [.hint] := by
  intro assistant actions offering silent
  have h : Unswitched actions := by
    simp [Unswitched, actions, typed]
  have hon : (assistant.popups offering actions).map (·.mode) = [.protocol, .hint] := by
    decide +kernel
  refine ⟨h, hon, ?_⟩
  rw [(switch_affects_protocols_only assistant false [] actions h).2.2.2.2]
  have hmodes := congrArg (List.filter (· ≠ PopupMode.protocol)) hon
  rwa [List.filter_map] at hmodes

end Assistant

end RuleHints
