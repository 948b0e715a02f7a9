import RuleHints.Proofs.Assistant.PopupRange
import RuleHints.Proofs.Assistant.Reuse

/-!
# The size of a popup

A popup has at least one candidate and at most as many as the settings allow. Each list is cut where
it is made: a list of candidates by its source, a set of hints by refusing what comes after it is
full. The list that is kept in the session was cut in this way too, so it is short when it is shown
again.
-/

namespace RuleHints

/-! ### Lists of candidates -/

theorem Protocol.length_offered_le (registry : Registry) (cap : Nat) (keyword : Text) :
    (Protocol.offered registry cap keyword).length ≤ cap := by
  unfold Protocol.offered
  split
  · exact List.length_take_le _ _
  · exact List.length_take_le _ _

namespace Sources

variable (sources : Sources)

theorem length_protocolCandidates_le (keyword : Text) :
    (sources.protocolCandidates keyword).length ≤ sources.limits.candidates := by
  unfold protocolCandidates
  split
  · rw [List.length_map]
    exact Protocol.length_offered_le ..
  · exact Nat.zero_le _

/- The other lists are cut before they are made into candidates. -/
theorem length_map_take_le {α : Type} (f : α → Candidate) (cap : Nat) (entries : List α) :
    ((entries.take cap).map f).length ≤ cap := by
  rw [List.length_map]
  exact List.length_take_le _ _

theorem length_candidates_le (token : Token) :
    (sources.candidates token).length ≤ sources.limits.candidates := by
  unfold candidates
  split
  · exact sources.length_protocolCandidates_le token.text
  · exact length_map_take_le ..
  · exact length_map_take_le ..
  · exact length_map_take_le ..
  · exact Nat.zero_le _
  · exact Nat.zero_le _

end Sources

/-! ### Sets of hints -/

namespace HintContext

variable (context : HintContext)

theorem length_push_le {set : HintSet}
    (h : set.candidates.length ≤ context.limits.candidates) (hint : RawHint) :
    (context.push set hint).candidates.length ≤ context.limits.candidates := by
  unfold push push?
  split
  · exact h
  · next hfull =>
    have hroom : set.candidates.length < context.limits.candidates := by
      simpa [isFull] using hfull
    split
    · exact h
    · split
      · exact h
      · simp only [Option.getD_some, List.length_append, List.length_singleton]
        omega

theorem length_foldl_push_le {set : HintSet}
    (h : set.candidates.length ≤ context.limits.candidates) (hints : List RawHint) :
    (hints.foldl context.push set).candidates.length ≤ context.limits.candidates := by
  induction hints generalizing set with
  | nil => exact h
  | cons hint hints ih => exact ih (context.length_push_le h hint)

theorem length_renderAll_le (hints : List RawHint) :
    (context.renderAll hints).candidates.length ≤ context.limits.candidates :=
  context.length_foldl_push_le (Nat.zero_le _) hints

theorem length_declared?_le {value : Text} {hints : HintSet}
    (h : context.declared? value = some hints) :
    hints.candidates.length ≤ context.limits.candidates := by
  obtain ⟨list, _, rfl⟩ := Option.map_eq_some_iff.1 h
  exact context.length_renderAll_le _

end HintContext

/-- The list of the session has at most `cap` candidates. -/
def Session.Within (session : Session) (cap : Nat) : Prop :=
  session.hints.candidates.length ≤ cap

theorem Fetcher.answered_within (service : HintService) (pending : Pending)
    (outcome : Except Failure Json) :
    (Fetcher.answered service pending outcome).Within service.limits.candidates := by
  unfold Fetcher.answered
  split
  · exact HintContext.length_renderAll_le
      (pending.context service.limits service.index) _
  · exact Nat.zero_le _

theorem Fetcher.apply_within {service : HintService} {fetcher : Fetcher}
    (h : fetcher.session.Within service.limits.candidates) (event : HintEvent) :
    (fetcher.apply service event).2.session.Within service.limits.candidates := by
  unfold Fetcher.apply
  split
  · split
    · exact Fetcher.answered_within ..
    · exact h
  · exact h

/-! ### Popups -/

/-- The popup has candidates, but at most `cap` of them. -/
structure Popup.FitsIn (popup : Popup) (cap : Nat) : Prop where
  nonempty : 1 ≤ popup.candidates.length
  capped : popup.candidates.length ≤ cap

namespace Assistant

theorem fitsIn_tokenPopup {token : Token} {candidates : List Candidate} {mode : PopupMode}
    {popup : Popup} {cap : Nat} (hp : popup ∈ tokenPopup token candidates mode)
    (hcap : candidates.length ≤ cap) : popup.FitsIn cap := by
  unfold tokenPopup at hp
  split at hp
  · cases hp
  · next hne =>
    cases hp
    exact ⟨List.length_pos_iff.2 (by simpa using hne), hcap⟩

theorem fitsIn_protocolPopup {sources : Sources} {line : Text} {token : Token} {popup : Popup}
    (hp : popup ∈ protocolPopup sources line token) : popup.FitsIn sources.limits.candidates := by
  unfold protocolPopup at hp
  simp only at hp
  split at hp
  · cases hp
  · next hne =>
    cases hp
    refine ⟨List.length_pos_iff.2 (by simpa using hne), ?_⟩
    exact sources.length_protocolCandidates_le token.text

section

variable {assistant : Assistant} {state : State} {line : Text} {cursor : Nat} {popup : Popup}

theorem fitsIn_complete {token : Token}
    (hp : (assistant.complete state line cursor token).1.popup = some popup)
    (hm : popup.mode ≠ .hint) : popup.FitsIn assistant.settings.limits.candidates := by
  have hlist := (assistant.sources state.enabled).length_candidates_le token
  cases hw : wanted? token with
  | some wanted =>
    simp only [complete, hw] at hp
    split at hp
    · cases hp
      exact absurd rfl hm
    · cases hp
    · split at hp
      · exact fitsIn_protocolPopup hp
      · cases hp
  | none =>
    simp only [complete, hw] at hp
    split at hp
    · exact fitsIn_tokenPopup hp hlist
    · exact fitsIn_tokenPopup hp hlist
    · exact fitsIn_tokenPopup hp hlist
    · exact fitsIn_protocolPopup hp

theorem request_within {trigger : Trigger}
    (h : state.fetcher.session.Within assistant.settings.limits.candidates) :
    (assistant.request state line cursor trigger).2.fetcher.session.Within
        assistant.settings.limits.candidates := by
  have answer := request_answer assistant state line cursor trigger
  generalize (assistant.request state line cursor trigger).1 = completion at answer
  generalize (assistant.request state line cursor trigger).2 = state' at answer ⊢
  cases answer with
  | other | cached => exact h
  | declared token wanted plugin hints asks hd => exact HintContext.length_declared?_le _ hd
  | nothing | unavailable | scheduled =>
    simp only [Fetcher.start, Fetcher.session_cancel]
    exact h

/- A popup of hints shows the list that the request leaves in the session. -/
theorem fitsIn_request {trigger : Trigger}
    (h : state.fetcher.session.Within assistant.settings.limits.candidates)
    (hp : (assistant.request state line cursor trigger).1.popup = some popup) :
    popup.FitsIn assistant.settings.limits.candidates := by
  by_cases hm : popup.mode = .hint
  · obtain ⟨token, _, heq⟩ := hintPopup_of_request hp hm
    have hne := request_hints_nonempty hp hm
    refine ⟨List.length_pos_iff.2 (by simpa using hne), ?_⟩
    rw [heq]
    exact request_within h
  · cases ht : Line.classify? assistant.plugins assistant.settings.limits line cursor trigger with
    | none => simp [request, ht] at hp
    | some token =>
      have hcomplete : (assistant.complete (beginRequest state line cursor) line cursor
          token).1.popup = some popup := by
        simpa only [request, ht] using hp
      exact fitsIn_complete hcomplete hm

end

/-! ### Over a run -/

section

variable {assistant : Assistant} (hlimits : assistant.service.limits = assistant.settings.limits)

include hlimits

theorem applied_within {state : State}
    (h : state.fetcher.session.Within assistant.settings.limits.candidates) (event : HintEvent) :
    (state.fetcher.apply assistant.service event).2.session.Within
      assistant.settings.limits.candidates := by
  rw [← hlimits] at h ⊢
  exact Fetcher.apply_within h event

theorem receive_within {state : State}
    (h : state.fetcher.session.Within assistant.settings.limits.candidates) (event : HintEvent) :
    (assistant.receive state event).2.fetcher.session.Within
      assistant.settings.limits.candidates := by
  have happly := applied_within hlimits h event
  unfold receive
  simp only
  split
  · split
    · exact request_within happly
    · exact happly
  · exact happly

theorem after_within (actions : List Action) :
    (assistant.after actions).fetcher.session.Within assistant.settings.limits.candidates := by
  refine after_induction assistant
    (I := fun _ state => state.fetcher.session.Within assistant.settings.limits.candidates)
    (Nat.zero_le _) ?_ actions
  intro actions action h
  rcases step_cases assistant (assistant.after actions) action with
    ⟨line, cursor, trigger, rfl, same⟩ | ⟨event, rfl, same⟩ | ⟨rfl, same⟩ | ⟨_, _, same⟩
  · rw [same.session]
    exact request_within h
  · rw [same.session]
    exact receive_within hlimits h event
  · rw [same.session]
    exact Nat.zero_le _
  · rw [same.session]
    exact h

theorem fitsIn_act {state : State} {action : Action} {popup : Popup}
    (h : state.fetcher.session.Within assistant.settings.limits.candidates)
    (hp : (assistant.act state action).1.popup = some popup) :
    popup.FitsIn assistant.settings.limits.candidates := by
  obtain ⟨completion, hr, hc⟩ := requested?_of_popup hp
  cases action with
  | request line cursor trigger =>
    cases hr
    exact fitsIn_request h hc
  | receive event =>
    -- The popup is the answer to the request that the event has made again.
    simp only [requested?] at hr
    split at hr
    · obtain ⟨place, _, rfl⟩ := Option.map_eq_some_iff.1 hr
      exact fitsIn_request (applied_within hlimits h event) hc
    · cases hr
  | attach | blur | enable | advance | take => cases hr

end

/-- An assistant that is made from settings and plugins, and is then given pages, a provider of `@`
values and a transport. -/
def equipped (settings : Settings) (plugins : Plugin.Directory) (corpus : Corpus)
    (atProvider : Option AtProvider) (transport : Option Transport) (background : Bool) :
    Assistant :=
  { ofSettings settings plugins with
    corpus
    atProvider
    service := { HintService.ofSettings settings with transport, background } }

/-- No popup is empty, and none is longer than the settings allow, whatever the host provides and
whatever arrives. No list of candidates and no set of hints is longer than its limits allow either,
for any token and any value. -/
theorem popups_nonempty_and_capped (settings : Settings) (plugins : Plugin.Directory)
    (corpus : Corpus) (atProvider : Option AtProvider) (transport : Option Transport)
    (background : Bool) :
    let assistant := equipped settings plugins corpus atProvider transport background
    (∀ actions action popup,
      .popup popup ∈ notices (assistant.act (assistant.after actions) action).1 →
        1 ≤ popup.candidates.length ∧ popup.candidates.length ≤ settings.limits.candidates) ∧
    (∀ (sources : Sources) (token : Token),
      (sources.candidates token).length ≤ sources.limits.candidates) ∧
    ∀ (context : HintContext) (value : Text) (hints : HintSet),
      context.declared? value = some hints →
        hints.candidates.length ≤ context.limits.candidates := by
  intro assistant
  have hlimits : assistant.service.limits = assistant.settings.limits := rfl
  refine ⟨?_, Sources.length_candidates_le, fun context _ _ => context.length_declared?_le⟩
  intro actions action popup shown
  have hpopup : (assistant.act (assistant.after actions) action).1.popup = some popup := by
    simpa [notices] using shown
  have fits := fitsIn_act hlimits (after_within hlimits actions) hpopup
  exact ⟨fits.nonempty, fits.capped⟩

/- Two hints arrive, and two are declared, where one candidate is allowed. -/
theorem single_hint_of_two :
    let limits : Limits := { candidates := 1 }
    let settings : Settings := { limits }
    let plugin : Plugin.Metadata := { moduleName := "whistle.inspect", hintUrl := some "hints" }
    let transport : Transport := ⟨fun _ _ => { outcome := .ok (.array []) }⟩
    let assistant :=
      equipped settings (.ofList [plugin]) (.ofRegistry settings.registry []) none transport true
    let answer : HintEvent := ⟨1, .ok (.array [.string "ab", .string "ac"])⟩
    let popup : Popup := ⟨[.ofText "inspect://ab"], 0, 11, .hint⟩
    let context : HintContext :=
      ⟨{ plugin with hintList := some [.plain "ab", .plain "ac"] }, "inspect", .value, limits, []⟩
    (.popup popup ∈
        notices (assistant.act (assistant.after [typed "inspect://a"]) (.receive answer)).1 ∧
      1 ≤ popup.candidates.length ∧ popup.candidates.length ≤ 1) ∧
    ∃ hints, context.declared? "A" = some hints ∧ hints.candidates.length ≤ 1 := by
  intro limits settings plugin transport assistant answer popup context
  obtain ⟨hshown, _, hdeclared⟩ := popups_nonempty_and_capped settings (.ofList [plugin])
    (.ofRegistry settings.registry []) none transport true
  have hpopup : (assistant.act (assistant.after [typed "inspect://a"])
      (.receive answer)).1.popup = some popup := by decide
  have hmem : .popup popup ∈
      notices (assistant.act (assistant.after [typed "inspect://a"]) (.receive answer)).1 := by
    rw [notices, hpopup]
    exact List.mem_singleton_self _
  obtain ⟨hints, hsome⟩ : ∃ hints, context.declared? "A" = some hints := ⟨_, rfl⟩
  exact ⟨⟨hmem, hshown _ _ popup hmem⟩, hints, hsome, hdeclared context "A" hints hsome⟩

end Assistant

end RuleHints
