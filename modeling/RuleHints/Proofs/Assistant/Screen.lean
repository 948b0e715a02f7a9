import RuleHints.Proofs.Assistant.Freshness
import RuleHints.Proofs.Hint.Rendering

/-!
# Help for the list on the screen

The session is served exactly while its list is on the screen: the latest request has shown it, and
the focus was not lost since. Nothing is pending then, so no event can put another list under the
popup, and the help of a candidate is the one that came with it.
-/

namespace RuleHints

namespace Assistant

/-! ### What is on the screen -/

/-- The completion of the request that an action makes: the user asks, or hints arrive that are still
wanted. -/
def requested? (assistant : Assistant) (state : State) : Action → Option Completion
  | .request line cursor trigger => some (assistant.request state line cursor trigger).1
  | .receive event =>
    let (found, fetcher) := state.fetcher.apply assistant.service event
    if found && state.waiting then
      state.latest.map fun place =>
        (assistant.request { state with fetcher } place.1 place.2 .plugin).1
    else none
  | _ => none

theorem act_completion (assistant : Assistant) (state : State) (action : Action) :
    (assistant.act state action).1 = (assistant.requested? state action).getD {} := by
  cases action with
  | receive event =>
    simp only [act, receive, requested?]
    split
    · cases state.latest <;> rfl
    · rfl
  | request | attach | blur | enable | advance | take => rfl

theorem requested?_of_popup {assistant : Assistant} {state : State} {action : Action}
    {popup : Popup}
    (h : (assistant.act state action).1.popup = some popup) :
    ∃ completion, assistant.requested? state action = some completion ∧
      completion.popup = some popup := by
  rw [act_completion] at h
  cases hr : assistant.requested? state action with
  | none => simp [hr] at h
  | some completion => exact ⟨completion, rfl, by simpa [hr] using h⟩

theorem requested?_stale (assistant : Assistant) {state : State} {event : HintEvent}
    (h : ∀ pending ∈ state.fetcher.pending, pending.generation ≠ event.generation) :
    assistant.requested? state (.receive event) = none := by
  simp [requested?, Fetcher.apply_of_ne h]

/-- What the latest request of a run gave, if the focus was not lost since. -/
def screen? (assistant : Assistant) : List Action → Option Completion :=
  assistant.record (fun state action seen =>
    match action with
    | .blur => none
    | action => (assistant.requested? state action).or seen) none

/-- The popup that was last handed to the editor. -/
def lastPopup? (assistant : Assistant) : List Action → Option Popup :=
  assistant.record (fun state action seen => (assistant.act state action).1.popup.or seen) none

theorem screen?_concat (assistant : Assistant) (actions : List Action) {action : Action}
    (h : action ≠ .blur) :
    assistant.screen? (actions ++ [action]) =
      (assistant.requested? (assistant.after actions) action).or (assistant.screen? actions) := by
  rw [screen?, record_concat]
  cases action with
  | blur => exact absurd rfl h
  | request | receive | attach | enable | advance | take => rfl

theorem screen?_blur (assistant : Assistant) (actions : List Action) :
    assistant.screen? (actions ++ [.blur]) = none :=
  record_concat ..

theorem lastPopup?_concat (assistant : Assistant) (actions : List Action) (action : Action) :
    assistant.lastPopup? (actions ++ [action]) =
      (assistant.act (assistant.after actions) action).1.popup.or
        (assistant.lastPopup? actions) :=
  record_concat ..

/-- The popup on the screen shows the list of the session, which is for the word of the latest
request. -/
structure OnScreen (assistant : Assistant) (actions : List Action) (session : Session)
    (popup : Popup) : Prop where
  latest : (assistant.screen? actions).bind (·.popup) = some popup
  last : assistant.lastPopup? actions = some popup
  hint : popup.mode = .hint
  list : popup.candidates = session.hints.candidates
  word : ∃ line cursor trigger wanted, latestRequest? actions = some (line, cursor, trigger) ∧
    assistant.wantedAt? line cursor trigger = some wanted ∧ session.key = some wanted.key

/-- What the flag of the session says about the screen. -/
structure Screened (assistant : Assistant) (actions : List Action) (state : State) : Prop where
  hidden : ∀ popup, (assistant.screen? actions).bind (·.popup) = some popup →
    popup.mode = .hint → state.fetcher.session.served = true
  shown : state.fetcher.session.served = true → state.fetcher.pending = none ∧
    ∃ popup, OnScreen assistant actions state.fetcher.session popup

theorem Screened.sameHints {assistant : Assistant} {actions : List Action} {state state' : State}
    (h : Screened assistant actions state) (same : SameHints state state') :
    Screened assistant actions state' := by
  refine ⟨?_, ?_⟩
  · rw [same.session]
    exact h.hidden
  · rw [same.session, same.pending]
    exact h.shown

/- Nothing changes on the screen by an action that makes no request and does not take the focus. -/
theorem Screened.concat {assistant : Assistant} {actions : List Action}
    (h : Screened assistant actions (assistant.after actions)) {action : Action}
    (hn : assistant.requested? (assistant.after actions) action = none) (hb : action ≠ .blur) :
    Screened assistant (actions ++ [action]) (assistant.after actions) := by
  have hscreen : assistant.screen? (actions ++ [action]) = assistant.screen? actions := by
    rw [screen?_concat assistant actions hb, hn, Option.none_or]
  have hlast : assistant.lastPopup? (actions ++ [action]) = assistant.lastPopup? actions := by
    rw [lastPopup?_concat, act_completion, hn]
    rfl
  have hlatest : latestRequest? (actions ++ [action]) = latestRequest? actions := by
    refine latestRequest?_other actions ?_
    rintro line cursor trigger rfl
    cases hn
  refine ⟨hscreen ▸ h.hidden, fun hs => ?_⟩
  obtain ⟨hnone, popup, on⟩ := h.shown hs
  exact ⟨hnone, popup, hscreen ▸ on.latest, hlast ▸ on.last, on.hint, on.list, hlatest ▸ on.word⟩

/-! ### Requests and events keep it -/

/- A request serves the session exactly if it shows its list. -/
theorem request_served (assistant : Assistant) (state : State) (line : Text) (cursor : Nat)
    (trigger : Trigger) :
    let result := assistant.request state line cursor trigger
    (∀ popup, result.1.popup = some popup → popup.mode = .hint →
        result.2.fetcher.session.served = true) ∧
      (result.2.fetcher.session.served = true → result.2.fetcher.pending = none ∧
        ∃ popup, result.1.popup = some popup ∧ popup.mode = .hint) := by
  intro result
  have answer : Answer assistant state line cursor trigger result.1 result.2 :=
    request_answer assistant state line cursor trigger
  generalize result.1 = completion at answer ⊢
  generalize result.2 = state' at answer ⊢
  cases answer with
  | other popup _ hother =>
    exact ⟨fun p hp hm => absurd hm (hother p hp), fun hs => (by cases hs)⟩
  | nothing =>
    refine ⟨fun p hp => (by cases hp), fun hs => ?_⟩
    rw [Fetcher.session_cancel] at hs
    cases hs
  | declared => exact ⟨fun _ _ _ => rfl, fun _ => ⟨by simp, _, rfl, rfl⟩⟩
  | cached => exact ⟨fun _ _ _ => rfl, fun _ => ⟨by simp, _, rfl, rfl⟩⟩
  | unavailable token wanted plugin popup _ _ _ hother =>
    refine ⟨fun p hp hm => absurd hm (hother p hp), fun hs => ?_⟩
    rw [Fetcher.session_cancel] at hs
    cases hs
  | scheduled token wanted plugin endpoint popup _ _ _ hother _ =>
    refine ⟨fun p hp hm => absurd hm (hother p hp), fun hs => ?_⟩
    simp only [Fetcher.start, Fetcher.session_cancel] at hs
    cases hs

/- An event that is not for the pending request leaves the list on the screen; any other one takes
it away or shows its own. -/
theorem receive_served {assistant : Assistant} {state : State} (awaits : Awaits assistant state)
    {event : HintEvent} {pending : Pending} (hp : state.fetcher.pending = some pending)
    (hg : pending.generation = event.generation) :
    let result := assistant.receive state event
    (∀ popup, result.1.popup = some popup → result.2.fetcher.session.served = true) ∧
      (result.2.fetcher.session.served = true → result.2.fetcher.pending = none ∧
        ∃ popup, result.1.popup = some popup ∧ popup.mode = .hint) := by
  intro result
  have arrival : Arrival assistant state event result.1 result.2 :=
    receive_arrival assistant awaits event
  generalize result.1 = completion at arrival ⊢
  generalize result.2 = state' at arrival ⊢
  cases arrival with
  | stale hstale => exact absurd hg (hstale pending hp)
  | failed | kept => exact ⟨fun p hp => (by cases hp), fun hs => (by cases hs)⟩
  | shown => exact ⟨fun _ _ => rfl, fun _ => ⟨rfl, _, rfl, rfl⟩⟩

theorem screened_request (assistant : Assistant) (actions : List Action) (line : Text)
    (cursor : Nat) (trigger : Trigger) :
    Screened assistant (actions ++ [.request line cursor trigger])
      (assistant.request (assistant.after actions) line cursor trigger).2 := by
  obtain ⟨hhint, hserved⟩ :=
    request_served assistant (assistant.after actions) line cursor trigger
  have hscreen : (assistant.screen? (actions ++ [.request line cursor trigger])).bind (·.popup) =
      (assistant.request (assistant.after actions) line cursor trigger).1.popup := by
    rw [screen?_concat assistant actions (by simp)]
    rfl
  refine ⟨?_, ?_⟩
  · intro popup hpopup hm
    exact hhint popup (hscreen.symm.trans hpopup) hm
  · intro hs
    obtain ⟨hnone, popup, hpopup, hm⟩ := hserved hs
    obtain ⟨wanted, hw, hk, hc⟩ := shown_of_request hpopup hm
    refine ⟨hnone, popup, hscreen.trans hpopup, ?_, hm, hc, ?_⟩
    · rw [lastPopup?_concat]
      simp [act, hpopup]
    · exact ⟨line, cursor, trigger, wanted, latestRequest?_request .., hw, hk⟩

theorem screened_receive {assistant : Assistant} {actions : List Action}
    (h : Screened assistant actions (assistant.after actions)) (event : HintEvent) :
    Screened assistant (actions ++ [.receive event])
      (assistant.receive (assistant.after actions) event).2 := by
  by_cases hcurrent : ∃ pending, (assistant.after actions).fetcher.pending = some pending ∧
      pending.generation = event.generation
  · obtain ⟨pending, hp, hg⟩ := hcurrent
    obtain ⟨hpopup, hserved⟩ := receive_served (after_awaits assistant actions) hp hg
    have hcompletion := act_completion assistant (assistant.after actions) (.receive event)
    simp only [act] at hcompletion
    refine ⟨?_, ?_⟩
    · intro popup hscreen hm
      rw [screen?_concat assistant actions (by simp)] at hscreen
      cases hr : assistant.requested? (assistant.after actions) (.receive event) with
      | some completion =>
        rw [hr] at hscreen hcompletion
        exact hpopup popup (hcompletion ▸ hscreen)
      | none =>
        -- The list that was on the screen would have kept anything from being pending.
        rw [hr, Option.none_or] at hscreen
        have hnone := (h.shown (h.hidden popup hscreen hm)).1
        exact absurd (hp.symm.trans hnone) (by simp)
    · intro hs
      obtain ⟨hnone, popup, hshown, hm⟩ := hserved hs
      obtain ⟨line, cursor, trigger, wanted, hr, hw, hk, hc⟩ := shown_of_receive hshown
      have hact : (assistant.act (assistant.after actions) (.receive event)).1.popup =
          some popup := hshown
      obtain ⟨completion, hrequested, hpopup'⟩ := requested?_of_popup hact
      refine ⟨hnone, popup, ?_, ?_, hm, hc, ?_⟩
      · rw [screen?_concat assistant actions (by simp), hrequested]
        exact hpopup'
      · rw [lastPopup?_concat]
        simp [act, hshown]
      · rw [latestRequest?_other actions (by simp)]
        exact ⟨line, cursor, trigger, wanted, hr, hw, hk⟩
  · have hstale : ∀ pending ∈ (assistant.after actions).fetcher.pending,
        pending.generation ≠ event.generation := fun pending hp hg => hcurrent ⟨pending, hp, hg⟩
    rw [receive_stale assistant hstale]
    exact h.concat (requested?_stale assistant hstale) (by simp)

/-! ### Over a run -/

theorem after_screened (assistant : Assistant) (actions : List Action) :
    Screened assistant actions (assistant.after actions) := by
  refine after_induction assistant (I := Screened assistant) ?_ ?_ actions
  · exact ⟨fun _ hp => (by cases hp), fun hs => (by cases hs)⟩
  · intro actions action h
    cases action with
    | request line cursor trigger =>
      exact (screened_request assistant actions line cursor trigger).sameHints
        (settle_sameHints assistant _)
    | receive event => exact (screened_receive h event).sameHints (settle_sameHints assistant _)
    | blur =>
      refine ⟨fun popup hp => ?_, fun hs => (by cases hs)⟩
      rw [screen?_blur] at hp
      cases hp
    | attach | enable | advance | take =>
      exact (h.concat rfl (by simp)).sameHints
        (step_sameHints assistant _ (by simp) (by simp) (by simp))

/-- The user asks for nothing and stays in the editor. -/
def Rests (actions : List Action) : Prop := ∀ action ∈ actions, action.request? = none ∧ action ≠ .blur

/- While the list is on the screen, events are not for a pending request, since there is none. -/
theorem served_session_stays (assistant : Assistant) {actions later : List Action}
    (hs : (assistant.after actions).fetcher.session.served = true) (hrests : Rests later) :
    (assistant.after (actions ++ later)).fetcher.session =
      (assistant.after actions).fetcher.session := by
  induction later using List.reverseRecOn with
  | nil => rw [List.append_nil]
  | append_singleton later action ih =>
    have hbefore := ih fun other hother => hrests other (List.mem_append_left _ hother)
    obtain ⟨hr, hb⟩ := hrests action (List.mem_append_right _ (List.mem_singleton_self _))
    rw [← hbefore, ← List.append_assoc, after_concat]
    have hnone : (assistant.after (actions ++ later)).fetcher.pending = none :=
      ((after_screened assistant (actions ++ later)).shown (hbefore ▸ hs)).1
    by_cases he : ∃ event, action = .receive event
    · obtain ⟨event, rfl⟩ := he
      have hstale : assistant.receive (assistant.after (actions ++ later)) event =
          ({}, assistant.after (actions ++ later)) := receive_stale assistant (by simp [hnone])
      simp only [step, act, hstale]
      rfl
    · have hn : ∀ line cursor trigger, action ≠ .request line cursor trigger := by
        rintro line cursor trigger rfl
        cases hr
      exact (step_sameHints assistant _ hn (fun event heq => he ⟨event, heq⟩) hb).session

/-! ### Help -/

/-- A hint that the plugin declares for the slot, or that an event of the run brought. -/
def IsSource (actions : List Action) (plugin : Plugin.Metadata) (slot : Plugin.Slot)
    (item : RawHint) : Prop :=
  (∃ hints, plugin.hints? slot = some hints ∧ ∃ hint ∈ hints, hint.raw = item) ∨
    ∃ event payload, .receive event ∈ actions ∧ event.outcome.bind Payload.ofJson = .ok payload ∧
      item ∈ payload.items

/-- The address of help for a hint: its own one, else the homepage of the plugin, else the index. -/
def ownHelp (assistant : Assistant) (plugin : Plugin.Metadata) (item : RawHint) : Text :=
  ((item.help.filter (!·.isEmpty)).or plugin.homepage).getD assistant.settings.pluginsIndex

theorem helpFor_eq_ownHelp (assistant : Assistant) (plugin : Plugin.Metadata) (item : RawHint) :
    plugin.helpFor item.help assistant.settings.pluginsIndex = assistant.ownHelp plugin item := by
  unfold Plugin.Metadata.helpFor ownHelp
  cases item.help.filter (!·.isEmpty) <;> rfl

/-- The candidate was made from the hint, and the list has the help of the hint under its name. -/
structure Explained (assistant : Assistant) (wanted : Wanted) (plugin : Plugin.Metadata)
    (hints : HintSet) (candidate : Candidate) (item : RawHint) : Prop where
  made : ∃ context : HintContext, context.protocol = wanted.key.protocol ∧
    context.slot = wanted.slot ∧ candidate = context.candidate item
  stored : hints.help? candidate.helpRef = some (assistant.ownHelp plugin item)

theorem explained_of_mem_renderAll {assistant : Assistant} {wanted : Wanted} {context : HintContext}
    (hprotocol : context.protocol = wanted.key.protocol) (hslot : context.slot = wanted.slot)
    (hindex : context.index = assistant.settings.pluginsIndex) {items : List RawHint}
    {candidate : Candidate} (hc : candidate ∈ (context.renderAll items).candidates) :
    ∃ item ∈ items, Explained assistant wanted context.plugin (context.renderAll items) candidate
      item := by
  obtain ⟨kept, hsub, holds⟩ := context.holds_renderAll items
  have hmap := hc
  rw [holds.candidates] at hmap
  obtain ⟨item, hkept, rfl⟩ := List.mem_map.1 hmap
  refine ⟨item, hsub.subset hkept, ⟨context, hprotocol, hslot, rfl⟩, ?_⟩
  rw [holds.help?_candidate hkept, hindex, helpFor_eq_ownHelp]

theorem FromPlugin.explained {assistant : Assistant} {actions : List Action} {wanted : Wanted}
    {hints : HintSet} (h : FromPlugin assistant actions wanted hints)
    (hindex : assistant.service.index = assistant.settings.pluginsIndex) :
    ∃ plugin, assistant.plugins.get? wanted.plugin = some plugin ∧
      ∀ candidate ∈ hints.candidates, ∃ item, IsSource actions plugin wanted.slot item ∧
        Explained assistant wanted plugin hints candidate item := by
  obtain ⟨plugin, hp, hd | ha⟩ := h
  · refine ⟨plugin, hp, fun candidate hc => ?_⟩
    obtain ⟨list, hlist, rfl⟩ := Option.map_eq_some_iff.1 hd
    obtain ⟨item, hitem, explained⟩ := explained_of_mem_renderAll rfl rfl rfl hc
    obtain ⟨hint, hhint, hraw⟩ := List.mem_map.1 hitem
    exact ⟨item, Or.inl ⟨list, hlist, hint, (List.mem_filter.1 hhint).1, hraw⟩, explained⟩
  · refine ⟨plugin, hp, fun candidate hc => ?_⟩
    obtain ⟨before, event, payload, later, heq, _, _, ho, rfl⟩ := ha
    let pending : Pending := ⟨event.generation, wanted.key, plugin, wanted.slot⟩
    have hmem : candidate ∈ ((pending.context assistant.service.limits
        assistant.service.index).renderAll payload.items).candidates := hc
    obtain ⟨item, hitem, explained⟩ := explained_of_mem_renderAll rfl rfl hindex hmem
    refine ⟨item, Or.inr ⟨event, payload, by simp [heq], ho, hitem⟩, ?_⟩
    exact ⟨explained.made, explained.stored⟩

theorem help?_of_served {assistant : Assistant} {state : State} {candidate : Candidate} {url : Text}
    (hs : state.fetcher.session.served = true)
    (hstored : state.fetcher.session.hints.help? candidate.helpRef = some url)
    (hat : candidate.helpRef.head? ≠ some '@') (line : Text) (cursor : Nat) :
    assistant.help? state line cursor (some candidate) =
      some ⟨.url url, assistant.corpus.bodyAt? url⟩ := by
  have hlead : Text.dropLead? "@" candidate.helpRef = none := by
    cases hd : Text.dropLead? "@" candidate.helpRef with
    | none => rfl
    | some rest =>
      rw [Text.dropLead?_eq_some.1 hd] at hat
      exact absurd rfl hat
  have hfor : state.fetcher.session.helpFor? candidate.helpRef = some url := by
    rw [Session.helpFor?, if_pos hs, hstored]
  simp only [help?, HelpSources.help, hlead, Option.bind_some, hfor]
  rfl

theorem help?_of_not_served {assistant : Assistant} {state : State}
    (hs : state.fetcher.session.served = false) (line : Text) (cursor : Nat)
    (candidate : Candidate) :
    assistant.help? state line cursor (some candidate) =
      some (assistant.helpSources.help candidate.helpRef none) := by
  have hfor : state.fetcher.session.helpFor? candidate.helpRef = none := by
    simp [Session.helpFor?, hs]
  simp only [help?, HelpSources.help, Option.bind_some, hfor, Option.bind_none]

/-- Help for the list on the screen. After any run, the session is served exactly if the latest request
has shown a popup of hints and the focus was not lost since. Then nothing is pending, that popup is
the last one that the editor was given, and it shows the list of the session; each of its candidates
was made from a hint of the plugin, and help on it is at the address of that hint, whatever arrives
before the next request. While the session is not served, help comes from elsewhere. -/
theorem help_for_list_on_screen (assistant : Assistant)
    (hindex : assistant.service.index = assistant.settings.pluginsIndex) (actions : List Action) :
    let state := assistant.after actions
    let session := state.fetcher.session
    (session.served = true ↔ ∃ popup,
        (assistant.screen? actions).bind (·.popup) = some popup ∧ popup.mode = .hint) ∧
      (session.served = true → state.fetcher.pending = none ∧
        ∃ popup wanted plugin, OnScreen assistant actions session popup ∧
          session.key = some wanted.key ∧ assistant.plugins.get? wanted.plugin = some plugin ∧
          ∀ candidate ∈ popup.candidates, ∃ item, IsSource actions plugin wanted.slot item ∧
            Explained assistant wanted plugin session.hints candidate item ∧
            (candidate.helpRef.head? ≠ some '@' → ∀ later line cursor, Rests later →
              assistant.help? (assistant.after (actions ++ later)) line cursor (some candidate) =
                some ⟨.url (assistant.ownHelp plugin item),
                  assistant.corpus.bodyAt? (assistant.ownHelp plugin item)⟩)) ∧
      (session.served = false → ∀ line cursor candidate,
        assistant.help? state line cursor (some candidate) =
          some (assistant.helpSources.help candidate.helpRef none)) := by
  intro state session
  have screened := after_screened assistant actions
  refine ⟨⟨?_, ?_⟩, ?_, ?_⟩
  · intro hs
    obtain ⟨_, popup, on⟩ := screened.shown hs
    exact ⟨popup, on.latest, on.hint⟩
  · rintro ⟨popup, hpopup, hm⟩
    exact screened.hidden popup hpopup hm
  · intro hs
    obtain ⟨hnone, popup, on⟩ := screened.shown hs
    obtain ⟨_, _, _, wanted, _, hw, hk⟩ := on.word
    obtain ⟨origin, hreg, hkey, hfrom⟩ := (after_traced assistant actions).session wanted.key hk
    have horigin : origin = wanted := hreg.eq_of_key (wantedAt?_regular hw) hkey
    subst horigin
    obtain ⟨plugin, hplugin, hexplained⟩ := hfrom.explained hindex
    refine ⟨hnone, popup, origin, plugin, on, hk, hplugin, fun candidate hc => ?_⟩
    obtain ⟨item, hsource, explained⟩ := hexplained candidate (on.list ▸ hc)
    refine ⟨item, hsource, explained, fun hat later line cursor hrests => ?_⟩
    have hstays := served_session_stays assistant hs hrests
    exact help?_of_served (hstays ▸ hs) (hstays ▸ explained.stored) hat line cursor
  · intro hs line cursor candidate
    exact help?_of_not_served hs line cursor candidate

/- An answer with help is on the screen while another answer to the same request arrives. -/
theorem inspector_helps_despite_late_answer :
    let answer : HintEvent :=
      ⟨1, .ok (.array [.object [("value", .string "abc"), ("help", .string "help.html")]])⟩
    let actions := [typed "inspect://a", .receive answer]
    let later : List Action := [.receive (brought 1 "late")]
    inspector.service.index = inspector.settings.pluginsIndex ∧
      (inspector.after actions).fetcher.session.served = true ∧
      (inspector.help? (inspector.after (actions ++ later)) [] 0
        (some (.ofText "inspect://abc"))).map (·.address) = some (.url "help.html") := by
  intro answer actions later
  have hs : (inspector.after actions).fetcher.session.served = true := by decide
  obtain ⟨_, popup, wanted, plugin, on, _, _, hall⟩ :=
    (help_for_list_on_screen inspector rfl actions).2.1 hs
  have hc : Candidate.ofText "inspect://abc" ∈ popup.candidates := by
    rw [on.list]
    decide
  obtain ⟨item, _, explained, hhelp⟩ := hall _ hc
  have hown : inspector.ownHelp plugin item = "help.html" := by
    have hstored := explained.stored
    have hread : (inspector.after actions).fetcher.session.hints.help? "inspect://abc" =
        some "help.html" := by decide
    exact Option.some.inj (hstored.symm.trans hread)
  have hrests : Rests later := by
    intro action ha
    rw [List.mem_singleton.1 ha]
    exact ⟨rfl, by simp⟩
  refine ⟨rfl, hs, ?_⟩
  rw [hhelp (by decide) later [] 0 hrests, hown]
  rfl

end Assistant

end RuleHints
