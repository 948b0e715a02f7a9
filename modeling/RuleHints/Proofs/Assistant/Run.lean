import Mathlib.Data.List.Induction
import RuleHints.Assistant
import RuleHints.Proofs.Line.Classification

/-!
# Runs of an assistant

A run is a list of actions, in any order: candidates are asked for, an event arrives (any event, also
a late or a made-up one), the editor loses the focus, time passes. After each action everything
happens that is due. `Answer` lists what a request for candidates can do.
-/

namespace RuleHints.Assistant

inductive Action where
  | attach
  | request (line : Text) (cursor : Nat) (trigger : Trigger)
  | receive (event : HintEvent)
  | blur
  | enable (enabled : Bool)
  | advance (ms : Nat)
  | take

def act (assistant : Assistant) (state : State) : Action → Completion × State
  | .attach => ({}, (assistant.attach state).2)
  | .request line cursor trigger => assistant.request state line cursor trigger
  | .receive event => assistant.receive state event
  | .blur => ({}, blur state)
  | .enable enabled => ({}, setEnabled state enabled)
  | .advance ms => ({}, { state with fetcher := state.fetcher.advance assistant.service ms })
  | .take => ({}, { state with fetcher := state.fetcher.take.2 })

def settle (assistant : Assistant) (state : State) : State :=
  { state with fetcher := state.fetcher.settle assistant.service }

def step (assistant : Assistant) (state : State) (action : Action) : State :=
  assistant.settle (assistant.act state action).2

/-- The state after a run. -/
def after (assistant : Assistant) (actions : List Action) : State :=
  actions.foldl assistant.step assistant.initial

theorem after_concat (assistant : Assistant) (actions : List Action) (action : Action) :
    assistant.after (actions ++ [action]) = assistant.step (assistant.after actions) action := by
  simp [after]

/-- The state after actions that begin in a state. -/
def proceed (assistant : Assistant) (state : State) (actions : List Action) : State :=
  actions.foldl assistant.step state

/-- The popups that are shown meanwhile, the earliest first. -/
def popups (assistant : Assistant) (state : State) : List Action → List Popup
  | [] => []
  | action :: rest =>
    (assistant.act state action).1.popup.toList ++
      assistant.popups (assistant.step state action) rest

/- An invariant may also speak of the actions that led to the state. -/
theorem after_induction (assistant : Assistant) {I : List Action → State → Prop}
    (start : I [] assistant.initial)
    (next : ∀ actions action, I actions (assistant.after actions) →
      I (actions ++ [action]) (assistant.step (assistant.after actions) action))
    (actions : List Action) : I actions (assistant.after actions) := by
  induction actions using List.reverseRecOn with
  | nil => exact start
  | append_singleton actions action ih =>
    rw [after_concat]
    exact next actions action ih

/-- What is noted along a run, action by action. -/
def record {α : Type} (assistant : Assistant) (note : State → Action → α → α) (start : α)
    (actions : List Action) : α :=
  (actions.foldl (fun seen action => (assistant.step seen.1 action, note seen.1 action seen.2))
    (assistant.initial, start)).2

theorem record_concat {α : Type} (assistant : Assistant) (note : State → Action → α → α) (start : α)
    (actions : List Action) (action : Action) :
    assistant.record note start (actions ++ [action]) =
      note (assistant.after actions) action (assistant.record note start actions) := by
  have hstate : (actions.foldl
      (fun (seen : State × α) action =>
        (assistant.step seen.1 action, note seen.1 action seen.2))
      (assistant.initial, start)).1 = assistant.after actions := by
    induction actions using List.reverseRecOn with
    | nil => rfl
    | append_singleton actions action ih =>
      rw [List.foldl_append, after_concat, ← ih]
      rfl
  rw [record, List.foldl_append, ← hstate]
  rfl

/-! ### What is wanted -/

/-- What the word before the cursor wants of a plugin. -/
def wantedAt? (assistant : Assistant) (line : Text) (cursor : Nat) (trigger : Trigger) :
    Option Wanted :=
  (Line.classify? assistant.plugins assistant.settings.limits line cursor trigger).bind wanted?

/- The parts of what a classified word wants: the key tells the plugin and the slot. -/
def Wanted.Regular (wanted : Wanted) : Prop :=
  Line.IsName wanted.plugin ∧
    (wanted.slot = .variable ∧ wanted.key.separator.isSome ∧
        wanted.key.protocol = '%' :: wanted.plugin ∨
      wanted.slot = .value ∧ wanted.key.separator = none ∧
        (wanted.key.protocol = wanted.plugin ∨
          wanted.key.protocol = Plugin.moduleLead ++ wanted.plugin))

theorem wanted?_regular {assistant : Assistant} {line : Text} {cursor : Nat} {trigger : Trigger}
    {token : Token} {wanted : Wanted}
    (ht : Line.classify? assistant.plugins assistant.settings.limits line cursor trigger =
      some token) (hw : wanted? token = some wanted) :
    wanted.Regular ∧ ∃ plugin, assistant.plugins.get? wanted.plugin = some plugin := by
  have hkind : token.kind ≠ .protocol := by
    intro hk
    simp [wanted?, hk] at hw
  obtain ⟨hword, _⟩ := (Line.classify?_eq_some ht).resolve_left hkind
  unfold wanted? at hw
  split at hw
  · next plugin separator value hk =>
    cases hw
    rw [hk] at hword
    obtain ⟨hn, hp⟩ := Line.classifyWord?_variableValue hword
    exact ⟨⟨hn, Or.inl ⟨rfl, rfl, rfl⟩⟩, hp⟩
  · next plugin protocol value hk =>
    cases hw
    rw [hk] at hword
    obtain ⟨hn, hprotocol, hp⟩ := Line.classifyWord?_pluginValue hword
    exact ⟨⟨hn, Or.inr ⟨rfl, rfl, hprotocol⟩⟩, hp⟩
  · cases hw

/- What a word wants does not depend on the trigger, except that some want nothing. -/
theorem wanted?_plugin {assistant : Assistant} {line : Text} {cursor : Nat} {trigger : Trigger}
    {token : Token} {wanted : Wanted}
    (ht : Line.classify? assistant.plugins assistant.settings.limits line cursor trigger =
      some token) (hw : wanted? token = some wanted) :
    Line.classify? assistant.plugins assistant.settings.limits line cursor .plugin =
      some token := by
  rcases Line.classify?_eq_some ht with hk | ⟨_, h⟩
  · simp [wanted?, hk] at hw
  · exact h

theorem wantedAt?_eq_some {assistant : Assistant} {line : Text} {cursor : Nat} {trigger : Trigger}
    {wanted : Wanted} :
    assistant.wantedAt? line cursor trigger = some wanted ↔
      ∃ token, Line.classify? assistant.plugins assistant.settings.limits line cursor trigger =
        some token ∧ wanted? token = some wanted :=
  Option.bind_eq_some_iff

theorem wantedAt?_regular {assistant : Assistant} {line : Text} {cursor : Nat} {trigger : Trigger}
    {wanted : Wanted} (h : assistant.wantedAt? line cursor trigger = some wanted) :
    wanted.Regular := by
  obtain ⟨token, ht, hw⟩ := wantedAt?_eq_some.1 h
  exact (wanted?_regular ht hw).1

theorem wantedAt?_plugin {assistant : Assistant} {line : Text} {cursor : Nat} {trigger : Trigger}
    {wanted : Wanted} (h : assistant.wantedAt? line cursor trigger = some wanted) :
    assistant.wantedAt? line cursor .plugin = some wanted := by
  obtain ⟨token, ht, hw⟩ := wantedAt?_eq_some.1 h
  exact wantedAt?_eq_some.2 ⟨token, wanted?_plugin ht hw, hw⟩

/-- The key of a list tells the plugin and the slot that it is for. -/
theorem Wanted.Regular.eq_of_key {first second : Wanted} (hf : first.Regular)
    (hs : second.Regular) (hk : first.key = second.key) : first = second := by
  obtain ⟨plugin, key, slot⟩ := first
  obtain ⟨plugin', key', slot'⟩ := second
  obtain ⟨hn, hshape⟩ := hf
  obtain ⟨hn', hshape'⟩ := hs
  simp only at hk hn hn' hshape hshape'
  subst hk
  have hlead : ∀ name : Text, Line.IsName (Plugin.moduleLead ++ name) → False := by
    intro name h
    exact h.not_mem_dot (List.mem_append_left _ (by decide))
  rcases hshape with ⟨rfl, hsep, hp⟩ | ⟨rfl, hsep, hp⟩ <;>
    rcases hshape' with ⟨rfl, hsep', hp'⟩ | ⟨rfl, hsep', hp'⟩
  · rw [hp] at hp'
    cases hp'
    rfl
  · simp [hsep'] at hsep
  · simp [hsep] at hsep'
  · rcases hp with hp | hp <;> rcases hp' with hp' | hp' <;> rw [hp] at hp'
    · subst hp'
      rfl
    · subst hp'
      exact (hlead _ hn).elim
    · subst hp'
      exact (hlead _ hn').elim
    · rw [List.append_cancel_left hp']

/-! ### What a request does -/

structure Asks (assistant : Assistant) (line : Text) (cursor : Nat) (trigger : Trigger)
    (token : Token) (wanted : Wanted) (plugin : Plugin.Metadata) : Prop where
  classified :
    Line.classify? assistant.plugins assistant.settings.limits line cursor trigger = some token
  wants : wanted? token = some wanted
  found : assistant.plugins.get? wanted.plugin = some plugin

theorem Asks.wantedAt? {assistant : Assistant} {line : Text} {cursor : Nat} {trigger : Trigger}
    {token : Token} {wanted : Wanted} {plugin : Plugin.Metadata}
    (h : Asks assistant line cursor trigger token wanted plugin) :
    assistant.wantedAt? line cursor trigger = some wanted :=
  wantedAt?_eq_some.2 ⟨token, h.classified, h.wants⟩

theorem Asks.plugin {assistant : Assistant} {line : Text} {cursor : Nat} {trigger : Trigger}
    {token : Token} {wanted : Wanted} {plugin : Plugin.Metadata}
    (h : Asks assistant line cursor trigger token wanted plugin) :
    Asks assistant line cursor .plugin token wanted plugin :=
  ⟨wanted?_plugin h.classified h.wants, h.wants, h.found⟩

theorem asks_of_wanted? {assistant : Assistant} {line : Text} {cursor : Nat} {trigger : Trigger}
    {token : Token} {wanted : Wanted}
    (ht : Line.classify? assistant.plugins assistant.settings.limits line cursor trigger =
      some token) (hw : wanted? token = some wanted) :
    ∃ plugin, Asks assistant line cursor trigger token wanted plugin := by
  obtain ⟨plugin, hp⟩ := (wanted?_regular ht hw).2
  exact ⟨plugin, ht, hw, hp⟩

/-- The ways in which a request for candidates ends: nothing is wanted of a plugin; its list has
nothing that fits; its list is shown; the list of the session is shown; hints cannot be asked for;
hints are asked for. -/
inductive Answer (assistant : Assistant) (state : State) (line : Text) (cursor : Nat)
    (trigger : Trigger) : Completion → State → Prop where
  | other (popup : Option Popup) :
      assistant.wantedAt? line cursor trigger = none →
      (∀ p ∈ popup, p.mode ≠ .hint) →
      Answer assistant state line cursor trigger { popup } (beginRequest state line cursor)
  | nothing (token : Token) (wanted : Wanted) (plugin : Plugin.Metadata) (hints : HintSet) :
      Asks assistant line cursor trigger token wanted plugin →
      assistant.declared? plugin wanted = some hints → hints.isEmpty = true →
      Answer assistant state line cursor trigger {}
        { beginRequest state line cursor with
          fetcher := (beginRequest state line cursor).fetcher.cancel }
  | declared (token : Token) (wanted : Wanted) (plugin : Plugin.Metadata) (hints : HintSet) :
      Asks assistant line cursor trigger token wanted plugin →
      assistant.declared? plugin wanted = some hints → hints.isEmpty = false →
      Answer assistant state line cursor trigger (hintCompletion line cursor token hints)
        { beginRequest state line cursor with
          fetcher := { (beginRequest state line cursor).fetcher.cancel with
            session := { key := some wanted.key, hints, served := true } } }
  | cached (token : Token) (wanted : Wanted) (plugin : Plugin.Metadata) :
      Asks assistant line cursor trigger token wanted plugin →
      assistant.declared? plugin wanted = none →
      state.fetcher.session.key = some wanted.key → state.fetcher.session.hints.isEmpty = false →
      Answer assistant state line cursor trigger
        (hintCompletion line cursor token state.fetcher.session.hints)
        { beginRequest state line cursor with
          fetcher := { (beginRequest state line cursor).fetcher.cancel with
            session := { state.fetcher.session with served := true } } }
  | unavailable (token : Token) (wanted : Wanted) (plugin : Plugin.Metadata)
      (popup : Option Popup) :
      Asks assistant line cursor trigger token wanted plugin →
      assistant.declared? plugin wanted = none →
      state.fetcher.session.cached? wanted.key = none → (∀ p ∈ popup, p.mode ≠ .hint) →
      Answer assistant state line cursor trigger { popup }
        { beginRequest state line cursor with
          fetcher := (beginRequest state line cursor).fetcher.cancel
          waiting := true }
  | scheduled (token : Token) (wanted : Wanted) (plugin : Plugin.Metadata) (endpoint : Text)
      (popup : Option Popup) :
      Asks assistant line cursor trigger token wanted plugin →
      assistant.declared? plugin wanted = none →
      state.fetcher.session.cached? wanted.key = none → (∀ p ∈ popup, p.mode ≠ .hint) →
      plugin.endpoint? wanted.slot = some endpoint →
      Answer assistant state line cursor trigger
        { popup, pending := some (state.fetcher.generation + 1) }
        { beginRequest state line cursor with
          fetcher := (beginRequest state line cursor).fetcher.cancel.start assistant.service plugin
            wanted.key wanted.slot endpoint
          waiting := true }

theorem tokenPopup_mode {token : Token} {candidates : List Candidate} {mode : PopupMode} {p : Popup}
    (h : p ∈ tokenPopup token candidates mode) : p.mode = mode := by
  unfold tokenPopup at h
  split at h
  · cases h
  · cases h
    rfl

theorem protocolPopup_mode {sources : Sources} {line : Text} {token : Token} {p : Popup}
    (h : p ∈ protocolPopup sources line token) : p.mode = .protocol := by
  unfold protocolPopup at h
  simp only at h
  split at h
  · cases h
  · cases h
    rfl

theorem complete_of_unwanted (assistant : Assistant) (state : State) (line : Text) (cursor : Nat)
    {token : Token} (hw : wanted? token = none) :
    ∃ popup, assistant.complete state line cursor token = ({ popup }, state) ∧
      ∀ p ∈ popup, p.mode ≠ .hint := by
  unfold complete
  simp only [hw]
  split
  · exact ⟨_, rfl, fun p hp => by simp [tokenPopup_mode hp]⟩
  · exact ⟨_, rfl, fun p hp => by simp [tokenPopup_mode hp]⟩
  · exact ⟨_, rfl, fun p hp => by simp [tokenPopup_mode hp]⟩
  · exact ⟨_, rfl, fun p hp => by simp [protocolPopup_mode hp]⟩

theorem pending_popup_mode (sources : Sources) (line : Text) (token : Token) :
    ∀ p ∈ (if mayBeProtocol token then protocolPopup sources line token else none),
      p.mode ≠ .hint := by
  intro p hp
  split at hp
  · simp [protocolPopup_mode hp]
  · cases hp

/- A request that was dropped is not dropped again, so only the start of one is left to tell. -/
theorem schedule_cancel (service : HintService) (fetcher : Fetcher) (plugin : Plugin.Metadata)
    (key : HintKey) (slot : Plugin.Slot) :
    fetcher.cancel.schedule service plugin key slot = (none, fetcher.cancel) ∨
      ∃ endpoint, plugin.endpoint? slot = some endpoint ∧
        fetcher.cancel.schedule service plugin key slot =
          (some (fetcher.generation + 1),
            fetcher.cancel.start service plugin key slot endpoint) := by
  unfold Fetcher.schedule
  cases hp : plugin.endpoint? slot with
  | none =>
    left
    cases service.transport <;> rfl
  | some endpoint =>
    cases service.transport with
    | none => exact Or.inl rfl
    | some transport =>
      simp only [Fetcher.cancel_cancel]
      split
      · exact Or.inr ⟨endpoint, rfl, by simp [Fetcher.start]⟩
      · exact Or.inl rfl

theorem request_cached (assistant : Assistant) (state : State) {line : Text} {cursor : Nat}
    {trigger : Trigger} {token : Token} {wanted : Wanted} {plugin : Plugin.Metadata}
    (asks : Asks assistant line cursor trigger token wanted plugin)
    (hd : assistant.declared? plugin wanted = none)
    (hkey : state.fetcher.session.key = some wanted.key)
    (hne : state.fetcher.session.hints.isEmpty = false) :
    assistant.request state line cursor trigger =
      (hintCompletion line cursor token state.fetcher.session.hints,
        { beginRequest state line cursor with
          fetcher := { (beginRequest state line cursor).fetcher.cancel with
            session := { state.fetcher.session with served := true } } }) := by
  have hcached : (beginRequest state line cursor).fetcher.cancel.session.cached? wanted.key =
      some state.fetcher.session.hints := by
    rw [Fetcher.session_cancel]
    simp [beginRequest, Session.cached?, Session.clearServed, hkey, hne]
  have hsession : (beginRequest state line cursor).fetcher.cancel.session.markServed =
      { state.fetcher.session with served := true } := by
    rw [Fetcher.session_cancel]
    simp [beginRequest, Session.markServed, Session.clearServed, hkey]
  simp only [request, asks.classified, complete, asks.wants, lookup, asks.found, hd, serve, hcached,
    hsession]

theorem request_answer (assistant : Assistant) (state : State) (line : Text) (cursor : Nat)
    (trigger : Trigger) :
    Answer assistant state line cursor trigger (assistant.request state line cursor trigger).1
      (assistant.request state line cursor trigger).2 := by
  unfold request
  cases ht : Line.classify? assistant.plugins assistant.settings.limits line cursor trigger with
  | none => exact .other none (by simp [wantedAt?, ht]) (by simp)
  | some token =>
    cases hw : wanted? token with
    | none =>
      obtain ⟨popup, heq, hm⟩ :=
        complete_of_unwanted assistant (beginRequest state line cursor) line cursor hw
      simp only [heq]
      exact .other popup (by simp [wantedAt?, ht, hw]) hm
    | some wanted =>
      obtain ⟨plugin, asks⟩ := asks_of_wanted? ht hw
      simp only [complete, hw, lookup, asks.found]
      cases hd : assistant.declared? plugin wanted with
      | some hints =>
        cases he : hints.isEmpty with
        | true =>
          simp only [he, if_true]
          exact .nothing token wanted plugin hints asks hd he
        | false =>
          simp only [serve, Fetcher.install, Session.cached?_replace, he]
          exact .declared token wanted plugin hints asks hd he
      | none =>
        cases hc : state.fetcher.session.cached? wanted.key with
        | some hints =>
          obtain ⟨hkey, rfl⟩ := Session.key_of_cached? hc
          have hne : state.fetcher.session.hints.isEmpty = false := by
            cases he : state.fetcher.session.hints.isEmpty with
            | true => simp [Session.cached?, he] at hc
            | false => rfl
          have heq := request_cached assistant state asks hd hkey hne
          simp only [request, ht, complete, hw, lookup, asks.found, hd] at heq
          rw [heq]
          exact .cached token wanted plugin asks hd hkey hne
        | none =>
          have hcb : (beginRequest state line cursor).fetcher.cancel.session.cached? wanted.key =
              none := by
            rw [Fetcher.session_cancel]
            exact hc
          have hm := pending_popup_mode (assistant.sources (beginRequest state line cursor).enabled)
            line token
          rcases schedule_cancel assistant.service (beginRequest state line cursor).fetcher plugin
            wanted.key wanted.slot with hs | ⟨endpoint, hp, hs⟩
          · simp only [serve, hcb, hs]
            exact .unavailable token wanted plugin _ asks hd hc hm
          · simp only [serve, hcb, hs]
            exact .scheduled token wanted plugin endpoint _ asks hd hc hm hp

/-! ### What a step does -/

/-- Two states that differ at most in what is under way, in the switch and in the registration. -/
structure SameHints (state state' : State) : Prop where
  session : state'.fetcher.session = state.fetcher.session
  pending : state'.fetcher.pending = state.fetcher.pending
  generation : state'.fetcher.generation = state.fetcher.generation
  waiting : state'.waiting = state.waiting
  latest : state'.latest = state.latest

theorem settle_sameHints (assistant : Assistant) (state : State) :
    SameHints state (assistant.settle state) := ⟨rfl, rfl, rfl, rfl, rfl⟩

theorem attach_sameHints (assistant : Assistant) (state : State) :
    SameHints state (assistant.attach state).2 := by
  unfold attach
  split <;> exact ⟨rfl, rfl, rfl, rfl, rfl⟩

/- Only a request, an event and the loss of the focus change the hints. -/
theorem step_cases (assistant : Assistant) (state : State) (action : Action) :
    (∃ line cursor trigger, action = .request line cursor trigger ∧
        SameHints (assistant.request state line cursor trigger).2 (assistant.step state action)) ∨
      (∃ event, action = .receive event ∧
        SameHints (assistant.receive state event).2 (assistant.step state action)) ∨
      (action = .blur ∧ SameHints (blur state) (assistant.step state action)) ∨
      ((∀ line cursor trigger, action ≠ .request line cursor trigger) ∧
        (assistant.act state action).1 = {} ∧ SameHints state (assistant.step state action)) := by
  cases action with
  | request line cursor trigger =>
    exact Or.inl ⟨line, cursor, trigger, rfl, settle_sameHints assistant _⟩
  | receive event => exact Or.inr (Or.inl ⟨event, rfl, settle_sameHints assistant _⟩)
  | blur => exact Or.inr (Or.inr (Or.inl ⟨rfl, settle_sameHints assistant _⟩))
  | attach =>
    have h := attach_sameHints assistant state
    refine Or.inr (Or.inr (Or.inr ⟨by simp, rfl, ?_⟩))
    exact ⟨h.session, h.pending, h.generation, h.waiting, h.latest⟩
  | enable enabled =>
    exact Or.inr (Or.inr (Or.inr ⟨by simp, rfl, ⟨rfl, rfl, rfl, rfl, rfl⟩⟩))
  | advance ms =>
    exact Or.inr (Or.inr (Or.inr ⟨by simp, rfl, ⟨rfl, rfl, rfl, rfl, rfl⟩⟩))
  | take =>
    exact Or.inr (Or.inr (Or.inr ⟨by simp, rfl, ⟨rfl, rfl, rfl, rfl, rfl⟩⟩))

theorem step_sameHints (assistant : Assistant) (state : State) {action : Action}
    (hr : ∀ line cursor trigger, action ≠ .request line cursor trigger)
    (he : ∀ event, action ≠ .receive event) (hb : action ≠ .blur) :
    SameHints state (assistant.step state action) := by
  rcases step_cases assistant state action with
    ⟨line, cursor, trigger, rfl, _⟩ | ⟨event, rfl, _⟩ | ⟨rfl, _⟩ | ⟨_, _, same⟩
  · exact absurd rfl (hr line cursor trigger)
  · exact absurd rfl (he event)
  · exact absurd rfl hb
  · exact same

/-! ### A plugin that is asked for hints -/

/- The only plugin declares no list and has an endpoint. -/
def inspector : Assistant :=
  { ofSettings {} (.ofList [{ moduleName := "whistle.inspect", hintUrl := some "hints" }]) with
    service :=
      { HintService.ofSettings {} with
        transport := some ⟨fun _ _ => { outcome := .ok (.array []) }⟩ } }

def typed (word : Text) : Action := .request word word.length .character

def brought (generation : Nat) (hint : Text) : HintEvent :=
  ⟨generation, .ok (.array [.string hint])⟩

end RuleHints.Assistant
