import RuleHints.Editor
import RuleHints.Help
import RuleHints.Line.Range
import RuleHints.Line.Target
import RuleHints.Remote.Fetcher

/-!
# The assistant

An assistant answers what happens in an editor of rules: it shows candidates for the word at the
cursor, asks plugins for hints and shows them when they arrive, shows help on hovering, and finds
the help of a candidate. `Assistant` is what stays the same, `Assistant.State` what changes. Each
operation gives the new state and what the editor is told.
-/

namespace RuleHints

structure Assistant where
  settings : Settings
  registry : Registry
  plugins : Plugin.Directory
  corpus : Corpus
  atProvider : Option AtProvider := none
  service : HintService

structure Completion where
  popup : Option Popup := none
  pending : Option Nat := none
  /-- A sum of columns was too large. -/
  overflow : Bool := false
  deriving DecidableEq, Repr

/-- What a request returns where sums are checked: nothing, if one was too large. -/
def Completion.checked? (completion : Completion) : Option Completion :=
  if completion.overflow then none else some completion

namespace Assistant

structure State where
  fetcher : Fetcher := {}
  registered : Bool := false
  enabled : Bool
  /-- Whether hints are to be shown when they arrive. -/
  waiting : Bool := false
  latest : Option (Text × Nat) := none

/-- An assistant with the pages of its protocols and one more protocol for each plugin. -/
def ofSettings (settings : Settings) (plugins : Plugin.Directory) : Assistant where
  settings
  registry := settings.registry.addPlugins plugins.names
  plugins
  corpus := .ofRegistry settings.registry settings.rulesHelpBase
  service := .ofSettings settings

def initial (assistant : Assistant) : State := { enabled := assistant.settings.enabled }

def sources (assistant : Assistant) (enabled : Bool) : Sources where
  registry := assistant.registry
  plugins := assistant.plugins
  atProvider := assistant.atProvider
  limits := assistant.settings.limits
  protocolsEnabled := enabled

def helpSources (assistant : Assistant) : HelpSources where
  plugins := assistant.plugins
  corpus := assistant.corpus
  atProvider := assistant.atProvider
  atHelpUrl := assistant.settings.atHelpUrl
  pluginsIndex := assistant.settings.pluginsIndex

/-! ### Popups -/

def tokenPopup (token : Token) (candidates : List Candidate) (mode : PopupMode) : Option Popup :=
  if candidates.isEmpty then none else some ⟨candidates, token.start, token.stop, mode⟩

def protocolPopup (sources : Sources) (line : Text) (token : Token) : Option Popup :=
  let candidates := sources.protocolCandidates token.text
  if candidates.isEmpty then none
  else
    let (start, stop) := Line.protocolRange line token candidates
    some ⟨candidates, start, stop, .protocol⟩

def hintStart (position : InsertPosition) (cursor start stop : Nat) : Nat :=
  match position with
  | .word => start
  | .cursor => max start (min cursor stop)
  | .tail => stop

/-- A popup of hints. It ends with the word; an offset moves its start to the right. -/
def hintPopup (line : Text) (cursor : Nat) (token : Token) (hints : HintSet) : Popup :=
  let stop := Line.wordEnd line token.start
  let start := hintStart hints.position cursor token.start stop
  { candidates := hints.candidates
    start := if hints.offset = 0 then start
      else min (max token.start (Line.shift start hints.offset)) stop
    stop
    mode := .hint }

/-- The offset cannot be added to the start. Without an offset nothing is added. -/
def hintOverflows (line : Text) (cursor : Nat) (token : Token) (hints : HintSet) : Bool :=
  let start := hintStart hints.position cursor token.start (Line.wordEnd line token.start)
  hints.offset != 0 && Line.shiftOverflows start hints.offset

def hintCompletion (line : Text) (cursor : Nat) (token : Token) (hints : HintSet) : Completion where
  popup := some (hintPopup line cursor token hints)
  overflow := hintOverflows line cursor token hints

/-! ### Hints of plugins -/

structure Wanted where
  plugin : Text
  key : HintKey
  slot : Plugin.Slot
  deriving DecidableEq, Repr

def wanted? (token : Token) : Option Wanted :=
  match token.kind with
  | .variableValue plugin separator value =>
    some ⟨plugin, ⟨'%' :: plugin, value, some separator⟩, .variable⟩
  | .pluginValue plugin protocol value => some ⟨plugin, ⟨protocol, value, none⟩, .value⟩
  | _ => none

inductive Lookup where
  | shown (hints : HintSet)
  | pending (generation : Option Nat)
  | empty
  deriving DecidableEq, Repr

def declared? (assistant : Assistant) (plugin : Plugin.Metadata) (wanted : Wanted) :
    Option HintSet :=
  let context : HintContext := {
    plugin
    protocol := wanted.key.protocol
    slot := wanted.slot
    limits := assistant.settings.limits
    index := assistant.settings.pluginsIndex }
  context.declared? wanted.key.value

def serve (assistant : Assistant) (state : State) (plugin : Plugin.Metadata) (wanted : Wanted) :
    Lookup × State :=
  match state.fetcher.session.cached? wanted.key with
  | some hints =>
    let session := state.fetcher.session.markServed
    (.shown hints, { state with fetcher := { state.fetcher with session } })
  | none =>
    let (generation, fetcher) :=
      state.fetcher.schedule assistant.service plugin wanted.key wanted.slot
    (.pending generation, { state with fetcher, waiting := true })

/-- Looks for the hints that are wanted. The pending request is dropped in any case. -/
def lookup (assistant : Assistant) (state : State) (wanted : Wanted) : Lookup × State :=
  match assistant.plugins.get? wanted.plugin with
  | none => (.empty, state)
  | some plugin =>
    let fetcher := state.fetcher.cancel
    match assistant.declared? plugin wanted with
    | some hints =>
      if hints.isEmpty then (.empty, { state with fetcher })
      else assistant.serve { state with fetcher := fetcher.install wanted.key hints } plugin wanted
    | none => assistant.serve { state with fetcher } plugin wanted

/-- After `name:` with nothing more, a protocol may still be meant. -/
def mayBeProtocol (token : Token) : Bool :=
  match token.kind with
  | .pluginValue _ _ value => value.isEmpty && !Text.occurs "//" token.text
  | _ => false

/-! ### Candidates -/

def complete (assistant : Assistant) (state : State) (line : Text) (cursor : Nat) (token : Token) :
    Completion × State :=
  let sources := assistant.sources state.enabled
  match wanted? token with
  | some wanted =>
    match assistant.lookup state wanted with
    | (.shown hints, state) => (hintCompletion line cursor token hints, state)
    | (.empty, state) => ({}, state)
    | (.pending generation, state) =>
      let popup := if mayBeProtocol token then protocolPopup sources line token else none
      ({ popup, pending := generation }, state)
  | none =>
    match token.kind with
    | .atValue _ => ({ popup := tokenPopup token (sources.candidates token) .atValue }, state)
    | .variableName _ => ({ popup := tokenPopup token (sources.candidates token) .variable }, state)
    | .pluginName .. => ({ popup := tokenPopup token (sources.candidates token) .spec }, state)
    | _ => ({ popup := protocolPopup sources line token }, state)

def beginRequest (state : State) (line : Text) (cursor : Nat) : State :=
  { state with
    latest := some (line, cursor)
    waiting := false
    fetcher := { state.fetcher with session := state.fetcher.session.clearServed } }

def request (assistant : Assistant) (state : State) (line : Text) (cursor : Nat)
    (trigger : Trigger) : Completion × State :=
  let state := beginRequest state line cursor
  match Line.classify? assistant.plugins assistant.settings.limits line cursor trigger with
  | some token => assistant.complete state line cursor token
  | none => ({}, state)

def notices (completion : Completion) : List Notice := (completion.popup.map Notice.popup).toList

/-- Hints arrive. If they are still wanted, candidates are asked for again. -/
def receive (assistant : Assistant) (state : State) (event : HintEvent) : Completion × State :=
  let (found, fetcher) := state.fetcher.apply assistant.service event
  let state := { state with fetcher }
  if found && state.waiting then
    match state.latest with
    | some (line, cursor) => assistant.request state line cursor .plugin
    | none => ({}, state)
  else ({}, state)

/-! ### Other operations -/

def attach (assistant : Assistant) (state : State) : List Notice × State :=
  if state.registered then ([], state)
  else
    ([.language (rulesLanguage assistant.registry.keywords)], { state with registered := true })

def blur (state : State) : State := { state with waiting := false, fetcher := state.fetcher.reset }

def setEnabled (state : State) (enabled : Bool) : State := { state with enabled }

def hover? (assistant : Assistant) (line : Text) (cursor : Nat) : Option Tooltip :=
  match Line.target? line cursor with
  | none => none
  | some target =>
    match assistant.helpSources.help target.name none with
    | ⟨.url url, some doc⟩ =>
      if doc.isEmpty then none
      else some ⟨tooltipMarkup target.name url doc, target.start, target.stop⟩
    | _ => none

def help? (assistant : Assistant) (state : State) (line : Text) (cursor : Nat)
    (selected : Option Candidate) : Option Help :=
  match selected with
  | some candidate =>
    some (assistant.helpSources.help candidate.helpRef (some state.fetcher.session))
  | none => (Line.target? line cursor).map fun target => assistant.helpSources.help target.name none

end Assistant

end RuleHints
