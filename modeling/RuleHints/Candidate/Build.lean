import RuleHints.Candidate.Protocol
import RuleHints.Limits
import RuleHints.Line.Token
import RuleHints.Plugin.Directory

/-!
# Candidates for a token

`Sources` is what candidates are taken from: the registry, the plugins, the provider of the host
editor for `@` values, the limits, and whether protocols are offered at all. `Sources.candidates`
gives the candidates for a token. The values of a plugin and of its variables are hints and are not
found here.
-/

namespace RuleHints

inductive AtHelp where
  | url (url : Text)
  | hidden
  | unknown
  deriving DecidableEq, Repr

structure AtProvider where
  values : Text → Option (List Json)
  help : Text → AtHelp

structure Sources where
  registry : Registry
  plugins : Plugin.Directory
  atProvider : Option AtProvider := none
  limits : Limits := {}
  protocolsEnabled : Bool := true

namespace Sources

def protocolCandidates (sources : Sources) (keyword : Text) : List Candidate :=
  if sources.protocolsEnabled then
    (Protocol.offered sources.registry sources.limits.candidates keyword).map Candidate.ofProtocol
  else []

/-- The candidate for a value of the host: a text, or an object with a value and perhaps a label. -/
def atCandidate? (item : Json) : Option Candidate :=
  let nonEmpty (j : Option Json) : Option Text := (j.bind Json.text?).filter (!·.isEmpty)
  match item with
  | .string text => if text.isEmpty then none else some (.ofText text)
  | .object fields => do
    let candidate := Candidate.ofText (← nonEmpty (Json.lastField? "value" fields))
    match nonEmpty (Json.lastField? "label" fields) with
    | some label => return candidate.withDisplay label
    | none => return candidate
  | _ => none

/-- The values of the host for a keyword; the host itself chooses by the keyword. -/
def atCandidates (sources : Sources) (keyword : Text) : List Candidate :=
  let items := (sources.atProvider.bind (·.values keyword)).getD []
  ((items.filterMap atCandidate?).take sources.limits.candidates).map fun candidate =>
    candidate.withHelpRef ('@' :: candidate.insertText)

/-- The plugin variables whose name holds the value, whatever its case. -/
def variableCandidates (sources : Sources) (value : Text) : List Candidate :=
  let needle := Text.lower value
  let found := sources.plugins.variableNames.filter fun name =>
    needle.isEmpty || Text.occurs needle (Text.lower (name.drop 1))
  (found.take sources.limits.candidates).map fun name =>
    (Candidate.ofText name).withDisplay (name.drop 1)

def specCandidates (sources : Sources) (spec value : Text) : List Candidate :=
  let needle := spec ++ protocolMark ++ Text.lower value
  let entries := sources.plugins.names.map fun name => spec ++ protocolMark ++ name
  let found := entries.filter fun entry => value.isEmpty || Text.occurs needle entry
  (found.take sources.limits.candidates).map fun entry => (Candidate.ofText entry).withHelpRef spec

def candidates (sources : Sources) (token : Token) : List Candidate :=
  match token.kind with
  | .protocol => sources.protocolCandidates token.text
  | .atValue keyword => sources.atCandidates keyword
  | .variableName value => sources.variableCandidates value
  | .pluginName spec value => sources.specCandidates spec value
  | .variableValue .. | .pluginValue .. => []

end Sources

end RuleHints
