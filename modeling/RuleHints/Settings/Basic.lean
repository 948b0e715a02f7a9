import RuleHints.Document.Load
import RuleHints.Limits
import RuleHints.Registry
import RuleHints.Text.Blank

/-!
# Settings

What a user can configure, with its defaults. Settings are read from a document, where every field
may be missing, and are then checked; `load` does both.
-/

namespace RuleHints

structure Logging where
  level : Text := "info"
  debug : Bool := false
  deriving DecidableEq, Repr

namespace Logging

def fieldNames : List Text := ["level", "debug"]

def read {δ : Type} (reading : Reading δ) (d : δ) : Read Logging := do
  let field ← reading.fields fieldNames d
  let default : Logging := {}
  return {
    level := ← Reading.orDefault default.level reading.text (field "level")
    debug := ← Reading.orDefault default.debug reading.bool (field "debug") }

def fieldValues (logging : Logging) : List Json := [.string logging.level, .bool logging.debug]

def toJson (logging : Logging) : Json := .object (fieldNames.zip logging.fieldValues)

def levels : List Text := ["trace", "debug", "info", "warn", "error"]

end Logging

structure Settings where
  enabled : Bool := true
  /-- How long the user has to pause before hints are asked for, in milliseconds. -/
  debounce : Nat := 120
  limits : Limits := {}
  rulesHelpBase : Text := "https://avwo.github.io/whistle/rules/"
  pluginsIndex : Text := "https://avwo.github.io/whistle/plugins.html"
  atHelp : Option Text := none
  /-- The protocols to offer instead of the built-in ones. -/
  protocols : Option (List Text) := none
  logging : Logging := {}
  deriving DecidableEq, Repr

namespace Settings

def atHelpUrl (settings : Settings) : Text :=
  settings.atHelp.getD (settings.rulesHelpBase ++ "@.html")

def registry (settings : Settings) : Registry := (settings.protocols.map Registry.mk).getD .builtin

def fieldNames : List Text := [
  "enabled", "debounce_ms", "max_candidates", "max_hint_len", "max_var_len", "rules_help_base",
  "plugins_index_url", "at_help_url", "protocols", "logging"]

def read {δ : Type} (reading : Reading δ) (d : δ) : Read Settings := do
  let field ← reading.fields fieldNames d
  let default : Settings := {}
  return {
    enabled := ← Reading.orDefault default.enabled reading.bool (field "enabled")
    debounce := ← Reading.orDefault default.debounce reading.natural (field "debounce_ms")
    limits := {
      candidates :=
        ← Reading.orDefault default.limits.candidates reading.natural (field "max_candidates")
      hintLength :=
        ← Reading.orDefault default.limits.hintLength reading.natural (field "max_hint_len")
      varLength :=
        ← Reading.orDefault default.limits.varLength reading.natural (field "max_var_len") }
    rulesHelpBase :=
      ← Reading.orDefault default.rulesHelpBase reading.text (field "rules_help_base")
    pluginsIndex :=
      ← Reading.orDefault default.pluginsIndex reading.text (field "plugins_index_url")
    atHelp := ← reading.optional reading.text (field "at_help_url")
    protocols := ← reading.optional (reading.list reading.text) (field "protocols")
    logging := ← Reading.orDefault default.logging (Logging.read reading) (field "logging") }

def fieldValues (writeLogging : Logging → Json) (settings : Settings) : List Json := [
  .bool settings.enabled, .ofNat settings.debounce, .ofNat settings.limits.candidates,
  .ofNat settings.limits.hintLength, .ofNat settings.limits.varLength,
  .string settings.rulesHelpBase, .string settings.pluginsIndex, .ofOption settings.atHelp,
  (settings.protocols.map Json.ofTexts).getD .null, writeLogging settings.logging]

def toJson (settings : Settings) : Json :=
  .object (fieldNames.zip (settings.fieldValues Logging.toJson))

/-- What is wrong with settings. The first rule that is broken counts. -/
def problem? (settings : Settings) : Option Text :=
  if settings.debounce = 0 then some "debounce_ms must be greater than zero"
  else if settings.limits.candidates = 0 then some "max_candidates must be greater than zero"
  else if settings.limits.hintLength < settings.limits.varLength then
    some "max_var_len cannot exceed max_hint_len"
  else if Text.isAllBlank settings.rulesHelpBase || Text.isAllBlank settings.pluginsIndex then
    some "Help URLs cannot be empty"
  else none

def check (settings : Settings) : Except Failure Settings :=
  match settings.problem? with
  | some reason => .error (.configuration reason)
  | none => .ok settings

def load (language : Language) (content : Text) : Except Failure Settings := do
  check (← language.load read content)

end Settings

end RuleHints
