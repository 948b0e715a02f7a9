import RuleHints.Plugin.Hint

/-!
# Plugin metadata

A plugin is a module, often called `whistle.` and its short name. It may have a homepage, hints for
its values, and variables with keys and hints of their own. Hints come from a declared list or from
an address that is asked while the user types.

`endpoint?` keeps an address inside the plugin: unless the address begins with the module name or
with `plugin.` and the short name, it is put below the latter.
-/

namespace RuleHints.Plugin

def moduleLead : Text := "whistle."

/-- Where hints are wanted: after a protocol or after a variable. -/
inductive Slot where
  | value
  | variable
  deriving DecidableEq, Repr

structure Variables where
  keys : List Text := []
  hintUrl : Option Text := none
  hintList : Option (List Hint) := none
  deriving DecidableEq, Repr

namespace Variables

def hasHints (v : Variables) : Bool := v.hintUrl.isSome || v.hintList.isSome

end Variables

structure Metadata where
  moduleName : Text
  homepage : Option Text := none
  hintUrl : Option Text := none
  hintList : Option (List Hint) := none
  vars : Option Variables := none
  deriving DecidableEq, Repr

namespace Metadata

variable (plugin : Metadata)

def shortName : Text := Text.dropLead moduleLead plugin.moduleName

def hasHints : Bool := plugin.hintUrl.isSome || plugin.hintList.isSome

def hints? : Slot → Option (List Hint)
  | .value => plugin.hintList
  | .variable => plugin.vars.bind (·.hintList)

def address? : Slot → Option Text
  | .value => plugin.hintUrl
  | .variable => plugin.vars.bind (·.hintUrl)

def scope : Text := "plugin." ++ plugin.shortName

def withinScope (url : Text) : Text :=
  if Text.startsWith plugin.moduleName url || Text.startsWith plugin.scope url then url
  else plugin.scope ++ "/" ++ url

def endpoint? (slot : Slot) : Option Text := (plugin.address? slot).map plugin.withinScope

/-- The help address of a hint: its own one, else the homepage, else the index of plugins. -/
def helpFor (hintHelp : Option Text) (index : Text) : Text :=
  match hintHelp.filter (!·.isEmpty) with
  | some url => url
  | none => plugin.homepage.getD index

end Metadata

/-! ### Reading and writing -/

namespace Variables

def fieldNames : List Text := ["keys", "hintUrl", "hintList"]

def read {δ : Type} (reading : Reading δ) (d : δ) : Read Variables := do
  let field ← reading.fields fieldNames d
  return {
    keys := ← Reading.orDefault [] (reading.list reading.text) (field "keys")
    hintUrl := ← reading.optional reading.text (field "hintUrl")
    hintList := ← reading.optional (reading.list (Hint.read reading)) (field "hintList") }

def fieldValues (v : Variables) : List Json :=
  [.ofTexts v.keys, .ofOption v.hintUrl,
    (v.hintList.map fun hints => .array (hints.map Hint.toJson)).getD .null]

def toJson (v : Variables) : Json := .object (fieldNames.zip v.fieldValues)

end Variables

namespace Metadata

def fieldNames : List Text := ["moduleName", "homepage", "hintUrl", "hintList", "pluginVars"]

def read {δ : Type} (reading : Reading δ) (d : δ) : Read Metadata := do
  let field ← reading.fields fieldNames d
  return {
    moduleName := ← Reading.required reading.text (field "moduleName")
    homepage := ← reading.optional reading.text (field "homepage")
    hintUrl := ← reading.optional reading.text (field "hintUrl")
    hintList := ← reading.optional (reading.list (Hint.read reading)) (field "hintList")
    vars := ← reading.optional (Variables.read reading) (field "pluginVars") }

def fieldValues (writeVariables : Variables → Json) (plugin : Metadata) : List Json :=
  [.string plugin.moduleName, .ofOption plugin.homepage, .ofOption plugin.hintUrl,
    (plugin.hintList.map fun hints => .array (hints.map Hint.toJson)).getD .null,
    (plugin.vars.map writeVariables).getD .null]

def toJson (plugin : Metadata) : Json :=
  .object (fieldNames.zip (plugin.fieldValues Variables.toJson))

end Metadata

end RuleHints.Plugin
