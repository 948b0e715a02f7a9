import RuleHints.Limits
import RuleHints.Line.Column
import RuleHints.Line.Token
import RuleHints.Plugin.Directory
import RuleHints.Text.Digit

/-!
# Classification

`classify?` says what the word before the cursor is. The first rule that applies decides:

1. `@` and a keyword: a value of the host editor;
2. `pipe:` or `sniCallback:`: the name of a plugin;
3. `%`, a name, `=` or `.`: the value of a variable of the plugin of that name; `%` otherwise: the
   name of a variable;
4. a plugin's name, perhaps after `whistle.`, then `:`, `:/` or `://` and a value: a value of that
   plugin, if it has hints;
5. anything else without `//` that is not made of colons and slashes alone: a protocol.

After the enter key, only what has no value yet is offered.
-/

namespace RuleHints.Line

/-- A character of plugin names: a small letter, a decimal digit, `_` or `-`. -/
def isNameChar (c : Char) : Bool :=
  ('a' ≤ c && c ≤ 'z') || Text.isDecimalDigit c || c == '_' || c == '-'

def splitName? (t : Text) : Option (Text × Text) :=
  let name := t.takeWhile isNameChar
  if name.isEmpty then none else some (name, t.dropWhile isNameChar)

def pluginSpecs : List Text := ["pipe", "sniCallback"]

/-- The protocol of `pluginSpecs` that a word begins with, up to its colon. -/
def spec? (word : Text) : Option Text :=
  pluginSpecs.find? fun spec => Text.startsWith (spec ++ ":") word

/-- Splits `%name=value` and `%name.value`, without the `%`. -/
def splitVariable? (t : Text) : Option (Text × Separator × Text) := do
  let (name, rest) ← splitName? t
  match rest with
  | c :: value => return (name, ← Separator.ofChar? c, value)
  | [] => none

/-- Splits `name:`, `name:/` and `name://value`, where the name may follow `whistle.`: the protocol
as written, the name, and the value. -/
def splitProtocol? (word : Text) : Option (Text × Text × Text) := do
  let (lead, rest) := match Text.dropLead? Plugin.moduleLead word with
    | some rest => (Plugin.moduleLead, rest)
    | none => ([], word)
  let (name, rest) ← splitName? rest
  match rest with
  | [':'] | [':', '/'] => return (lead ++ name, name, [])
  | ':' :: '/' :: '/' :: value => return (lead ++ name, name, value)
  | _ => none

def classifyVariable? (plugins : Plugin.Directory) (limits : Limits) (byEnter : Bool)
    (rest : Text) : Option TokenKind :=
  match splitVariable? rest with
  | none => if byEnter then none else some (.variableName rest)
  | some (name, separator, value) =>
    if ((plugins.get? name).bind (·.vars)).isNone then none
    else if !value.isEmpty && (byEnter || limits.varLength < value.length) then none
    else some (.variableValue name separator value)

/-- The plugin value that a word is, if it names a plugin with hints. The outer absence says that it
does not, the inner one that it does but nothing is offered. -/
def classifyPlugin? (plugins : Plugin.Directory) (limits : Limits) (byEnter : Bool)
    (word : Text) : Option (Option TokenKind) := do
  let (protocol, name, value) ← splitProtocol? word
  let plugin ← (plugins.get? name).filter (·.hasHints)
  if !value.isEmpty && (limits.hintLength < value.length || byEnter) then return none
  else return some (.pluginValue plugin.shortName protocol value)

/-- A word that holds `//`, or consists of colons and slashes, names no protocol. -/
def namesNoProtocol (word : Text) : Bool :=
  Text.occurs "//" word || word.all fun c => c == ':' || c == '/'

def classifyWord? (plugins : Plugin.Directory) (limits : Limits) (trigger : Trigger)
    (word : Text) : Option TokenKind :=
  let byEnter := trigger == .enter
  match Text.dropLead? "@" word with
  | some keyword => if byEnter then none else some (.atValue keyword)
  | none =>
  match spec? word with
  | some spec =>
    if byEnter && word != spec ++ "://" then none
    else some (.pluginName spec ((Text.dropBytes? (spec.length + 3) word).getD []))
  | none =>
  match Text.dropLead? "%" word with
  | some rest => classifyVariable? plugins limits byEnter rest
  | none =>
  match classifyPlugin? plugins limits byEnter word with
  | some kind => kind
  | none => if namesNoProtocol word then none else some .protocol

def classify? (plugins : Plugin.Directory) (limits : Limits) (line : Text) (cursor : Nat)
    (trigger : Trigger) : Option Token :=
  let cursor := min cursor line.length
  if (commentStart? line).any (· < cursor) then none
  else
    let start := wordStart line cursor
    if start = cursor then
      if trigger.suppressesEmptyWord then none else some ⟨.protocol, [], start, cursor⟩
    else if limits.hintLength < cursor - start then none
    else
      let word := slice line start cursor
      (classifyWord? plugins limits trigger word).map fun kind => ⟨kind, word, start, cursor⟩

end RuleHints.Line
