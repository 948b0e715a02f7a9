import RuleHints.Candidate.Build
import RuleHints.Docs.Corpus
import RuleHints.Hint.Session
import RuleHints.Line.Classify

/-!
# Help

Where help on a name is found. The first rule that applies decides:

1. for `@` and a name, what the host editor says, else the page on `@` values;
2. the help of an entry of the list of hints on the screen;
3. for `%` and the name of a plugin, its homepage, else the entry of the index of plugins for it;
4. the page of the corpus for the name, the homepage of the plugin of that name, or the index.

The text of a page is shown if the corpus has one at the address.
-/

namespace RuleHints

inductive HelpAddress where
  | url (url : Text)
  | hidden
  deriving DecidableEq, Repr

structure Help where
  address : HelpAddress
  doc : Option Text := none
  deriving DecidableEq, Repr

structure HelpSources where
  plugins : Plugin.Directory
  corpus : Corpus
  atProvider : Option AtProvider := none
  atHelpUrl : Text
  pluginsIndex : Text

namespace HelpSources

variable (sources : HelpSources)

def helpAt (url : Text) : Help := ⟨.url url, sources.corpus.bodyAt? url⟩

def atHelp (name : Text) : Help :=
  match (sources.atProvider.map (·.help name)).getD .unknown with
  | .url url => if url.isEmpty then sources.helpAt sources.atHelpUrl else sources.helpAt url
  | .hidden => ⟨.hidden, none⟩
  | .unknown => sources.helpAt sources.atHelpUrl

def homepage? (name : Text) : Option Text := (sources.plugins.get? name).bind (·.homepage)

def variablePlugin? (name : Text) : Option Text :=
  ((Text.dropLead? "%" name).bind Line.splitName?).map (·.1)

def variableHelp (plugin : Text) : Help :=
  sources.helpAt ((sources.homepage? plugin).getD (sources.pluginsIndex ++ "?plugin=" ++ plugin))

def ruleHelp (name : Text) : Help :=
  let rule := ruleName name
  match sources.corpus.lookup? rule with
  | some page => sources.helpAt page.url
  | none => sources.helpAt ((sources.homepage? rule).getD sources.pluginsIndex)

/-- Help on a name; `session` is given when the name comes from a list of candidates. -/
def help (name : Text) (session : Option Session) : Help :=
  match Text.dropLead? "@" name with
  | some atName => sources.atHelp atName
  | none =>
    match session.bind (·.helpFor? name) with
    | some url => sources.helpAt url
    | none =>
      match variablePlugin? name with
      | some plugin => sources.variableHelp plugin
      | none => sources.ruleHelp name

end HelpSources

def tooltipMarkup (word url doc : Text) : Text :=
  "# " ++ word ++ " \n [" ++ url ++ "](" ++ url ++ ")\n\n" ++ doc

end RuleHints
