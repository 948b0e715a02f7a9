import RuleHints.Candidate.Basic
import RuleHints.Line.Column
import RuleHints.Line.Token
import RuleHints.Registry

/-!
# The columns a protocol replaces

A chosen protocol replaces the word being typed. If the text from the start of the word already
goes on to a `://`, the range takes it in, so that it is not doubled; a plain `name:` is taken in
with its slashes if `name://` is one of the candidates. A word like `redhttp://` stays, since it is
a redirect in front of an address.
-/

namespace RuleHints.Line

def isRedirectTarget (word protocol : Text) : Bool :=
  Text.startsWith "red" word && (protocol == word ++ "http://" || protocol == word ++ "https://")

def skipSlashes (line : Text) (n column : Nat) : Nat :=
  column + (((line.drop column).take n).takeWhile (· == '/')).length

/-- The column up to which the token reaches into the protocol that follows, if it does. -/
def protocolStop? (line : Text) (token : Token) (candidates : List Candidate) : Option Nat :=
  match Text.occursFrom? protocolMark line token.start with
  | some column =>
    let stop := column + protocolMark.length
    let protocol := slice line token.start stop
    if protocol.any Text.isBlank || isRedirectTarget token.text protocol then none else some stop
  | none =>
    match Text.occursFrom? ":" line token.start with
    | some column =>
      let stop := column + 1
      let protocol := slice line token.start stop ++ "//"
      if candidates.any (·.insertText == protocol) then some (skipSlashes line 2 stop) else none
    | none => none

def protocolRange (line : Text) (token : Token) (candidates : List Candidate) : Nat × Nat :=
  (token.start, max ((protocolStop? line token candidates).getD token.stop) token.stop)

end RuleHints.Line
