import RuleHints.Line.Column

/-!
# What the pointer is on

The word under a column, if it has a help name: a word that begins with `@` or `%` is its own name,
any other word needs a protocol before `://`.
-/

namespace RuleHints.Line

structure Target where
  name : Text
  word : Text
  start : Nat
  stop : Nat
  deriving DecidableEq, Repr

/-- The part of a line that has words: what stands before a comment, or the line without the blanks
at its end. -/
def body (line : Text) : Text :=
  match commentStart? line with
  | some column => line.take column
  | none => Text.trimEnd line

def protocolOf? (word : Text) : Option Text :=
  let name := word.takeWhile (· != ':')
  if !name.isEmpty && Text.startsWith "://" (word.dropWhile (· != ':')) then some name else none

def helpName? (word : Text) : Option Text :=
  if Text.startsWith "@" word || Text.startsWith "%" word then some word else protocolOf? word

def target? (line : Text) (cursor : Nat) : Option Target :=
  let body := body line
  if body.length < cursor then none
  else
    let start := cursor - (trailingWord (body.take cursor)).length
    let stop := cursor + ((body.drop cursor).takeWhile isWordChar).length
    if start = stop then none
    else
      let word := slice body start stop
      (helpName? word).map fun name => ⟨name, word, start, stop⟩

end RuleHints.Line
