import RuleHints.Candidate.Basic
import RuleHints.Registry
import RuleHints.RuleName
import RuleHints.Text.Casing

/-!
# Protocols for a keyword

The protocols whose lower-case name holds the keyword, the earlier the better. After them come
`socks://`, which is also found under parts of the word `proxy`, and the synonyms of the keyword.
The list is cut at its cap in the part that precedes the synonyms.

The place of a keyword in a name is measured in bytes.
-/

namespace RuleHints

namespace Candidate

def ofProtocol (protocol : Text) : Candidate := (ofText protocol).withHelpRef (ruleName protocol)

end Candidate

namespace Protocol

/-! ### Ranking -/

/-- The number of bytes before the first occurrence of a keyword in the lower-case name. -/
def rank? (keyword protocol : Text) : Option Nat :=
  let name := Text.lower protocol
  (Text.occursAt? keyword name).map fun column => Text.byteSize (name.take column)

def insertByRank (entry : Nat × Text) : List (Nat × Text) → List (Nat × Text)
  | [] => [entry]
  | other :: rest =>
    if entry.1 ≤ other.1 then entry :: other :: rest else other :: insertByRank entry rest

/-- Sorts by rank; entries of one rank keep their order. -/
def sortByRank (entries : List (Nat × Text)) : List (Nat × Text) := entries.foldr insertByRank []

def ranked (keyword : Text) (protocols : List Text) : List Text :=
  (sortByRank (protocols.filterMap fun p => (rank? keyword p).map (·, p))).map (·.2)

/-- The protocol that is also found as a proxy. -/
def socks : Text := "socks://"

/-- The entries that do not hold the keyword but are found as proxies. -/
def aliased (keyword : Text) (protocols : List Text) : List Text :=
  if Text.occurs keyword "proxy" then
    protocols.filter fun p => p = socks && (rank? keyword p).isNone
  else []

/-! ### Synonyms -/

structure Synonym where
  word : Text
  exact : Bool
  protocols : List Text

/-- The table of synonyms; the first row that applies counts. -/
def synonyms : List Synonym := [
  ⟨"csp", true, ["disable://csp"]⟩,
  ⟨"upstream", false, ["proxy://", "xproxy://"]⟩,
  ⟨"xupstream", false, ["xproxy://"]⟩,
  ⟨"extend", false, ["reqMerge://", "resMerge://"]⟩]

def Synonym.appliesTo (keyword : Text) (s : Synonym) : Bool :=
  if s.exact then s.word = keyword else Text.occurs keyword s.word

def synonymsFor (keyword : Text) : List Text :=
  ((synonyms.find? (·.appliesTo keyword)).map (·.protocols)).getD []

/-! ### The list -/

def matching (protocols : List Text) (cap : Nat) (keyword : Text) : List Text :=
  let found := ranked keyword protocols ++ aliased keyword protocols
  let extra := (synonymsFor keyword).filter fun p => !found.contains p
  (found.take (cap - extra.length) ++ extra).take cap

/-- The protocols offered for a keyword; without one, the registry in its order. -/
def offered (registry : Registry) (cap : Nat) (keyword : Text) : List Text :=
  if keyword.isEmpty then registry.protocols.take cap
  else matching registry.protocols cap (Text.lower keyword)

end Protocol

end RuleHints
