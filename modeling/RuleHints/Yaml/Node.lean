import RuleHints.Yaml.Token

/-!
# Nodes of YAML

A document is a tree of scalars, sequences and mappings. `Document.ofText?` reads the one document
that a text holds; a text without any has the node `nothing`.

A node may have an anchor, and an alias refers to it by name. The number of an anchor is how many
names were in use before it, so a name that is used again gets a new number while the count stays
the same. An alias holds the number that its name had in front of it, and stands for the last node
of the document whose anchor has this number. It may stand inside the node that it refers to.

A value may be missing almost everywhere and is then an empty plain scalar.
-/

namespace RuleHints.Yaml

inductive Node where
  | nothing
  | alias (number : Nat)
  | scalar (tag : Option Tag) (style : Style) (text : Text)
  | sequence (tag : Option Tag) (items : List Node)
  | mapping (tag : Option Tag) (entries : List (Node × Node))
  deriving Inhabited

/-- A document: its root, and the nodes that have anchors, in order, each with its number. -/
structure Document where
  root : Node
  anchors : List (Nat × Node)

namespace Node

def missing : Node := .scalar none .plain []

mutual

/-- The number of scalars and aliases of a node and of starts and ends of collections. -/
def size : Node → Nat
  | .sequence _ items => sizeOfItems items + 2
  | .mapping _ entries => sizeOfEntries entries + 2
  | _ => 1

def sizeOfItems : List Node → Nat
  | [] => 0
  | node :: rest => size node + sizeOfItems rest

def sizeOfEntries : List (Node × Node) → Nat
  | [] => 0
  | (key, value) :: rest => size key + size value + sizeOfEntries rest

end

/-- What is left of a document: its tokens, the numbers of the names in use, the nodes with anchors
so far, and the tag handles of the document. -/
structure Rest where
  tokens : List Token
  numbers : List (Text × Nat) := []
  anchors : Array (Nat × Node) := #[]
  handles : List (Text × Tag) := []

abbrev Parse := StateT Rest Option

namespace Parse

def peek : Parse (Option Token) := do return (← get).tokens.head?

def skip : Parse Unit := modify fun rest => { rest with tokens := rest.tokens.drop 1 }

def peekSign : Parse (Option Sign) := do
  match ← peek with
  | some (.sign s) => return some s
  | _ => return none

def accept (s : Sign) : Parse Bool := do
  if (← peekSign) = some s then skip; return true else return false

def expect (s : Sign) : Parse Unit := do if !(← accept s) then failure

def atAny (signs : List Sign) : Parse Bool := do
  match ← peek with
  | some (.sign s) => return signs.contains s
  | some _ => return false
  | none => return true

/-- Reads a node that may have an anchor. The anchor counts from the start of the node on. -/
def anchored (anchor : Option Text) (read : Parse Node) : Parse Node :=
  match anchor with
  | none => read
  | some name => do
    let rest ← get
    let number := rest.numbers.length
    let place := rest.anchors.size
    set { rest with
      numbers := (name, number) :: rest.numbers.filter (·.1 ≠ name)
      anchors := rest.anchors.push (number, .nothing) }
    let result ← read
    modify fun rest =>
      { rest with anchors := rest.anchors.setIfInBounds place (number, result) }
    return result

def resolveTag (handle : Text) (suffix : Tag) : Parse Tag := do
  if handle.isEmpty then return suffix
  match (← get).handles.find? (·.1 = handle) with
  | some (_, lead) => return lead ++ suffix
  | none => failure

def properties : Parse (Option Text × Option Tag) := do
  match ← peek with
  | some (.anchor name) =>
    skip
    match ← peek with
    | some (.tag handle suffix) => skip; return (some name, some (← resolveTag handle suffix))
    | _ => return (some name, none)
  | some (.tag handle suffix) =>
    skip
    let tag ← resolveTag handle suffix
    match ← peek with
    | some (.anchor name) => skip; return (some name, some tag)
    | _ => return (none, some tag)
  | _ => return (none, none)

end Parse

open Parse

/-- Where a node stands: in brackets, in a block, or in a block where a sequence need not be
indented. -/
inductive Place where
  | flow
  | block
  | unindented
  deriving DecidableEq

mutual

/-- Reads a node. The first argument bounds the number of steps. -/
def node : Nat → Place → Parse Node
  | 0, _ => failure
  | n + 1, place => do
    match ← peek with
    | some (.alias name) =>
      skip
      match (← get).numbers.find? (·.1 = name) with
      | some (_, number) => return .alias number
      | none => failure
    | _ => do
      let (anchor, tag) ← properties
      anchored anchor do
        match ← peek, place with
        | some (.scalar style text), _ =>
          skip
          return .scalar (tag.filter (· != Tag.unspecific)) style text
        | some (.sign .flowSequenceStart), _ => skip; return .sequence tag (← flowItems n true)
        | some (.sign .flowMappingStart), _ => skip; return .mapping tag (← flowEntries n true)
        | some (.sign .blockEntry), .unindented => return .sequence tag (← unindentedItems n)
        | some (.sign .blockSequenceStart), .block
        | some (.sign .blockSequenceStart), .unindented =>
          skip
          return .sequence tag (← blockItems n)
        | some (.sign .blockMappingStart), .block
        | some (.sign .blockMappingStart), .unindented =>
          skip
          return .mapping tag (← blockEntries n)
        | _, _ =>
          -- A node without content has to have an anchor or a tag.
          if anchor.isNone && tag.isNone then failure else return .scalar tag .plain []

def nodeUnless : Nat → List Sign → Place → Parse Node
  | 0, _, _ => failure
  | n + 1, stops, place => do if ← atAny stops then return missing else node n place

def blockItems : Nat → Parse (List Node)
  | 0 => failure
  | n + 1 => do
    if ← accept .blockEntry then
      let item ← nodeUnless n [.blockEntry, .blockEnd] .block
      return item :: (← blockItems n)
    else
      expect .blockEnd
      return []

def unindentedItems : Nat → Parse (List Node)
  | 0 => failure
  | n + 1 => do
    if ← accept .blockEntry then
      let item ← nodeUnless n [.blockEntry, .key, .value, .blockEnd] .block
      return item :: (← unindentedItems n)
    else return []

def blockEntries : Nat → Parse (List (Node × Node))
  | 0 => failure
  | n + 1 => do
    if ← accept .key then
      let key ← nodeUnless n [.key, .value, .blockEnd] .unindented
      let value ← if ← accept .value then nodeUnless n [.key, .value, .blockEnd] .unindented
        else pure missing
      return (key, value) :: (← blockEntries n)
    else
      expect .blockEnd
      return []

/-- The members of a sequence in brackets. A member may be a single entry of a mapping. -/
def flowItems : Nat → Bool → Parse (List Node)
  | 0, _ => failure
  | n + 1, first => do
    if ← accept .flowSequenceEnd then return []
    if !first then expect .flowEntry
    if ← accept .key then
      let stops : List Sign := [.flowEntry, .flowSequenceEnd]
      let key ← if ← atAny (.value :: stops) then (do skip; pure missing) else node n .flow
      let value ← if ← accept .value then nodeUnless n stops .flow else pure missing
      return .mapping none [(key, value)] :: (← flowItems n false)
    else if ← accept .flowSequenceEnd then return []
    else
      let item ← node n .flow
      return item :: (← flowItems n false)

def flowEntries : Nat → Bool → Parse (List (Node × Node))
  | 0, _ => failure
  | n + 1, first => do
    if ← accept .flowMappingEnd then return []
    if !first then expect .flowEntry
    let stops : List Sign := [.flowEntry, .flowMappingEnd]
    if ← accept .key then
      let key ← nodeUnless n (.value :: stops) .flow
      let value ← if ← accept .value then nodeUnless n stops .flow else pure missing
      return (key, value) :: (← flowEntries n false)
    else if ← accept .flowMappingEnd then return []
    else
      let key ← node n .flow
      return (key, missing) :: (← flowEntries n false)

end

def commonHandles : List (Text × Tag) := [("!", Tag.unspecific), ("!!", Tag.core [])]

/-- Reads the directives before a document: at most one version, which has to be 1.1 or 1.2, and tag
handles, each at most once. Gives whether there are any. -/
def directives : Nat → Bool → List (Text × Tag) → Parse Bool
  | 0, _, _ => failure
  | n + 1, versioned, handles => do
    match ← peek with
    | some (.version major minor) =>
      if versioned || major != 1 || (minor != 1 && minor != 2) then failure
      skip
      directives n true handles
    | some (.tagDirective handle lead) =>
      if handles.any (·.1 = handle) then failure
      skip
      directives n versioned ((handle, lead) :: handles)
    | _ =>
      modify fun rest => { rest with handles := handles ++ commonHandles }
      return versioned || !handles.isEmpty

def document : Parse Node := do
  let fuel := 4 * (← get).tokens.length + 8
  let directed ← directives fuel false []
  match ← peek with
  | none => if directed then failure else return .nothing
  | some (.sign .documentStart) =>
    skip
    let starts := match ← peek with
      | some (.version ..) | some (.tagDirective ..) => true
      | _ => false
    let result ← if starts then pure missing
      else nodeUnless fuel [.documentStart, .documentEnd] .block
    finish result
  | some _ =>
    if directed then failure
    finish (← node fuel .block)
where
  finish (result : Node) : Parse Node := do
    if (← get).tokens.all isEnd then return result else failure
  isEnd : Token → Bool
    | .sign .documentEnd => true
    | _ => false

end Node

namespace Document

def ofText? (t : Text) : Option Document := do
  let (root, rest) ← Node.document.run { tokens := ← Token.scan? t }
  return ⟨root, rest.anchors.toList⟩

def target? (document : Document) (number : Nat) : Option Node :=
  (document.anchors.reverse.find? (·.1 = number)).map (·.2)

def referenceLimit (document : Document) : Nat := 100 * document.root.size

end Document

end RuleHints.Yaml
