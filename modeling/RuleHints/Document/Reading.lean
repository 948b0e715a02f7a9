import RuleHints.Json.Source

/-!
# Reading documents

Settings and plugin metadata are written in more than one kind of document. A `Reading` says how the
parts of a document of type `δ` are asked for text, truth values, natural numbers, lists and
records; a reader of settings or metadata is written once, for every kind of document.

A record is either named, with fields in any order, or positional, with the values of its fields in
the order of their declaration. A named record may hold unknown fields, but no known field twice; a
positional record may stop early, but not go on past its last field.

Where it is not known what a part should be, the part itself has to say what it is: its `Content`.
-/

namespace RuleHints

/-! ### References -/

/-- The result of reading a part of a document. A document may refer to parts of itself, and a
reading follows a bounded number of references; the state is the number that is left. -/
abbrev Read := StateT Nat Option

namespace Read

variable {α : Type}

def result? (references : Nat) (read : Read α) : Option α := (read.run references).map (·.1)

def ofOption : Option α → Read α
  | some a => return a
  | none => failure

def follow : Read Unit := fun
  | 0 => none
  | left + 1 => some ((), left)

@[simp] theorem result?_pure (references : Nat) (a : α) :
    result? references (pure a) = some a := rfl

@[simp] theorem result?_ofOption (references : Nat) (a : Option α) :
    result? references (ofOption a) = a := by
  cases a <;> rfl

@[simp] theorem result?_follow_zero : result? 0 follow = none := rfl

@[simp] theorem result?_follow_succ (references : Nat) :
    result? (references + 1) follow = some () := rfl

end Read

/-! ### Contents -/

/-- What a part of a document is by itself. A `number` is one that is not natural. -/
inductive Content where
  | null
  | bool (b : Bool)
  | natural (n : Nat)
  | number
  | text (t : Text)
  | list (items : List Content)
  | record (fields : List (Content × Content))
  deriving Inhabited

namespace Content

def text? : Content → Option Text
  | .text t => some t
  | _ => none

def bool? : Content → Option Bool
  | .bool b => some b
  | _ => none

def optionalText? : Content → Option (Option Text)
  | .null => some none
  | content => content.text?.map some

end Content

/-! ### Records -/

/-- How a named record addresses a field: by its name, or by its position in the declaration. -/
inductive FieldKey where
  | name (t : Text)
  | position (i : Nat)
  deriving DecidableEq, Repr

def FieldKey.ofContent? : Content → Option FieldKey
  | .text t => some (.name t)
  | .natural i => some (.position i)
  | _ => none

inductive Record (δ : Type) where
  | named (fields : List (FieldKey × δ))
  | positional (values : List δ)

namespace Record

variable {δ : Type}

def addresses (names : List Text) (name : Text) : FieldKey → Bool
  | .name t => t == name
  | .position i => names[i]? == some name

/-- The value of each declared field, or none if the record does not fit the declaration. -/
def view? (names : List Text) : Record δ → Option (Text → Option δ)
  | .named fields =>
    let given (name : Text) := fields.filter fun field => addresses names name field.1
    if names.all fun name => (given name).length ≤ 1 then
      some fun name => (given name).head?.map (·.2)
    else none
  | .positional values =>
    if values.length ≤ names.length then
      some fun name => ((names.zip values).find? (·.1 == name)).map (·.2)
    else none

end Record

/-! ### Readings -/

/-- How the parts of a document are read. `present` gives nothing for an explicit null. -/
structure Reading (δ : Type) where
  text : δ → Read Text
  bool : δ → Read Bool
  natural : δ → Read Nat
  present : δ → Read (Option δ)
  items : δ → Read (List δ)
  record : δ → Read (Record δ)
  content : δ → Read Content

namespace Reading

variable {δ α : Type} (reading : Reading δ)

def fields (names : List Text) (d : δ) : Read (Text → Option δ) := do
  Read.ofOption ((← reading.record d).view? names)

def required (read : δ → Read α) : Option δ → Read α
  | none => failure
  | some d => read d

def orDefault (default : α) (read : δ → Read α) : Option δ → Read α
  | none => return default
  | some d => read d

def optional (read : δ → Read α) : Option δ → Read (Option α)
  | none => return none
  | some d => do
    match ← reading.present d with
    | none => return none
    | some d => return some (← read d)

def list (read : δ → Read α) (d : δ) : Read (List α) := do (← reading.items d).mapM read

end Reading

/-! ### Written data -/

namespace Json

mutual

def content : Json → Content
  | .null => .null
  | .bool b => .bool b
  | .number (.natural n) => .natural n
  | .number _ => .number
  | .string t => .text t
  | .array items => .list (contents items)
  | .object fields => .record (fieldContents fields)

def contents : List Json → List Content
  | [] => []
  | j :: rest => content j :: contents rest

def fieldContents : List (Text × Json) → List (Content × Content)
  | [] => []
  | (name, j) :: rest => (.text name, content j) :: fieldContents rest

end

structure Part where
  source : Source
  room : Nat

namespace Part

def ofText? (t : Text) : Option Part := (Source.ofText? t).map (⟨·, nestingLimit⟩)

/-- Written data as a document. A part that nothing asks for is never read as data, so it may hold
what no data can. -/
def reading : Reading Part where
  text
    | ⟨.string t, _⟩ => Read.ofOption t
    | _ => failure
  bool
    | ⟨.bool b, _⟩ => return b
    | _ => failure
  natural
    | ⟨.number (.natural n), _⟩ => return n
    | _ => failure
  present
    | ⟨.null, _⟩ => return none
    | part => return some part
  items
    | ⟨.array items, room⟩ => return items.map (⟨·, room - 1⟩)
    | _ => failure
  record
    | ⟨.object fields, room⟩ => do
      return .named (← fields.mapM fun (field : Option Text × Source) => do
        return (.name (← Read.ofOption field.1), ⟨field.2, room - 1⟩))
    | ⟨.array items, room⟩ => return .positional (items.map (⟨·, room - 1⟩))
    | _ => failure
  content part := Read.ofOption ((part.source.data? part.room).map Json.content)

end Part

end Json

end RuleHints
