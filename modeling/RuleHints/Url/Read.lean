import RuleHints.Url.Path

/-!
# Reading addresses

`Url.read` reads text as an address, where a base fills in what the text leaves out. Tabs and line
ends are passed over, as are blanks and control characters at both ends. In special schemes a
backslash is a slash.
-/

namespace RuleHints.Url

/-! ### Ends -/

structure Parts where
  path : Text
  query : Option Text
  fragment : Option Text

def divide (t : Text) : Parts :=
  let main := Text.before '#' t
  { path := Text.before '?' main
    query := if main.contains '?' then some ((main.dropWhile (· != '?')).drop 1) else none
    fragment := if t.contains '#' then some ((t.dropWhile (· != '#')).drop 1) else none }

def readQuery (kind : SchemeKind) (query : Text) : Text :=
  encode (if kind = .other then querySet else specialQuerySet) query

def withEnds (url : Url) (parts : Parts) : Url :=
  { url with
    query := parts.query.map (readQuery (kindOf url.scheme))
    fragment := parts.fragment.map (encode fragmentSet) }

/-! ### Authorities -/

/-- A host ends at a colon, unless the colon is `inside` brackets; gives what follows the colon. -/
def splitHost (inside : Bool) : Text → Text × Option Text
  | [] => ([], none)
  | c :: t =>
    if c = ':' && !inside then ([], some t)
    else
      let (host, number) := splitHost (c = '[' || (inside && c != ']')) t
      (c :: host, number)

/-- The number after a host, of at most sixteen bits, and what follows it. The usual one of the
scheme is left out. -/
def readPortNumber (scheme t : Text) : Except Problem (Option Nat × Text) :=
  let digits := t.takeWhile Text.isAsciiDigit
  let rest := t.dropWhile Text.isAsciiDigit
  if !(rest.head?.all fun c => ("/\\?#" : Text).contains c) then .error .portNumber
  else if digits.isEmpty then .ok (none, rest)
  else
    match (Text.natural? 10 digits).filter (· < Nat.pow 2 16) with
    | some number => .ok ((some number).filter (usualPortNumber? scheme != some ·), rest)
    | none => .error .portNumber

def readHost (kind : SchemeKind) (t : Text) : Except Problem Host :=
  if kind = .other then Host.ofPlain t
  else if t.isEmpty then .error .emptyHost
  else Host.ofDomain t

def splitUser (t : Text) : Option Text × Text :=
  let host := (t.reverse.takeWhile (· != '@')).reverse
  if host.length = t.length then (none, t) else (some (t.take (t.length - host.length - 1)), host)

/-- Reads an authority, and gives what follows it. A user, a password or a number needs a host. -/
def readAuthority (scheme t : Text) : Except Problem (Authority × Text) := do
  let kind := kindOf scheme
  let isPart (c : Char) : Bool := !(isSlash kind c || c = '?' || c = '#')
  let rest := t.dropWhile isPart
  let (user, place) := splitUser (t.takeWhile isPart)
  if user = some [] && place.isEmpty && !rest.isEmpty then throw .emptyHost
  let name := Text.before ':' (user.getD [])
  let password := ((user.getD []).dropWhile (· != ':')).drop 1
  let (hostText, number) := splitHost false place
  let host ← readHost kind hostText
  if host.isEmpty && number.isSome then throw .emptyHost
  let (portNumber, rest) ← match number with
    | some number => readPortNumber scheme (number ++ rest)
    | none => pure (none, rest)
  if host.isEmpty && !(name.isEmpty && password.isEmpty) then throw .emptyHost
  return ({ user := encode userSet name, password := encode userSet password, host, portNumber },
    rest)

def afterSlashes (scheme t : Text) : Except Problem Url := do
  let (authority, rest) ← readAuthority scheme t
  let parts := divide rest
  return withEnds { scheme, authority, path := pathAfterAuthority (kindOf scheme) parts.path } parts

/-! ### Files -/

def fileRoot : Url where
  scheme := "file"
  authority := some { host := .domain [] }
  path := "/"

def readFileHost (t : Text) : Except Problem Host :=
  if t.isEmpty then .ok (.domain [])
  else (Host.ofDomain t).map fun host => if host = .domain "localhost" then .domain [] else host

def firstSegment (path : Text) : Text := Text.before '/' (path.drop 1)

/-- Reads the host of a file and its path. A drive letter is no host, and a file whose path begins
with one has none. Without a host, all slashes belong to the path. -/
def readHostedFile (t : Text) : Except Problem Url := do
  let isPart (c : Char) : Bool := !(isSlash .file c || c = '?' || c = '#')
  let hostText := t.takeWhile isPart
  let isDrive := isDriveLetter hostText
  let host ← readFileHost (if isDrive then [] else hostText)
  let parts := divide (if isDrive then t else t.dropWhile isPart)
  if host.isEmpty then
    return withEnds { fileRoot with path := readPath .file "/" parts.path } parts
  else
    let lead := if startsAsSlash parts.path then parts.path.drop 1 else parts.path
    let path := addSegments .file "/" (lead.splitOnP (isSlash .file))
    let kept := if isNormalDriveLetter (firstSegment path) then .domain [] else host
    return withEnds
      { fileRoot with authority := some { host := kept }, path := normalPath .file path } parts
where
  startsAsSlash (t : Text) : Bool := (t.head?.map (isSlash .file)).getD false

def readFile (base : Option Url) (t : Text) : Except Problem Url :=
  let parts := divide t
  match t with
  | [] => .ok { base.getD fileRoot with fragment := none }
  | c :: rest =>
    if isSlash .file c then
      if (rest.head?.map (isSlash .file)).getD false then readHostedFile (rest.drop 1)
      else
        let above := if startsWithDrive rest then fileRoot else base.getD fileRoot
        let drive := firstSegment above.path
        if isNormalDriveLetter drive then
          .ok (withEnds { fileRoot with path := readPath .file ('/' :: drive) parts.path } parts)
        else .ok (withEnds { above with path := readPath .file [] parts.path } parts)
    else
      match base with
      | none => .ok (withEnds { fileRoot with path := readPath .file "/" parts.path } parts)
      | some base =>
        if c = '?' then .ok (withEnds base parts)
        else if c = '#' then .ok { base with fragment := (withEnds base parts).fragment }
        else if startsWithDrive t then
          .ok (withEnds { fileRoot with path := readPath .file "/" parts.path } parts)
        else
          .ok (withEnds
            { base with path := readPath .file (shorten .file base.path) parts.path } parts)

/-! ### Relative addresses -/

def readRelative (base : Url) (t : Text) : Except Problem Url :=
  let kind := kindOf base.scheme
  let parts := divide t
  match t with
  | [] => .ok { base with fragment := none }
  | c :: rest =>
    if c = '?' then .ok (withEnds base parts)
    else if c = '#' then .ok { base with fragment := (withEnds base parts).fragment }
    else if c = '/' || c = '\\' then
      let isAny (c : Char) : Bool := c = '/' || c = '\\'
      if (rest.head?.map isAny).getD false then
        afterSlashes base.scheme ((Text.dropLead? "//" t).getD (t.dropWhile isAny))
      else .ok (withEnds { base with path := readPath kind "/" (parts.path.drop 1) } parts)
    else
      let above := shorten kind base.path
      let above : Text := if above.isEmpty then "/" else above
      .ok (withEnds { base with path := readPath kind above parts.path } parts)

/-! ### Addresses -/

def splitScheme? (t : Text) : Option (Text × Text) :=
  let isPart (c : Char) : Bool :=
    Text.isAsciiLetter c || Text.isAsciiDigit c || c = '+' || c = '-' || c = '.'
  let scheme := t.takeWhile isPart
  match scheme, t.dropWhile isPart with
  | first :: _, ':' :: rest =>
    if Text.isAsciiLetter first then some (scheme.map Char.toLower, rest) else none
  | _, _ => none

def readOther (scheme t : Text) : Except Problem Url :=
  let parts := divide t
  match t with
  | '/' :: '/' :: rest => afterSlashes scheme rest
  | '/' :: _ =>
    .ok (withEnds { scheme, path := readPath .other "/" (parts.path.drop 1) } parts)
  | _ => .ok (withEnds { scheme, path := encode controls parts.path } parts)

def readWithScheme (base : Option Url) (scheme t : Text) : Except Problem Url :=
  match kindOf scheme with
  | .file => readFile (base.filter (·.scheme = "file")) t
  | .other => readOther scheme t
  | .special =>
    let slashes := (t.takeWhile (isSlash .special)).length
    match base.filter (fun base => slashes < 2 && base.scheme = scheme) with
    | some base => readRelative base t
    | none => afterSlashes scheme (t.drop slashes)

def cleaned (t : Text) : Text :=
  let isOuter (c : Char) : Bool := c.toNat ≤ 0x20
  let inner := ((t.dropWhile isOuter).reverse.dropWhile isOuter).reverse
  inner.filter fun c => !(c = '\t' || c = '\n' || c = '\r')

def read (base : Option Url) (t : Text) : Except Problem Url :=
  let t := cleaned t
  match splitScheme? t with
  | some (scheme, rest) => readWithScheme base scheme rest
  | none =>
    match base with
    | none => .error .noBase
    | some base =>
      if t.head? = some '#' then .ok { base with fragment := (withEnds base (divide t)).fragment }
      else if base.isPlain then .error .plainBase
      else if kindOf base.scheme = .file then readFile (some base) t
      else readRelative base t

end RuleHints.Url
