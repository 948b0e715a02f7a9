import RuleHints.Url.Basic

/-!
# Paths of addresses

A path is text that begins with a slash. `addSegments` puts more segments at its end: a segment of
one dot stands for the place itself, a segment of two dots for the place above.

A drive letter is a segment of a letter and a colon or a bar. No dots lead above a drive letter
between slashes, whatever the scheme. In the path of a file a drive letter that comes first is
written with a colon.
-/

namespace RuleHints.Url

/-! ### Segments -/

def isSlash (kind : SchemeKind) (c : Char) : Bool := c = '/' || (c = '\\' && kind != .other)

def isDot (segment : Text) : Bool :=
  let segment := Text.lower segment
  segment = "." || segment = "%2e"

def isDoubleDot (segment : Text) : Bool :=
  let segment := Text.lower segment
  segment = ".." || segment = ".%2e" || segment = "%2e." || segment = "%2e%2e"

def isDriveLetter : Text → Bool
  | [c, mark] => Text.isAsciiLetter c && (mark = ':' || mark = '|')
  | _ => false

def isNormalDriveLetter (segment : Text) : Bool :=
  isDriveLetter segment && segment.getLast? = some ':'

def startsWithDrive (t : Text) : Bool :=
  isDriveLetter (t.take 2) && (t.drop 2).head?.all fun c => ("/\\?#" : Text).contains c

/-! ### Places -/

def lastSegment (path : Text) : Text := (path.reverse.takeWhile (· != '/')).reverse

/-- A path without what follows its last slash. The drive letter of a file stays. -/
def shorten (kind : SchemeKind) (path : Text) : Text :=
  let last := lastSegment path
  if kind = .file && isNormalDriveLetter last then path else path.take (path.length - last.length)

/-- A path without a slash at its end. The first slash stays, and one after a drive letter. -/
def dropSlash (path : Text) : Text :=
  match Text.dropTail? "/" path with
  | some inner =>
    if inner.contains '/' && !startsWithDrive (lastSegment inner ++ ['/']) then inner else path
  | none => path

def endWithSlash (path : Text) : Text := if path.getLast? = some '/' then path else path ++ ['/']

/-- Puts a segment at the end of a path; `slash` says whether a slash follows it. After the drive
letter of a file a slash is put in. -/
def addSegment (kind : SchemeKind) (path segment : Text) (slash : Bool) : Text :=
  let path :=
    if kind = .file && !segment.isEmpty && isNormalDriveLetter (path.drop 1) then path ++ ['/']
    else path
  let ending : Text := if slash then ['/'] else []
  if isDoubleDot segment then
    let above := shorten kind (dropSlash path)
    if slash then endWithSlash above else above
  else if isDot segment then endWithSlash path
  else if kind = .file && path.length = 1 && isDriveLetter segment then
    path ++ segment.take 1 ++ [':'] ++ ending
  else path ++ encode pathSet segment ++ ending

def addSegments (kind : SchemeKind) (path : Text) : List Text → Text
  | [] => path
  | segment :: rest => addSegments kind (addSegment kind path segment !rest.isEmpty) rest

/-! ### Text -/

/-- The path of a file begins with one slash only. -/
def normalPath (kind : SchemeKind) (path : Text) : Text :=
  if kind = .file then '/' :: path.dropWhile (· = '/') else path

def readPath (kind : SchemeKind) (above t : Text) : Text :=
  normalPath kind (addSegments kind above (t.splitOnP (isSlash kind)))

/-- The path that follows an authority. Only a scheme that is not special may have none. -/
def pathAfterAuthority (kind : SchemeKind) (t : Text) : Text :=
  match t with
  | [] => if kind = .other then [] else readPath kind "/" []
  | c :: rest => readPath kind "/" (if isSlash kind c then rest else t)

end RuleHints.Url
