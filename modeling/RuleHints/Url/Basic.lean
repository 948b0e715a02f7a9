import RuleHints.Url.Host

/-!
# Addresses

An address has a scheme, perhaps an authority, a path, and perhaps a query and a fragment. All parts
are kept as they are written, with percent encoding. An address is plain if it has neither an
authority nor a slash at the start of its path; nothing can be below it.
-/

namespace RuleHints

structure Url.Authority where
  user : Text := []
  password : Text := []
  host : Url.Host
  /-- The number after the host, unless it is the usual one of the scheme. -/
  portNumber : Option Nat := none
  deriving DecidableEq, Repr

structure Url where
  scheme : Text
  authority : Option Url.Authority := none
  path : Text
  query : Option Text := none
  fragment : Option Text := none
  deriving DecidableEq, Repr

namespace Url

/-! ### Schemes -/

inductive SchemeKind where
  | file
  | special
  | other
  deriving DecidableEq, Repr

def usualPortNumber? (scheme : Text) : Option Nat :=
  if scheme = "http" || scheme = "ws" then some 80
  else if scheme = "https" || scheme = "wss" then some 443
  else if scheme = "ftp" then some 21
  else none

def kindOf (scheme : Text) : SchemeKind :=
  if scheme = "file" then .file
  else if (usualPortNumber? scheme).isSome then .special
  else .other

/-! ### Text -/

def Authority.toText (authority : Authority) : Text :=
  let password := if authority.password.isEmpty then [] else ':' :: authority.password
  let user := authority.user ++ password
  let number := (authority.portNumber.map fun number => ':' :: Text.ofNat number).getD []
  (if user.isEmpty then [] else user ++ ['@']) ++ authority.host.toText ++ number

/-- Nothing can be below the address. -/
def isPlain (url : Url) : Bool := url.authority.isNone && !Text.startsWith "/" url.path

/-- The text of an address. A path that would read as an authority is set off by `/.`. -/
def toText (url : Url) : Text :=
  let place : Text :=
    match url.authority with
    | some authority => "//" ++ authority.toText
    | none => if Text.startsWith "//" url.path then "/." else []
  url.scheme ++ [':'] ++ place ++ url.path ++ (url.query.map ('?' :: ·)).getD [] ++
    (url.fragment.map ('#' :: ·)).getD []

def requestTarget (url : Url) : Text := url.path ++ (url.query.map ('?' :: ·)).getD []

/-! ### Parameters -/

def addParameter (url : Url) (parameter : Text × Text) : Url :=
  let pair := encodeParameter parameter.1 ++ ['='] ++ encodeParameter parameter.2
  let query := url.query.getD []
  { url with query := some (if query.isEmpty then pair else query ++ ['&'] ++ pair) }

end Url

end RuleHints
