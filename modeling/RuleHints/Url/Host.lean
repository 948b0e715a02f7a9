import RuleHints.Url.Address
import RuleHints.Url.Name

/-!
# Hosts

The host of an address with a special scheme is a name or a numeric address; names are kept in
their usual form. The host of any other address is taken as it is, apart from a few characters that
it must not hold.
-/

namespace RuleHints.Url

inductive Problem where
  | emptyHost
  | internationalName
  | portNumber
  | ipv4
  | ipv6
  | domainCharacter
  | noBase
  | plainBase
  deriving DecidableEq, Repr

namespace Problem

def message : Problem → Text
  | .emptyHost => "empty host"
  | .internationalName => "invalid international domain name"
  | .portNumber => "invalid port number"
  | .ipv4 => "invalid IPv4 address"
  | .ipv6 => "invalid IPv6 address"
  | .domainCharacter => "invalid domain character"
  | .noBase => "relative URL without a base"
  | .plainBase => "relative URL with a cannot-be-a-base base"

end Problem

inductive Host where
  | domain (name : Text)
  | ipv4 (address : Nat)
  | ipv6 (groups : List Nat)
  deriving DecidableEq, Repr

namespace Host

def isEmpty : Host → Bool
  | .domain name => name.isEmpty
  | _ => false

def toText : Host → Text
  | .domain name => name
  | .ipv4 address => ipv4Text address
  | .ipv6 groups => ['['] ++ ipv6Text groups ++ [']']

def bracketed (t : Text) : Except Problem Host :=
  match (Text.dropTail? "]" (t.drop 1)).bind ipv6? with
  | some groups => .ok (.ipv6 groups)
  | none => .error .ipv6

def deniedInHost (c : Char) : Bool :=
  c.toNat = 0 || ("\t\n\r #/:<>?@[\\]^|" : Text).contains c

def ofDomain (t : Text) : Except Problem Host :=
  if t.head? = some '[' then bracketed t
  else
    match (Text.utf8Decode? (decodeBytes t)).bind Name.toAscii? with
    | none => .error .internationalName
    | some name =>
      if name.isEmpty then .error .emptyHost
      else if endsInNumber name then
        match ipv4? name with
        | some address => .ok (.ipv4 address)
        | none => .error .ipv4
      else .ok (.domain name)

def ofPlain (t : Text) : Except Problem Host :=
  if t.head? = some '[' then bracketed t
  else if t.any deniedInHost then .error .domainCharacter
  else .ok (.domain (encode controls t))

end Host

end RuleHints.Url
