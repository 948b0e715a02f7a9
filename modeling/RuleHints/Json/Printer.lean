import RuleHints.Json.Basic

/-!
# Writing data

`Json.render` writes a value on one line. Quotes, backslashes, control characters and the characters
that some readers take for the end of a line are escaped; all others stand for themselves.
-/

namespace RuleHints.Json

def hex4 (n : Nat) : Text :=
  let digits := Nat.toDigits 16 n
  List.replicate (4 - digits.length) '0' ++ digits

def mayEndLine (c : Char) : Bool := c.toNat < 0x20 || [0x7F, 0x85, 0x2028, 0x2029].contains c.toNat

def escape (c : Char) : Text :=
  if c = '"' then "\\\"" else if c = '\\' then "\\\\"
  else if mayEndLine c then "\\u" ++ hex4 c.toNat
  else [c]

def quote (t : Text) : Text := '"' :: t.flatMap escape ++ ['"']

/-- The float of a decimal, with an explicit exponent, so that it reads back as a decimal. -/
def renderDecimal (d : Decimal) : Text :=
  let (digits, exponent) := d.magnitude.toDigits
  let exponent : Text := match exponent with
    | .ofNat k => Text.ofNat k
    | .negSucc k => '-' :: Text.ofNat (k + 1)
  (if d.negative then ['-'] else []) ++ Text.ofNat digits ++ 'e' :: exponent

def renderNumber : Number → Text
  | .natural n => Text.ofNat n
  | .negative n => '-' :: Text.ofNat n
  | .decimal d => renderDecimal d

mutual

def render : Json → Text
  | .null => "null"
  | .bool true => "true"
  | .bool false => "false"
  | .number n => renderNumber n
  | .string t => quote t
  | .array [] => "[]"
  | .array (v :: rest) => '[' :: render v ++ renderItems rest
  | .object [] => "\x7b\x7d"
  | .object ((k, v) :: rest) => '{' :: quote k ++ ':' :: render v ++ renderFields rest

def renderItems : List Json → Text
  | [] => "]"
  | v :: rest => ',' :: render v ++ renderItems rest

def renderFields : List (Text × Json) → Text
  | [] => "\x7d"
  | (k, v) :: rest => ',' :: quote k ++ ':' :: render v ++ renderFields rest

end

end RuleHints.Json
