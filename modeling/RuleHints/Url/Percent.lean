import RuleHints.Text.Utf8

/-!
# Percent encoding

A byte is written as `%` and two hexadecimal digits. Each part of an address has its own set of
ASCII characters that are encoded; all other characters are encoded in every part.
-/

namespace RuleHints.Url

abbrev EncodeSet := Char → Bool

def controls : EncodeSet := fun c => c.toNat < 0x20 || c.toNat = 0x7F

def fragmentSet : EncodeSet := fun c => controls c || (" \"<>`" : Text).contains c

def querySet : EncodeSet := fun c => controls c || (" \"#<>" : Text).contains c

def specialQuerySet : EncodeSet := fun c => querySet c || c = '\''

def pathSet : EncodeSet := fun c => fragmentSet c || ("#?\x7b\x7d" : Text).contains c

def userSet : EncodeSet := fun c => pathSet c || ("/:;=@[\\]^|" : Text).contains c

/-- What is encoded in a parameter, where a space becomes a plus. -/
def parameterSet : EncodeSet := fun c =>
  !(Text.isAsciiLetter c || Text.isAsciiDigit c || ("*-._" : Text).contains c)

def hexDigit (n : Nat) : Char := if n < 10 then Char.ofNat (48 + n) else Char.ofNat (55 + n)

def encodeByte (b : UInt8) : Text := ['%', hexDigit (b.toNat / 16), hexDigit (b.toNat % 16)]

def encode (set : EncodeSet) (t : Text) : Text :=
  t.flatMap fun c =>
    if c.toNat < 0x80 && !set c then [c] else (String.utf8EncodeChar c).flatMap encodeByte

def decodeBytes : Text → List UInt8
  | [] => []
  | '%' :: a :: b :: t =>
    match Text.digitValue? 16 a, Text.digitValue? 16 b with
    | some x, some y => UInt8.ofNat (x * 16 + y) :: decodeBytes t
    | _, _ => 0x25 :: decodeBytes (a :: b :: t)
  | c :: t => String.utf8EncodeChar c ++ decodeBytes t

def encodeParameter (t : Text) : Text :=
  t.flatMap fun c => if c = ' ' then ['+'] else encode parameterSet [c]

end RuleHints.Url
