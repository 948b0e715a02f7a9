import RuleHints.Text.Utf8

/-!
# Tags

A tag says of what type a node is. It is an address and is compared byte by byte: escapes in it need
not be the shortest form of a character, nor a character at all, so a tag is a list of bytes. A zero
byte ends a tag.
-/

namespace RuleHints.Yaml

abbrev Tag := List UInt8

namespace Tag

def ofText (t : Text) : Tag := Text.utf8Encode t

def unspecific : Tag := ofText "!"

def core (name : Text) : Tag := ofText ("tag:yaml.org,2002:" ++ name)

def isMarked (tag : Tag) : Bool := tag.head? == some 0x21

/-- The tag is one of the document's own: it begins with `!`, and the rest is text. -/
def isLocal (tag : Tag) : Bool := tag.isMarked && (Text.utf8Decode? tag).isSome

/-! ### Escapes -/

def following? (first : Nat) : Option Nat :=
  if first < 0x80 then some 0
  else if first < 0xC0 then none
  else if first < 0xE0 then some 1
  else if first < 0xF0 then some 2
  else if first < 0xF8 then some 3
  else none

/-- Reads the bytes of an address in which `%` and two digits stand for a byte. `left` escaped bytes
have to follow. -/
def bytes? (left : Nat) : Text → Option (List UInt8)
  | [] => if left = 0 then some [] else none
  | '%' :: a :: b :: t => do
    let byte := (← Text.digitValue? 16 a) * 16 + (← Text.digitValue? 16 b)
    match left with
    | 0 => return UInt8.ofNat byte :: (← bytes? (← following? byte) t)
    | left + 1 =>
      if 0x80 ≤ byte ∧ byte < 0xC0 then return UInt8.ofNat byte :: (← bytes? left t) else none
  | c :: t =>
    if c = '%' ∨ left ≠ 0 then none
    else do return String.utf8EncodeChar c ++ (← bytes? 0 t)

def unescape? (t : Text) : Option Tag := (bytes? 0 t).map fun bytes => bytes.takeWhile (· != 0)

end Tag

end RuleHints.Yaml
