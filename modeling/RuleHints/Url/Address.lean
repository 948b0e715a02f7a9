import RuleHints.Text.Basic

/-!
# Numeric addresses

An IPv4 address is written with at most four numbers, each decimal, octal or hexadecimal, and the
last one fills the bytes that are left. An IPv6 address is eight groups of hexadecimal digits,
where `::` stands for groups of zeros and the last two groups may be written as an IPv4 address.
-/

namespace RuleHints.Url

def ipv4Number? (t : Text) : Option Nat :=
  match t with
  | '0' :: 'x' :: digits | '0' :: 'X' :: digits => Text.digits? 16 0 digits
  | '0' :: digit :: digits => Text.digits? 8 0 (digit :: digits)
  | _ => Text.natural? 10 t

/-- The parts of a dotted name; a dot at the end does not count. -/
def dottedParts (t : Text) : List Text :=
  let parts := t.splitOn '.'
  if parts.length > 1 && parts.getLast? == some [] then parts.dropLast else parts

/-- A name that can only be an IPv4 address: its last part is a number. -/
def endsInNumber (t : Text) : Bool :=
  match (dottedParts t).getLast? with
  | some last => (!last.isEmpty && last.all Text.isAsciiDigit) || (ipv4Number? last).isSome
  | none => false

def ipv4? (t : Text) : Option Nat := do
  let parts := dottedParts t
  if parts.length > 4 then none
  let numbers ← parts.mapM ipv4Number?
  let last ← numbers.getLast?
  let first := numbers.dropLast
  if first.any (· > 255) || last ≥ Nat.pow 256 (4 - first.length) then none
  return first.zipIdx.foldl (fun n part => n + part.1 * Nat.pow 256 (3 - part.2)) last

def ipv4Text (n : Nat) : Text :=
  List.intercalate "." ([3, 2, 1, 0].map fun place => Text.ofNat (n / Nat.pow 256 place % 256))

def byte? (t : Text) : Option Nat :=
  if t.length > 1 && t.head? = some '0' then none else (Text.natural? 10 t).filter (· < 256)

/-- One group of an IPv6 address, or two if it is written as an IPv4 address. -/
def ipv6Group? (isLast : Bool) (t : Text) : Option (List Nat) :=
  if isLast && t.contains '.' then do
    match ← (t.splitOn '.').mapM byte? with
    | [a, b, c, d] => some [a * 256 + b, c * 256 + d]
    | _ => none
  else if t.length > 4 then none
  else (Text.natural? 16 t).map ([·])

def ipv6Groups? (atEnd : Bool) (t : Text) : Option (List Nat) :=
  if t.isEmpty then some []
  else
    let groups := t.splitOn ':'
    let last := groups.length - 1
    (groups.zipIdx.mapM fun group => ipv6Group? (atEnd && group.2 = last) group.1).map List.flatten

def ipv6? (t : Text) : Option (List Nat) :=
  match Text.occursAt? "::" t with
  | some i => do
    let left ← ipv6Groups? false (t.take i)
    let right ← ipv6Groups? true (t.drop (i + 2))
    let given := left.length + right.length
    if given > 7 then none else some (left ++ List.replicate (8 - given) 0 ++ right)
  | none => (ipv6Groups? true t).filter (·.length = 8)

/-- The start and the length of the first longest run of at least two zeros. -/
def zeroRun? (groups : List Nat) : Option (Nat × Nat) :=
  let runs := (List.range groups.length).map fun i =>
    (i, ((groups.drop i).takeWhile (· = 0)).length)
  runs.foldl (fun best run =>
    if run.2 ≥ 2 && (best.map (·.2)).getD 0 < run.2 then some run else best) none

def ipv6Text (groups : List Nat) : Text :=
  let write (part : List Nat) : Text := List.intercalate ":" (part.map (Nat.toDigits 16))
  match zeroRun? groups with
  | some (start, length) =>
    write (groups.take start) ++ "::" ++ write (groups.drop (start + length))
  | none => write groups

end RuleHints.Url
