import RuleHints.Proofs.Line.ProtocolRange

/-!
# Columns with every step checked

The ends of a word and the range of a protocol once more, found step by step. A step that is not
possible has no result: a character is read at a column that the line does not have, text is cut out
between columns that are not in order, bounds are in the wrong order, a sum is too large. Of this only
the last can happen, and only to a sum with an offset; otherwise the results are the same.
-/

namespace RuleHints.Line

/-! ### Steps -/

/-- The text between two columns of the line, in this order. -/
def cut? (line : Text) (start stop : Nat) : Option Text :=
  if start ≤ stop ∧ stop ≤ line.length then some (slice line start stop) else none

/-- A number moved between two bounds, the lower one first. -/
def clamp? (value low high : Nat) : Option Nat :=
  if low ≤ high then some (if value < low then low else if high < value then high else value)
  else none

/-- A column moved to the right, if the sum is not too large. -/
def shift? (column offset : Nat) : Option Nat :=
  if shiftOverflows column offset then none else some (shift column offset)

theorem cut?_eq {line : Text} {start stop : Nat} (hs : start ≤ stop) (hl : stop ≤ line.length) :
    cut? line start stop = some (slice line start stop) := if_pos ⟨hs, hl⟩

theorem clamp?_eq {low high : Nat} (value : Nat) (h : low ≤ high) :
    clamp? value low high = some (max low (min value high)) := by
  rw [clamp?, if_pos h]
  congr 1
  split
  · omega
  · split <;> omega

theorem shift_eq {column offset : Nat} (h : column + offset < UInt64.size) :
    shift column offset = column + offset := Nat.mod_eq_of_lt h

/-! ### The ends of a word -/

/-- Goes left over characters of a word. -/
def scanLeft? (t : Text) : Nat → Option Nat
  | 0 => some 0
  | column + 1 => do
    let c ← t[column]?
    if isWordChar c then scanLeft? t column else some (column + 1)

/-- Goes right over at most `n` characters of a word. -/
def scanRight? (t : Text) : Nat → Nat → Option Nat
  | 0, column => some column
  | n + 1, column => do
    let c ← t[column]?
    if isWordChar c then scanRight? t n (column + 1) else some column

def wordStart? (line : Text) (cursor : Nat) : Option Nat := scanLeft? line (min cursor line.length)

def wordEnd? (line : Text) (start : Nat) : Option Nat :=
  let limit := max ((commentStart? line).getD line.length) start
  scanRight? line (limit - start) start

theorem trailingWord_concat (t : Text) (c : Char) :
    trailingWord (t ++ [c]) = if isWordChar c then trailingWord t ++ [c] else [] := by
  rw [trailingWord, List.reverse_append]
  cases hc : isWordChar c <;> simp [trailingWord, hc]

theorem scanLeft?_eq {t : Text} {column : Nat} (h : column ≤ t.length) :
    scanLeft? t column = some (column - (trailingWord (t.take column)).length) := by
  induction column with
  | zero => rfl
  | succ column ih =>
    have hread : t[column]? = some t[column] := List.getElem?_eq_getElem h
    have htake : t.take (column + 1) = t.take column ++ [t[column]] := by
      rw [List.take_add_one, hread]
      rfl
    rw [scanLeft?, hread, htake, trailingWord_concat]
    cases hc : isWordChar t[column] with
    | true =>
      simp only [Option.bind_eq_bind, Option.bind_some, hc, if_true, List.length_append,
        List.length_singleton]
      rw [ih (Nat.le_of_succ_le h)]
      congr 1
      omega
    | false => simp [hc]

theorem scanRight?_eq {t : Text} {n column : Nat} (h : column + n ≤ t.length) :
    scanRight? t n column =
      some (column + (((t.drop column).take n).takeWhile isWordChar).length) := by
  induction n generalizing column with
  | zero => simp [scanRight?]
  | succ n ih =>
    have hlt : column < t.length := by omega
    have hread : t[column]? = some t[column] := List.getElem?_eq_getElem hlt
    rw [scanRight?, hread, List.drop_eq_getElem_cons hlt, List.take_succ_cons, List.takeWhile_cons]
    cases hc : isWordChar t[column] with
    | true =>
      have hnext : scanRight? t n (column + 1) =
          some (column + 1 + (((t.drop (column + 1)).take n).takeWhile isWordChar).length) :=
        ih (by omega)
      simp only [Option.bind_eq_bind, Option.bind_some, hc, if_true, List.length_cons]
      rw [hnext]
      congr 1
      omega
    | false => simp [hc]

theorem wordStart?_eq (line : Text) (cursor : Nat) :
    wordStart? line cursor = some (wordStart line cursor) := by
  have hle : min cursor line.length ≤ line.length := Nat.min_le_right ..
  rw [wordStart?, scanLeft?_eq hle, wordStart, ← List.take_eq_take_min]

/- The scan goes up to the comment or the end of the line, and not at all from behind it. -/
theorem wordEnd?_eq (line : Text) (start : Nat) :
    wordEnd? line start = some (wordEnd line start) := by
  have hlimit : (commentStart? line).getD line.length ≤ line.length := by
    rw [commentStart?, ← List.findIdx_eq_getD_findIdx?]
    exact List.findIdx_le_length
  rw [wordEnd?, wordEnd, List.drop_take]
  generalize (commentStart? line).getD line.length = limit at hlimit
  have hcount : max limit start - start = limit - start := by omega
  rw [hcount]
  by_cases hs : start ≤ limit
  · exact scanRight?_eq (by omega)
  · have hzero : limit - start = 0 := by omega
    simp [hzero, scanRight?]

/-! ### The range of a protocol -/

/-- Looks for a text that is not empty in the rest of the line. -/
def seek? (needle line : Text) (start : Nat) : Option (Option Nat) :=
  if needle.isEmpty then none
  else if line.length < start then some none
  else (cut? line start line.length).map fun rest => (Text.occursAt? needle rest).map (start + ·)

def protocolRange? (line : Text) (token : Token) (candidates : List Candidate) :
    Option (Nat × Nat) := do
  let stop ←
    match ← seek? protocolMark line token.start with
    | some column => do
      let protocol ← cut? line token.start (column + protocolMark.length)
      some (if protocol.any Text.isBlank || isRedirectTarget token.text protocol then token.stop
        else column + protocolMark.length)
    | none =>
      match ← seek? ":" line token.start with
      | some column => do
        let lead ← cut? line token.start (column + 1)
        some (if candidates.any (·.insertText == lead ++ "//") then skipSlashes line 2 (column + 1)
          else token.stop)
      | none => some token.stop
  some (token.start, max stop token.stop)

theorem seek?_eq {needle : Text} (hne : needle ≠ []) (line : Text) (start : Nat) :
    seek? needle line start = some (Text.occursFrom? needle line start) := by
  rw [seek?, if_neg (by simpa using hne), Text.occursFrom?]
  by_cases hs : start ≤ line.length
  · rw [if_neg (by omega), if_pos hs, cut?_eq hs (Nat.le_refl _), slice, List.take_length]
    rfl
  · rw [if_pos (by omega), if_neg hs]

theorem protocolRange?_eq (line : Text) (token : Token) (candidates : List Candidate) :
    protocolRange? line token candidates = some (protocolRange line token candidates) := by
  have hmarkSeek := seek?_eq (by decide : protocolMark ≠ []) line token.start
  have hcolonSeek := seek?_eq (by decide : (":" : Text) ≠ []) line token.start
  unfold protocolRange? protocolRange protocolStop?
  rw [hmarkSeek, hcolonSeek]
  cases hmark : Text.occursFrom? protocolMark line token.start with
  | some column =>
    have hbound := Text.occursFrom?_bound hmark
    have hcut := cut?_eq (Nat.le_trans hbound.1 (Nat.le_add_right ..)) hbound.2
    simp only [Option.bind_eq_bind, Option.bind_some, hcut]
    split <;> rfl
  | none =>
    cases hcolon : Text.occursFrom? ":" line token.start with
    | some column =>
      have hbound := Text.occursFrom?_bound hcolon
      have hlength : column + 1 ≤ line.length := hbound.2
      have hcut := cut?_eq (Nat.le_trans hbound.1 (Nat.le_add_right column 1)) hlength
      simp only [Option.bind_eq_bind, Option.bind_some, hcut]
      split <;> rfl
    | none => rfl

end RuleHints.Line
