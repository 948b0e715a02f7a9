import RuleHints.Json.Printer
import RuleHints.Json.Source
import RuleHints.Proofs.Text.Digits

/-!
# Printed data is read back

A value that is written on one line is read as the tree of that value. The scan of the line is followed
lexeme by lexeme: `lexemes` says what a value is cut into, a string comes back through its escapes, and
a number ends where a comma, a bracket or the line ends. The tree is then built from the lexemes with
the stack of what is open around the value.

A decimal is written as the float it stands for, so this is said of values whose numbers are naturals of
64 bits.
-/

namespace RuleHints

namespace Json

/-- A natural number of 64 bits is read from its digits. -/
theorem number?_ofNat {n : Nat} (h : n ≤ natural64Max) : number? (Text.ofNat n) = some (.natural n) := by
  have hdigits : ∀ c ∈ Text.ofNat n, Text.isAsciiDigit c = true := fun c => Text.isAsciiDigit_of_mem_ofNat
  have htake : (Text.ofNat n ++ []).takeWhile Text.isAsciiDigit = Text.ofNat n ++ [] :=
    List.takeWhile_append_of_pos hdigits
  have hdrop : (Text.ofNat n ++ []).dropWhile Text.isAsciiDigit = [] :=
    List.dropWhile_append_of_pos hdigits
  rw [List.append_nil] at htake hdrop
  have hnonempty : (Text.ofNat n).isEmpty = false := by simp [Text.ofNat_ne_nil]
  have hlead : ((Text.ofNat n).length > 1 && (Text.ofNat n).head? == some '0') = false := by
    by_cases hsmall : n < 10
    · rw [Text.ofNat, Nat.toDigits_of_lt_base hsmall]
      rfl
    · simp [Text.head?_ofNat (Nat.le_of_not_lt hsmall)]
  have hunsigned : number? (Text.ofNat n) = unsigned? false (Text.ofNat n) := by
    rw [number?]
    intro t ht
    exact absurd (hdigits '-' (ht ▸ List.mem_cons_self)) (by decide)
  simp [hunsigned, unsigned?, htake, hdrop, hnonempty, hlead, Text.natural?_ofNat, h]

/-! ### Strings -/

/- A character is never a surrogate. -/
theorem joinSurrogates?_toNat (t : Text) : joinSurrogates? (t.map Char.toNat) = some t := by
  induction t with
  | nil => rfl
  | cons c t ih =>
    have hvalid : c.toNat < 0xD800 ∨ 0xDFFF < c.toNat ∧ c.toNat < 0x110000 := c.valid
    have hhigh : ¬ (0xD800 ≤ c.toNat ∧ c.toNat < 0xDC00) := by omega
    have hlow : ¬ (0xDC00 ≤ c.toNat ∧ c.toNat < 0xE000) := by omega
    rw [List.map_cons, joinSurrogates?.eq_def]
    simp only [if_neg hhigh, if_neg hlow, ih, Option.map_some, Char.ofNat_toNat]

/- The escapes that a printed string may hold. -/
theorem hex4_of_mayEndLine {c : Char} (h : mayEndLine c = true) :
    (hex4 c.toNat).length = 4 ∧ Text.digits? 16 0 (hex4 c.toNat) = some c.toNat := by
  have hcontrol : ∀ n < 0x20, (hex4 n).length = 4 ∧ Text.digits? 16 0 (hex4 n) = some n := by decide
  have hother : ∀ n ∈ [0x7F, 0x85, 0x2028, 0x2029],
      (hex4 n).length = 4 ∧ Text.digits? 16 0 (hex4 n) = some n := by decide
  rw [mayEndLine, Bool.or_eq_true, decide_eq_true_iff, List.contains_iff_mem] at h
  exact h.elim (hcontrol _) (hother _)

namespace Lexeme

/-! ### The scan, character by character -/

theorem scanFrom?_cons {mode next : Mode} {c : Char} {found : List Lexeme}
    (h : step? mode c = some (found, next)) (rest : Text) :
    scanFrom? mode (c :: rest) = (scanFrom? next rest).map (found ++ ·) := by
  simp only [scanFrom?, h, Option.bind_eq_bind, Option.bind_some]
  cases scanFrom? next rest <;> rfl

theorem scanFrom?_cons_silent {mode next : Mode} {c : Char} (h : step? mode c = some ([], next))
    (rest : Text) : scanFrom? mode (c :: rest) = scanFrom? next rest := by
  rw [scanFrom?_cons h]
  cases scanFrom? next rest <;> rfl

/-- What follows a value on a printed line. -/
def Follows (rest : Text) : Prop := ∀ c ∈ rest.head?, c = ',' ∨ c = ']' ∨ c = '}'

theorem Follows.nil : Follows [] := by simp [Follows]

/- A word or a number ends before what follows a value. -/
theorem scanFrom?_of_finish? {mode : Mode} {ended : List Lexeme} {rest : Text}
    (hfinish : finish? mode = some ended) (hrest : Follows rest)
    (hleave : ∀ c, c = ',' ∨ c = ']' ∨ c = '}' → step? mode c = step?.leave? mode c) :
    scanFrom? mode rest = (scanFrom? .between rest).map (ended ++ ·) := by
  cases rest with
  | nil =>
    have hbetween : finish? .between = some [] := rfl
    rw [scanFrom?, scanFrom?, hfinish, hbetween, Option.map_some, List.append_nil]
  | cons c rest =>
    have hc := hrest c rfl
    obtain ⟨found, hfound⟩ : ∃ found, start? c = some (found, .between) := by
      rcases hc with rfl | rfl | rfl <;> exact ⟨_, rfl⟩
    have hmode : step? mode c = some (ended ++ found, .between) := by
      simp [hleave c hc, step?.leave?, hfinish, hfound]
    have hbetween : step? .between c = some (found, .between) := hfound
    rw [scanFrom?_cons hmode, scanFrom?_cons hbetween, Option.map_map]
    simp [Function.comp_def]

/- What the scan is inside of grows by each character of a run. -/
theorem scanFrom?_run {mode : Text → Mode} {t : Text}
    (h : ∀ c ∈ t, ∀ seen, step? (mode seen) c = some ([], mode (c :: seen))) (seen rest : Text) :
    scanFrom? (mode seen) (t ++ rest) = scanFrom? (mode (t.reverse ++ seen)) rest := by
  induction t generalizing seen with
  | nil => rfl
  | cons c t ih =>
    rw [List.cons_append, scanFrom?_cons_silent (h c List.mem_cons_self seen),
      ih fun d hd => h d (List.mem_cons_of_mem c hd)]
    simp

theorem scanFrom?_word {c : Char} {t rest : Text} {lexeme : Lexeme}
    (hstart : start? c = some ([], .word [c])) (hletters : t.all Text.isAsciiLetter = true)
    (hword : word? (c :: t) = some lexeme) (hrest : Follows rest) :
    scanFrom? .between (c :: t ++ rest) = (scanFrom? .between rest).map (lexeme :: ·) := by
  have hstep : step? .between c = some ([], .word [c]) := hstart
  have hrun : ∀ d ∈ t, ∀ seen, step? (.word seen) d = some ([], .word (d :: seen)) :=
    fun d hd seen => if_pos (List.all_eq_true.1 hletters d hd)
  have hfinish : finish? (.word (t.reverse ++ [c])) = some [lexeme] := by simp [finish?, hword]
  rw [List.cons_append, scanFrom?_cons_silent hstep, scanFrom?_run hrun]
  refine scanFrom?_of_finish? hfinish hrest ?_
  rintro d (rfl | rfl | rfl) <;> rfl

theorem start?_digit {c : Char} (h : Text.isAsciiDigit c = true) : start? c = some ([], .number [c]) := by
  have hne : ∀ d, Text.isAsciiDigit d = false → c ≠ d := by
    rintro d hd rfl
    exact absurd (h.symm.trans hd) (by decide)
  have hblank : ¬ (c = ' ' ∨ c = '\t' ∨ c = '\n' ∨ c = '\r') := by
    rintro (rfl | rfl | rfl | rfl) <;> exact absurd h (by decide)
  rw [start?, if_neg hblank, if_neg (hne '[' rfl), if_neg (hne ']' rfl), if_neg (hne '{' rfl),
    if_neg (hne '}' rfl), if_neg (hne ',' rfl), if_neg (hne ':' rfl), if_neg (hne '"' rfl),
    if_pos (Or.inr h)]

theorem scanFrom?_ofNat {n : Nat} (h : n ≤ natural64Max) {rest : Text} (hrest : Follows rest) :
    scanFrom? .between (Text.ofNat n ++ rest)
      = (scanFrom? .between rest).map (.number (.natural n) :: ·) := by
  have hdigits : ∀ c ∈ Text.ofNat n, Text.isAsciiDigit c = true := fun c => Text.isAsciiDigit_of_mem_ofNat
  have hnumber := number?_ofNat h
  cases htext : Text.ofNat n with
  | nil => exact absurd htext (Text.ofNat_ne_nil n)
  | cons c t =>
    rw [htext] at hdigits hnumber
    have hstart : step? .between c = some ([], .number [c]) := start?_digit (hdigits c List.mem_cons_self)
    have hrun : ∀ d ∈ t, ∀ seen, step? (.number seen) d = some ([], .number (d :: seen)) := by
      intro d hd seen
      simp [step?, isNumberChar, hdigits d (List.mem_cons_of_mem c hd)]
    have hfinish : finish? (.number (t.reverse ++ [c])) = some [.number (.natural n)] := by
      simp [finish?, hnumber]
    rw [List.cons_append, scanFrom?_cons_silent hstart, scanFrom?_run hrun]
    refine scanFrom?_of_finish? hfinish hrest ?_
    rintro d (rfl | rfl | rfl) <;> rfl

/-! ### The scan of a string -/

/- The digits of an escape give the character they write. -/
theorem scanFrom?_hex {t : Text} {value n : Nat} (hne : t ≠ []) (h : Text.digits? 16 value t = some n)
    (seen : List Nat) (rest : Text) :
    scanFrom? (.hex seen t.length value) (t ++ rest) = scanFrom? (.quoted (n :: seen)) rest := by
  induction t generalizing value with
  | nil => exact absurd rfl hne
  | cons c t ih =>
    rw [Text.digits?] at h
    obtain ⟨digit, hdigit, h⟩ := Option.bind_eq_some_iff.1 h
    rw [List.cons_append]
    cases t with
    | nil =>
      obtain rfl : value * 16 + digit = n := by simpa [Text.digits?] using h
      exact scanFrom?_cons_silent (by simp [step?, hdigit]) rest
    | cons d t =>
      have hstep : step? (.hex seen (c :: d :: t).length value) c
          = some ([], .hex seen (d :: t).length (value * 16 + digit)) := by simp [step?, hdigit]
      rw [scanFrom?_cons_silent hstep]
      exact ih (List.cons_ne_nil d t) h

/-- The scan takes the escape of a character for the character. -/
theorem scanFrom?_escape (c : Char) (seen : List Nat) (rest : Text) :
    scanFrom? (.quoted seen) (escape c ++ rest) = scanFrom? (.quoted (c.toNat :: seen)) rest := by
  have hbackslash : step? (.quoted seen) '\\' = some ([], .escaped seen) := rfl
  have hhex : step? (.escaped seen) 'u' = some ([], .hex seen 4 0) := rfl
  rw [escape]
  split
  · next hquote =>
    subst hquote
    exact (scanFrom?_cons_silent hbackslash _).trans (scanFrom?_cons_silent rfl rest)
  · next hquote =>
    split
    · next hslash =>
      subst hslash
      exact (scanFrom?_cons_silent hbackslash _).trans (scanFrom?_cons_silent rfl rest)
    · next hslash =>
      split
      · next hend =>
        obtain ⟨hlength, hvalue⟩ := hex4_of_mayEndLine hend
        have hdigits := scanFrom?_hex (List.length_pos_iff.1 (by omega)) hvalue seen rest
        rw [hlength] at hdigits
        exact (scanFrom?_cons_silent hbackslash _).trans ((scanFrom?_cons_silent hhex _).trans hdigits)
      · next hend =>
        have hcontrol : ¬ c.toNat < 0x20 := by
          intro hsmall
          exact hend (by simp [mayEndLine, hsmall])
        exact scanFrom?_cons_silent (by simp [step?, hquote, hslash, hcontrol]) rest

theorem scanFrom?_escapes (t : Text) (seen : List Nat) (rest : Text) :
    scanFrom? (.quoted seen) (t.flatMap escape ++ rest)
      = scanFrom? (.quoted ((t.map Char.toNat).reverse ++ seen)) rest := by
  induction t generalizing seen with
  | nil => rfl
  | cons c t ih =>
    rw [List.flatMap_cons, List.append_assoc, scanFrom?_escape, ih]
    simp

theorem scanFrom?_quote (t rest : Text) :
    scanFrom? .between (quote t ++ rest) = (scanFrom? .between rest).map (.string (some t) :: ·) := by
  have hclose : step? (.quoted ((t.map Char.toNat).reverse ++ [])) '"'
      = some ([.string (some t)], .between) := by
    simp [step?, joinSurrogates?_toNat]
  have hopen : step? .between '"' = some ([], .quoted []) := rfl
  have hline : quote t ++ rest = '"' :: (t.flatMap escape ++ ('"' :: rest)) := by simp [quote]
  rw [hline, scanFrom?_cons_silent hopen, scanFrom?_escapes, scanFrom?_cons hclose]
  rfl

end Lexeme

/-! ### Trees -/

mutual

/-- The tree of a value. -/
def source : Json → Source
  | .null => .null
  | .bool b => .bool b
  | .number n => .number n
  | .string t => .string (some t)
  | .array items => .array (sources items)
  | .object fields => .object (fieldSources fields)

/-- The trees of the members of an array. -/
def sources : List Json → List Source
  | [] => []
  | j :: rest => source j :: sources rest

/-- The names and the trees of the fields of an object. -/
def fieldSources : List (Text × Json) → List (Option Text × Source)
  | [] => []
  | (name, j) :: rest => (some name, source j) :: fieldSources rest

end

theorem sources_eq_map (items : List Json) : sources items = items.map source := by
  induction items with
  | nil => rfl
  | cons j items ih => rw [sources, ih, List.map_cons]

theorem fieldSources_eq_map (fields : List (Text × Json)) :
    fieldSources fields = fields.map fun field => (some field.1, source field.2) := by
  induction fields with
  | nil => rfl
  | cons field fields ih => rw [fieldSources, ih, List.map_cons]

mutual

/-- The lexemes into which a value is cut. -/
def lexemes : Json → List Lexeme
  | .null => [.null]
  | .bool b => [.bool b]
  | .number n => [.number n]
  | .string t => [.string (some t)]
  | .array [] => [.leftBracket, .rightBracket]
  | .array (j :: rest) => .leftBracket :: lexemes j ++ itemLexemes rest
  | .object [] => [.leftBrace, .rightBrace]
  | .object ((name, j) :: rest) =>
    .leftBrace :: .string (some name) :: .colon :: lexemes j ++ fieldLexemes rest

/-- The members after the first, with the closing bracket. -/
def itemLexemes : List Json → List Lexeme
  | [] => [.rightBracket]
  | j :: rest => .comma :: lexemes j ++ itemLexemes rest

/-- The fields after the first, with the closing brace. -/
def fieldLexemes : List (Text × Json) → List Lexeme
  | [] => [.rightBrace]
  | (name, j) :: rest => .comma :: .string (some name) :: .colon :: lexemes j ++ fieldLexemes rest

end

/-- A value whose numbers are naturals of 64 bits. -/
inductive Exact : Json → Prop where
  | null : Exact .null
  | bool (b : Bool) : Exact (.bool b)
  | natural {n : Nat} (h : n ≤ natural64Max) : Exact (.number (.natural n))
  | string (t : Text) : Exact (.string t)
  | array {items : List Json} (h : ∀ j ∈ items, Exact j) : Exact (.array items)
  | object {fields : List (Text × Json)} (h : ∀ field ∈ fields, Exact field.2) : Exact (.object fields)

/-! ### The scan of a line -/

/-- The scan cuts a value into its lexemes, whatever follows it. -/
def Scanned (j : Json) : Prop :=
  ∀ rest, Lexeme.Follows rest →
    Lexeme.scanFrom? .between (render j ++ rest)
      = (Lexeme.scanFrom? .between rest).map (lexemes j ++ ·)

theorem follows_renderItems (items : List Json) (rest : Text) :
    Lexeme.Follows (renderItems items ++ rest) := by
  cases items <;> simp [renderItems, Lexeme.Follows]

theorem follows_renderFields (fields : List (Text × Json)) (rest : Text) :
    Lexeme.Follows (renderFields fields ++ rest) := by
  rcases fields with _ | ⟨⟨name, j⟩, fields⟩ <;> simp [renderFields, Lexeme.Follows]

theorem scanFrom?_renderItems {items : List Json} (h : ∀ j ∈ items, Scanned j) (rest : Text) :
    Lexeme.scanFrom? .between (renderItems items ++ rest)
      = (Lexeme.scanFrom? .between rest).map (itemLexemes items ++ ·) := by
  induction items with
  | nil => exact Lexeme.scanFrom?_cons rfl rest
  | cons j items ih =>
    have hline : renderItems (j :: items) ++ rest = ',' :: (render j ++ (renderItems items ++ rest)) := by
      simp [renderItems]
    have hcomma : Lexeme.step? .between ',' = some ([.comma], .between) := rfl
    rw [hline, Lexeme.scanFrom?_cons hcomma, h j List.mem_cons_self _ (follows_renderItems items rest),
      ih fun k hk => h k (List.mem_cons_of_mem j hk)]
    simp [itemLexemes, Function.comp_def]

theorem scanFrom?_renderFields {fields : List (Text × Json)} (h : ∀ field ∈ fields, Scanned field.2)
    (rest : Text) :
    Lexeme.scanFrom? .between (renderFields fields ++ rest)
      = (Lexeme.scanFrom? .between rest).map (fieldLexemes fields ++ ·) := by
  induction fields with
  | nil => exact Lexeme.scanFrom?_cons rfl rest
  | cons field fields ih =>
    obtain ⟨name, j⟩ := field
    have hline : renderFields ((name, j) :: fields) ++ rest
        = ',' :: (quote name ++ (':' :: (render j ++ (renderFields fields ++ rest)))) := by
      simp [renderFields]
    have hcomma : Lexeme.step? .between ',' = some ([.comma], .between) := rfl
    have hcolon : Lexeme.step? .between ':' = some ([.colon], .between) := rfl
    rw [hline, Lexeme.scanFrom?_cons hcomma, Lexeme.scanFrom?_quote, Lexeme.scanFrom?_cons hcolon,
      h (name, j) List.mem_cons_self _ (follows_renderFields fields rest),
      ih fun f hf => h f (List.mem_cons_of_mem (name, j) hf)]
    simp [fieldLexemes, Function.comp_def]

/-- The scan of a printed line gives the lexemes of the value. -/
theorem Exact.scanned {j : Json} (h : j.Exact) : Scanned j := by
  induction h with
  | null => exact fun rest => Lexeme.scanFrom?_word rfl rfl rfl
  | bool b =>
    cases b with
    | true => exact fun rest => Lexeme.scanFrom?_word rfl rfl rfl
    | false => exact fun rest => Lexeme.scanFrom?_word rfl rfl rfl
  | natural h => exact fun rest => Lexeme.scanFrom?_ofNat h
  | string t => exact fun rest _ => Lexeme.scanFrom?_quote t rest
  | @array items _ ih =>
    intro rest _
    have hopen : Lexeme.step? .between '[' = some ([.leftBracket], .between) := rfl
    cases items with
    | nil =>
      have hclose : Lexeme.step? .between ']' = some ([.rightBracket], .between) := rfl
      have hline : render (.array []) ++ rest = '[' :: ']' :: rest := rfl
      rw [hline, Lexeme.scanFrom?_cons hopen, Lexeme.scanFrom?_cons hclose]
      simp [lexemes, Function.comp_def]
    | cons j items =>
      have hrender : render (.array (j :: items)) = '[' :: render j ++ renderItems items := rfl
      have hline : render (.array (j :: items)) ++ rest
          = '[' :: (render j ++ (renderItems items ++ rest)) := by
        simp [hrender]
      rw [hline, Lexeme.scanFrom?_cons hopen, ih j List.mem_cons_self _ (follows_renderItems items rest),
        scanFrom?_renderItems fun k hk => ih k (List.mem_cons_of_mem j hk)]
      simp [lexemes, Function.comp_def]
  | @object fields _ ih =>
    intro rest _
    have hopen : Lexeme.step? .between '{' = some ([.leftBrace], .between) := rfl
    cases fields with
    | nil =>
      have hclose : Lexeme.step? .between '}' = some ([.rightBrace], .between) := rfl
      have hline : render (.object []) ++ rest = '{' :: '}' :: rest := rfl
      rw [hline, Lexeme.scanFrom?_cons hopen, Lexeme.scanFrom?_cons hclose]
      simp [lexemes, Function.comp_def]
    | cons field fields =>
      obtain ⟨name, j⟩ := field
      have hrender : render (.object ((name, j) :: fields))
          = '{' :: quote name ++ ':' :: render j ++ renderFields fields := rfl
      have hline : render (.object ((name, j) :: fields)) ++ rest
          = '{' :: (quote name ++ (':' :: (render j ++ (renderFields fields ++ rest)))) := by
        simp [hrender]
      have hcolon : Lexeme.step? .between ':' = some ([.colon], .between) := rfl
      rw [hline, Lexeme.scanFrom?_cons hopen, Lexeme.scanFrom?_quote, Lexeme.scanFrom?_cons hcolon,
        ih (name, j) List.mem_cons_self _ (follows_renderFields fields rest),
        scanFrom?_renderFields fun f hf => ih f (List.mem_cons_of_mem (name, j) hf)]
      simp [lexemes, Function.comp_def]

/-! ### The tree of the lexemes -/

namespace Source

theorem foldlM_step?_cons {now next : Partial} {lexeme : Lexeme} (h : step? now lexeme = some next)
    (rest : List Lexeme) : (lexeme :: rest).foldlM step? now = rest.foldlM step? next := by
  rw [List.foldlM_cons, h]
  rfl

theorem foldlM_step?_append {now next : Partial} {lexemes : List Lexeme}
    (h : lexemes.foldlM step? now = some next) (rest : List Lexeme) :
    (lexemes ++ rest).foldlM step? now = rest.foldlM step? next := by
  rw [List.foldlM_append, h]
  rfl

/-- A value may come next. -/
def Expect.TakesValue (expect : Expect) : Prop := expect = .value ∨ expect = .valueOrEnd

theorem step?_of_beginValue? {expect : Expect} (h : expect.TakesValue) {stack : List Frame}
    {lexeme : Lexeme} {next : Partial} (hbegin : beginValue? stack lexeme = some next) :
    step? (.inside stack expect) lexeme = some next := by
  rcases h with rfl | rfl
  · exact hbegin
  · -- Only a closing bracket is taken otherwise here, and no value begins with it.
    rcases stack with _ | ⟨_ | _, _⟩ <;> cases lexeme <;> first | exact hbegin | exact nomatch hbegin

end Source

/- The lexemes of a value, met where a value may come, put its tree where it belongs. The members of an
array and the fields of an object are added to what the frame holds already. -/
mutual

theorem foldlM_lexemes (j : Json) (stack : List Source.Frame) {expect : Source.Expect}
    (h : expect.TakesValue) :
    (lexemes j).foldlM Source.step? (.inside stack expect) = some (Source.place (source j) stack) := by
  match j with
  | .null => exact Source.foldlM_step?_cons (Source.step?_of_beginValue? h rfl) []
  | .bool b => exact Source.foldlM_step?_cons (Source.step?_of_beginValue? h rfl) []
  | .number n => exact Source.foldlM_step?_cons (Source.step?_of_beginValue? h rfl) []
  | .string t => exact Source.foldlM_step?_cons (Source.step?_of_beginValue? h rfl) []
  | .array [] =>
    rw [lexemes, Source.foldlM_step?_cons (Source.step?_of_beginValue? h rfl)]
    rfl
  | .array (j :: items) =>
    rw [lexemes, List.cons_append, Source.foldlM_step?_cons (Source.step?_of_beginValue? h rfl),
      Source.foldlM_step?_append (foldlM_lexemes j (.array [] :: stack) (Or.inr rfl))]
    exact foldlM_itemLexemes items [source j] stack
  | .object [] =>
    rw [lexemes, Source.foldlM_step?_cons (Source.step?_of_beginValue? h rfl)]
    rfl
  | .object ((name, j) :: fields) =>
    rw [lexemes, List.cons_append, Source.foldlM_step?_cons (Source.step?_of_beginValue? h rfl),
      List.cons_append, Source.foldlM_step?_cons rfl, List.cons_append, Source.foldlM_step?_cons rfl,
      Source.foldlM_step?_append (foldlM_lexemes j (.object [] (some name) :: stack) (Or.inl rfl))]
    exact foldlM_fieldLexemes fields [(some name, source j)] stack

theorem foldlM_itemLexemes (items : List Json) (seen : List Source) (stack : List Source.Frame) :
    (itemLexemes items).foldlM Source.step? (.inside (.array seen :: stack) .commaOrEnd)
      = some (Source.place (.array (seen.reverse ++ sources items)) stack) := by
  match items with
  | [] =>
    rw [sources, List.append_nil]
    rfl
  | j :: items =>
    have hitems := foldlM_itemLexemes items (source j :: seen) stack
    rw [List.reverse_cons, List.append_assoc] at hitems
    rw [itemLexemes, List.cons_append, Source.foldlM_step?_cons rfl,
      Source.foldlM_step?_append (foldlM_lexemes j (.array seen :: stack) (Or.inl rfl))]
    exact hitems

theorem foldlM_fieldLexemes (fields : List (Text × Json)) (seen : List (Option Text × Source))
    (stack : List Source.Frame) :
    (fieldLexemes fields).foldlM Source.step? (.inside (.object seen none :: stack) .commaOrEnd)
      = some (Source.place (.object (seen.reverse ++ fieldSources fields)) stack) := by
  match fields with
  | [] =>
    rw [fieldSources, List.append_nil]
    rfl
  | (name, j) :: fields =>
    have hfields := foldlM_fieldLexemes fields ((some name, source j) :: seen) stack
    rw [List.reverse_cons, List.append_assoc] at hfields
    rw [fieldLexemes, List.cons_append, Source.foldlM_step?_cons rfl, List.cons_append,
      Source.foldlM_step?_cons rfl, List.cons_append, Source.foldlM_step?_cons rfl,
      Source.foldlM_step?_append (foldlM_lexemes j (.object seen (some name) :: stack) (Or.inl rfl))]
    exact hfields

end

/-- A printed value is read as its tree. -/
theorem Exact.ofText?_render {j : Json} (h : j.Exact) : Source.ofText? (render j) = some j.source := by
  have hscan : Lexeme.scan? (render j) = some (lexemes j) := by
    have hline := h.scanned [] Lexeme.Follows.nil
    rw [List.append_nil] at hline
    rw [Lexeme.scan?, hline]
    simp [Lexeme.scanFrom?, Lexeme.finish?]
  have hbuild : (lexemes j).foldlM Source.step? (.inside [] .value) = some (.whole j.source) :=
    foldlM_lexemes j [] (Or.inl rfl)
  simp [Source.ofText?, hscan, hbuild]

end Json

end RuleHints
