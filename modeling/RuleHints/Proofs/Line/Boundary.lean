import RuleHints.Line.Target
import RuleHints.Proofs.Line.Grammar

/-!
# The word around a column

`WordAt` says where a word begins and ends, without a word about how it is found. There is one such
word around each column before the comment. The search to the left from the cursor, the search to the
right from a start, and the pointer, which goes both ways in the line without its comment and its last
blanks, all find it. So completion and help are about the same word, and what is completed depends on
nothing else in the line.
-/

namespace RuleHints

/-- The token in a line that begins this many columns earlier. -/
def Token.shift (n : Nat) (token : Token) : Token :=
  { token with start := n + token.start, stop := n + token.stop }

namespace Line

/-- A word stands between the columns, before any comment, and it cannot be longer. It is empty between
two blanks. -/
structure WordAt (line : Text) (start stop : Nat) : Prop where
  start_le : start ≤ stop
  stop_le : stop ≤ line.length
  isWord : IsWord (slice line start stop)
  uncommented : '#' ∉ line.take stop
  left : ∀ c ∈ (line.take start).getLast?, Text.isBlank c = true
  right : ∀ c ∈ (line.drop stop).head?, Text.isBlank c = true ∨ c = '#'

/-! ### One word around a column -/

theorem take_append_slice (line : Text) {start stop : Nat} (h : start ≤ stop) :
    line.take start ++ slice line start stop = line.take stop := by
  have hsplit := slice_append_slice line (Nat.zero_le start) h
  simpa only [slice, List.drop_zero] using hsplit

theorem slice_succ (line : Text) {start stop : Nat} {c : Char} (hs : start ≤ stop)
    (hc : c ∈ (line.drop stop).head?) :
    slice line start (stop + 1) = slice line start stop ++ [c] := by
  have hlast : slice line stop (stop + 1) = [c] := by
    rw [slice_eq_take_drop, Nat.add_sub_cancel_left, List.take_one, Option.mem_def.1 hc]
    rfl
  rw [← hlast, slice_append_slice line hs (Nat.le_succ stop)]

theorem exists_next_iff {line : Text} {stop : Nat} :
    (∃ c, c ∈ (line.drop stop).head?) ↔ stop < line.length := by
  have hrest : line.drop stop ≠ [] ↔ stop < line.length := by
    rw [ne_eq, List.drop_eq_nil_iff, Nat.not_le]
  rw [← hrest, ← List.isSome_head?, Option.isSome_iff_exists]
  rfl

section

variable {line : Text} {start stop cursor : Nat}

theorem WordAt.uncommented_take (h : WordAt line start stop) (hc : cursor ≤ stop) :
    '#' ∉ line.take cursor := by
  intro hmem
  have hpre : line.take cursor <+: line.take stop := List.take_prefix_take_left hc
  exact h.uncommented (hpre.subset hmem)

theorem WordAt.isWord_parts (h : WordAt line start stop) (hs : start ≤ cursor) (hc : cursor ≤ stop) :
    IsWord (slice line start cursor) ∧ IsWord (slice line cursor stop) := by
  rw [← isWord_append, slice_append_slice line hs hc]
  exact h.isWord

theorem WordAt.endsWith (h : WordAt line start stop) (hs : start ≤ cursor) (hc : cursor ≤ stop) :
    EndsWith (line.take cursor) (line.take start) (slice line start cursor) where
  eq := (take_append_slice line hs).symm
  unbroken c hmem := ((h.isWord_parts hs hc).1 c hmem).1
  longest := h.left

theorem WordAt.start_eq (h : WordAt line start stop) (hs : start ≤ cursor) (hc : cursor ≤ stop) :
    start = wordStart line cursor := by
  have hl := h.stop_le
  have hfound := (h.endsWith hs hc).wordStart
  rw [Nat.min_eq_left (by omega), List.length_take] at hfound
  omega

theorem WordAt.stop_eq (h : WordAt line start stop) (hs : start ≤ cursor) (hc : cursor ≤ stop) :
    stop = wordEnd line cursor := by
  have hcomment := h.uncommented_take hc
  have hle : stop ≤ wordEnd line cursor :=
    (le_wordEnd_iff hcomment hc h.stop_le).2 (h.isWord_parts hs hc).2
  refine Nat.le_antisymm hle (Nat.le_of_not_lt fun hlt => ?_)
  -- The next character is one of the longer word, but it stops the word.
  have hlength := wordEnd_le (Nat.le_trans hc h.stop_le)
  obtain ⟨c, hnext⟩ := exists_next_iff.2 (Nat.lt_of_lt_of_le hlt hlength)
  have hword := (le_wordEnd_iff hcomment (Nat.le_succ_of_le hc) (by omega)).1 hlt
  rw [slice_succ line hc hnext, isWord_append] at hword
  have hchar := hword.2 c (List.mem_singleton_self c)
  rcases h.right c hnext with hblank | hmark
  · rw [hblank] at hchar
    cases hchar.1
  · exact hchar.2 hmark

end

theorem wordStart_le_cursor (line : Text) (cursor : Nat) : wordStart line cursor ≤ cursor :=
  Nat.le_trans (wordStart_le line cursor) (Nat.min_le_left ..)

theorem EndsWith.take_wordStart {line before word : Text} {cursor : Nat} (hl : cursor ≤ line.length)
    (h : EndsWith (line.take cursor) before word) :
    line.take (Line.wordStart line cursor) = before := by
  have hstart := h.wordStart
  have hle := wordStart_le_cursor line cursor
  rw [Nat.min_eq_left hl] at hstart
  have htake : (line.take cursor).take before.length = before := by
    rw [h.eq, List.take_left]
  rw [List.take_take, ← hstart, Nat.min_eq_left hle] at htake
  exact htake

theorem wordEnd_stops {line : Text} {cursor : Nat} (hl : cursor ≤ line.length)
    (hcomment : '#' ∉ line.take cursor) :
    ∀ c ∈ (line.drop (wordEnd line cursor)).head?, Text.isBlank c = true ∨ c = '#' := by
  intro c hc
  by_contra hother
  rw [not_or, Bool.not_eq_true] at hother
  -- With another character behind it, the word would be longer.
  have hstop := le_wordEnd line cursor
  have hword := (le_wordEnd_iff hcomment hstop (wordEnd_le hl)).1 (Nat.le_refl _)
  have hlonger : IsWord (slice line cursor (wordEnd line cursor + 1)) := by
    rw [slice_succ line hstop hc, isWord_append]
    refine ⟨hword, fun d hd => ?_⟩
    rw [List.mem_singleton.1 hd]
    exact hother
  have hlength := exists_next_iff.1 ⟨c, hc⟩
  have hle := (le_wordEnd_iff hcomment (Nat.le_succ_of_le hstop) hlength).2 hlonger
  omega

/- The two searches from a column find a word. -/
theorem wordAt_around {line : Text} {cursor : Nat} (hl : cursor ≤ line.length)
    (hcomment : '#' ∉ line.take cursor) :
    WordAt line (wordStart line cursor) (wordEnd line cursor) := by
  have hstart := wordStart_le_cursor line cursor
  have hstop := le_wordEnd line cursor
  obtain ⟨before, hends⟩ := exists_endsWith (line.take cursor)
  have hleft : IsWord (slice line (wordStart line cursor) cursor) := by
    intro c hc
    have hchar : c ≠ '#' := by
      rintro rfl
      exact hcomment (List.mem_of_mem_drop hc)
    rw [slice_wordStart hl] at hc
    exact ⟨hends.unbroken c hc, hchar⟩
  have hright : IsWord (slice line cursor (wordEnd line cursor)) :=
    (le_wordEnd_iff hcomment hstop (wordEnd_le hl)).1 (Nat.le_refl _)
  refine ⟨Nat.le_trans hstart hstop, wordEnd_le hl, ?_, ?_, ?_, wordEnd_stops hl hcomment⟩
  · rw [← slice_append_slice line hstart hstop]
    exact hleft.append hright
  · rw [← take_append_slice line hstop, List.mem_append]
    rintro (hmem | hmem)
    · exact hcomment hmem
    · exact (hright '#' hmem).2 rfl
  · rw [hends.take_wordStart hl]
    exact hends.longest

/-! ### The part of a line that has words -/

/- What a body leaves out begins a comment, or is blank. -/
theorem exists_body_append (line : Text) :
    ∃ rest, line = body line ++ rest ∧ '#' ∉ body line ∧
      (rest.head? = some '#' ∨ ∀ c ∈ rest, Text.isBlank c = true) := by
  cases hc : commentStart? line with
  | some column =>
    have hbody : body line = line.take column := by simp only [body, hc]
    have hcomment : '#' ∉ line.take column := not_mem_take_of_commentStart? (by simp [hc])
    have hmark : (line.drop column).head? = some '#' := by
      obtain ⟨hlength, hmark, _⟩ := List.findIdx?_eq_some_iff_getElem.1 hc
      rw [List.head?_drop, List.getElem?_eq_getElem hlength, eq_of_beq hmark]
    rw [hbody]
    exact ⟨line.drop column, (List.take_append_drop column line).symm, hcomment, Or.inl hmark⟩
  | none =>
    have hbody : body line = Text.trimEnd line := by simp only [body, hc]
    have hcut : line = body line ++ (line.reverse.takeWhile Text.isBlank).reverse := by
      rw [hbody, Text.trimEnd, ← List.reverse_append, List.takeWhile_append_dropWhile,
        List.reverse_reverse]
    have hcomment : '#' ∉ line.take line.length := not_mem_take_of_commentStart? (by simp [hc])
    rw [List.take_length] at hcomment
    refine ⟨_, hcut, ?_, Or.inr ?_⟩
    · intro hmem
      rw [hcut] at hcomment
      exact hcomment (List.mem_append_left _ hmem)
    · intro c hmem
      rw [List.mem_reverse] at hmem
      exact List.all_eq_true.1 List.all_takeWhile c hmem

theorem wordAt_append_iff {t rest : Text} {start stop : Nat} (hl : stop ≤ t.length)
    (hrest : ∀ c ∈ rest.head?, Text.isBlank c = true ∨ c = '#') :
    WordAt (t ++ rest) start stop ↔ WordAt t start stop := by
  have htake : ∀ {n}, n ≤ stop → (t ++ rest).take n = t.take n := fun hn =>
    List.take_append_of_le_length (Nat.le_trans hn hl)
  have hslice := slice_append_of_le rest start hl
  have hnext : ((t ++ rest).drop stop).head? = (t.drop stop).head?.or rest.head? := by
    rw [List.drop_append_of_le_length hl, List.head?_append]
  constructor
  · rintro ⟨hs, -, hword, hcomment, hleft, hright⟩
    rw [hslice] at hword
    rw [htake (Nat.le_refl _)] at hcomment
    rw [htake hs] at hleft
    refine ⟨hs, hl, hword, hcomment, hleft, fun c hc => hright c ?_⟩
    rw [hnext, Option.mem_def.1 hc]
    rfl
  · rintro ⟨hs, -, hword, hcomment, hleft, hright⟩
    rw [← hslice] at hword
    rw [← htake (Nat.le_refl _)] at hcomment
    rw [← htake hs] at hleft
    refine ⟨hs, by rw [List.length_append]; omega, hword, hcomment, hleft, fun c hc => ?_⟩
    rw [hnext] at hc
    cases hlast : (t.drop stop).head? with
    | some d =>
      rw [hlast] at hc
      cases hc
      exact hright _ hlast
    | none =>
      rw [hlast] at hc
      exact hrest c hc

/- A word that is not empty ends in the body. -/
theorem WordAt.stop_le_append {t rest : Text} {start stop : Nat} (h : WordAt (t ++ rest) start stop)
    (hne : start < stop) (hrest : rest.head? = some '#' ∨ ∀ c ∈ rest, Text.isBlank c = true) :
    stop ≤ t.length := by
  by_contra hlt
  obtain ⟨last, rfl⟩ : ∃ last, stop = last + 1 := ⟨stop - 1, by omega⟩
  rcases hrest with hmark | hblanks
  · obtain ⟨more, rfl⟩ := List.head?_eq_some_iff.1 hmark
    have hmem : '#' ∈ (t ++ '#' :: more).take (last + 1) := by
      rw [List.take_append, show last + 1 - t.length = (last - t.length) + 1 by omega,
        List.take_succ_cons]
      simp
    exact h.uncommented hmem
  · -- The last character of the word is one of the blanks.
    obtain ⟨c, hc⟩ := exists_next_iff.2 (Nat.lt_of_succ_le h.stop_le)
    have hword := h.isWord
    rw [slice_succ _ (Nat.le_of_lt_succ hne) hc, isWord_append] at hword
    have hchar := (hword.2 c (List.mem_singleton_self c)).1
    rw [List.drop_append, List.drop_of_length_le (by omega), List.nil_append] at hc
    have hblank := hblanks c (List.mem_of_mem_drop (List.mem_of_mem_head? hc))
    rw [hblank] at hchar
    cases hchar

theorem wordAt_body_iff {line : Text} {start stop : Nat} (hne : start < stop) :
    WordAt (body line) start stop ↔ WordAt line start stop := by
  obtain ⟨rest, hline, _, hrest⟩ := exists_body_append line
  have hnext : ∀ c ∈ rest.head?, Text.isBlank c = true ∨ c = '#' := by
    intro c hc
    rcases hrest with hmark | hblanks
    · rw [hmark] at hc
      cases hc
      exact Or.inr rfl
    · exact Or.inl (hblanks c (List.mem_of_mem_head? hc))
  constructor
  · intro h
    rw [hline]
    exact (wordAt_append_iff h.stop_le hnext).2 h
  · intro h
    rw [hline] at h
    exact (wordAt_append_iff (h.stop_le_append hne hrest) hnext).1 h

theorem slice_body {line : Text} {stop : Nat} (start : Nat) (h : stop ≤ (body line).length) :
    slice (body line) start stop = slice line start stop := by
  obtain ⟨rest, hline, _⟩ := exists_body_append line
  have hslice := slice_append_of_le rest start h
  rw [← hline] at hslice
  exact hslice.symm

/-! ### The word under the pointer -/

/-- The column is in the word of the target, which has this help name. -/
structure PointsAt (line : Text) (column : Nat) (target : Target) : Prop where
  wordAt : WordAt line target.start target.stop
  nonempty : target.start < target.stop
  start_le : target.start ≤ column
  le_stop : column ≤ target.stop
  word_eq : target.word = slice line target.start target.stop
  helpName : helpName? target.word = some target.name

/- The pointer searches the body as the other two searches do. -/
theorem target?_eq {line : Text} {cursor : Nat} (h : cursor ≤ (body line).length) :
    let start := wordStart (body line) cursor
    let stop := wordEnd (body line) cursor
    target? line cursor =
      if start = stop then none
      else (helpName? (slice (body line) start stop)).map fun name =>
        ⟨name, slice (body line) start stop, start, stop⟩ := by
  obtain ⟨_, _, hcomment, _⟩ := exists_body_append line
  have hnone : commentStart? (body line) = none := by
    rw [commentStart?, List.findIdx?_eq_none_iff]
    intro c hc
    simp only [beq_eq_false_iff_ne]
    rintro rfl
    exact hcomment hc
  simp only [target?, wordStart, wordEnd, hnone, Option.getD_none, List.take_length,
    Nat.min_eq_left h]
  rw [if_neg (Nat.not_lt.2 h)]

theorem pointsAt_of_target? {line : Text} {cursor : Nat} {target : Target}
    (h : target? line cursor = some target) : PointsAt line cursor target := by
  have hl : cursor ≤ (body line).length := by
    by_contra hlt
    simp [target?, Nat.lt_of_not_le hlt] at h
  obtain ⟨_, _, hcomment, _⟩ := exists_body_append line
  have hword := wordAt_around hl fun hmem => hcomment (List.mem_of_mem_take hmem)
  rw [target?_eq hl] at h
  split at h
  · cases h
  · next hne =>
    obtain ⟨name, hname, rfl⟩ := Option.map_eq_some_iff.1 h
    have hlt := Nat.lt_of_le_of_ne hword.start_le hne
    exact {
      wordAt := (wordAt_body_iff hlt).1 hword
      nonempty := hlt
      start_le := wordStart_le_cursor ..
      le_stop := le_wordEnd ..
      word_eq := slice_body _ hword.stop_le
      helpName := hname }

theorem PointsAt.target?_eq {line : Text} {cursor : Nat} {target : Target}
    (h : PointsAt line cursor target) : target? line cursor = some target := by
  have hword := (wordAt_body_iff h.nonempty).2 h.wordAt
  have hl := Nat.le_trans h.le_stop hword.stop_le
  have hstart := hword.start_eq h.start_le h.le_stop
  have hstop := hword.stop_eq h.start_le h.le_stop
  have hslice := slice_body target.start hword.stop_le
  rw [Line.target?_eq hl, ← hstart, ← hstop, if_neg (Nat.ne_of_lt h.nonempty), hslice, ← h.word_eq,
    h.helpName]
  rfl

/-- Help and completion are about the same word. The word under the pointer is the longest one around
the column; it ends where the popup of a plugin would end, and it is the same for each of its columns.
The token before the cursor begins with it and does not go beyond it. -/
theorem pointer_agrees_with_completion (line : Text) (cursor : Nat) (target : Target)
    (h : target? line cursor = some target) :
    target.start ≤ cursor ∧ cursor ≤ target.stop ∧ WordAt line target.start target.stop ∧
    target.word = slice line target.start target.stop ∧ IsWord target.word ∧
    target.stop = wordEnd line target.start ∧
    (∀ column, target.start ≤ column → column ≤ target.stop → target? line column = some target) ∧
    ∀ plugins limits trigger token, classify? plugins limits line cursor trigger = some token →
      token.start = target.start ∧ token.stop ≤ target.stop := by
  have hpoints := pointsAt_of_target? h
  have hword := hpoints.wordAt
  refine ⟨hpoints.start_le, hpoints.le_stop, hword, hpoints.word_eq, ?_, ?_, ?_, ?_⟩
  · rw [hpoints.word_eq]
    exact hword.isWord
  · exact hword.stop_eq (Nat.le_refl _) hword.start_le
  · intro column hs hc
    exact PointsAt.target?_eq { hpoints with start_le := hs, le_stop := hc }
  · intro plugins limits trigger token htoken
    obtain ⟨hstop, hstart, -, -⟩ := classify?_columns htoken
    have hle : token.stop = cursor := by
      rw [hstop, Nat.min_eq_left (Nat.le_trans hpoints.le_stop hword.stop_le)]
    rw [hstart, hle]
    exact ⟨(hword.start_eq hpoints.start_le hpoints.le_stop).symm, hpoints.le_stop⟩

/- In the middle of a word that a comment ends. -/
theorem proxy_under_pointer :
    let target : Target := ⟨"proxy", "proxy://語", 2, 11⟩
    let token : Token := ⟨.protocol, "pro", 2, 5⟩
    target? "x proxy://語#://" 5 = some target ∧
      classify? .empty {} "x proxy://語#://" 5 .manual = some token ∧
      (target.stop = wordEnd "x proxy://語#://" 2 ∧ token.start = target.start ∧
        target? "x proxy://語#://" 11 = some target) := by
  intro target token
  have htarget : target? "x proxy://語#://" 5 = some target := by decide
  have htoken : classify? .empty {} "x proxy://語#://" 5 .manual = some token := by decide
  obtain ⟨-, -, -, -, -, hstop, hsame, hagree⟩ := pointer_agrees_with_completion _ _ _ htarget
  exact ⟨htarget, htoken, hstop, (hagree _ _ _ _ htoken).1, hsame 11 (by decide) (by decide)⟩

/-! ### The rest of the line -/

/-- What is completed depends on the word before the cursor alone. With other words before it and any
text behind the cursor, a comment too, the token is the one of the word as a line of its own, moved to
where the word begins. -/
theorem classification_is_local (plugins : Plugin.Directory) (limits : Limits) (trigger : Trigger)
    (before word after : Text) (hcomment : '#' ∉ before)
    (hgap : ∀ c ∈ before.getLast?, Text.isBlank c = true) (hword : IsWord word) :
    classify? plugins limits (before ++ word ++ after) (before.length + word.length) trigger =
      (classify? plugins limits word word.length trigger).map (Token.shift before.length) := by
  have hunbroken : ∀ c ∈ word, Text.isBlank c = false := fun c hc => (hword c hc).1
  have hmark : '#' ∉ word := fun hmem => (hword '#' hmem).2 rfl
  have htake : (before ++ word ++ after).take (before.length + word.length) = before ++ word := by
    rw [← List.length_append, List.take_left]
  have hline : EndsWith ((before ++ word ++ after).take (before.length + word.length)) before word :=
    ⟨htake, hunbroken, hgap⟩
  have halone : EndsWith (word.take word.length) [] word :=
    ⟨List.take_length, hunbroken, by simp⟩
  have hbefore : '#' ∉ (before ++ word ++ after).take (before.length + word.length) := by
    rw [htake, List.mem_append]
    exact not_or.2 ⟨hcomment, hmark⟩
  have hnone : '#' ∉ word.take word.length := by
    rw [List.take_length]
    exact hmark
  rw [classify?_of_endsWith hbefore hline, classify?_of_endsWith hnone halone]
  by_cases hempty : word = []
  · rw [if_pos hempty, if_pos hempty]
    split <;> rfl
  · rw [if_neg hempty, if_neg hempty]
    split
    · rfl
    · rw [Option.map_map]
      congr 1
      funext kind
      simp [Token.shift]

/- Behind a word of another script and right before a comment. -/
theorem variable_behind_word :
    let plugins := Plugin.Directory.ofList [{ moduleName := "whistle.echo", vars := some {} }]
    let before : Text := "語 "
    let word : Text := "%echo.k語"
    '#' ∉ before ∧ (∀ c ∈ before.getLast?, Text.isBlank c = true) ∧ IsWord word ∧
      classify? plugins {} (before ++ word ++ "#x") 10 .delete =
        some ⟨.variableValue "echo" .key "k語", word, 2, 10⟩ := by
  intro plugins before word
  have hcomment : '#' ∉ before := by decide
  have hgap : ∀ c ∈ before.getLast?, Text.isBlank c = true := by
    rintro c ⟨⟩
    rfl
  have hword : IsWord word := by decide
  have halone : classify? plugins {} word word.length .delete =
      some ⟨.variableValue "echo" .key "k語", word, 0, 8⟩ := by decide
  have hlocal := classification_is_local plugins {} .delete before word "#x" hcomment hgap hword
  rw [halone] at hlocal
  exact ⟨hcomment, hgap, hword, hlocal⟩

end Line

end RuleHints
