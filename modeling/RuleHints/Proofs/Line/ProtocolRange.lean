import RuleHints.Line.Range
import RuleHints.Proofs.Line.Span
import RuleHints.Proofs.Text.Occurrence

/-!
# How far a protocol reaches

The columns that a protocol replaces stay in the word of the token, unless a comment stands between
the word and a `://` that is joined to it: then they end behind that mark. The words after a blank
have no part in it, except that a `://` in one of them keeps `name:` from being taken in.
-/

namespace RuleHints

namespace Line

/-! ### Slashes -/

theorem skipSlashes_bound {line : Text} {column : Nat} (n : Nat) (h : column ≤ line.length) :
    column ≤ skipSlashes line n column ∧ skipSlashes line n column ≤ line.length := by
  have hrun := (List.takeWhile_prefix (· == '/') (l := (line.drop column).take n)).length_le
  rw [List.length_take, List.length_drop] at hrun
  rw [skipSlashes]
  omega

theorem eq_slash_of_mem_skipSlashes {line : Text} {n column : Nat} {c : Char}
    (h : c ∈ slice line column (skipSlashes line n column)) : c = '/' := by
  let run := ((line.drop column).take n).takeWhile (· == '/')
  have hrun : run <+: line.drop column :=
    (List.takeWhile_prefix _).trans (List.take_prefix n _)
  have hslice : slice line column (skipSlashes line n column) = run := by
    rw [slice_eq_take_drop, skipSlashes, Nat.add_sub_cancel_left]
    exact (List.prefix_iff_eq_take.1 hrun).symm
  rw [hslice] at h
  simpa using List.all_eq_true.1 List.all_takeWhile c h

theorem skipSlashes_append {head rest : Text} {column : Nat} (n : Nat) (h : column ≤ head.length)
    (hrest : ∀ c ∈ rest.head?, c ≠ '/') :
    skipSlashes (head ++ rest) n column = skipSlashes head n column := by
  have hstop : ∀ k, (rest.take k).takeWhile (· == '/') = [] := by
    intro k
    cases rest with
    | nil => simp
    | cons c rest =>
      have hc : c ≠ '/' := hrest c rfl
      cases k <;> simp [hc]
  rw [skipSlashes, skipSlashes, List.drop_append_of_le_length h, List.take_append,
    List.takeWhile_append, hstop, List.append_nil]
  split
  · next hall => rw [hall]
  · rfl

/-! ### Where a protocol ends -/

/- There are two ways to go on: up to a `://`, or over `name:` and slashes if `name://` is offered. -/
theorem protocolStop?_eq_some {line : Text} {token : Token} {candidates : List Candidate} {stop : Nat}
    (h : protocolStop? line token candidates = some stop) :
    (∃ column, Text.occursFrom? protocolMark line token.start = some column ∧
        stop = column + protocolMark.length) ∨
      Text.occursFrom? protocolMark line token.start = none ∧
        ∃ column, Text.occursFrom? ":" line token.start = some column ∧
          stop = skipSlashes line 2 (column + 1) ∧
          ∃ candidate ∈ candidates,
            candidate.insertText = slice line token.start (column + 1) ++ "//" := by
  unfold protocolStop? at h
  simp only at h
  split at h
  · next column hmark =>
    split at h
    · cases h
    · cases h
      exact Or.inl ⟨column, hmark, rfl⟩
  · next hmark =>
    split at h
    · next column hcolon =>
      split at h
      · next hany =>
        cases h
        obtain ⟨candidate, hmem, heq⟩ := List.any_eq_true.1 hany
        exact Or.inr ⟨hmark, column, hcolon, rfl, candidate, hmem, beq_iff_eq.1 heq⟩
      · cases h
    · cases h

theorem protocolStop?_bound {line : Text} {token : Token} {candidates : List Candidate} {stop : Nat}
    (h : protocolStop? line token candidates = some stop) :
    token.start ≤ stop ∧ stop ≤ line.length := by
  rcases protocolStop?_eq_some h with ⟨column, hmark, rfl⟩ | ⟨_, column, hcolon, rfl, _⟩
  · have hbound := Text.occursFrom?_bound hmark
    omega
  · have hbound := Text.occursFrom?_bound hcolon
    have hcolumn : column + 1 ≤ line.length := hbound.2
    have hskip := skipSlashes_bound 2 hcolumn
    omega

theorem Spans.protocolRange_bound {line : Text} {token : Token} (h : Spans token line)
    (candidates : List Candidate) :
    token.start ≤ (protocolStop? line token candidates).getD token.stop ∧
      token.stop ≤ (protocolRange line token candidates).2 ∧
      (protocolRange line token candidates).2 ≤ line.length := by
  have hstart := h.start_le
  have hstop := h.stop_le
  simp only [protocolRange]
  cases hs : protocolStop? line token candidates with
  | none =>
    simp only [Option.getD_none]
    omega
  | some stop =>
    have hbound := protocolStop?_bound hs
    simp only [Option.getD_some]
    omega

/-! ### The comment -/

/-- From `start` the text goes on without a blank to a `://` at `column`, and a comment begins before
that. -/
structure MarkInComment (line : Text) (start column : Nat) : Prop where
  found : Text.occursFrom? protocolMark line start = some column
  joined : ∀ c ∈ slice line start (column + protocolMark.length), Text.isBlank c = false
  commented : '#' ∈ slice line start (column + protocolMark.length)

/- An address right behind the beginning of a redirect is part of the word. -/
theorem isWord_of_isRedirectTarget {word protocol : Text} (hword : IsWord word)
    (h : isRedirectTarget word protocol = true) : IsWord protocol := by
  simp only [isRedirectTarget, Bool.and_eq_true, Bool.or_eq_true, beq_iff_eq] at h
  rcases h.2 with rfl | rfl
  · exact hword.append (by decide)
  · exact hword.append (by decide)

/- The text of `name:` and the slashes after it is one word, since `name://` is. -/
theorem isWord_slice_skipSlashes {line : Text} {start column : Nat} (hs : start ≤ column)
    (hl : column ≤ line.length) (h : IsWord (slice line start column ++ "//")) (n : Nat) :
    IsWord (slice line start (skipSlashes line n column)) := by
  have hskip := (skipSlashes_bound n hl).1
  rw [← slice_append_slice line hs hskip]
  refine (isWord_append.1 h).1.append fun c hc => ?_
  rw [eq_slash_of_mem_skipSlashes hc]
  decide

section

variable {line : Text} {token : Token} {candidates : List Candidate}

/- Without a mark only `name:` can be taken in. -/
theorem Spans.isWord_of_unmarked (h : Spans token line)
    (hc : ∀ candidate ∈ candidates, IsWord candidate.insertText)
    (hmark : Text.occursFrom? protocolMark line token.start = none) :
    IsWord (slice line token.start ((protocolStop? line token candidates).getD token.stop)) := by
  cases hs : protocolStop? line token candidates with
  | none =>
    rw [Option.getD_none, h.text]
    exact h.isWord
  | some stop =>
    rw [Option.getD_some]
    rcases protocolStop?_eq_some hs with ⟨_, hfound, _⟩ | ⟨_, column, hcolon, rfl, candidate, hmem, heq⟩
    · cases hmark.symm.trans hfound
    · have hbound := Text.occursFrom?_bound hcolon
      have hword := heq ▸ hc candidate hmem
      exact isWord_slice_skipSlashes (by omega) hbound.2 hword 2

theorem Spans.isWord_of_marked (h : Spans token line) {column : Nat}
    (hmark : Text.occursFrom? protocolMark line token.start = some column) :
    IsWord (slice line token.start ((protocolStop? line token candidates).getD token.stop)) ↔
      ¬ MarkInComment line token.start column := by
  let protocol := slice line token.start (column + protocolMark.length)
  have hstop : protocolStop? line token candidates =
      if protocol.any Text.isBlank || isRedirectTarget token.text protocol then none
      else some (column + protocolMark.length) := by
    simp only [protocolStop?, hmark, protocol]
  have hkept : IsWord (slice line token.start token.stop) := by
    rw [h.text]
    exact h.isWord
  cases hblank : protocol.any Text.isBlank with
  | true =>
    rw [hstop, hblank, Bool.true_or, if_pos rfl, Option.getD_none]
    refine iff_of_true hkept fun hmarked => ?_
    obtain ⟨c, hmem, hc⟩ := List.any_eq_true.1 hblank
    rw [hmarked.joined c hmem] at hc
    cases hc
  | false =>
    cases hredirect : isRedirectTarget token.text protocol with
    | true =>
      rw [hstop, hblank, hredirect, Bool.or_true, if_pos rfl, Option.getD_none]
      refine iff_of_true hkept fun hmarked => ?_
      exact (isWord_of_isRedirectTarget h.isWord hredirect '#' hmarked.commented).2 rfl
    | false =>
      rw [hstop, hblank, hredirect, Bool.or_false, if_neg (by simp), Option.getD_some]
      have hjoined : ∀ c ∈ protocol, Text.isBlank c = false := by
        intro c hmem
        have hnone := List.any_eq_false.1 hblank c hmem
        simpa using hnone
      constructor
      · intro hword hmarked
        exact (hword '#' hmarked.commented).2 rfl
      · intro hfree c hmem
        refine ⟨hjoined c hmem, ?_⟩
        rintro rfl
        exact hfree ⟨hmark, hjoined, hmem⟩

/- The range ends with the word, or behind a mark in the comment. -/
theorem Spans.isWord_protocolRange_iff (h : Spans token line)
    (hc : ∀ candidate ∈ candidates, IsWord candidate.insertText) :
    IsWord (slice line token.start (protocolRange line token candidates).2) ↔
      ∀ column, ¬ MarkInComment line token.start column := by
  have hbound := h.protocolRange_bound candidates
  have hsplit := isWord_slice_max line hbound.1 h.start_le
  rw [h.text, and_iff_left h.isWord] at hsplit
  rw [protocolRange, hsplit]
  cases hmark : Text.occursFrom? protocolMark line token.start with
  | none =>
    refine iff_of_true (h.isWord_of_unmarked hc hmark) fun column hmarked => ?_
    cases hmark.symm.trans hmarked.found
  | some column =>
    rw [h.isWord_of_marked hmark]
    refine ⟨fun hfree other hmarked => ?_, fun hfree => hfree column⟩
    cases hmark.symm.trans hmarked.found
    exact hfree hmarked

theorem Spans.protocolRange_of_markInComment (h : Spans token line) {column : Nat}
    (hmarked : MarkInComment line token.start column) :
    (protocolRange line token candidates).2 = column + protocolMark.length := by
  have hfound := Text.occursFrom?_bound hmarked.found
  have hnot : ¬ IsWord (slice line token.start (column + protocolMark.length)) :=
    fun hword => (hword '#' hmarked.commented).2 rfl
  -- The token itself has no comment, so the mark stands behind it.
  have hbehind : token.stop ≤ column + protocolMark.length := by
    refine Nat.le_of_not_lt fun hlt => hnot ?_
    have htext := h.text ▸ h.isWord
    rw [← slice_append_slice line (Nat.le_trans hfound.1 (Nat.le_add_right ..)) (Nat.le_of_lt hlt)]
      at htext
    exact (isWord_append.1 htext).1
  have hblank : (slice line token.start (column + protocolMark.length)).any Text.isBlank = false := by
    rw [List.any_eq_false]
    intro c hmem
    simp [hmarked.joined c hmem]
  have hredirect : isRedirectTarget token.text
      (slice line token.start (column + protocolMark.length)) = false := by
    rw [← Bool.not_eq_true]
    exact fun hr => hnot (isWord_of_isRedirectTarget h.isWord hr)
  have hstop : protocolStop? line token candidates = some (column + protocolMark.length) := by
    simp [protocolStop?, hmarked.found, hblank, hredirect]
  simp only [protocolRange, hstop, Option.getD_some]
  omega

end

/-- What a protocol replaces has no blank in it. It is part of the word of the token, and so holds no
comment, exactly if no `://` is joined to the word behind the beginning of a comment; if there is one,
the range ends right behind it. -/
theorem protocol_range_in_word_iff {plugins : Plugin.Directory} {limits : Limits} {line : Text}
    {cursor : Nat} {trigger : Trigger} {token : Token}
    (ht : classify? plugins limits line cursor trigger = some token) {candidates : List Candidate}
    (hc : ∀ candidate ∈ candidates, IsWord candidate.insertText) :
    let range := protocolRange line token candidates
    (∀ c ∈ slice line range.1 range.2, Text.isBlank c = false) ∧
      (range.2 ≤ wordEnd line token.start ↔ ∀ column, ¬ MarkInComment line token.start column) ∧
      ('#' ∉ slice line range.1 range.2 ↔ ∀ column, ¬ MarkInComment line token.start column) ∧
      ∀ column, MarkInComment line token.start column → range.2 = column + protocolMark.length := by
  intro range
  have hspans := classify?_spans ht
  have hbound := hspans.protocolRange_bound candidates
  have hword := hspans.isWord_protocolRange_iff hc
  have hends : ∀ column, MarkInComment line token.start column →
      range.2 = column + protocolMark.length :=
    fun column hmarked => hspans.protocolRange_of_markInComment hmarked
  refine ⟨?_, ?_, ⟨?_, ?_⟩, hends⟩
  · intro c hmem
    by_cases hmarked : ∃ column, MarkInComment line token.start column
    · obtain ⟨column, hmarked⟩ := hmarked
      rw [hends column hmarked] at hmem
      exact hmarked.joined c hmem
    · exact (hword.2 (fun column hm => hmarked ⟨column, hm⟩) c hmem).1
  · rw [← hword]
    exact hspans.le_wordEnd_iff (Nat.le_trans hspans.start_le hbound.2.1) hbound.2.2
  · intro hfree column hmarked
    rw [hends column hmarked] at hfree
    exact hfree hmarked.commented
  · intro hfree hmem
    exact (hword.2 hfree '#' hmem).2 rfl

/- A mark in front of the comment is taken in. -/
theorem proxy_range_before_comment :
    let token : Token := ⟨.protocol, "prox", 0, 4⟩
    classify? (.ofList []) {} "prox://x#y" 4 .character = some token ∧
      (protocolRange "prox://x#y" token [.ofText "proxy://"]).2 ≤ wordEnd "prox://x#y" 0 := by
  intro token
  have ht : classify? (.ofList []) {} "prox://x#y" 4 .character = some token := by decide
  have hc : ∀ candidate ∈ [Candidate.ofText "proxy://"], IsWord candidate.insertText := by decide
  refine ⟨ht, (protocol_range_in_word_iff ht hc).2.1.2 fun column hmarked => ?_⟩
  have hcolumn : some column = some 4 := hmarked.found.symm
  cases hcolumn
  exact absurd hmarked.commented (by decide)

/- The mark stands in the comment, and the comment is replaced up to it. -/
theorem proxy_range_over_comment :
    let line : Text := "prox#x://"
    let token : Token := ⟨.protocol, "prox", 0, 4⟩
    let candidates : List Candidate := [.ofText "proxy://"]
    classify? (.ofList []) {} line 4 .character = some token ∧
      (∀ candidate ∈ candidates, IsWord candidate.insertText) ∧
      protocolRange line token candidates = (0, 9) ∧ wordEnd line token.start = 4 ∧
      '#' ∈ slice line 0 9 := by
  decide

/-! ### Later words -/

section

variable {head rest : Text} {start : Nat}

theorem mem_slice_append {c : Char} {stop : Nat} (hs : start ≤ head.length)
    (hl : head.length < stop) : c ∈ slice (head ++ c :: rest) start stop := by
  have hmiddle : slice (head ++ c :: rest) head.length stop =
      c :: rest.take (stop - head.length - 1) := by
    rw [slice_eq_take_drop, List.drop_left]
    obtain ⟨n, hn⟩ : ∃ n, stop - head.length = n + 1 := ⟨stop - head.length - 1, by omega⟩
    rw [hn, List.take_succ_cons, Nat.add_sub_cancel]
  rw [← slice_append_slice _ hs (Nat.le_of_lt hl), hmiddle]
  exact List.mem_append_right _ List.mem_cons_self

/- An occurrence in a later word has the blank before that word on its way. -/
theorem exists_blank_of_occursAt? {needle : Text} {k : Nat} (hs : start ≤ head.length)
    (hrest : ∀ c ∈ rest.head?, Text.isBlank c = true) (hne : needle ≠ [])
    (h : Text.occursAt? needle rest = some k) {stop : Nat} (hstop : head.length + k < stop) :
    ∃ c ∈ slice (head ++ rest) start stop, Text.isBlank c = true := by
  cases rest with
  | nil => simp [Text.occursAt?, hne] at h
  | cons c rest =>
    have hblank := hrest c rfl
    exact ⟨c, mem_slice_append hs (by omega), hblank⟩

end

/-- The text up to a blank has no `://` from `start` on, but a later word has one. -/
def markedLater (head rest : Text) (start : Nat) : Bool :=
  (Text.occursFrom? protocolMark head start).isNone && Text.occurs protocolMark rest

theorem IsWord.not_mem_of_blank {needle rest : Text} (h : IsWord needle)
    (hrest : ∀ c ∈ rest.head?, Text.isBlank c = true) : ∀ c ∈ rest.head?, c ∉ needle := by
  intro c hc hmem
  cases (h c hmem).1.symm.trans (hrest c hc)

section

variable {head rest : Text} {token : Token} {candidates : List Candidate}

/- The search ends behind the blank, and goes for nothing. -/
theorem protocolStop?_of_mark_later (hs : token.start ≤ head.length)
    (hrest : ∀ c ∈ rest.head?, Text.isBlank c = true) {k : Nat}
    (hlater : Text.occursAt? protocolMark rest = some k)
    (hmark : Text.occursFrom? protocolMark (head ++ rest) token.start = some (head.length + k)) :
    protocolStop? (head ++ rest) token candidates = none := by
  obtain ⟨c, hmem, hblank⟩ := exists_blank_of_occursAt? hs hrest (by decide) hlater
    (Nat.lt_add_of_pos_right (by decide : 0 < protocolMark.length))
  have hany : (slice (head ++ rest) token.start
      (head.length + k + protocolMark.length)).any Text.isBlank = true :=
    List.any_eq_true.2 ⟨c, hmem, hblank⟩
  simp [protocolStop?, hmark, hany]

/- Without a mark, a colon behind the blank is no candidate's. -/
theorem protocolStop?_of_unmarked (hs : token.start ≤ head.length)
    (hrest : ∀ c ∈ rest.head?, Text.isBlank c = true)
    (hc : ∀ candidate ∈ candidates, ∀ c ∈ candidate.insertText, Text.isBlank c = false)
    (hmark : Text.occursFrom? protocolMark head token.start = none)
    (hmarkLine : Text.occursFrom? protocolMark (head ++ rest) token.start = none) :
    protocolStop? (head ++ rest) token candidates = protocolStop? head token candidates := by
  have hword : IsWord ":" := by decide
  have hcolonChars := hword.not_mem_of_blank hrest
  have hcolonLine := Text.occursFrom?_append (by decide) hcolonChars hs
  cases hcolon : Text.occursFrom? ":" head token.start with
  | some column =>
    have hbound : column + 1 ≤ head.length := (Text.occursFrom?_bound hcolon).2
    have hskip : skipSlashes (head ++ rest) 2 (column + 1) = skipSlashes head 2 (column + 1) := by
      refine skipSlashes_append 2 hbound fun c hc => ?_
      rintro rfl
      cases hrest '/' hc
    rw [hcolon, Option.some_or] at hcolonLine
    simp only [protocolStop?, hmarkLine, hmark, hcolonLine, hcolon, hskip,
      slice_append_of_le rest token.start hbound]
  | none =>
    rw [hcolon, Option.none_or] at hcolonLine
    simp only [protocolStop?, hmarkLine, hmark, hcolonLine, hcolon]
    cases hfar : Text.occursAt? ":" rest with
    | none => rfl
    | some k =>
      have hlt : head.length + k < head.length + k + 1 := Nat.lt_succ_self _
      obtain ⟨c, hmem, hblank⟩ := exists_blank_of_occursAt? hs hrest (by decide) hfar hlt
      simp only [Option.map_some]
      refine if_neg fun hany => ?_
      obtain ⟨candidate, hcandidate, heq⟩ := List.any_eq_true.1 hany
      have htext := hc candidate hcandidate c
      rw [beq_iff_eq.1 heq, hblank] at htext
      cases htext (List.mem_append_left _ hmem)

/- The text before a blank decides, unless the search for `://` ends behind the blank. -/
theorem protocolStop?_append (hs : token.start ≤ head.length)
    (hrest : ∀ c ∈ rest.head?, Text.isBlank c = true)
    (hc : ∀ candidate ∈ candidates, ∀ c ∈ candidate.insertText, Text.isBlank c = false) :
    protocolStop? (head ++ rest) token candidates =
      if markedLater head rest token.start then none else protocolStop? head token candidates := by
  have hword : IsWord protocolMark := by decide
  have hmarkChars := hword.not_mem_of_blank hrest
  have hmarkLine := Text.occursFrom?_append (by decide) hmarkChars hs
  cases hmark : Text.occursFrom? protocolMark head token.start with
  | some column =>
    have hbound := (Text.occursFrom?_bound hmark).2
    rw [hmark, Option.some_or] at hmarkLine
    simp only [protocolStop?, hmarkLine, hmark, markedLater, Option.isNone_some, Bool.false_and,
      slice_append_of_le rest token.start hbound]
    rfl
  | none =>
    rw [hmark, Option.none_or] at hmarkLine
    cases hlater : Text.occursAt? protocolMark rest with
    | some k =>
      rw [hlater, Option.map_some] at hmarkLine
      rw [protocolStop?_of_mark_later hs hrest hlater hmarkLine]
      simp [markedLater, hmark, Text.occurs, hlater]
    | none =>
      rw [hlater, Option.map_none] at hmarkLine
      have hnot : markedLater head rest token.start = false := by
        simp [markedLater, Text.occurs, hlater]
      rw [hnot, if_neg (by simp)]
      exact protocolStop?_of_unmarked hs hrest hc hmark hmarkLine

theorem protocolRange_append (hs : token.start ≤ head.length)
    (hrest : ∀ c ∈ rest.head?, Text.isBlank c = true)
    (hc : ∀ candidate ∈ candidates, ∀ c ∈ candidate.insertText, Text.isBlank c = false) :
    protocolRange (head ++ rest) token candidates =
      if markedLater head rest token.start then (token.start, token.stop)
      else protocolRange head token candidates := by
  rw [protocolRange, protocolStop?_append hs hrest hc]
  split
  · simp
  · rfl

end

/-- Two lines that are the same up to a blank at or behind the end of the token, or one of which ends
there, and the columns that a protocol replaces on them. On each line they are those on the common
part, or just the token if a later word has the first `://`. So they are the same on both lines
exactly if this happens on both or on neither, or if it makes no difference. -/
theorem protocol_range_with_later_words {plugins : Plugin.Directory} {limits : Limits}
    {head rest rest' : Text} {cursor : Nat} {trigger : Trigger} {token : Token}
    (ht : classify? plugins limits (head ++ rest) cursor trigger = some token)
    (hstop : token.stop ≤ head.length) (hrest : ∀ c ∈ rest.head?, Text.isBlank c = true)
    (hrest' : ∀ c ∈ rest'.head?, Text.isBlank c = true) {candidates : List Candidate}
    (hc : ∀ candidate ∈ candidates, ∀ c ∈ candidate.insertText, Text.isBlank c = false) :
    let range (line : Text) := protocolRange line token candidates
    (∀ more ∈ [rest, rest'], range (head ++ more) =
        if markedLater head more token.start then (token.start, token.stop) else range head) ∧
      (range (head ++ rest) = range (head ++ rest') ↔
        markedLater head rest token.start = markedLater head rest' token.start ∨
          range head = (token.start, token.stop)) := by
  intro range
  have hs : token.start ≤ head.length := Nat.le_trans (classify?_spans ht).start_le hstop
  have hfirst : range (head ++ rest) = _ := protocolRange_append hs hrest hc
  have hsecond : range (head ++ rest') = _ := protocolRange_append hs hrest' hc
  refine ⟨?_, ?_⟩
  · intro more hmore
    rcases List.mem_cons.1 hmore with rfl | hmore
    · exact hfirst
    · rw [List.mem_singleton.1 hmore]
      exact hsecond
  · rw [hfirst, hsecond]
    cases markedLater head rest token.start <;> cases markedLater head rest' token.start
    · simp
    · simp [range]
    · simp [range, eq_comm]
    · simp

/- A later word without a mark changes nothing. -/
theorem proxy_range_before_plain_word :
    let token : Token := ⟨.protocol, "pro", 0, 3⟩
    classify? (.ofList []) {} "proxy:/x" 3 .character = some token ∧
      protocolRange "proxy:/x" token [.ofText "proxy://"] =
        protocolRange "proxy:/x b:c" token [.ofText "proxy://"] := by
  intro token
  have ht : classify? (.ofList []) {} (("proxy:/x" : Text) ++ []) 3 .character = some token := by
    decide
  have hrest : ∀ c ∈ (" b:c" : Text).head?, Text.isBlank c = true := by
    rintro c ⟨⟩
    rfl
  have hc : ∀ candidate ∈ [Candidate.ofText "proxy://"],
      ∀ c ∈ candidate.insertText, Text.isBlank c = false := by
    intro candidate hmem
    rw [List.mem_singleton.1 hmem]
    have hword : IsWord "proxy://" := by decide
    exact fun c hc => (hword c hc).1
  have hsame := (protocol_range_with_later_words ht (by decide) (by simp) hrest hc).2
  exact ⟨ht, hsame.2 (Or.inl (by decide))⟩

/- The lines differ in a later word only, and `name:` is taken in on one of them only. -/
theorem proxy_range_depends_on_later_word :
    let token : Token := ⟨.protocol, "pro", 0, 3⟩
    let candidates : List Candidate := [.ofText "proxy://"]
    classify? (.ofList []) {} "proxy:/x" 3 .character = some token ∧
      classify? (.ofList []) {} "proxy:/x b://c" 3 .character = some token ∧
      protocolRange "proxy:/x" token candidates = (0, 7) ∧
      protocolRange "proxy:/x b://c" token candidates = (0, 3) := by
  decide

end Line

end RuleHints
