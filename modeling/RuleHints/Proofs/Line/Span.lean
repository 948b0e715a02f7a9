import Mathlib.Data.List.TakeWhile
import RuleHints.Proofs.Line.ReadBack

/-!
# The columns of a word

The token before the cursor lies inside the line, its text is what stands between its columns, and no
comment has begun before its end. The end of a word is the last column that can be reached from its
start without a blank and without a comment.
-/

namespace RuleHints.Line

/-! ### The text between two columns -/

theorem length_slice (line : Text) (start stop : Nat) :
    (slice line start stop).length = min stop line.length - start := by
  rw [slice, List.length_drop, List.length_take]

theorem slice_eq_take_drop (line : Text) (start stop : Nat) :
    slice line start stop = (line.drop start).take (stop - start) := by
  rw [slice, List.drop_take]

/- A slice goes on where another one has ended. -/
theorem slice_append_slice (line : Text) {start middle stop : Nat} (hs : start ≤ middle)
    (hm : middle ≤ stop) :
    slice line start middle ++ slice line middle stop = slice line start stop := by
  have hsum : stop - start = (middle - start) + (stop - middle) := by omega
  have hdrop : (line.drop start).drop (middle - start) = line.drop middle := by
    rw [List.drop_drop]
    congr 1
    omega
  rw [slice_eq_take_drop, slice_eq_take_drop, slice_eq_take_drop, hsum, List.take_add, hdrop]

theorem slice_append_of_le {head : Text} (rest : Text) (start : Nat) {stop : Nat}
    (h : stop ≤ head.length) : slice (head ++ rest) start stop = slice head start stop := by
  rw [slice, slice, List.take_append_of_le_length h]

theorem isWord_append {s t : Text} : IsWord (s ++ t) ↔ IsWord s ∧ IsWord t := by
  refine ⟨fun h => ⟨?_, ?_⟩, fun h => h.1.append h.2⟩
  · exact fun c hc => h c (List.mem_append_left t hc)
  · exact fun c hc => h c (List.mem_append_right s hc)

/- The longer of two slices from one column has the characters of both. -/
theorem isWord_slice_max (line : Text) {start first second : Nat} (hf : start ≤ first)
    (hs : start ≤ second) :
    IsWord (slice line start (max first second)) ↔
      IsWord (slice line start first) ∧ IsWord (slice line start second) := by
  rcases Nat.le_total first second with hle | hle
  · rw [Nat.max_eq_right hle, ← slice_append_slice line hf hle, isWord_append]
    exact ⟨fun h => ⟨h.1, h⟩, fun h => h.2⟩
  · rw [Nat.max_eq_left hle, ← slice_append_slice line hs hle, isWord_append]
    exact ⟨fun h => ⟨h, h.1⟩, fun h => h.1⟩

/-! ### The comment -/

/- What stands before the comment. -/
theorem take_commentStart? (line : Text) :
    line.take ((commentStart? line).getD line.length) = line.takeWhile (· != '#') := by
  have hmark : (fun c : Char => !(c != '#')) = (· == '#') := by
    funext c
    simp [bne]
  rw [commentStart?, ← List.findIdx_eq_getD_findIdx?, List.takeWhile_eq_take_findIdx_not, hmark]

theorem not_mem_take_of_commentStart? {line : Text} {column : Nat}
    (h : (commentStart? line).any (· < column) = false) : '#' ∉ line.take column := by
  intro hmem
  obtain ⟨index, hindex, hchar⟩ := List.mem_take_iff_getElem.1 hmem
  have hbound : index < column ∧ index < line.length := by omega
  cases hc : commentStart? line with
  | none =>
    rw [commentStart?, List.findIdx?_eq_none_iff] at hc
    have hno := hc '#' (hchar ▸ List.getElem_mem hbound.2)
    simp at hno
  | some first =>
    rw [hc] at h
    have hfirst : column ≤ first := by simpa using h
    rw [commentStart?, List.findIdx?_eq_some_iff_getElem] at hc
    obtain ⟨_, _, hbefore⟩ := hc
    have hno := hbefore index (by omega)
    simp [hchar] at hno

/-! ### The start of a word -/

theorem trailingWord_suffix (t : Text) : trailingWord t <:+ t := by
  have h : t.reverse.takeWhile isWordChar <+: t.reverse := List.takeWhile_prefix isWordChar
  rw [← List.reverse_suffix] at h
  simpa [trailingWord] using h

theorem isWordChar_of_mem_trailingWord {t : Text} {c : Char} (h : c ∈ trailingWord t) :
    isWordChar c = true := by
  rw [trailingWord, List.mem_reverse] at h
  exact List.all_eq_true.1 List.all_takeWhile c h

theorem wordStart_le (line : Text) (cursor : Nat) : wordStart line cursor ≤ min cursor line.length :=
  Nat.sub_le _ _

theorem slice_wordStart {line : Text} {cursor : Nat} (h : cursor ≤ line.length) :
    slice line (wordStart line cursor) cursor = trailingWord (line.take cursor) := by
  obtain ⟨before, heq⟩ := trailingWord_suffix (line.take cursor)
  have hlength := congrArg List.length heq
  rw [List.length_append, List.length_take, Nat.min_eq_left h] at hlength
  have hstart : wordStart line cursor = before.length := by
    rw [wordStart, Nat.min_eq_left h]
    omega
  have hdrop : (before ++ trailingWord (line.take cursor)).drop before.length =
      trailingWord (line.take cursor) := List.drop_left
  rw [heq] at hdrop
  rw [slice, hstart, hdrop]

/-! ### Tokens -/

/- A token is the word that ends at the cursor, and the cursor is not in a comment. -/
theorem classify?_columns {plugins : Plugin.Directory} {limits : Limits} {line : Text} {cursor : Nat}
    {trigger : Trigger} {token : Token}
    (h : classify? plugins limits line cursor trigger = some token) :
    token.stop = min cursor line.length ∧ token.start = wordStart line token.stop ∧
      slice line token.start token.stop = token.text ∧ '#' ∉ line.take token.stop := by
  unfold classify? at h
  simp only at h
  split at h
  · cases h
  · next hc =>
    have hcomment := not_mem_take_of_commentStart? (eq_false_of_ne_true hc)
    split at h
    · next hempty =>
      split at h
      · cases h
      · cases h
        refine ⟨rfl, rfl, ?_, hcomment⟩
        apply List.eq_nil_of_length_eq_zero
        simp only [length_slice, hempty]
        omega
    · split at h
      · cases h
      · obtain ⟨kind, _, rfl⟩ := Option.map_eq_some_iff.1 h
        exact ⟨rfl, rfl, rfl, hcomment⟩

/-- The token lies inside the line, and no comment has begun before its end. -/
structure Spans (token : Token) (line : Text) : Prop where
  start_le : token.start ≤ token.stop
  stop_le : token.stop ≤ line.length
  text : slice line token.start token.stop = token.text
  uncommented : '#' ∉ line.take token.stop
  isWord : IsWord token.text

theorem classify?_spans {plugins : Plugin.Directory} {limits : Limits} {line : Text} {cursor : Nat}
    {trigger : Trigger} {token : Token}
    (h : classify? plugins limits line cursor trigger = some token) : Spans token line := by
  obtain ⟨hstop, hstart, htext, hcomment⟩ := classify?_columns h
  have hl : token.stop ≤ line.length := by omega
  have hle := wordStart_le line token.stop
  refine ⟨by omega, hl, htext, hcomment, ?_⟩
  intro c hc
  rw [← htext] at hc
  have hnot : c ≠ '#' := by
    rintro rfl
    exact hcomment (List.mem_of_mem_drop hc)
  rw [hstart, slice_wordStart hl] at hc
  have hchar := isWordChar_of_mem_trailingWord hc
  exact ⟨by simpa [isWordChar] using hchar, hnot⟩

/-! ### The end of a word -/

/- How far a run of characters reaches. -/
theorem le_length_takeWhile_iff (p : Char → Bool) (t : Text) (n : Nat) :
    n ≤ (t.takeWhile p).length ↔ n ≤ t.length ∧ ∀ c ∈ t.take n, p c = true := by
  induction t generalizing n with
  | nil => simp
  | cons c t ih =>
    cases n with
    | zero => simp
    | succ n =>
      by_cases hc : p c = true
      · simp [hc, ih]
      · simp [hc]

theorem wordEnd_eq {line : Text} {start : Nat} (hstart : start ≤ line.length)
    (hcomment : '#' ∉ line.take start) :
    wordEnd line start =
      start + ((line.drop start).takeWhile fun c => isWordChar c && c != '#').length := by
  have hbefore : ∀ c ∈ line.take start, (c != '#') = true := by
    intro c hc
    simp only [bne_iff_ne]
    rintro rfl
    exact hcomment hc
  have hdrop : (line.takeWhile (· != '#')).drop start = (line.drop start).takeWhile (· != '#') := by
    have hsplit : line.takeWhile (· != '#') =
        line.take start ++ (line.drop start).takeWhile (· != '#') := by
      rw [← List.takeWhile_append_of_pos hbefore, List.take_append_drop]
    have hlength : (line.take start).length = start := by
      rw [List.length_take, Nat.min_eq_left hstart]
    rw [hsplit, List.drop_left' hlength]
  have hboth : (fun c => decide (isWordChar c = true ∧ (c != '#') = true)) =
      fun c => isWordChar c && c != '#' := by
    funext c
    rw [Bool.decide_and, Bool.decide_eq_true, Bool.decide_eq_true]
  rw [wordEnd, take_commentStart?, hdrop, List.takeWhile_takeWhile, hboth]

theorem le_wordEnd (line : Text) (start : Nat) : start ≤ wordEnd line start := Nat.le_add_right ..

theorem wordEnd_le {line : Text} {start : Nat} (h : start ≤ line.length) :
    wordEnd line start ≤ line.length := by
  have hrun := (List.takeWhile_prefix isWordChar
    (l := (line.take ((commentStart? line).getD line.length)).drop start)).length_le
  rw [List.length_drop, List.length_take] at hrun
  rw [wordEnd]
  omega

/-- A column lies in the word exactly if neither a blank nor a comment stands before it. -/
theorem le_wordEnd_iff {line : Text} {start stop : Nat} (hcomment : '#' ∉ line.take start)
    (hs : start ≤ stop) (hl : stop ≤ line.length) :
    stop ≤ wordEnd line start ↔ IsWord (slice line start stop) := by
  have hrun := le_length_takeWhile_iff (fun c => isWordChar c && c != '#') (line.drop start)
    (stop - start)
  rw [← slice_eq_take_drop, List.length_drop] at hrun
  rw [wordEnd_eq (Nat.le_trans hs hl) hcomment]
  constructor
  · intro h c hc
    have hchar := (hrun.1 (by omega)).2 c hc
    simpa [isWordChar] using hchar
  · intro h
    have hchars : ∀ c ∈ slice line start stop, (isWordChar c && c != '#') = true := by
      intro c hc
      simpa [isWordChar] using h c hc
    have hle := hrun.2 ⟨by omega, hchars⟩
    omega

section

variable {token : Token} {line : Text}

theorem Spans.start_le_length (h : Spans token line) : token.start ≤ line.length :=
  Nat.le_trans h.start_le h.stop_le

theorem Spans.uncommented_start (h : Spans token line) : '#' ∉ line.take token.start := by
  intro hmem
  have htake : line.take token.start <+: line.take token.stop :=
    List.take_prefix_take_left h.start_le
  exact h.uncommented (htake.subset hmem)

/- A column at or after the start is in the word exactly if the text up to it is one word. -/
theorem Spans.le_wordEnd_iff (h : Spans token line) {column : Nat} (hs : token.start ≤ column)
    (hl : column ≤ line.length) :
    column ≤ wordEnd line token.start ↔ IsWord (slice line token.start column) :=
  Line.le_wordEnd_iff h.uncommented_start hs hl

theorem Spans.stop_le_wordEnd (h : Spans token line) : token.stop ≤ wordEnd line token.start := by
  rw [h.le_wordEnd_iff h.start_le h.stop_le, h.text]
  exact h.isWord

end

end RuleHints.Line
