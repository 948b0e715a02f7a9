import RuleHints.Proofs.Assistant.Run
import RuleHints.Proofs.Line.Checked

/-!
# The columns of a popup

Every popup replaces columns of the line, from the start of the token or further right, and at least
up to the end of the token. A popup of hints ends with the word; where it begins is up to the list,
but it never begins outside the word.
-/

namespace RuleHints

/-- The popup replaces columns of the line, none before the token, and the token is over before they
are. -/
structure Popup.Covers (popup : Popup) (line : Text) (token : Token) : Prop where
  starts : token.start ≤ popup.start
  ordered : popup.start ≤ popup.stop
  ends : token.stop ≤ popup.stop
  inside : popup.stop ≤ line.length

namespace Assistant

/-! ### Popups of hints -/

theorem hintStart_bound (position : InsertPosition) (cursor : Nat) {start stop : Nat}
    (h : start ≤ stop) :
    start ≤ hintStart position cursor start stop ∧ hintStart position cursor start stop ≤ stop := by
  cases position with
  | word => exact ⟨Nat.le_refl _, h⟩
  | cursor =>
    simp only [hintStart]
    omega
  | tail => exact ⟨h, Nat.le_refl _⟩

/- With or without an offset, the start is the place that the list asks for, cut at the end of the
word. -/
theorem start_hintPopup {line : Text} {cursor : Nat} {token : Token} {hints : HintSet}
    (hsum : hintStart hints.position cursor token.start (Line.wordEnd line token.start) +
      hints.offset < UInt64.size) :
    (hintPopup line cursor token hints).start =
      min (hintStart hints.position cursor token.start (Line.wordEnd line token.start) + hints.offset)
        (Line.wordEnd line token.start) := by
  have hbound := hintStart_bound hints.position cursor (Line.le_wordEnd line token.start)
  simp only [hintPopup, Line.shift_eq hsum]
  split
  · next hzero =>
    rw [hzero]
    omega
  · omega

/- Also a sum that wraps round is moved back into the word. -/
theorem covers_hintPopup {line : Text} {token : Token} (h : Line.Spans token line) (cursor : Nat)
    (hints : HintSet) : (hintPopup line cursor token hints).Covers line token := by
  have hword := Line.le_wordEnd line token.start
  have hbound := hintStart_bound hints.position cursor hword
  have hstart : token.start ≤ (hintPopup line cursor token hints).start ∧
      (hintPopup line cursor token hints).start ≤ Line.wordEnd line token.start := by
    simp only [hintPopup]
    split <;> omega
  exact ⟨hstart.1, hstart.2, h.stop_le_wordEnd, Line.wordEnd_le h.start_le_length⟩

def hintStart? (position : InsertPosition) (cursor start stop : Nat) : Option Nat :=
  match position with
  | .word => some start
  | .cursor => Line.clamp? cursor start stop
  | .tail => some stop

/-- A popup of hints, with every step checked. -/
def hintPopup? (line : Text) (cursor : Nat) (token : Token) (hints : HintSet) : Option Popup := do
  let stop ← Line.wordEnd? line token.start
  let place ← hintStart? hints.position cursor token.start stop
  let start ←
    if hints.offset = 0 then some place
    else (Line.shift? place hints.offset).map fun moved => min (max token.start moved) stop
  some { candidates := hints.candidates, start, stop, mode := .hint }

theorem hintStart?_eq (position : InsertPosition) (cursor : Nat) {start stop : Nat}
    (h : start ≤ stop) :
    hintStart? position cursor start stop = some (hintStart position cursor start stop) := by
  cases position with
  | word => rfl
  | cursor => exact Line.clamp?_eq cursor h
  | tail => rfl

/- The sum is the only step that can fail. -/
theorem hintPopup?_eq (line : Text) (cursor : Nat) (token : Token) (hints : HintSet) :
    hintPopup? line cursor token hints =
      (hintCompletion line cursor token hints).checked?.bind (·.popup) := by
  have hword := Line.le_wordEnd line token.start
  simp only [hintPopup?, Line.wordEnd?_eq, hintStart?_eq _ _ hword, Option.bind_eq_bind,
    Option.bind_some, Completion.checked?, hintCompletion, hintOverflows, hintPopup, Line.shift?]
  by_cases hzero : hints.offset = 0
  · simp [hzero]
  · by_cases hsum : Line.shiftOverflows
      (hintStart hints.position cursor token.start (Line.wordEnd line token.start)) hints.offset
    · simp [hzero, hsum]
    · simp [hzero, hsum]

/- Where the word starts to be replaced is a column of the line. -/
theorem hintStart_add_lt {line : Text} {token : Token} (h : Line.Spans token line) (cursor : Nat)
    {hints : HintSet} (hoffset : hints.offset + line.length < UInt64.size) :
    hintStart hints.position cursor token.start (Line.wordEnd line token.start) + hints.offset <
      UInt64.size := by
  have hend := Line.wordEnd_le h.start_le_length
  have hbound := hintStart_bound hints.position cursor (Line.le_wordEnd line token.start)
  omega

theorem hintPopup?_eq_some {line : Text} {token : Token} (h : Line.Spans token line) (cursor : Nat)
    {hints : HintSet} (hoffset : hints.offset + line.length < UInt64.size) :
    hintPopup? line cursor token hints = some (hintPopup line cursor token hints) := by
  have hsum := hintStart_add_lt h cursor hoffset
  have hfits : hintOverflows line cursor token hints = false := by
    simp only [hintOverflows, Line.shiftOverflows, Bool.and_eq_false_iff, decide_eq_false_iff_not]
    exact Or.inr (Nat.not_le.2 hsum)
  rw [hintPopup?_eq, Completion.checked?, hintCompletion, hfits]
  rfl

/-! ### Popups of a request -/

section

variable {assistant : Assistant} {state : State} {line : Text} {cursor : Nat} {token : Token}
  {popup : Popup}

theorem covers_of_tokenPopup (h : Line.Spans token line) {candidates : List Candidate}
    {mode : PopupMode} (hp : popup ∈ tokenPopup token candidates mode) :
    popup.start = token.start ∧ popup.Covers line token := by
  unfold tokenPopup at hp
  split at hp
  · cases hp
  · cases hp
    exact ⟨rfl, Nat.le_refl _, h.start_le, Nat.le_refl _, h.stop_le⟩

theorem covers_of_protocolPopup (h : Line.Spans token line) {sources : Sources}
    (hp : popup ∈ protocolPopup sources line token) :
    popup.start = token.start ∧ popup.Covers line token := by
  unfold protocolPopup at hp
  simp only at hp
  split at hp
  · cases hp
  · cases hp
    have hbound := h.protocolRange_bound (sources.protocolCandidates token.text)
    exact ⟨rfl, Nat.le_refl _, Nat.le_trans h.start_le hbound.2.1, hbound.2.1, hbound.2.2⟩

/- Only hints begin elsewhere than the token. -/
theorem covers_of_complete (h : Line.Spans token line)
    (hp : (assistant.complete state line cursor token).1.popup = some popup)
    (hm : popup.mode ≠ .hint) : popup.start = token.start ∧ popup.Covers line token := by
  cases hw : wanted? token with
  | some wanted =>
    simp only [complete, hw] at hp
    split at hp
    · cases hp
      exact absurd rfl hm
    · cases hp
    · split at hp
      · exact covers_of_protocolPopup h hp
      · cases hp
  | none =>
    simp only [complete, hw] at hp
    split at hp
    · exact covers_of_tokenPopup h hp
    · exact covers_of_tokenPopup h hp
    · exact covers_of_tokenPopup h hp
    · exact covers_of_protocolPopup h hp

/-- Where a popup for the token stands, if a popup of hints shows this list. -/
structure Placed (line : Text) (cursor : Nat) (token : Token) (hints : HintSet) (popup : Popup) :
    Prop where
  covers : popup.Covers line token
  other : popup.mode ≠ .hint → popup.start = token.start
  hint : popup.mode = .hint → popup = hintPopup line cursor token hints

theorem hintPopup_of_request {trigger : Trigger}
    (hp : (assistant.request state line cursor trigger).1.popup = some popup)
    (hm : popup.mode = .hint) :
    ∃ token, Line.classify? assistant.plugins assistant.settings.limits line cursor trigger =
        some token ∧
      popup = hintPopup line cursor token
        (assistant.request state line cursor trigger).2.fetcher.session.hints := by
  have answer := request_answer assistant state line cursor trigger
  generalize (assistant.request state line cursor trigger).1 = completion at answer hp
  generalize (assistant.request state line cursor trigger).2 = state' at answer ⊢
  cases answer with
  | other shown _ hother => exact absurd hm (hother popup hp)
  | nothing => cases hp
  | declared token wanted plugin hints asks =>
    cases hp
    exact ⟨token, asks.classified, rfl⟩
  | cached token wanted plugin asks =>
    cases hp
    exact ⟨token, asks.classified, rfl⟩
  | unavailable token wanted plugin shown _ _ _ hother => exact absurd hm (hother popup hp)
  | scheduled token wanted plugin endpoint shown _ _ _ hother _ => exact absurd hm (hother popup hp)

theorem request_placed {trigger : Trigger}
    (hp : (assistant.request state line cursor trigger).1.popup = some popup) :
    ∃ token, Line.classify? assistant.plugins assistant.settings.limits line cursor trigger =
        some token ∧
      Placed line cursor token
        (assistant.request state line cursor trigger).2.fetcher.session.hints popup := by
  by_cases hm : popup.mode = .hint
  · obtain ⟨token, ht, heq⟩ := hintPopup_of_request hp hm
    refine ⟨token, ht, ?_, fun hother => absurd hm hother, fun _ => heq⟩
    rw [heq]
    exact covers_hintPopup (Line.classify?_spans ht) cursor _
  · cases ht : Line.classify? assistant.plugins assistant.settings.limits line cursor trigger with
    | none => simp [request, ht] at hp
    | some token =>
      have hcomplete : (assistant.complete (beginRequest state line cursor) line cursor
          token).1.popup = some popup := by
        simpa only [request, ht] using hp
      obtain ⟨hstart, hcovers⟩ := covers_of_complete (Line.classify?_spans ht) hcomplete hm
      exact ⟨token, rfl, hcovers, fun _ => hstart, fun hhint => absurd hhint hm⟩

theorem receive_placed {event : HintEvent}
    (hp : (assistant.receive state event).1.popup = some popup) :
    ∃ line cursor token, state.latest = some (line, cursor) ∧
      Line.classify? assistant.plugins assistant.settings.limits line cursor .plugin = some token ∧
      Placed line cursor token (assistant.receive state event).2.fetcher.session.hints popup := by
  unfold receive at hp ⊢
  simp only at hp ⊢
  split at hp
  · next hfound =>
    rw [if_pos hfound]
    split at hp
    · next line cursor hlatest =>
      obtain ⟨token, ht, placed⟩ := request_placed hp
      exact ⟨line, cursor, token, hlatest, ht, placed⟩
    · cases hp
  · cases hp

end

/-- Whatever the state, a popup that a request for candidates shows, or the arrival of hints, covers the
token of its line and ends inside the line. It begins with the token, unless it shows hints: such a
popup ends with the word and begins where the list says, moved by the offset and cut at the end of the
word. No step on the way to these columns fails, as long as an offset can be added to a column. -/
theorem popup_range_around_word (assistant : Assistant) (state : State) :
    (∀ line cursor trigger popup,
      (assistant.request state line cursor trigger).1.popup = some popup →
        ∃ token, Line.classify? assistant.plugins assistant.settings.limits line cursor trigger =
            some token ∧
          Placed line cursor token
            (assistant.request state line cursor trigger).2.fetcher.session.hints popup) ∧
    (∀ event popup, (assistant.receive state event).1.popup = some popup →
      ∃ line cursor token, state.latest = some (line, cursor) ∧
        Line.classify? assistant.plugins assistant.settings.limits line cursor .plugin = some token ∧
        Placed line cursor token (assistant.receive state event).2.fetcher.session.hints popup) ∧
    ∀ line cursor trigger token,
      Line.classify? assistant.plugins assistant.settings.limits line cursor trigger = some token →
        (∀ hints : HintSet, hints.offset + line.length < UInt64.size →
          let popup := hintPopup line cursor token hints
          popup.Covers line token ∧ popup.stop = Line.wordEnd line token.start ∧
            popup.start = min
              (hintStart hints.position cursor token.start popup.stop + hints.offset) popup.stop ∧
            hintPopup? line cursor token hints = some popup) ∧
        (∀ candidates, Line.protocolRange? line token candidates =
          some (Line.protocolRange line token candidates)) ∧
        Line.wordStart? line token.stop = some token.start ∧
        Line.cut? line token.start token.stop = some token.text := by
  refine ⟨fun _ _ _ _ => request_placed, fun _ _ => receive_placed, ?_⟩
  intro line cursor trigger token ht
  have hspans := Line.classify?_spans ht
  obtain ⟨_, hstart, htext, _⟩ := Line.classify?_columns ht
  refine ⟨?_, Line.protocolRange?_eq line token, ?_, ?_⟩
  · intro hints hoffset popup
    exact ⟨covers_hintPopup hspans cursor hints, rfl,
      start_hintPopup (hintStart_add_lt hspans cursor hoffset),
      hintPopup?_eq_some hspans cursor hoffset⟩
  · rw [hstart]
    exact Line.wordStart?_eq line token.stop
  · rw [← htext]
    exact Line.cut?_eq hspans.start_le hspans.stop_le

/- The answer asks for nine columns to the right of the cursor, and after two of them the comment
begins. -/
theorem inspector_popup_at_comment :
    let line : Text := "x inspect://ab#c"
    let answer : HintEvent := ⟨1, .ok (.object [("list", .array [.string "abc"]),
      ("position", .string "cursor"), ("offset", Json.ofNat 9)])⟩
    let state := inspector.after [.request line 12 .character]
    let hints := (inspector.receive state answer).2.fetcher.session.hints
    let popup : Popup := ⟨[.ofText "inspect://abc"], 14, 14, .hint⟩
    (inspector.receive state answer).1.popup = some popup ∧
      ∃ token, token.stop = 12 ∧ popup.Covers line token ∧
        hintPopup? line 12 token hints = some popup := by
  intro line answer state hints popup
  have hp : (inspector.receive state answer).1.popup = some popup := by decide
  have hoffset : hints.offset + line.length < UInt64.size := by decide
  obtain ⟨_, hreceive, hsteps⟩ := popup_range_around_word inspector state
  obtain ⟨_, _, token, hlatest, ht, placed⟩ := hreceive answer popup hp
  cases hlatest
  obtain ⟨_, _, _, hchecked⟩ := (hsteps _ _ _ token ht).1 hints hoffset
  have hsame : popup = hintPopup line 12 token hints := placed.hint rfl
  exact ⟨hp, token, (Line.classify?_columns ht).1, placed.covers, hsame ▸ hchecked⟩

end Assistant

end RuleHints
