import RuleHints.Proofs.Line.Grammar

/-!
# What a trigger changes

The trigger decides which tokens of a line are taken away, never what they are. A deleted character
and the arrival of hints take away the token of an empty word. The enter key takes away every token
with a value, and the names of variables and of host values. Each of this is one equation with what a
typed character finds.
-/

namespace RuleHints

/-- The token is offered after the enter key. -/
def Token.isOpen (token : Token) : Bool := token.kind.isOpen token.text

namespace Line

/-- No word ends at the cursor: it stands at the start of the line or behind a blank. -/
def atGap (line : Text) (cursor : Nat) : Bool := (line.take cursor).getLast?.all Text.isBlank

theorem EndsWith.eq_nil_iff {line before word : Text} {cursor : Nat}
    (h : EndsWith (line.take cursor) before word) : word = [] ↔ atGap line cursor = true := by
  rw [atGap, h.eq, Option.all_eq_true]
  constructor
  · rintro rfl
    rw [List.append_nil]
    exact h.longest
  · intro hgap
    by_contra hne
    have hlast : (before ++ word).getLast? = some (word.getLast hne) := by
      rw [List.getLast?_append, List.getLast?_eq_some_getLast hne, Option.some_or]
    have hblank := hgap _ hlast
    have hchar := h.unbroken _ (List.getLast_mem hne)
    rw [hblank] at hchar
    cases hchar

section

variable (plugins : Plugin.Directory) (limits : Limits) (line : Text) (cursor : Nat)

/- A cursor stands in the comment, or behind a word that may be empty. -/
theorem comment_or_endsWith :
    '#' ∈ line.take cursor ∨
      '#' ∉ line.take cursor ∧ ∃ before word, EndsWith (line.take cursor) before word := by
  by_cases hcomment : '#' ∈ line.take cursor
  · exact Or.inl hcomment
  · obtain ⟨before, hends⟩ := exists_endsWith (line.take cursor)
    exact Or.inr ⟨hcomment, before, _, hends⟩

theorem classify?_of_same {first second : Trigger} (hf : first ≠ .enter) (hs : second ≠ .enter)
    (hsame : first.suppressesEmptyWord = second.suppressesEmptyWord) :
    classify? plugins limits line cursor first = classify? plugins limits line cursor second := by
  rcases comment_or_endsWith line cursor with hcomment | ⟨hcomment, before, word, hends⟩
  · rw [classify?_of_comment hcomment, classify?_of_comment hcomment]
  · rw [classify?_of_endsWith hcomment hends, classify?_of_endsWith hcomment hends, hsame,
      classifyWord?_of_ne_enter hf, classifyWord?_of_ne_enter hs]

theorem classify?_delete :
    classify? plugins limits line cursor .delete =
      if atGap line cursor then none else classify? plugins limits line cursor .character := by
  rcases comment_or_endsWith line cursor with hcomment | ⟨hcomment, before, word, hends⟩
  · rw [classify?_of_comment hcomment, classify?_of_comment hcomment, ite_self]
  · rw [classify?_of_endsWith hcomment hends, classify?_of_endsWith hcomment hends]
    by_cases hempty : word = []
    · rw [if_pos hempty, if_pos (hends.eq_nil_iff.1 hempty)]
      rfl
    · have hgap : ¬atGap line cursor = true := fun hgap => hempty (hends.eq_nil_iff.2 hgap)
      rw [if_neg hempty, if_neg hgap, if_neg hempty, classifyWord?_of_ne_enter (by decide)]

theorem classify?_enter :
    classify? plugins limits line cursor .enter =
      (classify? plugins limits line cursor .character).filter (·.isOpen) := by
  rcases comment_or_endsWith line cursor with hcomment | ⟨hcomment, before, word, hends⟩
  · rw [classify?_of_comment hcomment, classify?_of_comment hcomment]
    rfl
  · rw [classify?_of_endsWith hcomment hends, classify?_of_endsWith hcomment hends]
    by_cases hempty : word = []
    · rw [if_pos hempty, if_pos hempty]
      rfl
    · rw [if_neg hempty, if_neg hempty]
      by_cases hlong : limits.hintLength < word.length
      · rw [if_pos hlong, if_pos hlong]
        rfl
      · -- The token of a word is open if its kind is.
        rw [if_neg hlong, if_neg hlong, classifyWord?_enter, Option.filter_map]
        rfl

end

/-- Triggers only ever take tokens away. A typed character and a request by hand find the same token,
and so do a deleted character and the arrival of hints, which miss that of an empty word and no other.
The enter key finds the token of a typed character or none. So the value of a plugin or of a variable
is found again when its hints arrive. -/
theorem triggers_only_remove (plugins : Plugin.Directory) (limits : Limits) (line : Text)
    (cursor : Nat) :
    classify? plugins limits line cursor .manual = classify? plugins limits line cursor .character ∧
    classify? plugins limits line cursor .plugin = classify? plugins limits line cursor .delete ∧
    classify? plugins limits line cursor .delete =
      (if atGap line cursor then none else classify? plugins limits line cursor .character) ∧
    (classify? plugins limits line cursor .enter = none ∨
      classify? plugins limits line cursor .enter =
        classify? plugins limits line cursor .character) ∧
    ∀ trigger token, classify? plugins limits line cursor trigger = some token →
      (∃ name protocol value, token.kind = .pluginValue name protocol value) ∨
        (∃ name separator value, token.kind = .variableValue name separator value) →
      classify? plugins limits line cursor .plugin = some token := by
  have hmanual := classify?_of_same plugins limits line cursor
    (by decide : Trigger.manual ≠ .enter) (by decide : Trigger.character ≠ .enter) rfl
  have hplugin := classify?_of_same plugins limits line cursor
    (by decide : Trigger.plugin ≠ .enter) (by decide : Trigger.delete ≠ .enter) rfl
  refine ⟨hmanual, hplugin, classify?_delete .., ?_, ?_⟩
  · rw [classify?_enter]
    cases classify? plugins limits line cursor .character with
    | none => exact Or.inl rfl
    | some token =>
      rw [Option.filter_some]
      split
      · exact Or.inr rfl
      · exact Or.inl rfl
  · intro trigger token htoken hkind
    have hother : token.kind ≠ .protocol := by
      intro hprotocol
      rw [hprotocol] at hkind
      rcases hkind with ⟨_, _, _, h⟩ | ⟨_, _, _, h⟩ <;> cases h
    exact ((classify?_eq_some htoken).resolve_left hother).2

/- Behind a blank, and right behind the separator of a variable. -/
theorem variable_found_again :
    let plugins := Plugin.Directory.ofList [{ moduleName := "whistle.echo", vars := some {} }]
    let token : Token := ⟨.variableValue "echo" .key [], "%echo.", 2, 8⟩
    (atGap "x %echo." 2 = true ∧ classify? plugins {} "x %echo." 2 .plugin = none) ∧
      classify? plugins {} "x %echo." 8 .enter = some token ∧
        classify? plugins {} "x %echo." 8 .plugin = some token := by
  intro plugins token
  have hgap : atGap "x %echo." 2 = true := by decide
  have henter : classify? plugins {} "x %echo." 8 .enter = some token := by decide
  obtain ⟨-, hsame, hdelete, -⟩ := triggers_only_remove plugins {} "x %echo." 2
  obtain ⟨-, -, -, -, hagain⟩ := triggers_only_remove plugins {} "x %echo." 8
  refine ⟨⟨hgap, ?_⟩, henter, hagain .enter token henter (Or.inr ⟨_, _, _, rfl⟩)⟩
  rw [hsame, hdelete, if_pos hgap]

/-- The enter key finds exactly the tokens of a typed character without a value. Host values and names
of variables are not offered, a plugin is named only after `pipe://` or `sniCallback://` alone, and the
values of a plugin and of a variable are offered only as long as nothing of them is typed. -/
theorem enter_offers_open_tokens (plugins : Plugin.Directory) (limits : Limits) (line : Text)
    (cursor : Nat) :
    classify? plugins limits line cursor .enter =
      (classify? plugins limits line cursor .character).filter (·.isOpen) ∧
    ∀ token, classify? plugins limits line cursor .enter = some token →
      (∀ keyword, token.kind ≠ .atValue keyword) ∧
      (∀ value, token.kind ≠ .variableName value) ∧
      (∀ name separator value, token.kind = .variableValue name separator value → value = []) ∧
      (∀ spec value, token.kind = .pluginName spec value →
        token.text = "pipe://" ∨ token.text = "sniCallback://") ∧
      (∀ name protocol value, token.kind = .pluginValue name protocol value → value = []) := by
  refine ⟨classify?_enter .., fun token htoken => ?_⟩
  rw [classify?_enter] at htoken
  have hopen : token.kind.isOpen token.text = true := (Option.filter_eq_some_iff.1 htoken).2
  refine ⟨?_, ?_, ?_, ?_, ?_⟩
  · intro keyword hkind
    simp [hkind, TokenKind.isOpen] at hopen
  · intro value hkind
    simp [hkind, TokenKind.isOpen] at hopen
  · intro name separator value hkind
    simpa [hkind, TokenKind.isOpen] using hopen
  · intro spec value hkind
    simpa [hkind, TokenKind.isOpen] using hopen
  · intro name protocol value hkind
    simpa [hkind, TokenKind.isOpen] using hopen

/- The value of a variable is offered after the enter key, right behind its separator. -/
theorem enter_offers_variable_values :
    ¬∀ plugins limits line cursor token, classify? plugins limits line cursor .enter = some token →
      ∀ name separator value, token.kind ≠ .variableValue name separator value := by
  intro hnever
  let plugins := Plugin.Directory.ofList [{ moduleName := "whistle.echo", vars := some {} }]
  have htoken : classify? plugins {} "%echo=" 6 .enter =
      some ⟨.variableValue "echo" .value [], "%echo=", 0, 6⟩ := by decide
  exact hnever _ _ _ _ _ htoken _ _ _ rfl

end Line

end RuleHints
