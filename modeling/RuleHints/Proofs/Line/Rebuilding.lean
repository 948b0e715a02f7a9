import RuleHints.Proofs.Line.Grammar

/-!
# Rebuilding a word

The parts of a token, put together with the marks between them, are the word that was typed. The value
after `pipe:` and `sniCallback:` is the exception. It begins two bytes behind the colon, whatever these
bytes are, so the word can be rebuilt only if they are slashes or if nothing more was typed.
-/

namespace RuleHints

namespace TokenKind

/-- What is typed between a protocol and its value, in part or as a whole. -/
def marks : List Text := [":", ":/", "://"]

/-- The word is made of the parts that the token says. A protocol has no parts. -/
def Rebuilds : TokenKind → Text → Prop
  | .protocol, _ => True
  | .atValue keyword, word => word = '@' :: keyword
  | .variableName value, word => word = '%' :: value
  | .variableValue plugin separator value, word => word = '%' :: (plugin ++ separator.toChar :: value)
  | .pluginName spec value, word => ∃ mark ∈ marks, word = spec ++ mark ++ value
  | .pluginValue _ lead value, word => ∃ mark ∈ marks, word = lead ++ mark ++ value

instance : (kind : TokenKind) → (word : Text) → Decidable (kind.Rebuilds word)
  | .protocol, _ => inferInstanceAs (Decidable True)
  | .atValue keyword, word => inferInstanceAs (Decidable (word = '@' :: keyword))
  | .variableName value, word => inferInstanceAs (Decidable (word = '%' :: value))
  | .variableValue plugin separator value, word =>
    inferInstanceAs (Decidable (word = '%' :: (plugin ++ separator.toChar :: value)))
  | .pluginName spec value, word =>
    inferInstanceAs (Decidable (∃ mark ∈ marks, word = spec ++ mark ++ value))
  | .pluginValue _ lead value, word =>
    inferInstanceAs (Decidable (∃ mark ∈ marks, word = lead ++ mark ++ value))

end TokenKind

namespace Line

theorem IsPluginProtocol.rebuilds {word protocol name value : Text}
    (h : IsPluginProtocol word protocol name value) :
    (TokenKind.pluginValue name protocol value).Rebuilds word := by
  rcases h.eq with ⟨hword | hword, rfl⟩ | hword
  · exact ⟨":", by decide, by rw [hword, List.append_nil]⟩
  · exact ⟨":/", by decide, by rw [hword, List.append_nil]⟩
  · exact ⟨"://", by decide, hword⟩

/-! ### The value after `pipe:` and `sniCallback:` -/

theorem rebuilds_pluginName_iff {spec rest value : Text} :
    (TokenKind.pluginName spec value).Rebuilds (spec ++ ':' :: rest) ↔
      rest = value ∨ rest = '/' :: value ∨ rest = '/' :: '/' :: value := by
  have hmark : ∀ mark, spec ++ ':' :: rest = spec ++ (':' :: mark) ++ value ↔ rest = mark ++ value := by
    intro mark
    rw [List.append_assoc, List.append_cancel_left_eq, List.cons_append, List.cons_eq_cons]
    simp only [true_and]
  constructor
  · rintro ⟨mark, hmem, heq⟩
    simp only [TokenKind.marks, List.mem_cons, List.not_mem_nil, or_false] at hmem
    rcases hmem with rfl | rfl | rfl
    · exact Or.inl ((hmark []).1 heq)
    · exact Or.inr (Or.inl ((hmark ['/']).1 heq))
    · exact Or.inr (Or.inr ((hmark ['/', '/']).1 heq))
  · rintro (heq | heq | heq)
    · exact ⟨":", by decide, (hmark []).2 heq⟩
    · exact ⟨":/", by decide, (hmark ['/']).2 heq⟩
    · exact ⟨"://", by decide, (hmark ['/', '/']).2 heq⟩

/- What was typed before a value is two bytes long, unless the value is empty. -/
theorem IsSpecValue.eq_nil {rest value : Text} (h : IsSpecValue rest value) (typed : Text)
    (heq : rest = typed ++ value) (hsize : Text.byteSize typed ≠ 2) : value = [] := by
  rcases h with ⟨skipped, hskipped, hcut⟩ | ⟨hnil, -⟩
  · have hsame : typed = skipped := List.append_cancel_right (heq.symm.trans hcut)
    exact absurd (hsame ▸ hskipped) hsize
  · exact hnil

theorem IsSpecValue.rebuilds_iff {spec rest value : Text} (h : IsSpecValue rest value) :
    (TokenKind.pluginName spec value).Rebuilds (spec ++ ':' :: rest) ↔
      rest = [] ∨ rest = "/" ∨ "//" <+: rest := by
  rw [rebuilds_pluginName_iff]
  constructor
  · rintro (heq | heq | heq)
    · have hnil : value = [] := h.eq_nil [] heq (by decide)
      exact Or.inl (heq.trans hnil)
    · have hnil : value = [] := h.eq_nil ['/'] heq (by decide)
      rw [heq, hnil]
      exact Or.inr (Or.inl rfl)
    · exact Or.inr (Or.inr ⟨value, heq.symm⟩)
  · rw [isSpecValue_iff] at h
    rintro (rfl | rfl | ⟨tail, rfl⟩)
    · exact Or.inl h
    · exact Or.inr (Or.inl (by rw [← h]; rfl))
    · have hcut : Text.dropBytes? 2 ("//" ++ tail) = some tail :=
        Text.dropBytes?_eq_some.2 ⟨"//", rfl, rfl⟩
      rw [hcut, Option.getD_some] at h
      rw [← h]
      exact Or.inr (Or.inr rfl)

/-! ### Every token -/

theorem Reads.rebuilds {plugins : Plugin.Directory} {limits : Limits} {word : Text} {kind : TokenKind}
    (h : Reads plugins limits word (some kind)) (hkind : ∀ spec value, kind ≠ .pluginName spec value) :
    kind.Rebuilds word := by
  cases h with
  | atValue keyword heq => exact heq
  | pluginName spec rest value => exact absurd rfl (hkind spec value)
  | variableValue name separator value hvariable => exact hvariable.eq
  | variableName rest heq => exact heq
  | pluginValue name protocol value _ hprotocol => exact hprotocol.rebuilds
  | protocol => trivial

/- The enter key finds no other tokens than those that hints find when they arrive. -/
theorem reads_of_classify? {plugins : Plugin.Directory} {limits : Limits} {line : Text} {cursor : Nat}
    {trigger : Trigger} {token : Token}
    (h : classify? plugins limits line cursor trigger = some token) :
    token.kind = .protocol ∨ Reads plugins limits token.text (some token.kind) := by
  rcases classify?_eq_some h with hprotocol | ⟨_, hplugin⟩
  · exact Or.inl hprotocol
  · obtain ⟨found, hfound⟩ := finds_total plugins limits line cursor .plugin
    have heq : some token = found := hplugin.symm.trans (hfound.classify?_eq (by decide))
    rw [← heq] at hfound
    exact hfound.reads

/-- A word can be rebuilt from its token. After `pipe:` and `sniCallback:` this holds exactly if nothing
more was typed than a slash, or if two slashes were typed first. Two bytes are left out of the value in
any case. -/
theorem typed_word_rebuilt (plugins : Plugin.Directory) (limits : Limits) (line : Text) (cursor : Nat)
    (trigger : Trigger) (token : Token)
    (h : classify? plugins limits line cursor trigger = some token) :
    ((∀ spec value, token.kind ≠ .pluginName spec value) → token.kind.Rebuilds token.text) ∧
      ∀ spec value, token.kind = .pluginName spec value →
        ∃ rest, IsSpec spec ∧ token.text = spec ++ ':' :: rest ∧ IsSpecValue rest value ∧
          (token.kind.Rebuilds token.text ↔ rest = [] ∨ rest = "/" ∨ "//" <+: rest) := by
  constructor
  · intro hkind
    rcases reads_of_classify? h with hprotocol | hreads
    · rw [hprotocol]
      trivial
    · exact hreads.rebuilds hkind
  · intro spec value hkind
    have hreads := reads_of_classify? h
    rw [hkind] at hreads ⊢
    cases hreads.resolve_left (by simp) with
    | pluginName _ rest _ hspec heq hvalue =>
      rw [heq]
      exact ⟨rest, hspec, rfl, hvalue, hvalue.rebuilds_iff⟩

/- A value of three bytes after two slashes, a protocol that is typed in part, and a variable. -/
theorem multibyte_words_rebuilt :
    let plugins := Plugin.Directory.ofList [{ moduleName := "whistle.echo", vars := some {} }]
    let full : Token := ⟨.pluginName "pipe" "語", "pipe://語", 2, 10⟩
    let partly : Token := ⟨.pluginName "sniCallback" [], "sniCallback:/", 0, 13⟩
    let var : Token := ⟨.variableValue "echo" .key "語", "%echo.語", 0, 7⟩
    (classify? plugins {} "x pipe://語" 10 .manual = some full ∧
      classify? plugins {} "sniCallback:/" 13 .delete = some partly ∧
      classify? plugins {} "%echo.語" 7 .character = some var) ∧
      (full.kind.Rebuilds full.text ∧ partly.kind.Rebuilds partly.text ∧ var.kind.Rebuilds var.text) := by
  intro plugins full partly var
  have hfull : classify? plugins {} "x pipe://語" 10 .manual = some full := by decide
  have hpartly : classify? plugins {} "sniCallback:/" 13 .delete = some partly := by decide
  have hvar : classify? plugins {} "%echo.語" 7 .character = some var := by decide
  refine ⟨⟨hfull, hpartly, hvar⟩, ?_, ?_, ?_⟩
  · obtain ⟨rest, -, htext, -, hiff⟩ := (typed_word_rebuilt _ _ _ _ _ _ hfull).2 _ _ rfl
    cases htext
    exact hiff.2 (by decide)
  · obtain ⟨rest, -, htext, -, hiff⟩ := (typed_word_rebuilt _ _ _ _ _ _ hpartly).2 _ _ rfl
    cases htext
    exact hiff.2 (by decide)
  · exact (typed_word_rebuilt _ _ _ _ _ _ hvar).1 (by rintro spec value ⟨⟩)

/- Without slashes the first two bytes of the name are lost, and all of it if a character stands across
the second. -/
theorem spec_without_slashes_cut :
    let cut : Token := ⟨.pluginName "pipe" "c", "pipe:abc", 0, 8⟩
    let across : Token := ⟨.pluginName "pipe" [], "pipe:語c", 0, 7⟩
    (classify? .empty {} "pipe:abc" 8 .manual = some cut ∧ ¬cut.kind.Rebuilds cut.text) ∧
      (classify? .empty {} "pipe:語c" 7 .manual = some across ∧ ¬across.kind.Rebuilds across.text) := by
  decide

end Line

end RuleHints
