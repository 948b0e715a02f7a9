import RuleHints.Line.Classify
import RuleHints.Proofs.Text.Ends

/-!
# What a classified word says

The value of a plugin or of a variable is found only after the name of a plugin of the directory, and
the name can be read back from the word. The enter key takes away what has a value already; a token that
it or any other trigger gives is the token that the arrival of hints gives.
-/

namespace RuleHints

/-- What is offered for a word after the enter key: no value is typed yet, and a host value or the name
of a variable is not asked for. -/
def TokenKind.isOpen (word : Text) : TokenKind → Bool
  | .protocol => true
  | .atValue _ | .variableName _ => false
  | .variableValue _ _ value | .pluginValue _ _ value => value.isEmpty
  | .pluginName _ _ => word == "pipe://" || word == "sniCallback://"

namespace Line

/-! ### Names of plugins -/

/-- Only characters of plugin names. -/
def IsName (t : Text) : Prop := ∀ c ∈ t, isNameChar c = true

theorem splitName?_eq_some {t name rest : Text} (h : splitName? t = some (name, rest)) :
    IsName name ∧ t = name ++ rest := by
  simp only [splitName?] at h
  split at h
  · cases h
  · cases h
    refine ⟨fun c hc => ?_, List.takeWhile_append_dropWhile.symm⟩
    exact List.all_eq_true.1 List.all_takeWhile c hc

theorem IsName.not_mem_dot {t : Text} (h : IsName t) : '.' ∉ t := fun hc =>
  absurd (h '.' hc) (by decide)

theorem IsName.not_mem_colon {t : Text} (h : IsName t) : ':' ∉ t := fun hc =>
  absurd (h ':' hc) (by decide)

/-- A name of a plugin stands for itself. -/
theorem IsName.canonicalName {name : Text} (h : IsName name) :
    Plugin.Directory.canonicalName name = name := by
  have ht : Text.dropTail ":" name = name :=
    Text.dropTail_of_not_mem (by decide : ':' ∈ (":" : Text)) h.not_mem_colon
  have hl : Text.dropLead Plugin.moduleLead name = name :=
    Text.dropLead_of_not_mem (by decide : '.' ∈ Plugin.moduleLead) h.not_mem_dot
  rw [Plugin.Directory.canonicalName, ht, hl]

theorem IsName.shortName_of_get? {name : Text} {plugins : Plugin.Directory}
    {plugin : Plugin.Metadata} (h : IsName name) (hp : plugins.get? name = some plugin) :
    plugin.shortName = name := by
  have hs := List.find?_some hp
  rw [h.canonicalName] at hs
  exact of_decide_eq_true hs

/-! ### The value of a variable -/

theorem splitVariable?_isName {t name value : Text} {separator : Separator}
    (h : splitVariable? t = some (name, separator, value)) : IsName name := by
  simp only [splitVariable?, Option.bind_eq_bind, Option.bind_eq_some_iff] at h
  obtain ⟨⟨name', rest⟩, hs, hr⟩ := h
  have hn := (splitName?_eq_some hs).1
  cases rest with
  | nil => cases hr
  | cons c value' =>
    simp only [Option.bind_eq_some_iff] at hr
    obtain ⟨separator', _, he⟩ := hr
    cases he
    exact hn

theorem classifyVariable?_variableValue {plugins : Plugin.Directory} {limits : Limits}
    {byEnter : Bool} {rest name value : Text} {separator : Separator}
    (h : classifyVariable? plugins limits byEnter rest =
      some (.variableValue name separator value)) :
    IsName name ∧ ∃ plugin, plugins.get? name = some plugin := by
  unfold classifyVariable? at h
  split at h
  · split at h <;> cases h
  · next name' separator' value' hs =>
    split at h
    · cases h
    · next hv =>
      split at h
      · cases h
      · cases h
        refine ⟨splitVariable?_isName hs, ?_⟩
        cases hg : plugins.get? name with
        | none => simp [hg] at hv
        | some plugin => exact ⟨plugin, rfl⟩

theorem classifyVariable?_ne_pluginValue {plugins : Plugin.Directory} {limits : Limits}
    {byEnter : Bool} {rest name protocol value : Text} :
    classifyVariable? plugins limits byEnter rest ≠ some (.pluginValue name protocol value) := by
  unfold classifyVariable?
  split
  · split <;> simp
  · split
    · simp
    · split <;> simp

/-! ### The value of a plugin -/

theorem splitProtocol?_eq_some {word protocol name value : Text}
    (h : splitProtocol? word = some (protocol, name, value)) :
    IsName name ∧ (protocol = name ∨ protocol = Plugin.moduleLead ++ name) := by
  simp only [splitProtocol?, Option.bind_eq_bind, Option.bind_eq_some_iff] at h
  obtain ⟨⟨name', rest⟩, hs, hr⟩ := h
  have hn := (splitName?_eq_some hs).1
  cases hd : Text.dropLead? Plugin.moduleLead word with
  | none =>
    simp only [hd] at hr
    split at hr <;> cases hr <;> exact ⟨hn, Or.inl rfl⟩
  | some rest' =>
    simp only [hd] at hr
    split at hr <;> cases hr <;> exact ⟨hn, Or.inr rfl⟩

theorem classifyPlugin?_eq_some {plugins : Plugin.Directory} {limits : Limits} {byEnter : Bool}
    {word : Text} {kind : TokenKind}
    (h : classifyPlugin? plugins limits byEnter word = some (some kind)) :
    ∃ name protocol value, kind = .pluginValue name protocol value ∧ IsName name ∧
      (protocol = name ∨ protocol = Plugin.moduleLead ++ name) ∧
        ∃ plugin, plugins.get? name = some plugin := by
  simp only [classifyPlugin?, Option.bind_eq_bind, Option.bind_eq_some_iff] at h
  obtain ⟨⟨protocol, name, value⟩, hs, plugin, hf, hr⟩ := h
  obtain ⟨hn, hp⟩ := splitProtocol?_eq_some hs
  have hg : plugins.get? name = some plugin := (Option.filter_eq_some_iff.1 hf).1
  have hsn : plugin.shortName = name := hn.shortName_of_get? hg
  split at hr
  · cases hr
  · cases hr
    refine ⟨plugin.shortName, protocol, value, rfl, ?_⟩
    rw [hsn]
    exact ⟨hn, hp, plugin, hg⟩

/-! ### Words -/

theorem classifyWord?_variableValue {plugins : Plugin.Directory} {limits : Limits}
    {trigger : Trigger} {word name value : Text} {separator : Separator}
    (h : classifyWord? plugins limits trigger word = some (.variableValue name separator value)) :
    IsName name ∧ ∃ plugin, plugins.get? name = some plugin := by
  unfold classifyWord? at h
  simp only at h
  split at h
  · split at h <;> cases h
  · split at h
    · split at h <;> cases h
    · split at h
      · exact classifyVariable?_variableValue h
      · split at h
        · next kind hk =>
          subst h
          obtain ⟨_, _, _, he, _⟩ := classifyPlugin?_eq_some hk
          cases he
        · split at h <;> cases h

theorem classifyWord?_pluginValue {plugins : Plugin.Directory} {limits : Limits}
    {trigger : Trigger} {word name protocol value : Text}
    (h : classifyWord? plugins limits trigger word = some (.pluginValue name protocol value)) :
    IsName name ∧ (protocol = name ∨ protocol = Plugin.moduleLead ++ name) ∧
      ∃ plugin, plugins.get? name = some plugin := by
  unfold classifyWord? at h
  simp only at h
  split at h
  · split at h <;> cases h
  · split at h
    · split at h <;> cases h
    · split at h
      · exact absurd h classifyVariable?_ne_pluginValue
      · split at h
        · next kind hk =>
          subst h
          obtain ⟨_, _, _, he, hfacts⟩ := classifyPlugin?_eq_some hk
          cases he
          exact hfacts
        · split at h <;> cases h

/-! ### The trigger -/

section

variable (plugins : Plugin.Directory) (limits : Limits)

theorem classifyVariable?_byEnter (word rest : Text) :
    classifyVariable? plugins limits true rest =
      (classifyVariable? plugins limits false rest).filter (·.isOpen word) := by
  unfold classifyVariable?
  cases splitVariable? rest with
  | none => rfl
  | some parts =>
    obtain ⟨name, separator, value⟩ := parts
    simp only
    split
    · rfl
    · cases value with
      | nil => rfl
      | cons c value =>
        -- A value is refused, be it too long for the other triggers or not.
        have hrefused : (!(c :: value).isEmpty && (true || limits.varLength < (c :: value).length)) =
            true := rfl
        rw [if_pos hrefused]
        split <;> rfl

theorem classifyPlugin?_byEnter (word : Text) :
    classifyPlugin? plugins limits true word =
      (classifyPlugin? plugins limits false word).map (·.filter (·.isOpen word)) := by
  unfold classifyPlugin?
  cases splitProtocol? word with
  | none => rfl
  | some parts =>
    obtain ⟨protocol, name, value⟩ := parts
    cases hf : (plugins.get? name).filter (·.hasHints) with
    | none => simp only [Option.bind_eq_bind, Option.bind_some, hf, Option.bind_none, Option.map_none]
    | some plugin =>
      simp only [Option.bind_eq_bind, Option.bind_some, hf]
      cases value with
      | nil => rfl
      | cons c value =>
        have hrefused : (!(c :: value).isEmpty && (limits.hintLength < (c :: value).length || true)) =
            true := by simp
        rw [if_pos hrefused]
        split <;> rfl

/- After the enter key a plugin can be named only where nothing of the name is typed. -/
theorem isOpen_pluginName {word spec : Text} (h : spec? word = some spec) (value : Text) :
    (TokenKind.pluginName spec value).isOpen word = !(word != spec ++ "://") := by
  have hmem : spec ∈ pluginSpecs := List.mem_of_find?_eq_some h
  have hiff : word = "pipe://" ∨ word = "sniCallback://" ↔ word = spec ++ "://" := by
    constructor
    · rintro (rfl | rfl) <;> cases h <;> rfl
    · rintro rfl
      simp only [pluginSpecs, List.mem_cons, List.not_mem_nil, or_false] at hmem
      rcases hmem with rfl | rfl
      · exact Or.inl rfl
      · exact Or.inr rfl
  rw [Bool.eq_iff_iff]
  simpa [TokenKind.isOpen] using hiff

/-- The enter key takes away what has a value, and nothing else. -/
theorem classifyWord?_enter (word : Text) :
    classifyWord? plugins limits .enter word =
      (classifyWord? plugins limits .character word).filter (·.isOpen word) := by
  simp only [classifyWord?, show (Trigger.enter == Trigger.enter) = true from rfl,
    show (Trigger.character == Trigger.enter) = false from rfl]
  cases Text.dropLead? "@" word with
  | some keyword => rfl
  | none =>
    cases hs : spec? word with
    | some spec =>
      simp only [Bool.true_and, Bool.false_and, Bool.false_eq_true, if_false,
        Option.filter_some, isOpen_pluginName hs]
      cases word != spec ++ "://" <;> rfl
    | none =>
      cases Text.dropLead? "%" word with
      | some rest => exact classifyVariable?_byEnter plugins limits word rest
      | none =>
        simp only [classifyPlugin?_byEnter]
        cases classifyPlugin? plugins limits false word with
        | some kind => rfl
        | none =>
          simp only [Option.map_none]
          split <;> rfl

end

/- Triggers other than the enter key agree on a word. -/
theorem classifyWord?_of_ne_enter {plugins : Plugin.Directory} {limits : Limits} {trigger : Trigger}
    (ht : trigger ≠ .enter) (word : Text) :
    classifyWord? plugins limits trigger word = classifyWord? plugins limits .character word := by
  have hb : (trigger == Trigger.enter) = (Trigger.character == Trigger.enter) := by
    cases trigger with
    | enter => exact absurd rfl ht
    | character | delete | manual | plugin => rfl
  simp only [classifyWord?, hb]

/-- The enter key only takes tokens away, and the other triggers agree on a word. -/
theorem classifyWord?_plugin {plugins : Plugin.Directory} {limits : Limits} {trigger : Trigger}
    {word : Text} {kind : TokenKind} (h : classifyWord? plugins limits trigger word = some kind) :
    classifyWord? plugins limits .plugin word = some kind := by
  rw [classifyWord?_of_ne_enter (by decide)]
  by_cases ht : trigger = .enter
  · rw [ht, classifyWord?_enter] at h
    exact (Option.filter_eq_some_iff.1 h).1
  · rw [classifyWord?_of_ne_enter ht] at h
    exact h

theorem classify?_eq_some {plugins : Plugin.Directory} {limits : Limits} {line : Text}
    {cursor : Nat} {trigger : Trigger} {token : Token}
    (h : classify? plugins limits line cursor trigger = some token) :
    token.kind = .protocol ∨
      classifyWord? plugins limits trigger token.text = some token.kind ∧
        classify? plugins limits line cursor .plugin = some token := by
  unfold classify? at h ⊢
  simp only at h ⊢
  split at h
  · cases h
  · next hc =>
    split at h
    · next he =>
      split at h
      · cases h
      · cases h
        exact Or.inl rfl
    · next hne =>
      split at h
      · cases h
      · next hl =>
        obtain ⟨kind, hk, rfl⟩ := Option.map_eq_some_iff.1 h
        refine Or.inr ⟨hk, ?_⟩
        rw [if_neg hc, if_neg hne, if_neg hl, classifyWord?_plugin hk]
        rfl

end Line

end RuleHints
