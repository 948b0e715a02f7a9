import RuleHints.Proofs.Line.Span
import RuleHints.Proofs.Text.Occurrence

/-!
# The grammar of words

What a word may be, said by its parts and not by the way in which it is read. `Reads` has a rule for
each kind of word and for each way in which nothing is offered; `Finds` adds the place of the word in
its line. Every word falls under a rule, and classification gives what the rule says. So the rules do
not contradict each other, and classification follows them exactly.
-/

namespace RuleHints

namespace Line

/-! ### The parts of a word -/

/-- The text ends with the word, which has no blanks and cannot be longer. -/
structure EndsWith (t before word : Text) : Prop where
  eq : t = before ++ word
  unbroken : ∀ c ∈ word, Text.isBlank c = false
  longest : ∀ c ∈ before.getLast?, Text.isBlank c = true

/-- `%`, a name, `=` or `.`, and a value. -/
structure IsVariable (word name : Text) (separator : Separator) (value : Text) : Prop where
  isName : IsName name
  nonempty : name ≠ []
  eq : word = '%' :: (name ++ separator.toChar :: value)

/-- A name, perhaps after `whistle.`, then `:` or `:/` and nothing more, or `://` and a value. -/
structure IsPluginProtocol (word protocol name value : Text) : Prop where
  isName : IsName name
  nonempty : name ≠ []
  protocol_eq : protocol = name ∨ protocol = "whistle." ++ name
  eq : (word = protocol ++ ":" ∨ word = protocol ++ ":/") ∧ value = [] ∨
    word = protocol ++ "://" ++ value

/-- The value after `pipe:` or `sniCallback:` begins two bytes further on. Where no character begins
there, it is empty. -/
def IsSpecValue (rest value : Text) : Prop :=
  (∃ skipped, Text.byteSize skipped = 2 ∧ rest = skipped ++ value) ∨
    value = [] ∧ ∀ skipped tail, rest = skipped ++ tail → Text.byteSize skipped ≠ 2

/-- The directory has a plugin of this name, and it is one of these. -/
def HasPlugin (plugins : Plugin.Directory) (name : Text) (p : Plugin.Metadata → Bool) : Prop :=
  ∃ plugin ∈ plugins.plugins, plugin.shortName = name ∧ p plugin = true

/-- The protocols after which a plugin is named. -/
def IsSpec (spec : Text) : Prop := spec = "pipe" ∨ spec = "sniCallback"

/-- The word begins as those of other kinds than protocols and values of plugins do. -/
def IsMarked (word : Text) : Prop :=
  (∃ rest, word = '@' :: rest) ∨ (∃ spec rest, IsSpec spec ∧ word = spec ++ ':' :: rest) ∨
    ∃ rest, word = '%' :: rest

/-- The word has a protocol behind it already, or is made of nothing but its mark. -/
def IsPastProtocol (word : Text) : Prop :=
  ("//" : Text) <:+: word ∨ ∀ c ∈ word, c = ':' ∨ c = '/'

/-! ### The rules -/

/-- What a word that is not empty is; nothing is offered for some. -/
inductive Reads (plugins : Plugin.Directory) (limits : Limits) (word : Text) :
    Option TokenKind → Prop where
  | atValue (keyword : Text) : word = '@' :: keyword →
      Reads plugins limits word (some (.atValue keyword))
  | pluginName (spec rest value : Text) :
      IsSpec spec → word = spec ++ ':' :: rest → IsSpecValue rest value →
      Reads plugins limits word (some (.pluginName spec value))
  | variableValue (name : Text) (separator : Separator) (value : Text) :
      IsVariable word name separator value → HasPlugin plugins name (·.vars.isSome) →
      value.length ≤ limits.varLength →
      Reads plugins limits word (some (.variableValue name separator value))
  | variableRefused (name : Text) (separator : Separator) (value : Text) :
      IsVariable word name separator value →
      ¬(HasPlugin plugins name (·.vars.isSome) ∧ value.length ≤ limits.varLength) →
      Reads plugins limits word none
  | variableName (rest : Text) : word = '%' :: rest →
      (∀ name separator value, ¬IsVariable word name separator value) →
      Reads plugins limits word (some (.variableName rest))
  | pluginValue (name protocol value : Text) : ¬IsMarked word →
      IsPluginProtocol word protocol name value → HasPlugin plugins name (·.hasHints) →
      Reads plugins limits word (some (.pluginValue name protocol value))
  | past : ¬IsMarked word →
      (∀ name protocol value, IsPluginProtocol word protocol name value →
        ¬HasPlugin plugins name (·.hasHints)) →
      IsPastProtocol word → Reads plugins limits word none
  | protocol : ¬IsMarked word →
      (∀ name protocol value, IsPluginProtocol word protocol name value →
        ¬HasPlugin plugins name (·.hasHints)) →
      ¬IsPastProtocol word → Reads plugins limits word (some .protocol)

/-- The token before a cursor; there is none in some places. -/
inductive Finds (plugins : Plugin.Directory) (limits : Limits) (line : Text) (cursor : Nat)
    (trigger : Trigger) : Option Token → Prop where
  | comment : '#' ∈ line.take cursor → Finds plugins limits line cursor trigger none
  | long (before word : Text) : EndsWith (line.take cursor) before word →
      limits.hintLength < word.length → Finds plugins limits line cursor trigger none
  | suppressed (before : Text) : EndsWith (line.take cursor) before [] →
      trigger = .delete ∨ trigger = .plugin → Finds plugins limits line cursor trigger none
  | blank (before : Text) : '#' ∉ line.take cursor → EndsWith (line.take cursor) before [] →
      ¬(trigger = .delete ∨ trigger = .plugin) →
      Finds plugins limits line cursor trigger (some ⟨.protocol, [], before.length, before.length⟩)
  | word (before word : Text) (kind : Option TokenKind) : '#' ∉ line.take cursor →
      EndsWith (line.take cursor) before word → word ≠ [] → word.length ≤ limits.hintLength →
      Reads plugins limits word kind →
      Finds plugins limits line cursor trigger
        (kind.map fun kind => ⟨kind, word, before.length, before.length + word.length⟩)

/-! ### The word before the cursor -/

theorem exists_endsWith (t : Text) : ∃ before, EndsWith t before (trailingWord t) := by
  obtain ⟨before, heq⟩ := trailingWord_suffix t
  have hrun : ∀ c ∈ trailingWord t, isWordChar c = true := fun c => isWordChar_of_mem_trailingWord
  refine ⟨before, heq.symm, ?_, ?_⟩
  · intro c hc
    simpa [isWordChar] using hrun c hc
  · intro c hc
    -- With a character that is no blank before it, the word would be longer.
    obtain ⟨front, rfl⟩ := List.getLast?_eq_some_iff.1 hc
    by_contra hblank
    have hchar : ∀ d ∈ [c], isWordChar d = true := by simpa [isWordChar] using hblank
    have hlonger := trailingWord_append (front ++ [c]) hrun
    rw [heq, trailingWord_append front hchar] at hlonger
    have hlength := congrArg List.length hlonger
    simp only [List.length_append, List.length_singleton] at hlength
    omega

theorem EndsWith.eq_trailingWord {t before word : Text} (h : EndsWith t before word) :
    word = trailingWord t := by
  have hrun : ∀ c ∈ word, isWordChar c = true := by
    intro c hc
    simp [isWordChar, h.unbroken c hc]
  have hstop : trailingWord before = [] := by
    rcases List.eq_nil_or_concat before with rfl | ⟨front, c, rfl⟩
    · rfl
    · have hblank := h.longest c (by simp)
      simp [trailingWord, isWordChar, hblank]
  rw [h.eq, trailingWord_append before hrun, hstop, List.nil_append]

theorem EndsWith.length {line before word : Text} {cursor : Nat}
    (h : EndsWith (line.take cursor) before word) :
    before.length + word.length = min cursor line.length := by
  rw [← List.length_append, ← h.eq, List.length_take]

theorem EndsWith.wordStart {line before word : Text} {cursor : Nat}
    (h : EndsWith (line.take cursor) before word) :
    wordStart line (min cursor line.length) = before.length := by
  have hlength := h.length
  have htake : line.take (min cursor line.length) = line.take cursor :=
    (List.take_eq_take_min).symm
  rw [Line.wordStart, htake, ← h.eq_trailingWord]
  omega

theorem EndsWith.slice {line before word : Text} {cursor : Nat}
    (h : EndsWith (line.take cursor) before word) :
    slice line before.length (min cursor line.length) = word := by
  rw [Line.slice, ← List.take_eq_take_min, h.eq, List.drop_left]

theorem commentStart?_any_iff (line : Text) (column : Nat) :
    (commentStart? line).any (· < column) = true ↔ '#' ∈ line.take column := by
  constructor
  · intro h
    obtain ⟨first, hfirst, hlt⟩ := (Option.any_eq_true _ _).1 h
    rw [commentStart?, List.findIdx?_eq_some_iff_getElem] at hfirst
    obtain ⟨hlength, hmark, _⟩ := hfirst
    have hcolumn : first < column := of_decide_eq_true hlt
    refine List.mem_take_iff_getElem.2 ⟨first, by omega, ?_⟩
    exact eq_of_beq hmark
  · intro h
    by_contra hnone
    exact not_mem_take_of_commentStart? (eq_false_of_ne_true hnone) h

/-! ### Reading the parts -/

theorem splitName?_iff {t name rest : Text} :
    splitName? t = some (name, rest) ↔
      IsName name ∧ name ≠ [] ∧ t = name ++ rest ∧ ∀ c ∈ rest.head?, isNameChar c = false := by
  constructor
  · intro h
    obtain ⟨hname, heq⟩ := splitName?_eq_some h
    simp only [splitName?] at h
    split at h
    · cases h
    · next hne =>
      cases h
      refine ⟨hname, by simpa using hne, heq, ?_⟩
      intro c hc
      have hhead := List.head?_dropWhile_not isNameChar t
      rw [Option.mem_def.1 hc] at hhead
      simpa using hhead
  · rintro ⟨hname, hne, rfl, hrest⟩
    cases rest with
    | nil =>
      have hall : name.takeWhile isNameChar = name := List.takeWhile_eq_self_iff.2 hname
      have hnone : name.dropWhile isNameChar = [] := List.dropWhile_eq_nil_iff.2 hname
      simp [splitName?, hall, hnone, hne]
    | cons c rest => exact splitName?_append hname hne (hrest c rfl) rest

theorem toChar_of_ofChar? {c : Char} {separator : Separator}
    (h : Separator.ofChar? c = some separator) : c = separator.toChar := by
  unfold Separator.ofChar? at h
  split at h
  · next hc =>
    cases h
    exact hc
  · split at h
    · next hc =>
      cases h
      exact hc
    · cases h

theorem splitVariable?_iff {t name value : Text} {separator : Separator} :
    splitVariable? t = some (name, separator, value) ↔
      IsVariable ('%' :: t) name separator value := by
  constructor
  · intro h
    simp only [splitVariable?, Option.bind_eq_bind, Option.bind_eq_some_iff] at h
    obtain ⟨⟨name', rest⟩, hsplit, hrest⟩ := h
    obtain ⟨hname, hne, heq, _⟩ := splitName?_iff.1 hsplit
    cases rest with
    | nil => cases hrest
    | cons c value' =>
      simp only [Option.bind_eq_some_iff] at hrest
      obtain ⟨separator', hchar, hpair⟩ := hrest
      cases hpair
      refine ⟨hname, hne, ?_⟩
      rw [heq, toChar_of_ofChar? hchar]
  · rintro ⟨hname, hne, heq⟩
    rw [(List.cons_eq_cons.1 heq).2]
    exact splitVariable?_append hname hne separator value

theorem splitProtocol?_without_value {protocol name : Text} (hname : IsName name) (hne : name ≠ [])
    (hprotocol : IsProtocolOf name protocol) :
    splitProtocol? (protocol ++ ":") = some (protocol, name, []) ∧
      splitProtocol? (protocol ++ ":/") = some (protocol, name, []) := by
  have hsplit : ∀ more, splitName? (name ++ ':' :: more) = some (name, ':' :: more) :=
    splitName?_append hname hne (by decide)
  rcases hprotocol with rfl | rfl
  · have hlead := dropLead?_moduleLead_of_isName hname
    constructor <;> simp [splitProtocol?, hlead, hsplit]
  · have hlead : ∀ rest, Text.dropLead? Plugin.moduleLead (Plugin.moduleLead ++ rest) = some rest :=
      fun rest => Text.dropLead?_eq_some.2 rfl
    constructor <;> simp [splitProtocol?, hlead, hsplit]

theorem splitProtocol?_iff {word protocol name value : Text} :
    splitProtocol? word = some (protocol, name, value) ↔
      IsPluginProtocol word protocol name value := by
  constructor
  · intro h
    simp only [splitProtocol?, Option.bind_eq_bind, Option.bind_eq_some_iff] at h
    obtain ⟨⟨name', rest⟩, hsplit, hrest⟩ := h
    obtain ⟨hname, hne, heq, _⟩ := splitName?_iff.1 hsplit
    cases hd : Text.dropLead? Plugin.moduleLead word with
    | none =>
      simp only [hd] at heq hrest
      split at hrest <;> cases hrest
      · exact ⟨hname, hne, Or.inl rfl, Or.inl ⟨Or.inl heq, rfl⟩⟩
      · exact ⟨hname, hne, Or.inl rfl, Or.inl ⟨Or.inr heq, rfl⟩⟩
      · exact ⟨hname, hne, Or.inl rfl, Or.inr (by rw [heq]; simp)⟩
    | some tail =>
      simp only [hd] at heq hrest
      have hword := Text.dropLead?_eq_some.1 hd
      rw [heq, ← List.append_assoc] at hword
      split at hrest <;> cases hrest
      · exact ⟨hname, hne, Or.inr rfl, Or.inl ⟨Or.inl hword, rfl⟩⟩
      · exact ⟨hname, hne, Or.inr rfl, Or.inl ⟨Or.inr hword, rfl⟩⟩
      · exact ⟨hname, hne, Or.inr rfl, Or.inr (by rw [hword]; simp)⟩
  · rintro ⟨hname, hne, hprotocol, hends⟩
    rcases hends with ⟨rfl | rfl, rfl⟩ | rfl
    · exact (splitProtocol?_without_value hname hne hprotocol).1
    · exact (splitProtocol?_without_value hname hne hprotocol).2
    · exact splitProtocol?_append hname hne hprotocol value

theorem get?_eq_some_iff {plugins : Plugin.Directory} {name : Text} (hname : IsName name)
    {plugin : Plugin.Metadata} :
    plugins.get? name = some plugin ↔ plugin ∈ plugins.plugins ∧ plugin.shortName = name := by
  constructor
  · intro h
    exact ⟨List.mem_of_find?_eq_some h, hname.shortName_of_get? h⟩
  · rintro ⟨hmem, rfl⟩
    exact get?_of_mem hmem hname

theorem startsWith_spec_iff {word spec : Text} :
    Text.startsWith (spec ++ ":") word = true ↔ ∃ rest, word = spec ++ ':' :: rest := by
  rw [Text.startsWith, List.isPrefixOf_iff_prefix]
  constructor
  · rintro ⟨rest, heq⟩
    exact ⟨rest, by simp [← heq]⟩
  · rintro ⟨rest, rfl⟩
    exact ⟨rest, by simp⟩

theorem spec?_iff {word spec : Text} :
    spec? word = some spec ↔ IsSpec spec ∧ ∃ rest, word = spec ++ ':' :: rest := by
  rw [← startsWith_spec_iff]
  constructor
  · intro h
    refine ⟨?_, List.find?_some (p := fun spec => Text.startsWith (spec ++ ":") word) h⟩
    simpa [pluginSpecs, IsSpec] using List.mem_of_find?_eq_some h
  · rintro ⟨rfl | rfl, hstart⟩
    · simp only [spec?, pluginSpecs, List.find?_cons, hstart]
    · -- A word does not begin with both.
      obtain ⟨rest, rfl⟩ := startsWith_spec_iff.1 hstart
      rfl

theorem spec?_eq_none_iff {word : Text} :
    spec? word = none ↔ ∀ spec rest, IsSpec spec → word ≠ spec ++ ':' :: rest := by
  rw [Option.eq_none_iff_forall_ne_some]
  constructor
  · intro h spec rest hspec heq
    exact h spec (spec?_iff.2 ⟨hspec, rest, heq⟩)
  · intro h spec hsome
    obtain ⟨hspec, rest, heq⟩ := spec?_iff.1 hsome
    exact h spec rest hspec heq

theorem isSpecValue_iff {rest value : Text} :
    IsSpecValue rest value ↔ (Text.dropBytes? 2 rest).getD [] = value := by
  constructor
  · rintro (hcut | ⟨rfl, hnone⟩)
    · rw [Text.dropBytes?_eq_some.2 hcut]
      rfl
    · cases hd : Text.dropBytes? 2 rest with
      | none => rfl
      | some tail =>
        obtain ⟨skipped, hsize, heq⟩ := Text.dropBytes?_eq_some.1 hd
        exact absurd hsize (hnone skipped tail heq)
  · rintro rfl
    cases hd : Text.dropBytes? 2 rest with
    | some tail => exact Or.inl (Text.dropBytes?_eq_some.1 hd)
    | none =>
      refine Or.inr ⟨rfl, fun skipped tail heq hsize => ?_⟩
      cases hd.symm.trans (Text.dropBytes?_eq_some.2 ⟨skipped, hsize, heq⟩)

/- The names of these protocols are ASCII, so the bytes before the colon are as many as the
characters. -/
theorem dropBytes?_spec {spec : Text} (h : IsSpec spec) (rest : Text) :
    Text.dropBytes? (spec.length + 3) (spec ++ ':' :: rest) = Text.dropBytes? 2 rest := by
  rcases h with rfl | rfl <;> rfl

theorem namesNoProtocol_iff {word : Text} : namesNoProtocol word = true ↔ IsPastProtocol word := by
  simp [namesNoProtocol, IsPastProtocol, Text.occurs_iff, List.all_eq_true]

/-! ### Every word falls under a rule -/

theorem reads_total (plugins : Plugin.Directory) (limits : Limits) (word : Text) :
    ∃ kind, Reads plugins limits word kind := by
  by_cases hmarked : IsMarked word
  · rcases hmarked with ⟨keyword, hat⟩ | ⟨spec, rest, hspec, heq⟩ | ⟨rest, hpercent⟩
    · exact ⟨_, .atValue keyword hat⟩
    · exact ⟨_, .pluginName spec rest _ hspec heq (isSpecValue_iff.2 rfl)⟩
    · by_cases hvariable : ∃ name separator value, IsVariable word name separator value
      · obtain ⟨name, separator, value, hvariable⟩ := hvariable
        by_cases hoffered : HasPlugin plugins name (·.vars.isSome) ∧ value.length ≤ limits.varLength
        · exact ⟨_, .variableValue name separator value hvariable hoffered.1 hoffered.2⟩
        · exact ⟨_, .variableRefused name separator value hvariable hoffered⟩
      · refine ⟨_, .variableName rest hpercent fun name separator value h => ?_⟩
        exact hvariable ⟨name, separator, value, h⟩
  · by_cases hplugin : ∃ name protocol value, IsPluginProtocol word protocol name value ∧
        HasPlugin plugins name (·.hasHints)
    · obtain ⟨name, protocol, value, hprotocol, hhints⟩ := hplugin
      exact ⟨_, .pluginValue name protocol value hmarked hprotocol hhints⟩
    · have hother : ∀ name protocol value, IsPluginProtocol word protocol name value →
          ¬HasPlugin plugins name (·.hasHints) :=
        fun name protocol value hprotocol hhints =>
          hplugin ⟨name, protocol, value, hprotocol, hhints⟩
      by_cases hpast : IsPastProtocol word
      · exact ⟨_, .past hmarked hother hpast⟩
      · exact ⟨_, .protocol hmarked hother hpast⟩

/-! ### Classification gives what the rule says -/

section

variable {plugins : Plugin.Directory} {limits : Limits} {word : Text} {name value : Text}

theorem hasPlugin_iff (hname : IsName name) (p : Plugin.Metadata → Bool) :
    HasPlugin plugins name p ↔ ∃ plugin, plugins.get? name = some plugin ∧ p plugin = true := by
  constructor
  · rintro ⟨plugin, hmem, hshort, hp⟩
    exact ⟨plugin, (get?_eq_some_iff hname).2 ⟨hmem, hshort⟩, hp⟩
  · rintro ⟨plugin, hget, hp⟩
    obtain ⟨hmem, hshort⟩ := (get?_eq_some_iff hname).1 hget
    exact ⟨plugin, hmem, hshort, hp⟩

theorem classifyVariable?_of_isVariable {rest : Text} {separator : Separator}
    (h : IsVariable ('%' :: rest) name separator value) :
    (HasPlugin plugins name (·.vars.isSome) ∧ value.length ≤ limits.varLength →
      classifyVariable? plugins limits false rest = some (.variableValue name separator value)) ∧
    (¬(HasPlugin plugins name (·.vars.isSome) ∧ value.length ≤ limits.varLength) →
      classifyVariable? plugins limits false rest = none) := by
  have hsplit := splitVariable?_iff.2 h
  have hlong : (!value.isEmpty && (false || limits.varLength < value.length)) = true ↔
      limits.varLength < value.length := by
    cases value <;> simp
  rw [hasPlugin_iff h.isName]
  simp only [classifyVariable?, hsplit, hlong]
  cases hget : plugins.get? name with
  | none => simp
  | some plugin =>
    cases hvars : plugin.vars with
    | none => simp [hvars]
    | some vars =>
      have hle : ¬limits.varLength < value.length ↔ value.length ≤ limits.varLength := Nat.not_lt
      simp [hvars, hle]

theorem classifyVariable?_of_not_isVariable {rest : Text}
    (h : ∀ name separator value, ¬IsVariable ('%' :: rest) name separator value) :
    classifyVariable? plugins limits false rest = some (.variableName rest) := by
  have hsplit : splitVariable? rest = none := by
    rw [Option.eq_none_iff_forall_ne_some]
    rintro ⟨name, separator, value⟩ hsome
    exact h name separator value (splitVariable?_iff.1 hsome)
  simp [classifyVariable?, hsplit]

theorem classifyPlugin?_of_hasPlugin {protocol : Text}
    (h : IsPluginProtocol word protocol name value) (hhints : HasPlugin plugins name (·.hasHints))
    (hl : value.length ≤ limits.hintLength) :
    classifyPlugin? plugins limits false word = some (some (.pluginValue name protocol value)) := by
  obtain ⟨plugin, hget, hp⟩ := (hasPlugin_iff h.isName _).1 hhints
  have hshort := h.isName.shortName_of_get? hget
  have hlong : ¬limits.hintLength < value.length := Nat.not_lt.2 hl
  simp [classifyPlugin?, splitProtocol?_iff.2 h, hget, Option.filter_some, hp, hlong, hshort]

theorem classifyPlugin?_of_not_hasPlugin
    (h : ∀ name protocol value, IsPluginProtocol word protocol name value →
      ¬HasPlugin plugins name (·.hasHints)) :
    classifyPlugin? plugins limits false word = none := by
  rw [Option.eq_none_iff_forall_ne_some]
  intro kind hsome
  simp only [classifyPlugin?, Option.bind_eq_bind, Option.bind_eq_some_iff] at hsome
  obtain ⟨⟨protocol, name, value⟩, hsplit, plugin, hfilter, _⟩ := hsome
  have hform := splitProtocol?_iff.1 hsplit
  have hfound := Option.filter_eq_some_iff.1 hfilter
  exact h name protocol value hform ((hasPlugin_iff hform.isName _).2 ⟨plugin, hfound⟩)

/- The rules for marked words do not apply to any other word. -/
theorem classifyWord?_of_not_isMarked {trigger : Trigger} (ht : trigger ≠ .enter)
    (h : ¬IsMarked word) :
    classifyWord? plugins limits trigger word =
      (classifyPlugin? plugins limits false word).getD
        (if namesNoProtocol word then none else some .protocol) := by
  have hbyEnter : (trigger == Trigger.enter) = false := by simpa using ht
  have hat : Text.dropLead? "@" word = none :=
    Text.dropLead?_eq_none fun rest heq => h (Or.inl ⟨rest, heq⟩)
  have hspec : spec? word = none :=
    spec?_eq_none_iff.2 fun spec rest hspec heq => h (Or.inr (Or.inl ⟨spec, rest, hspec, heq⟩))
  have hpercent : Text.dropLead? "%" word = none :=
    Text.dropLead?_eq_none fun rest heq => h (Or.inr (Or.inr ⟨rest, heq⟩))
  simp only [classifyWord?, hbyEnter, hat, hspec, hpercent]
  cases classifyPlugin? plugins limits false word <;> rfl

end

theorem IsPluginProtocol.length_le {word protocol name value : Text}
    (h : IsPluginProtocol word protocol name value) : value.length ≤ word.length := by
  rcases h.eq with ⟨_, rfl⟩ | heq
  · exact Nat.zero_le _
  · rw [heq, List.length_append]
    omega

theorem Reads.classifyWord?_eq {plugins : Plugin.Directory} {limits : Limits} {word : Text}
    {kind : Option TokenKind} (h : Reads plugins limits word kind) {trigger : Trigger}
    (ht : trigger ≠ .enter) (hl : word.length ≤ limits.hintLength) :
    classifyWord? plugins limits trigger word = kind := by
  have hbyEnter : (trigger == Trigger.enter) = false := by simpa using ht
  cases h with
  | atValue keyword heq =>
    subst heq
    simp only [classifyWord?, hbyEnter]
    rfl
  | pluginName spec rest value hspec heq hvalue =>
    have hat : Text.dropLead? "@" word = none := by
      rcases hspec with rfl | rfl <;> rw [heq] <;> rfl
    simp only [classifyWord?, hbyEnter, hat, spec?_iff.2 ⟨hspec, rest, heq⟩]
    rw [heq, dropBytes?_spec hspec, isSpecValue_iff.1 hvalue]
    rfl
  | variableValue name separator value hvariable hplugin hlength =>
    obtain ⟨rest, rfl⟩ : ∃ rest, word = '%' :: rest := ⟨_, hvariable.eq⟩
    simp only [classifyWord?, hbyEnter]
    exact (classifyVariable?_of_isVariable hvariable).1 ⟨hplugin, hlength⟩
  | variableRefused name separator value hvariable hrefused =>
    obtain ⟨rest, rfl⟩ : ∃ rest, word = '%' :: rest := ⟨_, hvariable.eq⟩
    simp only [classifyWord?, hbyEnter]
    exact (classifyVariable?_of_isVariable hvariable).2 hrefused
  | variableName rest heq hnone =>
    subst heq
    simp only [classifyWord?, hbyEnter]
    exact classifyVariable?_of_not_isVariable hnone
  | pluginValue name protocol value hmarked hprotocol hhints =>
    have hvalue := Nat.le_trans hprotocol.length_le hl
    rw [classifyWord?_of_not_isMarked ht hmarked,
      classifyPlugin?_of_hasPlugin hprotocol hhints hvalue]
    rfl
  | past hmarked hother hpast =>
    rw [classifyWord?_of_not_isMarked ht hmarked, classifyPlugin?_of_not_hasPlugin hother,
      namesNoProtocol_iff.2 hpast]
    rfl
  | protocol hmarked hother hpast =>
    have hnames : namesNoProtocol word = false :=
      eq_false_of_ne_true fun h => hpast (namesNoProtocol_iff.1 h)
    rw [classifyWord?_of_not_isMarked ht hmarked, classifyPlugin?_of_not_hasPlugin hother, hnames]
    rfl

/-! ### The whole line -/

theorem suppressesEmptyWord_iff {trigger : Trigger} :
    trigger.suppressesEmptyWord = true ↔ trigger = .delete ∨ trigger = .plugin := by
  cases trigger <;> simp [Trigger.suppressesEmptyWord]

section

variable {plugins : Plugin.Directory} {limits : Limits} {line : Text} {cursor : Nat}
  {trigger : Trigger}

theorem classify?_of_comment (h : '#' ∈ line.take cursor) :
    classify? plugins limits line cursor trigger = none := by
  have hbefore : (commentStart? line).any (· < min cursor line.length) = true := by
    rw [commentStart?_any_iff, ← List.take_eq_take_min]
    exact h
  simp only [classify?, hbefore, if_true]

theorem classify?_of_endsWith {before word : Text} (hcomment : '#' ∉ line.take cursor)
    (h : EndsWith (line.take cursor) before word) :
    classify? plugins limits line cursor trigger =
      if word = [] then
        if trigger.suppressesEmptyWord then none
        else some ⟨.protocol, [], before.length, before.length⟩
      else if limits.hintLength < word.length then none
      else (classifyWord? plugins limits trigger word).map fun kind =>
        ⟨kind, word, before.length, before.length + word.length⟩ := by
  have hnone : (commentStart? line).any (· < min cursor line.length) = false := by
    rw [← Bool.not_eq_true, commentStart?_any_iff, ← List.take_eq_take_min]
    exact hcomment
  have hlength := h.length
  simp only [classify?, hnone, h.wordStart, h.slice, Bool.false_eq_true, if_false]
  by_cases hempty : word = []
  · have hstart : before.length = min cursor line.length := by simpa [hempty] using hlength
    rw [if_pos hstart, if_pos hempty, ← hstart]
  · have hpos := List.length_pos_iff.2 hempty
    have hwidth : min cursor line.length - before.length = word.length := by omega
    rw [if_neg (by omega), if_neg hempty, hwidth, ← hlength]

theorem Finds.classify?_eq {token : Option Token} (h : Finds plugins limits line cursor trigger token)
    (ht : trigger ≠ .enter) : classify? plugins limits line cursor trigger = token := by
  by_cases hcomment : '#' ∈ line.take cursor
  · rw [classify?_of_comment hcomment]
    cases h with
    | comment | long | suppressed => rfl
    | blank before hno | word before word kind hno => exact absurd hcomment hno
  · cases h with
    | comment hmark => exact absurd hmark hcomment
    | long before word hends hlong =>
      have hne : word ≠ [] := by
        rintro rfl
        exact Nat.not_lt_zero _ hlong
      rw [classify?_of_endsWith hcomment hends, if_neg hne, if_pos hlong]
    | suppressed before hends hquiet =>
      rw [classify?_of_endsWith hcomment hends, if_pos rfl,
        if_pos (suppressesEmptyWord_iff.2 hquiet)]
    | blank before _ hends hquiet =>
      rw [classify?_of_endsWith hcomment hends, if_pos rfl,
        if_neg fun h => hquiet (suppressesEmptyWord_iff.1 h)]
    | word before word kind _ hends hne hl hkind =>
      rw [classify?_of_endsWith hcomment hends, if_neg hne, if_neg (Nat.not_lt.2 hl),
        hkind.classifyWord?_eq ht hl]

theorem finds_total (plugins : Plugin.Directory) (limits : Limits) (line : Text) (cursor : Nat)
    (trigger : Trigger) : ∃ token, Finds plugins limits line cursor trigger token := by
  by_cases hcomment : '#' ∈ line.take cursor
  · exact ⟨_, .comment hcomment⟩
  · obtain ⟨before, hends⟩ := exists_endsWith (line.take cursor)
    generalize trailingWord (line.take cursor) = word at hends
    by_cases hempty : word = []
    · subst hempty
      by_cases hquiet : trigger = .delete ∨ trigger = .plugin
      · exact ⟨_, .suppressed before hends hquiet⟩
      · exact ⟨_, .blank before hcomment hends hquiet⟩
    · by_cases hlong : limits.hintLength < word.length
      · exact ⟨_, .long before word hends hlong⟩
      · obtain ⟨kind, hkind⟩ := reads_total plugins limits word
        exact ⟨_, .word before word kind hcomment hends hempty (Nat.not_lt.1 hlong) hkind⟩

theorem Finds.reads {token : Token} (h : Finds plugins limits line cursor trigger (some token)) :
    token.kind = .protocol ∨ Reads plugins limits token.text (some token.kind) := by
  generalize hresult : some token = result at h
  cases h with
  | comment | long | suppressed => cases hresult
  | blank =>
    cases hresult
    exact Or.inl rfl
  | word before word kind _ _ _ _ hkind =>
    cases kind with
    | none => cases hresult
    | some kind =>
      cases hresult
      exact Or.inr hkind

end

/-- Classification follows the grammar exactly. Whatever asks for candidates but the enter key, the
token before the cursor is the one that the rules find, and there is none exactly if they find none.
The plugin whose values or variables a token is about is in the directory, found under the name in the
token, and has hints or variables. -/
theorem classified_iff_grammar (plugins : Plugin.Directory) (limits : Limits) (line : Text)
    (cursor : Nat) (trigger : Trigger) (ht : trigger ≠ .enter) :
    (∀ result, classify? plugins limits line cursor trigger = result ↔
      Finds plugins limits line cursor trigger result) ∧
    ∀ token, classify? plugins limits line cursor trigger = some token →
      (∀ name separator value, token.kind = .variableValue name separator value →
        ∃ plugin, plugins.get? name = some plugin ∧ plugin.vars.isSome = true) ∧
      (∀ name protocol value, token.kind = .pluginValue name protocol value →
        ∃ plugin, plugins.get? name = some plugin ∧ plugin.hasHints = true) := by
  obtain ⟨found, hfound⟩ := finds_total plugins limits line cursor trigger
  have hiff : ∀ result, classify? plugins limits line cursor trigger = result ↔
      Finds plugins limits line cursor trigger result := by
    intro result
    refine ⟨?_, fun h => h.classify?_eq ht⟩
    rintro rfl
    rw [hfound.classify?_eq ht]
    exact hfound
  refine ⟨hiff, fun token htoken => ?_⟩
  have hreads := ((hiff (some token)).1 htoken).reads
  constructor
  · intro name separator value hkind
    rw [hkind] at hreads
    cases hreads.resolve_left (by simp) with
    | variableValue _ _ _ hvariable hplugin => exact (hasPlugin_iff hvariable.isName _).1 hplugin
  · intro name protocol value hkind
    rw [hkind] at hreads
    cases hreads.resolve_left (by simp) with
    | pluginValue _ _ _ _ hprotocol hplugin => exact (hasPlugin_iff hprotocol.isName _).1 hplugin

/- A digit of another script in the name, `:/` with nothing behind it, and a comment right after. -/
theorem numeral_protocol_by_grammar :
    let plugins := Plugin.Directory.ofList [{ moduleName := "whistle.v٣", hintUrl := some "hints" }]
    let token : Token := ⟨.pluginValue "v٣" "whistle.v٣" [], "whistle.v٣:/", 2, 14⟩
    Trigger.delete ≠ .enter ∧
      Finds plugins {} "x whistle.v٣:/#//" 14 .delete (some token) ∧
      ∃ plugin, plugins.get? "v٣" = some plugin ∧ plugin.hasHints = true := by
  intro plugins token
  have htoken : classify? plugins {} "x whistle.v٣:/#//" 14 .delete = some token := by decide
  obtain ⟨hiff, hfound⟩ :=
    classified_iff_grammar plugins {} "x whistle.v٣:/#//" 14 .delete (by decide)
  exact ⟨by decide, (hiff _).1 htoken, (hfound token htoken).2 _ _ _ rfl⟩

end Line

end RuleHints
