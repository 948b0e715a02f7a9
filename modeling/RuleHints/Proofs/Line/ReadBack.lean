import RuleHints.Proofs.Hint.Rendering
import RuleHints.Proofs.Line.Classification
import RuleHints.Proofs.Text.Digits

/-!
# Rendered hints are read back

A hint that is rendered for a plugin and fits into the limits is classified as a value of that plugin
or of its variable again, with the text of the hint as the value. The reading of a word is followed
rule by rule: the earlier rules do not apply to a rendered hint, and the rule that does finds the
name, the mark and the value where the rendering has put them.
-/

namespace RuleHints

/- The names of a directory differ, so each plugin is the one that is found under its name. -/
theorem Plugin.Ascending.find?_shortName {plugins : List Plugin.Metadata}
    (h : Plugin.Ascending plugins) {plugin : Plugin.Metadata} (hp : plugin ∈ plugins) :
    plugins.find? (·.shortName = plugin.shortName) = some plugin := by
  induction plugins with
  | nil => cases hp
  | cons other rest ih =>
    obtain ⟨habove, htail⟩ := List.pairwise_cons.1 h
    rcases List.mem_cons.1 hp with rfl | hrest
    · simp
    · have hne : other.shortName ≠ plugin.shortName :=
        Text.isStrict_isBefore.ne (habove plugin hrest)
      simpa [hne] using ih htail hrest

namespace Line

/-- Characters of one word, before any comment. -/
def IsWord (t : Text) : Prop := ∀ c ∈ t, Text.isBlank c = false ∧ c ≠ '#'

-- The characters of the text are tried, not all characters there are.
instance (t : Text) : Decidable (IsWord t) :=
  List.decidableBAll (fun c => Text.isBlank c = false ∧ c ≠ '#') t

theorem IsWord.append {s t : Text} (hs : IsWord s) (ht : IsWord t) : IsWord (s ++ t) := by
  intro c hc
  rcases List.mem_append.1 hc with h | h
  · exact hs c h
  · exact ht c h

theorem IsName.isWord {name : Text} (h : IsName name) : IsWord name := by
  intro c hc
  have hchar := h c hc
  refine ⟨?_, ?_⟩
  · simp only [isNameChar, Bool.or_eq_true, Bool.and_eq_true, decide_eq_true_eq, beq_iff_eq] at hchar
    rcases hchar with ((⟨hlow, hhigh⟩ | hdigit) | rfl) | rfl
    · have hle : 97 ≤ c.toNat := hlow
      have hge : c.toNat ≤ 122 := hhigh
      simp only [Text.isBlank, Bool.or_eq_false_iff, Bool.and_eq_false_iff, beq_eq_false_iff_ne,
        decide_eq_false_iff_not]
      omega
    · exact Text.not_isBlank_of_isDecimalDigit hdigit
    · decide
    · decide
  · rintro rfl
    exact absurd hchar (by decide)

/-! ### A line of one word -/

theorem trailingWord_append (before : Text) {word : Text}
    (h : ∀ c ∈ word, isWordChar c = true) :
    trailingWord (before ++ word) = trailingWord before ++ word := by
  have hrun : ∀ c ∈ word.reverse, isWordChar c = true := fun c hc => h c (List.mem_reverse.1 hc)
  rw [trailingWord, List.reverse_append, List.takeWhile_append_of_pos hrun, List.reverse_append,
    List.reverse_reverse]
  rfl

theorem trailingWord_of_isWord {t : Text} (h : IsWord t) : trailingWord t = t := by
  have hchars : ∀ c ∈ t, isWordChar c = true := by
    intro c hc
    simp [isWordChar, (h c hc).1]
  exact trailingWord_append [] hchars

theorem commentStart?_of_isWord {t : Text} (h : IsWord t) : commentStart? t = none := by
  rw [commentStart?, List.findIdx?_eq_none_iff]
  intro c hc
  simpa using (h c hc).2

theorem classify?_of_isWord (plugins : Plugin.Directory) {limits : Limits} (trigger : Trigger)
    {word : Text} (h : IsWord word) (hne : word ≠ []) (hl : word.length ≤ limits.hintLength) :
    classify? plugins limits word word.length trigger =
      (classifyWord? plugins limits trigger word).map fun kind =>
        ⟨kind, word, 0, word.length⟩ := by
  have hstart : wordStart word word.length = 0 := by
    simp [wordStart, trailingWord_of_isWord h]
  have hlength : word.length ≠ 0 := fun hz => hne (List.eq_nil_of_length_eq_zero hz)
  simp only [classify?, Nat.min_self, commentStart?_of_isWord h, hstart, Option.any_none,
    Nat.sub_zero, slice, List.take_length, List.drop_zero]
  rw [if_neg (by simp), if_neg (fun hz => hlength hz.symm), if_neg (Nat.not_lt.2 hl)]

/-! ### The parts of a rendered hint -/

theorem splitName?_append {name : Text} (h : IsName name) (hne : name ≠ []) {c : Char}
    (hc : isNameChar c = false) (rest : Text) :
    splitName? (name ++ c :: rest) = some (name, c :: rest) := by
  have htake : (name ++ c :: rest).takeWhile isNameChar = name := by
    rw [List.takeWhile_append_of_pos h]
    simp [hc]
  have hdrop : (name ++ c :: rest).dropWhile isNameChar = c :: rest := by
    rw [List.dropWhile_append_of_pos h]
    simp [hc]
  simp [splitName?, htake, hdrop, hne]

theorem splitVariable?_append {name : Text} (h : IsName name) (hne : name ≠ [])
    (separator : Separator) (value : Text) :
    splitVariable? (name ++ separator.toChar :: value) = some (name, separator, value) := by
  have hc : isNameChar separator.toChar = false := by cases separator <;> decide
  have ho : Separator.ofChar? separator.toChar = some separator := by cases separator <;> rfl
  simp [splitVariable?, splitName?_append h hne hc, ho]

/- `whistle.` is no part of a name, so a name without it is not taken for one with it. -/
theorem dropLead?_moduleLead_of_isName {name : Text} (h : IsName name) (rest : Text) :
    Text.dropLead? Plugin.moduleLead (name ++ ':' :: rest) = none := by
  refine Text.dropLead?_eq_none fun tail heq => ?_
  have hdrop := congrArg (List.dropWhile isNameChar) heq
  rw [List.dropWhile_append_of_pos h] at hdrop
  have hcolon : (':' :: rest).dropWhile isNameChar = ':' :: rest := rfl
  have hdot : (Plugin.moduleLead ++ tail).dropWhile isNameChar = '.' :: tail := rfl
  rw [hcolon, hdot] at hdrop
  cases hdrop

/-- The ways to write a plugin as a protocol. -/
def IsProtocolOf (name protocol : Text) : Prop :=
  protocol = name ∨ protocol = Plugin.moduleLead ++ name

theorem splitProtocol?_append {name protocol : Text} (h : IsName name) (hne : name ≠ [])
    (hp : IsProtocolOf name protocol) (value : Text) :
    splitProtocol? (protocol ++ protocolMark ++ value) = some (protocol, name, value) := by
  have hmark : ∀ lead : Text, lead ++ protocolMark ++ value = lead ++ ':' :: '/' :: '/' :: value :=
    fun lead => by simp [protocolMark]
  have hsplit := splitName?_append h hne (c := ':') (by decide) ('/' :: '/' :: value)
  rcases hp with rfl | rfl
  · rw [hmark]
    simp [splitProtocol?, dropLead?_moduleLead_of_isName h, hsplit]
  · have hlead : Text.dropLead? Plugin.moduleLead
        (Plugin.moduleLead ++ (name ++ ':' :: '/' :: '/' :: value)) =
          some (name ++ ':' :: '/' :: '/' :: value) := Text.dropLead?_eq_some.2 rfl
    rw [hmark, List.append_assoc]
    simp [splitProtocol?, hlead, hsplit]

theorem IsProtocolOf.not_mem_colon {name protocol : Text} (hp : IsProtocolOf name protocol)
    (h : IsName name) : ':' ∉ protocol := by
  rcases hp with rfl | rfl
  · exact h.not_mem_colon
  · intro hc
    rcases List.mem_append.1 hc with hlead | hname
    · exact absurd hlead (by decide)
    · exact h.not_mem_colon hname

theorem IsProtocolOf.isWord {name protocol : Text} (hp : IsProtocolOf name protocol)
    (h : IsName name) : IsWord protocol := by
  rcases hp with rfl | rfl
  · exact h.isWord
  · exact IsWord.append (by decide) h.isWord

theorem IsProtocolOf.head_isNameChar {name protocol : Text} (hp : IsProtocolOf name protocol)
    (h : IsName name) (hne : name ≠ []) :
    ∃ c rest, protocol = c :: rest ∧ isNameChar c = true := by
  rcases hp with rfl | rfl
  · cases protocol with
    | nil => exact absurd rfl hne
    | cons c rest => exact ⟨c, rest, rfl, h c List.mem_cons_self⟩
  · exact ⟨'w', "histle." ++ name, rfl, by decide⟩

/- The marks of the other kinds of words begin no protocol. -/
theorem IsProtocolOf.dropLead?_mark {name protocol : Text} (hp : IsProtocolOf name protocol)
    (h : IsName name) (hne : name ≠ []) {mark : Char} (hmark : isNameChar mark = false)
    (rest : Text) : Text.dropLead? [mark] (protocol ++ rest) = none := by
  obtain ⟨c, tail, rfl, hc⟩ := hp.head_isNameChar h hne
  refine Text.dropLead?_eq_none fun other heq => ?_
  cases heq
  rw [hc] at hmark
  cases hmark

/- A colon ends the protocol of a word. -/
theorem eq_of_startsWith_colon {spec protocol rest : Text} (hs : ':' ∉ spec) (hp : ':' ∉ protocol)
    (h : Text.startsWith (spec ++ ":") (protocol ++ ':' :: rest) = true) : spec = protocol := by
  obtain ⟨tail, heq⟩ := List.isPrefixOf_iff_prefix.1 h
  have hcut : ∀ (t more : Text), ':' ∉ t → (t ++ ':' :: more).takeWhile (· != ':') = t := by
    intro t more ht
    have hpos : ∀ c ∈ t, (c != ':') = true := by
      intro c hc
      simp only [bne_iff_ne]
      exact fun he => ht (he ▸ hc)
    rw [List.takeWhile_append_of_pos hpos]
    simp
  have htake := congrArg (List.takeWhile (· != ':')) heq
  rw [List.append_assoc] at htake
  exact (hcut spec tail hs).symm.trans (htake.trans (hcut protocol rest hp))

theorem spec?_eq_none {name protocol : Text} (h : IsName name) (hp : IsProtocolOf name protocol)
    (hpipe : protocol ≠ "pipe") (rest : Text) : spec? (protocol ++ ':' :: rest) = none := by
  rw [spec?, List.find?_eq_none]
  have hcolons : ∀ spec ∈ pluginSpecs, ':' ∉ spec := by decide
  intro spec hspec hstart
  have hcolon := hcolons spec hspec
  have heq : spec = protocol := eq_of_startsWith_colon hcolon (hp.not_mem_colon h) hstart
  subst heq
  simp only [pluginSpecs, List.mem_cons, List.not_mem_nil, or_false] at hspec
  rcases hspec with rfl | rfl
  · exact hpipe rfl
  · -- The other protocol of this kind has a capital letter, which no name has.
    rcases hp with rfl | hlead
    · exact absurd (h 'C' (by decide)) (by decide)
    · cases hlead

/-! ### The plugin of a rendered hint -/

theorem get?_of_mem {plugins : Plugin.Directory} {plugin : Plugin.Metadata}
    (hp : plugin ∈ plugins.plugins) (hn : IsName plugin.shortName) :
    plugins.get? plugin.shortName = some plugin := by
  rw [Plugin.Directory.get?, hn.canonicalName]
  exact plugins.ascending.find?_shortName hp

/-- What a rendered hint is read as. -/
def renderedKind (name protocol : Text) (slot : Plugin.Slot) (isKey : Bool) (text : Text) :
    TokenKind :=
  match slot with
  | .value => .pluginValue name protocol text
  | .variable => .variableValue name (if isKey then .key else .value) text

/-- The plugin offers hints in the slot, and they are rendered after this protocol or variable. -/
def Offers (plugin : Plugin.Metadata) (protocol : Text) : Plugin.Slot → Prop
  | .value =>
    plugin.hasHints = true ∧ IsProtocolOf plugin.shortName protocol ∧ protocol ≠ "pipe"
  | .variable => plugin.vars.isSome = true ∧ protocol = '%' :: plugin.shortName

section

variable {plugins : Plugin.Directory} {plugin : Plugin.Metadata} {limits : Limits}
  {trigger : Trigger} {protocol text : Text}

theorem classifyWord?_rendered_value (hp : plugin ∈ plugins.plugins) (hn : IsName plugin.shortName)
    (hne : plugin.shortName ≠ []) (hoffers : Offers plugin protocol .value)
    (ht : trigger ≠ .enter) (isKey : Bool)
    (hl : (renderHint protocol .value isKey text).length < limits.hintLength) :
    classifyWord? plugins limits trigger (renderHint protocol .value isKey text) =
      some (.pluginValue plugin.shortName protocol text) := by
  obtain ⟨hhints, hprotocol, hpipe⟩ := hoffers
  have hword : renderHint protocol .value isKey text = protocol ++ ':' :: ("//" ++ text) := by
    simp [renderHint, protocolMark]
  have hbyEnter : (trigger == Trigger.enter) = false := by simpa using ht
  have hat : Text.dropLead? "@" (renderHint protocol .value isKey text) = none := by
    rw [hword]
    exact hprotocol.dropLead?_mark hn hne (by decide) _
  have hspec : spec? (renderHint protocol .value isKey text) = none := by
    rw [hword]
    exact spec?_eq_none hn hprotocol hpipe _
  have hpercent : Text.dropLead? "%" (renderHint protocol .value isKey text) = none := by
    rw [hword]
    exact hprotocol.dropLead?_mark hn hne (by decide) _
  have hsplit : splitProtocol? (renderHint protocol .value isKey text) =
      some (protocol, plugin.shortName, text) := splitProtocol?_append hn hne hprotocol text
  have hvalue : ¬ limits.hintLength < text.length := by
    simp only [renderHint, List.length_append] at hl
    omega
  have hplugin : classifyPlugin? plugins limits false (renderHint protocol .value isKey text) =
      some (some (.pluginValue plugin.shortName protocol text)) := by
    simp [classifyPlugin?, hsplit, get?_of_mem hp hn, Option.filter_some, hhints, hvalue]
  simp only [classifyWord?, hbyEnter, hat, hspec, hpercent, hplugin]

theorem classifyWord?_rendered_variable (hp : plugin ∈ plugins.plugins)
    (hn : IsName plugin.shortName) (hne : plugin.shortName ≠ [])
    (hoffers : Offers plugin protocol .variable) (ht : trigger ≠ .enter) (isKey : Bool)
    (hl : (renderHint protocol .variable isKey text).length < limits.varLength) :
    classifyWord? plugins limits trigger (renderHint protocol .variable isKey text) =
      some (.variableValue plugin.shortName (if isKey then .key else .value) text) := by
  obtain ⟨hvars, rfl⟩ := hoffers
  have hbyEnter : (trigger == Trigger.enter) = false := by simpa using ht
  have hword : renderHint ('%' :: plugin.shortName) .variable isKey text =
      '%' :: (plugin.shortName ++ (if isKey then Separator.key else .value).toChar :: text) := by
    cases isKey <;> rfl
  have hvalue : ¬ limits.varLength < text.length := by
    rw [hword] at hl
    simp only [List.length_cons, List.length_append] at hl
    omega
  have hvars' : ((plugins.get? plugin.shortName).bind (·.vars)).isNone = false := by
    rw [get?_of_mem hp hn]
    simpa using hvars
  have hvariable : classifyVariable? plugins limits false
      (plugin.shortName ++ (if isKey then Separator.key else .value).toChar :: text) =
        some (.variableValue plugin.shortName (if isKey then .key else .value) text) := by
    simp [classifyVariable?, splitVariable?_append hn hne, hvars', hvalue]
  have hat : Text.dropLead? "@" (renderHint ('%' :: plugin.shortName) .variable isKey text) = none :=
    rfl
  have hspec : spec? (renderHint ('%' :: plugin.shortName) .variable isKey text) = none := rfl
  simp only [classifyWord?, hbyEnter, hat, hspec]
  rw [hword]
  exact hvariable

theorem Offers.isWord_renderHint {slot : Plugin.Slot} (hoffers : Offers plugin protocol slot)
    (hn : IsName plugin.shortName) (isKey : Bool) (htext : IsWord text) :
    IsWord (renderHint protocol slot isKey text) ∧ renderHint protocol slot isKey text ≠ [] := by
  cases slot with
  | value =>
    refine ⟨?_, by simp [renderHint, protocolMark]⟩
    exact ((hoffers.2.1.isWord hn).append (by decide)).append htext
  | «variable» =>
    obtain ⟨_, rfl⟩ := hoffers
    refine ⟨?_, by simp [renderHint]⟩
    have hmark : IsWord [if isKey then '.' else '='] := by cases isKey <;> decide
    have hpercent : IsWord ['%'] := by decide
    simpa [renderHint] using (hpercent.append hn.isWord).append (hmark.append htext)

/-- A hint is classified as what it was rendered for. -/
theorem classify?_rendered (hp : plugin ∈ plugins.plugins) (hn : IsName plugin.shortName)
    (hne : plugin.shortName ≠ []) (context : HintContext)
    (hlimits : context.limits.varLength ≤ context.limits.hintLength) (ht : trigger ≠ .enter)
    (hoffers : Offers plugin context.protocol context.slot) {isKey : Bool} (htext : IsWord text)
    (hl : (renderHint context.protocol context.slot isKey text).length < context.maxLength) :
    let word := renderHint context.protocol context.slot isKey text
    classify? plugins context.limits word word.length trigger =
      some ⟨renderedKind plugin.shortName context.protocol context.slot isKey text, word, 0,
        word.length⟩ := by
  intro word
  obtain ⟨hword, hnil⟩ := hoffers.isWord_renderHint hn isKey htext
  have hmax : context.maxLength ≤ context.limits.hintLength := by
    unfold HintContext.maxLength
    split
    · exact Nat.le_refl _
    · exact hlimits
  have hkind : classifyWord? plugins context.limits trigger word =
      some (renderedKind plugin.shortName context.protocol context.slot isKey text) := by
    simp only [word]
    unfold HintContext.maxLength at hl
    cases hslot : context.slot with
    | value =>
      rw [hslot] at hoffers hl
      exact classifyWord?_rendered_value hp hn hne hoffers ht isKey hl
    | «variable» =>
      rw [hslot] at hoffers hl
      exact classifyWord?_rendered_variable hp hn hne hoffers ht isKey hl
  rw [classify?_of_isWord plugins trigger hword hnil (Nat.le_of_lt (Nat.lt_of_lt_of_le hl hmax)),
    hkind]
  rfl

theorem IsWord.of_renderHint {slot : Plugin.Slot} {isKey : Bool}
    (h : IsWord (renderHint protocol slot isKey text)) : IsWord text := by
  intro c hc
  refine h c ?_
  cases slot with
  | value => exact List.mem_append_right _ hc
  | «variable» => exact List.mem_append_right _ (List.mem_cons_of_mem _ hc)

end

/-- Classification undoes rendering. A hint without blanks and `#` that is rendered for a plugin, or
for its variable, and is shorter than the limit is classified as a value of that plugin with the text
of the hint as the value, whatever asks for it but the enter key. So is every such candidate of a
rendered set. -/
theorem rendered_hint_read_back (plugins : Plugin.Directory) (plugin : Plugin.Metadata)
    (hp : plugin ∈ plugins.plugins) (hn : IsName plugin.shortName) (hne : plugin.shortName ≠ [])
    (limits : Limits) (hlimits : limits.varLength ≤ limits.hintLength) (trigger : Trigger)
    (ht : trigger ≠ .enter) :
    (∀ protocol isKey text, plugin.hasHints = true →
        protocol = plugin.shortName ∨ protocol = Plugin.moduleLead ++ plugin.shortName →
        protocol ≠ "pipe" → IsWord text →
        let word := renderHint protocol .value isKey text
        word.length < limits.hintLength →
        classify? plugins limits word word.length trigger =
          some ⟨.pluginValue plugin.shortName protocol text, word, 0, word.length⟩) ∧
      (∀ isKey text, plugin.vars.isSome = true → IsWord text →
        let word := renderHint ('%' :: plugin.shortName) .variable isKey text
        word.length < limits.varLength →
        classify? plugins limits word word.length trigger =
          some ⟨.variableValue plugin.shortName (if isKey then .key else .value) text, word, 0,
            word.length⟩) ∧
      ∀ (context : HintContext) (hints : List RawHint), context.limits = limits →
        Offers plugin context.protocol context.slot →
        ∀ candidate ∈ (context.renderAll hints).candidates, IsWord candidate.insertText →
          ∃ hint ∈ hints, candidate.insertText = context.rendered hint ∧
            classify? plugins limits candidate.insertText candidate.insertText.length trigger =
              some ⟨renderedKind plugin.shortName context.protocol context.slot hint.isKey
                (Text.trim hint.text), candidate.insertText, 0, candidate.insertText.length⟩ := by
  refine ⟨?_, ?_, ?_⟩
  · intro protocol isKey text hhints hprotocol hpipe htext word hl
    exact classify?_rendered hp hn hne ⟨plugin, protocol, .value, limits, []⟩ hlimits ht
      ⟨hhints, hprotocol, hpipe⟩ htext hl
  · intro isKey text hvars htext word hl
    exact classify?_rendered hp hn hne ⟨plugin, '%' :: plugin.shortName, .variable, limits, []⟩
      hlimits ht ⟨hvars, rfl⟩ htext hl
  · rintro context hints rfl hoffers candidate hc hword
    obtain ⟨kept, hsub, holds⟩ := context.holds_renderAll hints
    rw [holds.candidates] at hc
    obtain ⟨hint, hkept, rfl⟩ := List.mem_map.1 hc
    rw [HintContext.insertText_candidate] at hword ⊢
    refine ⟨hint, hsub.subset hkept, rfl, ?_⟩
    exact classify?_rendered hp hn hne context hlimits ht hoffers hword.of_renderHint
      (holds.short hint hkept)

/- A name with a digit of another script, a text that begins with a slash, and a key. -/
theorem numeral_hints_read_back :
    let plugin : Plugin.Metadata :=
      { moduleName := "whistle.v٣", hintUrl := some "hints", vars := some {} }
    let plugins := Plugin.Directory.ofList [plugin]
    (plugin ∈ plugins.plugins ∧ IsName plugin.shortName ∧ plugin.shortName ≠ []) ∧
      classify? plugins {} "whistle.v٣:///a" 15 .delete =
        some ⟨.pluginValue "v٣" "whistle.v٣" "/a", "whistle.v٣:///a", 0, 15⟩ ∧
      classify? plugins {} "%v٣.k" 5 .manual =
        some ⟨.variableValue "v٣" .key "k", "%v٣.k", 0, 5⟩ := by
  intro plugin plugins
  have hp : plugin ∈ plugins.plugins := List.mem_singleton_self plugin
  have hn : IsName plugin.shortName := List.all_eq_true.1 (by decide)
  have hne : plugin.shortName ≠ [] := by decide
  refine ⟨⟨hp, hn, hne⟩, ?_, ?_⟩
  · exact (rendered_hint_read_back plugins plugin hp hn hne {} (by decide) .delete (by decide)).1
      "whistle.v٣" false "/a" rfl (Or.inr rfl) (by decide) (by decide) (by decide)
  · exact (rendered_hint_read_back plugins plugin hp hn hne {} (by decide) .manual (by decide)).2.1
      true "k" rfl (by decide) (by decide)

end Line

end RuleHints
