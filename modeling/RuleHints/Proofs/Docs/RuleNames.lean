import RuleHints.Proofs.Docs.Tooltip
import RuleHints.Proofs.Hint.Agreement

/-!
# Names of rules taken twice

The name under which help on a candidate is found is the bare name of a protocol, and it is taken as the
name of a rule again when help is looked for, and once more when the page is looked up. Each time blanks
are trimmed first, then one leading `whistle.` goes, then all from the first colon on. What goes later
can uncover what would have gone earlier: a second `whistle.`, a blank behind the first one, or a blank
before the colon. A name that has none of these is `SettledName`, and only such a name keeps its page.
-/

namespace RuleHints

open Text

/-! ### Bare names -/

theorem ruleName_isInfix (name : Text) : ruleName name <:+: name :=
  ((before_isPrefix ..).isInfix.trans (dropLead_isSuffix ..).isInfix).trans (trim_isInfix name)

theorem not_mem_ruleName (name : Text) : ':' ∉ ruleName name := not_mem_before ':' _

/- Each of the three steps leaves a part of what it is given, so if all is left each left all. -/
theorem ruleName_eq_self_iff {name : Text} :
    ruleName name = name ↔ IsTrimmed name ∧ ¬Plugin.moduleLead <+: name ∧ ':' ∉ name := by
  constructor
  · intro heq
    have hcut : (ruleName name).length ≤ (dropLead Plugin.moduleLead (trim name)).length :=
      (before_isPrefix ..).length_le
    have hdropped : (dropLead Plugin.moduleLead (trim name)).length ≤ (trim name).length :=
      (dropLead_isSuffix ..).length_le
    rw [heq] at hcut
    have htrim : trim name = name := (trim_isInfix name).eq_of_length_le (by omega)
    rw [htrim] at hcut
    refine ⟨htrim ▸ trim_isTrimmed name, ?_, heq ▸ not_mem_ruleName name⟩
    rintro ⟨rest, hrest⟩
    rw [← hrest, dropLead_append, List.length_append] at hcut
    have hlead : Plugin.moduleLead.length = 8 := rfl
    omega
  · rintro ⟨htrim, hlead, hcolon⟩
    rw [ruleName, htrim.trim_eq, dropLead_of_not_begins hlead, before_of_not_mem hcolon]

/-- Nothing is uncovered when the bare name of a trimmed text is taken: no second `whistle.` and no
blank behind the first one, and no blank before the colon. -/
structure SettledName (t : Text) : Prop where
  single : ¬Plugin.moduleLead ++ Plugin.moduleLead <+: t
  joined : ∀ c, isBlank c = true → ¬Plugin.moduleLead ++ [c] <+: t
  closed : ∀ c, isBlank c = true → ¬[c] <:+ before ':' t

theorem ne_colon_of_isBlank {c : Char} (h : isBlank c = true) : ':' ∉ [c] := by
  rw [List.mem_singleton]
  rintro rfl
  exact absurd h (by decide)

/- The lead ends with a dot, so a blank at the end is one of the rest. -/
theorem suffix_lead_append_iff {c : Char} (h : isBlank c = true) (t : Text) :
    [c] <:+ Plugin.moduleLead ++ t ↔ [c] <:+ t := by
  have hlast : Plugin.moduleLead.getLast? = some '.' := by decide
  have hdot : c ≠ '.' := by
    rintro rfl
    exact absurd h (by decide)
  rw [List.singleton_suffix_iff_getLast?_eq_some, List.singleton_suffix_iff_getLast?_eq_some,
    List.getLast?_append, hlast]
  cases t.getLast? with
  | none => simpa using hdot.symm
  | some d => rfl

theorem ruleName_ruleName_iff (name : Text) :
    ruleName (ruleName name) = ruleName name ↔ SettledName (trim name) := by
  have hcolon : ':' ∉ Plugin.moduleLead := by decide
  have htrim := trim_isTrimmed name
  rw [ruleName_eq_self_iff, and_iff_left (not_mem_ruleName name), isTrimmed_iff]
  rw [isTrimmed_iff] at htrim
  rw [ruleName]
  generalize trim name = t at htrim
  by_cases hlead : Plugin.moduleLead <+: t
  · obtain ⟨rest, rfl⟩ := hlead
    rw [dropLead_append, prefix_before_iff hcolon]
    constructor
    · rintro ⟨⟨hhead, hlast⟩, hsingle⟩
      refine ⟨?_, fun c hc => ?_, fun c hc => ?_⟩
      · rwa [List.prefix_append_right_inj]
      · rw [List.prefix_append_right_inj, ← prefix_before_iff (ne_colon_of_isBlank hc)]
        exact hhead c hc
      · rw [before_append hcolon, suffix_lead_append_iff hc]
        exact hlast c hc
    · rintro ⟨hsingle, hjoined, hclosed⟩
      refine ⟨⟨fun c hc => ?_, fun c hc => ?_⟩, ?_⟩
      · rw [prefix_before_iff (ne_colon_of_isBlank hc), ← List.prefix_append_right_inj Plugin.moduleLead]
        exact hjoined c hc
      · rw [← suffix_lead_append_iff hc, ← before_append hcolon]
        exact hclosed c hc
      · rwa [List.prefix_append_right_inj] at hsingle
  · rw [dropLead_of_not_begins hlead, prefix_before_iff hcolon]
    have hlonger : ∀ more, ¬Plugin.moduleLead ++ more <+: t := fun more hmore =>
      hlead ((List.prefix_append ..).trans hmore)
    constructor
    · rintro ⟨⟨-, hlast⟩, -⟩
      exact ⟨hlonger _, fun c _ => hlonger [c], hlast⟩
    · rintro ⟨-, -, hclosed⟩
      refine ⟨⟨fun c hc => ?_, hclosed⟩, hlead⟩
      rw [prefix_before_iff (ne_colon_of_isBlank hc)]
      exact htrim.1 c hc

/-! ### Pages of bare names -/

/-- The page of a bare name, of that very name or of its lower case. -/
def Corpus.named? (corpus : Corpus) (rule : Text) : Option Page :=
  (corpus.pages.get? rule).or
    ((corpus.folded.get? (lower rule)).bind fun known => corpus.pages.get? known)

theorem Corpus.lookup?_eq_named? (corpus : Corpus) (name : Text) :
    corpus.lookup? name = corpus.named? (ruleName name) := by
  simp only [lookup?, named?]
  cases corpus.pages.get? (ruleName name) <;> rfl

theorem Corpus.named?_of_page {corpus : Corpus} {rule : Text} {page : Page}
    (h : corpus.pages.get? rule = some page) : corpus.named? rule = some page := by
  rw [named?, h]
  rfl

namespace HelpSources

variable (sources : HelpSources)

/-- Help on a bare name: at its page, at the homepage of the plugin of that name, or at the index. -/
def onRule (rule : Text) : Help :=
  sources.helpAt (((sources.corpus.named? rule).map (·.url)).getD
    ((sources.homepage? rule).getD sources.pluginsIndex))

theorem ruleHelp_eq (name : Text) : sources.ruleHelp name =
    sources.helpAt (((sources.corpus.named? (ruleName (ruleName name))).map (·.url)).getD
      ((sources.homepage? (ruleName name)).getD sources.pluginsIndex)) := by
  simp only [ruleHelp, Corpus.lookup?_eq_named?]
  cases sources.corpus.named? (ruleName (ruleName name)) <;> rfl

theorem ruleHelp_of_page {name : Text} {page : Page}
    (h : sources.corpus.named? (ruleName (ruleName name)) = some page) :
    sources.ruleHelp name = sources.helpAt page.url := by
  rw [ruleHelp_eq, h]
  rfl

theorem ruleHelp_of_stable {name : Text} (h : ruleName (ruleName name) = ruleName name) :
    sources.ruleHelp name = sources.onRule (ruleName name) := by
  rw [ruleHelp_eq, onRule, h]

end HelpSources

/-- A page for a bare name, and another one for what is left when it is taken again, once or twice. -/
def apartLog (rule : Text) : List (Text × Page) :=
  [(ruleName (ruleName rule), ⟨"again", []⟩), (ruleName rule, ⟨"again", []⟩), (rule, ⟨"own", []⟩)]

theorem insertAll_apartLog (rule : Text) : Corpus.insertAll {} (apartLog rule) =
    ((Corpus.insert {} (ruleName (ruleName rule)) ⟨"again", []⟩).insert (ruleName rule)
      ⟨"again", []⟩).insert rule ⟨"own", []⟩ := rfl

theorem named?_apartLog (rule : Text) :
    (Corpus.insertAll {} (apartLog rule)).named? rule = some ⟨"own", []⟩ := by
  rw [insertAll_apartLog]
  exact Corpus.named?_of_page (Corpus.get?_pages_insert_self ..)

section

variable {rule : Text} (h : ruleName rule ≠ rule)

include h

/- A name gets shorter each time, so it does not come back. -/
theorem ruleName_ruleName_ne : ruleName (ruleName rule) ≠ rule := by
  intro heq
  apply h
  have hlength := (ruleName_isInfix (ruleName rule)).length_le
  rw [heq] at hlength
  exact (ruleName_isInfix rule).eq_of_length_le hlength

theorem named?_apartLog_again :
    (Corpus.insertAll {} (apartLog rule)).named? (ruleName rule) = some ⟨"again", []⟩ := by
  rw [insertAll_apartLog]
  refine Corpus.named?_of_page ?_
  rw [Corpus.get?_pages_insert_of_ne (Ne.symm h), Corpus.get?_pages_insert_self]

theorem named?_apartLog_twice :
    (Corpus.insertAll {} (apartLog rule)).named? (ruleName (ruleName rule)) = some ⟨"again", []⟩ := by
  by_cases hsame : ruleName rule = ruleName (ruleName rule)
  · rw [← hsame]
    exact named?_apartLog_again h
  · rw [insertAll_apartLog]
    refine Corpus.named?_of_page ?_
    rw [Corpus.get?_pages_insert_of_ne (ruleName_ruleName_ne h).symm,
      Corpus.get?_pages_insert_of_ne hsame, Corpus.get?_pages_insert_self]

end

/-- The corpus was put together from pages. -/
def Corpus.IsBuilt (corpus : Corpus) : Prop := ∃ log, corpus = insertAll {} log

/-- Nothing but the pages that are apart. -/
def apartSources (rule : Text) : HelpSources where
  plugins := .empty
  corpus := .insertAll {} (apartLog rule)
  atHelpUrl := []
  pluginsIndex := []

theorem apartSources_isBuilt (rule : Text) : (apartSources rule).corpus.IsBuilt := ⟨_, rfl⟩

theorem onRule_apartSources (rule : Text) :
    (apartSources rule).onRule rule = (apartSources rule).helpAt "own" := by
  have hpage : (apartSources rule).corpus.named? rule = some ⟨"own", []⟩ := named?_apartLog rule
  rw [HelpSources.onRule, hpage, Option.map_some, Option.getD_some]

theorem helpAt_apart (rule : Text) :
    (apartSources rule).helpAt "again" ≠ (apartSources rule).helpAt "own" := fun h =>
  absurd (HelpAddress.url.inj (congrArg Help.address h)) (by decide)

/-- The bare name of a bare name. It is the name itself exactly for settled names. These are also the
names for which the look-up of the bare name gives the page of the name, for which help is at the page
of the bare name, and for which the help on a protocol's candidate is there, in every corpus that was
put together; unless the bare name is that of an `@` value or of a variable, for which help is found in
other ways. -/
theorem bare_names_taken_again (name : Text) :
    let rule := ruleName name
    (ruleName rule = rule ↔ SettledName (trim name)) ∧
    ((∀ corpus : Corpus, corpus.IsBuilt → corpus.lookup? rule = corpus.lookup? name) ↔
      SettledName (trim name)) ∧
    ((∀ sources : HelpSources, sources.corpus.IsBuilt →
        sources.ruleHelp name = sources.onRule rule) ↔
      SettledName (trim name)) ∧
    (startsWith "@" rule = false → startsWith "%" rule = false →
      ((∀ sources : HelpSources, sources.corpus.IsBuilt →
          sources.help (Candidate.ofProtocol name).helpRef none = sources.onRule rule) ↔
        SettledName (trim name))) := by
  intro rule
  have hiff : ruleName rule = rule ↔ SettledName (trim name) := ruleName_ruleName_iff name
  have hbuilt : (apartSources rule).corpus.IsBuilt := apartSources_isBuilt rule
  have hkey : (Candidate.ofProtocol name).helpRef = rule := rfl
  rw [← hiff, hkey]
  refine ⟨Iff.rfl, ⟨fun hall => ?_, fun hstable corpus _ => ?_⟩,
    ⟨fun hall => ?_, fun hstable sources _ => ?_⟩,
    fun hat hpercent => ⟨fun hall => ?_, fun hstable sources _ => ?_⟩⟩
  · refine Decidable.byContradiction fun hne => ?_
    have heq := hall _ hbuilt
    rw [Corpus.lookup?_eq_named?, Corpus.lookup?_eq_named?] at heq
    have hpages := ((named?_apartLog_again hne).symm.trans heq).trans (named?_apartLog rule)
    exact absurd (congrArg (Option.map Page.url) hpages) (by decide)
  · rw [Corpus.lookup?_eq_named?, Corpus.lookup?_eq_named?, hstable]
  · refine Decidable.byContradiction fun hne => ?_
    have heq := hall _ hbuilt
    rw [onRule_apartSources, (apartSources rule).ruleHelp_of_page (named?_apartLog_again hne)] at heq
    exact helpAt_apart rule heq
  · exact sources.ruleHelp_of_stable hstable
  · refine Decidable.byContradiction fun hne => ?_
    have heq := hall _ hbuilt
    rw [onRule_apartSources, HelpSources.help_of_rule _ hat hpercent,
      (apartSources rule).ruleHelp_of_page (named?_apartLog_twice hne)] at heq
    exact helpAt_apart rule heq
  · rw [HelpSources.help_of_rule _ hat hpercent,
      sources.ruleHelp_of_stable (congrArg ruleName hstable), hstable]

/- A name with two leads loses the second one when help is looked for. A look-up of the name itself finds
the page that help on the name does not. -/
theorem doubled_lead_loses_page :
    let name : Text := "whistle.whistle.x"
    let page : Page := ⟨"x.html", "x"⟩
    let sources : HelpSources := {
      plugins := .empty
      corpus := Corpus.insertAll {} [(ruleName name, page)]
      atHelpUrl := "at"
      pluginsIndex := "index" }
    ruleName (ruleName name) ≠ ruleName name ∧
      sources.corpus.lookup? name = some page ∧ sources.corpus.lookup? (ruleName name) = none ∧
      sources.help name none = ⟨.url "index", none⟩ ∧
      sources.help (Candidate.ofProtocol name).helpRef none = ⟨.url "index", none⟩ := by
  decide

end RuleHints
