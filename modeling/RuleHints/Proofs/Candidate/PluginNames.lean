import RuleHints.Candidate.Build
import RuleHints.Proofs.Text.Casing
import RuleHints.Proofs.Text.Occurrence

/-!
# Plugins to name after a protocol

After `pipe://` or `sniCallback://` the plugins are offered whose entry holds what was typed. What was
typed is put in lower case before the search, the entry is not. So a name that was typed in any case is
found as far as the name itself is in lower case; a capital letter among the typed ones hides it.
-/

namespace RuleHints

namespace Sources

/-! ### The place of what was typed in an entry -/

/- What was typed is found in an entry behind the protocol, or further on. -/
theorem infix_entry_iff {spec t name : Text} :
    spec ++ protocolMark ++ t <:+: spec ++ protocolMark ++ name ↔
      t <+: name ∨ ∃ lead, lead ≠ [] ∧ lead ++ (spec ++ protocolMark ++ t) <+:
        spec ++ protocolMark ++ name := by
  constructor
  · rintro ⟨lead, rest, heq⟩
    have hbegins : lead ++ (spec ++ protocolMark ++ t) <+: spec ++ protocolMark ++ name := ⟨rest, heq⟩
    by_cases hlead : lead = []
    · rw [hlead, List.nil_append, List.prefix_append_right_inj] at hbegins
      exact Or.inl hbegins
    · exact Or.inr ⟨lead, hlead, hbegins⟩
  · rintro (hbegins | ⟨lead, -, rest, heq⟩)
    · exact ((List.prefix_append_right_inj _).2 hbegins).isInfix
    · exact ⟨lead, rest, heq⟩

/- Further on there has to be a second mark, and the first one leaves no room for it but in the name. -/
theorem mark_infix_of_later {spec t name lead : Text} (hlead : lead ≠ [])
    (h : lead ++ (spec ++ protocolMark ++ t) <+: spec ++ protocolMark ++ name) :
    protocolMark <:+: name := by
  have hmark : protocolMark = [':', '/', '/'] := rfl
  obtain ⟨rest, heq⟩ := h
  have hspec : spec <+: spec ++ protocolMark ++ name :=
    (List.prefix_append ..).trans (List.prefix_append ..)
  have hshifted : lead ++ spec <+: spec ++ protocolMark ++ name :=
    ⟨protocolMark ++ t ++ rest, by rw [← heq]; simp only [List.append_assoc]⟩
  have hlength : spec.length ≤ (lead ++ spec).length := by
    rw [List.length_append]
    omega
  obtain ⟨between, hbetween⟩ := List.prefix_of_prefix_length_le hspec hshifted hlength
  have hne : between ≠ [] := by
    rintro rfl
    have hlengths := congrArg List.length hbetween
    have hpos := List.length_pos_iff.2 hlead
    rw [List.append_nil, List.length_append] at hlengths
    omega
  have hboth : spec ++ (between ++ (protocolMark ++ (t ++ rest))) = spec ++ (protocolMark ++ name) := by
    rw [← List.append_assoc, hbetween, ← List.append_assoc spec, ← heq]
    simp only [List.append_assoc]
  have hrest := List.append_cancel_left hboth
  -- The second mark cannot begin inside the first one, whose other characters are slashes.
  rw [hmark] at hrest
  match between with
  | [] => exact absurd rfl hne
  | [a] => simp at hrest
  | [a, b] => simp at hrest
  | a :: b :: c :: between =>
    simp only [List.cons_append, List.nil_append, List.cons.injEq] at hrest
    exact ⟨between, t ++ rest, by rw [← hrest.2.2.2, hmark]; simp⟩

/-! ### What is offered -/

/-- The entry for a plugin. -/
def pluginEntry (spec name : Text) : Text := spec ++ protocolMark ++ name

variable (sources : Sources) (spec value : Text)

/-- What is offered, without a cap. -/
def offeredEntries : List Text :=
  (sources.plugins.names.map (pluginEntry spec)).filter fun entry =>
    value.isEmpty || Text.occurs (pluginEntry spec (Text.lower value)) entry

theorem specCandidates_eq : sources.specCandidates spec value =
    ((sources.offeredEntries spec value).take sources.limits.candidates).map
      fun entry => { insertText := entry, helpRef := spec } := rfl

theorem map_insertText_specCandidates : (sources.specCandidates spec value).map (·.insertText) =
    (sources.offeredEntries spec value).take sources.limits.candidates := by
  rw [specCandidates_eq, List.map_map]
  exact List.map_id _

theorem specCandidates_sublist :
    ((sources.specCandidates spec value).map (·.insertText)).Sublist
      (sources.plugins.names.map (pluginEntry spec)) := by
  rw [map_insertText_specCandidates]
  exact (List.take_sublist ..).trans List.filter_sublist

variable {sources} in
theorem pluginEntry_mem_iff {name : Text} (hname : name ∈ sources.plugins.names)
    (hroom : sources.plugins.plugins.length ≤ sources.limits.candidates) :
    pluginEntry spec name ∈ (sources.specCandidates spec value).map (·.insertText) ↔
      value = [] ∨ pluginEntry spec (Text.lower value) <:+: pluginEntry spec name := by
  have hlength : (sources.offeredEntries spec value).length ≤ sources.limits.candidates := by
    refine Nat.le_trans (List.length_filter_le ..) ?_
    rw [List.length_map, Plugin.Directory.names, List.length_map]
    exact hroom
  rw [map_insertText_specCandidates, List.take_of_length_le hlength, offeredEntries, List.mem_filter,
    and_iff_right (List.mem_map_of_mem hname), Bool.or_eq_true, List.isEmpty_iff, Text.occurs_iff]

/-- The plugins that are offered after a protocol. They are in the order of their names, with the
protocol as what help is found under. With room for all of them, a plugin of which the beginning was
typed in any case is offered exactly if nothing was typed, or its name has no capital letter where it
was typed, or the name has a mark in it and the whole of what is searched for stands further on. -/
theorem plugins_offered_by_case {plugin : Plugin.Metadata} (hplugin : plugin ∈ sources.plugins.plugins)
    (hascii : Text.IsAscii plugin.shortName) (hvalue : Text.BeginsAnyCase value plugin.shortName)
    (hroom : sources.plugins.plugins.length ≤ sources.limits.candidates) :
    let name := plugin.shortName
    let offered := (sources.specCandidates spec value).map (·.insertText)
    sources.specCandidates spec value =
        offered.map (fun entry => { insertText := entry, helpRef := spec }) ∧
      offered.Sublist (sources.plugins.names.map (pluginEntry spec)) ∧
      sources.plugins.names.Pairwise (fun a b => Text.isBefore a b = true) ∧
      (pluginEntry spec name ∈ offered ↔
        value = [] ∨ Text.IsUncapital (name.take value.length) ∨
          ∃ lead, lead ≠ [] ∧
            lead ++ pluginEntry spec (value.map Char.toLower) <+: pluginEntry spec name) ∧
      (¬protocolMark <:+: name →
        (pluginEntry spec name ∈ offered ↔
          value = [] ∨ Text.IsUncapital (name.take value.length))) := by
  intro name offered
  have hname : name ∈ sources.plugins.names := List.mem_map_of_mem hplugin
  have hmem : pluginEntry spec name ∈ offered ↔
      value = [] ∨ Text.IsUncapital (name.take value.length) ∨
        ∃ lead, lead ≠ [] ∧
          lead ++ pluginEntry spec (value.map Char.toLower) <+: pluginEntry spec name := by
    rw [pluginEntry_mem_iff spec value hname hroom, (hvalue.isAscii hascii).lower_eq,
      ← hvalue.map_toLower_prefix_iff hascii]
    exact or_congr_right infix_entry_iff
  refine ⟨?_, specCandidates_sublist sources spec value, ?_, hmem, fun hmark => ?_⟩
  · rw [specCandidates_eq]
    exact congrArg _ (map_insertText_specCandidates sources spec value).symm
  · exact List.pairwise_map.2 sources.plugins.ascending
  · rw [hmem]
    refine or_congr_right (or_iff_left ?_)
    rintro ⟨lead, hlead, hlater⟩
    exact hmark (mark_infix_of_later hlead hlater)

/- As far as the name is in lower case it is found in capitals too; from its capital letter on it is
not. A name with a mark in it is found by what stands behind the mark. -/
theorem mixed_names_after_pipe :
    let mixed : Plugin.Metadata := { moduleName := "whistle.inSpect" }
    let marked : Plugin.Metadata := { moduleName := "Xpipe://x" }
    let sources : Sources := { registry := ⟨[]⟩, plugins := .ofList [mixed, marked] }
    let offered (value : Text) : List Text :=
      (sources.specCandidates "pipe" value).map (·.insertText)
    (mixed ∈ sources.plugins.plugins ∧ Text.IsAscii mixed.shortName ∧
      Text.BeginsAnyCase "IN" mixed.shortName ∧ Text.BeginsAnyCase "ins" mixed.shortName ∧
      sources.plugins.plugins.length ≤ sources.limits.candidates) ∧
    ("pipe://inSpect" : Text) ∈ offered "IN" ∧ ("pipe://inSpect" : Text) ∉ offered "ins" ∧
    ("pipe://Xpipe://x" : Text) ∈ offered "x" := by
  intro mixed marked sources offered
  have hmixed : mixed ∈ sources.plugins.plugins := by decide
  have hmarked : marked ∈ sources.plugins.plugins := by decide
  obtain ⟨-, -, -, -, hcapitals⟩ :=
    plugins_offered_by_case sources "pipe" "IN" hmixed (by decide) (by decide) (by decide)
  obtain ⟨-, -, -, -, hsmall⟩ :=
    plugins_offered_by_case sources "pipe" "ins" hmixed (by decide) (by decide) (by decide)
  obtain ⟨-, -, -, hlater, -⟩ :=
    plugins_offered_by_case sources "pipe" "x" hmarked (by decide) (by decide) (by decide)
  have hunmarked : ¬protocolMark <:+: mixed.shortName := by
    rw [← Text.occurs_iff]
    decide
  refine ⟨by decide, (hcapitals hunmarked).2 (by decide), fun hmem => ?_, hlater.2 ?_⟩
  · have hnot : ¬(("ins" : Text) = [] ∨ Text.IsUncapital (mixed.shortName.take 3)) := by decide
    exact hnot ((hsmall hunmarked).1 hmem)
  · exact Or.inr (Or.inr ⟨"pipe://X", by decide, by decide⟩)

/- The name of the only plugin, typed as it is. -/
theorem capital_name_not_offered :
    let plugin : Plugin.Metadata := { moduleName := "whistle.Inspect" }
    let sources : Sources := { registry := ⟨[]⟩, plugins := .ofList [plugin] }
    (plugin ∈ sources.plugins.plugins ∧ Text.IsAscii plugin.shortName ∧
      Text.BeginsAnyCase "Inspect" plugin.shortName ∧
      sources.plugins.plugins.length ≤ sources.limits.candidates) ∧
    sources.specCandidates "pipe" "Inspect" = [] := by
  decide

end Sources

end RuleHints
