import RuleHints.Proofs.Line.Classification

/-!
# The path that an endpoint goes to

The first segment of a path says which plugin answers. An address is put below the path of its plugin
unless it begins with the name of the module or with that path. To begin with a name is less than to
have it as the first segment: `plugin.inspect/hints` begins with `plugin.in`.
-/

namespace RuleHints.Plugin

/-! ### Segments -/

/-- The character ends the first segment of a path. -/
def endsSegment (c : Char) : Bool := c == '/' || c == '?' || c == '#'

/-- The text up to the first slash, question mark or hash. -/
def firstSegment (path : Text) : Text := path.takeWhile fun c => !endsSegment c

/-- The text can be a segment. -/
def IsSegment (t : Text) : Prop := ∀ c ∈ t, endsSegment c = false

instance (t : Text) : Decidable (IsSegment t) :=
  List.decidableBAll (fun c => endsSegment c = false) t

theorem isSegment_firstSegment (path : Text) : IsSegment (firstSegment path) := by
  intro c hc
  have hall := List.all_eq_true.1 List.all_takeWhile c hc
  simpa using hall

theorem isSegment_append {s t : Text} : IsSegment (s ++ t) ↔ IsSegment s ∧ IsSegment t := by
  simp only [IsSegment, List.mem_append]
  constructor
  · intro h
    exact ⟨fun c hc => h c (Or.inl hc), fun c hc => h c (Or.inr hc)⟩
  · rintro ⟨hs, ht⟩ c (hc | hc)
    · exact hs c hc
    · exact ht c hc

theorem IsSegment.firstSegment_append_slash {name : Text} (h : IsSegment name) (rest : Text) :
    firstSegment (name ++ "/" ++ rest) = name := by
  rw [firstSegment, List.append_assoc, List.takeWhile_append_of_pos (by simpa [IsSegment] using h)]
  exact List.append_nil name

namespace Metadata

variable (plugin : Metadata)

/-! ### The names of a plugin -/

theorem moduleName_cases :
    plugin.moduleName = plugin.shortName ∨ plugin.moduleName = moduleLead ++ plugin.shortName := by
  rw [shortName, Text.dropLead]
  cases hd : Text.dropLead? moduleLead plugin.moduleName with
  | none => exact Or.inl rfl
  | some rest =>
    rw [Option.getD_some]
    exact Or.inr (Text.dropLead?_eq_some.1 hd)

theorem isSegment_scope : IsSegment plugin.scope ↔ IsSegment plugin.shortName := by
  have hlead : IsSegment "plugin." := by decide
  exact isSegment_append.trans (and_iff_right hlead)

theorem isSegment_moduleName : IsSegment plugin.moduleName ↔ IsSegment plugin.shortName := by
  have hlead : IsSegment moduleLead := by decide
  rcases plugin.moduleName_cases with h | h
  · rw [h]
  · rw [h]
    exact isSegment_append.trans (and_iff_right hlead)

/-- The path begins with the name of the module or with the path of the plugin. -/
def Begins (path : Text) : Prop := plugin.moduleName <+: path ∨ plugin.scope <+: path

instance (path : Text) : Decidable (plugin.Begins path) :=
  inferInstanceAs (Decidable (_ ∨ _))

/-- The first segment is the name of the module or the path of the plugin. -/
def Owns (path : Text) : Prop :=
  firstSegment path = plugin.moduleName ∨ firstSegment path = plugin.scope

instance (path : Text) : Decidable (plugin.Owns path) :=
  inferInstanceAs (Decidable (_ ∨ _))

variable {plugin}

theorem Owns.isSegment {path : Text} (h : plugin.Owns path) : IsSegment plugin.shortName := by
  rcases h with h | h
  · exact plugin.isSegment_moduleName.1 (h ▸ isSegment_firstSegment path)
  · exact plugin.isSegment_scope.1 (h ▸ isSegment_firstSegment path)

/-! ### Scoping -/

theorem withinScope_eq (url : Text) :
    plugin.withinScope url = if plugin.Begins url then url else plugin.scope ++ "/" ++ url := by
  rw [withinScope, Text.startsWith, Text.startsWith]
  simp only [Bool.or_eq_true, List.isPrefixOf_iff_prefix]
  rfl

theorem begins_withinScope (url : Text) : plugin.Begins (plugin.withinScope url) := by
  rw [withinScope_eq]
  split
  · assumption
  · exact Or.inr ((List.prefix_append _ _).trans (List.prefix_append _ _))

theorem owns_withinScope_iff (url : Text) :
    plugin.Owns (plugin.withinScope url) ↔
      IsSegment plugin.shortName ∧ (plugin.Owns url ∨ ¬plugin.Begins url) := by
  rw [withinScope_eq]
  split
  · next hbegins =>
    constructor
    · intro howns
      exact ⟨howns.isSegment, Or.inl howns⟩
    · rintro ⟨-, howns | hnot⟩
      · exact howns
      · exact absurd hbegins hnot
  · next hnot =>
    constructor
    · intro howns
      exact ⟨howns.isSegment, Or.inr hnot⟩
    · rintro ⟨hsegment, -⟩
      exact Or.inr ((plugin.isSegment_scope.2 hsegment).firstSegment_append_slash url)

/-- Where the address of a plugin goes. An address that begins with the name of the module or with the
path of the plugin stays as it is, any other one is put below that path; so doing it again changes
nothing. The first segment is that of the plugin exactly if its name can be a segment and the address
begins with neither name, or has one of them as its own first segment. An endpoint that goes elsewhere
is the address as it was declared. -/
theorem endpoint_first_segment (plugin : Metadata) (slot : Slot) {url : Text}
    (haddress : plugin.address? slot = some url) :
    ∃ endpoint, plugin.endpoint? slot = some endpoint ∧
      endpoint = (if plugin.Begins url then url else plugin.scope ++ "/" ++ url) ∧
      plugin.Begins endpoint ∧ plugin.withinScope endpoint = endpoint ∧
      (plugin.Owns endpoint ↔
        IsSegment plugin.shortName ∧ (plugin.Owns url ∨ ¬plugin.Begins url)) ∧
      (IsSegment plugin.shortName → ¬plugin.Owns endpoint → endpoint = url) := by
  have hbegins : plugin.Begins (plugin.withinScope url) := begins_withinScope url
  refine ⟨plugin.withinScope url, ?_, withinScope_eq url, hbegins, ?_, owns_withinScope_iff url, ?_⟩
  · rw [endpoint?, haddress, Option.map_some]
  · rw [withinScope_eq (plugin.withinScope url), if_pos hbegins]
  · intro hsegment hnot
    rw [owns_withinScope_iff] at hnot
    by_cases h : plugin.Begins url
    · rw [withinScope_eq, if_pos h]
    · exact absurd ⟨hsegment, Or.inr h⟩ hnot

/- A relative address goes below the path of the plugin, one with a query directly behind the name of the
module is the plugin's own, and one that only begins like it goes to another plugin. -/
theorem inspect_endpoints :
    let plugin : Metadata := {
      moduleName := "whistle.in"
      hintUrl := some "whistle.in?x=1"
      vars := some { hintUrl := some "plugin.inspect/hints" } }
    let other : Metadata := { moduleName := "whistle.inspect" }
    (plugin.address? .value = some ("whistle.in?x=1" : Text) ∧
      plugin.address? .variable = some ("plugin.inspect/hints" : Text)) ∧
    (∃ endpoint, plugin.endpoint? .value = some endpoint ∧ plugin.Owns endpoint) ∧
    ∃ endpoint, plugin.endpoint? .variable = some endpoint ∧ ¬plugin.Owns endpoint ∧
      plugin.withinScope endpoint = endpoint ∧ other.Owns endpoint := by
  intro plugin other
  obtain ⟨first, hfirst, -, -, -, hown, -⟩ := endpoint_first_segment plugin .value rfl
  obtain ⟨second, hsecond, heq, -, hagain, hforeign, -⟩ := endpoint_first_segment plugin .variable rfl
  refine ⟨⟨rfl, rfl⟩, ⟨first, hfirst, hown.2 (by decide)⟩, second, hsecond, ?_, hagain, ?_⟩
  · rw [hforeign]
    decide
  · rw [heq]
    decide

/- The name of one plugin begins the name of another, and an address that begins with the path of the
one is the path of the other. -/
theorem endpoint_of_other_plugin :
    let plugin : Metadata := { moduleName := "whistle.in", hintUrl := some "plugin.inspect/hints" }
    let other : Metadata := { moduleName := "whistle.inspect" }
    ∃ endpoint, plugin.endpoint? .value = some endpoint ∧
      (firstSegment endpoint ≠ plugin.moduleName ∧ firstSegment endpoint ≠ plugin.scope) ∧
      (plugin.shortName <+: other.shortName ∧ plugin.shortName ≠ other.shortName) ∧
      firstSegment endpoint = other.scope := by
  refine ⟨"plugin.inspect/hints", ?_⟩
  decide

end Metadata

end RuleHints.Plugin
