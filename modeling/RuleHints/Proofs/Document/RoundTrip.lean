import RuleHints.Candidate.Basic
import RuleHints.Proofs.Document.Records
import RuleHints.Settings.Load

/-!
# Settings, plugins and candidates survive writing

What is written of plugins, settings and candidates loads as what was written, in each form of a record
and with any mixture of forms. Hints are the exception: an entry says itself what it is, so it is written
as an object only.
-/

namespace RuleHints

/-- The form of a record and the form of the record inside it. -/
structure Style where
  outer : Form
  inner : Form
  deriving DecidableEq, Repr

/-- Every record as an object with all its fields. -/
def Style.plain : Style := ⟨.named, .named⟩

theorem Read.ofOption_bind {α β : Type} (a : Option α) (next : α → Option β) :
    (Read.ofOption a >>= fun x => Read.ofOption (next x)) = Read.ofOption (a.bind next) := by
  cases a <;> rfl

namespace Plugin

/-! ### Plugins -/

namespace Hint

/- A hint takes one level of nesting. -/
theorem read_toJson (hint : Hint) {room : Nat} (h : 0 < room) :
    Hint.read Json.Part.reading (hint.toJson.part room) = pure hint := by
  obtain ⟨room, rfl⟩ := Nat.exists_eq_add_of_lt h
  cases hint with
  | plain text => rfl
  | entry text label isKey help => cases label <;> cases help <;> rfl

theorem list_toJson (hints : List Hint) {room : Nat} (h : 1 < room) :
    Json.Part.reading.list (Hint.read Json.Part.reading) ((Json.array (hints.map toJson)).part room)
      = pure hints := by
  have hlist : Json.Part.reading.list (Hint.read Json.Part.reading)
        ((Json.array (hints.map toJson)).part room) = pure (hints.map id) :=
    Json.list_array fun hint _ => read_toJson hint (by omega)
  rwa [List.map_id] at hlist

/- Whatever an array holds, its content is a list, and no hint is one. -/
theorem read_array (values : List Json) (room : Nat) :
    Hint.read Json.Part.reading ((Json.array values).part room) = failure := by
  have hread : Hint.read Json.Part.reading ((Json.array values).part room)
      = Read.ofOption ((((Json.array values).source.data? room).map Json.content).bind ofContent?) :=
    Read.ofOption_bind _ ofContent?
  rw [hread, Json.source]
  cases room with
  | zero => rfl
  | succ room =>
    rw [Json.Source.data?]
    cases Json.Source.dataItems? room (Json.sources values) <;> rfl

theorem exact_toJson (hint : Hint) : hint.toJson.Exact := by
  cases hint with
  | plain text => exact .string text
  | entry text label isKey help =>
    refine .object fun field hfield => ?_
    simp only [List.mem_cons, List.not_mem_nil, or_false] at hfield
    rcases hfield with rfl | rfl | rfl | rfl
    · exact .string text
    · exact Json.exact_ofOption label
    · exact .bool isKey
    · exact Json.exact_ofOption help

end Hint

namespace Variables

/-- Variables in a form. -/
def written (form : Form) (v : Variables) : Json := form.write fieldNames v.fieldValues

theorem read_written (form : Form) (v : Variables) {room : Nat} (h : 2 < room) :
    Variables.read Json.Part.reading ((v.written form).part room) = pure v := by
  have hkeys : form.field? fieldNames v.fieldValues "keys" = form.shown (.ofTexts v.keys) := rfl
  have hurl : form.field? fieldNames v.fieldValues "hintUrl" = form.shown (.ofOption v.hintUrl) := rfl
  have hhints : form.field? fieldNames v.fieldValues "hintList"
      = form.shown ((v.hintList.map fun hints => .array (hints.map Hint.toJson)).getD .null) := rfl
  rw [Variables.read, written, Form.fields_write (by decide) rfl]
  simp only [pure_bind, hkeys, hurl, hhints]
  rw [Form.orDefault_shown rfl (Json.list_ofTexts v.keys _), Form.optional_ofOption,
    Form.optional_shown (fun _ => rfl) fun hints _ => Hint.list_toJson hints (by omega)]
  rfl

theorem isNull_written (form : Form) (v : Variables) : (v.written form).isNull = false :=
  form.isNull_write fieldNames v.fieldValues

theorem exact_written (form : Form) (v : Variables) : (v.written form).Exact := by
  refine form.exact_write (fun j hj => ?_) fieldNames
  simp only [fieldValues, List.mem_cons, List.not_mem_nil, or_false] at hj
  rcases hj with rfl | rfl | rfl
  · exact Json.exact_ofTexts v.keys
  · exact Json.exact_ofOption v.hintUrl
  · exact Json.exact_optional fun hints _ => Json.exact_map fun hint _ => hint.exact_toJson

end Variables

namespace Metadata

/-- Metadata in a style. -/
def written (style : Style) (plugin : Metadata) : Json :=
  style.outer.write fieldNames (plugin.fieldValues (Variables.written style.inner))

/-- What a style shows of a field of metadata. -/
def field? (style : Style) (plugin : Metadata) (name : Text) : Option Json :=
  style.outer.field? fieldNames (plugin.fieldValues (Variables.written style.inner)) name

theorem read_written (style : Style) (plugin : Metadata) {room : Nat} (h : 3 < room) :
    Metadata.read Json.Part.reading ((plugin.written style).part room) = pure plugin := by
  have hname : plugin.field? style "moduleName" = style.outer.shown (.string plugin.moduleName) := rfl
  have hpage : plugin.field? style "homepage" = style.outer.shown (.ofOption plugin.homepage) := rfl
  have hurl : plugin.field? style "hintUrl" = style.outer.shown (.ofOption plugin.hintUrl) := rfl
  have hhints : plugin.field? style "hintList" = style.outer.shown
      ((plugin.hintList.map fun hints => .array (hints.map Hint.toJson)).getD .null) := rfl
  have hvars : plugin.field? style "pluginVars" = style.outer.shown
      ((plugin.vars.map (Variables.written style.inner)).getD .null) := rfl
  have hfields : Json.Part.reading.fields fieldNames ((plugin.written style).part room)
      = pure fun name => (plugin.field? style name).map (Json.part (room - 1)) :=
    Form.fields_write (by decide) rfl style.outer room
  rw [Metadata.read, hfields]
  simp only [pure_bind, hname, hpage, hurl, hhints, hvars]
  rw [Form.required_shown rfl (Json.text_string _ _), Form.optional_ofOption, Form.optional_ofOption,
    Form.optional_shown (fun _ => rfl) fun hints _ => Hint.list_toJson hints (by omega),
    Form.optional_shown (fun v => v.isNull_written style.inner) fun v _ =>
      v.read_written style.inner (by omega)]
  rfl

theorem exact_written (style : Style) (plugin : Metadata) : (plugin.written style).Exact := by
  refine style.outer.exact_write (fun j hj => ?_) fieldNames
  simp only [fieldValues, List.mem_cons, List.not_mem_nil, or_false] at hj
  rcases hj with rfl | rfl | rfl | rfl | rfl
  · exact .string plugin.moduleName
  · exact Json.exact_ofOption plugin.homepage
  · exact Json.exact_ofOption plugin.hintUrl
  · exact Json.exact_optional fun hints _ => Json.exact_map fun hint _ => hint.exact_toJson
  · exact Json.exact_optional fun v _ => v.exact_written style.inner

/-- Reads a list of plugins. -/
def readAll {δ : Type} (reading : Reading δ) (d : δ) : Read (List Metadata) :=
  reading.list (Metadata.read reading) d

theorem readAll_written (plugins : List (Style × Metadata)) {room : Nat} (h : 4 < room) :
    readAll Json.Part.reading ((Json.array (plugins.map fun p => p.2.written p.1)).part room)
      = pure (plugins.map (·.2)) :=
  Json.list_array fun p _ => p.2.read_written p.1 (by omega)

theorem exact_array_written (plugins : List (Style × Metadata)) :
    (Json.array (plugins.map fun p => p.2.written p.1)).Exact :=
  Json.exact_map fun p _ => p.2.exact_written p.1

/-- Plugins that are each written in a style load as these plugins, in order. -/
theorem load_written (plugins : List (Style × Metadata)) :
    Language.load .json readAll (Json.render (.array (plugins.map fun p => p.2.written p.1)))
      = .ok (plugins.map (·.2)) :=
  (exact_array_written plugins).load_render (readAll_written plugins (by decide))

theorem map_toJson (plugins : List Metadata) :
    plugins.map toJson = (plugins.map (Style.plain, ·)).map fun p => p.2.written p.1 := by
  rw [List.map_map]
  rfl

end Metadata

theorem Directory.load_written (plugins : List (Style × Metadata)) :
    Directory.load .json (Json.render (.array (plugins.map fun p => p.2.written p.1)))
      = .ok (.ofList (plugins.map (·.2))) := by
  refine (Metadata.exact_array_written plugins).load_render ?_
  have hread := Metadata.readAll_written plugins (show 4 < Json.nestingLimit by decide)
  rw [Metadata.readAll] at hread
  rw [Directory.read, hread, pure_bind]

end Plugin

/-! ### Settings -/

namespace Logging

/-- What is logged in a form. -/
def written (form : Form) (logging : Logging) : Json := form.write fieldNames logging.fieldValues

theorem read_written (form : Form) (logging : Logging) (room : Nat) :
    Logging.read Json.Part.reading ((logging.written form).part room) = pure logging := by
  have hlevel : form.field? fieldNames logging.fieldValues "level"
      = form.shown (.string logging.level) := rfl
  have hdebug : form.field? fieldNames logging.fieldValues "debug" = form.shown (.bool logging.debug) := rfl
  rw [Logging.read, written, Form.fields_write (by decide) rfl]
  simp only [pure_bind, hlevel, hdebug]
  rw [Form.orDefault_shown rfl (Json.text_string _ _), Form.orDefault_shown rfl (Json.bool_bool _ _)]
  rfl

theorem isNull_written (form : Form) (logging : Logging) : (logging.written form).isNull = false :=
  form.isNull_write fieldNames logging.fieldValues

theorem exact_written (form : Form) (logging : Logging) : (logging.written form).Exact := by
  refine form.exact_write (fun j hj => ?_) fieldNames
  simp only [fieldValues, List.mem_cons, List.not_mem_nil, or_false] at hj
  rcases hj with rfl | rfl
  · exact .string logging.level
  · exact .bool logging.debug

end Logging

namespace Settings

/-- Settings in a style. -/
def written (style : Style) (settings : Settings) : Json :=
  style.outer.write fieldNames (settings.fieldValues (Logging.written style.inner))

/-- What a style shows of a field of settings. -/
def field? (style : Style) (settings : Settings) (name : Text) : Option Json :=
  style.outer.field? fieldNames (settings.fieldValues (Logging.written style.inner)) name

/-- The numbers of settings have 64 bits. -/
def InRange (settings : Settings) : Prop :=
  ∀ n ∈ [settings.debounce, settings.limits.candidates, settings.limits.hintLength,
    settings.limits.varLength], n ≤ natural64Max

instance (settings : Settings) : Decidable settings.InRange :=
  List.decidableBAll (fun n => n ≤ natural64Max) _

theorem read_written (style : Style) (settings : Settings) (room : Nat) :
    Settings.read Json.Part.reading ((settings.written style).part room) = pure settings := by
  have henabled : settings.field? style "enabled" = style.outer.shown (.bool settings.enabled) := rfl
  have hdebounce : settings.field? style "debounce_ms" = style.outer.shown (.ofNat settings.debounce) := rfl
  have hcandidates : settings.field? style "max_candidates"
      = style.outer.shown (.ofNat settings.limits.candidates) := rfl
  have hhint : settings.field? style "max_hint_len"
      = style.outer.shown (.ofNat settings.limits.hintLength) := rfl
  have hvar : settings.field? style "max_var_len"
      = style.outer.shown (.ofNat settings.limits.varLength) := rfl
  have hrules : settings.field? style "rules_help_base"
      = style.outer.shown (.string settings.rulesHelpBase) := rfl
  have hindex : settings.field? style "plugins_index_url"
      = style.outer.shown (.string settings.pluginsIndex) := rfl
  have hat : settings.field? style "at_help_url" = style.outer.shown (.ofOption settings.atHelp) := rfl
  have hprotocols : settings.field? style "protocols"
      = style.outer.shown ((settings.protocols.map Json.ofTexts).getD .null) := rfl
  have hlogging : settings.field? style "logging"
      = style.outer.shown (settings.logging.written style.inner) := rfl
  have hfields : Json.Part.reading.fields fieldNames ((settings.written style).part room)
      = pure fun name => (settings.field? style name).map (Json.part (room - 1)) :=
    Form.fields_write (by decide) rfl style.outer room
  rw [Settings.read, hfields]
  simp only [pure_bind, henabled, hdebounce, hcandidates, hhint, hvar, hrules, hindex, hat, hprotocols,
    hlogging]
  rw [Form.orDefault_shown rfl (Json.bool_bool _ _), Form.orDefault_shown rfl (Json.natural_ofNat _ _),
    Form.orDefault_shown rfl (Json.natural_ofNat _ _), Form.orDefault_shown rfl (Json.natural_ofNat _ _),
    Form.orDefault_shown rfl (Json.natural_ofNat _ _), Form.orDefault_shown rfl (Json.text_string _ _),
    Form.orDefault_shown rfl (Json.text_string _ _), Form.optional_ofOption,
    Form.optional_shown (fun _ => rfl) fun texts _ => Json.list_ofTexts texts _,
    Form.orDefault_shown (settings.logging.isNull_written style.inner)
      (settings.logging.read_written style.inner _)]
  rfl

theorem exact_written (style : Style) {settings : Settings} (h : settings.InRange) :
    (settings.written style).Exact := by
  refine style.outer.exact_write (fun j hj => ?_) fieldNames
  simp only [InRange, List.forall_mem_cons] at h
  obtain ⟨hdebounce, hcandidates, hhint, hvar, -⟩ := h
  simp only [fieldValues, List.mem_cons, List.not_mem_nil, or_false] at hj
  rcases hj with rfl | rfl | rfl | rfl | rfl | rfl | rfl | rfl | rfl | rfl
  · exact .bool settings.enabled
  · exact .natural hdebounce
  · exact .natural hcandidates
  · exact .natural hhint
  · exact .natural hvar
  · exact .string settings.rulesHelpBase
  · exact .string settings.pluginsIndex
  · exact Json.exact_ofOption settings.atHelp
  · exact Json.exact_optional fun texts _ => Json.exact_ofTexts texts
  · exact settings.logging.exact_written style.inner

/-- Written settings load if they keep the rules, and are refused by the same rule if not. -/
theorem load_written (style : Style) {settings : Settings} (h : settings.InRange) :
    Settings.load .json (Json.render (settings.written style)) = settings.check := by
  have hread := (exact_written style h).load_render (settings.read_written style Json.nestingLimit)
  rw [Settings.load, hread]
  rfl

end Settings

/-! ### Candidates -/

namespace Candidate

/-- The values of the fields, in order. -/
def fieldValues (candidate : Candidate) : List Json :=
  [.string candidate.insertText, .ofOption candidate.displayText, .string candidate.helpRef]

/-- A candidate in a form. -/
def written (form : Form) (candidate : Candidate) : Json := form.write fieldNames candidate.fieldValues

theorem written_sparse (candidate : Candidate) : candidate.written .sparse = candidate.toJson := by
  obtain ⟨insertText, _ | displayText, helpRef⟩ := candidate <;> rfl

theorem read_written (form : Form) (candidate : Candidate) (room : Nat) :
    Candidate.read Json.Part.reading ((candidate.written form).part room) = pure candidate := by
  have hinsert : form.field? fieldNames candidate.fieldValues "insert_text"
      = form.shown (.string candidate.insertText) := rfl
  have hdisplay : form.field? fieldNames candidate.fieldValues "display_text"
      = form.shown (.ofOption candidate.displayText) := rfl
  have hhelp : form.field? fieldNames candidate.fieldValues "help_ref"
      = form.shown (.string candidate.helpRef) := rfl
  rw [Candidate.read, written, Form.fields_write (by decide) rfl]
  simp only [pure_bind, hinsert, hdisplay, hhelp]
  rw [Form.required_shown rfl (Json.text_string _ _), Form.optional_ofOption,
    Form.required_shown rfl (Json.text_string _ _)]
  rfl

theorem exact_written (form : Form) (candidate : Candidate) : (candidate.written form).Exact := by
  refine form.exact_write (fun j hj => ?_) fieldNames
  simp only [fieldValues, List.mem_cons, List.not_mem_nil, or_false] at hj
  rcases hj with rfl | rfl | rfl
  · exact .string candidate.insertText
  · exact Json.exact_ofOption candidate.displayText
  · exact .string candidate.helpRef

theorem load_written (form : Form) (candidate : Candidate) :
    Language.load .json Candidate.read (Json.render (candidate.written form)) = .ok candidate :=
  (candidate.exact_written form).load_render (candidate.read_written form Json.nestingLimit)

end Candidate

/-! ### The round trip -/

/-- Plugins, settings that keep the rules, and candidates load as they were written: as objects with all
their fields, as objects without the nulls, or as arrays of the values in order, where each plugin of a
list and each record inside a record has a form of its own. `toJson` is one of these ways of writing. A
hint is written as text or as an object, and is never read from an array. -/
theorem written_records_load :
    (∀ plugins : List (Style × Plugin.Metadata),
      Language.load .json Plugin.Metadata.readAll
        (Json.render (.array (plugins.map fun p => p.2.written p.1))) = .ok (plugins.map (·.2)) ∧
      Plugin.Directory.load .json
        (Json.render (.array (plugins.map fun p => p.2.written p.1))) = .ok (.ofList (plugins.map (·.2)))) ∧
    (∀ plugins : List Plugin.Metadata,
      Language.load .json Plugin.Metadata.readAll
        (Json.render (.array (plugins.map Plugin.Metadata.toJson))) = .ok plugins) ∧
    (∀ (style : Style) (settings : Settings), settings.InRange → settings.problem? = none →
      Settings.load .json (Json.render (settings.written style)) = .ok settings) ∧
    (∀ settings : Settings, settings.InRange → settings.problem? = none →
      Settings.load .json (Json.render settings.toJson) = .ok settings) ∧
    (∀ (form : Form) (candidate : Candidate),
      Language.load .json Candidate.read (Json.render (candidate.written form)) = .ok candidate) ∧
    (∀ candidate : Candidate,
      Language.load .json Candidate.read (Json.render candidate.toJson) = .ok candidate) ∧
    ∀ (values : List Json) (room : Nat),
      Plugin.Hint.read Json.Part.reading ((Json.array values).part room) = failure := by
  have hsettings : ∀ (style : Style) (settings : Settings), settings.InRange → settings.problem? = none →
      Settings.load .json (Json.render (settings.written style)) = .ok settings := by
    intro style settings hrange hrules
    rw [Settings.load_written style hrange, Settings.check, hrules]
  refine ⟨fun plugins => ⟨Plugin.Metadata.load_written plugins, Plugin.Directory.load_written plugins⟩,
    fun plugins => ?_, hsettings, hsettings .plain, Candidate.load_written, fun candidate => ?_,
    Plugin.Hint.read_array⟩
  · have hload := Plugin.Metadata.load_written (plugins.map (Style.plain, ·))
    rw [← Plugin.Metadata.map_toJson, List.map_map] at hload
    simpa [Function.comp_def] using hload
  · rw [← candidate.written_sparse]
    exact candidate.load_written .sparse

/-- A plugin with hints of both kinds and with variables. -/
def mixedPlugin : Plugin.Metadata where
  moduleName := "whistle.inspect"
  hintList := some [.plain "log", .entry "all" none true none]
  vars := some { keys := ["key"] }

/-- Settings without a default in any field. -/
def changedSettings : Settings where
  enabled := false
  debounce := natural64Max
  limits := { candidates := 1, hintLength := 64, varLength := 64 }
  rulesHelpBase := "help/"
  pluginsIndex := "help/\"plugins\".html"
  atHelp := some "help/at.html"
  protocols := some ["proxy://", "π://"]
  logging := { level := "warn", debug := true }

theorem mixed_forms_load :
    Language.load .json Plugin.Metadata.readAll
      (Json.render (.array [mixedPlugin.written ⟨.positional, .sparse⟩, mixedPlugin.written .plain]))
        = .ok [mixedPlugin, mixedPlugin] ∧
    changedSettings.InRange ∧ changedSettings.problem? = none ∧
    Settings.load .json (Json.render (changedSettings.written ⟨.positional, .sparse⟩)) =
      .ok changedSettings ∧
    Settings.load .json (Json.render changedSettings.toJson) = .ok changedSettings := by
  have hrange : changedSettings.InRange := by decide
  have hrules : changedSettings.problem? = none := by decide
  exact ⟨(written_records_load.1 [(⟨.positional, .sparse⟩, mixedPlugin), (.plain, mixedPlugin)]).1, hrange,
    hrules, written_records_load.2.2.1 ⟨.positional, .sparse⟩ changedSettings hrange hrules,
    written_records_load.2.2.2.1 changedSettings hrange hrules⟩

end RuleHints
