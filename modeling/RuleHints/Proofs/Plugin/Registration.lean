import Mathlib.Data.List.Induction
import Mathlib.Data.List.Sort
import RuleHints.Proofs.Line.ReadBack
import RuleHints.Proofs.Text.ByteOrder

/-!
# Directories as logs of registrations

A directory that was made from a list has under each short name the plugin that was registered last with
it, and a name as users write it is taken apart before it is looked up. A directory is no more than what
it has under each name. So where no two plugins have one name, their order in the list does not matter.
-/

namespace RuleHints

namespace Plugin

/-- The short name that is left of a name as users write it: without one colon at its end, and then
without one `whistle.` at its beginning. -/
def StandsFor (id name : Text) : Prop :=
  ∃ bare, Text.TailTaken ":" id bare ∧ Text.LeadTaken moduleLead bare name

theorem standsFor_iff {id name : Text} : StandsFor id name ↔ name = Directory.canonicalName id := by
  simp only [StandsFor, Text.tailTaken_iff, Text.leadTaken_iff, exists_eq_left]
  rfl

/-! ### The last plugin of a name -/

/-- The last plugin of a list with a short name. -/
def latest? (plugins : List Metadata) (name : Text) : Option Metadata :=
  (plugins.filter (·.shortName = name)).getLast?

section

variable {plugins : List Metadata} {plugin : Metadata} {name : Text}

theorem latest?_concat (plugins : List Metadata) (plugin : Metadata) (name : Text) :
    latest? (plugins ++ [plugin]) name =
      if plugin.shortName = name then some plugin else latest? plugins name := by
  by_cases h : plugin.shortName = name <;> simp [latest?, List.filter_append, h]

theorem isSome_latest?_iff :
    (latest? plugins name).isSome ↔ ∃ plugin ∈ plugins, plugin.shortName = name := by
  simp [latest?]

theorem mem_of_latest? (h : latest? plugins name = some plugin) :
    plugin ∈ plugins ∧ plugin.shortName = name := by
  have hmem := List.mem_filter.1 (List.mem_of_getLast? h)
  simpa using hmem

theorem latest?_eq_some_iff_of_nodup (hnames : (plugins.map (·.shortName)).Nodup) :
    latest? plugins name = some plugin ↔ plugin ∈ plugins ∧ plugin.shortName = name := by
  refine ⟨mem_of_latest?, ?_⟩
  rintro ⟨hplugin, hname⟩
  obtain ⟨last, hlast⟩ := Option.isSome_iff_exists.1 (isSome_latest?_iff.2 ⟨plugin, hplugin, hname⟩)
  obtain ⟨hmem, hsame⟩ := mem_of_latest? hlast
  have heq : last = plugin := List.inj_on_of_nodup_map hnames hmem hplugin (hsame.trans hname.symm)
  rw [hlast, heq]

end

namespace Directory

/-! ### One registration, and all of them -/

/-- The plugin with a short name. -/
def held? (directory : Directory) (name : Text) : Option Metadata :=
  directory.plugins.find? (·.shortName = name)

theorem find?_insertByName (plugin : Metadata) (plugins : List Metadata) (name : Text) :
    (insertByName plugin plugins).find? (·.shortName = name) =
      if plugin.shortName = name then some plugin else plugins.find? (·.shortName = name) := by
  induction plugins with
  | nil => by_cases h : plugin.shortName = name <;> simp [insertByName, h]
  | cons other rest ih =>
    simp only [insertByName]
    split
    · by_cases h : plugin.shortName = name <;> simp [h]
    · split
      · next hsame =>
        rw [List.find?_cons, List.find?_cons, ← hsame]
        by_cases h : plugin.shortName = name <;> simp [h]
      · next hother =>
        rw [List.find?_cons, List.find?_cons, ih]
        by_cases h : other.shortName = name
        · have hne : plugin.shortName ≠ name := fun heq => hother (heq.trans h.symm)
          simp [h, hne]
        · simp [h]

theorem held?_register (directory : Directory) (plugin : Metadata) (name : Text) :
    (directory.register plugin).held? name =
      if plugin.shortName = name then some plugin else directory.held? name :=
  find?_insertByName plugin directory.plugins name

theorem ofList_concat (plugins : List Metadata) (plugin : Metadata) :
    ofList (plugins ++ [plugin]) = (ofList plugins).register plugin :=
  List.foldl_concat ..

theorem held?_ofList (plugins : List Metadata) (name : Text) :
    (ofList plugins).held? name = latest? plugins name := by
  induction plugins using List.reverseRecOn with
  | nil => rfl
  | append_singleton plugins plugin ih => rw [ofList_concat, held?_register, latest?_concat, ih]

theorem get?_ofList (plugins : List Metadata) {id name : Text} (h : StandsFor id name) :
    (ofList plugins).get? id = latest? plugins name := by
  rw [standsFor_iff.1 h]
  exact held?_ofList plugins (canonicalName id)

/-! ### A directory is what it has under each name -/

variable {directory other : Directory}

theorem mem_plugins_iff {plugin : Metadata} :
    plugin ∈ directory.plugins ↔ directory.held? plugin.shortName = some plugin :=
  ⟨directory.ascending.find?_shortName, List.mem_of_find?_eq_some⟩

theorem mem_names_iff {name : Text} : name ∈ directory.names ↔ (directory.held? name).isSome := by
  simp [names, held?]

theorem eq_of_held? (h : ∀ name, directory.held? name = other.held? name) : directory = other := by
  have hmem : ∀ plugin, plugin ∈ directory.plugins ↔ plugin ∈ other.plugins := by
    intro plugin
    rw [mem_plugins_iff, mem_plugins_iff, h]
  have hasymm : Std.Asymm fun a b : Metadata => Text.isBefore a.shortName b.shortName = true :=
    ⟨fun _ _ => Text.isStrict_isBefore.asymm⟩
  have hplugins : directory.plugins = other.plugins :=
    directory.ascending.eq_of_mem_iff other.ascending hmem
  cases directory
  cases other
  cases hplugins
  rfl

theorem ofList_perm {plugins others : List Metadata} (hperm : others.Perm plugins)
    (hnames : (plugins.map (·.shortName)).Nodup) : ofList others = ofList plugins := by
  have hothers : (others.map (·.shortName)).Nodup := (hperm.map _).nodup_iff.2 hnames
  refine eq_of_held? fun name => ?_
  rw [held?_ofList, held?_ofList]
  ext plugin
  rw [latest?_eq_some_iff_of_nodup hothers, latest?_eq_some_iff_of_nodup hnames, hperm.mem_iff]

/-! ### The names -/

theorem nodup_names (directory : Directory) : directory.names.Nodup :=
  List.pairwise_map.2 (directory.ascending.imp Text.isStrict_isBefore.ne)

theorem bytesBefore_names (directory : Directory) :
    directory.names.Pairwise fun a b => Text.bytesBefore a b = true :=
  List.pairwise_map.2 (directory.ascending.imp Text.bytesBefore_iff.2)

theorem mem_names_ofList {plugins : List Metadata} {name : Text} :
    name ∈ (ofList plugins).names ↔ ∃ plugin ∈ plugins, plugin.shortName = name := by
  rw [mem_names_iff, held?_ofList, isSome_latest?_iff]

end Directory

end Plugin

end RuleHints
