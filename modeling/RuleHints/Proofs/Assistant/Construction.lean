import RuleHints.Assistant
import RuleHints.Proofs.Plugin.Registration

/-!
# What an assistant is built from

The names of plugins are added to the registry one after the other, and each is looked for in all that is
there by then, the earlier additions included. Taken together, what is added are the entries that the
registry did not have, each once, in the order in which they first come. An assistant takes the names
from its directory, where they are in order and differ.
-/

namespace RuleHints

namespace Registry

/-- What entries add to a list as they come one after the other: those that the list does not have, each
once and in the order in which they first come. -/
structure Adds (base entries added : List Text) : Prop where
  mem_iff : ∀ entry, entry ∈ added ↔ entry ∈ entries ∧ entry ∉ base
  order : added.Pairwise fun a b => entries.idxOf a < entries.idxOf b

section

variable {base entries added : List Text} {entry : Text}

theorem adds_nil (base : List Text) : Adds base [] [] := ⟨by simp, List.Pairwise.nil⟩

theorem Adds.nodup (h : Adds base entries added) : added.Nodup := by
  refine h.order.imp ?_
  rintro a b hlt rfl
  exact Nat.lt_irrefl _ hlt

theorem Adds.mem_append_iff (h : Adds base entries added) :
    entry ∈ base ++ added ↔ entry ∈ base ∨ entry ∈ entries := by
  rw [List.mem_append, h.mem_iff]
  by_cases hbase : entry ∈ base <;> simp [hbase]

/- The first place of an entry stays where it is when more entries come. -/
theorem Adds.order_append (h : Adds base entries added) (more : List Text) :
    added.Pairwise fun a b => (entries ++ more).idxOf a < (entries ++ more).idxOf b := by
  refine h.order.imp_of_mem fun {a b} ha hb hlt => ?_
  rw [List.idxOf_append_of_mem ((h.mem_iff a).1 ha).1, List.idxOf_append_of_mem ((h.mem_iff b).1 hb).1]
  exact hlt

theorem Adds.concat_of_mem (h : Adds base entries added) (hold : entry ∈ base ++ added) :
    Adds base (entries ++ [entry]) added := by
  refine ⟨fun e => ?_, h.order_append [entry]⟩
  rw [h.mem_iff, List.mem_append, List.mem_singleton]
  constructor
  · rintro ⟨hentry, hbase⟩
    exact ⟨Or.inl hentry, hbase⟩
  · rintro ⟨hentry | rfl, hbase⟩
    · exact ⟨hentry, hbase⟩
    · exact ⟨(h.mem_append_iff.1 hold).resolve_left hbase, hbase⟩

theorem Adds.concat_of_not_mem (h : Adds base entries added) (hnew : entry ∉ base ++ added) :
    Adds base (entries ++ [entry]) (added ++ [entry]) := by
  obtain ⟨hbase, hentry⟩ := not_or.1 (mt h.mem_append_iff.2 hnew)
  refine ⟨fun e => ?_, List.pairwise_append.2
    ⟨h.order_append [entry], List.pairwise_singleton _ _, fun a ha b hb => ?_⟩⟩
  · rw [List.mem_append, List.mem_append, h.mem_iff, List.mem_singleton]
    constructor
    · rintro (⟨he, hnot⟩ | rfl)
      · exact ⟨Or.inl he, hnot⟩
      · exact ⟨Or.inr rfl, hbase⟩
    · rintro ⟨he | rfl, hnot⟩
      · exact Or.inl ⟨he, hnot⟩
      · exact Or.inr rfl
  · -- The new entry is the last one, and all that was added comes from the entries before it.
    have ha : a ∈ entries := ((h.mem_iff a).1 ha).1
    rw [List.mem_singleton.1 hb, List.idxOf_append_of_mem ha, List.idxOf_append_of_notMem hentry]
    have hlt := List.idxOf_lt_length_of_mem ha
    omega

theorem Adds.unique {other : List Text} (h : Adds base entries added) (hother : Adds base entries other) :
    added = other := by
  have hasymm : Std.Asymm fun a b : Text => entries.idxOf a < entries.idxOf b :=
    ⟨fun _ _ => Nat.lt_asymm⟩
  refine h.order.eq_of_mem_iff hother.order fun entry => ?_
  rw [h.mem_iff, hother.mem_iff]

theorem adds_filter (base : List Text) (hentries : entries.Nodup) :
    Adds base entries (entries.filter fun entry => !base.contains entry) := by
  have horder : entries.Pairwise fun a b => entries.idxOf a < entries.idxOf b := by
    rw [List.pairwise_iff_getElem]
    intro i j hi hj hij
    rw [hentries.idxOf_getElem, hentries.idxOf_getElem]
    exact hij
  exact ⟨fun entry => by simp, horder.sublist List.filter_sublist⟩

end

/-! ### One addition, and all of them -/

/-- The protocols of plugins. -/
def pluginProtocols (names : List Text) : List Text := names.map (· ++ protocolMark)

theorem addPlugin_adds {registry : Registry} {base entries added : List Text}
    (hprotocols : registry.protocols = base ++ added) (h : Adds base entries added) (name : Text) :
    ∃ more, (registry.addPlugin name).protocols = base ++ more ∧
      Adds base (entries ++ [name ++ protocolMark]) more := by
  rw [addPlugin, contains, hprotocols]
  simp only [List.contains_iff_mem]
  split
  · next hold => exact ⟨added, hprotocols, h.concat_of_mem hold⟩
  · next hnew =>
    exact ⟨added ++ [name ++ protocolMark], List.append_assoc .., h.concat_of_not_mem hnew⟩

theorem addPlugins_adds (registry : Registry) (names : List Text) :
    ∃ added, (registry.addPlugins names).protocols = registry.protocols ++ added ∧
      Adds registry.protocols (pluginProtocols names) added := by
  induction names using List.reverseRecOn with
  | nil => exact ⟨[], (List.append_nil _).symm, adds_nil _⟩
  | append_singleton names name ih =>
    obtain ⟨added, hprotocols, hadds⟩ := ih
    rw [addPlugins, List.foldl_concat, pluginProtocols, List.map_append]
    exact addPlugin_adds hprotocols hadds name

theorem addPlugins_of_subset {registry : Registry} {names : List Text}
    (h : pluginProtocols names ⊆ registry.protocols) : registry.addPlugins names = registry := by
  induction names with
  | nil => rfl
  | cons name names ih =>
    obtain ⟨hname, hnames⟩ := List.cons_subset.1 h
    have hstep : registry.addPlugin name = registry := by
      rw [addPlugin, contains, if_pos (List.contains_iff_mem.2 hname)]
    rw [addPlugins, List.foldl_cons, hstep]
    exact ih hnames

theorem addPlugins_addPlugins (registry : Registry) (names : List Text) :
    (registry.addPlugins names).addPlugins names = registry.addPlugins names := by
  obtain ⟨added, hprotocols, hadds⟩ := registry.addPlugins_adds names
  refine addPlugins_of_subset fun entry hentry => ?_
  rw [hprotocols, hadds.mem_append_iff]
  exact Or.inr hentry

theorem nodup_addPlugins_iff (registry : Registry) (names : List Text) :
    (registry.addPlugins names).protocols.Nodup ↔ registry.protocols.Nodup := by
  obtain ⟨added, hprotocols, hadds⟩ := registry.addPlugins_adds names
  rw [hprotocols, List.nodup_append]
  refine ⟨And.left, fun hbase => ⟨hbase, hadds.nodup, fun a ha b hb => ?_⟩⟩
  rintro rfl
  exact ((hadds.mem_iff a).1 hb).2 ha

theorem addPlugins_of_nodup (registry : Registry) {names : List Text} (hnames : names.Nodup) :
    (registry.addPlugins names).protocols = registry.protocols ++
      (pluginProtocols names).filter fun protocol => !registry.contains protocol := by
  obtain ⟨added, hprotocols, hadds⟩ := registry.addPlugins_adds names
  have hentries : (pluginProtocols names).Nodup := hnames.map (List.append_left_injective _)
  rw [hprotocols, hadds.unique (adds_filter registry.protocols hentries)]
  rfl

end Registry

namespace Assistant

/-- What is built from plugins and from names. A directory has the short names of its plugins in the order
of their bytes; under a name as users write it, it has the last plugin with the short name that is meant.
Plugins with different short names give the same directory in any order, so the same variables, the same
plugins after a protocol and the same registry. To a registry the entries of the names are added that it
does not have, each once, in the order in which they first come; nothing is added twice, and doing it
again changes nothing. For an assistant the entries come in the order of the names of its directory. -/
theorem built_from_plugins (plugins : List Plugin.Metadata) (base : Registry) (names : List Text) :
    let directory := Plugin.Directory.ofList plugins
    let extended := base.addPlugins names
    (directory.names.Pairwise (fun a b => Text.bytesBefore a b = true) ∧
      ∀ name, name ∈ directory.names ↔ ∃ plugin ∈ plugins, plugin.shortName = name) ∧
    (∀ id, ∃ name, (∀ other, Plugin.StandsFor id other ↔ other = name) ∧
      directory.get? id = Plugin.latest? plugins name) ∧
    (∀ others : List Plugin.Metadata, others.Perm plugins → (plugins.map (·.shortName)).Nodup →
      let other := Plugin.Directory.ofList others
      other = directory ∧ other.variableNames = directory.variableNames ∧
        (∀ (sources : Sources) (spec value : Text),
          { sources with plugins := other }.specCandidates spec value =
            { sources with plugins := directory }.specCandidates spec value) ∧
        ∀ settings, (ofSettings settings other).registry = (ofSettings settings directory).registry) ∧
    (∃ added, extended.protocols = base.protocols ++ added ∧ added.Nodup ∧
      Registry.Adds base.protocols (Registry.pluginProtocols names) added) ∧
    (extended.protocols.Nodup ↔ base.protocols.Nodup) ∧ extended.addPlugins names = extended ∧
    ∀ settings, (ofSettings settings directory).registry.protocols = settings.registry.protocols ++
      (Registry.pluginProtocols directory.names).filter fun protocol =>
        !settings.registry.contains protocol := by
  intro directory extended
  obtain ⟨added, hprotocols, hadds⟩ := base.addPlugins_adds names
  refine ⟨⟨directory.bytesBefore_names, fun name => Plugin.Directory.mem_names_ofList⟩, fun id => ?_,
    fun others hperm hnames => ?_, ⟨added, hprotocols, hadds.nodup, hadds⟩,
    base.nodup_addPlugins_iff names, base.addPlugins_addPlugins names, fun settings => ?_⟩
  · refine ⟨Plugin.Directory.canonicalName id, fun other => Plugin.standsFor_iff, ?_⟩
    exact Plugin.Directory.get?_ofList plugins (Plugin.standsFor_iff.2 rfl)
  · rw [Plugin.Directory.ofList_perm hperm hnames]
    exact ⟨rfl, rfl, fun _ _ _ => rfl, fun _ => rfl⟩
  · exact settings.registry.addPlugins_of_nodup directory.nodup_names

/- The later of two plugins with one short name is found, two plugins with different ones can change places,
and a name that comes twice or is there already adds nothing. -/
theorem inspect_and_mock_built :
    let older : Plugin.Metadata := { moduleName := "inspect", homepage := some "old" }
    let inspect : Plugin.Metadata := { moduleName := "whistle.inspect" }
    let mock : Plugin.Metadata := { moduleName := "mock", vars := some { keys := ["port"] } }
    let base : Registry := ⟨["host://"]⟩
    let names : List Text := ["inspect", "inspect", "host"]
    ([mock, inspect].Perm [inspect, mock] ∧ ([inspect, mock].map (·.shortName)).Nodup) ∧
    Plugin.Directory.ofList [mock, inspect] = Plugin.Directory.ofList [inspect, mock] ∧
    (Plugin.Directory.ofList [older, mock, inspect]).get? "whistle.inspect:" = some inspect ∧
    (base.addPlugins names).protocols = ["host://", "inspect://"] ∧
    (base.addPlugins names).addPlugins names = base.addPlugins names := by
  intro older inspect mock base names
  have hperm : [mock, inspect].Perm [inspect, mock] := List.Perm.swap ..
  have hnames : ([inspect, mock].map (·.shortName)).Nodup := by decide
  obtain ⟨-, -, hany, -⟩ := built_from_plugins [inspect, mock] base names
  obtain ⟨-, hfound, -, -, -, hagain, -⟩ := built_from_plugins [older, mock, inspect] base names
  obtain ⟨name, hstands, hget⟩ := hfound "whistle.inspect:"
  have hname : ("inspect" : Text) = name :=
    (hstands "inspect").1 ⟨"whistle.inspect", Or.inl rfl, Or.inl rfl⟩
  refine ⟨⟨hperm, hnames⟩, (hany _ hperm hnames).1, ?_, by decide, hagain⟩
  rw [hget, ← hname]
  decide

end Assistant

end RuleHints
