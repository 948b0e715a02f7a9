import RuleHints.Plugin.Metadata
import RuleHints.Text.Order

/-!
# The directory of plugins

A directory holds plugins in the order of their short names, each name once. A plugin that is
registered later replaces one of the same short name. Look-up takes a name as users write it:
`name`, `name:` or `whistle.name`.
-/

namespace RuleHints.Plugin

def Ascending (plugins : List Metadata) : Prop :=
  plugins.Pairwise fun a b => Text.isBefore a.shortName b.shortName = true

/-- Puts a plugin where its name belongs, in place of one of that name. -/
def insertByName (plugin : Metadata) : List Metadata → List Metadata
  | [] => [plugin]
  | other :: rest =>
    if Text.isBefore plugin.shortName other.shortName then plugin :: other :: rest
    else if plugin.shortName = other.shortName then plugin :: rest
    else other :: insertByName plugin rest

theorem mem_insertByName {plugin p : Metadata} {plugins : List Metadata}
    (h : p ∈ insertByName plugin plugins) : p = plugin ∨ p ∈ plugins := by
  induction plugins with
  | nil => simpa [insertByName] using h
  | cons other rest ih =>
    simp only [insertByName] at h
    split at h
    · simpa using h
    · split at h
      · rcases List.mem_cons.1 h with h | h
        · exact Or.inl h
        · exact Or.inr (List.mem_cons_of_mem _ h)
      · rcases List.mem_cons.1 h with h | h
        · exact Or.inr (h ▸ List.mem_cons_self)
        · exact (ih h).imp id (List.mem_cons_of_mem _)

theorem Ascending.insertByName {plugins : List Metadata} (h : Ascending plugins)
    (plugin : Metadata) : Ascending (insertByName plugin plugins) := by
  induction plugins with
  | nil => exact List.pairwise_singleton _ _
  | cons other rest ih =>
    obtain ⟨above, tail⟩ := List.pairwise_cons.1 h
    simp only [Plugin.insertByName]
    split
    next less =>
      refine List.pairwise_cons.2 ⟨fun p hp => ?_, h⟩
      rcases List.mem_cons.1 hp with hp | hp
      · exact hp ▸ less
      · exact Text.isStrict_isBefore.trans less (above p hp)
    next notLess =>
      split
      next same => exact List.pairwise_cons.2 ⟨fun p hp => same ▸ above p hp, tail⟩
      next different =>
        refine List.pairwise_cons.2 ⟨fun p hp => ?_, ih tail⟩
        rcases mem_insertByName hp with hp | hp
        · exact hp ▸ Text.isStrict_isBefore.total (Bool.eq_false_iff.2 notLess) different
        · exact above p hp

structure Directory where
  plugins : List Metadata
  ascending : Ascending plugins

namespace Directory

def empty : Directory := ⟨[], List.Pairwise.nil⟩

def register (directory : Directory) (plugin : Metadata) : Directory :=
  ⟨insertByName plugin directory.plugins, directory.ascending.insertByName plugin⟩

def ofList (plugins : List Metadata) : Directory := plugins.foldl register empty

/-- The short name meant by a name as users write it. -/
def canonicalName (id : Text) : Text := Text.dropLead moduleLead (Text.dropTail ":" id)

def get? (directory : Directory) (id : Text) : Option Metadata :=
  directory.plugins.find? (·.shortName = canonicalName id)

def names (directory : Directory) : List Text := directory.plugins.map (·.shortName)

/-- For each plugin with variables `%name=`, then `%name.key` for each declared key. -/
def variableNames (directory : Directory) : List Text :=
  directory.plugins.flatMap fun plugin =>
    match plugin.vars with
    | none => []
    | some vars =>
      ('%' :: plugin.shortName ++ "=") ::
        vars.keys.map fun key => '%' :: plugin.shortName ++ "." ++ key

def read {δ : Type} (reading : Reading δ) (d : δ) : Read Directory := do
  return ofList (← reading.list (Metadata.read reading) d)

end Directory

end RuleHints.Plugin
