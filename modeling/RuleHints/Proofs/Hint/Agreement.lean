import Mathlib.Data.List.Forall2
import Mathlib.Data.List.Nodup
import RuleHints.Proofs.Hint.Rendering
import RuleHints.Remote.Fetcher

/-!
# Declared and fetched hints

A list that a plugin declares can as well be the answer of its endpoint. On the one way a hint is
rendered as it was declared. On the other its fields are looked up in an object, trimmed, and left out
if nothing remains, before the same rendering. Both end in the same set.
-/

namespace RuleHints

/-! ### Trimming twice -/

/-- A hint without blanks around its text and its label, and without a label that is blank. -/
def RawHint.trimmed (hint : RawHint) : RawHint :=
  { hint with text := Text.trim hint.text, label := HintContext.label? hint }

namespace HintContext

theorem label?_trimmed (hint : RawHint) : label? hint.trimmed = label? hint := by
  change ((label? hint).map Text.trim).filter _ = label? hint
  unfold label?
  cases hint.label with
  | none => rfl
  | some label => cases he : (Text.trim label).isEmpty <;> simp [Option.filter, he, Text.trim_trim]

section

variable (context : HintContext)

theorem rendered_trimmed (hint : RawHint) : context.rendered hint.trimmed = context.rendered hint := by
  unfold rendered
  rw [RawHint.trimmed, Text.trim_trim]

theorem key_trimmed (hint : RawHint) : context.key hint.trimmed = context.key hint := by
  unfold key
  rw [label?_trimmed, rendered_trimmed]

theorem candidate_trimmed (hint : RawHint) :
    context.candidate hint.trimmed = context.candidate hint := by
  unfold candidate
  rw [label?_trimmed, rendered_trimmed, key_trimmed]

theorem push_trimmed (set : HintSet) (hint : RawHint) :
    context.push set hint.trimmed = context.push set hint := by
  unfold push push?
  rw [rendered_trimmed, key_trimmed, candidate_trimmed]
  rfl

theorem renderAll_trimmed (hints : List RawHint) :
    context.renderAll (hints.map RawHint.trimmed) = context.renderAll hints := by
  simp only [renderAll, List.foldl_map, push_trimmed]

/-! ### Where a rendered hint goes -/

theorem push_place (set : HintSet) (hint : RawHint) :
    (context.push set hint).position = set.position ∧ (context.push set hint).offset = set.offset := by
  unfold push push?
  split
  · exact ⟨rfl, rfl⟩
  · split
    · exact ⟨rfl, rfl⟩
    · split <;> exact ⟨rfl, rfl⟩

theorem foldl_push_place (hints : List RawHint) (set : HintSet) :
    (hints.foldl context.push set).position = set.position ∧
      (hints.foldl context.push set).offset = set.offset := by
  induction hints generalizing set with
  | nil => exact ⟨rfl, rfl⟩
  | cons hint hints ih =>
    obtain ⟨hposition, hoffset⟩ := ih (context.push set hint)
    have hpush := context.push_place set hint
    exact ⟨hposition.trans hpush.1, hoffset.trans hpush.2⟩

theorem renderAll_place (hints : List RawHint) :
    (context.renderAll hints).position = .word ∧ (context.renderAll hints).offset = 0 :=
  context.foldl_push_place hints {}

/- Nothing is typed yet, so every declared hint is offered. -/
theorem declared?_nil :
    context.declared? [] =
      (context.plugin.hints? context.slot).map fun hints => context.renderAll (hints.map (·.raw)) := by
  have hall : ∀ hints : List Plugin.Hint,
      (hints.filter fun h => (Text.lower []).isEmpty || h.offers (Text.lower [])) = hints :=
    fun hints => List.filter_eq_self.2 fun _ _ => rfl
  simp only [declared?, hall]

end

end HintContext

/-! ### Hints of an answer -/

namespace Json

/- With different names, the last field of a name is the only one. -/
theorem lastField?_eq_some_iff {fields : List (Text × Json)} (h : (fields.map (·.1)).Nodup)
    (name : Text) (value : Json) : lastField? name fields = some value ↔ (name, value) ∈ fields := by
  unfold lastField?
  constructor
  · intro hfound
    obtain ⟨⟨other, _⟩, hfind, rfl⟩ := Option.map_eq_some_iff.1 hfound
    have hname : other = name := by simpa using List.find?_some hfind
    subst hname
    exact List.mem_reverse.1 (List.mem_of_find?_eq_some hfind)
  · intro hmem
    cases hfind : fields.reverse.find? (·.1 = name) with
    | none =>
      have hno := List.find?_eq_none.1 hfind (name, value) (List.mem_reverse.2 hmem)
      simp at hno
    | some field =>
      have hname : field.1 = name := by simpa using List.find?_some hfind
      have hfield := List.mem_reverse.1 (List.mem_of_find?_eq_some hfind)
      rw [List.inj_on_of_nodup_map h hfield hmem hname]
      rfl

theorem lastField?_perm {fields fields' : List (Text × Json)} (h : fields.Perm fields')
    (hn : (fields'.map (·.1)).Nodup) (name : Text) :
    lastField? name fields = lastField? name fields' := by
  have hnames : (fields.map (·.1)).Nodup := (h.map (·.1)).nodup_iff.2 hn
  apply Option.ext
  intro value
  rw [lastField?_eq_some_iff hnames, lastField?_eq_some_iff hn, h.mem_iff]

end Json

namespace Plugin.Hint

/-- The fields of an entry in an answer. -/
def answerFields (text : Text) (label : Option Text) (isKey : Bool) (help : Option Text) :
    List (Text × Json) :=
  let fields : List (Text × Option Json) :=
    [("value", some (.string text)), ("label", label.map .string), ("isKey", some (.bool isKey)),
      ("help", help.map .string)]
  fields.filterMap fun (name, value) => value.map (name, ·)

/-- How an answer writes a declared hint. The fields of an entry come in any order. -/
inductive AnsweredAs : Hint → Json → Prop
  | plain (text : Text) : AnsweredAs (.plain text) (.string text)
  | entry {text : Text} {label : Option Text} {isKey : Bool} {help : Option Text}
      {fields : List (Text × Json)} (h : fields.Perm (answerFields text label isKey help)) :
      AnsweredAs (.entry text label isKey help) (.object fields)

theorem nodup_answerFields (text : Text) (label : Option Text) (isKey : Bool) (help : Option Text) :
    ((answerFields text label isKey help).map (·.1)).Nodup := by
  have hall : (["value", "label", "isKey", "help"] : List Text).Nodup := by decide
  refine List.Nodup.sublist ?_ hall
  cases label <;> cases help <;> simp [answerFields]

theorem hint?_answerFields (text : Text) (label : Option Text) (isKey : Bool) (help : Option Text) :
    Payload.hint? (.object (answerFields text label isKey help)) =
      some (entry text label isKey help).raw.trimmed := by
  cases label with
  | none => cases help <;> rfl
  | some l =>
    -- The first label that is not blank is looked for, here among one.
    have hlabel : ([l].map Text.trim).find? (!·.isEmpty) =
        ((some l).map Text.trim).filter (!·.isEmpty) := by
      rw [List.map_singleton, List.find?_singleton, Option.map_some, Option.filter_some]
    cases help <;> exact congrArg (fun label => some (RawHint.mk (Text.trim text) label isKey _)) hlabel

theorem AnsweredAs.hint? {hint : Hint} {json : Json} (h : AnsweredAs hint json) :
    Payload.hint? json = some hint.raw.trimmed := by
  cases h with
  | plain text => rfl
  | @entry text label isKey help fields hperm =>
    have hlook := Json.lastField?_perm hperm (nodup_answerFields text label isKey help)
    rw [← hint?_answerFields]
    simp only [Payload.hint?, Payload.string?, hlook]

theorem filterMap_hint? {hints : List Hint} {answers : List Json}
    (h : List.Forall₂ AnsweredAs hints answers) :
    answers.filterMap Payload.hint? = (hints.map (·.raw)).map RawHint.trimmed := by
  induction h with
  | nil => rfl
  | cons hfirst _ ih =>
    rw [List.filterMap_cons_some hfirst.hint?, ih]
    rfl

end Plugin.Hint

/-- If the endpoint of a plugin answers with the list that the plugin declares, the fetcher installs the
set that the declared list gives when nothing is typed. -/
theorem Fetcher.apply_declared_list (service : HintService) (fetcher : Fetcher) (pending : Pending)
    (hints : List Plugin.Hint) (answers : List Json) (hp : fetcher.pending = some pending)
    (hh : pending.plugin.hints? pending.slot = some hints)
    (ha : List.Forall₂ Plugin.Hint.AnsweredAs hints answers) :
    ∃ set, (pending.context service.limits service.index).declared? [] = some set ∧
      set.position = .word ∧ set.offset = 0 ∧
      fetcher.apply service ⟨pending.generation, .ok (.array answers)⟩ =
        (!set.isEmpty, { fetcher with pending := none, session := .replace pending.key set }) := by
  let context := pending.context service.limits service.index
  have hset : context.declared? [] = some (context.renderAll (hints.map (·.raw))) := by
    have hdeclared : context.plugin.hints? context.slot = some hints := hh
    rw [HintContext.declared?_nil, hdeclared]
    rfl
  have hplace := context.renderAll_place (hints.map (·.raw))
  have hsession : answered service pending (.ok (.array answers)) =
      .replace pending.key (context.renderAll (hints.map (·.raw))) := by
    change Session.replace pending.key { context.renderAll (answers.filterMap Payload.hint?) with
      position := .word, offset := 0 } = _
    rw [Plugin.Hint.filterMap_hint? ha, HintContext.renderAll_trimmed, ← hplace.1, ← hplace.2]
  refine ⟨_, hset, hplace.1, hplace.2, ?_⟩
  rw [apply_current hp rfl, hsession]
  rfl

/- A label with blanks around it, a blank one, empty help, and a hint that comes twice. -/
theorem Fetcher.apply_inspector_list :
    let plugin : Plugin.Metadata := {
      moduleName := "whistle.inspect"
      hintList := some [.plain " a ", .entry "b" (some "  ") true (some "u"),
        .entry " c" (some " see ") false (some ""), .plain "a"] }
    let pending : Pending := ⟨3, ⟨"inspect", "x", none⟩, plugin, .value⟩
    let fetcher : Fetcher := { generation := 3, pending := some pending }
    let service : HintService := { debounce := 0, limits := {}, index := "index" }
    let answers : List Json := [.string " a ",
      .object [("help", .string "u"), ("isKey", .bool true), ("label", .string "  "),
        ("value", .string "b")],
      .object [("value", .string " c"), ("label", .string " see "), ("isKey", .bool false),
        ("help", .string "")],
      .string "a"]
    let set : HintSet := {
      candidates := [
        (Candidate.ofText "inspect://a").withHelpRef "inspect://a",
        (Candidate.ofText "inspect://b").withHelpRef "inspect://b",
        ((Candidate.ofText "inspect://c").withHelpRef "see").withDisplay "see"]
      help := [("inspect://a", "index"), ("inspect://b", "u"), ("see", "index")] }
    (pending.context service.limits service.index).declared? [] = some set ∧
      fetcher.apply service ⟨3, .ok (.array answers)⟩ =
        (true, { fetcher with pending := none, session := .replace pending.key set }) := by
  intro plugin pending fetcher service answers set
  have hset : (pending.context service.limits service.index).declared? [] = some set := by decide
  obtain ⟨found, hfound, _, _, happly⟩ := apply_declared_list service fetcher pending
    [.plain " a ", .entry "b" (some "  ") true (some "u"), .entry " c" (some " see ") false (some ""),
      .plain "a"] answers rfl rfl
    (.cons (.plain _)
      (.cons (.entry (List.reverse_perm (Plugin.Hint.answerFields "b" (some "  ") true (some "u"))))
        (.cons (.entry (List.Perm.refl _)) (.cons (.plain _) .nil))))
  rw [hset] at hfound
  cases hfound
  exact ⟨hset, happly⟩

end RuleHints
