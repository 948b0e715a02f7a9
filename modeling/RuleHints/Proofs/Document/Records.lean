import RuleHints.Document.Load
import RuleHints.Proofs.Json.Printed

/-!
# Written records are read back

A record is written as an object, as an object without the fields that are null, or as the array of its
values in the order of their declaration. The reader of a record sees the same fields in all three
forms, except that a null may be missing, and an optional field that is missing is none just as null is.
-/

namespace RuleHints

namespace Json

/-- A value as a part of a written document. -/
def part (room : Nat) (j : Json) : Part := ⟨j.source, room⟩

/-- A printed value is read in a document as it is read by itself. -/
theorem Exact.load_render {α : Type} {read : {δ : Type} → Reading δ → δ → Read α} {j : Json} {a : α}
    (h : j.Exact) (hread : read Part.reading (j.part nestingLimit) = pure a) :
    Language.load .json read (render j) = .ok a := by
  have hpart : Part.ofText? (render j) = some (j.part nestingLimit) := by
    rw [Part.ofText?, h.ofText?_render]
    rfl
  simp [Language.load, hpart, hread]

def isNull : Json → Bool
  | .null => true
  | _ => false

/-! ### Text, truth values, numbers and lists -/

theorem text_string (t : Text) (room : Nat) : Part.reading.text ((Json.string t).part room) = pure t := rfl

theorem bool_bool (b : Bool) (room : Nat) : Part.reading.bool ((Json.bool b).part room) = pure b := rfl

theorem natural_ofNat (n : Nat) (room : Nat) : Part.reading.natural ((ofNat n).part room) = pure n := rfl

theorem mapM_map_eq_pure {α β γ : Type} {read : γ → Read α} {place : β → γ} {value : β → α}
    {entries : List β} (h : ∀ entry ∈ entries, read (place entry) = pure (value entry)) :
    (entries.map place).mapM read = pure (entries.map value) := by
  induction entries with
  | nil => rfl
  | cons entry entries ih =>
    have hentry := h entry List.mem_cons_self
    have hentries := ih fun other hother => h other (List.mem_cons_of_mem entry hother)
    rw [List.map_cons, List.mapM_cons, hentry, hentries, pure_bind, pure_bind, List.map_cons]

/-- A list is read member by member. -/
theorem list_array {α β : Type} {read : Part → Read α} {room : Nat} {write : β → Json} {value : β → α}
    {entries : List β} (h : ∀ entry ∈ entries, read ((write entry).part (room - 1)) = pure (value entry)) :
    Part.reading.list read ((Json.array (entries.map write)).part room) = pure (entries.map value) := by
  have hitems : Part.reading.items ((Json.array (entries.map write)).part room)
      = pure (entries.map fun entry => (write entry).part (room - 1)) := by
    simp [Part.reading, part, source, sources_eq_map, Function.comp_def]
  rw [Reading.list, hitems, pure_bind, mapM_map_eq_pure h]

/-! ### Objects and arrays as records -/

theorem record_object (fields : List (Text × Json)) (room : Nat) :
    Part.reading.record ((Json.object fields).part room)
      = pure (.named (fields.map fun field => (.name field.1, field.2.part (room - 1)))) := by
  have hfields : (fields.map fun field => (some field.1, field.2.source)).mapM
        (fun field : Option Text × Source => do
          return (FieldKey.name (← Read.ofOption field.1), Part.mk field.2 (room - 1)))
      = pure (fields.map fun field => (.name field.1, field.2.part (room - 1))) :=
    mapM_map_eq_pure fun field _ => rfl
  rw [part, source, fieldSources_eq_map]
  exact congrArg (· >>= fun keyed => pure (Record.named keyed)) hfields

theorem record_array (values : List Json) (room : Nat) :
    Part.reading.record ((Json.array values).part room)
      = pure (.positional (values.map fun j => j.part (room - 1))) := by
  rw [part, source, sources_eq_map]
  exact congrArg (fun parts => pure (Record.positional parts)) (List.map_map)

/- In a record that names no field twice, at most one field has a given name. -/
theorem filter_name_eq_find? {fields : List (Text × Json)} (h : (fields.map (·.1)).Nodup) (name : Text) :
    fields.filter (·.1 == name) = (fields.find? (·.1 == name)).toList := by
  induction fields with
  | nil => rfl
  | cons field fields ih =>
    obtain ⟨hnot, hrest⟩ := List.nodup_cons.1 h
    by_cases hname : field.1 = name
    · have hnone : ∀ other ∈ fields, ¬ (other.1 == name) = true := by
        intro other hother heq
        exact hnot (List.mem_map.2 ⟨other, hother, (eq_of_beq heq).trans hname.symm⟩)
      rw [List.filter_cons_of_pos (by simpa using hname), List.find?_cons_of_pos (by simpa using hname),
        List.filter_eq_nil_iff.2 hnone]
      rfl
    · rw [List.filter_cons_of_neg (by simpa using hname), List.find?_cons_of_neg (by simpa using hname),
        ih hrest]

theorem fields_object {fields : List (Text × Json)} (h : (fields.map (·.1)).Nodup) (names : List Text)
    (room : Nat) :
    Part.reading.fields names ((Json.object fields).part room)
      = pure fun name => (fields.find? (·.1 == name)).map fun field => field.2.part (room - 1) := by
  have hgiven : ∀ name, (fields.map fun field => (FieldKey.name field.1, field.2.part (room - 1))).filter
        (fun field => Record.addresses names name field.1)
      = (fields.find? (·.1 == name)).toList.map fun field => (.name field.1, field.2.part (room - 1)) := by
    intro name
    rw [List.filter_map, ← filter_name_eq_find? h name]
    rfl
  have hview : (Record.named (fields.map fun field =>
        (FieldKey.name field.1, field.2.part (room - 1)))).view? names
      = some fun name => (fields.find? (·.1 == name)).map fun field => field.2.part (room - 1) := by
    rw [Record.view?]
    simp only [hgiven]
    rw [if_pos]
    · congr 1
      funext name
      cases fields.find? (·.1 == name) <;> rfl
    · rw [List.all_eq_true]
      intro name _
      cases fields.find? (·.1 == name) <;> rfl
  rw [Reading.fields, record_object, pure_bind, hview]
  rfl

theorem fields_array {names : List Text} {values : List Json} (h : values.length ≤ names.length)
    (room : Nat) :
    Part.reading.fields names ((Json.array values).part room)
      = pure fun name =>
          ((names.zip values).find? (·.1 == name)).map fun field => field.2.part (room - 1) := by
  have hview : (Record.positional (values.map fun j => j.part (room - 1))).view? names
      = some fun name =>
          ((names.zip values).find? (·.1 == name)).map fun field => field.2.part (room - 1) := by
    simp [Record.view?, h, List.zip_map_right, List.find?_map, Function.comp_def]
  rw [Reading.fields, record_array, pure_bind, hview]
  rfl

end Json

/-! ### Forms of a record -/

/-- How the fields of a record are written. -/
inductive Form where
  | named
  | sparse
  | positional
  deriving DecidableEq, Repr

namespace Form

/-- A record with these fields. -/
def write (names : List Text) (values : List Json) : Form → Json
  | .named => .object (names.zip values)
  | .sparse => .object ((names.zip values).filter fun field => !field.2.isNull)
  | .positional => .array values

/-- The value of a field as the form shows it. -/
def shown (j : Json) : Form → Option Json
  | .sparse => if j.isNull then none else some j
  | _ => some j

/-- What the form shows of a declared field. -/
def field? (form : Form) (names : List Text) (values : List Json) (name : Text) : Option Json :=
  ((names.zip values).find? (·.1 == name)).bind fun field => form.shown field.2

theorem field?_of_shown {form : Form} (h : ∀ j, form.shown j = some j) (names : List Text)
    (values : List Json) (name : Text) :
    form.field? names values name = ((names.zip values).find? (·.1 == name)).map (·.2) := by
  simp only [field?, h]
  exact (Option.map_eq_bind ..).symm

/- Leaving fields out hides a field and shows no other one in its place. -/
theorem find?_filter_name {fields : List (Text × Json)} (h : (fields.map (·.1)).Nodup)
    (p : Text × Json → Bool) (name : Text) :
    (fields.filter p).find? (·.1 == name) = (fields.find? (·.1 == name)).filter p := by
  have hcomm : (fields.filter p).filter (·.1 == name) = (fields.filter (·.1 == name)).filter p := by
    simp only [List.filter_filter, Bool.and_comm]
  rw [← List.head?_filter, hcomm, Json.filter_name_eq_find? h]
  cases fields.find? (·.1 == name) with
  | none => rfl
  | some field => cases hp : p field <;> simp [Option.filter_some, hp]

/-- The reader of a record sees what the form shows of its fields. -/
theorem fields_write {names : List Text} {values : List Json} (hnames : names.Nodup)
    (hlength : values.length = names.length) (form : Form) (room : Nat) :
    Json.Part.reading.fields names ((form.write names values).part room)
      = pure fun name => (form.field? names values name).map (Json.part (room - 1)) := by
  have hkeys : ((names.zip values).map (·.1)).Nodup := by
    rwa [List.map_fst_zip (Nat.le_of_eq hlength.symm)]
  cases form with
  | named =>
    have hshown : ∀ j, named.shown j = some j := fun _ => rfl
    rw [write, Json.fields_object hkeys]
    simp only [field?_of_shown hshown, Option.map_map]
    rfl
  | sparse =>
    have hsub : ((names.zip values).filter fun field => !field.2.isNull).Sublist (names.zip values) :=
      List.filter_sublist
    rw [write, Json.fields_object (hkeys.sublist (hsub.map (·.1)))]
    congr 1
    funext name
    rw [find?_filter_name hkeys]
    simp only [field?, shown]
    cases (names.zip values).find? (·.1 == name) with
    | none => rfl
    | some field =>
      rw [Option.filter_some]
      cases hnull : field.2.isNull <;> simp only [hnull, Option.bind_some] <;> rfl
  | positional =>
    have hshown : ∀ j, positional.shown j = some j := fun _ => rfl
    rw [write, Json.fields_array (Nat.le_of_eq hlength)]
    simp only [field?_of_shown hshown, Option.map_map]
    rfl

/-! ### Fields of a record -/

theorem isNull_write (names : List Text) (values : List Json) (form : Form) :
    (form.write names values).isNull = false := by
  cases form <;> rfl

theorem shown_of_not_null {j : Json} (h : j.isNull = false) (form : Form) : form.shown j = some j := by
  cases form <;> simp [shown, h]

variable {α : Type} {read : Json.Part → Read α} {room : Nat}

theorem required_shown {j : Json} {a : α} (hnull : j.isNull = false) (hread : read (j.part room) = pure a)
    (form : Form) : Reading.required read ((form.shown j).map (Json.part room)) = pure a := by
  rw [shown_of_not_null hnull]
  exact hread

theorem orDefault_shown {j : Json} {a default : α} (hnull : j.isNull = false)
    (hread : read (j.part room) = pure a) (form : Form) :
    Reading.orDefault default read ((form.shown j).map (Json.part room)) = pure a := by
  rw [shown_of_not_null hnull]
  exact hread

/-- An optional field is read as none if it is null or not there. -/
theorem optional_shown {write : α → Json} {value : Option α} (hnull : ∀ a, (write a).isNull = false)
    (hread : ∀ a ∈ value, read ((write a).part room) = pure a) (form : Form) :
    Json.Part.reading.optional read ((form.shown ((value.map write).getD .null)).map (Json.part room))
      = pure value := by
  cases value with
  | none => cases form <;> rfl
  | some a =>
    have hpresent : Json.Part.reading.present ((write a).part room) = pure (some ((write a).part room)) := by
      have hnot := hnull a
      cases hwrite : write a <;> first | rfl | exact absurd (hwrite ▸ hnot) (by decide)
    rw [Option.map_some, Option.getD_some, shown_of_not_null (hnull a), Option.map_some, Reading.optional,
      hpresent, pure_bind]
    simp only [hread a rfl, pure_bind]

theorem optional_ofOption (value : Option Text) (form : Form) :
    Json.Part.reading.optional Json.Part.reading.text
      ((form.shown (.ofOption value)).map (Json.part room)) = pure value := by
  have hwritten : Json.ofOption value = (value.map Json.string).getD .null := by cases value <;> rfl
  rw [hwritten]
  exact optional_shown (fun _ => rfl) (fun t _ => Json.text_string t room) form

end Form

theorem Json.list_ofTexts (texts : List Text) (room : Nat) :
    Part.reading.list Part.reading.text ((ofTexts texts).part room) = pure texts := by
  have hlist : Part.reading.list Part.reading.text ((Json.array (texts.map Json.string)).part room)
      = pure (texts.map id) := list_array fun t _ => text_string t (room - 1)
  rwa [List.map_id] at hlist

/-! ### Printing of records -/

namespace Json

theorem exact_ofOption (value : Option Text) : (ofOption value).Exact := by
  cases value with
  | none => exact .null
  | some t => exact .string t

theorem exact_map {α : Type} {write : α → Json} {entries : List α}
    (h : ∀ entry ∈ entries, (write entry).Exact) : (Json.array (entries.map write)).Exact := by
  refine .array fun j hj => ?_
  obtain ⟨entry, hentry, rfl⟩ := List.mem_map.1 hj
  exact h entry hentry

theorem exact_ofTexts (texts : List Text) : (ofTexts texts).Exact := exact_map fun t _ => .string t

theorem exact_optional {α : Type} {write : α → Json} {value : Option α}
    (h : ∀ a ∈ value, (write a).Exact) : ((value.map write).getD .null).Exact := by
  cases value with
  | none => exact .null
  | some a => exact h a rfl

end Json

theorem Form.exact_write {values : List Json} (h : ∀ j ∈ values, j.Exact) (names : List Text)
    (form : Form) : (form.write names values).Exact := by
  cases form with
  | named => exact .object fun field hfield => h field.2 (List.of_mem_zip hfield).2
  | sparse => exact .object fun field hfield => h field.2 (List.of_mem_zip (List.mem_filter.1 hfield).1).2
  | positional => exact .array h

end RuleHints
