import RuleHints.Text.Basic

/-!
# Tables

A table keeps one value for each key, in the order in which the keys were first put in.
-/

namespace RuleHints

abbrev Table (α : Type) := List (Text × α)

namespace Table

variable {α : Type}

def get? (key : Text) : Table α → Option α
  | [] => none
  | (k, a) :: rest => if k = key then some a else get? key rest

/-- Sets the value of a key, in its place if the key is there, else at the end. -/
def put (key : Text) (value : α) : Table α → Table α
  | [] => [(key, value)]
  | (k, a) :: rest => if k = key then (k, value) :: rest else (k, a) :: put key value rest

@[simp] theorem get?_put_self (key : Text) (value : α) (table : Table α) :
    get? key (put key value table) = some value := by
  induction table with
  | nil => simp [put, get?]
  | cons entry rest ih =>
    obtain ⟨k, a⟩ := entry
    by_cases h : k = key <;> simp [put, get?, h, ih]

theorem get?_put_of_ne {key other : Text} (h : other ≠ key) (value : α) (table : Table α) :
    get? key (put other value table) = get? key table := by
  induction table with
  | nil => simp [put, get?, h]
  | cons entry rest ih =>
    obtain ⟨k, a⟩ := entry
    by_cases hk : k = other
    · subst hk; simp [put, get?, h]
    · simp only [put, hk, if_false, get?, ih]

end Table

end RuleHints
