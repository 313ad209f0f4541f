/-!
Fields by name, in the order in which their names first came up. Setting a field that is there
already changes its value and keeps its position.
-/

namespace Microtemplate

/-- Values by name, in order; a name stands at most once in fields built with `set`. -/
abbrev Fields (α : Type) := List (String × α)

namespace Fields

variable {α : Type}

/-- The value of a field. -/
def get? (fields : Fields α) (name : String) : Option α := fields.lookup name

/-- Whether there is a field of this name. -/
def has (fields : Fields α) (name : String) : Bool := (fields.get? name).isSome

/-- Gives a field a value: in its place if it is there, at the end otherwise. -/
def set : Fields α → String → α → Fields α
  | [], name, value => [(name, value)]
  | (other, old) :: rest, name, value =>
    if other = name then (other, value) :: rest else (other, old) :: set rest name value

/-- The names in order. -/
def names (fields : Fields α) : List String := fields.map (·.1)

/-- The fields that pairs leave which are set one after the other. -/
def ofPairs (pairs : List (String × α)) : Fields α :=
  pairs.foldl (fun fields p => fields.set p.1 p.2) []

theorem get?_set (fields : Fields α) (name other : String) (value : α) :
    (fields.set name value).get? other = if other = name then some value else fields.get? other := by
  induction fields with
  | nil =>
    by_cases h : other = name
    · simp [set, get?, h]
    · simp [set, get?, List.lookup_cons, h, beq_false_of_ne h]
  | cons p rest ih =>
    obtain ⟨first, old⟩ := p
    simp only [get?] at ih
    by_cases h : first = name
    · subst h
      by_cases h' : other = first
      · simp [set, get?, h']
      · simp [set, get?, List.lookup_cons, h', beq_false_of_ne h']
    · by_cases h' : other = first
      · subst h'
        simp [set, get?, h]
      · simp [set, get?, List.lookup_cons, h, beq_false_of_ne h', ih]

theorem names_set (fields : Fields α) (name : String) (value : α) :
    (fields.set name value).names =
      if name ∈ fields.names then fields.names else fields.names ++ [name] := by
  induction fields with
  | nil => simp [set, names]
  | cons p rest ih =>
    obtain ⟨first, old⟩ := p
    by_cases h : first = name
    · subst h
      simp [set, names]
    · have h' : ¬ name = first := fun e => h e.symm
      simp only [names] at ih
      simp only [set, if_neg h, names, List.map_cons, ih, List.mem_cons, h', false_or]
      split <;> simp_all

theorem get?_eq_none {fields : Fields α} {name : String} (h : name ∉ fields.names) :
    fields.get? name = none := by
  induction fields with
  | nil => rfl
  | cons p rest ih =>
    obtain ⟨hne, hrest⟩ := not_or.mp (mt List.mem_cons.mpr h)
    have hname : (name == p.1) = false := beq_false_of_ne hne
    rw [get?, List.lookup_cons, hname]
    exact ih hrest

theorem has_eq_false {fields : Fields α} {name : String} (h : name ∉ fields.names) :
    fields.has name = false := by
  rw [has, get?_eq_none h]
  rfl

/-- A new field comes at the end. -/
theorem set_eq_append {fields : Fields α} {name : String} (h : name ∉ fields.names) (value : α) :
    fields.set name value = fields ++ [(name, value)] := by
  induction fields with
  | nil => rfl
  | cons p rest ih =>
    obtain ⟨hne, hrest⟩ := not_or.mp (mt List.mem_cons.mpr h)
    rw [set, if_neg (Ne.symm hne), ih hrest, List.cons_append]

end Fields

end Microtemplate
