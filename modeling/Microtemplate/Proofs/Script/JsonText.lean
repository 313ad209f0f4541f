import Mathlib.Data.List.Forall2
import Microtemplate.Script.Program

/-!
JSON values as texts. The text of a JSON value is that of the value it becomes in a store: what is
put into the store later does not change it, and no array of JSON data is inside itself.
-/

namespace Microtemplate

namespace Json

/-- Whether a value is `null`. -/
def isNull : Json → Bool
  | null => true
  | _ => false

/-- The text of a value with so many levels of arrays still written. -/
def textWithin : Nat → Json → String
  | _, null => "null"
  | _, boolean b => if b then "true" else "false"
  | _, number n => Decimal.numberText n.toFloat
  | _, string t => t
  | 0, array _ => ""
  | levels + 1, array items =>
    ",".intercalate (items.map fun j => if j.isNull then "" else textWithin levels j)
  | _, object _ => "[object Object]"

/-- The text of a value. An array is written as its items with commas between them, in which `null`
is empty. -/
def scriptText (j : Json) : String := j.textWithin Script.textDepth

end Json

namespace Script

/-- One store has come about from another one by additions. -/
structure Store.Grown (s t : Store) : Prop where
  arrays : s.arrays.size ≤ t.arrays.size
  elements : ∀ a, a < s.arrays.size → t.elements a = s.elements a
  objects : s.objects.size ≤ t.objects.size
  fields : ∀ a, a < s.objects.size → t.fields a = s.fields a
  frames : t.frames = s.frames
  functions : t.functions = s.functions
  methods : t.methods = s.methods

namespace Store.Grown

theorem refl (s : Store) : s.Grown s :=
  ⟨Nat.le_refl _, fun _ _ => rfl, Nat.le_refl _, fun _ _ => rfl, rfl, rfl, rfl⟩

theorem trans {s t u : Store} (h : s.Grown t) (h' : t.Grown u) : s.Grown u where
  arrays := Nat.le_trans h.arrays h'.arrays
  elements a ha := by
    rw [h'.elements a (Nat.lt_of_lt_of_le ha h.arrays), h.elements a ha]
  objects := Nat.le_trans h.objects h'.objects
  fields a ha := by
    rw [h'.fields a (Nat.lt_of_lt_of_le ha h.objects), h.fields a ha]
  frames := h'.frames.trans h.frames
  functions := h'.functions.trans h.functions
  methods := h'.methods.trans h.methods

theorem addArray (s : Store) (items : Array Value) : s.Grown (s.addArray items).2 where
  arrays := by simp [Store.addArray]
  elements a ha := by
    simp only [Store.elements, Store.addArray, Array.getElem?_push, if_neg (Nat.ne_of_lt ha)]
  objects := Nat.le_refl _
  fields _ _ := rfl
  frames := rfl
  functions := rfl
  methods := rfl

theorem addObject (s : Store) (fields : Fields Value) : s.Grown (s.addObject fields).2 where
  arrays := Nat.le_refl _
  elements _ _ := rfl
  objects := by simp [Store.addObject]
  fields a ha := by
    simp only [Store.fields, Store.addObject, Array.getElem?_push, if_neg (Nat.ne_of_lt ha)]
  frames := rfl
  functions := rfl
  methods := rfl

end Store.Grown

/-- A value stands for a JSON value, in a store and in all that come about from it by additions to
its arrays. -/
structure Shows (s : Store) (v : Value) (j : Json) : Prop where
  isNullish : v.isNullish = j.isNull
  textWithin : ∀ t : Store, s.arrays.size ≤ t.arrays.size →
    (∀ a, a < s.arrays.size → t.elements a = s.elements a) →
    ∀ levels writing, (∀ a ∈ writing, s.arrays.size ≤ a) →
      t.textWithin levels writing v = j.textWithin levels

theorem Shows.grown {s t : Store} {v : Value} {j : Json} (h : Shows s v j) (hgrown : s.Grown t) :
    Shows t v j where
  isNullish := h.isNullish
  textWithin u hsize helements levels writing hwriting := by
    refine h.textWithin u (Nat.le_trans hgrown.arrays hsize) (fun a ha => ?_) levels writing
      fun a ha => Nat.le_trans hgrown.arrays (hwriting a ha)
    rw [helements a (Nat.lt_of_lt_of_le ha hgrown.arrays), hgrown.elements a ha]

theorem Shows.text {s : Store} {v : Value} {j : Json} (h : Shows s v j) :
    s.text v = j.scriptText :=
  h.textWithin s (Nat.le_refl _) (fun _ _ => rfl) textDepth [] (by simp)

/-- A value that is no array has one text. -/
theorem shows_plain {s : Store} {v : Value} {j : Json} (hnull : v.isNullish = j.isNull)
    (hv : ∀ (t : Store) levels writing, t.textWithin levels writing v = j.textWithin 0)
    (hj : ∀ levels, j.textWithin levels = j.textWithin 0) : Shows s v j where
  isNullish := hnull
  textWithin t _ _ levels writing _ := (hv t levels writing).trans (hj levels).symm

theorem elements_addArray (s : Store) (items : Array Value) :
    (s.addArray items).2.elements s.arrays.size = items := by
  simp [Store.elements, Store.addArray]

theorem fields_addObject (s : Store) (fields : Fields Value) :
    (s.addObject fields).2.fields s.objects.size = fields := by
  simp [Store.fields, Store.addObject]

/-- An array shows the items that its elements show. -/
theorem shows_addArray {s : Store} {values : List Value} {items : List Json}
    (h : List.Forall₂ (Shows s) values items) :
    Shows (s.addArray values.toArray).2 (s.addArray values.toArray).1 (.array items) where
  isNullish := rfl
  textWithin t hsize helements levels writing hwriting := by
    cases levels with
    | zero => rfl
    | succ levels =>
      have hnew : s.arrays.size < (s.addArray values.toArray).2.arrays.size := by
        simp [Store.addArray]
      have hnot : s.arrays.size ∉ writing := fun hmem =>
        Nat.lt_irrefl _ (Nat.lt_of_lt_of_le hnew (hwriting _ hmem))
      have hbelow : ∀ a, a < s.arrays.size → t.elements a = s.elements a := fun a ha => by
        rw [helements a (Nat.lt_trans ha hnew)]
        exact (Store.Grown.addArray s values.toArray).elements a ha
      have hbounds : ∀ a ∈ s.arrays.size :: writing, s.arrays.size ≤ a := by
        intro a ha
        rcases List.mem_cons.mp ha with rfl | ha
        · exact Nat.le_refl _
        · exact Nat.le_trans (Nat.le_of_lt hnew) (hwriting a ha)
      have hitems : values.map (fun v => if v.isNullish then "" else
            t.textWithin levels (s.arrays.size :: writing) v) =
          items.map fun j => if j.isNull then "" else j.textWithin levels := by
        rw [← List.forall₂_eq_eq_eq, List.forall₂_map_left_iff, List.forall₂_map_right_iff]
        refine h.imp fun v j hv => ?_
        rw [hv.isNullish, hv.textWithin t (Nat.le_trans (Nat.le_of_lt hnew) hsize) hbelow levels _
          hbounds]
      have helement : t.elements s.arrays.size = values.toArray := by
        rw [helements _ hnew, elements_addArray]
      change (if s.arrays.size ∈ writing then "" else Store.joinWith
        (t.textWithin levels (s.arrays.size :: writing)) "," (t.elements s.arrays.size).toList) = _
      rw [if_neg hnot, helement, Store.joinWith, hitems]
      rfl

/-- The fields of an object show those of a JSON object. -/
abbrev ShowsFields (s : Store) (values : Fields Value) (fields : List (String × Json)) : Prop :=
  List.Forall₂ (fun p q => p.1 = q.1 ∧ Shows s p.2 q.2) values fields

mutual

/-- A JSON value becomes a value that shows it. -/
theorem addJson_shows : ∀ (j : Json) (s : Store),
    s.Grown (s.addJson j).2 ∧ Shows (s.addJson j).2 (s.addJson j).1 j
  | .null, s =>
    ⟨.refl s, shows_plain rfl (fun _ n _ => by cases n <;> rfl) fun n => by cases n <;> rfl⟩
  | .boolean _, s =>
    ⟨.refl s, shows_plain rfl (fun _ n _ => by cases n <;> rfl) fun n => by cases n <;> rfl⟩
  | .number _, s =>
    ⟨.refl s, shows_plain rfl (fun _ n _ => by cases n <;> rfl) fun n => by cases n <;> rfl⟩
  | .string _, s =>
    ⟨.refl s, shows_plain rfl (fun _ n _ => by cases n <;> rfl) fun n => by cases n <;> rfl⟩
  | .array items, s => by
    obtain ⟨hgrown, hitems⟩ := addJsonItems_shows items s
    exact ⟨hgrown.trans (.addArray _ _), shows_addArray hitems⟩
  | .object fields, s => by
    obtain ⟨hgrown, -⟩ := addJsonFields_shows fields s
    exact ⟨hgrown.trans (.addObject _ _),
      shows_plain rfl (fun _ n _ => by cases n <;> rfl) fun n => by cases n <;> rfl⟩

theorem addJsonItems_shows : ∀ (items : List Json) (s : Store),
    s.Grown (Store.addJsonItems items s).2 ∧
      List.Forall₂ (Shows (Store.addJsonItems items s).2) (Store.addJsonItems items s).1 items
  | [], s => ⟨.refl s, .nil⟩
  | j :: rest, s => by
    obtain ⟨hfirst, hj⟩ := addJson_shows j s
    obtain ⟨hmore, hrest⟩ := addJsonItems_shows rest (s.addJson j).2
    exact ⟨hfirst.trans hmore, .cons (hj.grown hmore) hrest⟩

theorem addJsonFields_shows : ∀ (fields : List (String × Json)) (s : Store),
    s.Grown (Store.addJsonFields fields s).2 ∧
      ShowsFields (Store.addJsonFields fields s).2 (Store.addJsonFields fields s).1 fields
  | [], s => ⟨.refl s, .nil⟩
  | (name, j) :: rest, s => by
    obtain ⟨hfirst, hj⟩ := addJson_shows j s
    obtain ⟨hmore, hrest⟩ := addJsonFields_shows rest (s.addJson j).2
    exact ⟨hfirst.trans hmore, .cons ⟨rfl, hj.grown hmore⟩ hrest⟩

end

theorem addJsonFields_append (first second : List (String × Json)) (s : Store) :
    Store.addJsonFields (first ++ second) s =
      ((Store.addJsonFields first s).1 ++ (Store.addJsonFields second (Store.addJsonFields first s).2).1,
        (Store.addJsonFields second (Store.addJsonFields first s).2).2) := by
  induction first generalizing s with
  | nil => rfl
  | cons p first ih =>
    obtain ⟨name, j⟩ := p
    simp only [List.cons_append, Store.addJsonFields, ih]

/-- A field of a JSON object is found in the object that shows it. -/
theorem ShowsFields.get? {s : Store} {values : Fields Value} {fields : List (String × Json)}
    (h : ShowsFields s values fields) (name : String) :
    (Fields.get? fields name = none ∧ values.get? name = none) ∨
      ∃ j v, Fields.get? fields name = some j ∧ values.get? name = some v ∧ Shows s v j := by
  induction h with
  | nil => exact Or.inl ⟨rfl, rfl⟩
  | @cons p q values fields hp _ ih =>
    obtain ⟨other, v⟩ := p
    obtain ⟨other', j⟩ := q
    obtain ⟨rfl, hv⟩ := hp
    by_cases hname : name = other
    · subst hname
      exact Or.inr ⟨j, v, by simp [Fields.get?], by simp [Fields.get?], hv⟩
    · simpa [Fields.get?, List.lookup_cons, beq_false_of_ne hname] using ih

end Script

end Microtemplate
