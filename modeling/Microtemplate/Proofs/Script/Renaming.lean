import Mathlib.Data.List.Perm.Subperm
import Mathlib.Logic.Function.Basic
import Microtemplate.Script.Builtin

/-!
Stores that hold the same at other addresses. A renaming says where the arrays and objects of one
store are found in another one. Texts, numbers, comparisons, positions and JSON texts are the same in
both, and so is whatever else is computed from values without looking at their addresses.
-/

namespace Microtemplate

namespace Fields

variable {α β : Type} (f : α → β)

theorem get?_mapped (fields : Fields α) (name : String) :
    get? (fields.map fun p => (p.1, f p.2)) name = (fields.get? name).map f := by
  induction fields with
  | nil => rfl
  | cons p fields ih =>
    obtain ⟨other, value⟩ := p
    simp only [get?, List.map_cons, List.lookup_cons] at ih ⊢
    cases name == other with
    | true => rfl
    | false => exact ih

theorem set_mapped (fields : Fields α) (name : String) (value : α) :
    set (fields.map fun p => (p.1, f p.2)) name (f value) =
      (fields.set name value).map fun p => (p.1, f p.2) := by
  induction fields with
  | nil => rfl
  | cons p fields ih =>
    obtain ⟨other, old⟩ := p
    simp only [set, List.map_cons] at ih ⊢
    split
    · rfl
    · rw [List.map_cons, ih]

theorem get?_append_cons {fields more : Fields α} {name other : String} (h : name ≠ other) (x : α) :
    get? (fields ++ (other, x) :: more) name = get? (fields ++ more) name := by
  simp only [get?, List.lookup_append, List.lookup_cons, beq_false_of_ne h]

end Fields

namespace Script

namespace Store

/-- An array or object of a store. -/
def Contains (s : Store) : Value → Prop
  | .array a => a < s.arrays.size
  | .object a => a < s.objects.size
  | _ => False

/-- Inside the containers that are being written there is room for all others. -/
structure Room (s : Store) (more : Nat) (writing : List Value) : Prop where
  nodup : writing.Nodup
  contains : ∀ v ∈ writing, s.Contains v
  count : s.containerCount < more + writing.length

namespace Room

variable {s : Store} {more : Nat} {writing : List Value} {v : Value}

theorem length_le (h : s.Room more writing) : writing.length ≤ s.containerCount := by
  let containers := (List.range s.arrays.size).map Value.array ++
    (List.range s.objects.size).map Value.object
  have hsubset : writing ⊆ containers := by
    intro v hv
    have hcontains := h.contains v hv
    cases v with
    | array a => exact List.mem_append_left _ (List.mem_map_of_mem (List.mem_range.mpr hcontains))
    | object a => exact List.mem_append_right _ (List.mem_map_of_mem (List.mem_range.mpr hcontains))
    | _ => cases hcontains
  have hlength := (h.nodup.subperm hsubset).length_le
  simpa [containers, containerCount] using hlength

theorem pos (h : s.Room more writing) : 0 < more := by
  have hlength := h.length_le
  have hcount := h.count
  omega

theorem cons (h : s.Room (more + 1) writing) (hv : s.Contains v) (hnew : v ∉ writing) :
    s.Room more (v :: writing) where
  nodup := List.nodup_cons.mpr ⟨hnew, h.nodup⟩
  contains := List.forall_mem_cons.mpr ⟨hv, h.contains⟩
  count := by
    have hcount := h.count
    rw [List.length_cons]
    omega

theorem empty (s : Store) : s.Room (s.containerCount + 1) [] :=
  ⟨List.nodup_nil, by simp, Nat.lt_succ_self _⟩

end Room

/-- An operator gives a truth value, a number or a text. -/
theorem binary_cases (s : Store) (op : BinaryOp) (v w : Value) :
    (∃ b, s.binary op v w = .boolean b) ∨ (∃ x, s.binary op v w = .number x) ∨
      ∃ t, s.binary op v w = .string t := by
  cases op with
  | add =>
    rw [binary, sum]
    split
    · exact Or.inr (Or.inr ⟨_, rfl⟩)
    · exact Or.inr (Or.inr ⟨_, rfl⟩)
    · exact Or.inr (Or.inr ⟨_, rfl⟩)
    · exact Or.inr (Or.inl ⟨_, rfl⟩)
  | subtract | multiply | divide | remainder => exact Or.inr (Or.inl ⟨_, rfl⟩)
  | _ => exact Or.inl ⟨_, rfl⟩

theorem lt_of_mem_elements {s : Store} {a : Address} {v : Value} (h : v ∈ s.elements a) :
    a < s.arrays.size := by
  refine Nat.lt_of_not_le fun hle => ?_
  rw [elements, Array.getElem?_eq_none hle] at h
  exact Array.not_mem_empty _ h

theorem lt_of_mem_fields {s : Store} {a : Address} {p : String × Value} (h : p ∈ s.fields a) :
    a < s.objects.size := by
  refine Nat.lt_of_not_le fun hle => ?_
  rw [fields, Array.getElem?_eq_none hle] at h
  cases h

end Store

theorem mapM_map_congr {ε α β γ : Type} {f : α → Except ε γ} {g : β → Except ε γ} {h : α → β}
    {as : List α} (hfg : ∀ a ∈ as, g (h a) = f a) : (as.map h).mapM g = as.mapM f := by
  induction as with
  | nil => rfl
  | cons a as ih =>
    obtain ⟨ha, has⟩ := List.forall_mem_cons.mp hfg
    rw [List.map_cons, List.mapM_cons, List.mapM_cons, ha, ih has]

/-- Where the arrays and objects of one store are found in another one. -/
structure Renaming where
  arrays : Address → Address
  objects : Address → Address
  /-- The objects that are no values of programs. -/
  hidden : Address → Prop
  arrays_injective : arrays.Injective
  objects_injective : objects.Injective

namespace Renaming

/-- Everything stays where it is, and nothing is hidden. -/
def same : Renaming := ⟨id, id, fun _ => False, Function.injective_id, Function.injective_id⟩

variable (r : Renaming)

/-- The value of the other store. -/
def value : Value → Value
  | .array a => .array (r.arrays a)
  | .object a => .object (r.objects a)
  | v => v

/-- The values that a program may come by. -/
def Visible : Value → Prop
  | .object a => ¬ r.hidden a
  | _ => True

/-- The bound method of the other store. -/
def method (m : BoundMethod) : BoundMethod := ⟨r.value m.receiver, m.method⟩

/-- The kind of a frame of the other store. -/
def kind : FrameKind → FrameKind
  | .within v => .within (r.value v)
  | k => k

@[simp] theorem same_value (v : Value) : same.value v = v := by
  cases v <;> rfl

@[simp] theorem value_same : same.value = id := funext same_value

@[simp] theorem same_visible (v : Value) : same.Visible v := by
  cases v with
  | object a => exact not_false
  | _ => exact trivial

@[simp] theorem method_same : same.method = id := by
  funext m
  rw [method, same_value]
  rfl

@[simp] theorem same_kind (k : FrameKind) : same.kind k = k := by
  cases k with
  | within v => rw [kind, same_value]
  | _ => rfl

theorem value_injective : r.value.Injective := by
  intro v w h
  cases v <;> cases w <;> simp_all [value, r.arrays_injective.eq_iff, r.objects_injective.eq_iff]

@[simp] theorem isNullish_value (v : Value) : (r.value v).isNullish = v.isNullish := by
  cases v <;> rfl

@[simp] theorem isCallable_value (v : Value) : (r.value v).isCallable = v.isCallable := by
  cases v <;> rfl

@[simp] theorem truthy_value (v : Value) : (r.value v).truthy = v.truthy := by
  cases v <;> rfl

@[simp] theorem typeName_value (v : Value) : (r.value v).typeName = v.typeName := by
  cases v <;> rfl

theorem value_eq_undefined {v : Value} : r.value v = .undefined ↔ v = .undefined := by
  cases v <;> simp [value]

@[simp] theorem strictEquals_value (v w : Value) :
    (r.value v).strictEquals (r.value w) = v.strictEquals w := by
  cases v <;> cases w <;>
    simp [value, Value.strictEquals, r.arrays_injective.eq_iff, r.objects_injective.eq_iff]

@[simp] theorem sameValue_value (v w : Value) :
    (r.value v).sameValue (r.value w) = v.sameValue w := by
  have hstrict := r.strictEquals_value v w
  cases v <;> cases w <;> first | rfl | exact hstrict

@[simp] theorem withoutBoolean_value (v : Value) :
    (r.value v).withoutBoolean = r.value v.withoutBoolean := by
  cases v <;> rfl

@[simp] theorem scalarEquals_value (v w : Value) :
    (r.value v).scalarEquals (r.value w) = v.scalarEquals w := by
  have hstrict := r.strictEquals_value v w
  cases v <;> cases w <;> first | rfl | exact hstrict

theorem of?_value (v : Value) (name : String) : Method.of? (r.value v) name = Method.of? v name := by
  cases v <;> rfl

theorem argument_value (args : List Value) (i : Nat) :
    argument (args.map r.value) i = r.value (argument args i) := by
  rw [argument, argument, List.getElem?_map]
  cases args[i]? <;> rfl

theorem visible_argument {args : List Value} (h : ∀ v ∈ args, r.Visible v) (i : Nat) :
    r.Visible (argument args i) := by
  unfold argument
  cases hi : args[i]? with
  | none => exact trivial
  | some v => exact h v (List.mem_of_getElem? hi)

/-- The fields of the other store. -/
def fields (fs : Fields Value) : Fields Value := fs.map fun p => (p.1, r.value p.2)

theorem same_fields (fs : Fields Value) : same.fields fs = fs := by
  rw [fields, value_same]
  exact List.map_id _

theorem get?_fields (fs : Fields Value) (name : String) :
    (r.fields fs).get? name = (fs.get? name).map r.value := Fields.get?_mapped r.value fs name

theorem set_fields (fs : Fields Value) (name : String) (v : Value) :
    (r.fields fs).set name (r.value v) = r.fields (fs.set name v) := Fields.set_mapped r.value fs name v

@[simp] theorem names_fields (fs : Fields Value) : (r.fields fs).names = fs.names := by
  simp [fields, Fields.names]

/-- A store holds the same as another one, at the addresses that the renaming says. -/
structure Mirrors (s t : Store) : Prop where
  elements : ∀ a, t.elements (r.arrays a) = (s.elements a).map r.value
  fields : ∀ a, ¬ r.hidden a → t.fields (r.objects a) = r.fields (s.fields a)
  visibleElements : ∀ a, ∀ v ∈ s.elements a, r.Visible v
  visibleFields : ∀ a, ¬ r.hidden a → ∀ p ∈ s.fields a, r.Visible p.2
  arraysSize : ∀ a, r.arrays a < t.arrays.size ↔ a < s.arrays.size
  objectsSize : ∀ a, r.objects a < t.objects.size ↔ a < s.objects.size
  functions : t.functions = s.functions
  methods : t.methods = s.methods.map r.method
  visibleMethods : ∀ m ∈ s.methods, r.Visible m.receiver

theorem same_mirrors (s : Store) : same.Mirrors s s where
  elements a := by
    rw [value_same, Array.map_id]
    rfl
  fields a _ := (same_fields _).symm
  visibleElements _ v _ := same_visible v
  visibleFields _ _ p _ := same_visible p.2
  arraysSize _ := Iff.rfl
  objectsSize _ := Iff.rfl
  functions := rfl
  methods := by simp
  visibleMethods m _ := same_visible m.receiver

namespace Mirrors

variable {r} {s t : Store} (h : r.Mirrors s t)

include h

theorem plainText (v : Value) : t.plainText (r.value v) = s.plainText v := by
  cases v with
  | function a => simp only [Renaming.value, Store.plainText, h.functions]
  | method a =>
    simp only [Renaming.value, Store.plainText, h.methods, Array.getElem?_map, Option.map_map]
    rfl
  | _ => rfl

omit h in
theorem joinWith {text text' : Value → String} (htext : ∀ v, text' (r.value v) = text v)
    (separator : String) (items : List Value) :
    Store.joinWith text' separator (items.map r.value) = Store.joinWith text separator items := by
  simp only [Store.joinWith, List.map_map, Function.comp_def, isNullish_value, htext]

theorem textWithin (levels : Nat) (writing : List Address) (v : Value) :
    t.textWithin levels (writing.map r.arrays) (r.value v) = s.textWithin levels writing v := by
  induction levels generalizing writing v with
  | zero =>
    cases v with
    | array a => rfl
    | _ => exact h.plainText _
  | succ levels ih =>
    cases v with
    | array a =>
      have hmem : r.arrays a ∈ writing.map r.arrays ↔ a ∈ writing :=
        List.mem_map_of_injective r.arrays_injective
      simp only [Renaming.value, Store.textWithin, hmem, h.elements, Array.toList_map]
      split
      · rfl
      · exact joinWith (ih (a :: writing)) "," _
    | _ => exact h.plainText _

theorem text (v : Value) : t.text (r.value v) = s.text v := h.textWithin textDepth [] v

theorem joinArray (a : Address) (separator : String) :
    t.joinArray (r.arrays a) separator = s.joinArray a separator := by
  rw [Store.joinArray, Store.joinArray, h.elements, Array.toList_map]
  exact joinWith (h.textWithin _ [a]) separator _

theorem joinValues (separator : String) (items : List Value) :
    t.joinValues separator (items.map r.value) = s.joinValues separator items :=
  joinWith h.text separator items

theorem number (v : Value) : t.number (r.value v) = s.number v := by
  have htext := h.text v
  cases v <;> first | rfl | exact congrArg numberOfText htext

theorem primitive (v : Value) : t.primitive (r.value v) = s.primitive v := by
  have htext := h.text v
  cases v <;> first | rfl | exact congrArg Value.string htext

theorem looseEquals (v w : Value) : t.looseEquals (r.value v) (r.value w) = s.looseEquals v w := by
  simp only [Store.looseEquals, isNullish_value, withoutBoolean_value]
  have hscalar := r.scalarEquals_value v.withoutBoolean w.withoutBoolean
  generalize v.withoutBoolean = x at hscalar ⊢
  generalize w.withoutBoolean = y at hscalar ⊢
  have hx := h.text x
  have hy := h.text y
  cases x <;> cases y <;> simp_all [Renaming.value]

omit h in
/-- A value that is not a container and not a function is itself at all addresses. -/
theorem value_primitive (v : Value) : r.value (s.primitive v) = s.primitive v := by
  cases v <;> rfl

theorem number_primitive (v : Value) : t.number (s.primitive v) = s.number (s.primitive v) := by
  have hnumber := h.number (s.primitive v)
  rwa [value_primitive] at hnumber

theorem text_primitive (v : Value) : t.text (s.primitive v) = s.text (s.primitive v) := by
  have htext := h.text (s.primitive v)
  rwa [value_primitive] at htext

theorem order? (v w : Value) : t.order? (r.value v) (r.value w) = s.order? v w := by
  have hv := h.number_primitive v
  have hw := h.number_primitive w
  simp only [Store.order?, h.primitive]
  generalize s.primitive v = x at hv ⊢
  generalize s.primitive w = y at hw ⊢
  cases x <;> cases y <;> simp_all

theorem sum (v w : Value) : t.sum (r.value v) (r.value w) = s.sum v w := by
  have hv := h.number_primitive v
  have hw := h.number_primitive w
  have hv' := h.text_primitive v
  have hw' := h.text_primitive w
  simp only [Store.sum, h.primitive]
  generalize s.primitive v = x at hv hv' ⊢
  generalize s.primitive w = y at hw hw' ⊢
  cases x <;> cases y <;> simp_all

theorem binary (op : BinaryOp) (v w : Value) :
    t.binary op (r.value v) (r.value w) = s.binary op v w := by
  cases op <;> simp only [Store.binary, h.sum, h.number, h.order?, h.looseEquals, strictEquals_value]

theorem keys (v : Value) (hv : r.Visible v) : t.keys (r.value v) = s.keys v := by
  cases v with
  | object a => simp only [Renaming.value, Store.keys, h.fields a hv, names_fields]
  | array a => simp only [Renaming.value, Store.keys, h.elements, Array.size_map]
  | _ => rfl

theorem whole (v : Value) : t.whole (r.value v) = s.whole v := by
  rw [Store.whole, Store.whole, h.number]

theorem relativePosition (length default : Nat) (v : Value) :
    t.relativePosition length default (r.value v) = s.relativePosition length default v := by
  simp only [Store.relativePosition, h.whole, value_eq_undefined]

theorem clampedPosition (length default : Nat) (v : Value) :
    t.clampedPosition length default (r.value v) = s.clampedPosition length default v := by
  simp only [Store.clampedPosition, h.whole, value_eq_undefined]

theorem escaped (v : Value) : t.escaped (r.value v) = s.escaped v := by
  simp only [Store.escaped, isNullish_value, h.text]

theorem contains {v : Value} : t.Contains (r.value v) ↔ s.Contains v := by
  cases v with
  | array a => exact h.arraysSize a
  | object a => exact h.objectsSize a
  | _ => rfl

/-- There is always room for the containers that are still to be written, so it does not matter how
many more containers one of the stores has. -/
theorem jsonWithin (i : Indentation) (n m : Nat) (writing : List Value) (v : Value)
    (hv : r.Visible v) (hn : s.Room n writing) (hm : t.Room m (writing.map r.value)) :
    t.jsonWithin i m (writing.map r.value) (r.value v) = s.jsonWithin i n writing v := by
  induction n generalizing m writing v with
  | zero => exact absurd hn.pos (Nat.lt_irrefl 0)
  | succ n ih =>
    obtain ⟨m, rfl⟩ := Nat.exists_eq_succ_of_ne_zero (Nat.pos_iff_ne_zero.mp hm.pos)
    have hmem : ∀ v, r.value v ∈ writing.map r.value ↔ v ∈ writing :=
      fun v => List.mem_map_of_injective r.value_injective
    have hinner : ∀ v x, s.Contains v → v ∉ writing → r.Visible x →
        t.jsonWithin i m (r.value v :: writing.map r.value) (r.value x) =
          s.jsonWithin i n (v :: writing) x := by
      intro v x hcontains hnew hx
      exact ih m (v :: writing) x hx (hn.cons hcontains hnew)
        (hm.cons (h.contains.mpr hcontains) (by rwa [hmem]))
    cases v with
    | array a =>
      have hwriting := hmem (.array a)
      simp only [Renaming.value, Store.jsonWithin] at hwriting ⊢
      by_cases ha : .array a ∈ writing
      · rw [if_pos (hwriting.mpr ha), if_pos ha]
        rfl
      · rw [if_neg (mt hwriting.mp ha), if_neg ha, h.elements, Array.toList_map,
          mapM_map_congr fun x hx => ?_, List.length_map]
        have helement := Array.mem_toList_iff.mp hx
        have hx' := hinner (.array a) x (Store.lt_of_mem_elements helement) ha
          (h.visibleElements a x helement)
        exact congrArg (· >>= _) hx'
    | object a =>
      have hwriting := hmem (.object a)
      simp only [Renaming.value, Store.jsonWithin] at hwriting ⊢
      by_cases ha : .object a ∈ writing
      · rw [if_pos (hwriting.mpr ha), if_pos ha]
        rfl
      · rw [if_neg (mt hwriting.mp ha), if_neg ha, h.fields a hv, Renaming.fields,
          mapM_map_congr fun p hp => ?_, List.length_map]
        have hp' := hinner (.object a) p.2 (Store.lt_of_mem_fields hp) ha (h.visibleFields a hv p hp)
        exact congrArg (· >>= _) hp'
    | _ => rfl

theorem json (i : Indentation) {v : Value} (hv : r.Visible v) : t.json i (r.value v) = s.json i v :=
  h.jsonWithin i _ _ [] v hv (.empty s) (.empty t)

end Mirrors

end Renaming

end Script

end Microtemplate
