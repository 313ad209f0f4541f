import Microtemplate.Proofs.Script.Growth
import Mathlib.Algebra.Group.Nat.Defs
import Mathlib.Data.List.Induction
import Mathlib.Data.List.Nodup

/-!
Writing properties. A key is an index of an array exactly if it is the text of a number. A write that
fails changes nothing. Any other write is seen at its key and nowhere else, apart from what an array
gains or loses at its end: the names of an object keep their order, a position beyond the end of an
array makes it longer, and its length can be written too.
-/

namespace Microtemplate.Script

section Indices

variable {cs : List Char} {key : String} {i : Nat}

/-- Figures without a superfluous zero before them. -/
def IsIndexText (cs : List Char) : Prop :=
  cs ≠ [] ∧ (∀ c ∈ cs, c.isDigit = true) ∧ ∀ rest, cs = '0' :: rest → rest = []

theorem figuresValue_eq (cs : List Char) : Decimal.figuresValue cs = Nat.ofDigitChars 10 cs 0 := by
  simp only [Decimal.figuresValue, Nat.ofDigitChars_eq_foldl, Nat.mul_comm]

/-- The value of a figure, and the figure of this value. -/
theorem digitChar_of_isDigit {c : Char} (h : c.isDigit = true) :
    c.toNat - '0'.toNat < 10 ∧ (c.toNat - '0'.toNat).digitChar = c := by
  have hfigure : ∀ d < 10, (Char.ofNat ('0'.toNat + d)).toNat - '0'.toNat < 10 ∧
      ((Char.ofNat ('0'.toNat + d)).toNat - '0'.toNat).digitChar = Char.ofNat ('0'.toNat + d) := by
    decide
  have hrange : '0'.toNat ≤ c.toNat ∧ c.toNat ≤ '9'.toNat := by
    rw [Char.isDigit, Bool.and_eq_true, decide_eq_true_iff, decide_eq_true_iff] at h
    exact ⟨UInt32.le_iff_toNat_le.mp h.1, UInt32.le_iff_toNat_le.mp h.2⟩
  have hc : c = Char.ofNat ('0'.toNat + (c.toNat - '0'.toNat)) := by
    rw [Nat.add_sub_cancel' hrange.1, Char.ofNat_toNat]
  have hlt : c.toNat - '0'.toNat < 10 := by
    have hlast : c.toNat ≤ 57 := hrange.2
    change c.toNat - 48 < 10
    omega
  rw [hc]
  exact hfigure _ hlt

/-- The text of the value that figures have is the figures again. -/
theorem IsIndexText.toDigits_ofDigitChars (h : IsIndexText cs) :
    Nat.toDigits 10 (Nat.ofDigitChars 10 cs 0) = cs := by
  induction cs using List.reverseRecOn with
  | nil => exact absurd rfl h.1
  | append_singleton cs c ih =>
    obtain ⟨-, hdigits, hzero⟩ := h
    obtain ⟨hlt, hchar⟩ := digitChar_of_isDigit (hdigits c (by simp))
    have hvalue : Nat.ofDigitChars 10 (cs ++ [c]) 0 =
        10 * Nat.ofDigitChars 10 cs 0 + (c.toNat - '0'.toNat) := by
      rw [Nat.ofDigitChars_append, Nat.ofDigitChars_cons, Nat.ofDigitChars_nil]
    rw [hvalue]
    cases cs with
    | nil =>
      rw [Nat.ofDigitChars_nil, Nat.mul_zero, Nat.zero_add, Nat.toDigits_of_lt_base hlt, hchar]
      rfl
    | cons d cs =>
      have hinit : IsIndexText (d :: cs) := by
        refine ⟨List.cons_ne_nil _ _, fun x hx => hdigits x (List.mem_append_left _ hx), ?_⟩
        rintro rest heq
        obtain ⟨rfl, rfl⟩ := List.cons.inj heq
        exact absurd (hzero _ rfl) (by simp)
      have hpos : 0 < Nat.ofDigitChars 10 (d :: cs) 0 := by
        refine Nat.pos_of_ne_zero fun hnone => ?_
        have htext := ih hinit
        rw [hnone, Nat.toDigits_zero] at htext
        obtain ⟨rfl, rfl⟩ := List.cons.inj htext
        exact absurd (hzero _ rfl) (by simp)
      rw [← Nat.toDigits_append_toDigits (by decide) hpos hlt, ih hinit,
        Nat.toDigits_of_lt_base hlt, hchar]

theorem isIndexText_toDigits (i : Nat) : IsIndexText (Nat.toDigits 10 i) := by
  refine ⟨Nat.toDigits_ne_nil, fun c => Nat.isDigit_of_mem_toDigits (by decide) (by decide), ?_⟩
  induction i using Nat.strongRecOn with
  | ind i ih =>
    intro rest hzero
    rw [Nat.toDigits_eq_if (by decide)] at hzero
    split at hzero
    · exact (List.cons.inj hzero).2.symm
    · rename_i hlarge
      obtain ⟨c, cs, hcs⟩ : ∃ c cs, Nat.toDigits 10 (i / 10) = c :: cs :=
        List.exists_cons_of_ne_nil Nat.toDigits_ne_nil
      rw [hcs] at hzero
      obtain ⟨rfl, -⟩ := List.cons.inj hzero
      -- What stands before the last figure would be a lone zero, but it has a value.
      obtain rfl := ih (i / 10) (by omega) cs hcs
      have hvalue : i / 10 = 0 := by
        rw [← Nat.ofDigitChars_ten_toDigits (n := i / 10), hcs]
        rfl
      omega

theorem arrayIndex?_eq_some_iff_isIndexText : arrayIndex? key = some i ↔
    IsIndexText key.toList ∧ Nat.ofDigitChars 10 key.toList 0 = i ∧ i < 2 ^ 64 := by
  unfold arrayIndex?
  split
  · rename_i hnil
    simp [IsIndexText, hnil]
  · rename_i d rest hzero
    have hnot : ¬ IsIndexText key.toList := fun h => absurd (h.2.2 _ hzero) (List.cons_ne_nil _ _)
    simp [hnot]
  · rename_i hnil hzero
    have htext : IsIndexText key.toList ↔ key.toList.all Char.isDigit = true := by
      rw [List.all_eq_true]
      refine ⟨fun h => h.2.1, fun hdigits => ⟨hnil, hdigits, fun rest hrest => ?_⟩⟩
      cases rest with
      | nil => rfl
      | cons d rest => exact (hzero _ _ hrest).elim
    rw [htext, figuresValue_eq]
    by_cases hindex : (key.toList.all Char.isDigit &&
        decide (Nat.ofDigitChars 10 key.toList 0 < Nat.pow 2 64)) = true
    · obtain ⟨hdigits, hlt⟩ := Bool.and_eq_true_iff.mp hindex
      rw [if_pos hindex, Option.some.injEq]
      exact ⟨fun h => ⟨hdigits, h, h ▸ of_decide_eq_true hlt⟩, fun h => h.2.1⟩
    · rw [if_neg hindex]
      refine ⟨fun h => (Option.some_ne_none _ h.symm).elim, fun ⟨hdigits, hvalue, hlt⟩ => ?_⟩
      exact absurd (Bool.and_eq_true_iff.mpr ⟨hdigits, decide_eq_true (hvalue ▸ hlt)⟩) hindex

/-- A key is an index exactly if it is the text of a number that the machine can count to. -/
theorem arrayIndex?_eq_some_iff : arrayIndex? key = some i ↔ i < 2 ^ 64 ∧ key = toString i := by
  rw [arrayIndex?_eq_some_iff_isIndexText, Nat.toString_eq_ofList_toDigits, and_comm (a := i < 2 ^ 64),
    ← String.toList_inj, String.toList_ofList]
  constructor
  · rintro ⟨htext, rfl, hlt⟩
    exact ⟨htext.toDigits_ofDigitChars.symm, hlt⟩
  · rintro ⟨hkey, hlt⟩
    rw [hkey]
    exact ⟨isIndexText_toDigits i, Nat.ofDigitChars_ten_toDigits, hlt⟩

end Indices

section Elements

variable (items : Array Value) (n i j : Nat) (v : Value)

theorem size_resize : (resize items n).size = n := by
  unfold resize
  split
  · rw [Array.size_extract]
    omega
  · rw [Array.size_append, Array.size_replicate]
    omega

theorem getElem?_resize : (resize items n)[j]? =
    if j < n then if j < items.size then items[j]? else some .undefined else none := by
  by_cases hj : j < n
  · rw [if_pos hj]
    unfold resize
    split
    · rename_i hle
      rw [Array.getElem?_extract, if_pos (by omega), if_pos (by omega), Nat.zero_add]
    · rw [Array.getElem?_append, Array.getElem?_replicate]
      split
      · rfl
      · exact if_pos (by omega)
  · rw [if_neg hj]
    exact Array.getElem?_eq_none (by rw [size_resize]; omega)

theorem size_putAt : (putAt items i v).size = max items.size (i + 1) := by
  unfold putAt
  split
  · rw [Array.size_setIfInBounds]
    omega
  · rw [Array.size_push, size_resize]
    omega

theorem getElem?_putAt_self : (putAt items i v)[i]? = some v := by
  unfold putAt
  split
  · rename_i hlt
    rw [Array.getElem?_setIfInBounds_self_of_lt hlt]
  · rw [Array.getElem?_push, if_pos (size_resize items i).symm]

theorem getElem?_putAt_of_ne (h : j ≠ i) : (putAt items i v)[j]? =
    if j < items.size then items[j]? else if j < i then some .undefined else none := by
  unfold putAt
  split
  · rename_i hlt
    rw [Array.getElem?_setIfInBounds_ne (Ne.symm h)]
    split
    · rfl
    · rw [if_neg (by omega), Array.getElem?_eq_none (by omega)]
  · rw [Array.getElem?_push, if_neg (by rwa [size_resize]), getElem?_resize]
    split
    · rfl
    · rw [if_neg (by omega)]

end Elements

namespace Store

/-- An array or an object that the store has. -/
inductive Holds (s : Store) : Value → Prop
  | array {a : Address} (h : a < s.arrays.size) : Holds s (.array a)
  | object {a : Address} (h : a < s.objects.size) : Holds s (.object a)

variable (s t : Store)

/-- The second store comes from the first by writing a field of an object: the field reads as the value
and all others as before. A new name comes after all others, so no name stands twice. -/
structure FieldWritten (a : Address) (key : String) (v : Value) : Prop where
  reads : (Run.readProperty (.object a) key).Gives t v t
  others : ∀ other, other ≠ key → ∃ w, (Run.readProperty (.object a) other).Gives s w s ∧
    (Run.readProperty (.object a) other).Gives t w t
  keys : t.keys (.object a) =
    if key ∈ s.keys (.object a) then s.keys (.object a) else s.keys (.object a) ++ [key]
  distinct : (s.keys (.object a)).Nodup → (t.keys (.object a)).Nodup
  frame : t = s.modifyObject a fun _ => t.fields a

/-- The second store comes from the first by writing a position of an array: the array reaches up to the
position, and what is new before the position is undefined. -/
structure PositionWritten (a : Address) (i : Nat) (v : Value) : Prop where
  reads : (Run.readProperty (.array a) (toString i)).Gives t v t
  size : (t.elements a).size = max (s.elements a).size (i + 1)
  earlier : ∀ j < (s.elements a).size, j ≠ i → (t.elements a)[j]? = (s.elements a)[j]?
  between : ∀ j < i, (s.elements a).size ≤ j → (t.elements a)[j]? = some .undefined
  frame : t = s.modifyArray a fun _ => t.elements a

/-- The second store comes from the first by writing the length of an array, which is cut or filled up
with undefined. -/
structure LengthWritten (a : Address) (n : Nat) : Prop where
  reads : (Run.readProperty (.array a) "length").Gives t (.number (Decimal.ofNat n)) t
  size : (t.elements a).size = n
  kept : ∀ j < n, j < (s.elements a).size → (t.elements a)[j]? = (s.elements a)[j]?
  filled : ∀ j < n, (s.elements a).size ≤ j → (t.elements a)[j]? = some .undefined
  frame : t = s.modifyArray a fun _ => t.elements a

/-- What a write that succeeds does to the store, by what is written. -/
inductive Written : Value → String → Value → Prop
  | field {a : Address} {key : String} {v : Value} (h : s.FieldWritten t a key v) :
      Written (.object a) key v
  | position {a : Address} {i : Nat} {v : Value} (hi : i < 2 ^ 64)
      (hroom : i < (s.elements a).size ∨ i < arrayLimit) (h : s.PositionWritten t a i v) : Written (.array a) (toString i) v
  | length {a : Address} {n : Nat} {v : Value} (hn : Decimal.exactInt? (s.number v) = some (n : Int))
      (hle : n ≤ arrayLimit) (h : s.LengthWritten t a n) : Written (.array a) "length" v
  | ignored {a : Address} {key : String} {v : Value} (hlength : key ≠ "length")
      (hindex : ∀ i < 2 ^ 64, key ≠ toString i) (h : t = s) : Written (.array a) key v

/-- A write that fails: past the end of an array at a position too far out, or of a length that is no
whole number or out of range. -/
inductive Refuses : Value → String → Value → Prop
  | position {a : Address} {i : Nat} {v : Value} (hi : i < 2 ^ 64) (hend : (s.elements a).size ≤ i)
      (hfar : arrayLimit ≤ i) : Refuses (.array a) (toString i) v
  | length {a : Address} {v : Value}
      (h : ∀ n : Nat, Decimal.exactInt? (s.number v) = some (n : Int) → arrayLimit < n) :
      Refuses (.array a) "length" v

variable {s t} {a : Address}

/-- A change of what stands at an address puts there what the change makes of it. -/
theorem modify_const {α : Type} (xs : Array α) (i : Nat) (f : α → α) (missing : α) :
    xs.modify i (fun _ => f (xs[i]?.getD missing)) = xs.modify i f := by
  refine Array.ext_getElem? fun j => ?_
  rw [Array.getElem?_modify, Array.getElem?_modify]
  split
  · rename_i hij
    subst hij
    cases xs[i]? <;> rfl
  · rfl

theorem modifyArray_eq (ha : a < s.arrays.size) (f : Array Value → Array Value) :
    s.modifyArray a f = s.modifyArray a fun _ => (s.modifyArray a f).elements a := by
  rw [elements_modifyArray, if_pos ⟨rfl, ha⟩]
  exact congrArg (Store.mk · _ _ _ _) (modify_const s.arrays a f #[]).symm

theorem modifyObject_eq (ha : a < s.objects.size) (f : Fields Value → Fields Value) :
    s.modifyObject a f = s.modifyObject a fun _ => (s.modifyObject a f).fields a := by
  rw [fields_modifyObject, if_pos ⟨rfl, ha⟩]
  exact congrArg (Store.mk _ · _ _ _) (modify_const s.objects a f []).symm

theorem read_field (s : Store) (a : Address) (key : String) :
    (Run.readProperty (.object a) key).Gives s (((s.fields a).get? key).getD .undefined) s := .read _

theorem read_length (s : Store) (a : Address) : (Run.readProperty (.array a) "length").Gives s
    (.number (Decimal.ofNat (s.elements a).size)) s := .read _

theorem toString_ne_length (i : Nat) : toString i ≠ "length" := by
  intro h
  have hdigits := (isIndexText_toDigits i).2.1
  rw [← String.toList_ofList (l := Nat.toDigits 10 i), ← Nat.toString_eq_ofList_toDigits, h] at hdigits
  exact absurd (hdigits 'l' (by decide)) (by decide)

theorem read_position (s : Store) (a : Address) {i : Nat} (hi : i < 2 ^ 64) :
    (Run.readProperty (.array a) (toString i)).Gives s ((s.elements a)[i]?.getD .undefined) s := by
  unfold Run.readProperty
  simp only [if_neg (toString_ne_length i), arrayIndex?_eq_some_iff.mpr ⟨hi, rfl⟩]
  exact .read _

theorem fieldWritten (ha : a < s.objects.size) (key : String) (v : Value) :
    s.FieldWritten (s.modifyObject a (·.set key v)) a key v := by
  have hfields : (s.modifyObject a (·.set key v)).fields a = (s.fields a).set key v := by
    rw [fields_modifyObject, if_pos ⟨rfl, ha⟩]
  have hkeys : (s.modifyObject a (·.set key v)).keys (.object a) =
      if key ∈ s.keys (.object a) then s.keys (.object a) else s.keys (.object a) ++ [key] := by
    rw [keys, hfields, Fields.names_set]
    rfl
  refine ⟨?_, fun other hne => ⟨_, read_field s a other, ?_⟩, hkeys, fun hnodup => ?_,
    modifyObject_eq ha _⟩
  · have h := read_field (s.modifyObject a (·.set key v)) a key
    rwa [hfields, Fields.get?_set, if_pos rfl, Option.getD_some] at h
  · have h := read_field (s.modifyObject a (·.set key v)) a other
    rwa [hfields, Fields.get?_set, if_neg hne] at h
  · rw [hkeys]
    split
    · exact hnodup
    · rename_i hnew
      exact List.concat_eq_append ▸ hnodup.concat hnew

theorem positionWritten (ha : a < s.arrays.size) {i : Nat} (hi : i < 2 ^ 64) (v : Value) :
    s.PositionWritten (s.modifyArray a (putAt · i v)) a i v := by
  have helements : (s.modifyArray a (putAt · i v)).elements a = putAt (s.elements a) i v := by
    rw [elements_modifyArray, if_pos ⟨rfl, ha⟩]
  refine ⟨?_, ?_, fun j hj hne => ?_, fun j hj hend => ?_, modifyArray_eq ha _⟩
  · have h := read_position (s.modifyArray a (putAt · i v)) a hi
    rwa [helements, getElem?_putAt_self, Option.getD_some] at h
  · rw [helements, size_putAt]
  · rw [helements, getElem?_putAt_of_ne _ _ _ _ hne, if_pos hj]
  · rw [helements, getElem?_putAt_of_ne _ _ _ _ (Nat.ne_of_lt hj), if_neg (Nat.not_lt.mpr hend),
      if_pos hj]

theorem lengthWritten (ha : a < s.arrays.size) (n : Nat) :
    s.LengthWritten (s.modifyArray a (resize · n)) a n := by
  have helements : (s.modifyArray a (resize · n)).elements a = resize (s.elements a) n := by
    rw [elements_modifyArray, if_pos ⟨rfl, ha⟩]
  refine ⟨?_, ?_, fun j hj hold => ?_, fun j hj hend => ?_, modifyArray_eq ha _⟩
  · have h := read_length (s.modifyArray a (resize · n)) a
    rwa [helements, size_resize] at h
  · rw [helements, size_resize]
  · rw [helements, getElem?_resize, if_pos hj, if_pos hold]
  · rw [helements, getElem?_resize, if_pos hj, if_neg (Nat.not_lt.mpr hend)]

end Store

namespace Run

variable {s t : Store} {a : Address} {key : String} {v : Value} {result : Except Halt Unit}

/-- How a write to an array or an object ends. -/
def WriteEnds (s : Store) (owner : Value) (key : String) (v : Value) :
    Except Halt Unit → Store → Prop
  | .ok (), t => s.Written t owner key v
  | .error halt, t => halt = .failed .arrayLength ∧ s.Refuses owner key v ∧ t = s

theorem writeLength_ends (ha : a < s.arrays.size)
    (hrun : (writeLength a v).run.run s = (result, t)) : WriteEnds s (.array a) "length" v result t := by
  unfold writeLength at hrun
  rw [run_read] at hrun
  split at hrun
  · rename_i n hn
    split at hrun
    · rename_i hrange
      cases hrun
      refine ⟨rfl, .length fun m hm => ?_, rfl⟩
      rw [hn] at hm
      obtain rfl := Option.some.inj hm
      omega
    · rename_i hrange
      obtain ⟨m, rfl⟩ := Int.eq_ofNat_of_zero_le (a := n) (by omega)
      cases hrun
      exact Store.Written.length hn (by omega) (Store.lengthWritten ha m)
  · cases hrun
    rename_i hn
    refine ⟨rfl, .length fun m hm => ?_, rfl⟩
    rw [hn] at hm
    cases hm

theorem writeElement_ends (ha : a < s.arrays.size) {i : Nat} (hi : i < 2 ^ 64)
    (hrun : (writeElement a i v).run.run s = (result, t)) :
    WriteEnds s (.array a) (toString i) v result t := by
  unfold writeElement at hrun
  rw [run_read] at hrun
  split at hrun
  · rename_i hfar
    cases hrun
    exact ⟨rfl, .position hi hfar.1 hfar.2, rfl⟩
  · rename_i hroom
    cases hrun
    exact Store.Written.position hi (by omega) (Store.positionWritten ha hi v)

theorem writeProperty_ends {owner : Value} (howner : s.Holds owner)
    (hrun : (writeProperty owner key v).run.run s = (result, t)) :
    WriteEnds s owner key v result t := by
  cases howner with
  | object ha =>
    cases hrun
    exact Store.Written.field (Store.fieldWritten ha key v)
  | array ha =>
    unfold writeProperty at hrun
    simp only at hrun
    split at hrun
    · rename_i hlength
      subst hlength
      exact writeLength_ends ha hrun
    · rename_i hlength
      cases hindex : arrayIndex? key with
      | some i =>
        obtain ⟨hi, rfl⟩ := arrayIndex?_eq_some_iff.mp hindex
        rw [hindex] at hrun
        exact writeElement_ends ha hi hrun
      | none =>
        rw [hindex] at hrun
        cases hrun
        refine Store.Written.ignored hlength (fun i hi heq => ?_) rfl
        rw [arrayIndex?_eq_some_iff.mpr ⟨hi, heq⟩] at hindex
        cases hindex

/-- Writing a property of an array or an object. The write fails only for a position or a length that
is out of range, and then nothing has changed; otherwise the property reads as the value, and the rest
is as it was, apart from the end of an array. Positions are the numbers that keys spell. -/
theorem writeProperty_laws {owner : Value} (howner : s.Holds owner)
    (hrun : (writeProperty owner key v).run.run s = (result, t)) :
    (∀ i, arrayIndex? key = some i ↔ i < 2 ^ 64 ∧ key = toString i) ∧
    WriteEnds s owner key v result t ∧
    ∀ a, (readProperty (.array a) "length").Gives t (.number (Decimal.ofNat (t.elements a).size)) t ∧
      ∀ i < 2 ^ 64,
        (readProperty (.array a) (toString i)).Gives t ((t.elements a)[i]?.getD .undefined) t :=
  ⟨fun _ => arrayIndex?_eq_some_iff, writeProperty_ends howner hrun,
    fun a => ⟨t.read_length a, fun _ hi => t.read_position a hi⟩⟩

/-- A write beyond the end of an array. -/
theorem writeProperty_laws_beyond_end :
    let s : Store := ⟨#[#[.null]], #[], #[], #[], #[]⟩
    let t : Store := ⟨#[#[.null, .undefined, .undefined, .boolean true]], #[], #[], #[], #[]⟩
    s.Holds (.array 0) ∧ (writeProperty (.array 0) "3" (.boolean true)).run.run s = (.ok (), t) ∧
      s.Written t (.array 0) "3" (.boolean true) ∧
      (readProperty (.array 0) "2").Gives t .undefined t := by
  intro s t
  have howner : s.Holds (.array 0) := .array (by decide)
  have hrun : (writeProperty (.array 0) "3" (.boolean true)).run.run s = (.ok (), t) := rfl
  obtain ⟨-, hends, hreads⟩ := writeProperty_laws howner hrun
  exact ⟨howner, hrun, hends, (hreads 0).2 2 (by decide)⟩

end Run

namespace Store

variable {s t u : Store}

/-- What no write takes back: containers stay, the names of an object only get more at the end and
never stand twice, and no array grows beyond the limit. -/
structure Outlasts (s t : Store) : Prop where
  holds : ∀ v, s.Holds v → t.Holds v
  keys : ∀ a, s.keys (.object a) <+: t.keys (.object a)
  distinct : ∀ a, (s.keys (.object a)).Nodup → (t.keys (.object a)).Nodup
  sizes : ∀ a, (t.elements a).size ≤ max (s.elements a).size arrayLimit

namespace Outlasts

theorem refl (s : Store) : s.Outlasts s :=
  ⟨fun _ => id, fun _ => List.prefix_rfl, fun _ => id, fun _ => Nat.le_max_left _ _⟩

theorem trans (h : s.Outlasts t) (h' : t.Outlasts u) : s.Outlasts u where
  holds v hv := h'.holds v (h.holds v hv)
  keys a := (h.keys a).trans (h'.keys a)
  distinct a ha := h'.distinct a (h.distinct a ha)
  sizes a := by
    have := h.sizes a
    have := h'.sizes a
    omega

/-- A change of the elements of one array. -/
theorem of_elements {a : Address} (hframe : t = s.modifyArray a fun _ => t.elements a)
    (hsize : (t.elements a).size ≤ max (s.elements a).size arrayLimit) : s.Outlasts t where
  holds v hv := by
    rw [hframe]
    cases hv with
    | array h => exact .array (by rwa [modifyArray, Array.size_modify])
    | object h => exact .object h
  keys b := by rw [hframe]; exact List.prefix_rfl
  distinct b := by rw [hframe]; exact id
  sizes b := by
    by_cases hab : a = b
    · exact hab ▸ hsize
    · rw [hframe, elements_modifyArray, if_neg fun h => hab h.1]
      exact Nat.le_max_left _ _

theorem of_fieldWritten {a : Address} {key : String} {v : Value} (h : s.FieldWritten t a key v) :
    s.Outlasts t where
  holds v hv := by
    rw [h.frame]
    cases hv with
    | array h => exact .array h
    | object h => exact .object (by rwa [modifyObject, Array.size_modify])
  keys b := by
    by_cases hab : a = b
    · subst hab
      rw [h.keys]
      split
      · exact List.prefix_rfl
      · exact List.prefix_append _ _
    · rw [h.frame]
      simp only [Store.keys, fields_modifyObject, if_neg fun h : a = b ∧ _ => hab h.1]
      exact List.prefix_rfl
  distinct b := by
    by_cases hab : a = b
    · exact hab ▸ h.distinct
    · rw [h.frame]
      simp only [Store.keys, fields_modifyObject, if_neg fun h : a = b ∧ _ => hab h.1]
      exact id
  sizes b := by rw [h.frame]; exact Nat.le_max_left _ _

theorem of_written {owner : Value} {key : String} {v : Value} (h : s.Written t owner key v) :
    s.Outlasts t := by
  cases h with
  | field h => exact of_fieldWritten h
  | position hi hroom h => exact of_elements h.frame (by rw [h.size]; omega)
  | length hn hle h => exact of_elements h.frame (by rw [h.size]; omega)
  | ignored _ _ h => exact h ▸ refl s

/-- One write, whether it fails or not. -/
theorem of_writeProperty {owner : Value} {key : String} {v : Value} {result : Except Halt Unit}
    (howner : s.Holds owner) (hrun : (Run.writeProperty owner key v).run.run s = (result, t)) :
    s.Outlasts t := by
  have hends := Run.writeProperty_ends howner hrun
  cases result with
  | ok => exact of_written hends
  | error halt => exact hends.2.2 ▸ refl s

end Outlasts

/-- Writes to arrays and objects one after the other, of which some may fail. -/
inductive WriteSequence : Store → Store → Prop
  | none (s : Store) : WriteSequence s s
  | write {s t u : Store} {owner : Value} {key : String} {v : Value} {result : Except Halt Unit}
      (howner : s.Holds owner) (hrun : (Run.writeProperty owner key v).run.run s = (result, t))
      (h : WriteSequence t u) : WriteSequence s u

theorem WriteSequence.outlasts (h : WriteSequence s t) : s.Outlasts t := by
  induction h with
  | none s => exact .refl s
  | write howner hrun _ ih => exact (Outlasts.of_writeProperty howner hrun).trans ih

end Store

end Microtemplate.Script
