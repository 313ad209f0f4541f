import Microtemplate.Proofs.Json.Proper
import Microtemplate.Proofs.Json.Reading
import Microtemplate.Proofs.Script.JsonText

/-!
The JSON text of JSON data. Data in a store is written as a text that is read as the data again,
indented or not: the names of objects keep their order, and numbers are the same doubles.
-/

namespace Microtemplate

namespace Json

/-- A value is the same as another one, with the same order of names, where numbers are the same
doubles and zero has lost its sign. -/
inductive Alike : Json → Json → Prop
  | null : Alike .null .null
  | boolean (b : Bool) : Alike (.boolean b) (.boolean b)
  | string (s : String) : Alike (.string s) (.string s)
  | number {m n : JsonNumber} (h : m.toFloat = Reader.unsignedZero n.toFloat) :
      Alike (.number m) (.number n)
  | array {items items' : List Json} (h : List.Forall₂ Alike items items') :
      Alike (.array items) (.array items')
  | object {fields fields' : List (String × Json)}
      (hnames : fields.map Prod.fst = fields'.map Prod.fst)
      (h : List.Forall₂ Alike (fields.map Prod.snd) (fields'.map Prod.snd)) :
      Alike (.object fields) (.object fields')

/-- A text that is read as a value, but for the sign of zeros. -/
def Writes (text : List Char) (j : Json) : Prop := ∃ j' : Json, IsTextOf text j' ∧ Alike j' j

end Json

namespace Script

open Json.Reader

namespace Indentation

theorem blank_line {i : Indentation} (hi : Blank i.unit.toList) (levels : Nat) :
    Blank (i.line levels).toList := by
  have hunits : Blank (String.join (List.replicate levels i.unit)).toList := by
    induction levels with
    | zero => exact blank_nil
    | succ levels ih =>
      intro c hc
      rw [List.replicate_succ, String.join_cons, String.toList_append] at hc
      exact (List.mem_append.mp hc).elim (hi c) (ih c)
  intro c hc
  rw [line, String.toList_append] at hc
  exact (List.mem_append.mp hc).elim (fun hc => Or.inr (List.mem_singleton.mp hc)) (hunits c)

/-- The parts of a container with what stands around them. -/
theorem toList_wrap {i : Indentation} (hi : Blank i.unit.toList) (opening closing : String)
    (levels : Nat) {parts : List String} (hne : parts ≠ []) :
    ∃ b b', Blank b ∧ Blank b' ∧ (i.wrap opening closing levels parts).toList = opening.toList ++
      (b ++ ((',' :: b).intercalate (parts.map String.toList) ++ (b' ++ closing.toList))) := by
  rw [wrap, if_neg (by simpa using hne)]
  split
  · refine ⟨[], [], blank_nil, blank_nil, ?_⟩
    simp
  · refine ⟨_, _, blank_line hi (levels + 1), blank_line hi levels, ?_⟩
    simp

theorem toList_colon (i : Indentation) :
    ∃ b, Blank b ∧ i.colon.toList = ':' :: b := by
  rw [colon]
  split
  · exact ⟨[], blank_nil, rfl⟩
  · exact ⟨[' '], by simp [Blank], rfl⟩

/-- The texts of items in brackets are a text of their array. -/
theorem isTextOf_array {i : Indentation} (hi : Blank i.unit.toList) (levels : Nat)
    {texts : List String} {items : List Json}
    (h : List.Forall₂ Json.IsTextOf (texts.map String.toList) items) :
    Json.IsTextOf (i.wrap "[" "]" levels texts).toList (.array items) := by
  by_cases hne : texts = []
  · subst hne
    cases h
    have hempty : (i.wrap "[" "]" levels []).toList = ['[', ']'] := by simp [wrap]
    rw [hempty]
    exact Json.IsTextOf.array_nil
  · obtain ⟨b, b', hb, hb', htext⟩ := toList_wrap hi "[" "]" levels hne
    rw [htext]
    exact .array hb hb' h fun hnil => hne (List.map_eq_nil_iff.mp hnil)

/-- Names and the texts of their values in braces are a text of their object. -/
theorem isTextOf_object {i : Indentation} (hi : Blank i.unit.toList) (levels : Nat)
    {texts : List (String × String)} {fields : List (String × Json)}
    (h : List.Forall₂ (fun p q => p.1 = q.1 ∧ Json.IsTextOf p.2.toList q.2) texts fields)
    (hnames : (fields.map Prod.fst).Nodup) :
    Json.IsTextOf (i.wrap "\x7b" "\x7d" levels
      (texts.map fun p => quoted p.1 ++ i.colon ++ p.2)).toList (.object fields) := by
  by_cases hne : texts = []
  · subst hne
    cases h
    have hempty : (i.wrap "\x7b" "\x7d" levels []).toList = ['\x7b', '\x7d'] := by
      simp [wrap]
    rw [List.map_nil, hempty]
    exact Json.IsTextOf.object_nil
  · have hparts : texts.map (fun p => quoted p.1 ++ i.colon ++ p.2) ≠ [] :=
      fun hnil => hne (List.map_eq_nil_iff.mp hnil)
    obtain ⟨b, b', hb, hb', htext⟩ := toList_wrap hi "\x7b" "\x7d" levels hparts
    obtain ⟨colon, hcolon, hcolontext⟩ := toList_colon i
    have hwritten : (texts.map fun p => quoted p.1 ++ i.colon ++ p.2).map String.toList =
        (texts.map fun p => (p.1, p.2.toList)).map fun p =>
          Json.quote p.1.toList ++ ':' :: (colon ++ p.2) := by
      simp [quoted, hcolontext]
    rw [htext, hwritten]
    refine .object hb hb' hcolon ?_ hnames fun hnil => hne (List.map_eq_nil_iff.mp hnil)
    rw [List.forall₂_map_left_iff]
    exact h

end Indentation

/-- The containers of a store are in another one, as they were. -/
structure Store.Keeps (s t : Store) : Prop where
  arrays : s.arrays.size ≤ t.arrays.size
  elements : ∀ a, a < s.arrays.size → t.elements a = s.elements a
  objects : s.objects.size ≤ t.objects.size
  fields : ∀ a, a < s.objects.size → t.fields a = s.fields a

namespace Store.Keeps

variable {s t u : Store}

theorem trans (h : s.Keeps t) (h' : t.Keeps u) : s.Keeps u where
  arrays := Nat.le_trans h.arrays h'.arrays
  elements a ha := by rw [h'.elements a (Nat.lt_of_lt_of_le ha h.arrays), h.elements a ha]
  objects := Nat.le_trans h.objects h'.objects
  fields a ha := by rw [h'.fields a (Nat.lt_of_lt_of_le ha h.objects), h.fields a ha]

theorem of_grown (h : s.Grown t) : s.Keeps t := ⟨h.arrays, h.elements, h.objects, h.fields⟩

end Store.Keeps

/-- No container of a store is among those that are being written. -/
def Store.Outside (s : Store) (writing : List Value) : Prop :=
  (∀ a, .array a ∈ writing → s.arrays.size ≤ a) ∧ ∀ a, .object a ∈ writing → s.objects.size ≤ a

/-- The JSON text of a value is a text of JSON data, in a store and in all that keep its containers.
There are as many levels of containers as containers at most. -/
def Writes (s : Store) (v : Value) (j : Json) : Prop :=
  ∀ t : Store, s.Keeps t → ∀ i : Indentation, Blank i.unit.toList → ∀ more writing,
    s.containerCount ≤ more → s.Outside writing →
    ∃ text, t.jsonWithin i more writing v = .ok (some text) ∧ Json.Writes text.toList j

theorem Writes.kept {s t : Store} {v : Value} {j : Json} (h : Writes s v j) (hkeeps : s.Keeps t) :
    Writes t v j := by
  intro u htu i hi more writing hmore hwriting
  refine h u (hkeeps.trans htu) i hi more writing (Nat.le_trans ?_ hmore)
    ⟨fun a ha => Nat.le_trans hkeeps.arrays (hwriting.1 a ha),
      fun a ha => Nat.le_trans hkeeps.objects (hwriting.2 a ha)⟩
  exact Nat.add_le_add hkeeps.arrays hkeeps.objects

theorem mapM_ok {ε α β : Type} {f : α → Except ε β} {as : List α} {bs : List β}
    (h : List.Forall₂ (fun a b => f a = .ok b) as bs) : as.mapM f = .ok bs := by
  induction h with
  | nil => rfl
  | cons hfirst _ ih =>
    rw [List.mapM_cons, hfirst, ih]
    rfl

/-- An array is written once its elements are. -/
theorem Store.jsonWithin_array {s : Store} {i : Indentation} {more : Nat} {writing : List Value}
    {a : Address} (hnot : .array a ∉ writing) {texts : List String}
    (h : List.Forall₂ (fun v text => s.jsonWithin i more (.array a :: writing) v = .ok (some text))
      (s.elements a).toList texts) :
    s.jsonWithin i (more + 1) writing (.array a) =
      .ok (some (i.wrap "[" "]" writing.length texts)) := by
  have hparts : List.Forall₂ (fun v part =>
      (do return (← s.jsonWithin i more (.array a :: writing) v).getD "null") = Except.ok part)
        (s.elements a).toList texts := by
    refine h.imp fun v text htext => ?_
    rw [htext]
    rfl
  rw [jsonWithin, if_neg hnot]
  exact congrArg (fun r => Except.bind r _) (mapM_ok hparts)

/-- An object is written once the values of its fields are. -/
theorem Store.jsonWithin_object {s : Store} {i : Indentation} {more : Nat} {writing : List Value}
    {a : Address} (hnot : .object a ∉ writing) {texts : List (String × String)}
    (h : List.Forall₂ (fun p q => p.1 = q.1 ∧
      s.jsonWithin i more (.object a :: writing) p.2 = .ok (some q.2)) (s.fields a) texts) :
    s.jsonWithin i (more + 1) writing (.object a) = .ok (some (i.wrap "\x7b" "\x7d" writing.length
      (texts.map fun p => quoted p.1 ++ i.colon ++ p.2))) := by
  have hparts : List.Forall₂ (fun p part =>
      (do return (← s.jsonWithin i more (.object a :: writing) p.2).map fun text =>
        quoted p.1 ++ i.colon ++ text) = Except.ok part) (s.fields a)
        (texts.map fun p => some (quoted p.1 ++ i.colon ++ p.2)) := by
    rw [List.forall₂_map_right_iff]
    refine h.imp fun p q hpq => ?_
    rw [hpq.1, hpq.2]
    rfl
  have hsome : (texts.map fun p => some (quoted p.1 ++ i.colon ++ p.2)).filterMap id =
      texts.map fun p => quoted p.1 ++ i.colon ++ p.2 := by
    rw [List.filterMap_map]
    exact congrFun List.filterMap_eq_map' texts
  rw [jsonWithin, if_neg hnot]
  refine (congrArg (fun r => Except.bind r _) (mapM_ok hparts)).trans ?_
  exact congrArg (fun parts => Except.ok (some (i.wrap "\x7b" "\x7d" writing.length parts))) hsome

theorem writes_scalar {s : Store} {v : Value} {j : Json} {text : String}
    (hv : ∀ (t : Store) i more writing, t.jsonWithin i more writing v = .ok (some text))
    (hj : Json.Writes text.toList j) : Writes s v j :=
  fun t _ i _ more writing _ _ => ⟨text, hv t i more writing, hj⟩

theorem writes_number {s : Store} {n : JsonNumber} {negative : Bool} {m : Nat} {e : Int}
    (h : Decimal.Binary.ofFloat n.toFloat = .finite negative m e) :
    Writes s (.number n.toFloat) (.number n) := by
  obtain ⟨n', hn', htext⟩ := Json.IsTextOf.number h
  refine writes_scalar (fun t i more writing => ?_) ⟨.number n', htext, .number hn'⟩
  cases more <;> simp only [Store.jsonWithin, h]

/-- Each of some values is written. -/
theorem Writes.all {s t : Store} {values : List Value} {items : List Json}
    (h : List.Forall₂ (Writes s) values items) (hkeeps : s.Keeps t) {i : Indentation}
    (hi : Blank i.unit.toList) {more : Nat} {writing : List Value} (hmore : s.containerCount ≤ more)
    (hwriting : s.Outside writing) :
    ∃ (texts : List String) (items' : List Json),
      List.Forall₂ (fun v text => t.jsonWithin i more writing v = .ok (some text)) values texts ∧
      List.Forall₂ Json.IsTextOf (texts.map String.toList) items' ∧
      List.Forall₂ Json.Alike items' items := by
  induction h with
  | nil => exact ⟨[], [], .nil, .nil, .nil⟩
  | cons hfirst _ ih =>
    obtain ⟨text, htext, j', hj', halike⟩ := hfirst t hkeeps i hi more writing hmore hwriting
    obtain ⟨texts, items', htexts, hitems', hall⟩ := ih
    exact ⟨text :: texts, j' :: items', .cons htext htexts, .cons hj' hitems', .cons halike hall⟩

/-- Each of the values of some fields is written. -/
theorem Writes.allFields {s t : Store} {values : Fields Value} {fields : List (String × Json)}
    (h : List.Forall₂ (fun p q => p.1 = q.1 ∧ Writes s p.2 q.2) values fields) (hkeeps : s.Keeps t)
    {i : Indentation} (hi : Blank i.unit.toList) {more : Nat} {writing : List Value}
    (hmore : s.containerCount ≤ more) (hwriting : s.Outside writing) :
    ∃ (texts : List (String × String)) (fields' : List (String × Json)),
      List.Forall₂ (fun p q => p.1 = q.1 ∧ t.jsonWithin i more writing p.2 = .ok (some q.2))
        values texts ∧
      List.Forall₂ (fun p q => p.1 = q.1 ∧ Json.IsTextOf p.2.toList q.2) texts fields' ∧
      fields'.map Prod.fst = fields.map Prod.fst ∧
      List.Forall₂ Json.Alike (fields'.map Prod.snd) (fields.map Prod.snd) := by
  induction h with
  | nil => exact ⟨[], [], .nil, .nil, rfl, .nil⟩
  | @cons p q _ _ hfirst _ ih =>
    obtain ⟨text, htext, j', hj', halike⟩ := hfirst.2 t hkeeps i hi more writing hmore hwriting
    obtain ⟨texts, fields', htexts, hfields', hnames, hall⟩ := ih
    exact ⟨(q.1, text) :: texts, (q.1, j') :: fields', .cons ⟨hfirst.1, htext⟩ htexts,
      .cons ⟨rfl, hj'⟩ hfields', congrArg (q.1 :: ·) hnames, .cons halike hall⟩

/-- Inside a container that comes after all of a store, its containers are still outside. -/
theorem Store.Outside.cons {s t : Store} {writing : List Value} (h : t.Outside writing)
    (hkeeps : s.Keeps t) {v : Value} (harray : ∀ a, v = .array a → s.arrays.size ≤ a)
    (hobject : ∀ a, v = .object a → s.objects.size ≤ a) : s.Outside (v :: writing) := by
  refine ⟨fun a ha => ?_, fun a ha => ?_⟩
  · rcases List.mem_cons.mp ha with heq | ha
    · exact harray a heq.symm
    · exact Nat.le_trans hkeeps.arrays (h.1 a ha)
  · rcases List.mem_cons.mp ha with heq | ha
    · exact hobject a heq.symm
    · exact Nat.le_trans hkeeps.objects (h.2 a ha)

/-- An array of values that are written is written. -/
theorem writes_addArray {s : Store} {values : List Value} {items : List Json}
    (h : List.Forall₂ (Writes s) values items) :
    Writes (s.addArray values.toArray).2 (s.addArray values.toArray).1 (.array items) := by
  intro t hkeeps i hi more writing hmore hwriting
  have hgrown := Store.Keeps.of_grown (.addArray s values.toArray)
  have hnew : s.arrays.size < (s.addArray values.toArray).2.arrays.size := by simp [Store.addArray]
  have hcount : (s.addArray values.toArray).2.containerCount = s.containerCount + 1 := by
    simp only [Store.containerCount, Store.addArray, Array.size_push]
    omega
  obtain ⟨more, rfl⟩ : ∃ n, more = n + 1 := ⟨more - 1, by omega⟩
  have hless : s.containerCount ≤ more := by omega
  have hnot : Value.array s.arrays.size ∉ writing := fun hmem =>
    Nat.lt_irrefl _ (Nat.lt_of_lt_of_le hnew (hwriting.1 _ hmem))
  have houtside : s.Outside (.array s.arrays.size :: writing) :=
    hwriting.cons hgrown (fun a ha => by cases ha; exact Nat.le_refl _) fun a ha => by cases ha
  obtain ⟨texts, items', htexts, hitems', halike⟩ :=
    Writes.all h (hgrown.trans hkeeps) hi hless houtside
  have helements : (t.elements s.arrays.size).toList = values := by
    rw [hkeeps.elements _ hnew, elements_addArray, List.toList_toArray]
  refine ⟨i.wrap "[" "]" writing.length texts, ?_, .array items',
    Indentation.isTextOf_array hi _ hitems', .array halike⟩
  exact Store.jsonWithin_array hnot (helements ▸ htexts)

/-- An object with values that are written is written. -/
theorem writes_addObject {s : Store} {values : Fields Value} {fields : List (String × Json)}
    (h : List.Forall₂ (fun p q => p.1 = q.1 ∧ Writes s p.2 q.2) values fields)
    (hnames : (fields.map Prod.fst).Nodup) :
    Writes (s.addObject values).2 (s.addObject values).1 (.object fields) := by
  intro t hkeeps i hi more writing hmore hwriting
  have hgrown := Store.Keeps.of_grown (.addObject s values)
  have hnew : s.objects.size < (s.addObject values).2.objects.size := by simp [Store.addObject]
  have hcount : (s.addObject values).2.containerCount = s.containerCount + 1 := by
    simp only [Store.containerCount, Store.addObject, Array.size_push]
    omega
  obtain ⟨more, rfl⟩ : ∃ n, more = n + 1 := ⟨more - 1, by omega⟩
  have hless : s.containerCount ≤ more := by omega
  have hnot : Value.object s.objects.size ∉ writing := fun hmem =>
    Nat.lt_irrefl _ (Nat.lt_of_lt_of_le hnew (hwriting.2 _ hmem))
  have houtside : s.Outside (.object s.objects.size :: writing) :=
    hwriting.cons hgrown (fun a ha => by cases ha) fun a ha => by cases ha; exact Nat.le_refl _
  obtain ⟨texts, fields', htexts, hfields', hsame, halike⟩ :=
    Writes.allFields h (hgrown.trans hkeeps) hi hless houtside
  have hfields : t.fields s.objects.size = values := by
    rw [hkeeps.fields _ hnew, fields_addObject]
  have htext := Indentation.isTextOf_object hi writing.length hfields' (by rw [hsame]; exact hnames)
  have hwritten := Store.jsonWithin_object (i := i) hnot (by rw [hfields]; exact htexts)
  refine ⟨_, hwritten, .object fields', htext, ?_⟩
  exact .object hsame halike

mutual

/-- JSON data becomes a value that is written as a text of the data. -/
theorem addJson_writes : ∀ (j : Json) (s : Store), j.Proper →
    s.Grown (s.addJson j).2 ∧ Writes (s.addJson j).2 (s.addJson j).1 j
  | .null, s, _ => ⟨.refl s, writes_scalar (fun _ _ n _ => by cases n <;> rfl) ⟨_, .null, .null⟩⟩
  | .boolean b, s, _ =>
    ⟨.refl s, writes_scalar (fun _ _ n _ => by cases n <;> rfl)
      ⟨_, by cases b <;> exact .boolean _, .boolean b⟩⟩
  | .string t, s, _ =>
    ⟨.refl s, writes_scalar (fun _ _ n _ => by cases n <;> rfl)
      ⟨_, by rw [quoted, String.toList_ofList]; exact .string t, .string t⟩⟩
  | .number n, s, hproper => by
    cases hproper with
    | number h => exact ⟨.refl s, writes_number h⟩
  | .array items, s, hproper => by
    cases hproper with
    | array h =>
      obtain ⟨hgrown, hitems⟩ := addJsonItems_writes items s h
      exact ⟨hgrown.trans (.addArray _ _), writes_addArray hitems⟩
  | .object fields, s, hproper => by
    cases hproper with
    | object hnames h =>
      obtain ⟨hgrown, hfields⟩ := addJsonFields_writes fields s h
      exact ⟨hgrown.trans (.addObject _ _), writes_addObject hfields hnames⟩

theorem addJsonItems_writes : ∀ (items : List Json) (s : Store), (∀ j ∈ items, j.Proper) →
    s.Grown (Store.addJsonItems items s).2 ∧
      List.Forall₂ (Writes (Store.addJsonItems items s).2) (Store.addJsonItems items s).1 items
  | [], s, _ => ⟨.refl s, .nil⟩
  | j :: rest, s, h => by
    obtain ⟨hfirst, hj⟩ := addJson_writes j s (h j List.mem_cons_self)
    obtain ⟨hmore, hrest⟩ :=
      addJsonItems_writes rest (s.addJson j).2 fun i hi => h i (List.mem_cons_of_mem _ hi)
    exact ⟨hfirst.trans hmore, .cons (hj.kept (.of_grown hmore)) hrest⟩

theorem addJsonFields_writes : ∀ (fields : List (String × Json)) (s : Store),
    (∀ p ∈ fields, p.2.Proper) → s.Grown (Store.addJsonFields fields s).2 ∧
      List.Forall₂ (fun p q => p.1 = q.1 ∧ Writes (Store.addJsonFields fields s).2 p.2 q.2)
        (Store.addJsonFields fields s).1 fields
  | [], s, _ => ⟨.refl s, .nil⟩
  | (name, j) :: rest, s, h => by
    obtain ⟨hfirst, hj⟩ := addJson_writes j s (h (name, j) List.mem_cons_self)
    obtain ⟨hmore, hrest⟩ :=
      addJsonFields_writes rest (s.addJson j).2 fun p hp => h p (List.mem_cons_of_mem _ hp)
    exact ⟨hfirst.trans hmore, .cons ⟨rfl, hj.kept (.of_grown hmore)⟩ hrest⟩

end

end Script

end Microtemplate
