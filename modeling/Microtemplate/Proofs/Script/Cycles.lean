import Mathlib.Logic.Relation
import Microtemplate.Proofs.Script.Renaming

/-!
Containers that hold each other. Writing the JSON text of a value ends in every store: the containers that
are being written are different ones, so there is always room for the next. It ends with an error exactly
if a container can be reached that holds itself, directly or through others; otherwise the text is that of
the tree which the value unfolds to, in which a container is written wherever it is held.
-/

namespace Microtemplate.Script

section Parts

variable {ε α β : Type} {f : α → Except ε β}

theorem mapM_eq_map {g : α → β} {as : List α} (h : ∀ a ∈ as, f a = .ok (g a)) :
    as.mapM f = .ok (as.map g) := by
  induction as with
  | nil => rfl
  | cons a as ih =>
    obtain ⟨ha, has⟩ := List.forall_mem_cons.mp h
    rw [List.mapM_cons, ha, ih has]
    rfl

theorem mapM_eq_error {before after : List α} {a : α} {e : ε}
    (hbefore : ∀ b ∈ before, ∃ c, f b = .ok c) (ha : f a = .error e) :
    (before ++ a :: after).mapM f = .error e := by
  induction before with
  | nil =>
    rw [List.nil_append, List.mapM_cons, ha]
    rfl
  | cons b before ih =>
    obtain ⟨⟨c, hc⟩, hrest⟩ := List.forall_mem_cons.mp hbefore
    rw [List.cons_append, List.mapM_cons, hc, ih hrest]
    rfl

/-- Either there is a result for all of a list, or there is a first one without. -/
theorem forall_ok_or_first_error (f : α → Except ε β) (as : List α) :
    (∀ a ∈ as, ∃ b, f a = .ok b) ∨ ∃ before a after e, as = before ++ a :: after ∧
      (∀ b ∈ before, ∃ c, f b = .ok c) ∧ f a = .error e := by
  induction as with
  | nil => exact Or.inl fun a ha => absurd ha List.not_mem_nil
  | cons a as ih =>
    cases ha : f a with
    | error e => exact Or.inr ⟨[], a, as, e, rfl, by simp, ha⟩
    | ok c =>
      obtain hall | ⟨before, x, after, e, rfl, hbefore, hx⟩ := ih
      · exact Or.inl (List.forall_mem_cons.mpr ⟨⟨c, ha⟩, hall⟩)
      · exact Or.inr ⟨a :: before, x, after, e, rfl,
          List.forall_mem_cons.mpr ⟨⟨c, ha⟩, hbefore⟩, hx⟩

end Parts

/-- Arrays and objects. -/
def Value.isContainer : Value → Bool
  | .array _ | .object _ => true
  | _ => false

/-- The JSON text of a value that is no container; none if JSON cannot say it. -/
def Value.json? : Value → Option String
  | .null => some "null"
  | .boolean b => some (if b then "true" else "false")
  | .number x => some (match Decimal.Binary.ofFloat x with
    | .finite .. => Decimal.numberText x
    | _ => "null")
  | .string t => some (quoted t)
  | _ => none

namespace Store

/-- The values that a container holds, in order. -/
def parts (s : Store) : Value → List Value
  | .array a => (s.elements a).toList
  | .object a => (s.fields a).map (·.2)
  | _ => []

/-- A value holds another one as an element or in a field. -/
def Links (s : Store) (v w : Value) : Prop := w ∈ s.parts v

/-- A value holds itself, directly or through others. -/
def OnCycle (s : Store) (v : Value) : Prop := Relation.TransGen s.Links v v

/-- From a value one comes to a container that holds itself. -/
def ReachesCycle (s : Store) (v : Value) : Prop :=
  ∃ w, Relation.ReflTransGen s.Links v w ∧ s.OnCycle w

/-- The text of a container that is some levels deep, from the texts of what it holds. -/
def containerText (s : Store) (i : Indentation) (levels : Nat) (text : Value → Option String) :
    Value → String
  | .array a => i.wrap "[" "]" levels ((s.elements a).toList.map fun v => (text v).getD "null")
  | .object a => i.wrap "\x7b" "\x7d" levels ((s.fields a).filterMap fun p =>
      (text p.2).map fun t => quoted p.1 ++ i.colon ++ t)
  | _ => ""

/-- Writing a value inside the containers that are being written ends with a result. A container that is
being written is refused, and so is one that holds something that is refused, once all before it has been
written. -/
inductive Stringifies (s : Store) (i : Indentation) :
    List Value → Value → Except RenderError (Option String) → Prop
  | plain {writing : List Value} {v : Value} : v.isContainer = false →
      Stringifies s i writing v (.ok v.json?)
  | circular {writing : List Value} {v : Value} : v.isContainer = true → v ∈ writing →
      Stringifies s i writing v (.error .circular)
  | written {writing : List Value} {v : Value} {text : Value → Option String} :
      v.isContainer = true → v ∉ writing →
      (∀ w ∈ s.parts v, Stringifies s i (v :: writing) w (.ok (text w))) →
      Stringifies s i writing v (.ok (some (s.containerText i writing.length text v)))
  | refused {writing before after : List Value} {v w : Value} {text : Value → Option String}
      {e : RenderError} : v.isContainer = true → v ∉ writing →
      s.parts v = before ++ w :: after →
      (∀ u ∈ before, Stringifies s i (v :: writing) u (.ok (text u))) →
      Stringifies s i (v :: writing) w (.error e) → Stringifies s i writing v (.error e)

/-- The text of the tree that a value unfolds to: a container is written wherever it is held. -/
inductive Unfolds (s : Store) (i : Indentation) : Nat → Value → Option String → Prop
  | plain {levels : Nat} {v : Value} : v.isContainer = false → Unfolds s i levels v v.json?
  | container {levels : Nat} {v : Value} {text : Value → Option String} : v.isContainer = true →
      (∀ w ∈ s.parts v, Unfolds s i (levels + 1) w (text w)) →
      Unfolds s i levels v (some (s.containerText i levels text v))

variable {s : Store} {i : Indentation} {more : Nat} {writing : List Value} {v w : Value}

section Steps

theorem contains_of_links (h : s.Links v w) : s.Contains v := by
  cases v with
  | array a => exact lt_of_mem_elements (Array.mem_toList_iff.mp h)
  | object a =>
    obtain ⟨p, hp, -⟩ := List.mem_map.mp h
    exact lt_of_mem_fields hp
  | _ => cases h

theorem jsonWithin_plain (hv : v.isContainer = false) :
    s.jsonWithin i more writing v = .ok v.json? := by
  cases v with
  | array a => cases hv
  | object a => cases hv
  | _ => cases more <;> rfl

theorem jsonWithin_circular (hv : v.isContainer = true) (hmem : v ∈ writing) :
    s.jsonWithin i more writing v = .error .circular := by
  cases v with
  | array a =>
    cases more with
    | zero => rfl
    | succ more =>
      rw [jsonWithin, if_pos hmem]
      rfl
  | object a =>
    cases more with
    | zero => rfl
    | succ more =>
      rw [jsonWithin, if_pos hmem]
      rfl
  | _ => cases hv

theorem jsonWithin_written {text : Value → Option String} (hv : v.isContainer = true)
    (hnew : v ∉ writing)
    (h : ∀ w ∈ s.parts v, s.jsonWithin i more (v :: writing) w = .ok (text w)) :
    s.jsonWithin i (more + 1) writing v =
      .ok (some (s.containerText i writing.length text v)) := by
  cases v with
  | array a =>
    have hparts : ∀ w ∈ (s.elements a).toList, (do
        return (← s.jsonWithin i more (.array a :: writing) w).getD "null") =
        (Except.ok ((text w).getD "null") : Except RenderError String) := by
      intro w hw
      rw [h w hw]
      rfl
    rw [jsonWithin, if_neg hnew]
    exact congrArg (fun r => Except.bind r _) (mapM_eq_map hparts)
  | object a =>
    have hparts : ∀ p ∈ s.fields a, (do
        return (← s.jsonWithin i more (.object a :: writing) p.2).map fun t =>
          quoted p.1 ++ i.colon ++ t) =
        (Except.ok ((text p.2).map fun t => quoted p.1 ++ i.colon ++ t) :
          Except RenderError (Option String)) := by
      intro p hp
      rw [h p.2 (List.mem_map_of_mem hp)]
      rfl
    rw [jsonWithin, if_neg hnew]
    refine (congrArg (fun r => Except.bind r _) (mapM_eq_map hparts)).trans ?_
    change Except.ok (some (i.wrap _ _ _ (List.filterMap id (List.map _ _)))) = _
    rw [List.filterMap_map]
    rfl
  | _ => cases hv

theorem jsonWithin_refused {before after : List Value} {e : RenderError} (hv : v.isContainer = true)
    (hnew : v ∉ writing) (hparts : s.parts v = before ++ w :: after)
    (hbefore : ∀ u ∈ before, ∃ t, s.jsonWithin i more (v :: writing) u = .ok t)
    (hw : s.jsonWithin i more (v :: writing) w = .error e) :
    s.jsonWithin i (more + 1) writing v = .error e := by
  cases v with
  | array a =>
    change (s.elements a).toList = _ at hparts
    rw [jsonWithin, if_neg hnew, hparts]
    refine congrArg (fun r => Except.bind r _) (mapM_eq_error (fun u hu => ?_) ?_)
    · obtain ⟨t, ht⟩ := hbefore u hu
      exact ⟨t.getD "null", by rw [ht]; rfl⟩
    · rw [hw]
      rfl
  | object a =>
    obtain ⟨first, rest, hfields, rfl, hrest⟩ := List.map_eq_append_iff.mp hparts
    obtain ⟨p, more', rfl, rfl, rfl⟩ := List.map_eq_cons_iff.mp hrest
    rw [jsonWithin, if_neg hnew, hfields]
    refine congrArg (fun r => Except.bind r _) (mapM_eq_error (fun q hq => ?_) ?_)
    · obtain ⟨t, ht⟩ := hbefore q.2 (List.mem_map_of_mem hq)
      exact ⟨t.map fun t => quoted q.1 ++ i.colon ++ t, congrArg (fun r => Except.bind r _) ht⟩
    · exact congrArg (fun r => Except.bind r _) hw
  | _ => cases hv

end Steps

/-- Where there is room for all other containers, writing a value ends with the result that is computed. -/
theorem stringifies_jsonWithin (hroom : s.Room more writing) :
    s.Stringifies i writing v (s.jsonWithin i more writing v) := by
  induction more generalizing writing v with
  | zero => exact absurd hroom.pos (Nat.lt_irrefl 0)
  | succ more ih =>
    by_cases hv : v.isContainer = true
    · by_cases hmem : v ∈ writing
      · rw [jsonWithin_circular hv hmem]
        exact .circular hv hmem
      · have hparts : ∀ w ∈ s.parts v, s.Stringifies i (v :: writing) w
            (s.jsonWithin i more (v :: writing) w) := fun w hw =>
          ih (hroom.cons (contains_of_links hw) hmem)
        obtain hall | ⟨before, w, after, e, hsplit, hbefore, hw⟩ :=
          forall_ok_or_first_error (s.jsonWithin i more (v :: writing)) (s.parts v)
        · choose! text htext using hall
          rw [jsonWithin_written hv hmem htext]
          refine .written hv hmem fun w hw => ?_
          rw [← htext w hw]
          exact hparts w hw
        · rw [jsonWithin_refused hv hmem hsplit hbefore hw]
          choose! text htext using hbefore
          have hwritten : ∀ u ∈ before, s.Stringifies i (v :: writing) u (.ok (text u)) := by
            intro u hu
            rw [← htext u hu]
            exact hparts u (hsplit ▸ List.mem_append_left _ hu)
          have hrefused : s.Stringifies i (v :: writing) w (.error e) := by
            rw [← hw]
            exact hparts w (hsplit ▸ List.mem_append_right _ List.mem_cons_self)
          exact .refused hv hmem hsplit hwritten hrefused
    · have hplain : v.isContainer = false := by simpa using hv
      rw [jsonWithin_plain hplain]
      exact .plain hplain

namespace Stringifies

/-- What is refused holds itself, or something is refused that can be reached. -/
theorem reachesCycle {result : Except RenderError (Option String)} {e : RenderError}
    (h : s.Stringifies i writing v result) (hresult : result = .error e)
    (hpath : ∀ u ∈ writing, Relation.TransGen s.Links u v) : e = .circular ∧ s.ReachesCycle v := by
  induction h with
  | plain _ => cases hresult
  | circular _ hmem =>
    cases hresult
    exact ⟨rfl, _, .refl, hpath _ hmem⟩
  | written _ _ _ _ => cases hresult
  | @refused writing before after v w text e' hv hnew hparts _ _ _ ih =>
    cases hresult
    have hlink : s.Links v w := by
      unfold Links
      rw [hparts]
      exact List.mem_append_right _ List.mem_cons_self
    obtain ⟨he, x, hreach, hcycle⟩ := ih rfl (List.forall_mem_cons.mpr
      ⟨.single hlink, fun u hu => (hpath u hu).tail hlink⟩)
    exact ⟨he, x, .head hlink hreach, hcycle⟩

/-- What is written is written as the tree that it unfolds to. -/
theorem unfolds {result : Except RenderError (Option String)} {text : Option String}
    (h : s.Stringifies i writing v result) (hresult : result = .ok text) :
    s.Unfolds i writing.length v text := by
  induction h generalizing text with
  | plain hv =>
    cases hresult
    exact .plain hv
  | circular _ _ => cases hresult
  | written hv _ _ ih =>
    cases hresult
    exact .container hv fun w hw => ih w hw rfl
  | refused _ _ _ _ _ _ _ => cases hresult

end Stringifies

/-- From a cycle one does not come to an end. -/
theorem ReachesCycle.exists_part (h : s.ReachesCycle v) : ∃ w ∈ s.parts v, s.ReachesCycle w := by
  obtain ⟨x, hreach, hcycle⟩ := h
  rcases Relation.ReflTransGen.cases_head hreach with rfl | ⟨w, hw, hrest⟩
  · obtain ⟨w, hw, hback⟩ := Relation.TransGen.head'_iff.mp hcycle
    exact ⟨w, hw, v, hback, hcycle⟩
  · exact ⟨w, hw, x, hrest, hcycle⟩

/-- The tree that a value unfolds to is finite, so that no cycle is reached. -/
theorem Unfolds.not_reachesCycle {levels : Nat} {text : Option String}
    (h : s.Unfolds i levels v text) : ¬ s.ReachesCycle v := by
  induction h with
  | @plain levels v hv =>
    intro hcycle
    obtain ⟨w, hw, -⟩ := hcycle.exists_part
    cases v <;> cases hv <;> cases hw
  | container _ _ ih =>
    intro hcycle
    obtain ⟨w, hw, hrest⟩ := hcycle.exists_part
    exact ih w hw hrest

/-- Writing a value ends in every store. It is refused with a type error exactly if a container is reached
that holds itself; otherwise the text is that of the tree which the value unfolds to, where a container
that is held in several places is written in each of them. -/
theorem json_refuses_cycles (s : Store) (i : Indentation) (v : Value) :
    s.Stringifies i [] v (s.json i v) ∧
    (s.json i v = .error .circular ↔ s.ReachesCycle v) ∧
    (s.json i v = .error .circular ∨ ∃ text, s.json i v = .ok text ∧ s.Unfolds i 0 v text) ∧
    RenderError.circular.display = "TypeError: Converting circular structure to JSON" := by
  have hends : s.Stringifies i [] v (s.json i v) := stringifies_jsonWithin (.empty s)
  have hfails : ∀ e, s.json i v = .error e → e = .circular ∧ s.ReachesCycle v := fun e he =>
    hends.reachesCycle he (by simp)
  have hwrites : ∀ text, s.json i v = .ok text → s.Unfolds i 0 v text := fun text htext =>
    hends.unfolds htext
  refine ⟨hends, ⟨fun h => (hfails _ h).2, fun hcycle => ?_⟩, ?_, by decide⟩
  · cases hjson : s.json i v with
    | ok text => exact absurd hcycle (hwrites text hjson).not_reachesCycle
    | error e => rw [(hfails e hjson).1]
  · cases hjson : s.json i v with
    | ok text => exact Or.inr ⟨text, rfl, hwrites text hjson⟩
    | error e => exact Or.inl (by rw [(hfails e hjson).1])

/-- An array that is held twice is written twice. -/
example : Store.json ⟨#[#[.array 1, .array 1], #[.null]], #[], #[], #[], #[]⟩ ⟨""⟩ (.array 0) =
    .ok (some "[[null],[null]]") := by
  decide +kernel

end Store

end Microtemplate.Script
