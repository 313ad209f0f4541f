import Microtemplate.Proofs.Script.JsonText
import Microtemplate.Proofs.Script.Running
import Microtemplate.Proofs.Template.ProgramTree

/-!
What the statement does that appends a text and slots: the text so far grows by the texts and the
shown fields in their order. Of the store only this text and the last value change.
-/

namespace Microtemplate

open Script

/-- What a template shows for a field. -/
def Json.shown (escaped : Bool) (j : Json) : String :=
  if j.isNull then "" else if escaped then Text.escapeHtml j.scriptText else j.scriptText

namespace Script

theorem looseEquals_null (s : Store) (v : Value) : s.looseEquals v .null = v.isNullish := by
  cases v <;> rfl

theorem Shows.of_arrays {s t : Store} {v : Value} {j : Json} (h : Shows s v j)
    (ht : t.arrays = s.arrays) : Shows t v j where
  isNullish := h.isNullish
  textWithin u hsize helements levels writing hwriting := by
    have helements' : ∀ a, a < s.arrays.size → u.elements a = s.elements a := by
      intro a ha
      rw [helements a (ht ▸ ha), Store.elements, Store.elements, ht]
    exact h.textWithin u (ht ▸ hsize) helements' levels writing (ht ▸ hwriting)

end Script

/-- What a slot shows, and the text after it. -/
def Slot.shown (fields : List (String × Json)) (s : Slot) : String :=
  ((Fields.get? fields s.name).getD .null).shown s.escaped ++ String.ofList s.after

/-- What stays the same while the statements of a program append to its text: the store apart from
the frames, the frames inside that of the program and the scope inside it, the number of functions
that are being called, the name and the value of the data, the function that prints, and what the
statements have declared in the frame of the program. -/
structure Stage where
  base : Store
  inner : List Frame
  scope : Scope
  depth : Nat
  parameter : String
  data : Value
  printer : Value
  declared : Fields Binding

namespace Stage

/-- The names of the program: the data, the last value, the text so far, the function that prints,
and what the statements have declared. -/
def bindings (g : Stage) (last text : Value) : Fields Binding :=
  (g.parameter, ⟨g.data, true⟩) :: ("__t", ⟨last, true⟩) :: ("__p", ⟨text, true⟩) ::
    ("print", ⟨g.printer, true⟩) :: g.declared

/-- The store with a last value and a text. -/
def store (g : Stage) (last text : Value) : Store :=
  { g.base with frames := (⟨.global, globalBindings (.object 0) (.object 1)⟩ ::
      ⟨.function, g.bindings last text⟩ :: g.inner).toArray }

/-- Where the statements are executed. -/
def context (g : Stage) : Context := ⟨g.scope ++ [programFrame, globalFrame], g.depth, programFrame⟩

/-- The fields of the data are names in the frame of their scope. -/
theorem resolveIn?_data {g : Stage} {data : Value} {extra : List Frame}
    (hinner : g.inner = ⟨.within data, []⟩ :: ⟨.block, []⟩ :: extra) (last text : Value)
    (name : String) : (g.store last text).resolveIn? 2 name =
      (g.base.ownProperty? data name).map (.property data) := by
  have hown : (g.store last text).ownProperty? data name = g.base.ownProperty? data name := rfl
  have hframe : (g.store last text).frames[2]? = some ⟨.within data, []⟩ := by simp [store, hinner]
  rw [Store.resolveIn?, hframe]
  simp only [Store.visibleProperty?, hown]
  cases g.base.ownProperty? data name <;> rfl

/-- The statements in the scope of the data declare nothing in their frame. -/
theorem resolveIn?_block {g : Stage} {data : Value} {extra : List Frame}
    (hinner : g.inner = ⟨.within data, []⟩ :: ⟨.block, []⟩ :: extra) (last text : Value)
    (name : String) : (g.store last text).resolveIn? 3 name = none := by
  have hframe : (g.store last text).frames[3]? = some ⟨.block, []⟩ := by simp [store, hinner]
  rw [Store.resolveIn?, hframe]
  rfl

/-- The names that the statements of slots use beside those of fields. -/
def reserved : List String := ["__t", "__p", "_"]

/-- No other name comes before those that the statements use. -/
structure Proper (g : Stage) : Prop where
  parameter : g.parameter ∉ reserved
  declared : g.declared.get? "_" = none
  hidden : ∀ a ∈ g.scope, ∀ name ∈ reserved, ∀ last text,
    (g.store last text).resolveIn? a name = none
  helpers : g.base.fields 0 = [("escape", .builtin .escape), ("each", .builtin .each)]

namespace Proper

variable {g : Stage} (h : g.Proper)

include h

theorem resolve? {name : String} (hname : name ∈ reserved) (last text : Value) :
    (g.store last text).resolve? g.context.scope name =
      (g.store last text).resolve? [programFrame, globalFrame] name := by
  have hnone : g.scope.findSome? ((g.store last text).resolveIn? · name) = none :=
    List.findSome?_eq_none_iff.mpr fun a ha => h.hidden a ha name hname last text
  simp only [Store.resolve?, context, List.findSome?_append, hnone, Option.none_or]

theorem resolve?_last (last text : Value) : (g.store last text).resolve? g.context.scope "__t" =
    some (.binding programFrame ⟨last, true⟩) := by
  have hne : ("__t" == g.parameter) = false :=
    beq_false_of_ne fun heq => h.parameter (heq ▸ by decide)
  rw [h.resolve? (by decide)]
  simp [Store.resolve?, Store.resolveIn?, store, programFrame, Store.visibleProperty?, bindings,
    Fields.get?, List.lookup_cons, hne]

theorem resolve?_text (last text : Value) : (g.store last text).resolve? g.context.scope "__p" =
    some (.binding programFrame ⟨text, true⟩) := by
  have hne : ("__p" == g.parameter) = false :=
    beq_false_of_ne fun heq => h.parameter (heq ▸ by decide)
  rw [h.resolve? (by decide)]
  simp [Store.resolve?, Store.resolveIn?, store, programFrame, Store.visibleProperty?, bindings,
    Fields.get?, List.lookup_cons, hne]

theorem lookup?_helpers (last text : Value) :
    (g.store last text).lookup? g.context.scope "_" = some (.object 0) := by
  have hne : ("_" == g.parameter) = false :=
    beq_false_of_ne fun heq => h.parameter (heq ▸ by decide)
  have hdeclared : g.declared.lookup "_" = none := h.declared
  rw [Store.lookup?, h.resolve? (by decide)]
  simp [Store.resolve?, Store.resolveIn?, store, programFrame, globalFrame, Store.visibleProperty?,
    bindings, globalBindings, Fields.get?, List.lookup_cons, hne, hdeclared, Resolved.value]

theorem declare_last (last text v : Value) :
    (g.store last text).declare programFrame "__t" ⟨v, true⟩ = g.store v text := by
  have hne : ¬ g.parameter = "__t" := fun heq => h.parameter (heq ▸ by decide)
  simp [Store.declare, Store.modifyFrame, store, programFrame, bindings, Fields.set, hne]

theorem declare_text (last text v : Value) :
    (g.store last text).declare programFrame "__p" ⟨v, true⟩ = g.store last v := by
  have hne : ¬ g.parameter = "__p" := fun heq => h.parameter (heq ▸ by decide)
  simp [Store.declare, Store.modifyFrame, store, programFrame, bindings, Fields.set, hne]

end Proper

/-- The reference to a field evaluates to a value, whatever has been appended so far. -/
def Refers (g : Stage) (v : Option String) (name : String) (x : Value) : Prop :=
  ∀ n last text, (eval (n + 2) g.context (Slot.referenceExpr v name)).Gives (g.store last text) x
    (g.store last text)

/-- The value that a slot appends to the text. -/
def appended (g : Stage) (escaped : Bool) (x : Value) : Value :=
  if x.isNullish then .string ""
  else if escaped then .string (Text.escapeHtml (g.base.text x)) else x

variable {g : Stage} (h : g.Proper)

include h

theorem eval_last (n : Nat) (last text : Value) :
    (eval (n + 1) g.context (.identifier "__t")).Gives (g.store last text) last
      (g.store last text) := by
  refine eval_identifier ?_
  rw [Store.lookup?, h.resolve?_last]
  rfl

theorem eval_valueExpr {escaped : Bool} {x : Value} (hx : x.isNullish = false) {j : Json}
    (hj : Shows g.base x j) (n : Nat) (text : Value) :
    (eval (n + 4) g.context (Slot.valueExpr escaped)).Gives (g.store x text) (g.appended escaped x)
      (g.store x text) := by
  have hstore : (g.store x text).text x = g.base.text x := by
    rw [(hj.of_arrays (t := g.store x text) rfl).text, hj.text]
  cases escaped with
  | false =>
    have happended : g.appended false x = x := by simp [appended, hx]
    rw [happended]
    exact eval_last h (n + 3) x text
  | true =>
    have happended : g.appended true x = .string ((g.store x text).escaped x) := by
      simp [appended, hx, Store.escaped, hstore]
    have hescape : (Run.readProperty (.object 0) "escape").Gives (g.store x text)
        (.builtin .escape) (g.store x text) := by
      have hfield : (((g.store x text).fields 0).get? "escape").getD .undefined =
          .builtin .escape := by
        rw [show (g.store x text).fields 0 = g.base.fields 0 from rfl, h.helpers]
        simp [Fields.get?]
      rw [← hfield]
      exact .read _
    rw [happended]
    exact eval_call (eval_member (eval_identifier (h.lookup?_helpers x text)) hescape)
      (eval_last h (n + 2) x text) rfl (.read _)

/-- A slot evaluates to what it appends, and the value of its field becomes the last value. -/
theorem eval_slot {v : Option String} {slot : Slot} {x : Value} (hx : g.Refers v slot.name x)
    {j : Json} (hj : Shows g.base x j) (n : Nat) (last text : Value) :
    (eval (n + 5) g.context (slot.expr v)).Gives (g.store last text) (g.appended slot.escaped x)
      (g.store x text) := by
  have hassign : (Run.assign g.context.scope "__t" x).Gives (g.store last text) ()
      (g.store x text) := by
    rw [← h.declare_last last text x]
    exact assign_gives rfl (h.resolve?_last last text) x
  have htest : (eval (n + 4) g.context (.binary .equal
        (.assign none (.identifier "__t") (Slot.referenceExpr v slot.name)) .null)).Gives
      (g.store last text) (.boolean x.isNullish) (g.store x text) := by
    rw [← looseEquals_null (g.store x text)]
    exact eval_binary (eval_assign (hx n last text) hassign) eval_null
  refine eval_conditional htest ?_
  cases hnull : x.isNullish with
  | true =>
    have happended : g.appended slot.escaped x = .string "" := by simp [appended, hnull]
    rw [happended]
    exact eval_string ""
  | false => exact eval_valueExpr h hnull hj n text

omit h in
/-- What a slot appends is what the template shows for its field. -/
theorem text_appended {escaped : Bool} {x : Value} {j : Json} (hj : Shows g.base x j)
    (last text : Value) : (g.store last text).text (g.appended escaped x) = j.shown escaped := by
  have hstore := (hj.of_arrays (t := g.store last text) rfl).text
  have hstring : ∀ t, (g.store last text).text (.string t) = t := fun _ => rfl
  unfold appended Json.shown
  rw [hj.isNullish, hj.text]
  split
  · exact hstring _
  · split
    · exact hstring _
    · exact hstore

/-- The slots show fields of the data: each name is found and evaluates to the value of its field. -/
def Resolves (g : Stage) (v : Option String) (fields : List (String × Json)) (slot : Slot) : Prop :=
  ∃ x j, Fields.get? fields slot.name = some j ∧ g.Refers v slot.name x ∧ Shows g.base x j

/-- A sum that evaluates to a text grows by what its slots show. -/
theorem eval_foldl {v : Option String} {fields : List (String × Json)} {slots : List Slot}
    (hslots : ∀ s ∈ slots, g.Resolves v fields s) {sum : Expr} {n : Nat} {acc : String}
    {last mid text : Value}
    (hsum : (eval (n + 5) g.context sum).Gives (g.store last text) (.string acc)
      (g.store mid text)) :
    ∃ last', (eval (n + 2 * slots.length + 5) g.context (slots.foldl (Slot.join v) sum)).Gives
      (g.store last text) (.string (acc ++ String.join (slots.map (·.shown fields))))
      (g.store last' text) := by
  induction slots generalizing sum n acc mid with
  | nil => exact ⟨mid, by simpa [String.join] using hsum⟩
  | cons s slots ih =>
    obtain ⟨x, j, hfield, hrefers, hshows⟩ := hslots s (List.mem_cons_self ..)
    have hfirst : (eval (n + 6) g.context (.binary .add sum (s.expr v))).Gives (g.store last text) _
        (g.store x text) :=
      eval_binary hsum (eval_slot h hrefers hshows n mid text)
    rw [binary_add_string, text_appended hshows] at hfirst
    have hboth : (eval (n + 7) g.context (Slot.join v sum s)).Gives (g.store last text) _
        (g.store x text) :=
      eval_binary hfirst (eval_string (String.ofList s.after))
    have hshown : (g.store x text).binary .add (.string (acc ++ j.shown s.escaped))
        (.string (String.ofList s.after)) = .string (acc ++ s.shown fields) := by
      rw [binary_add_string, Slot.shown, hfield, Option.getD_some, String.append_assoc]
      rfl
    rw [hshown] at hboth
    obtain ⟨last', hmore⟩ := ih (fun y hy => hslots y (List.mem_cons_of_mem s hy)) (n := n + 2) hboth
    refine ⟨last', ?_⟩
    have hbound : n + 2 * (s :: slots).length + 5 = n + 2 + 2 * slots.length + 5 := by
      rw [List.length_cons]
      omega
    rw [hbound, List.map_cons, String.join_cons, ← String.append_assoc]
    exact hmore

/-- The statement appends its text and what its slots show. -/
theorem exec_append {v : Option String} {fields : List (String × Json)} {slots : List Slot}
    (hslots : ∀ s ∈ slots, g.Resolves v fields s) (lead : List Char) (n : Nat) (last : Value)
    (written : String) :
    ∃ last', (exec (n + 2 * slots.length + 7) g.context (ProgramText.append v lead slots)).Gives
      (g.store last (.string written)) .normal (g.store last'
        (.string (written ++ (String.ofList lead ++ String.join (slots.map (·.shown fields)))))) := by
  have hlead : (eval (n + 5) g.context (.string (String.ofList lead))).Gives
      (g.store last (.string written)) _ (g.store last (.string written)) := eval_string _
  obtain ⟨last', hsum⟩ := eval_foldl h hslots hlead
  let appended := String.ofList lead ++ String.join (slots.map (·.shown fields))
  have hcurrent : (g.store last (.string written)).lookup? g.context.scope "__p" =
      some (.string written) := by
    rw [Store.lookup?, h.resolve?_text]
    rfl
  have hassign : (Run.assign g.context.scope "__p" ((g.store last' (.string written)).binary .add
      (.string written) (.string appended))).Gives (g.store last' (.string written)) ()
        (g.store last' (.string (written ++ appended))) := by
    have hdeclare := assign_gives (c := g.context) rfl (h.resolve?_text last' (.string written))
      (.string (written ++ appended))
    rw [h.declare_text] at hdeclare
    rw [binary_add_string]
    exact hdeclare
  exact ⟨last', exec_expression (eval_plusAssign hcurrent hsum hassign)⟩

end Stage

end Microtemplate
