import Microtemplate.Proofs.Script.CanonicalReading
import Microtemplate.Proofs.Script.Stringify
import Microtemplate.Proofs.Template.Rendering

/-!
Programs that give their data back. A program that returns the JSON text of its argument returns a
text that is read as the argument, for all JSON data and all indentations.
-/

namespace Microtemplate.Script

open ProgramText

namespace Store

/-- Indentations are made of blanks if numbers or nothing say how wide they are. -/
theorem blank_indentation_number (x : Float) :
    Json.Reader.Blank (indentation (.number x)).unit.toList := by
  intro c hc
  rw [indentation, String.toList_ofList] at hc
  exact .inl (List.eq_of_mem_replicate hc)

theorem json_writes {s t : Store} {v : Value} {j : Json} (h : Writes s v j) (hkeeps : s.Keeps t)
    {i : Indentation} (hi : Json.Reader.Blank i.unit.toList) :
    ∃ text, t.json i v = .ok (some text) ∧ Json.Writes text.toList j := by
  have hcount : s.containerCount ≤ t.containerCount + 1 :=
    Nat.le_succ_of_le (Nat.add_le_add hkeeps.arrays hkeeps.objects)
  exact h t hkeeps i hi _ [] hcount ⟨by simp, by simp⟩

end Store

/-- How a program asks for indentation. -/
inductive Indent where
  /-- Not at all. -/
  | plain
  /-- With `null` for what chooses the fields, and no width. -/
  | unset
  /-- With a width, which may have a sign. -/
  | width (negative : Bool) (x : Float)

namespace Indent

/-- The further arguments of a program that writes its data. -/
def arguments : Indent → List Expr
  | plain => []
  | unset => [.null]
  | width false x => [.null, .number x]
  | width true x => [.null, .unary .negate (.number x)]

/-- The values of the further arguments. -/
def values : Indent → List Value
  | plain => []
  | unset => [.null]
  | width false x => [.null, .number x]
  | width true x => [.null, .number (-x)]

/-- The program that returns the JSON text of its argument. -/
def writer (l : Indent) : Function :=
  ⟨none, ["obj"], none, [.returning (some
    (.call (.member (.identifier "JSON") "stringify") (.identifier "obj" :: l.arguments)))]⟩

/-- The program is read from its text, whatever literal spells the width. -/
theorem ofText?_writer (l : Indent) {numeral : Float → List Char}
    (h : ∀ negative x, l = .width negative x → IsNumeral x (numeral x)) :
    Function.ofText? (l.writer.canonicalText numeral) = .ok l.writer := by
  have hobj : isIdentifier "obj" = true := by decide +kernel
  have hjson : isIdentifier "JSON" = true := by decide +kernel
  have hstringify : isIdentifier "stringify" = true := by decide +kernel
  have harguments : ∀ e ∈ l.arguments, e.Proper (Token.Spelled numeral) := by
    intro e he
    cases l with
    | plain => cases he
    | unset =>
      obtain rfl := List.mem_singleton.mp he
      exact .null
    | width negative x =>
      have hx : (Expr.number x).Proper (Token.Spelled numeral) := .number (h negative x rfl)
      cases negative
      · rcases List.mem_cons.mp he with rfl | he
        · exact .null
        · exact List.mem_singleton.mp he ▸ hx
      · rcases List.mem_cons.mp he with rfl | he
        · exact .null
        · exact List.mem_singleton.mp he ▸ .unary .negate hx
  have hcall : (Expr.call (.member (.identifier "JSON") "stringify")
      (.identifier "obj" :: l.arguments)).Proper (Token.Spelled numeral) :=
    .call (.member (.identifier hjson) (.inl hstringify))
      (List.forall_mem_cons.mpr ⟨.identifier hobj, harguments⟩)
  have hproper : l.writer.Proper (Token.Spelled numeral) :=
    .mk (by simp [writer]) (List.forall_mem_singleton.mpr hobj) (by simp [writer])
      (List.forall_mem_singleton.mpr (.returning fun e he => Option.some.inj he ▸ hcall))
  refine (Function.ofText?_canonicalText_of_proper hproper fun _ ht => .inr ht).1 ?_
  cases l with
  | width negative x => cases negative <;> exact Nat.le_of_ble_eq_true rfl
  | _ => exact Nat.le_of_ble_eq_true rfl

example : (width true 2.0).writer.canonicalText (fun _ => ['2']) =
    ("function ( obj ) \x7b return ( ( ( JSON ) . stringify ) ( ( obj ) , ( null ) , " ++
      "( - ( 2 ) ) ) ) ; \x7d ").toList := by rfl

theorem arguments_give (l : Indent) (n : Nat) (c : Context) (s : Store) :
    (l.arguments.mapM (eval (n + 2) c)).Gives s l.values s := by
  cases l with
  | plain => exact .pure _
  | unset => exact .bind (.pure _) (.pure _)
  | width negative x =>
    cases negative
    · exact .bind (.pure _) (.bind (.bind (.pure _) (.pure _)) (.pure _))
    · exact .bind (.pure _) (.bind (.bind (.bind (.pure _) (.read _)) (.pure _)) (.pure _))

theorem blank_indentation (l : Indent) (v : Value) :
    Json.Reader.Blank (Store.indentation (argument (v :: l.values) 2)).unit.toList := by
  cases l with
  | plain => exact Json.Reader.blank_nil
  | unset => exact Json.Reader.blank_nil
  | width negative x => cases negative <;> exact Store.blank_indentation_number _

/-- The call in a program that writes its data gives a text of the data. -/
theorem call_gives (l : Indent) {base s : Store} {v : Value} {j : Json} (h : Writes base v j)
    (hkeeps : base.Keeps s) (n : Nat) (c : Context) : ∃ text,
      (call (n + 1) c (.builtin .stringify) (v :: l.values)).Gives s (.string text) s ∧
      Json.Writes text.toList j := by
  obtain ⟨text, htext, hj⟩ := Store.json_writes h hkeeps (l.blank_indentation v)
  refine ⟨text, .bind (.read _) ?_, hj⟩
  rw [show s.json _ (argument (v :: l.values) 0) = _ from htext]
  exact .pure _

/-- A program that writes its data returns a text that is read as the data. -/
theorem render_writer (l : Indent) {j : Json} (h : j.Proper) {bound : Nat} (hbound : 5 ≤ bound) :
    ∃ text j', l.writer.render bound j = .ok text ∧
      (∃ depth, ∀ levels, depth ≤ levels →
        Json.Reader.value? levels text.toList = some (j', [])) ∧ j'.Alike j := by
  obtain ⟨n, rfl⟩ := Nat.exists_eq_add_of_le' hbound
  obtain ⟨hgrown, hwrites⟩ := addJson_writes j initialStore h
  let base := (initialStore.addJson j).2
  let v := (initialStore.addJson j).1
  let s := named base [("obj", ⟨v, true⟩)]
  have hkeeps : base.Keeps s := ⟨Nat.le_refl _, fun _ _ => rfl, Nat.le_refl _, fun _ _ => rfl⟩
  obtain ⟨text, hcall, j', hj', halike⟩ := l.call_gives hwrites hkeeps (n + 3) programContext
  have hjson : s.fields 1 = [("stringify", .builtin .stringify)] := hgrown.fields 1 (by decide)
  have hread : (Run.readProperty (.object 1) "stringify").Gives s (.builtin .stringify) s := by
    have hfield : ((s.fields 1).get? "stringify").getD .undefined = .builtin .stringify := by
      rw [hjson]
      rfl
    rw [← hfield]
    exact .read _
  have hcallee : (eval (n + 3) programContext (.member (.identifier "JSON") "stringify")).Gives s
      (.builtin .stringify) s := eval_member (eval_identifier rfl) hread
  have hobj : (eval (n + 3) programContext (.identifier "obj")).Gives s v s := eval_identifier rfl
  have harguments : ((.identifier "obj" :: l.arguments).mapM (eval (n + 3) programContext)).Gives s
      (v :: l.values) s := by
    rw [List.mapM_cons]
    exact hobj.bind ((l.arguments_give (n + 1) programContext s).bind (.pure _))
  have hreturn : ((Evaluator.within (n + 5)).execAll programContext l.writer.body).Gives s
      (.returned (.string text)) s :=
    .bind (exec_returning (hcallee.bind (harguments.bind hcall))) (.pure _)
  have hnodup : ("obj" :: hoistedList l.writer.body).Nodup := by
    simp [writer, hoistedList, Stmt.hoisted]
  exact ⟨text, j', render_of_execAll rfl hgrown.frames hnodup rfl hreturn, hj'.reads, halike⟩

/-- A program that indents by two blanks, on data with names out of order and a zero with a sign. -/
theorem render_writer_unsorted :
    let j : Json := .object [("b", .array [.number (.double 0.1), .number (.double (-0.0)), .null]),
      ("a", .object [])]
    j.Proper ∧ ∃ text j', (Indent.width false 2.0).writer.render 5 j = .ok text ∧
      (∃ depth, ∀ levels, depth ≤ levels →
        Json.Reader.value? levels text.toList = some (j', [])) ∧ j'.Alike j := by
  intro j
  have hproper : j.Proper := by
    refine .object (by decide) fun p hp => ?_
    rcases List.mem_cons.mp hp with rfl | hp
    · refine .array fun item hitem => ?_
      simp only [List.mem_cons, List.not_mem_nil, or_false] at hitem
      rcases hitem with rfl | rfl | rfl
      · exact .number
          (show _ = Decimal.Binary.finite false 7205759403792794 (-56) by decide +kernel)
      · exact .number (show _ = Decimal.Binary.finite true 0 (-1074) by decide +kernel)
      · exact .null
    · obtain rfl := List.mem_singleton.mp hp
      exact .object (by decide) (by simp)
  exact ⟨hproper, (Indent.width false 2.0).render_writer hproper (Nat.le_refl 5)⟩

end Indent

end Microtemplate.Script
