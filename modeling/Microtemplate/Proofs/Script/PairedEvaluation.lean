import Microtemplate.Proofs.Script.PairedBuiltins

/-!
Evaluating expressions, executing statements and calling functions in two runs side by side. One step
does the same in both runs if what is inside does, so every bound on the depth of steps does.
-/

namespace Microtemplate.Script

instance : Renamable Target where
  visible r
    | .property owner _ => r.Visible owner
    | .name _ => True
  rename r
    | .property owner key => .property (r.value owner) key
    | t => t

open Renamable (visible rename)
open Pairing

theorem Renaming.ofPairs_fields (r : Renaming) (pairs : List (String × Value)) :
    Fields.ofPairs (pairs.map (rename r)) = r.fields (Fields.ofPairs pairs) := by
  have hfold : ∀ fields : Fields Value,
      (pairs.map (rename r)).foldl (fun fs p => fs.set p.1 p.2) (r.fields fields) =
        r.fields (pairs.foldl (fun fs p => fs.set p.1 p.2) fields) := by
    induction pairs with
    | nil => exact fun _ => rfl
    | cons p pairs ih =>
      intro fields
      rw [List.map_cons, List.foldl_cons, List.foldl_cons, ← ih]
      exact congrArg (fun fs => (pairs.map (rename r)).foldl (fun fs p => fs.set p.1 p.2) fs)
        (r.set_fields fields p.1 p.2)
  exact hfold []

theorem Renaming.visible_ofPairs {r : Renaming} {pairs : List (String × Value)}
    (h : ∀ p ∈ pairs, r.Visible p.2) : ∀ p ∈ Fields.ofPairs pairs, r.Visible p.2 := by
  have hfold : ∀ fields : Fields Value, (∀ p ∈ fields, r.Visible p.2) →
      ∀ p ∈ pairs.foldl (fun fs p => fs.set p.1 p.2) fields, r.Visible p.2 := by
    induction pairs with
    | nil => exact fun _ => id
    | cons q pairs ih =>
      obtain ⟨hq, hpairs⟩ := List.forall_mem_cons.mp h
      exact fun fields hfields => ih hpairs _ (Fields.forall_set hfields hq)
  exact hfold [] fun _ hp => absurd hp List.not_mem_nil

namespace Evaluator

variable {P : Pairing} (hP : P.Lawful) {one other : Evaluator} (h : P.Agree one other)
  {s u : Store} {c : Context} {x : Code}

section Names

include hP

theorem alike_lookup {n : String} (hx : P.At s u c x) (hn : n ∈ x.reads) :
    P.Alike s u (Run.lookup c.scope n) (Run.lookup c.scope n) := by
  have hresolve := hP.resolve hx.holds hx.passes (Or.inl hn)
  have hvisible := hP.visible hx.holds hx.passes hn
  refine .read ?_
  simp only [Store.lookup?, hresolve]
  cases hfound : s.resolve? c.scope n with
  | none => exact .throw hP hx.holds (hP.found hx.passes (Or.inl hn) hfound)
  | some r =>
    simp only [Option.map_some, Renaming.value_resolved]
    exact .pure hP hx.holds (hvisible r hfound)

/-- A name is assigned to where it is found in both runs. -/
theorem alike_assign {n : String} {v : Value} (hx : P.At s u c x) (hn : n ∈ x.writes)
    (hspecial : ∀ e, x = .expression e → ¬ P.Special e) (hv : P.places.Visible v) :
    P.Alike s u (Run.assign c.scope n v) (Run.assign c.scope n (P.places.value v)) := by
  have hresolve := hP.resolve hx.holds hx.passes (Or.inr (Or.inr hn))
  refine .read ?_
  rw [hresolve]
  cases hfound : s.resolve? c.scope n with
  | none => exact .throw hP hx.holds (hP.found hx.passes (Or.inr hn) hfound)
  | some r =>
    cases r with
    | property owner old =>
      by_cases howner : ∃ a, owner = .object a
      · obtain ⟨a, rfl⟩ := howner
        exact .ok (a := ()) trivial (hP.assignField hx.holds hx.passes hn hv hfound)
      · have hvisible : P.places.Visible owner := by
          cases owner with
          | object a => exact absurd ⟨a, rfl⟩ howner
          | _ => exact trivial
        exact twins_writeProperty hP hvisible hv s u hx.holds
    | binding frame b =>
      simp only [Option.map_some, Renaming.resolved]
      split
      · rename_i hb
        exact .ok (a := ()) trivial (hP.assign hx.holds hx.passes hn hspecial hv hfound hb)
      · exact .fail hP hx.holds rfl

theorem alike_readTarget {t : Target} (hx : P.At s u c x) (ht : visible P.places t)
    (hreads : ∀ n, t = .name n → n ∈ x.reads) :
    P.Alike s u (readTarget c t) (readTarget c (rename P.places t)) := by
  cases t with
  | name n => exact alike_lookup hP hx (hreads n rfl)
  | property owner key => exact twins_readProperty hP ht s u hx.holds

theorem alike_writeTarget {t : Target} {v : Value} (hx : P.At s u c x)
    (hspecial : ∀ e, x = .expression e → ¬ P.Special e) (ht : visible P.places t)
    (hwrites : ∀ n, t = .name n → n ∈ x.writes) (hv : P.places.Visible v) :
    P.Alike s u (writeTarget c t v) (writeTarget c (rename P.places t) (P.places.value v)) := by
  cases t with
  | name n => exact alike_assign hP hx (hwrites n rfl) hspecial hv
  | property owner key => exact twins_writeProperty hP ht hv s u hx.holds

theorem alike_closure {f : Function} (hs : P.Holds s u) (hx : P.Admits s c x)
    (hf : f ∈ x.functions) : P.Alike s u (closure c f) (closure c f) := by
  refine .added trivial ?_ (hP.addFunction hs (hP.closes hx hf))
  change Value.function u.functions.size = Value.function s.functions.size
  rw [(hP.mirrors hs).functions]

theorem twins_binary (op : BinaryOp) (v w : Value) : P.Twins (Run.read (·.binary op v w))
    (Run.read (·.binary op (P.places.value v) (P.places.value w))) := by
  refine .value hP fun s u hs => ?_
  rw [(hP.mirrors hs).binary]
  rcases s.binary_cases op v w with ⟨x, hx⟩ | ⟨x, hx⟩ | ⟨x, hx⟩ <;> rw [hx] <;> exact ⟨trivial, rfl⟩

theorem twins_number (v : Value) {f : Float → Float} :
    P.Twins (Run.read fun s => Value.number (f (s.number v)))
      (Run.read fun s => Value.number (f (s.number (P.places.value v)))) := by
  refine .value hP fun s u hs => ⟨trivial, ?_⟩
  rw [(hP.mirrors hs).number]
  rfl

end Names

section Expressions

variable {e value : Expr}

include hP h

/-- The runs go on alike with an expression that is part of what they have come to. -/
theorem alike_part (hx : P.At s u c x) (he : .expression e ∈ x.parts) :
    P.Alike s u (one.eval c e) (other.eval c e) :=
  h.eval hx.holds (hP.part (hP.admits hx.passes) he)

theorem alike_key (hx : P.At s u c x) (he : .expression e ∈ x.parts) :
    P.Alike s u (one.key c e) (other.key c e) :=
  .bind hP (alike_part hP h hx he) fun v _ _ _ hmoves => twins_text hP v _ _ hmoves.holds

/-- Only a name is a target with that name. -/
theorem alike_target_bind {α : Type} [Renamable α] {f f' : Target → Run α} (hx : P.At s u c x)
    (htarget : e ∈ x.targets) (he : .expression e ∈ x.parts)
    (hf : ∀ t s' u', visible P.places t → (∀ n, t = .name n → e.name? = some n) →
      P.Moves s s' u' → P.Alike s' u' (f t) (f' (rename P.places t))) :
    P.Alike s u (one.target c e >>= f) (other.target c e >>= f') := by
  have hadmits := hP.part (hP.admits hx.passes) he
  unfold target
  split
  · simp only [pure_bind]
    exact hf (.name _) s u trivial (fun m hm => congrArg some (Target.name.inj hm)) (.refl hP hx.holds)
  · rename_i owner name
    simp only [bind_assoc, pure_bind]
    refine .bind hP (h.eval hx.holds (hP.part hadmits (.head _))) fun v s' u' hv hmoves => ?_
    exact hf (.property v name) s' u' hv nofun hmoves
  · rename_i owner key
    simp only [bind_assoc, pure_bind]
    refine .bind hP (h.eval hx.holds (hP.part hadmits (.head _))) fun v s' u' hv hmoves => ?_
    have hkey : P.Alike s' u' (one.key c key) (other.key c key) :=
      .bind hP (h.eval hmoves.holds (hP.part (hP.admitsLater hmoves.goes hadmits) (.tail _ (.head _))))
        fun v _ _ _ hmoves => twins_text hP v _ _ hmoves.holds
    refine .bind hP hkey fun k s'' u'' _ hmoves' => ?_
    exact hf (.property v k) s'' u'' hv nofun ⟨hmoves'.holds, hP.trans hmoves.goes hmoves'.goes⟩
  · rename_i hname hmember hindex
    refine .throw hP hx.holds ((hP.targets hx.passes e htarget).resolve_left ?_)
    cases e with
    | identifier n => exact absurd rfl (hname n)
    | member owner n => exact absurd rfl (hmember owner n)
    | index owner key => exact absurd rfl (hindex owner key)
    | _ => exact Bool.false_ne_true

theorem alike_unary {op : UnaryOp} (hx : P.At s u c (.expression (.unary op e))) :
    P.Alike s u (one.unary c op e) (other.unary c op e) := by
  unfold unary
  split
  · rename_i n
    have hresolve := hP.resolve hx.holds hx.passes (Or.inr (Or.inl (.head _)))
    refine .read ?_
    simp only [Store.lookup?, hresolve]
    cases s.resolve? c.scope n with
    | none => exact .pure hP hx.holds (a := Value.string _) trivial
    | some r =>
      simp only [Option.map_some, Option.elim_some, Renaming.value_resolved, Renaming.typeName_value]
      exact .pure hP hx.holds (a := Value.string _) trivial
  · refine .bind hP (alike_part hP h hx (.head _)) fun v t w hv hmoves => ?_
    have ht := hmoves.holds
    split
    · rw [show (rename P.places v).truthy = v.truthy from P.places.truthy_value v]
      exact .pure hP ht (a := Value.boolean _) trivial
    · exact twins_number hP v t w ht
    · exact twins_number hP (f := id) v t w ht
    · rw [show (rename P.places v).typeName = v.typeName from P.places.typeName_value v]
      exact .pure hP ht (a := Value.string _) trivial

theorem alike_update {op : UpdateOp} {first : Bool}
    (hx : P.At s u c (.expression (.update op first e))) (hspecial : ¬ P.Special (.update op first e)) :
    P.Alike s u (one.update c op first e) (other.update c op first e) := by
  refine alike_target_bind hP h hx (.head _) (.head _) fun target t w ht hname hmoves => ?_
  have hx' := hx.later hP hmoves
  have hmem : ∀ n, target = .name n → n ∈ e.name?.toList := fun n hn => by
    rw [hname n hn]
    exact .head _
  refine .bind hP (alike_readTarget hP hx' ht hmem) fun v t w _ hmoves' => ?_
  have hx'' := hx'.later hP hmoves'
  refine .read ?_
  rw [show w.number (rename P.places v) = t.number v from (hP.mirrors hx''.holds).number v]
  refine .bind hP (alike_writeTarget hP hx'' (fun e' he' => ?_) ht hmem (v := .number _) trivial)
    fun _ t' w' _ hmoves => .pure hP hmoves.holds (a := Value.number _) trivial
  cases he'
  exact hspecial

theorem alike_assignExpression {op : Option BinaryOp} (hx : P.At s u c (.expression (.assign op e value)))
    (hspecial : ¬ P.Special (.assign op e value)) :
    P.Alike s u (one.assign c op e value) (other.assign c op e value) := by
  refine alike_target_bind hP h hx (.head _) (.head _) fun target t w ht hname hmoves => ?_
  have hx' := hx.later hP hmoves
  have hmem : ∀ n, target = .name n → n ∈ e.name?.toList := fun n hn => by
    rw [hname n hn]
    exact .head _
  have hwrite : ∀ v t w, P.places.Visible v → P.At t w c (.expression (.assign op e value)) →
      P.Alike t w (writeTarget c target v >>= fun _ => Pure.pure v)
        (writeTarget c (rename P.places target) (P.places.value v) >>= fun _ =>
          Pure.pure (P.places.value v)) := by
    intro v t w hv hx
    refine .bind hP (alike_writeTarget hP hx (fun e' he' => ?_) ht hmem hv) fun _ t' w' _ hmoves =>
      .pure hP hmoves.holds hv
    cases he'
    exact hspecial
  cases op with
  | none =>
    exact .bind hP (alike_part hP h hx' (.tail _ (.head _))) fun v t w hv hmoves =>
      hwrite v t w hv (hx'.later hP hmoves)
  | some op =>
    refine .bind hP (alike_readTarget hP hx' ht hmem) fun v t w _ hmoves => ?_
    have hx'' := hx'.later hP hmoves
    refine .bind hP (alike_part hP h hx'' (.tail _ (.head _))) fun v' t w _ hmoves => ?_
    exact .bind hP (twins_binary hP op v v' t w hmoves.holds) fun v t w hv hmoves' =>
      hwrite v t w hv ((hx''.later hP hmoves).later hP hmoves')

theorem alike_callExpression {arguments : List Expr} (hx : P.At s u c (.expression (.call e arguments))) :
    P.Alike s u (one.callExpression c e arguments) (other.callExpression c e arguments) := by
  refine .bind hP (alike_part hP h hx (.head _)) fun f t w hf hmoves => ?_
  have hx' := hx.later hP hmoves
  refine .bind hP (.mapM hP hx'.holds fun a ha t w hmoves =>
    alike_part hP h (hx'.later hP hmoves) (.tail _ (List.mem_map_of_mem ha)))
    fun args t w hargs hmoves => ?_
  rw [show (rename P.places f).isCallable = f.isCallable from P.places.isCallable_value f]
  split
  · exact h.call (hP.call (hP.admits hx.passes)) hf hargs t w hmoves.holds
  · exact .fail hP hmoves.holds rfl

theorem alike_sequence {items : List Expr} {last : Value} (hx : P.At s u c x)
    (hitems : ∀ e ∈ items, .expression e ∈ x.parts) (hlast : P.places.Visible last) :
    P.Alike s u (one.sequence c last items) (other.sequence c (P.places.value last) items) := by
  induction items generalizing s u last with
  | nil => exact .pure hP hx.holds hlast
  | cons e es ih =>
    obtain ⟨he, hes⟩ := List.forall_mem_cons.mp hitems
    exact .bind hP (alike_part hP h hx he) fun v t w hv hmoves => ih (hx.later hP hmoves) hes hv

theorem alike_evalStep (hx : P.At s u c (.expression e)) :
    P.Alike s u (one.evalStep c e) (other.evalStep c e) := by
  by_cases hspecial : P.Special e
  · exact hP.special hx.holds hx.passes hspecial h
  cases e with
  | number | string | boolean | null => exact .pure hP hx.holds (a := (_ : Value)) trivial
  | array items =>
    refine .bind hP (.mapM hP hx.holds fun e he t w hmoves =>
      alike_part hP h (hx.later hP hmoves) (List.mem_map_of_mem he)) fun vs t w hvs hmoves => ?_
    refine ArrayMethod.twins_addArray hP (fun _ _ _ => ⟨fun v hv => ?_, ?_⟩) t w hmoves.holds
    · exact hvs v (List.mem_toArray.mp hv)
    · exact (List.map_toArray ..).symm
  | object properties =>
    refine .bind hP (.mapM hP hx.holds fun p hp t w hmoves => ?_) fun pairs t w hpairs hmoves => ?_
    · have hx' := hx.later hP hmoves
      exact .bind hP (alike_part hP h hx' (List.mem_map_of_mem (List.mem_map_of_mem hp)))
        fun v _ _ hv hmoves => .pure hP hmoves.holds (a := (p.1, v)) ⟨trivial, hv⟩
    · have hvisible := Renaming.visible_ofPairs fun p hp => (hpairs p hp).2
      obtain ⟨hnew, hsize, hmoves'⟩ := hP.addObject hmoves.holds hvisible
      rw [← Renaming.ofPairs_fields] at hmoves'
      exact .added hnew (congrArg Value.object hsize.symm) hmoves'
  | function f => exact alike_closure hP hx.holds (hP.admits hx.passes) (.head _)
  | identifier n => exact alike_lookup hP hx (.head _)
  | member owner name =>
    exact .bind hP (alike_part hP h hx (.head _)) fun v t w hv hmoves =>
      twins_readProperty hP hv t w hmoves.holds
  | index owner key =>
    refine .bind hP (alike_part hP h hx (.head _)) fun v t w hv hmoves => ?_
    exact .bind hP (alike_key hP h (hx.later hP hmoves) (.tail _ (.head _))) fun k t w _ hmoves =>
      twins_readProperty hP hv t w hmoves.holds
  | call callee arguments => exact alike_callExpression hP h hx
  | unary op e => exact alike_unary hP h hx
  | update op first e => exact alike_update hP h hx hspecial
  | binary op a b =>
    refine .bind hP (alike_part hP h hx (.head _)) fun v t w _ hmoves => ?_
    exact .bind hP (alike_part hP h (hx.later hP hmoves) (.tail _ (.head _))) fun v' t w _ hmoves =>
      twins_binary hP op v v' t w hmoves.holds
  | logical op a b =>
    refine .bind hP (alike_part hP h hx (.head _)) fun v t w hv hmoves => ?_
    rw [show decides op (rename P.places v) = decides op v by cases op <;> cases v <;> rfl]
    split
    · exact .pure hP hmoves.holds hv
    · exact alike_part hP h (hx.later hP hmoves) (.tail _ (.head _))
  | conditional test a b =>
    refine .bind hP (alike_part hP h hx (.head _)) fun v t w _ hmoves => ?_
    have hx' := hx.later hP hmoves
    rw [show (rename P.places v).truthy = v.truthy from P.places.truthy_value v]
    split
    · exact alike_part hP h hx' (.tail _ (.head _))
    · exact alike_part hP h hx' (.tail _ (.tail _ (.head _)))
  | assign op e value => exact alike_assignExpression hP h hx hspecial
  | sequence items =>
    exact alike_sequence hP h hx (fun e he => List.mem_map_of_mem he) trivial

end Expressions

section Declarations

variable {frame : Address}

include hP

theorem alike_declare {n : String} {v : Value} (assignable : Bool) (hs : P.Holds s u)
    (howns : P.Owns s frame) (hn : P.Free n) (hv : P.places.Visible v) :
    P.Alike s u (Run.declare frame n v assignable)
      (Run.declare frame n (P.places.value v) assignable) :=
  .ok (a := ()) trivial (hP.declare assignable hs howns hn hv)

theorem alike_declareParameters {params : List String} {args : List Value} (hs : P.Holds s u)
    (howns : P.Owns s frame) (hparams : ∀ n ∈ params, P.Free n)
    (hargs : ∀ v ∈ args, P.places.Visible v) :
    P.Alike s u (Run.declareParameters frame params args)
      (Run.declareParameters frame params (args.map P.places.value)) := by
  induction params generalizing s u args with
  | nil => exact .pure hP hs (a := ()) trivial
  | cons p ps ih =>
    obtain ⟨hp, hps⟩ := List.forall_mem_cons.mp hparams
    have hhead : (args.map P.places.value).head?.getD .undefined =
        P.places.value (args.head?.getD .undefined) := by
      cases args <;> rfl
    have hvisible : P.places.Visible (args.head?.getD .undefined) := by
      cases args with
      | nil => exact trivial
      | cons v args => exact hargs v (.head _)
    simp only [Run.declareParameters, hhead, ← List.map_tail]
    exact .bind hP (alike_declare hP true hs howns hp hvisible) fun _ _ _ _ hmoves =>
      ih hmoves.holds (hP.ownsLater hmoves.goes howns) hps fun v hv =>
        hargs v (List.mem_of_mem_tail hv)

theorem alike_declareArguments {f : Function} {args : List Value} (hs : P.Holds s u)
    (howns : P.Owns s frame) (hfree : ∀ n ∈ f.names, P.Free n)
    (hargs : ∀ v ∈ args, P.places.Visible v) :
    P.Alike s u (declareArguments frame f args)
      (declareArguments frame f (args.map P.places.value)) := by
  obtain ⟨-, hdeclared⟩ := List.forall_mem_append.mp hfree
  obtain ⟨hparams, -⟩ := List.forall_mem_append.mp hdeclared
  obtain ⟨hparams, hrest⟩ := List.forall_mem_append.mp hparams
  refine .bind hP (alike_declareParameters hP hs howns hparams hargs) fun _ t w _ hmoves => ?_
  split
  · rename_i n hn
    have hitems : ∀ v ∈ (args.drop f.params.length).toArray, P.places.Visible v := fun v hv =>
      hargs v (List.mem_of_mem_drop (List.mem_toArray.mp hv))
    rw [← List.map_drop, ← List.map_toArray]
    refine .bind hP (ArrayMethod.twins_addArray hP (fun _ _ _ => ⟨hitems, rfl⟩) t w hmoves.holds)
      fun v t' w' hv hmoves' => ?_
    refine alike_declare hP true hmoves'.holds ?_ (hrest n ?_) hv
    · exact hP.ownsLater hmoves'.goes (hP.ownsLater hmoves.goes howns)
    · rw [hn]
      exact .head _
  · exact .pure hP hmoves.holds (a := ()) trivial

theorem alike_hoistNames {names : List String} (hs : P.Holds s u) (howns : P.Owns s frame)
    (hnames : ∀ n ∈ names, P.Free n) :
    P.Alike s u (hoistNames frame names) (hoistNames frame names) := by
  induction names generalizing s u with
  | nil => exact .pure hP hs (a := ()) trivial
  | cons n names ih =>
    obtain ⟨hn, hnames⟩ := List.forall_mem_cons.mp hnames
    have hmoves := hP.declareMissing hs howns hn
    exact .change hP hmoves (ih hmoves.holds (hP.ownsLater hmoves.goes howns) hnames)

theorem alike_hoistFunctions {ss : List Stmt} (hs : P.Holds s u) (howns : P.Owns s frame)
    (hss : ∀ x ∈ ss, P.Admits s c (.statement x)) :
    P.Alike s u (hoistFunctions c frame ss) (hoistFunctions c frame ss) := by
  induction ss generalizing s u with
  | nil => exact .pure hP hs (a := ()) trivial
  | cons x ss ih =>
    obtain ⟨hx, hmore⟩ := List.forall_mem_cons.mp hss
    cases x with
    | function f =>
      rw [hoistFunctions]
      split
      · rename_i n hn
        have hfree : P.Free n := by
          refine hP.free (hP.closes hx (.head _)) n (List.mem_append_left _ ?_)
          rw [hn]
          exact .head _
        refine .bind hP (alike_closure hP hs hx (.head _)) fun v t w hv hmoves => ?_
        have howns' := hP.ownsLater hmoves.goes howns
        refine .bind hP (alike_declare hP true hmoves.holds howns' hfree hv) fun _ t' w' _ hmoves' => ?_
        exact ih hmoves'.holds (hP.ownsLater hmoves'.goes howns') fun x hx =>
          hP.admitsLater (hP.trans hmoves.goes hmoves'.goes) (hmore x hx)
      · exact ih hs howns hmore
    | _ => exact ih hs howns hmore

end Declarations

section Statements

include hP

theorem twins_iterated (e : Expr) {v : Value} (hv : P.places.Visible v) :
    P.Twins (iterated e v) (iterated e (P.places.value v)) := by
  cases v with
  | array a =>
    refine .value hP fun s u hs => ?_
    have hmirrors := hP.mirrors hs
    refine ⟨fun v hv => hmirrors.visibleElements a v (Array.mem_toList_iff.mp hv), ?_⟩
    rw [hmirrors.elements, Array.toList_map]
    rfl
  | string t =>
    have hchars : ∀ v ∈ t.toList.map fun c => Value.string c.toString, P.places.Visible v := by
      intro v hv
      obtain ⟨c, -, rfl⟩ := List.mem_map.mp hv
      exact trivial
    have heq : rename P.places (t.toList.map fun c => Value.string c.toString) =
        t.toList.map fun c => Value.string c.toString := List.map_map
    have hpure := Twins.pure hP (a := t.toList.map fun c => Value.string c.toString) hchars
    rw [heq] at hpure
    exact hpure
  | _ => exact .fail hP rfl

/-- A new frame, and what is done in it. -/
theorem alike_addFrame {β : Type} [Renamable β] (kind : FrameKind) {k k' : Address → Run β}
    (hx : P.At s u c x) (hkind : P.places.VisibleKind kind)
    (hk : ∀ frame t w, P.Owns t frame → P.At t w (c.push frame) x → P.Moves s t w →
      P.Alike t w (k frame) (k' frame)) :
    P.Alike s u (Run.add (·.addFrame kind) >>= k)
      (Run.add (·.addFrame (P.places.kind kind)) >>= k') := by
  obtain ⟨hsize, howns, hpasses, hmoves⟩ := hP.addFrame hx.holds hkind
  refine .add hP hmoves ?_
  change P.Alike _ _ (k s.frames.size) (k' u.frames.size)
  rw [hsize]
  exact hk _ _ _ howns ⟨hmoves.holds, hpasses c x hx.passes⟩ hmoves

/-- A statement, and those after it. -/
theorem alike_execAll_cons {y : Stmt} {ss : List Stmt}
    (hy : P.Alike s u (one.exec c y) (other.exec c y))
    (hss : ∀ t w, P.Moves s t w → P.Alike t w (one.execAll c ss) (other.execAll c ss)) :
    P.Alike s u (one.execAll c (y :: ss)) (other.execAll c (y :: ss)) := by
  refine .bind hP hy fun done t w hdone hmoves => ?_
  cases done with
  | normal => exact hss t w hmoves
  | _ => exact .pure hP hmoves.holds hdone

include h

/-- The runs go on alike with a statement that is part of what they have come to. -/
theorem alike_inner {body : Stmt} (hx : P.At s u c x) (hbody : .statement body ∈ x.parts) :
    P.Alike s u (one.exec c body) (other.exec c body) :=
  h.exec hx.holds (hP.part (hP.admits hx.passes) hbody)

theorem alike_execAll {ss : List Stmt} (hs : P.Holds s u)
    (hss : ∀ x ∈ ss, P.Admits s c (.statement x)) :
    P.Alike s u (one.execAll c ss) (other.execAll c ss) := by
  induction ss generalizing s u with
  | nil => exact .pure hP hs (a := Completion.normal) trivial
  | cons x ss ih =>
    obtain ⟨hx, hss⟩ := List.forall_mem_cons.mp hss
    exact alike_execAll_cons hP (h.exec hs hx) fun t w hmoves =>
      ih hmoves.holds fun x hx => hP.admitsLater hmoves.goes (hss x hx)

theorem alike_execDeclaration {kind : DeclarationKind} {all ds : List Declarator}
    (hx : P.At s u c (.statement (.declaration kind all))) (hds : ds ⊆ all) :
    P.Alike s u (one.execDeclaration c (innermost c) kind ds)
      (other.execDeclaration c (innermost c) kind ds) := by
  induction ds generalizing s u with
  | nil => exact .pure hP hx.holds (a := ()) trivial
  | cons d ds ih =>
    obtain ⟨hd, hds⟩ := List.cons_subset.mp hds
    have hrest : ∀ t w, P.Moves s t w → P.Alike t w (one.execDeclaration c (innermost c) kind ds)
        (other.execDeclaration c (innermost c) kind ds) :=
      fun t w hmoves => ih (hx.later hP hmoves) hds
    have hvalue : ∀ e, d.initial = some e →
        P.Alike s u (one.eval c e) (other.eval c e) := fun e he =>
      alike_part hP h hx (Code.mem_parts_value (List.mem_filterMap.mpr ⟨d, hd, he⟩))
    have hdeclare : kind ≠ .functionWide → ∀ v t w assignable, P.places.Visible v → P.Moves s t w →
        P.Alike t w (do
            Run.declare (innermost c) d.name v assignable
            one.execDeclaration c (innermost c) kind ds)
          (do
            Run.declare (innermost c) d.name (P.places.value v) assignable
            other.execDeclaration c (innermost c) kind ds) := by
      intro hkind v t w assignable hv hmoves
      have hx' := hx.later hP hmoves
      have hmoves' := hP.declaration assignable hx'.holds hx'.passes hkind hd hv
      exact .change hP hmoves' (hrest _ _ ⟨hmoves'.holds, hP.trans hmoves.goes hmoves'.goes⟩)
    unfold execDeclaration
    cases hinitial : d.initial with
    | none =>
      cases kind with
      | functionWide => exact hrest s u (.refl hP hx.holds)
      | blockWide | constant =>
        exact hdeclare (by simp) .undefined s u _ trivial (.refl hP hx.holds)
    | some e =>
      cases kind with
      | functionWide =>
        refine .bind hP (hvalue e hinitial) fun v t w hv hmoves => ?_
        have hx' := hx.later hP hmoves
        refine .bind hP (alike_assign hP hx' (List.mem_map_of_mem hd) (by simp) hv)
          fun _ t' w' _ hmoves' => ?_
        exact hrest t' w' ⟨hmoves'.holds, hP.trans hmoves.goes hmoves'.goes⟩
      | blockWide | constant =>
        exact .bind hP (hvalue e hinitial) fun v t w hv hmoves => hdeclare (by simp) v t w _ hv hmoves

theorem alike_holds {test : Option Expr} (hx : P.At s u c x)
    (htest : ∀ e ∈ test, .expression e ∈ x.parts) :
    P.Alike s u (one.holds c test) (other.holds c test) := by
  cases test with
  | none => exact .pure hP hx.holds (a := true) trivial
  | some e =>
    refine .bind hP (alike_part hP h hx (htest e rfl)) fun v t w _ hmoves => ?_
    rw [show (rename P.places v).truthy = v.truthy from P.places.truthy_value v]
    exact .pure hP hmoves.holds (a := v.truthy) trivial

theorem alike_perform {update : Option Expr} (hx : P.At s u c x)
    (hupdate : ∀ e ∈ update, .expression e ∈ x.parts) :
    P.Alike s u (one.perform c update) (other.perform c update) := by
  cases update with
  | none => exact .pure hP hx.holds (a := ()) trivial
  | some e =>
    exact .bind hP (alike_part hP h hx (hupdate e rfl)) fun _ _ _ _ hmoves =>
      .pure hP hmoves.holds (a := ()) trivial

theorem alike_execWhile {test update : Option Expr} {body : Stmt} (hx : P.At s u c x)
    (htest : ∀ e ∈ test, .expression e ∈ x.parts) (hupdate : ∀ e ∈ update, .expression e ∈ x.parts)
    (hbody : .statement body ∈ x.parts) (rounds : Nat) :
    P.Alike s u (one.execWhile c test update body rounds)
      (other.execWhile c test update body rounds) := by
  induction rounds generalizing s u with
  | zero => exact .throw hP hx.holds hP.exhausted
  | succ rounds ih =>
    refine .bind hP (alike_holds hP h hx htest) fun b t w _ hmoves => ?_
    have hx' := hx.later hP hmoves
    change P.Alike t w (if b = true then _ else _) (if b = true then _ else _)
    split
    · refine .bind hP (alike_inner hP h hx' hbody) fun done t w hdone hmoves => ?_
      have hx'' := hx'.later hP hmoves
      cases done with
      | broken => exact .pure hP hx''.holds (a := Completion.normal) trivial
      | returned v => exact .pure hP hx''.holds (a := Completion.returned v) hdone
      | normal | continued =>
        exact .bind hP (alike_perform hP h hx'' hupdate) fun _ t w _ hmoves =>
          ih (hx''.later hP hmoves)
    · exact .pure hP hx'.holds (a := Completion.normal) trivial

omit h in
theorem alike_bindRound {binding : LoopBinding} {e : Expr} {body : Stmt} {frame : Address}
    {v : Value} (hx : P.At s u c x)
    (hround : x = .statement (.loopOf binding e body) ∨ x = .statement (.loopIn binding e body))
    (howns : P.Owns s frame) (hv : P.places.Visible v) :
    P.Alike s u (bindRound c frame binding v) (bindRound c frame binding (P.places.value v)) := by
  have hwrites : ∀ n, binding.assigned? = some n → n ∈ x.writes := by
    intro n hn
    rcases hround with rfl | rfl <;> exact Option.mem_toList.mpr hn
  have hstatement : ∀ e', x ≠ .expression e' := by
    rcases hround with rfl | rfl <;> exact nofun
  have hfree : P.Free binding.name := by
    rcases hround with rfl | rfl
    · exact hP.freeRound (Or.inl hx.passes)
    · exact hP.freeRound (Or.inr hx.passes)
  have hassign : ∀ n, binding.assigned? = some n → P.Alike s u (Run.assign c.scope n v)
      (Run.assign c.scope n (P.places.value v)) := fun n hn =>
    alike_assign hP hx (hwrites n hn) (fun e' he' => absurd he' (hstatement e')) hv
  match binding, hfree, hassign with
  | .declare .functionWide n, _, hassign => exact hassign n rfl
  | .assign n, _, hassign => exact hassign n rfl
  | .declare .blockWide n, hfree, _ => exact alike_declare hP _ hx.holds howns hfree hv
  | .declare .constant n, hfree, _ => exact alike_declare hP _ hx.holds howns hfree hv

theorem alike_execEach {binding : LoopBinding} {e : Expr} {body : Stmt} {vs : List Value}
    (hx : P.At s u c x)
    (hround : x = .statement (.loopOf binding e body) ∨ x = .statement (.loopIn binding e body))
    (hvs : ∀ v ∈ vs, P.places.Visible v) :
    P.Alike s u (one.execEach c binding body vs)
      (other.execEach c binding body (vs.map P.places.value)) := by
  have hbody : .statement body ∈ x.parts := by
    rcases hround with rfl | rfl <;> exact Code.mem_parts_statement (.head _)
  induction vs generalizing s u with
  | nil => exact .pure hP hx.holds (a := Completion.normal) trivial
  | cons v vs ih =>
    obtain ⟨hv, hvs⟩ := List.forall_mem_cons.mp hvs
    refine alike_addFrame hP .block hx trivial fun frame t w howns hx' hmoves => ?_
    refine .bind hP (alike_bindRound hP hx' hround howns hv) fun _ t w _ hmoves' => ?_
    have hx'' := hx'.later hP hmoves'
    refine .bind hP (alike_inner hP h hx'' hbody) fun done t w hdone hmoves'' => ?_
    cases done with
    | broken => exact .pure hP hmoves''.holds (a := Completion.normal) trivial
    | returned v => exact .pure hP hmoves''.holds (a := Completion.returned v) hdone
    | normal | continued =>
      exact ih (((hx.later hP hmoves).later hP hmoves').later hP hmoves'') hvs

theorem alike_execLoop {first : Option Stmt} {test update : Option Expr} {body : Stmt}
    (hx : P.At s u c (.statement (.loop first test update body))) :
    P.Alike s u (one.execStep c (.loop first test update body))
      (other.execStep c (.loop first test update body)) := by
  refine alike_addFrame hP .block hx trivial fun frame t w _ hx' _ => ?_
  have hrounds : ∀ t w, P.At t w (c.push frame) (.statement (.loop first test update body)) →
      P.Alike t w (one.execWhile (c.push frame) test update body one.rounds)
        (other.execWhile (c.push frame) test update body other.rounds) := by
    intro t w hx
    rw [h.rounds]
    refine alike_execWhile hP h hx (fun e he => ?_) (fun e he => ?_) ?_ _
    · exact Code.mem_parts_value (List.mem_append_left _ (Option.mem_toList.mpr he))
    · exact Code.mem_parts_value (List.mem_append_right _ (Option.mem_toList.mpr he))
    · exact Code.mem_parts_statement (List.mem_append_right _ (.head _))
  cases first with
  | none => exact hrounds t w hx'
  | some first =>
    exact .bind hP (alike_inner hP h hx' (Code.mem_parts_statement (.head _)))
      fun _ t w _ hmoves => hrounds t w (hx'.later hP hmoves)

theorem alike_execLoopIn {binding : LoopBinding} {e : Expr} {body : Stmt}
    (hx : P.At s u c (.statement (.loopIn binding e body))) :
    P.Alike s u (one.execStep c (.loopIn binding e body)) (other.execStep c (.loopIn binding e body)) := by
  refine .bind hP (alike_part hP h hx (.head _)) fun v t w hv hmoves => .read ?_
  rw [show w.keys (rename P.places v) = t.keys v from (hP.mirrors hmoves.holds).keys v hv]
  have hkeys : ∀ k ∈ (t.keys v).map Value.string, P.places.Visible k := by
    intro k hk
    obtain ⟨name, -, rfl⟩ := List.mem_map.mp hk
    exact trivial
  have heach := alike_execEach hP h (hx.later hP hmoves) (Or.inr rfl) hkeys
  rw [List.map_map] at heach
  exact heach

theorem alike_execBlock {body : List Stmt} (hx : P.At s u c (.statement (.block body))) :
    P.Alike s u (one.execStep c (.block body)) (other.execStep c (.block body)) := by
  refine alike_addFrame hP .block hx trivial fun frame t w howns hx' _ => ?_
  have hbody : ∀ x ∈ body, P.Admits t (c.push frame) (.statement x) := fun x hx =>
    hP.part (hP.admits hx'.passes) (Code.mem_parts_statement hx)
  refine .bind hP (alike_hoistFunctions hP hx'.holds howns hbody) fun _ t w _ hmoves => ?_
  exact alike_execAll hP h hmoves.holds fun x hx => hP.admitsLater hmoves.goes (hbody x hx)

theorem alike_execStep {x : Stmt} (hx : P.At s u c (.statement x)) :
    P.Alike s u (one.execStep c x) (other.execStep c x) := by
  cases x with
  | declaration kind ds =>
    exact .bind hP (alike_execDeclaration hP h hx fun _ => id) fun _ _ _ _ hmoves =>
      .pure hP hmoves.holds (a := Completion.normal) trivial
  | function | empty => exact .pure hP hx.holds (a := Completion.normal) trivial
  | breakLoop => exact .pure hP hx.holds (a := Completion.broken) trivial
  | continueLoop => exact .pure hP hx.holds (a := Completion.continued) trivial
  | branch test a b =>
    refine .bind hP (alike_part hP h hx (.head _)) fun v t w _ hmoves => ?_
    have hx' := hx.later hP hmoves
    rw [show (rename P.places v).truthy = v.truthy from P.places.truthy_value v]
    split
    · exact alike_inner hP h hx' (Code.mem_parts_statement (.head _))
    · cases b with
      | none => exact .pure hP hx'.holds (a := Completion.normal) trivial
      | some b => exact alike_inner hP h hx' (Code.mem_parts_statement (.tail _ (.head _)))
  | loop first test update body => exact alike_execLoop hP h hx
  | loopOf binding e body =>
    refine .bind hP (alike_part hP h hx (.head _)) fun v t w hv hmoves => ?_
    refine .bind hP (twins_iterated hP e hv t w hmoves.holds) fun items t' w' hitems hmoves' => ?_
    exact alike_execEach hP h ((hx.later hP hmoves).later hP hmoves') (Or.inl rfl) hitems
  | loopIn binding e body => exact alike_execLoopIn hP h hx
  | loopWhile test body =>
    change P.Alike s u (one.execWhile c (some test) none body one.rounds)
      (other.execWhile c (some test) none body other.rounds)
    rw [h.rounds]
    refine alike_execWhile hP h hx (fun e he => ?_) (fun e he => ?_)
      (Code.mem_parts_statement (.head _)) _
    · cases he
      exact .head _
    · cases he
  | returning value =>
    cases value with
    | none => exact .pure hP hx.holds (a := Completion.returned .undefined) trivial
    | some e =>
      exact .bind hP (alike_part hP h hx (.head _)) fun v _ _ hv hmoves =>
        .pure hP hmoves.holds (a := Completion.returned v) hv
  | within e body =>
    refine .bind hP (alike_part hP h hx (.head _)) fun v t w hv hmoves => ?_
    have hx' := hx.later hP hmoves
    rw [show (rename P.places v).isNullish = v.isNullish from P.places.isNullish_value v]
    split
    · exact .fail hP hx'.holds rfl
    · exact alike_addFrame hP (.within v) hx' hv fun frame t w _ hx'' _ =>
        alike_inner hP h hx'' (Code.mem_parts_statement (.head _))
  | block body => exact alike_execBlock hP h hx
  | expression e =>
    exact .bind hP (alike_part hP h hx (.head _)) fun _ _ _ _ hmoves =>
      .pure hP hmoves.holds (a := Completion.normal) trivial

end Statements

section Calls

variable {f : Function} {frame : Address} {args : List Value}

include hP

/-- The body of a function, by its functions and statements once its names are declared. -/
theorem alike_execBody_of {body : List Stmt} (hs : P.Holds s u) (howns : P.Owns s frame)
    (hhoisted : ∀ n ∈ hoistedList body, P.Free n)
    (hbody : ∀ t w, (hoistNames frame (hoistedList body)).run.run s = (.ok (), t) → P.Moves s t w →
      P.Alike t w (do hoistFunctions c frame body; one.execAll c body)
        (do hoistFunctions c frame body; other.execAll c body)) :
    P.Alike s u (one.execBody c frame body) (other.execBody c frame body) := by
  refine .bindRun hP (alike_hoistNames hP hs howns hhoisted) fun _ t w hrun _ hmoves => ?_
  have hall := hbody t w hrun hmoves
  rw [← bind_assoc, ← bind_assoc]
  refine .bind hP hall fun done t w hdone hmoves => ?_
  cases done with
  | returned v => exact .pure hP hmoves.holds (a := v) hdone
  | _ => exact .pure hP hmoves.holds (a := Value.undefined) trivial

/-- What a program gives is the text of its value. -/
theorem alike_shown {m m' : Run Value} (h : P.Alike s u m m') :
    P.Alike s u (do let v ← m; if v = .undefined then return "" else Run.text v)
      (do let v ← m'; if v = .undefined then return "" else Run.text v) := by
  refine .bind hP h fun v t w _ hmoves => ?_
  have hundefined : rename P.places v = .undefined ↔ v = .undefined := P.places.value_eq_undefined
  by_cases hv : v = .undefined
  · rw [if_pos hv, if_pos (hundefined.mpr hv)]
    exact .pure hP hmoves.holds (a := "") trivial
  · rw [if_neg hv, if_neg (mt hundefined.mp hv)]
    exact twins_text hP v t w hmoves.holds

include h

/-- The body of a function, once its arguments are declared. -/
theorem alike_execBody (hs : P.Holds s u) (howns : P.Owns s frame)
    (hframe : frame < s.frames.size) (hfree : ∀ n ∈ f.names, P.Free n)
    (hparams : ∀ n ∈ f.params ++ f.rest.toList, s.Declares frame n)
    (hbody : ∀ t, P.Goes s t → (∀ n ∈ f.declared, t.Declares frame n) →
      ∀ x ∈ f.body, P.Admits t c (.statement x)) :
    P.Alike s u (one.execBody c frame f.body) (other.execBody c frame f.body) := by
  obtain ⟨-, hdeclared⟩ := List.forall_mem_append.mp hfree
  obtain ⟨-, hhoisted⟩ := List.forall_mem_append.mp hdeclared
  refine alike_execBody_of hP hs howns hhoisted fun t w hrun hmoves => ?_
  obtain ⟨hgrows, hnames⟩ := declares_hoisted hrun hframe
  have hbody' := hbody t hmoves.goes (List.forall_mem_append.mpr
    ⟨fun n hn => hgrows.declares (hparams n hn), hnames⟩)
  exact .bind hP (alike_hoistFunctions hP hmoves.holds (hP.ownsLater hmoves.goes howns) hbody')
    fun _ t' w' _ hmoves' => alike_execAll hP h hmoves'.holds fun x hx =>
      hP.admitsLater hmoves'.goes (hbody' x hx)

/-- The arguments of a function are declared, and its body is executed. -/
theorem alike_enter (hs : P.Holds s u) (howns : P.Owns s frame) (hframe : frame < s.frames.size)
    (hfree : ∀ n ∈ f.names, P.Free n) (hargs : ∀ v ∈ args, P.places.Visible v)
    (hbody : ∀ t, P.Goes s t → (∀ n ∈ f.declared, t.Declares frame n) →
      ∀ x ∈ f.body, P.Admits t c (.statement x)) :
    P.Alike s u (do declareArguments frame f args; one.execBody c frame f.body)
      (do declareArguments frame f (args.map P.places.value); other.execBody c frame f.body) := by
  refine .bindRun hP (alike_declareArguments hP hs howns hfree hargs) fun _ t w hrun _ hmoves => ?_
  obtain ⟨hgrows, hparams⟩ := declares_arguments hrun hframe
  exact alike_execBody hP h hmoves.holds (hP.ownsLater hmoves.goes howns) (hgrows.lt_size hframe)
    hfree hparams fun t' hgoes => hbody t' (hP.trans hmoves.goes hgoes)

theorem alike_callClosure {a : Address} {k : Closure} (hs : P.Holds s u)
    (hcall : P.PassesCall s c (.function a)) (hk : s.functions[a]? = some k)
    (hargs : ∀ v ∈ args, P.places.Visible v) :
    P.Alike s u (one.callClosure c (.function a) k args)
      (other.callClosure c (.function a) k (args.map P.places.value)) := by
  obtain ⟨hsize, howns, hmoves, hbody⟩ := hP.enter hs hcall hk
  have hfree := hP.free (hP.closure hs hk)
  have hframe := s.size_frames_addFrame .function
  obtain ⟨⟨name, params, rest, body⟩, scope⟩ := k
  refine .add hP hmoves ?_
  rw [show (u.addFrame .function).1 = (s.addFrame .function).1 from hsize]
  cases name with
  | none => exact alike_enter hP h hmoves.holds howns hframe hfree hargs hbody
  | some n =>
    have hn : P.Free n := hfree n (List.mem_append_left _ (.head _))
    refine .bind hP (alike_declare hP (v := .function a) true hmoves.holds howns hn trivial)
      fun _ t w _ hmoves' => ?_
    exact alike_enter hP h hmoves'.holds (hP.ownsLater hmoves'.goes howns)
      ((hP.grows hmoves'.goes).lt_size hframe) hfree hargs
      fun t' hgoes => hbody t' (hP.trans hmoves'.goes hgoes)

theorem alike_callStep {f : Value} (hs : P.Holds s u) (hc : P.AdmitsCall c)
    (hcall : P.PassesCall s c f) (hf : P.places.Visible f) (hargs : ∀ v ∈ args, P.places.Visible v) :
    P.Alike s u (one.callStep c f args)
      (other.callStep c (P.places.value f) (args.map P.places.value)) := by
  have hmirrors := hP.mirrors hs
  cases f with
  | function a =>
    change P.Alike s u (if _ then _ else _) (if _ then _ else _)
    split
    · exact .fail hP hs rfl
    · refine .read ?_
      rw [hmirrors.functions]
      cases hk : s.functions[a]? with
      | none => exact .fail hP hs rfl
      | some k => exact alike_callClosure hP h hs hcall hk hargs
  | builtin b =>
    exact Builtin.alike_run hP (fun f args hf hargs => h.call hc hf hargs) hs hcall hargs
  | method a =>
    refine .read ?_
    rw [hmirrors.methods, Array.getElem?_map]
    cases hm : s.methods[a]? with
    | none => exact .fail hP hs rfl
    | some m =>
      exact BoundMethod.twins_run hP (fun f args hf hargs => h.call hc hf hargs) m
        (hmirrors.visibleMethods m (Array.mem_of_getElem? hm)) hargs s u hs
  | _ => exact twins_failText hP _ (fun _ => rfl) s u hs

/-- A whole program. -/
theorem alike_runWith (hs : P.Holds s u) (howns : P.Owns s programFrame)
    (hframe : programFrame < s.frames.size) (hfree : ∀ n ∈ f.names, P.Free n)
    (hargs : ∀ v ∈ args, P.places.Visible v)
    (hbody : ∀ t, P.Goes s t → (∀ n ∈ f.declared, t.Declares programFrame n) →
      ∀ x ∈ f.body, P.Admits t programContext (.statement x)) :
    P.Alike s u (f.runWith one args) (f.runWith other (args.map P.places.value)) := by
  have hshown := alike_shown hP (alike_enter hP h hs howns hframe hfree hargs hbody)
  unfold Function.runWith
  rw [← bind_assoc, ← bind_assoc]
  exact hshown

end Calls

end Evaluator

/-- At each moment two verdicts are either not against it, and then more is known, or end the runs in
the same way. -/
structure Pairing.Judges (P : Pairing) (one other : Verdict) : Prop where
  run : ∀ {s u : Store} {c : Context} {x : Code}, P.Holds s u → P.Admits s c x →
    (one ⟨c, .run x, s⟩ = none ∧ other ⟨c, .run x, u⟩ = none ∧ P.Passes s c x) ∨
      ∃ halt, P.Fails halt ∧ one ⟨c, .run x, s⟩ = some halt ∧ other ⟨c, .run x, u⟩ = some halt
  call : ∀ {s u : Store} {c : Context} {f : Value} {args : List Value}, P.Holds s u →
    P.AdmitsCall c → P.places.Visible f → (∀ v ∈ args, P.places.Visible v) →
    (one ⟨c, .call f args, s⟩ = none ∧
        other ⟨c, .call (P.places.value f) (args.map P.places.value), u⟩ = none ∧
        P.PassesCall s c f) ∨
      ∃ halt, P.Fails halt ∧ one ⟨c, .call f args, s⟩ = some halt ∧
        other ⟨c, .call (P.places.value f) (args.map P.places.value), u⟩ = some halt

namespace Evaluator

variable {P : Pairing} (hP : P.Lawful) {one other : Verdict} (hjudges : P.Judges one other)

include hP

theorem alike_judged {α : Type} [Renamable α] {s u : Store} {c : Context} {act act' : Act}
    {m m' : Run α} (hs : P.Holds s u)
    (h : (one ⟨c, act, s⟩ = none ∧ other ⟨c, act', u⟩ = none ∧ P.Alike s u m m') ∨
      ∃ halt, P.Fails halt ∧ one ⟨c, act, s⟩ = some halt ∧ other ⟨c, act', u⟩ = some halt) :
    P.Alike s u (judged one c act m) (judged other c act' m') := by
  refine .read ?_
  rcases h with ⟨hone, hother, hm⟩ | ⟨halt, hfails, hone, hother⟩
  · rw [hone, hother]
    exact hm
  · rw [hone, hother]
    exact .throw hP hs hfails

include hjudges

/-- Whatever two runs come to, they do the same with it. -/
theorem agree_judging (bound : Nat) : P.Agree (judging one bound) (judging other bound) := by
  induction bound with
  | zero =>
    exact ⟨rfl, fun hs _ => .throw hP hs hP.exhausted, fun hs _ => .throw hP hs hP.exhausted,
      fun _ _ _ s u hs => .throw hP hs hP.exhausted⟩
  | succ bound ih =>
    rw [judging, judging]
    refine ⟨rfl, fun hs hx => ?_, fun hs hx => ?_, fun hc hf hargs s u hs => ?_⟩
    · exact alike_judged hP hs ((hjudges.run hs hx).imp_left fun h =>
        ⟨h.1, h.2.1, alike_evalStep hP ih ⟨hs, h.2.2⟩⟩)
    · exact alike_judged hP hs ((hjudges.run hs hx).imp_left fun h =>
        ⟨h.1, h.2.1, alike_execStep hP ih ⟨hs, h.2.2⟩⟩)
    · exact alike_judged hP hs ((hjudges.call hs hc hf hargs).imp_left fun h =>
        ⟨h.1, h.2.1, alike_callStep hP ih hs hc h.2.2 hf hargs⟩)

end Evaluator

end Microtemplate.Script
