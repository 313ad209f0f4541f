import Microtemplate.Proofs.Script.Code
import Microtemplate.Proofs.Script.Sparing

/-!
Code that spares names. What is inside such code spares them too; it declares none of them, and the
only assignments to them append.
-/

namespace Microtemplate.Script

section Hoisting

variable {names : String → Prop} {appends : Prop} {n : String}

/-- A name that a loop declares function-wide is its own or one of its body. -/
theorem eq_or_mem_of_mem_hoisted_loop {binding : LoopBinding} {e : Expr} {body : Stmt}
    (h : n ∈ (Stmt.loopOf binding e body).hoisted ∨ n ∈ (Stmt.loopIn binding e body).hoisted) :
    n = binding.name ∨ n ∈ body.hoisted := by
  rcases binding with ⟨_ | _ | _, m⟩ | m <;> rcases h with h | h <;>
    first | exact List.mem_cons.mp h | exact .inr h

mutual

/-- A statement that spares names does not declare them function-wide. -/
theorem Stmt.Spares.not_of_mem_hoisted :
    ∀ {s : Stmt}, s.Spares names appends → n ∈ s.hoisted → ¬ names n
  | .declaration kind ds, h, hn => by
    cases h with
    | declaration _ hnames _ =>
      cases kind with
      | functionWide =>
        obtain ⟨d, hd, rfl⟩ := List.mem_map.mp hn
        exact hnames d hd
      | _ => cases hn
  | .function _, _, hn => by cases hn
  | .branch _ _ _, h, hn => by
    cases h with
    | branch _ hconsequent halternate =>
      exact (List.mem_append.mp hn).elim hconsequent.not_of_mem_hoisted
        (not_of_mem_hoistedOption halternate)
  | .loop _ _ _ _, h, hn => by
    cases h with
    | loop hinitial _ _ hbody =>
      exact (List.mem_append.mp hn).elim (not_of_mem_hoistedOption hinitial)
        hbody.not_of_mem_hoisted
  | .loopOf binding _ _, h, hn => by
    cases h with
    | loopOf hname _ hbody =>
      exact (eq_or_mem_of_mem_hoisted_loop (.inl hn)).elim (fun heq => heq ▸ hname)
        hbody.not_of_mem_hoisted
  | .loopIn binding _ _, h, hn => by
    cases h with
    | loopIn hname _ hbody =>
      exact (eq_or_mem_of_mem_hoisted_loop (.inr hn)).elim (fun heq => heq ▸ hname)
        hbody.not_of_mem_hoisted
  | .loopWhile _ _, h, hn => by
    cases h with
    | loopWhile _ hbody => exact hbody.not_of_mem_hoisted hn
  | .within _ _, h, hn => by
    cases h with
    | within _ hbody => exact hbody.not_of_mem_hoisted hn
  | .block _, h, hn => by
    cases h with
    | block hbody => exact not_of_mem_hoistedList hbody hn
  | .breakLoop, _, hn | .continueLoop, _, hn | .returning _, _, hn | .empty, _, hn
  | .expression _, _, hn => by cases hn

theorem Stmt.Spares.not_of_mem_hoistedOption :
    ∀ {s : Option Stmt}, (∀ s' ∈ s, s'.Spares names appends) → n ∈ hoistedOption s → ¬ names n
  | none, _, hn => by cases hn
  | some s, h, hn => (h s rfl).not_of_mem_hoisted hn

theorem Stmt.Spares.not_of_mem_hoistedList :
    ∀ {ss : List Stmt}, (∀ s ∈ ss, s.Spares names appends) → n ∈ hoistedList ss → ¬ names n
  | [], _, hn => by cases hn
  | s :: ss, h, hn => by
    obtain ⟨hs, hss⟩ := List.forall_mem_cons.mp h
    exact (List.mem_append.mp hn).elim hs.not_of_mem_hoisted (not_of_mem_hoistedList hss)

end

/-- A function that spares names has none of them. -/
theorem FunctionOf.Spares.not_of_mem_names {f : Function} (h : f.Spares names appends)
    (hn : n ∈ f.names) : ¬ names n := by
  cases h with
  | mk hname hparams hrest hbody =>
    rcases List.mem_append.mp hn with hn | hn
    · exact hname n (Option.mem_toList.mp hn)
    · rcases List.mem_append.mp hn with hn | hn
      · rcases List.mem_append.mp hn with hn | hn
        · exact hparams n hn
        · exact hrest n (Option.mem_toList.mp hn)
      · exact Stmt.Spares.not_of_mem_hoistedList hbody hn

end Hoisting

namespace Code

/-- Code spares names. -/
def Spares (names : String → Prop) (appends : Prop) : Code → Prop
  | expression e => e.Spares names appends
  | statement s => s.Spares names appends

namespace Spares

variable {names : String → Prop} {appends : Prop} {x y : Code} {n : String}

theorem part_expression {e part : Expr} (h : e.Spares names appends) (hpart : part ∈ e.parts) :
    part.Spares names appends := by
  cases h with
  | array h | sequence h => exact h part hpart
  | object h =>
    obtain ⟨p, hp, rfl⟩ := List.mem_map.mp hpart
    exact h p hp
  | member _ h | unary _ h | update _ _ _ h => exact List.mem_singleton.mp hpart ▸ h
  | index ha hb | binary _ ha hb | logical _ ha hb | assign _ ha hb =>
    rcases List.mem_cons.mp hpart with rfl | hpart
    · exact ha
    · exact List.mem_singleton.mp hpart ▸ hb
  | call hcallee harguments =>
    rcases List.mem_cons.mp hpart with rfl | hpart
    · exact hcallee
    · exact harguments part hpart
  | conditional htest ha hb =>
    rcases List.mem_cons.mp hpart with rfl | hpart
    · exact htest
    · rcases List.mem_cons.mp hpart with rfl | hpart
      · exact ha
      · exact List.mem_singleton.mp hpart ▸ hb
  | _ => cases hpart

theorem part_value {s : Stmt} {e : Expr} (h : s.Spares names appends) (he : e ∈ s.expressions) :
    e.Spares names appends := by
  cases h with
  | declaration _ _ hinitial =>
    obtain ⟨d, hd, hvalue⟩ := List.mem_filterMap.mp he
    exact hinitial d hd e hvalue
  | branch htest _ _ | loopWhile htest _ => exact List.mem_singleton.mp he ▸ htest
  | loop _ htest hupdate _ =>
    exact (List.mem_append.mp he).elim (fun he => htest e (Option.mem_toList.mp he))
      fun he => hupdate e (Option.mem_toList.mp he)
  | loopOf _ hvalue _ | loopIn _ hvalue _ => exact List.mem_singleton.mp he ▸ hvalue
  | within hvalue _ | expression hvalue => exact List.mem_singleton.mp he ▸ hvalue
  | returning hvalue => exact hvalue e (Option.mem_toList.mp he)
  | _ => cases he

theorem part_statement {s part : Stmt} (h : s.Spares names appends) (hpart : part ∈ s.statements) :
    part.Spares names appends := by
  cases h with
  | branch _ hconsequent halternate =>
    rcases List.mem_cons.mp hpart with rfl | hpart
    · exact hconsequent
    · exact halternate part (Option.mem_toList.mp hpart)
  | loop hinitial _ _ hbody =>
    rcases List.mem_append.mp hpart with hpart | hpart
    · exact hinitial part (Option.mem_toList.mp hpart)
    · exact List.mem_singleton.mp hpart ▸ hbody
  | loopOf _ _ hbody | loopIn _ _ hbody | loopWhile _ hbody | within _ hbody =>
    exact List.mem_singleton.mp hpart ▸ hbody
  | block hbody => exact hbody part hpart
  | _ => cases hpart

/-- The parts of code that spares names spare them. -/
theorem part (h : x.Spares names appends) (hy : y ∈ x.parts) : y.Spares names appends := by
  cases x with
  | expression e =>
    obtain ⟨e', he', rfl⟩ := List.mem_map.mp hy
    exact part_expression h he'
  | statement s =>
    rcases List.mem_append.mp hy with hy | hy
    · obtain ⟨e, he, rfl⟩ := List.mem_map.mp hy
      exact part_value h he
    · obtain ⟨s', hs', rfl⟩ := List.mem_map.mp hy
      exact part_statement h hs'

/-- The functions that code makes spare the names that it spares. -/
theorem function {f : Function} (h : x.Spares names appends) (hf : f ∈ x.functions) :
    f.Spares names appends := by
  rcases x with e | s
  · cases h with
    | function h => exact List.mem_singleton.mp hf ▸ h
    | _ => cases hf
  · cases h with
    | function h => exact List.mem_singleton.mp hf ▸ h
    | _ => cases hf

/-- A target with a name is the name. -/
theorem eq_identifier_of_mem {target : Expr} (h : n ∈ target.name?.toList) :
    target = .identifier n := by
  cases target with
  | identifier m => exact congrArg Expr.identifier (List.mem_singleton.mp h).symm
  | _ => cases h

/-- Code reads names that it spares only where it may append to them. -/
theorem of_mem_reads (h : x.Spares names appends) (hn : n ∈ x.reads) (hname : names n) :
    appends := by
  have htarget : ∀ target : Expr, n ∈ target.name?.toList → target.Spares names appends →
      appends := by
    intro target hmem htarget
    rw [eq_identifier_of_mem hmem] at htarget
    cases htarget with
    | identifier h => exact h hname
  rcases x with e | s
  · cases h with
    | identifier h => exact h (List.mem_singleton.mp hn ▸ hname)
    | update _ _ _ h => exact htarget _ hn h
    | @assign op _ _ _ h _ =>
      cases op with
      | none => cases hn
      | some op => exact htarget _ hn h
    | _ => cases hn
  · cases hn

/-- The only assignments to names that are spared append. -/
theorem of_mem_writes (h : x.Spares names appends) (hn : n ∈ x.writes) (hname : names n) :
    ∃ value, x = .expression (.assign (some .add) (.identifier n) value) := by
  have hround : ∀ binding : LoopBinding, n ∈ binding.assigned?.toList → names binding.name := by
    rintro (⟨_ | _ | _, m⟩ | m) hmem
    · exact List.mem_singleton.mp hmem ▸ hname
    · cases hmem
    · cases hmem
    · exact List.mem_singleton.mp hmem ▸ hname
  rcases x with e | s
  · cases h with
    | update _ _ hnot _ =>
      rw [eq_identifier_of_mem hn] at hnot
      exact absurd hname hnot
    | assign hop _ _ =>
      obtain rfl := eq_identifier_of_mem hn
      obtain rfl := hop hname
      exact ⟨_, rfl⟩
    | _ => cases hn
  · cases h with
    | declaration kind hnames _ =>
      cases kind with
      | functionWide =>
        obtain ⟨d, hd, rfl⟩ := List.mem_map.mp hn
        exact absurd hname (hnames d hd)
      | _ => cases hn
    | loopOf hnot _ _ => exact absurd (hround _ hn) hnot
    | loopIn hnot _ _ => exact absurd (hround _ hn) hnot
    | _ => cases hn

/-- Code that spares names altogether looks none of them up. -/
theorem not_of_looksUp (h : x.Spares names False) (hn : n ∈ x.reads ∨ n ∈ x.probes ∨ n ∈ x.writes) :
    ¬ names n := by
  intro hname
  rcases hn with hn | hn | hn
  · exact h.of_mem_reads hn hname
  · have hidentifier : Code.expression (.identifier n) ∈ x.parts := by
      unfold Code.probes at hn
      split at hn
      · obtain rfl := List.mem_singleton.mp hn
        exact .head _
      · cases hn
    exact (h.part hidentifier).of_mem_reads (.head _) hname
  · obtain ⟨value, rfl⟩ := h.of_mem_writes hn hname
    exact (h.part (.head _)).of_mem_reads (.head _) hname

end Spares

end Code

end Microtemplate.Script
