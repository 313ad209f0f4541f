import Microtemplate.Proofs.Script.SparingExpressions
import Microtemplate.Script.Reader

/-!
The readers of statements, from tokens among which a name stands only where it may. A reader that has
gone over the name as that of a declaration stands before `+=`, where no statement ends, so that what
is read in the end spares the name.
-/

namespace Microtemplate.Script

namespace Reader

open Parse

variable {names : String → Prop} {appends : Prop} {limit : Nat} {inner : Nested}

section Statements

variable (h : NestedSpares names appends inner)

theorem lead_of_declaration {t : Token} {kind : DeclarationKind}
    (hkind : DeclarationKind.ofToken? t = some kind) : Lead.of t = .plain := by
  unfold DeclarationKind.ofToken? at hkind
  split at hkind
  case h_4 => cases hkind
  all_goals rfl

/-- The end of a statement is nowhere before `+=` on the same line. -/
theorem terminator_yields {B : Prop} : Yields (Hangs names appends B) terminator
    fun _ u => u.Admits names appends .plain ∧ ¬ B := by
  refine .located fun l => ?_
  split
  · rename_i hl
    rintro s a u ⟨hs, rfl⟩ hp
    rw [advance_apply] at hp
    cases hp
    exact ⟨hs.admits.next_plain (by rw [hl]; rfl), hs.ne (by rw [hl]; decide)⟩
  split
  · rename_i hends
    refine .pure fun s hs => ⟨hs.1.admits, fun hbad => ?_⟩
    obtain ⟨hs, rfl⟩ := hs
    obtain ⟨htoken, hline⟩ := hs.appends hbad
    simp [endsStatement, htoken, hline] at hends
  · exact .refuse _ _

include h

theorem initial_yields {B : Prop} : Yields (Hangs names appends B) (initial inner)
    fun value u => Hangs names appends B u ∧ ∀ e ∈ value, e.Spares names appends := by
  refine ifEat_hangs rfl (by decide) (fun hbad => ?_) (.pure fun s hs => ⟨hs, by simp⟩)
  refine h.value.bind fun e => .pure fun s hs => ⟨.of_admits hs.1 hbad, fun e' he' => ?_⟩
  cases he'
  exact hs.2

theorem declaratorOf_yields (kind : DeclarationKind) (l : Located) (n : String) :
    Yields (Hangs names appends (names n)) (declaratorOf inner kind l n)
      fun d u => Hangs names appends (names d.name) u ∧ ∀ e ∈ d.initial, e.Spares names appends := by
  refine (initial_yields h).bind fun value => ?_
  split
  · exact .refuse _ _
  · exact .pure fun s hs => hs

theorem declaratorsRest_yields {B : Prop} (kind : DeclarationKind) (k : Nat) :
    Yields (Hangs names appends B) (declaratorsRest inner kind k) fun ds u =>
      Hangs names appends (B ∨ ∃ d ∈ ds, names d.name) u ∧
        ∀ d ∈ ds, ∀ e ∈ d.initial, e.Spares names appends := by
  have hnone : ∀ B, Yields (Hangs names appends B) (pure []) fun (ds : List Declarator) u =>
      Hangs names appends (B ∨ ∃ d ∈ ds, names d.name) u ∧
        ∀ d ∈ ds, ∀ e ∈ d.initial, e.Spares names appends :=
    fun B => .pure fun s hs => ⟨⟨hs.admits, fun hbad => hs.appends (by simpa using hbad)⟩, by simp⟩
  induction k generalizing B with
  | zero => exact hnone B
  | succ k ih =>
    refine ifEat_hangs rfl (by decide) (fun hbad => .located fun l => ?_) (hnone B)
    refine (identifier_yields.before fun s hs => hs.1).bind fun n => ?_
    refine (declaratorOf_yields h kind l n).bind fun d => .assume fun hd => ?_
    refine ih.bind fun more => .pure fun s hs => ⟨⟨hs.1.admits, fun hwrong => ?_⟩, ?_⟩
    · refine hs.1.appends ?_
      simpa [hbad] using hwrong
    · exact List.forall_mem_cons.mpr ⟨hd, hs.2⟩

theorem declarators_yields (kind : DeclarationKind) :
    Yields (·.Admits names appends .plain) (declarators limit inner kind) fun ds u =>
      Hangs names appends (∃ d ∈ ds, names d.name) u ∧
        ∀ d ∈ ds, ∀ e ∈ d.initial, e.Spares names appends := by
  refine .located fun l => ?_
  refine (identifier_yields.before fun s hs => hs.1).bind fun n => ?_
  refine (declaratorOf_yields h kind l n).bind fun d => .assume fun hd => ?_
  refine (declaratorsRest_yields h kind limit).bind fun more => .pure fun s hs => ⟨⟨hs.1.admits, ?_⟩, ?_⟩
  · exact fun hwrong => hs.1.appends (by simpa using hwrong)
  · exact List.forall_mem_cons.mpr ⟨hd, hs.2⟩

theorem parenthesized_yields : Yields (·.Admits names appends .plain) (parenthesized limit inner)
    fun e u => u.Admits names appends .plain ∧ e.Spares names appends := by
  refine (expect_admits (by decide)).bind fun _ => ?_
  refine (expression_yields h (by decide)).bind fun e => .assume fun he => ?_
  exact (expect_admits (by decide)).bind fun _ => .pure fun s hs => ⟨hs, he.spares⟩

/-- A loop over elements or keys; if there is none, the tokens stay. -/
theorem eachTail_yields (binding : LoopBinding) :
    Yields (Hangs names appends (names binding.name)) (eachTail limit inner binding) fun found u =>
      match found with
      | some s => u.Admits names appends .plain ∧ s.Spares names appends
      | none => Hangs names appends (names binding.name) u := by
  have hnext : ∀ (t t' : Token) (s : Tokens), Lead.of t' = .plain → t' ≠ .punctuator .plusAssign →
      t = t' → (Hangs names appends (names binding.name) s ∧ s.current.token = t) →
      s.next.Admits names appends .plain ∧ ¬ names binding.name := by
    rintro t _ s hlead hne rfl ⟨hs, rfl⟩
    exact ⟨hs.admits.next_plain hlead, hs.ne hne⟩
  refine .token fun t => ?_
  split
  · rename_i ht
    refine .advance (fun s hs => hnext t _ s rfl (by decide) ht hs) (.assume fun hbinding => ?_)
    refine h.value.bind fun e => .assume fun he => ?_
    refine (expect_admits (by decide)).bind fun _ => ?_
    exact (h.statement true).bind fun body => .pure fun s hs => ⟨hs.1, .loopOf hbinding he hs.2⟩
  split
  · rename_i ht
    refine .advance (fun s hs => hnext t _ s rfl (by decide) ht hs) (.assume fun hbinding => ?_)
    refine (expression_yields h (by decide)).bind fun e => .assume fun he => ?_
    refine (expect_admits (by decide)).bind fun _ => ?_
    exact (h.statement true).bind fun body => .pure fun s hs =>
      ⟨hs.1, .loopIn hbinding he.spares hs.2⟩
  · exact .pure fun s hs => hs.1

theorem expressionBefore_yields (p : Punctuator) :
    Yields (·.Admits names appends .plain) (expressionBefore limit inner p)
      fun value u => u.Admits names appends .plain ∧ ∀ e ∈ value, e.Spares names appends := by
  refine .token fun t => ?_
  split
  · exact .pure fun s hs => ⟨hs.1, by simp⟩
  · refine ((expression_yields h (by decide)).before fun s hs => hs.1).bind fun e => .pure fun s hs =>
      ⟨hs.1, fun e' he' => ?_⟩
    cases he'
    exact hs.2.spares

theorem loopTail_yields {B : Prop} (first : Option Stmt)
    (hfirst : ¬ B → ∀ s ∈ first, s.Spares names appends) :
    Yields (Hangs names appends B) (loopTail limit inner first)
      fun s u => u.Admits names appends .plain ∧ s.Spares names appends := by
  refine (expect_yields (by decide)).bind fun _ => .assume fun hbad => ?_
  refine (expressionBefore_yields h .semicolon).bind fun test => .assume fun htest => ?_
  refine (expect_admits (by decide)).bind fun _ => ?_
  refine (expressionBefore_yields h .rightParen).bind fun update => .assume fun hupdate => ?_
  refine (expect_admits (by decide)).bind fun _ => ?_
  exact (h.statement true).bind fun body => .pure fun s hs =>
    ⟨hs.1, .loop (hfirst hbad) htest hupdate hs.2⟩

theorem loop_yields : Yields (·.Admits names appends .plain) (loop limit inner)
    fun s u => u.Admits names appends .plain ∧ s.Spares names appends := by
  have hexpression : ∀ e : Expr, e.Spares names appends →
      Yields (·.Admits names appends .plain) (loopTail limit inner (some (.expression e)))
        fun s u => u.Admits names appends .plain ∧ s.Spares names appends := by
    intro e he
    refine (loopTail_yields h (B := False) _ fun _ s hs => ?_).before fun s hs => .of_admits hs not_false
    cases hs
    exact .expression he
  have heach : ∀ (binding : LoopBinding) (more : Parse Stmt),
      Yields (Hangs names appends (names binding.name)) more
        (fun s u => u.Admits names appends .plain ∧ s.Spares names appends) →
      Yields (Hangs names appends (names binding.name))
        (do
          match ← eachTail limit inner binding with
          | some s => return s
          | none => more)
        fun s u => u.Admits names appends .plain ∧ s.Spares names appends := by
    intro binding more hmore
    refine (eachTail_yields h binding).bind fun found => ?_
    cases found with
    | some s => exact .pure fun _ hs => hs
    | none => exact hmore
  refine (expect_admits (by decide)).bind fun _ => .token fun t => ?_
  split
  · rename_i kind hkind
    refine .advance (I := (·.Admits names appends .plain)) ?_ ?_
    · rintro s ⟨hs, rfl⟩
      exact hs.next_plain (lead_of_declaration hkind)
    refine identifier_yields.bind fun n => heach (.declare kind n) _ (.located fun l => ?_)
    refine ((declaratorOf_yields h kind l n).before fun s hs => hs.1).bind fun d =>
      .assume fun hd => ?_
    refine (declaratorsRest_yields h kind limit).bind fun more => .assume fun hmore => ?_
    refine loopTail_yields h _ fun hwrong s hs => ?_
    cases hs
    refine .declaration kind (fun d' hd' hname => hwrong ?_) (List.forall_mem_cons.mpr ⟨hd, hmore⟩)
    rcases List.mem_cons.mp hd' with rfl | hd'
    · exact Or.inl hname
    · exact Or.inr ⟨d', hd', hname⟩
  · split
    · exact (loopTail_yields h (B := False) none (by simp)).before fun s hs =>
        .of_admits hs.1 not_false
    · refine ((expression_yields h (by decide)).before fun s hs => hs.1).bind fun e =>
        .assume fun he => ?_
      split
      · rename_i n
        have hne : ¬ names n := he.alone rfl
        refine (heach (.assign n) _ ?_).before fun s hs => .of_admits hs hne
        exact (hexpression _ he.spares).before fun s hs => hs.admits
      · exact hexpression e he.spares

theorem branch_yields (inLoop : Bool) : Yields (·.Admits names appends .plain) (branch limit inner inLoop)
    fun s u => u.Admits names appends .plain ∧ s.Spares names appends := by
  refine (parenthesized_yields h).bind fun test => .assume fun htest => ?_
  refine (h.statement inLoop).bind fun consequent => .assume fun hconsequent => ?_
  refine ifEat_admits rfl ?_ (.pure fun s hs => ⟨hs, .branch htest hconsequent (by simp)⟩)
  refine (h.statement inLoop).bind fun alternate => .pure fun s hs =>
    ⟨hs.1, .branch htest hconsequent fun s' hs' => ?_⟩
  cases hs'
  exact hs.2

omit h in
theorem loopWord_yields (inLoop : Bool) (start : Located) (outside : Cause) {s : Stmt}
    (hs : s.Spares names appends) : Yields (·.Admits names appends .plain) (loopWord inLoop start outside s)
      fun s u => u.Admits names appends .plain ∧ s.Spares names appends := by
  unfold loopWord
  split
  · exact ((terminator_yields (B := False)).before fun s hs => .of_admits hs not_false).bind
      fun _ => .pure fun u hu => ⟨hu.1, hs⟩
  · exact .refuse _ _

omit h in
/-- A terminator where nothing can be wrong. -/
theorem terminator_admits : Yields (·.Admits names appends .plain) terminator
    fun _ u => u.Admits names appends .plain :=
  ((terminator_yields (B := False)).before fun _ hs => .of_admits hs not_false).after
    fun _ _ hs => hs.1

omit h in
/-- The end of a statement that stands directly after `return`. -/
theorem terminator_returning {l : Located}
    (hend : (endsStatement l || l.token = .punctuator .semicolon) = true) :
    Yields (fun s => s.Admits names appends .returning ∧ s.current = l) terminator
      fun _ u => u.Admits names appends .plain := by
  rintro s a u ⟨hs, rfl⟩ hp
  by_cases hsemicolon : s.current.token = .punctuator .semicolon
  · have hterminator : terminator s = .ok ((), s.next) := by
      rw [← advance_apply]
      change (if s.current.token = _ then advance else _) s = _
      rw [if_pos hsemicolon]
    rw [hterminator] at hp
    cases hp
    exact hs.next_plain (by rw [hsemicolon]; rfl)
  · have hends : endsStatement s.current = true := by simpa [hsemicolon] using hend
    exact terminator_admits s a u (hs.of_endsStatement hends) hp

theorem returned_yields : Yields (·.Admits names appends .returning) (returned limit inner)
    fun s u => u.Admits names appends .plain ∧ s.Spares names appends := by
  refine .located fun l => ?_
  dsimp only
  split
  · rename_i hend
    have hnone : Yields (fun s => s.Admits names appends .returning ∧ s.current = l)
        (do terminator; return Stmt.returning none)
        fun s u => u.Admits names appends .plain ∧ s.Spares names appends :=
      (terminator_returning hend).bind fun _ => .pure fun s hs => ⟨hs, .returning (by simp)⟩
    exact hnone
  · refine Yields.bind (Q := fun value u => u.Admits names appends .plain ∧
      ∀ e ∈ value, e.Spares names appends) ?_ fun value => .assume fun hvalue =>
        terminator_admits.bind fun _ => .pure fun s hs => ⟨hs, .returning hvalue⟩
    refine ((expression_yields h (by decide)).before fun s hs => hs.1).bind fun e =>
      .pure fun s hs => ⟨hs.1, fun e' he' => ?_⟩
    cases he'
    exact hs.2.spares

theorem expressionStatement_yields : Yields (·.Admits names appends .plain)
    (expressionStatement limit inner)
    fun s u => u.Admits names appends .plain ∧ s.Spares names appends := by
  refine (expression_yields h (by decide)).bind fun e => .assume fun he => ?_
  exact terminator_admits.bind fun _ => .pure fun s hs => ⟨hs, .expression he.spares⟩

theorem keywordStatement_yields (inLoop : Bool) (start : Located) (k : Keyword) :
    Yields (fun s => s.Admits names appends .plain ∧ s.current.token = .keyword k)
      (keywordStatement limit inner inLoop start k)
      fun s u => u.Admits names appends .plain ∧ s.Spares names appends := by
  have hword : ∀ (p : Parse Stmt), k ≠ .returnWord → Yields (·.Admits names appends .plain) p
        (fun s u => u.Admits names appends .plain ∧ s.Spares names appends) →
      Yields (fun s => s.Admits names appends .plain ∧ s.current.token = .keyword k)
        (advance >>= fun _ => p) fun s u => u.Admits names appends .plain ∧ s.Spares names appends := by
    intro p hk hp
    refine .advance ?_ hp
    rintro s ⟨hs, htoken⟩
    refine hs.next_plain ?_
    rw [htoken]
    cases k <;> first | rfl | exact absurd rfl hk
  unfold keywordStatement
  split
  · exact ((function_yields h false).before fun s hs => hs.1).bind fun f => .pure fun s hs =>
      ⟨hs.1, .function hs.2⟩
  · exact hword _ (by decide) (branch_yields h inLoop)
  · exact hword _ (by decide) (loop_yields h)
  · refine hword _ (by decide) ?_
    refine (parenthesized_yields h).bind fun test => .assume fun htest => ?_
    exact (h.statement true).bind fun body => .pure fun s hs => ⟨hs.1, .loopWhile htest hs.2⟩
  · exact hword _ (by decide) (loopWord_yields inLoop start _ .breakLoop)
  · exact hword _ (by decide) (loopWord_yields inLoop start _ .continueLoop)
  · refine .advance ?_ (returned_yields h)
    rintro s ⟨hs, htoken⟩
    have hnext := hs.next
    rwa [htoken] at hnext
  · refine hword _ (by decide) ?_
    refine (parenthesized_yields h).bind fun e => .assume fun he => ?_
    exact (h.statement inLoop).bind fun body => .pure fun s hs => ⟨hs.1, .within he hs.2⟩
  · exact (expressionStatement_yields h).before fun s hs => hs.1

theorem statement_yields (inLoop : Bool) :
    Yields (·.Admits names appends .plain) (statement limit inner inLoop)
      fun s u => u.Admits names appends .plain ∧ s.Spares names appends := by
  refine .located fun start => ?_
  split
  · rename_i kind hkind
    refine .advance (I := (·.Admits names appends .plain)) ?_ ?_
    · rintro s ⟨hs, rfl⟩
      exact hs.next_plain (lead_of_declaration hkind)
    refine (declarators_yields h kind).bind fun ds => .assume fun hds => ?_
    refine terminator_yields.bind fun _ => .assume fun hname => .pure fun s hs => ⟨hs, ?_⟩
    exact .declaration kind (fun d hd heq => hname ⟨d, hd, heq⟩) hds
  split
  · exact ((braced_yields h inLoop).before fun s hs => hs.1).bind fun body => .pure fun s hs =>
      ⟨hs.1, .block hs.2⟩
  · rename_i htoken
    refine .advance (I := (·.Admits names appends .plain)) ?_ (.pure fun s hs => ⟨hs, .empty⟩)
    rintro s ⟨hs, rfl⟩
    exact hs.next_plain (by rw [htoken]; rfl)
  · rename_i k htoken
    refine (keywordStatement_yields h inLoop start k).before ?_
    rintro s ⟨hs, rfl⟩
    exact ⟨hs, htoken⟩
  · exact (expressionStatement_yields h).before fun s hs => hs.1

end Statements

/-- The readers of every level of nesting read what spares the name. -/
theorem nested_spares (names : String → Prop) (appends : Prop) (limit levels : Nat) :
    NestedSpares names appends (nested limit levels) := by
  induction levels with
  | zero =>
    exact ⟨fun _ => .located fun l => .refuse _ _, fun _ _ => .located fun l => .refuse _ _,
      .located fun l => .refuse _ _⟩
  | succ levels ih =>
    exact ⟨statement_yields ih, fun _ => assignment_yields ih, unary_yields ih (by decide)⟩

end Reader

end Microtemplate.Script
