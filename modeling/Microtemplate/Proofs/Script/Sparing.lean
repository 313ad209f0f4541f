import Microtemplate.Proofs.Script.Following

/-!
Programs that spare names: they declare nothing under them and change them, if at all, by appending.
Whether a program does so can be seen in its tokens, if each time such a name is written it stands
before `+=`, after a point, or alone between `return` and a semicolon: then no reader can take it
for the name of a declaration or for the target of another assignment.
-/

namespace Microtemplate.Script

/-- An expression is one of the names. -/
def Expr.IsAmong (names : String → Prop) : Expr → Prop
  | .identifier n => names n
  | _ => False

section Trees

variable (names : String → Prop) (appends : Prop)

mutual

/-- An expression spares names. Such a name is an expression only where `appends` holds. -/
inductive Expr.Spares : Expr → Prop
  | number (x : Float) : Expr.Spares (.number x)
  | string (t : String) : Expr.Spares (.string t)
  | boolean (b : Bool) : Expr.Spares (.boolean b)
  | null : Expr.Spares .null
  | array {items : List Expr} : (∀ e ∈ items, Expr.Spares e) → Expr.Spares (.array items)
  | object {properties : List (String × Expr)} : (∀ p ∈ properties, Expr.Spares p.2) →
      Expr.Spares (.object properties)
  | function {f : Function} : FunctionOf.Spares f → Expr.Spares (.function f)
  | identifier {other : String} : (names other → appends) → Expr.Spares (.identifier other)
  | member {owner : Expr} (key : String) : Expr.Spares owner → Expr.Spares (.member owner key)
  | index {owner key : Expr} : Expr.Spares owner → Expr.Spares key → Expr.Spares (.index owner key)
  | call {callee : Expr} {arguments : List Expr} : Expr.Spares callee →
      (∀ e ∈ arguments, Expr.Spares e) → Expr.Spares (.call callee arguments)
  | unary (op : UnaryOp) {e : Expr} : Expr.Spares e → Expr.Spares (.unary op e)
  | update (op : UpdateOp) (first : Bool) {target : Expr} : ¬ target.IsAmong names →
      Expr.Spares target → Expr.Spares (.update op first target)
  | binary (op : BinaryOp) {a b : Expr} : Expr.Spares a → Expr.Spares b →
      Expr.Spares (.binary op a b)
  | logical (op : LogicalOp) {a b : Expr} : Expr.Spares a → Expr.Spares b →
      Expr.Spares (.logical op a b)
  | conditional {test a b : Expr} : Expr.Spares test → Expr.Spares a → Expr.Spares b →
      Expr.Spares (.conditional test a b)
  | assign {op : Option BinaryOp} {target value : Expr} :
      (target.IsAmong names → op = some .add) → Expr.Spares target → Expr.Spares value →
      Expr.Spares (.assign op target value)
  | sequence {items : List Expr} : (∀ e ∈ items, Expr.Spares e) → Expr.Spares (.sequence items)

/-- A statement spares names. -/
inductive Stmt.Spares : Stmt → Prop
  | declaration (kind : DeclarationKind) {ds : List Declarator} :
      (∀ d ∈ ds, ¬ names d.name) → (∀ d ∈ ds, ∀ e ∈ d.initial, Expr.Spares e) →
      Stmt.Spares (.declaration kind ds)
  | function {f : Function} : FunctionOf.Spares f → Stmt.Spares (.function f)
  | branch {test : Expr} {consequent : Stmt} {alternate : Option Stmt} : Expr.Spares test →
      Stmt.Spares consequent → (∀ s ∈ alternate, Stmt.Spares s) →
      Stmt.Spares (.branch test consequent alternate)
  | loop {initial : Option Stmt} {test update : Option Expr} {body : Stmt} :
      (∀ s ∈ initial, Stmt.Spares s) → (∀ e ∈ test, Expr.Spares e) → (∀ e ∈ update, Expr.Spares e) →
      Stmt.Spares body → Stmt.Spares (.loop initial test update body)
  | loopOf {binding : LoopBinding} {e : Expr} {body : Stmt} : ¬ names binding.name →
      Expr.Spares e → Stmt.Spares body → Stmt.Spares (.loopOf binding e body)
  | loopIn {binding : LoopBinding} {e : Expr} {body : Stmt} : ¬ names binding.name →
      Expr.Spares e → Stmt.Spares body → Stmt.Spares (.loopIn binding e body)
  | loopWhile {test : Expr} {body : Stmt} : Expr.Spares test → Stmt.Spares body →
      Stmt.Spares (.loopWhile test body)
  | breakLoop : Stmt.Spares .breakLoop
  | continueLoop : Stmt.Spares .continueLoop
  | returning {value : Option Expr} : (∀ e ∈ value, Expr.Spares e) → Stmt.Spares (.returning value)
  | within {e : Expr} {body : Stmt} : Expr.Spares e → Stmt.Spares body → Stmt.Spares (.within e body)
  | block {body : List Stmt} : (∀ s ∈ body, Stmt.Spares s) → Stmt.Spares (.block body)
  | empty : Stmt.Spares .empty
  | expression {e : Expr} : Expr.Spares e → Stmt.Spares (.expression e)

/-- A function spares names. -/
inductive FunctionOf.Spares : Function → Prop
  | mk {f : Function} : (∀ n ∈ f.name, ¬ names n) → (∀ n ∈ f.params, ¬ names n) →
      (∀ n ∈ f.rest, ¬ names n) →
      (∀ s ∈ f.body, Stmt.Spares s) → FunctionOf.Spares f

end

end Trees

/-- What stands before a token, as far as it matters for a name. -/
inductive Lead where
  | plain
  /-- The keyword `return`. -/
  | returning
  /-- The point before the name of a property. -/
  | point
deriving DecidableEq

/-- What a token is to the one after it. -/
def Lead.of : Token → Lead
  | .keyword .returnWord => returning
  | .punctuator .dot => point
  | _ => plain

/-- What a token is to the one after it, given what stands before it. The name of a property is
nothing but a name. -/
def Lead.after (lead : Lead) (t : Token) : Lead := if lead = point then plain else of t

theorem Lead.after_of_plain {t : Token} (h : of t = plain) (lead : Lead) : lead.after t = plain := by
  cases lead <;> first | exact h | rfl

namespace Tokens

/-- The state after the current token. -/
def next (s : Tokens) : Tokens :=
  match s.following with
  | [] => s
  | l :: ls => ⟨l, ls⟩

/-- The current token is `+=`, on the line of the token before. -/
def Appends (s : Tokens) : Prop :=
  s.current.token = .punctuator .plusAssign ∧ s.current.newlineBefore = false

/-- Whether a name may stand between what leads to it and what follows it; the flag says whether a
line ends before it. The name of a property may stand anywhere. -/
def Allows (appends : Prop) : Lead → Bool → Tokens → Prop
  | .plain, _, s => appends ∧ s.Appends
  | .returning, newline, s =>
    appends ∧ (s.Appends ∨ newline = false ∧ s.current.token = .punctuator .semicolon)
  | .point, _, _ => True

/-- Wherever a name stands among the tokens that are left, it may stand there. -/
inductive Admits (names : String → Prop) (appends : Prop) : Lead → Tokens → Prop
  | finished (lead : Lead) : Admits names appends lead .finished
  | push {lead : Lead} {l : Located} {s : Tokens} :
      (∀ n, names n → l.token = .identifier n → s.Allows appends lead l.newlineBefore) →
      Admits names appends (lead.after l.token) s →
      Admits names appends lead (s.push l)

namespace Admits

variable {names : String → Prop} {appends : Prop} {lead : Lead} {s : Tokens}

theorem next (h : s.Admits names appends lead) : s.next.Admits names appends (lead.after s.current.token) := by
  cases h with
  | finished => exact .finished _
  | push _ hs => exact hs

theorem allows {n : String} (h : s.Admits names appends lead) (hn : names n)
    (hname : s.current.token = .identifier n) :
    s.next.Allows appends lead s.current.newlineBefore := by
  cases h with
  | finished => cases hname
  | push hallows _ => exact hallows n hn hname

theorem next_plain (h : s.Admits names appends lead) (hlead : Lead.of s.current.token = .plain) :
    s.next.Admits names appends .plain := by
  have hnext := h.next
  rwa [Lead.after_of_plain hlead] at hnext


theorem next_of {t : Token} (h : s.Admits names appends lead) (ht : Lead.of t = .plain)
    (htoken : s.current.token = t) : s.next.Admits names appends .plain :=
  h.next_plain (htoken ▸ ht)

/-- Where a statement ends after `return`, another one may start. -/
theorem of_endsStatement (h : s.Admits names appends .returning)
    (hends : Parse.endsStatement s.current = true) : s.Admits names appends .plain := by
  cases h with
  | finished => exact .finished _
  | @push _ l s hallows hs =>
    refine .push (fun n hn hname => ⟨(hallows n hn hname).1, ?_⟩) hs
    refine (hallows n hn hname).2.resolve_right fun hline => ?_
    simp [Parse.endsStatement, Tokens.push, hline.1, hname] at hends

end Admits

end Tokens

namespace Parse

variable {α β : Type}

theorem advance_apply (s : Tokens) : advance s = .ok ((), s.next) := by
  unfold advance Tokens.next
  cases s.following <;> rfl

/-- From states of one kind a reader gives results with states of another kind. -/
def Yields (P : Tokens → Prop) (p : Parse α) (Q : α → Tokens → Prop) : Prop :=
  ∀ s a u, P s → p s = .ok (a, u) → Q a u

variable {P I : Tokens → Prop} {p : Parse α} {Q Q' : α → Tokens → Prop} {f : α → Parse β}
  {R : β → Tokens → Prop}

namespace Yields

theorem before (h : Yields P p Q) (hpre : ∀ s, I s → P s) : Yields I p Q :=
  fun s a u hs hp => h s a u (hpre s hs) hp

theorem after (h : Yields P p Q) (hpost : ∀ a u, Q a u → Q' a u) : Yields P p Q' :=
  fun s a u hs hp => hpost a u (h s a u hs hp)

theorem pure {a : α} (h : ∀ s, P s → Q a s) : Yields P (pure a) Q := by
  intro s b u hs hp
  cases hp
  exact h s hs

theorem refuse (cause : Cause) (l : Located) : Yields P (refuse cause l) Q := by
  intro s a u hs hp
  cases hp

theorem unexpected : Yields P unexpected Q := by
  intro s a u hs hp
  cases hp

theorem bind (h : Yields P p Q) (hmore : ∀ a, Yields (Q a) (f a) R) : Yields P (p >>= f) R := by
  intro s b w hs hp
  obtain ⟨a, u, hpa, hfb⟩ := bind_eq_ok.mp hp
  exact hmore a u b w (h s a u hs hpa) hfb

/-- A result with a property that does not depend on the tokens. -/
theorem assume {fact : Prop} (h : fact → Yields P p Q) : Yields (fun s => P s ∧ fact) p Q :=
  fun s a u hs hp => h hs.2 s a u hs.1 hp

theorem advance {a : Parse β} (hstep : ∀ s, P s → I s.next) (h : Yields I a R) :
    Yields P (advance >>= fun _ => a) R := by
  intro s b w hs hp
  obtain ⟨_, u, hadvance, ha⟩ := bind_eq_ok.mp hp
  rw [advance_apply] at hadvance
  cases hadvance
  exact h _ b w (hstep s hs) ha

theorem located {g : Located → Parse β}
    (h : ∀ l, Yields (fun s => P s ∧ s.current = l) (g l) R) : Yields P (located >>= g) R :=
  fun s b u hs hp => h s.current s b u ⟨hs, rfl⟩ hp

theorem token {g : Token → Parse β}
    (h : ∀ t, Yields (fun s => P s ∧ s.current.token = t) (g t) R) : Yields P (token >>= g) R :=
  fun s b u hs hp => h s.current.token s b u ⟨hs, rfl⟩ hp

/-- Going over a token if it is there. -/
theorem ifEat {t : Token} {a b : Parse β}
    (hstep : ∀ s, P s → s.current.token = t → I s.next) (ha : Yields I a R) (hb : Yields P b R) :
    Yields P (eat t >>= fun found => if found = true then a else b) R := by
  intro s x u hs hp
  rw [ifEat_apply] at hp
  split at hp
  · rename_i htoken
    exact Yields.advance (P := fun s => P s ∧ s.current.token = t) (fun s h => hstep s h.1 h.2) ha
      s x u ⟨hs, htoken⟩ hp
  · exact hb s x u hs hp

end Yields

theorem Yields.expect {q : Punctuator}
    (hstep : ∀ s, P s → s.current.token = .punctuator q → I s.next) :
    Yields P (expect q) fun _ => I := by
  refine .located fun l => ?_
  split
  · rename_i hl
    rintro s a u ⟨hs, rfl⟩ hp
    rw [advance_apply] at hp
    cases hp
    exact hstep s hs hl
  · exact .refuse _ _

theorem Yields.identifier {Q : String → Tokens → Prop}
    (hstep : ∀ n s, P s → s.current.token = .identifier n → Q n s.next) : Yields P identifier Q := by
  refine .located fun l => ?_
  split
  · rename_i n hl
    refine .advance (I := Q n) ?_ (.pure fun s hs => hs)
    rintro s ⟨hs, rfl⟩
    exact hstep n s hs hl
  · exact .refuse _ _

section Items

variable {item : Parse α} {good : α → Prop} (hitem : Yields P item fun a u => P u ∧ good a)
  (hcomma : ∀ s, P s → s.current.token = .punctuator .comma → P s.next)

include hitem hcomma

theorem Yields.afterCommas (k : Nat) :
    Yields P (afterCommas item k) fun as u => P u ∧ ∀ a ∈ as, good a := by
  induction k with
  | zero => exact .pure fun s hs => ⟨hs, by simp⟩
  | succ k ih =>
    refine .ifEat hcomma ?_ (.pure fun s hs => ⟨hs, by simp⟩)
    refine hitem.bind fun a => .assume fun ha => ?_
    exact ih.bind fun more => .pure fun s hs => ⟨hs.1, List.forall_mem_cons.mpr ⟨ha, hs.2⟩⟩

theorem Yields.separated {close : Punctuator}
    (hclose : ∀ s, P s → s.current.token = .punctuator close → P s.next) (k : Nat) :
    Yields P (separated item close k) fun as u => P u ∧ ∀ a ∈ as, good a := by
  induction k with
  | zero => exact .unexpected
  | succ k ih =>
    refine .ifEat hclose (.pure fun s hs => ⟨hs, by simp⟩) ?_
    refine hitem.bind fun a => .assume fun ha => .ifEat hcomma ?_ ?_
    · exact ih.bind fun more => .pure fun s hs => ⟨hs.1, List.forall_mem_cons.mpr ⟨ha, hs.2⟩⟩
    · exact (Yields.expect hclose).bind fun _ => .pure fun s hs =>
        ⟨hs, List.forall_mem_singleton.mpr ha⟩

end Items

end Parse

end Microtemplate.Script
