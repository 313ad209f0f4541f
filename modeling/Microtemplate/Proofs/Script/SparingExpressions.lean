import Microtemplate.Proofs.Script.Sparing
import Microtemplate.Script.Reader.Expression

/-!
The readers of functions and expressions, from tokens among which a name stands only where it may. An
operand that would do something else to the name than append to it stands before `+=` and cannot be
assigned to, so that no reader goes on from it; what is read in the end spares the name.
-/

namespace Microtemplate.Script

namespace Reader

open Parse

variable {names : String → Prop} {appends : Prop} {lead : Lead} {limit : Nat} {inner : Nested}

/-- The tokens that are left begin with `+=` if something is wrong with what has been read. -/
structure Hangs (names : String → Prop) (appends bad : Prop) (s : Tokens) : Prop where
  admits : s.Admits names appends .plain
  appends : bad → s.Appends

theorem Hangs.imp {bad bad' : Prop} {s : Tokens} (h : Hangs names appends bad s)
    (himp : bad' → bad) : Hangs names appends bad' s := ⟨h.admits, fun hbad => h.appends (himp hbad)⟩

/-- What reading an operand leaves. Where the operand is not fit for a program that spares the name,
it cannot be assigned to and stands before `+=`. -/
structure Operand (names : String → Prop) (appends : Prop) (lead : Lead) (e : Expr) (s : Tokens) : Prop where
  admits : s.Admits names appends .plain
  alone : e.IsAmong names →
    s.Appends ∨ (lead = .returning ∧ s.current.token = .punctuator .semicolon)
  spares : e.Spares names appends ∨ (s.Appends ∧ e.isTarget = false)

/-- An assignment that spares the name; it is the name alone only after `return`. -/
structure Assigned (names : String → Prop) (appends : Prop) (lead : Lead) (e : Expr) : Prop where
  alone : lead = .plain → ¬ e.IsAmong names
  spares : e.Spares names appends

/-- The readers of the next level read what spares the name. -/
structure NestedSpares (names : String → Prop) (appends : Prop) (inner : Nested) : Prop where
  statement : ∀ inLoop, Yields (·.Admits names appends .plain) (inner.statement inLoop)
    fun s u => u.Admits names appends .plain ∧ s.Spares names appends
  assignment : ∀ lead, lead ≠ .point → Yields (·.Admits names appends lead) inner.assignment
    fun e u => u.Admits names appends .plain ∧ Assigned names appends lead e
  unary : Yields (·.Admits names appends .plain) inner.unary (Operand names appends .plain)

section Steps

variable {α β : Type} {B : Prop} {p : Parse α} {a b : Parse β} {R : β → Tokens → Prop}
  {Q : α → Tokens → Prop} {t : Token}

theorem Hangs.of_admits {s : Tokens} (h : s.Admits names appends .plain) (hbad : ¬ B) :
    Hangs names appends B s := ⟨h, fun h' => absurd h' hbad⟩

theorem Hangs.ne {s : Tokens} (h : Hangs names appends B s)
    (happends : s.current.token ≠ .punctuator .plusAssign) : ¬ B :=
  fun hbad => happends (h.appends hbad).1

theorem expect_yields {q : Punctuator} (hq : q ≠ .dot ∧ q ≠ .plusAssign) :
    Yields (Hangs names appends B) (expect q)
      fun _ u => u.Admits names appends .plain ∧ ¬ B := by
  refine .expect fun s hs htoken => ⟨hs.admits.next_plain ?_, hs.ne ?_⟩
  · rw [htoken]
    cases q <;> first | rfl | exact absurd rfl hq.1
  · rw [htoken]
    exact fun h => hq.2 (Token.punctuator.inj h)

/-- A punctuator that has to be here, where nothing can be wrong. -/
theorem expect_admits {q : Punctuator} (hq : q ≠ .dot ∧ q ≠ .plusAssign) :
    Yields (·.Admits names appends .plain) (expect q) fun _ u => u.Admits names appends .plain :=
  ((expect_yields (B := False) hq).before fun _ h => .of_admits h not_false).after fun _ _ h => h.1

theorem hangs_of_identifier {n : String} {s : Tokens} (hs : s.Admits names appends .plain)
    (htoken : s.current.token = .identifier n) : Hangs names appends (names n) s.next where
  admits := hs.next_plain (by rw [htoken]; rfl)
  appends hn := (hs.allows hn htoken).2

theorem identifier_yields : Yields (·.Admits names appends .plain) identifier
    fun n u => Hangs names appends (names n) u :=
  .identifier fun _ _ hs htoken => hangs_of_identifier hs htoken

theorem ifEat_hangs (ht : Lead.of t = .plain) (happends : t ≠ .punctuator .plusAssign)
    (ha : ¬ B → Yields (·.Admits names appends .plain) a R) (hb : Yields (Hangs names appends B) b R) :
    Yields (Hangs names appends B) (eat t >>= fun found => if found = true then a else b) R := by
  refine .ifEat (I := fun s => s.Admits names appends .plain ∧ ¬ B) ?_ (.assume ha) hb
  rintro s hs rfl
  exact ⟨hs.admits.next_plain ht, hs.ne happends⟩

theorem ifEat_admits (ht : Lead.of t = .plain) (ha : Yields (·.Admits names appends .plain) a R)
    (hb : Yields (·.Admits names appends lead) b R) :
    Yields (·.Admits names appends lead) (eat t >>= fun found => if found = true then a else b) R := by
  refine .ifEat ?_ ha hb
  rintro s hs rfl
  exact hs.next_plain ht

end Steps

/-- Parameters; the name is none of them, or nothing can come next. -/
theorem parameters_yields (k : Nat) : Yields (·.Admits names appends .plain) (parameters k)
    fun r u => Hangs names appends ((∃ n ∈ r.1, names n) ∨ ∃ n ∈ r.2, names n) u := by
  induction k with
  | zero => exact .pure fun s hs => .of_admits hs (by simp)
  | succ k ih =>
    refine .token fun t => ?_
    split
    · exact .pure fun s hs => .of_admits hs.1 (by simp)
    refine Yields.before ?_ fun s hs => hs.1
    refine ifEat_admits rfl ?_ ?_
    · refine identifier_yields.bind fun n => .pure fun s hs => ⟨hs.admits, fun hbad => hs.appends ?_⟩
      simpa using hbad
    · refine identifier_yields.bind fun n => ?_
      refine ifEat_hangs rfl (by decide) (fun hn => ?_) ?_
      · refine ih.bind fun r => .pure fun s hs => ⟨hs.admits, fun hbad => hs.appends ?_⟩
        simpa [hn] using hbad
      · refine .pure fun s hs => ⟨hs.admits, fun hbad => hs.appends ?_⟩
        simpa using hbad

theorem statements_yields (h : NestedSpares names appends inner) (inLoop : Bool) (k : Nat) :
    Yields (·.Admits names appends .plain) (statements inner inLoop k)
      fun ss u => u.Admits names appends .plain ∧ ∀ s ∈ ss, s.Spares names appends := by
  induction k with
  | zero => exact .unexpected
  | succ k ih =>
    refine ifEat_admits rfl (.pure fun s hs => ⟨hs, by simp⟩) ?_
    refine .token fun t => ?_
    split
    · exact .unexpected
    refine ((h.statement inLoop).before fun s hs => hs.1).bind fun first => ?_
    refine .assume fun hfirst => ih.bind fun more => .pure fun s hs => ⟨hs.1, ?_⟩
    exact List.forall_mem_cons.mpr ⟨hfirst, hs.2⟩

theorem braced_yields (h : NestedSpares names appends inner) (inLoop : Bool) :
    Yields (·.Admits names appends .plain) (braced limit inner inLoop)
      fun ss u => u.Admits names appends .plain ∧ ∀ s ∈ ss, s.Spares names appends :=
  (expect_admits (by decide)).bind fun _ => statements_yields h inLoop limit

theorem function_yields (h : NestedSpares names appends inner) (nameOptional : Bool) :
    Yields (·.Admits names appends lead) (function limit inner nameOptional)
      fun f u => u.Admits names appends .plain ∧ f.Spares names appends := by
  have hafter : ∀ n : Option String, Yields (Hangs names appends (∃ m ∈ n, names m))
      (do
        expect .leftParen
        let ps ← parameters limit
        expect .rightParen
        let body ← braced limit inner false
        return (⟨n, ps.1, ps.2, body⟩ : Function))
      fun f u => u.Admits names appends .plain ∧ f.Spares names appends := by
    intro n
    refine (expect_yields (by decide)).bind fun _ => .assume fun hname => ?_
    refine (parameters_yields limit).bind fun r => ?_
    refine (expect_yields (by decide)).bind fun _ => .assume fun hparams => ?_
    refine (braced_yields h false).bind fun body => .assume fun hbody => .pure fun s hs => ⟨hs, ?_⟩
    rw [not_or] at hparams
    exact .mk (fun m hm hbad => hname ⟨m, hm, hbad⟩) (fun m hm hbad => hparams.1 ⟨m, hm, hbad⟩)
      (fun m hm hbad => hparams.2 ⟨m, hm, hbad⟩) hbody
  refine .located fun l => ?_
  split
  · rename_i hl
    refine .advance (I := (·.Admits names appends .plain)) ?_ ?_
    · rintro s ⟨hs, rfl⟩
      exact hs.next_plain (by rw [hl]; rfl)
    refine .token fun t => ?_
    dsimp only
    split
    · rename_i n
      refine .advance ?_ (hafter (some n))
      rintro s ⟨hs, htoken⟩
      exact (hangs_of_identifier hs htoken).imp (by simp)
    · split
      · exact (hafter none).before fun s hs => .of_admits hs.1 (by simp)
      · exact Yields.unexpected.bind hafter
  · exact .refuse _ _

section Expressions

variable (h : NestedSpares names appends inner)

include h

theorem NestedSpares.value : Yields (·.Admits names appends .plain) inner.assignment
    fun e u => u.Admits names appends .plain ∧ e.Spares names appends :=
  (h.assignment .plain (by decide)).after fun _ _ he => ⟨he.1, he.2.spares⟩

theorem commaRest_yields (k : Nat) : Yields (·.Admits names appends .plain) (commaRest inner k)
    fun es u => u.Admits names appends .plain ∧ ∀ e ∈ es, e.Spares names appends := by
  rw [commaRest_eq_afterCommas]
  exact h.value.afterCommas (fun _ hs => hs.next_of rfl) k

theorem expression_yields (hlead : lead ≠ .point) :
    Yields (·.Admits names appends lead) (expression limit inner)
      fun e u => u.Admits names appends .plain ∧ Assigned names appends lead e := by
  refine (h.assignment lead hlead).bind fun first => .assume fun hfirst => ?_
  refine (commaRest_yields h limit).bind fun more => ?_
  split
  · exact .pure fun s hs => ⟨hs.1, hfirst⟩
  · refine .pure fun s hs => ⟨hs.1, fun _ => id, .sequence ?_⟩
    exact List.forall_mem_cons.mpr ⟨hfirst.spares, hs.2⟩

theorem list_yields {close : Punctuator} (hclose : Lead.of (.punctuator close) = .plain) (k : Nat) :
    Yields (·.Admits names appends .plain) (list inner close k)
      fun es u => u.Admits names appends .plain ∧ ∀ e ∈ es, e.Spares names appends := by
  rw [list_eq_separated]
  exact h.value.separated (fun _ hs => hs.next_of rfl) (fun _ hs => hs.next_of hclose) k

omit h in
/-- Only an identifier may stand for its value. -/
theorem propertyName_yields (P : Tokens → Prop) (l : Located) : Yields P (propertyName l)
    fun r u => P u ∧ (r.2 = true → l.token = .identifier r.1) := by
  unfold propertyName
  split
  · rename_i n hl
    exact .pure fun s hs => ⟨hs, fun _ => hl⟩
  · exact .pure fun s hs => ⟨hs, Bool.noConfusion⟩
  · exact .pure fun s hs => ⟨hs, Bool.noConfusion⟩
  · exact .pure fun s hs => ⟨hs, Bool.noConfusion⟩
  · exact .refuse _ _

theorem property_yields : Yields (·.Admits names appends .plain) (property inner)
    fun p u => u.Admits names appends .plain ∧ p.2.Spares names appends := by
  refine .located fun l => (propertyName_yields _ l).bind fun r => ?_
  obtain ⟨key, shorthand⟩ := r
  refine .assume fun hkey => ?_
  refine .advance (I := fun u => u.Admits names appends (Lead.plain.after l.token) ∧
    (shorthand = true → names key → appends)) ?_ (.assume fun hname => ?_)
  · rintro s ⟨hs, rfl⟩
    exact ⟨hs.next, fun hshort hbad => (hs.allows hbad (hkey hshort)).1⟩
  · refine ifEat_admits rfl ?_ ?_
    · exact h.value.bind fun e => .pure fun s hs => hs
    · split
      · rename_i hshort
        refine .pure fun s hs => ⟨?_, .identifier (hname hshort)⟩
        rwa [hkey hshort] at hs
      · exact .refuse _ _

theorem properties_yields (k : Nat) : Yields (·.Admits names appends .plain) (properties inner k)
    fun ps u => u.Admits names appends .plain ∧ ∀ p ∈ ps, p.2.Spares names appends := by
  rw [properties_eq_separated]
  exact (property_yields h).separated (fun _ hs => hs.next_of rfl) (fun _ hs => hs.next_of rfl) k

omit h in
/-- An operand that spares the name and is not the name alone. -/
theorem Operand.of_spares {e : Expr} {s : Tokens} (hs : s.Admits names appends .plain)
    (hne : ¬ e.IsAmong names) (he : e.Spares names appends) : Operand names appends lead e s :=
  ⟨hs, fun heq => absurd heq hne, Or.inl he⟩

theorem primary_yields (hlead : lead ≠ .point) :
    Yields (·.Admits names appends lead) (primary limit inner) (Operand names appends lead) := by
  have hword : ∀ (t : Token) (e : Expr), Lead.of t = .plain → ¬ e.IsAmong names →
      e.Spares names appends → Yields (fun s => s.Admits names appends lead ∧ s.current.token = t)
        (do advance; return e) (Operand names appends lead) := by
    intro t e ht hne he
    refine .advance (I := (·.Admits names appends .plain)) ?_ (.pure fun s hs => .of_spares hs hne he)
    rintro s ⟨hs, rfl⟩
    exact hs.next_plain ht
  have hbracket : ∀ {α : Type} (t : Token) (p : Parse α) (good : α → Prop) (f : α → Expr),
      Lead.of t = .plain → (∀ a, ¬ (f a).IsAmong names) →
      (∀ a, good a → (f a).Spares names appends) →
      Yields (·.Admits names appends .plain) p (fun a u => u.Admits names appends .plain ∧ good a) →
      Yields (fun s => s.Admits names appends lead ∧ s.current.token = t)
        (do advance; return f (← p)) (Operand names appends lead) := by
    intro α t p good f ht hne hf hp
    refine .advance (I := (·.Admits names appends .plain)) ?_ (hp.bind fun a => .pure fun s hs => ?_)
    · rintro s ⟨hs, rfl⟩
      exact hs.next_plain ht
    · exact .of_spares hs.1 (hne a) (hf a hs.2)
  refine .token fun t => ?_
  split
  · exact hword _ _ rfl id (.number _)
  · exact hword _ _ rfl id (.string _)
  · rename_i n
    refine .advance (I := Operand names appends lead (.identifier n)) ?_ (.pure fun s hs => hs)
    rintro s ⟨hs, htoken⟩
    refine ⟨hs.next_plain (by rw [htoken]; rfl), fun heq => ?_, Or.inl (.identifier fun hn => ?_)⟩
    · have hallows := hs.allows heq htoken
      cases lead with
      | plain => exact Or.inl hallows.2
      | returning => exact hallows.2.imp_right fun hnext => ⟨rfl, hnext.2⟩
      | point => contradiction
    · have hallows := hs.allows hn htoken
      cases lead with
      | plain => exact hallows.1
      | returning => exact hallows.1
      | point => contradiction
  · exact hword _ _ rfl id (.boolean _)
  · exact hword _ _ rfl id (.boolean _)
  · exact hword _ _ rfl id .null
  · refine ((function_yields h true).before fun s hs => hs.1).bind fun f => .pure fun s hs => ?_
    exact .of_spares hs.1 id (.function hs.2)
  · refine .advance (I := (·.Admits names appends .plain)) ?_ ?_
    · rintro s ⟨hs, htoken⟩
      exact hs.next_plain (by rw [htoken]; rfl)
    · refine (expression_yields h (by decide)).bind fun e => .assume fun he => ?_
      exact (expect_admits (by decide)).bind fun _ => .pure fun s hs =>
        .of_spares hs (he.alone rfl) he.spares
  · exact hbracket _ _ _ _ rfl (fun _ => id) (fun _ => .array)
      (list_yields h (by decide) limit)
  · exact hbracket _ _ _ _ rfl (fun _ => id) (fun _ => .object)
      (properties_yields h limit)
  · exact .unexpected

omit h in
/-- Any word may be the name of a property. -/
theorem memberName_yields : Yields (·.Admits names appends .point) memberName
    fun _ u => u.Admits names appends .plain := by
  have hname : ∀ (l : Located) (n : String),
      Yields (fun s => s.Admits names appends .point ∧ s.current = l) (do advance; return n)
        fun _ u => u.Admits names appends .plain :=
    fun l n => .advance (I := (·.Admits names appends .plain)) (fun s hs => hs.1.next)
      (.pure fun s hs => hs)
  refine .located fun l => ?_
  split
  · exact hname l _
  · exact hname l _
  · exact .refuse _ _

omit h in
theorem Operand.spares_of_ne {e : Expr} {s : Tokens} (hs : Operand names appends lead e s)
    (hne : s.current.token ≠ .punctuator .plusAssign) : e.Spares names appends :=
  hs.spares.resolve_right fun hbad => hne hbad.1.1

theorem suffixes_yields (k : Nat) (e : Expr) : Yields (Operand names appends lead e)
    (suffixes limit inner k e) (Operand names appends lead) := by
  induction k generalizing e with
  | zero => exact .pure fun s hs => hs
  | succ k ih =>
    have hbracket : ∀ (s : Tokens) (q : Punctuator), Operand names appends lead e s →
        s.current.token = .punctuator q → q ≠ .dot ∧ q ≠ .plusAssign →
        s.next.Admits names appends .plain ∧ e.Spares names appends := by
      intro s q hs htoken hq
      refine ⟨hs.admits.next_plain ?_, hs.spares_of_ne ?_⟩
      · rw [htoken]
        cases q <;> first | rfl | exact absurd rfl hq.1
      · rw [htoken]
        exact fun heq => hq.2 (Token.punctuator.inj heq)
    refine .ifEat (I := fun s => s.Admits names appends .point ∧ e.Spares names appends) ?_
      (.assume fun he => ?_) ?_
    · intro s hs htoken
      have hnext := hs.admits.next
      rw [htoken] at hnext
      exact ⟨hnext, hs.spares_of_ne (by rw [htoken]; decide)⟩
    · refine memberName_yields.bind fun key => ?_
      exact (ih _).before fun s hs => .of_spares hs id (.member key he)
    refine .ifEat (I := fun s => s.Admits names appends .plain ∧ e.Spares names appends)
      (fun s hs htoken => hbracket s _ hs htoken (by decide)) (.assume fun he => ?_) ?_
    · refine (expression_yields h (by decide)).bind fun key => .assume fun hkey => ?_
      refine (expect_admits (by decide)).bind fun _ => ?_
      exact (ih _).before fun s hs => .of_spares hs id (.index he hkey.spares)
    refine .ifEat (I := fun s => s.Admits names appends .plain ∧ e.Spares names appends)
      (fun s hs htoken => hbracket s _ hs htoken (by decide)) (.assume fun he => ?_)
      (.pure fun s hs => hs)
    refine (list_yields h (by decide) limit).bind fun arguments => .assume fun harguments => ?_
    exact (ih _).before fun s hs => .of_spares hs id (.call he harguments)

omit h in
/-- Before an update operator stands no name alone. -/
theorem Operand.ne_of_updateOp {e : Expr} {s : Tokens} {op : UpdateOp}
    (hs : Operand names appends lead e s) (hop : UpdateOp.ofToken? s.current.token = some op) :
    ¬ e.IsAmong names := by
  intro hbad
  rcases hs.alone hbad with happends | ⟨-, hsemicolon⟩
  · rw [happends.1] at hop
    cases hop
  · rw [hsemicolon] at hop
    cases hop

omit h in
theorem lead_of_updateOp {t : Token} {op : UpdateOp} (hop : UpdateOp.ofToken? t = some op) :
    Lead.of t = .plain ∧ t ≠ .punctuator .plusAssign := by
  unfold UpdateOp.ofToken? at hop
  split at hop
  · exact ⟨rfl, by decide⟩
  · exact ⟨rfl, by decide⟩
  · cases hop

omit h in
theorem lead_of_unaryOp {t : Token} {op : UnaryOp} (hop : UnaryOp.ofToken? t = some op) :
    Lead.of t = .plain := by
  unfold UnaryOp.ofToken? at hop
  split at hop
  · rfl
  · rfl
  · rfl
  · rfl
  · cases hop

omit h in
theorem lead_of_assignment {t : Token} {op : Option BinaryOp}
    (hop : assignmentOfToken? t = some op) : Lead.of t = .plain := by
  unfold assignmentOfToken? at hop
  split at hop
  case h_7 => cases hop
  all_goals rfl

theorem postfixed_yields (hlead : lead ≠ .point) :
    Yields (·.Admits names appends lead) (postfixed limit inner) (Operand names appends lead) := by
  refine .located fun start => ?_
  refine ((primary_yields h hlead).before fun s hs => hs.1).bind fun e => ?_
  refine (suffixes_yields h limit e).bind fun e => .located fun l => ?_
  split
  · rename_i op hop
    split
    · exact .pure fun s hs => hs.1
    split
    · refine .advance (I := fun s => s.Admits names appends .plain ∧ ¬ e.IsAmong names ∧
        e.Spares names appends) ?_ (.pure fun s hs => ?_)
      · rintro s ⟨hs, rfl⟩
        obtain ⟨hplain, hne⟩ := lead_of_updateOp hop
        exact ⟨hs.admits.next_plain hplain, hs.ne_of_updateOp hop, hs.spares_of_ne hne⟩
      · exact .of_spares hs.1 id (.update op false hs.2.1 hs.2.2)
    · exact .refuse _ _
  · exact .pure fun s hs => hs.1

theorem unary_yields (hlead : lead ≠ .point) :
    Yields (·.Admits names appends lead) (unary limit inner) (Operand names appends lead) := by
  refine .located fun start => ?_
  have hnext : ∀ s : Tokens, s.Admits names appends lead ∧ s.current = start →
      Lead.of start.token = .plain → s.next.Admits names appends .plain := by
    rintro s ⟨hs, rfl⟩ hplain
    exact hs.next_plain hplain
  split
  · rename_i op hop
    refine .advance (fun s hs => hnext s hs (lead_of_unaryOp hop)) ?_
    refine h.unary.bind fun e => .pure fun s hs => ⟨hs.admits, False.elim, ?_⟩
    exact hs.spares.imp (fun he => .unary op he) fun hbad => ⟨hbad.1, rfl⟩
  split
  · rename_i op hop
    refine .advance (fun s hs => hnext s hs (lead_of_updateOp hop).1) ?_
    refine h.unary.bind fun e => ?_
    split
    · rename_i htarget
      refine .pure fun s hs => ⟨hs.admits, False.elim, ?_⟩
      have he : e.Spares names appends := hs.spares.resolve_right fun hbad => by
        rw [htarget] at hbad
        cases hbad.2
      by_cases hname : e.IsAmong names
      · rcases hs.alone hname with happends | ⟨hreturning, -⟩
        · exact Or.inr ⟨happends, rfl⟩
        · cases hreturning
      · exact Or.inl (.update op true hname he)
    · exact .refuse _ _
  · exact (postfixed_yields h hlead).before fun s hs => hs.1

omit h in
theorem lead_of_infix {looseness : Nat} {t : Token} {o : Infix}
    (ho : infixAt? looseness t = some o) :
    Lead.of t = .plain ∧ t ≠ .punctuator .plusAssign := by
  unfold infixAt? at ho
  split at ho
  · rename_i p
    have hfound : (Infix.ofPunctuator? p).isSome = true := by
      cases hp : Infix.ofPunctuator? p with
      | none =>
        rw [hp] at ho
        cases ho
      | some _ => rfl
    revert hfound
    cases p <;> decide
  · cases ho

omit h in
/-- Two operands joined: nothing is wrong with the left one, since an operator has come after it. -/
theorem Operand.join {left right : Expr} {s : Tokens} (hleft : left.Spares names appends)
    (hright : Operand names appends .plain right s) (o : Infix) :
    Operand names appends lead (o.join left right) s := by
  refine ⟨hright.admits, ?_, ?_⟩
  · cases o <;> exact False.elim
  · refine hright.spares.imp (fun hr => ?_) fun hbad => ⟨hbad.1, ?_⟩
    · cases o with
      | binary op => exact .binary op hleft hr
      | logical op => exact .logical op hleft hr
    · cases o <;> rfl

omit h in
theorem chainRest_yields {looseness : Nat} {operand : Parse Expr}
    (hoperand : Yields (·.Admits names appends .plain) operand (Operand names appends .plain))
    (k : Nat) (left : Expr) : Yields (Operand names appends lead left)
      (chainRest looseness operand k left) (Operand names appends lead) := by
  induction k generalizing left with
  | zero => exact .pure fun s hs => hs
  | succ k ih =>
    refine .token fun t => ?_
    split
    · rename_i o ho
      refine .advance (I := fun s => s.Admits names appends .plain ∧ left.Spares names appends) ?_
        (.assume fun hleft => ?_)
      · rintro s ⟨hs, rfl⟩
        obtain ⟨hplain, hne⟩ := lead_of_infix ho
        exact ⟨hs.admits.next_plain hplain, hs.spares_of_ne hne⟩
      · exact hoperand.bind fun right => (ih _).before fun s hs => .join hleft hs o
    · exact .pure fun s hs => hs.1

theorem chain_yields (looseness : Nat) (hlead : lead ≠ .point) :
    Yields (·.Admits names appends lead) (chain limit inner looseness)
      (Operand names appends lead) := by
  induction looseness generalizing lead with
  | zero => exact unary_yields h hlead
  | succ looseness ih =>
    exact (ih hlead).bind fun left => chainRest_yields (ih (by decide)) limit left

theorem conditional_yields (hlead : lead ≠ .point) :
    Yields (·.Admits names appends lead) (conditional limit inner) (Operand names appends lead) := by
  refine (chain_yields h Infix.loosest hlead).bind fun test => ?_
  refine .ifEat (I := fun s => s.Admits names appends .plain ∧ test.Spares names appends) ?_
    (.assume fun htest => ?_) (.pure fun s hs => hs)
  · intro s hs htoken
    refine ⟨hs.admits.next_plain ?_, hs.spares_of_ne ?_⟩ <;> rw [htoken] <;> first | rfl | decide
  · refine h.value.bind fun a => .assume fun ha => ?_
    refine (expect_admits (by decide)).bind fun _ => ?_
    refine h.value.bind fun b => .pure fun s hs => ?_
    exact .of_spares hs.1 id (.conditional htest ha hs.2)

theorem assignment_yields (hlead : lead ≠ .point) :
    Yields (·.Admits names appends lead) (assignment limit inner)
      fun e u => u.Admits names appends .plain ∧ Assigned names appends lead e := by
  refine .located fun start => ?_
  refine ((conditional_yields h hlead).before fun s hs => hs.1).bind fun target => .token fun t => ?_
  split
  · rename_i op hop
    split
    · rename_i htarget
      refine .advance (I := fun s => s.Admits names appends .plain ∧
        target.Spares names appends ∧ (target.IsAmong names → op = some .add)) ?_
        (.assume fun htarget => ?_)
      · rintro s ⟨hs, rfl⟩
        have hspares : target.Spares names appends := hs.spares.resolve_right fun hbad => by
          rw [htarget] at hbad
          cases hbad.2
        refine ⟨hs.admits.next_plain (lead_of_assignment hop), hspares, fun heq => ?_⟩
        rcases hs.alone heq with happends | ⟨-, hsemicolon⟩
        · rw [happends.1] at hop
          exact (Option.some.inj hop).symm
        · rw [hsemicolon] at hop
          cases hop
      · refine h.value.bind fun value => .pure fun s hs => ⟨hs.1, fun _ => id, ?_⟩
        exact .assign htarget.2 htarget.1 hs.2
    · exact .refuse _ _
  · rename_i hop
    refine .pure fun s hs => ?_
    obtain ⟨hs, rfl⟩ := hs
    have hne : s.current.token ≠ .punctuator .plusAssign := by
      intro htoken
      rw [htoken] at hop
      cases hop
    refine ⟨hs.admits, fun hplain heq => ?_, hs.spares_of_ne hne⟩
    rcases hs.alone heq with happends | ⟨hreturning, -⟩
    · exact hne happends.1
    · rw [hplain] at hreturning
      cases hreturning

end Expressions

end Reader

end Microtemplate.Script
