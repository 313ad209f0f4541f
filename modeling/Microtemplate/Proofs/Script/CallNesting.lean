import Microtemplate.Proofs.Script.Running

/-!
How deep calls stand inside each other. A watched run carries the values that are being called, and
ends when they are not as they should be; a run that is the same with every such end never comes to a
call at which they are not. Calls of functions of the program stand at most `callLimit` deep. Builtin
functions and methods are not counted, so a row of them that call each other directly has no bound of
its own.
-/

namespace Microtemplate.Script

/-- Whether a value is a function of the program. -/
def Value.isClosure : Value → Bool
  | .function _ => true
  | _ => false

/-- How many of the values being called are functions of the program. -/
def closureCount (calls : List Value) : Nat := calls.countP Value.isClosure

/-- How many builtin functions and methods are being called since the last function of the program,
the innermost call standing first. -/
def innerRow (calls : List Value) : Nat := (calls.takeWhile fun f => !f.isClosure).length

/-- The length of the longest row of builtin functions and methods that are called directly inside
each other. -/
def longestRow : List Value → Nat
  | [] => 0
  | f :: calls => max (innerRow (f :: calls)) (longestRow calls)

theorem innerRow_le_longestRow (calls : List Value) : innerRow calls ≤ longestRow calls := by
  cases calls with
  | nil => exact Nat.le_refl 0
  | cons f calls => exact Nat.le_max_left ..

/-- Each function of the program has at most one row of other calls directly inside it. -/
theorem length_le_closureCount_mul (calls : List Value) :
    calls.length ≤ closureCount calls * (longestRow calls + 1) + innerRow calls := by
  induction calls with
  | nil => exact Nat.zero_le _
  | cons f calls ih =>
    have hrow : longestRow calls ≤ longestRow (f :: calls) := Nat.le_max_right ..
    have hinner := innerRow_le_longestRow calls
    have hmul : closureCount calls * (longestRow calls + 1) ≤
        closureCount calls * (longestRow (f :: calls) + 1) :=
      Nat.mul_le_mul_left _ (by omega)
    by_cases hf : f.isClosure = true
    · have hcount : closureCount (f :: calls) = closureCount calls + 1 :=
        List.countP_cons_of_pos hf
      rw [hcount, Nat.succ_mul, List.length_cons]
      omega
    · have hcount : closureCount (f :: calls) = closureCount calls := List.countP_cons_of_neg hf
      have hnext : innerRow (f :: calls) = innerRow calls + 1 := by
        simp [innerRow, hf]
      rw [hcount, hnext, List.length_cons]
      omega

namespace Evaluator

/-- The evaluators with a bound on the depth of steps while `calls` are being called, the innermost
first. A call that is not allowed ends the run with `halt`. -/
def watched (allowed : List Value → Bool) (halt : Halt) : Nat → List Value → Evaluator
  | 0, _ => ⟨0, fun _ _ => throw .exhausted, fun _ _ => throw .exhausted,
      fun _ _ _ => throw .exhausted⟩
  | bound + 1, calls =>
    ⟨bound + 1, (watched allowed halt bound calls).evalStep,
      (watched allowed halt bound calls).execStep,
      fun c f args =>
        if allowed (f :: calls) then (watched allowed halt bound (f :: calls)).callStep c f args
        else throw halt⟩

/-- Two evaluators do the same while a given number of functions are being called. -/
structure Agree (depth : Nat) (one other : Evaluator) : Prop where
  rounds : one.rounds = other.rounds
  eval : ∀ c : Context, c.depth = depth → one.eval c = other.eval c
  exec : ∀ c : Context, c.depth = depth → one.exec c = other.exec c
  call : ∀ c : Context, c.depth = depth → one.call c = other.call c

section Congruence

variable {depth : Nat} {self other : Evaluator} (h : Agree depth self other) {c : Context}
  (hc : c.depth = depth)

include h hc

theorem target_congr (e : Expr) : self.target c e = other.target c e := by
  cases e <;> simp only [target, key, h.eval c hc]

theorem unary_congr (op : UnaryOp) (e : Expr) : self.unary c op e = other.unary c op e := by
  unfold unary
  rw [h.eval c hc]

theorem sequence_congr (items : List Expr) (last : Value) :
    self.sequence c last items = other.sequence c last items := by
  induction items generalizing last with
  | nil => rfl
  | cons e items ih => simp only [sequence, h.eval c hc, ih]

theorem evalStep_congr : self.evalStep c = other.evalStep c := by
  funext e
  cases e <;> simp only [evalStep, callExpression, update, assign, key, h.eval c hc, h.call c hc,
    unary_congr h hc, target_congr h hc, sequence_congr h hc]

theorem execAll_congr (ss : List Stmt) : self.execAll c ss = other.execAll c ss := by
  induction ss with
  | nil => rfl
  | cons s ss ih => simp only [execAll, h.exec c hc, ih]

theorem execDeclaration_congr (frame : Address) (kind : DeclarationKind) (ds : List Declarator) :
    self.execDeclaration c frame kind ds = other.execDeclaration c frame kind ds := by
  induction ds with
  | nil => rfl
  | cons d ds ih => simp only [execDeclaration, h.eval c hc, ih]

theorem execWhile_congr (test update : Option Expr) (body : Stmt) (rounds : Nat) :
    self.execWhile c test update body rounds = other.execWhile c test update body rounds := by
  have hholds : self.holds c test = other.holds c test := by
    cases test <;> simp only [holds, h.eval c hc]
  have hperform : self.perform c update = other.perform c update := by
    cases update <;> simp only [perform, h.eval c hc]
  induction rounds with
  | zero => rfl
  | succ rounds ih => simp only [execWhile, hholds, hperform, h.exec c hc, ih]

theorem execEach_congr (binding : LoopBinding) (body : Stmt) (vs : List Value) :
    self.execEach c binding body vs = other.execEach c binding body vs := by
  have hpush : ∀ frame, self.exec (c.push frame) = other.exec (c.push frame) :=
    fun frame => h.exec (c.push frame) hc
  induction vs with
  | nil => rfl
  | cons v vs ih => simp only [execEach, hpush, ih]

theorem execStep_congr : self.execStep c = other.execStep c := by
  have hexec : ∀ frame, self.exec (c.push frame) = other.exec (c.push frame) :=
    fun frame => h.exec (c.push frame) hc
  have hall : ∀ frame, self.execAll (c.push frame) = other.execAll (c.push frame) :=
    fun frame => funext (execAll_congr h (c := c.push frame) hc)
  have hwhile : ∀ frame test update body rounds, self.execWhile (c.push frame) test update body rounds
      = other.execWhile (c.push frame) test update body rounds :=
    fun frame => execWhile_congr h (c := c.push frame) hc
  funext s
  cases s with
  | loop first => cases first <;> simp only [execStep, hexec, hwhile, h.rounds]
  | returning value => cases value <;> simp only [execStep, h.eval c hc]
  | branch test consequent alternate =>
    cases alternate <;> simp only [execStep, h.eval c hc, h.exec c hc]
  | _ => simp only [execStep, h.eval c hc, h.rounds, hexec, hall,
      execDeclaration_congr h hc, execWhile_congr h hc, execEach_congr h hc]

theorem execBody_congr (frame : Address) (body : List Stmt) :
    self.execBody c frame body = other.execBody c frame body := by
  simp only [execBody, execAll_congr h hc]

end Congruence

/-- Calling a function of the program goes on one function deeper, any other call goes on at the same
depth, and a call that is refused does not go on. -/
theorem callStep_congr {self other : Evaluator} {c : Context} {f : Value} (args : List Value)
    (h : c.depth < callLimit ∨ f.isClosure = false →
      Agree (c.depth + if f.isClosure then 1 else 0) self other) :
    self.callStep c f args = other.callStep c f args := by
  cases f with
  | function a =>
    by_cases hdepth : callLimit ≤ c.depth
    · simp only [callStep, if_pos hdepth]
    · have hagree : Agree (c.depth + 1) self other := h (.inl (by omega))
      have hbody : ∀ scope frame body,
          self.execBody ⟨scope, c.depth + 1, c.output⟩ frame body =
            other.execBody ⟨scope, c.depth + 1, c.output⟩ frame body :=
        fun scope frame body => execBody_congr hagree (c := ⟨scope, _, _⟩) rfl frame body
      simp only [callStep, if_neg hdepth, callClosure, hbody]
  | builtin b =>
    have hcall := (h (.inr rfl)).call c rfl
    simp only [callStep, hcall]
  | method a =>
    have hcall := (h (.inr rfl)).call c rfl
    simp only [callStep, hcall]
  | _ => rfl

/-- A watched run is like any other if every call is allowed that may come up, apart from the call
that is refused because it stands too deep. -/
theorem watched_agree {allowed : List Value → Bool} {halt : Halt}
    (hallowed : ∀ f calls, closureCount calls ≤ callLimit → allowed (f :: calls) = true ∨
      (f.isClosure = true ∧ closureCount calls = callLimit ∧ halt = .failed .callDepth))
    (bound : Nat) (calls : List Value) (hcalls : closureCount calls ≤ callLimit) :
    Agree (closureCount calls) (watched allowed halt bound calls) (within bound) := by
  induction bound generalizing calls with
  | zero => exact ⟨rfl, fun _ _ => rfl, fun _ _ => rfl, fun _ _ => rfl⟩
  | succ bound ih =>
    refine ⟨rfl, fun c hc => evalStep_congr (ih calls hcalls) hc,
      fun c hc => execStep_congr (ih calls hcalls) hc, fun c hc => ?_⟩
    funext f args
    change (if allowed (f :: calls) then (watched allowed halt bound (f :: calls)).callStep c f args
      else throw halt) = (within bound).callStep c f args
    rcases hallowed f calls hcalls with hf | ⟨hf, hdeep, rfl⟩
    · rw [if_pos hf]
      refine callStep_congr args fun hgoes => ?_
      have hcount : closureCount (f :: calls) = c.depth + if f.isClosure then 1 else 0 := by
        rw [closureCount, List.countP_cons, hc, closureCount]
      rw [← hcount]
      apply ih
      rw [hcount]
      split
      · rename_i hclosure
        have hdepth := hgoes.resolve_right (by simp [hclosure])
        omega
      · omega
    · cases f with
      | function a =>
        have hrefused : (within bound).callStep c (.function a) args = Run.fail .callDepth := by
          simp only [callStep, if_pos (show callLimit ≤ c.depth by omega)]
        rw [hrefused]
        split
        · have hwatched : (watched allowed (.failed .callDepth) bound
              (.function a :: calls)).callStep c (.function a) args = Run.fail .callDepth := by
            simp only [callStep, if_pos (show callLimit ≤ c.depth by omega)]
          exact hwatched
        · rfl
      | _ => cases hf

end Evaluator

namespace Function

/-- Runs a program on arguments with given evaluators. -/
def runWith (f : Function) (self : Evaluator) (args : List Value) : Run String := do
  Evaluator.declareArguments programFrame f args
  let v ← self.execBody programContext programFrame f.body
  if v = .undefined then return "" else Run.text v

/-- Runs a program on data with given evaluators. -/
def renderWith (f : Function) (self : Evaluator) (data : Json) : Except Halt String :=
  let (v, s) := initialStore.addJson data
  ((f.runWith self [v]).run.run s).1

theorem renderWith_within (f : Function) (bound : Nat) (data : Json) :
    f.renderWith (.within bound) data = f.render bound data := rfl

/-- At every moment of the run of a program on data, the values being called are as `allowed` says,
the innermost first: it makes no difference how the run would end otherwise. -/
def CallsAlways (f : Function) (bound : Nat) (data : Json) (allowed : List Value → Bool) : Prop :=
  ∀ halt, f.renderWith (.watched allowed halt bound []) data = f.render bound data

/-- The run of a program on data comes to a call at which the values being called are not as
`allowed` says: the run ends as it is told to then. -/
def CallsOnce (f : Function) (bound : Nat) (data : Json) (allowed : List Value → Bool) : Prop :=
  ∀ halt, f.renderWith (.watched allowed halt bound []) data = .error halt

theorem renderWith_watched {allowed : List Value → Bool} {halt : Halt}
    (hallowed : ∀ f calls, closureCount calls ≤ callLimit → allowed (f :: calls) = true ∨
      (f.isClosure = true ∧ closureCount calls = callLimit ∧ halt = .failed .callDepth))
    (f : Function) (bound : Nat) (data : Json) :
    f.renderWith (.watched allowed halt bound []) data = f.render bound data := by
  have hagree : Evaluator.Agree 0 (.watched allowed halt bound []) (.within bound) :=
    Evaluator.watched_agree hallowed bound [] (Nat.zero_le _)
  have hbody := Evaluator.execBody_congr hagree (c := programContext) rfl programFrame f.body
  rw [← renderWith_within]
  simp only [renderWith, runWith, hbody]

/-- Calls of functions of the program that stand too deep end every run with the range error, so at
every moment the calls are at most as many as `callLimit` functions and one that is refused have
room for, each with the longest row of builtin functions and methods directly inside it. -/
theorem nested_calls_bounded (f : Function) (bound : Nat) (data : Json) :
    f.renderWith (.watched (fun calls => closureCount calls ≤ callLimit) (.failed .callDepth) bound [])
        data = f.render bound data ∧
      f.CallsAlways bound data
        (fun calls => calls.length ≤ (callLimit + 1) * (longestRow calls + 1)) := by
  refine ⟨renderWith_watched (fun g calls hcalls => ?_) f bound data,
    fun halt => renderWith_watched (fun g calls hcalls => .inl ?_) f bound data⟩
  · by_cases hg : g.isClosure = true ∧ closureCount calls = callLimit
    · exact .inr ⟨hg.1, hg.2, rfl⟩
    · refine .inl (decide_eq_true ?_)
      rw [closureCount, List.countP_cons]
      change closureCount calls + _ ≤ callLimit
      split
      · rename_i hclosure
        have hne : closureCount calls ≠ callLimit := fun heq => hg ⟨hclosure, heq⟩
        omega
      · omega
  · have hlength := length_le_closureCount_mul calls
    have hinner := innerRow_le_longestRow calls
    have hrow : longestRow calls ≤ longestRow (g :: calls) := Nat.le_max_right ..
    have hmul : closureCount calls * (longestRow calls + 1) ≤
        callLimit * (longestRow (g :: calls) + 1) := Nat.mul_le_mul hcalls (by omega)
    refine decide_eq_true ?_
    rw [Nat.succ_mul, List.length_cons]
    omega

/-- An array is given its own method `forEach` as its only element, and is then visited with it. -/
def visitingItself : Function :=
  ⟨none, ["obj"], none,
    [.declaration .functionWide [⟨"a", some (.array [])⟩],
      .expression (.call (.member (.identifier "a") "push") [.member (.identifier "a") "forEach"]),
      .expression (.call (.member (.identifier "a") "forEach") [.member (.identifier "a") "forEach"])]⟩

/-- A store in which an array has its own method `forEach` as its only element. -/
structure Visits (s : Store) (a : Address) : Prop where
  element : ∃ n, s.elements a = #[.method n] ∧ s.methods[n]? = some ⟨.array a, .forEach⟩

section Visiting

variable {self : Evaluator} {s : Store} {a m n : Address} {halt : Halt} {c : Context}

/-- Visiting the array calls back its only element, which visits the array. -/
theorem callStep_forEach (hs : Visits s a) (hm : s.methods[m]? = some ⟨.array a, .forEach⟩)
    (hcall : ∀ n', s.methods[n']? = some ⟨.array a, .forEach⟩ → ∀ rest,
      (self.call c (.method n) (.method n' :: rest)).run.run s = (.error halt, s)) (rest : List Value) :
    (self.callStep c (.method m) (.method n :: rest)).run.run s = (.error halt, s) := by
  obtain ⟨n', helement, hn'⟩ := hs.element
  have hitem : (s.elements a)[0]? = some (.method n') := by rw [helement]; rfl
  have hsize : (s.elements a).size = 1 := by rw [helement]; rfl
  have hvisit : (ArrayMethod.visit (self.call c (.method n)) a 1 0).run.run s = (.error halt, s) := by
    rw [ArrayMethod.visit, Run.run_read, hitem]
    exact Run.run_bind_error (hcall n' hn' _) _
  have hall : (ArrayMethod.visitAll? (self.call c) a (.method n)).run.run s = (.error halt, s) := by
    rw [ArrayMethod.visitAll?, if_pos (show (Value.method n).isCallable = true from rfl),
      ArrayMethod.visitAll, Run.run_read, hsize, hvisit]
  have hrun : (BoundMethod.run (self.call c) ⟨.array a, .forEach⟩ (.method n :: rest)).run.run s =
      (.error halt, s) := by
    exact Run.run_bind_error hall fun _ => pure Value.undefined
  rw [Evaluator.callStep, Run.run_read, hm]
  exact hrun

/-- In such a store visiting the array nests calls until one is not allowed. -/
theorem call_forEach (limit : Nat) (hs : Visits s a) (bound : Nat) (calls : List Value)
    (hcalls : calls.length ≤ limit) (hbound : limit < bound + calls.length)
    (hm : s.methods[m]? = some ⟨.array a, .forEach⟩) (hn : s.methods[n]? = some ⟨.array a, .forEach⟩)
    (rest : List Value) :
    ((Evaluator.watched (·.length ≤ limit) halt bound calls).call c (.method m)
      (.method n :: rest)).run.run s = (.error halt, s) := by
  induction bound generalizing calls m n rest with
  | zero => omega
  | succ bound ih =>
    rw [Evaluator.watched]
    by_cases hroom : calls.length + 1 ≤ limit
    · have hallowed : decide ((Value.method m :: calls).length ≤ limit) = true :=
        decide_eq_true hroom
      simp only [hallowed, if_true]
      refine callStep_forEach hs hm (fun n' hn' rest' => ?_) rest
      apply ih (.method m :: calls) hroom _ hn hn'
      rw [List.length_cons]
      omega
    · have hrefused : decide ((Value.method m :: calls).length ≤ limit) = false :=
        decide_eq_false hroom
      simp only [hrefused]
      rfl

/-- In such a store visiting the array never ends. -/
theorem call_forEach_unending (hs : Visits s a) (bound : Nat) (calls : List Value)
    (hm : s.methods[m]? = some ⟨.array a, .forEach⟩) (hn : s.methods[n]? = some ⟨.array a, .forEach⟩)
    (rest : List Value) :
    ((Evaluator.watched (fun _ => true) halt bound calls).call c (.method m)
      (.method n :: rest)).run.run s = (.error .exhausted, s) := by
  induction bound generalizing calls m n rest with
  | zero => rfl
  | succ bound ih =>
    exact callStep_forEach hs hm (fun n' hn' rest' => ih (.method m :: calls) hn hn' rest') rest

end Visiting

/-- The store of `visitingItself` while it runs on an empty object, by the names of its frame, the
arrays and the methods. -/
def visitingStore (names : Fields Binding) (arrays : Array (Array Value))
    (methods : Array BoundMethod) : Store :=
  let s := (initialStore.addJson (.object [])).2
  { s with
    frames := s.frames.set! programFrame ⟨.function, names⟩
    arrays := arrays
    methods := methods }

/-- The names of its frame, by the value of the array's name. -/
def visitingNames (v : Value) : Fields Binding := [("obj", ⟨.object 2, true⟩), ("a", ⟨v, true⟩)]

/-- Its store after the array has got its element, with the methods that have been read. -/
def pushedStore (methods : Array BoundMethod) : Store :=
  visitingStore (visitingNames (.array 0)) #[#[.method 1]] methods

/-- The store in which the array is visited. -/
def visitedStore : Store :=
  pushedStore #[⟨.array 0, .push⟩, ⟨.array 0, .forEach⟩, ⟨.array 0, .forEach⟩, ⟨.array 0, .forEach⟩]

theorem visits_visitedStore : Visits visitedStore 0 := ⟨1, rfl, rfl⟩

section

variable {allowed : List Value → Bool} {halt e : Halt} (bound : Nat)

theorem exec_pushing (hpush : allowed [.method 0] = true) :
    ((Evaluator.watched allowed halt (bound + 4) []).exec programContext (.expression
      (.call (.member (.identifier "a") "push") [.member (.identifier "a") "forEach"]))).Gives
      (visitingStore (visitingNames (.array 0)) #[#[]] #[]) .normal
      (pushedStore #[⟨.array 0, .push⟩, ⟨.array 0, .forEach⟩]) := by
  let inner := Evaluator.watched allowed halt (bound + 2) []
  have hcallee : (inner.eval programContext (.member (.identifier "a") "push")).Gives
      (visitingStore (visitingNames (.array 0)) #[#[]] #[]) (.method 0)
      (visitingStore (visitingNames (.array 0)) #[#[]] #[⟨.array 0, .push⟩]) := rfl
  have hargument : (inner.eval programContext (.member (.identifier "a") "forEach")).Gives
      (visitingStore (visitingNames (.array 0)) #[#[]] #[⟨.array 0, .push⟩]) (.method 1)
      (visitingStore (visitingNames (.array 0)) #[#[]] #[⟨.array 0, .push⟩, ⟨.array 0, .forEach⟩]) := rfl
  have hcall : (inner.call programContext (.method 0) [.method 1]).Gives
      (visitingStore (visitingNames (.array 0)) #[#[]] #[⟨.array 0, .push⟩, ⟨.array 0, .forEach⟩])
      (.number (Decimal.ofNat 1)) (pushedStore #[⟨.array 0, .push⟩, ⟨.array 0, .forEach⟩]) := by
    have hallowed : inner.call programContext (.method 0) [.method 1] =
        (Evaluator.watched allowed halt (bound + 1) [.method 0]).callStep programContext
          (.method 0) [.method 1] := if_pos hpush
    rw [hallowed]
    rfl
  have harguments : ([Expr.member (.identifier "a") "forEach"].mapM (inner.eval programContext)).Gives
      (visitingStore (visitingNames (.array 0)) #[#[]] #[⟨.array 0, .push⟩]) [.method 1]
      (visitingStore (visitingNames (.array 0)) #[#[]] #[⟨.array 0, .push⟩, ⟨.array 0, .forEach⟩]) :=
    hargument.bind (.pure _)
  have hcalled : (inner.callExpression programContext (.member (.identifier "a") "push")
      [.member (.identifier "a") "forEach"]).Gives
      (visitingStore (visitingNames (.array 0)) #[#[]] #[]) (.number (Decimal.ofNat 1))
      (pushedStore #[⟨.array 0, .push⟩, ⟨.array 0, .forEach⟩]) :=
    hcallee.bind (harguments.bind hcall)
  exact hcalled.bind (.pure _)

/-- Where visiting the array ends the run, reading and calling its method does. -/
theorem exec_visiting (hvisit : ((Evaluator.watched allowed halt (bound + 2) []).call programContext
      (.method 2) [.method 3]).run.run visitedStore = (.error e, visitedStore)) :
    ((Evaluator.watched allowed halt (bound + 4) []).exec programContext (.expression
      (.call (.member (.identifier "a") "forEach") [.member (.identifier "a") "forEach"]))).run.run
      (pushedStore #[⟨.array 0, .push⟩, ⟨.array 0, .forEach⟩]) = (.error e, visitedStore) := by
  let inner := Evaluator.watched allowed halt (bound + 2) []
  have hcallee : (inner.eval programContext (.member (.identifier "a") "forEach")).Gives
      (pushedStore #[⟨.array 0, .push⟩, ⟨.array 0, .forEach⟩]) (.method 2)
      (pushedStore #[⟨.array 0, .push⟩, ⟨.array 0, .forEach⟩, ⟨.array 0, .forEach⟩]) := rfl
  have hargument : (inner.eval programContext (.member (.identifier "a") "forEach")).Gives
      (pushedStore #[⟨.array 0, .push⟩, ⟨.array 0, .forEach⟩, ⟨.array 0, .forEach⟩]) (.method 3)
      visitedStore := rfl
  have hcalled : (inner.callExpression programContext (.member (.identifier "a") "forEach")
      [.member (.identifier "a") "forEach"]).run.run
      (pushedStore #[⟨.array 0, .push⟩, ⟨.array 0, .forEach⟩]) = (.error e, visitedStore) := by
    have harguments : ([Expr.member (.identifier "a") "forEach"].mapM (inner.eval programContext)).Gives
        (pushedStore #[⟨.array 0, .push⟩, ⟨.array 0, .forEach⟩, ⟨.array 0, .forEach⟩]) [.method 3]
        visitedStore := hargument.bind (.pure _)
    exact (hcallee.run_bind _).trans ((harguments.run_bind _).trans hvisit)
  exact Run.run_bind_error hcalled fun _ => pure Completion.normal

/-- What becomes of the program is what becomes of visiting the array. -/
theorem renderWith_visitingItself (hpush : allowed [.method 0] = true)
    (hvisit : ((Evaluator.watched allowed halt (bound + 2) []).call programContext
      (.method 2) [.method 3]).run.run visitedStore = (.error e, visitedStore)) :
    visitingItself.renderWith (.watched allowed halt (bound + 4) []) (.object []) = .error e := by
  let self := Evaluator.watched allowed halt (bound + 4) []
  have harguments : (Evaluator.declareArguments programFrame visitingItself [.object 2]).Gives
      (initialStore.addJson (.object [])).2 ()
      (visitingStore [("obj", ⟨.object 2, true⟩)] #[] #[]) := rfl
  have hnames : (Evaluator.hoistNames programFrame (hoistedList visitingItself.body)).Gives
      (visitingStore [("obj", ⟨.object 2, true⟩)] #[] #[]) ()
      (visitingStore (visitingNames .undefined) #[] #[]) := rfl
  have hdeclared : (self.exec programContext
        (.declaration .functionWide [⟨"a", some (.array [])⟩])).Gives
      (visitingStore (visitingNames .undefined) #[] #[]) .normal
      (visitingStore (visitingNames (.array 0)) #[#[]] #[]) := rfl
  have hall : (self.execAll programContext visitingItself.body).run.run
      (visitingStore (visitingNames .undefined) #[] #[]) = (.error e, visitedStore) :=
    (hdeclared.run_bind _).trans (((exec_pushing bound hpush).run_bind _).trans
      (Run.run_bind_error (exec_visiting bound hvisit) _))
  have hfunctions : (Evaluator.hoistFunctions programContext programFrame visitingItself.body).Gives
      (visitingStore (visitingNames .undefined) #[] #[]) ()
      (visitingStore (visitingNames .undefined) #[] #[]) := rfl
  have hbody : (self.execBody programContext programFrame visitingItself.body).run.run
      (visitingStore [("obj", ⟨.object 2, true⟩)] #[] #[]) = (.error e, visitedStore) :=
    (hnames.run_bind _).trans ((hfunctions.run_bind _).trans (Run.run_bind_error hall _))
  have hrun : (visitingItself.runWith self [.object 2]).run.run (initialStore.addJson (.object [])).2 =
      (.error e, visitedStore) :=
    (harguments.run_bind _).trans (Run.run_bind_error hbody _)
  exact congrArg Prod.fst hrun

end

/-- However many calls are asked for, this program comes to nest more of them, each of a method
directly inside another, and no range error ends it: it never ends. -/
theorem visitingItself_nests (limit : Nat) :
    (∃ bound, visitingItself.CallsOnce bound (.object []) (·.length ≤ limit)) ∧
      ∀ bound, visitingItself.render bound (.object []) = .error .exhausted := by
  constructor
  · cases limit with
    | zero => exact ⟨4, fun halt => rfl⟩
    | succ limit =>
      refine ⟨limit + 4, fun halt => renderWith_visitingItself limit ?_ ?_⟩
      · exact decide_eq_true (by simp)
      · exact call_forEach (limit + 1) visits_visitedStore (limit + 2) [] (Nat.zero_le _) (by simp)
          rfl rfl []
  · intro bound
    match bound with
    | 0 | 1 | 2 | 3 => rfl
    | bound + 4 =>
      have hplain : visitingItself.renderWith
          (.watched (fun _ => true) .exhausted (bound + 4) []) (.object []) =
          visitingItself.render (bound + 4) (.object []) :=
        renderWith_watched (fun _ _ _ => .inl rfl) visitingItself (bound + 4) (.object [])
      rw [← hplain]
      exact renderWith_visitingItself bound rfl
        (call_forEach_unending visits_visitedStore (bound + 2) [] rfl rfl [])

end Function

end Microtemplate.Script
