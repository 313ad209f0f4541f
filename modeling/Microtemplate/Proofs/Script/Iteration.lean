import Microtemplate.Proofs.Script.Running

/-!
Going over arrays. A function that is called for the elements of an array is called for the indices
that there are at the start, one after the other, each time with the element that the array has there
then, up to the first index that the array no longer has or the first call that fails: a `Walk`. The
methods of arrays and `each` go on the same walk and differ in what they make of it. A loop over
elements makes its passes with those that there were when it started, whatever its body does.
-/

namespace Microtemplate.Script

/-- A call for an element of an array: the stores before and after it, the element and what the call
has given. -/
structure Round where
  before : Store
  element : Value
  result : Value
  after : Store

section Walks

variable (call : List Value → Run Value) (a : Address)

/-- Calls for the elements of an array from an index on. Each starts where the one before has ended,
with the element that the array has at its index there. -/
inductive Rounds : Nat → Store → List Round → Store → Prop
  | none (index : Nat) (s : Store) : Rounds index s [] s
  | round {index : Nat} {s t u : Store} {element result : Value} {rounds : List Round}
      (helement : (s.elements a)[index]? = some element)
      (hcall : (call [element, .number (Decimal.ofNat index), .array a]).Gives s result t)
      (hmore : Rounds (index + 1) t rounds u) :
      Rounds index s (⟨s, element, result, t⟩ :: rounds) u

/-- Going over `count` indices of an array: the calls that give a value, the failure of the call after
them if there is one, and the store in the end. -/
inductive Walk (index count : Nat) (s : Store) (rounds : List Round) : Option Halt → Store → Prop
  | full {u : Store} (h : Rounds call a index s rounds u) (hcount : rounds.length = count) :
      Walk index count s rounds none u
  | short {u : Store} (h : Rounds call a index s rounds u) (hcount : rounds.length < count)
      (hend : (u.elements a)[index + rounds.length]? = none) : Walk index count s rounds none u
  | failed {u w : Store} {element : Value} {halt : Halt} (h : Rounds call a index s rounds u)
      (hcount : rounds.length < count)
      (helement : (u.elements a)[index + rounds.length]? = some element)
      (hcall : (call [element, .number (Decimal.ofNat (index + rounds.length)), .array a]).run.run u =
        (.error halt, w)) : Walk index count s rounds (some halt) w

end Walks

/-- How a run ends that goes over an array: with a value and a store, or with the failure. -/
def ended {α : Type} (failure : Option Halt) (u : Store) (made : α × Store) : Except Halt α × Store :=
  match failure with
  | none => (.ok made.1, made.2)
  | some halt => (.error halt, u)

theorem run_bind_ended {α β : Type} {m : Run α} {s u : Store} {failure : Option Halt} {v : α}
    (h : m.run.run s = ended failure u (v, u)) {f : α → Run β} {made : β × Store}
    (hf : (f v).run.run u = (.ok made.1, made.2)) : (m >>= f).run.run s = ended failure u made := by
  rw [Run.run_bind, h]
  cases failure with
  | none => exact hf
  | some halt => rfl

namespace Walk

variable {call : List Value → Run Value} {a : Address} {index count : Nat} {s t u : Store}
  {rounds : List Round} {failure : Option Halt}

/-- A walk starts with a call and goes on at the next index. -/
theorem cons {element result : Value} (helement : (s.elements a)[index]? = some element)
    (hcall : (call [element, .number (Decimal.ofNat index), .array a]).Gives s result t)
    (h : Walk call a (index + 1) count t rounds failure u) :
    Walk call a index (count + 1) s (⟨s, element, result, t⟩ :: rounds) failure u := by
  have hnext : index + 1 + rounds.length = index + (rounds.length + 1) := by omega
  cases h with
  | full h hcount => exact .full (.round helement hcall h) (congrArg (· + 1) hcount)
  | short h hcount hend =>
    rw [hnext] at hend
    exact .short (.round helement hcall h) (Nat.succ_lt_succ hcount) hend
  | failed h hcount helement' hcall' =>
    rw [hnext] at helement' hcall'
    exact .failed (.round helement hcall h) (Nat.succ_lt_succ hcount) helement' hcall'

/-- There are at most as many calls as indices, the one that fails included. -/
theorem calls_le (h : Walk call a index count s rounds failure u) :
    rounds.length + failure.toList.length ≤ count := by
  cases h with
  | full _ hcount => exact Nat.le_of_eq hcount
  | short _ hcount _ => exact Nat.le_of_lt hcount
  | failed _ hcount _ _ => exact hcount

end Walk

/-- Calls that never make the array shorter leave it at least as long as it was. -/
theorem Rounds.size_le {call : List Value → Run Value} {a : Address} {index : Nat} {s u : Store}
    {rounds : List Round} (h : Rounds call a index s rounds u)
    (hkept : ∀ r ∈ rounds, (r.before.elements a).size ≤ (r.after.elements a).size) :
    (s.elements a).size ≤ (u.elements a).size := by
  induction h with
  | none => exact Nat.le_refl _
  | round _ _ _ ih =>
    obtain ⟨hfirst, hrest⟩ := List.forall_mem_cons.mp hkept
    exact Nat.le_trans hfirst (ih hrest)

/-- A walk over a whole array goes to its end if nothing fails and no call makes the array shorter. -/
theorem Walk.length_eq {call : List Value → Run Value} {a : Address} {s u : Store}
    {rounds : List Round} (h : Walk call a 0 (s.elements a).size s rounds none u)
    (hkept : ∀ r ∈ rounds, (r.before.elements a).size ≤ (r.after.elements a).size) :
    rounds.length = (s.elements a).size := by
  cases h with
  | full _ hcount => exact hcount
  | short h hcount hend =>
    have hsize := h.size_le hkept
    have houtside := Array.getElem?_eq_none_iff.mp hend
    omega

namespace ArrayMethod

/-- Visiting goes on a walk and collects the elements with what the calls give for them. -/
theorem visit_walk (call : List Value → Run Value) (a : Address) (count index : Nat) (s : Store) :
    ∃ rounds failure u, Walk call a index count s rounds failure u ∧
      (visit call a count index).run.run s =
        ended failure u (rounds.map fun r => (r.element, r.result), u) := by
  induction count generalizing index s with
  | zero => exact ⟨[], none, s, .full (.none index s) rfl, rfl⟩
  | succ count ih =>
    rw [visit, Run.run_read]
    cases helement : (s.elements a)[index]? with
    | none => exact ⟨[], none, s, .short (.none index s) (Nat.succ_pos count) helement, rfl⟩
    | some element =>
      dsimp only
      cases hcall : (call [element, .number (Decimal.ofNat index), .array a]).run.run s with
      | mk outcome t =>
        cases outcome with
        | error halt =>
          exact ⟨[], some halt, t, .failed (.none index s) (Nat.succ_pos count) helement hcall,
            Run.run_bind_error hcall _⟩
        | ok result =>
          obtain ⟨rounds, failure, u, hwalk, hvisit⟩ := ih (index + 1) t
          refine ⟨⟨s, element, result, t⟩ :: rounds, failure, u, .cons helement hcall hwalk, ?_⟩
          rw [Run.Gives.run_bind hcall, run_bind_ended hvisit]
          rfl

end ArrayMethod

namespace Evaluator

variable (self : Evaluator) (c : Context)

/-- Visiting all elements of an array is a walk over the indices that there are at the start. -/
theorem visitAll_walk (a : Address) (callback : Value) (s : Store) :
    ∃ rounds failure u, Walk (self.call c callback) a 0 (s.elements a).size s rounds failure u ∧
      (ArrayMethod.visitAll (self.call c) a callback).run.run s =
        ended failure u (rounds.map fun r => (r.element, r.result), u) := by
  rw [ArrayMethod.visitAll, Run.run_read]
  exact ArrayMethod.visit_walk _ a _ 0 s

/-- One pass of a loop over elements: a frame of its own, the value for the binding, the body. -/
def pass (binding : LoopBinding) (body : Stmt) (v : Value) : Run Completion := do
  let frame ← Run.add (·.addFrame .block)
  bindRound (c.push frame) frame binding v
  self.exec (c.push frame) body

/-- Passes with values one after the other, after each of which the loop goes on. -/
inductive Passes (binding : LoopBinding) (body : Stmt) : Store → List Value → Store → Prop
  | none (s : Store) : Passes binding body s [] s
  | pass {s t u : Store} {v : Value} {vs : List Value} {completion : Completion}
      (hpass : (self.pass c binding body v).Gives s completion t)
      (hgoes : completion = .normal ∨ completion = .continued)
      (hmore : Passes binding body t vs u) : Passes binding body s (v :: vs) u

/-- How a loop ends in a pass after which it does not go on. -/
inductive Leaves : Except Halt Completion → Except Halt Completion → Prop
  | failed (halt : Halt) : Leaves (.error halt) (.error halt)
  | broken : Leaves (.ok .broken) (.ok .normal)
  | returned (v : Value) : Leaves (.ok (.returned v)) (.ok (.returned v))

/-- A pass fails, leaves the loop, or is followed by the next one. -/
theorem leaves_or_goes (completion : Except Halt Completion) :
    (∃ ending, Leaves completion ending) ∨
      completion = .ok .normal ∨ completion = .ok .continued := by
  cases completion with
  | error halt => exact .inl ⟨_, .failed halt⟩
  | ok completion =>
    cases completion with
    | normal => exact .inr (.inl rfl)
    | continued => exact .inr (.inr rfl)
    | broken => exact .inl ⟨_, .broken⟩
    | returned v => exact .inl ⟨_, .returned v⟩

theorem execEach_cons (binding : LoopBinding) (body : Stmt) (v : Value) (vs : List Value) :
    self.execEach c binding body (v :: vs) = (self.pass c binding body v >>= fun
      | .broken => pure .normal
      | .returned x => pure (.returned x)
      | _ => self.execEach c binding body vs) := by
  rw [execEach, pass, bind_assoc]
  exact bind_congr fun frame => (bind_assoc _ _ _).symm

/-- A loop over values makes passes with the first ones of them, in their order: with all of them, or
up to the one in which the loop is left. -/
theorem execEach_passes (binding : LoopBinding) (body : Stmt) (vs : List Value) (s : Store) :
    ∃ passed rest u, vs = passed ++ rest ∧ self.Passes c binding body s passed u ∧
      (rest = [] ∧ (self.execEach c binding body vs).run.run s = (.ok .normal, u) ∨
        ∃ v later completion ending w, rest = v :: later ∧
          (self.pass c binding body v).run.run u = (completion, w) ∧ Leaves completion ending ∧
          (self.execEach c binding body vs).run.run s = (ending, w)) := by
  induction vs generalizing s with
  | nil => exact ⟨[], [], s, rfl, .none s, .inl ⟨rfl, rfl⟩⟩
  | cons v vs ih =>
    rw [execEach_cons]
    cases hpass : (self.pass c binding body v).run.run s with
    | mk completion t =>
      obtain ⟨ending, hleaves⟩ | hgoes := leaves_or_goes completion
      · refine ⟨[], v :: vs, s, rfl, .none s,
          .inr ⟨v, vs, completion, ending, t, rfl, hpass, hleaves, ?_⟩⟩
        rw [Run.run_bind, hpass]
        cases hleaves <;> rfl
      · obtain ⟨passed, rest, u, rfl, hpasses, hend⟩ := ih t
        have hnext : ∃ last, completion = .ok last ∧ (last = .normal ∨ last = .continued) := by
          rcases hgoes with rfl | rfl
          · exact ⟨_, rfl, .inl rfl⟩
          · exact ⟨_, rfl, .inr rfl⟩
        obtain ⟨last, rfl, hlast⟩ := hnext
        refine ⟨v :: passed, rest, u, rfl, .pass hpass hlast hpasses, ?_⟩
        rw [Run.Gives.run_bind hpass]
        rcases hlast with rfl | rfl <;> exact hend

section Methods

variable {self c} {s u : Store} {a : Address} {callback : Value} {more : List Value}
  {rounds : List Round} {failure : Option Halt}

/-- Visiting with a function that can be called. -/
theorem visitAll?_eq (hcallable : callback.isCallable = true) :
    ArrayMethod.visitAll? (self.call c) a callback = ArrayMethod.visitAll (self.call c) a callback :=
  if_pos hcallable

variable (hvisit : (ArrayMethod.visitAll (self.call c) a callback).run.run s =
  ended failure u (rounds.map fun r => (r.element, r.result), u))

include hvisit

theorem callStep_each (hcallable : callback.isCallable = true) :
    (self.callStep c (.builtin .each) (.array a :: callback :: more)).run.run s =
      ended failure u (.array a, u) := by
  have heach : (Builtin.visitEach (self.call c) (.array a) callback).run.run s =
      ended failure u ((), u) := by
    rw [Builtin.visitEach, if_pos hcallable]
    exact run_bind_ended hvisit rfl
  exact run_bind_ended heach rfl

variable {m : Address}

theorem callStep_forEach (hcallable : callback.isCallable = true)
    (hm : s.methods[m]? = some ⟨.array a, .forEach⟩) :
    (self.callStep c (.method m) (callback :: more)).run.run s =
      ended failure u (.undefined, u) := by
  rw [callStep, Run.run_read, hm]
  change (ArrayMethod.visitAll? (self.call c) a callback >>= _).run.run s = _
  rw [visitAll?_eq hcallable]
  exact run_bind_ended hvisit rfl

theorem callStep_map (hcallable : callback.isCallable = true)
    (hm : s.methods[m]? = some ⟨.array a, .map⟩) :
    (self.callStep c (.method m) (callback :: more)).run.run s =
      ended failure u (u.addArray (rounds.map (·.result)).toArray) := by
  rw [callStep, Run.run_read, hm]
  change (ArrayMethod.visitAll? (self.call c) a callback >>= _).run.run s = _
  rw [visitAll?_eq hcallable]
  refine run_bind_ended hvisit ?_
  rw [List.map_map]
  rfl

theorem callStep_filter (hcallable : callback.isCallable = true)
    (hm : s.methods[m]? = some ⟨.array a, .filter⟩) :
    (self.callStep c (.method m) (callback :: more)).run.run s =
      ended failure u (u.addArray ((rounds.filter (·.result.truthy)).map (·.element)).toArray) := by
  rw [callStep, Run.run_read, hm]
  change (ArrayMethod.visitAll? (self.call c) a callback >>= _).run.run s = _
  rw [visitAll?_eq hcallable]
  refine run_bind_ended hvisit ?_
  rw [List.filter_map, List.map_map]
  rfl

end Methods

/-- Calling `forEach`, `map` or `filter` of an array, or `each` with it, goes on one walk over the
indices that the array has at the start; a loop over its elements makes its passes with the elements
that there are at the start. -/
theorem iteration_bounded :
    (∀ (s : Store) (a : Address) (callback : Value) (more : List Value),
      callback.isCallable = true →
      ∃ rounds failure u,
        Walk (self.call c callback) a 0 (s.elements a).size s rounds failure u ∧
        rounds.length + failure.toList.length ≤ (s.elements a).size ∧
        (failure = none →
          (∀ r ∈ rounds, (r.before.elements a).size ≤ (r.after.elements a).size) →
          rounds.length = (s.elements a).size) ∧
        (∀ m, s.methods[m]? = some ⟨.array a, .forEach⟩ →
          (self.callStep c (.method m) (callback :: more)).run.run s =
            ended failure u (.undefined, u)) ∧
        (∀ m, s.methods[m]? = some ⟨.array a, .map⟩ →
          (self.callStep c (.method m) (callback :: more)).run.run s =
            ended failure u (u.addArray (rounds.map (·.result)).toArray)) ∧
        (∀ m, s.methods[m]? = some ⟨.array a, .filter⟩ →
          (self.callStep c (.method m) (callback :: more)).run.run s = ended failure u
            (u.addArray ((rounds.filter (·.result.truthy)).map (·.element)).toArray)) ∧
        (self.callStep c (.builtin .each) (.array a :: callback :: more)).run.run s =
          ended failure u (.array a, u)) ∧
    ∀ (s t : Store) (a : Address) (e : Expr) (binding : LoopBinding) (body : Stmt),
      (self.eval c e).Gives s (.array a) t →
      ∃ passed rest u, (t.elements a).toList = passed ++ rest ∧
        self.Passes c binding body t passed u ∧
        (rest = [] ∧ (self.execStep c (.loopOf binding e body)).run.run s = (.ok .normal, u) ∨
          ∃ v later completion ending w, rest = v :: later ∧
            (self.pass c binding body v).run.run u = (completion, w) ∧ Leaves completion ending ∧
            (self.execStep c (.loopOf binding e body)).run.run s = (ending, w)) := by
  constructor
  · intro s a callback more hcallable
    obtain ⟨rounds, failure, u, hwalk, hvisit⟩ := self.visitAll_walk c a callback s
    exact ⟨rounds, failure, u, hwalk, hwalk.calls_le, fun hnone => (hnone ▸ hwalk).length_eq,
      fun m => callStep_forEach hvisit hcallable, fun m => callStep_map hvisit hcallable,
      fun m => callStep_filter hvisit hcallable, callStep_each hvisit hcallable⟩
  · intro s t a e binding body he
    have hloop : (self.execStep c (.loopOf binding e body)).run.run s =
        (self.execEach c binding body (t.elements a).toList).run.run t := he.run_bind _
    rw [hloop]
    exact self.execEach_passes c binding body (t.elements a).toList t

/-- A callback that takes the last element away each time is called for one of two elements, and a
loop over two elements makes two passes. -/
theorem iteration_bounded_popping :
    let s : Store := ⟨#[#[.boolean true, .null]], #[], #[],
      #[⟨.array 0, .pop⟩, ⟨.array 0, .map⟩], #[]⟩
    let t : Store := { s with arrays := s.arrays.push #[.null, .null] }
    let c : Context := ⟨[], 0, 0⟩
    let self := within 2
    let binding : LoopBinding := .declare .constant "x"
    (Value.method 0).isCallable = true ∧ s.methods[1]? = some ⟨.array 0, .map⟩ ∧
      (∃ rounds u, Walk (self.call c (.method 0)) 0 0 2 s rounds none u ∧
        rounds.map (·.result) = [.null]) ∧
      (self.eval c (.array [.null, .null])).Gives s (.array 1) t ∧
      ∃ u, self.Passes c binding .empty t [.null, .null] u ∧
        (self.execStep c (.loopOf binding (.array [.null, .null]) .empty)).Gives s .normal u := by
  intro s t c self binding
  have hcallable : (Value.method 0).isCallable = true := rfl
  have hmap : s.methods[1]? = some ⟨.array 0, .map⟩ := rfl
  have heval : (self.eval c (.array [.null, .null])).Gives s (.array 1) t := rfl
  refine ⟨hcallable, hmap, ?_, heval, ?_⟩
  · obtain ⟨rounds, failure, u, hwalk, -, -, -, hmapped, -⟩ :=
      (iteration_bounded self c).1 s 0 (.method 0) [] hcallable
    have hrun : (self.callStep c (.method 1) [.method 0]).run.run s =
      (.ok (.array 1), { s with arrays := #[#[.boolean true], #[.null]] }) := rfl
    have hended := (hmapped 1 hmap).symm.trans hrun
    cases failure with
    | some halt => cases hended
    | none =>
      refine ⟨rounds, u, hwalk, ?_⟩
      have hlast := congrArg (fun r => r.2.arrays.back?) hended
      simpa [ended, Store.addArray] using hlast
  · obtain ⟨passed, rest, u, hitems, hpasses, ⟨rfl, hloop⟩ | hleft⟩ :=
      (iteration_bounded self c).2 s t 1 (.array [.null, .null]) binding .empty heval
    · obtain rfl : passed = [.null, .null] := by
        rw [List.append_nil] at hitems
        exact hitems.symm
      exact ⟨u, hpasses, hloop⟩
    · obtain ⟨v, later, completion, ending, w, -, hpass, hleaves, -⟩ := hleft
      -- The body is empty, so every pass ends normally.
      have hnormal : completion = .ok .normal := (congrArg Prod.fst hpass).symm
      subst hnormal
      cases hleaves

end Evaluator

end Microtemplate.Script
