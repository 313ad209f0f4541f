import Microtemplate.Proofs.Script.LastingText
import Microtemplate.Proofs.Template.AppendedText
import Microtemplate.Proofs.Template.BoundVariable

/-!
The two functions that print. A program begins by declaring one of its own, which joins its arguments
and adds them to the text by an assignment; the other one is builtin and hidden behind it. Both do the
same, but that the first one leaves behind the frame, the array and the bound method of its call.
-/

namespace Microtemplate

open Script

/-- What is printed for values: their texts, and nothing for what stands for nothing. -/
def Script.Store.printed (s : Store) (args : List Value) : String :=
  String.join (args.map fun v => if v.isNullish then "" else s.text v)

namespace ProgramText

/-- The program of a template begins with the declarations of its header. -/
theorem exists_declaration {parameter : String} {more : List Char} {f : Function}
    (hparameter : isIdentifier parameter = true)
    (h : Function.ofText? (Source.program parameter.toList (Source.header ++ more)) = .ok f) :
    ∃ rest, f.body = declaration :: rest := by
  have hheader : '\n' :: Source.header = Piece.print declarations ++ ['\n'] := rfl
  have htext : Source.program parameter.toList (Source.header ++ more) =
      Piece.print (head parameter ++ declarations) ++ '\n' :: (more ++ ['\x7d']) := by
    rw [program_eq_head, Piece.print_append, ← List.cons_append, ← List.cons_append, hheader]
    simp only [List.append_assoc, List.cons_append, List.nil_append]
  have hfit : Piece.fit (head parameter ++ declarations) (some '\n') = true := by
    have hdeclarations : Piece.fit declarations (some '\n') = true := rfl
    rw [Piece.fit_append, Bool.and_eq_true]
    exact ⟨fit_head hparameter, hdeclarations⟩
  obtain ⟨-, k, t, u, hread⟩ := Function.statements_of_head h htext hfit
  obtain ⟨first, v, rest, hfirst, -, hbody⟩ :=
    Reader.exists_cons_of_statements Token.noConfusion Token.noConfusion hread
  cases hfirst.symm.trans (statement_declarations k 119 _ _)
  exact ⟨rest, hbody⟩

section

variable {s : Store} {c : Context} {v : Value} {args : List Value}

/-- A call of the builtin function adds what is printed to the text of what stands in its place. -/
theorem call_print (args : List Value) (hs : s.HoldsOutput v) (hc : c.output = programFrame)
    (bound : Nat) : (call (bound + 1) c (.builtin .print) args).Gives s .undefined
      (s.declare programFrame outputName ⟨.string (s.text v ++ s.printed args), true⟩) := by
  rw [Store.printed, ← Store.joinWith_empty, ← hs.append_eq, ← hc]
  exact .bind (.change _) (.pure _)

theorem staysIn_gathered (s : Store) (args : List Value) : s.StaysIn (gathered s args) := by
  have hlisted := (Store.StaysIn.addFrame s .function).trans (.addArray _ args.toArray)
  have hnamed := hlisted.declare_new (n := "__a") (Nat.le_refl _) ⟨.array s.arrays.size, true⟩
  exact hnamed.trans (.addMethod _ _)

/-- The text of the new array is what is printed for its elements: it is inside none of them, and they do
not need the level that it takes up. -/
theorem joinArray_gathered (hs : s.HoldsKnown)
    (hargs : ∀ w ∈ args, s.Knows w ∧ s.NestsUpTo (textDepth - 1) w) :
    (gathered s args).joinArray s.arrays.size "" = s.printed args := by
  rw [Store.joinArray, elements_gathered, Store.printed, ← Store.joinWith_empty]
  refine Store.joinWith_congr "" fun w hw _ => ?_
  obtain ⟨hknown, hnests⟩ := hargs w hw
  rw [hnests.text rfl]
  have hgathered := staysIn_gathered s args
  have houter : ∀ b ∈ [s.arrays.size], s.arrays.size ≤ b := List.forall_mem_singleton.mpr (Nat.le_refl _)
  exact @Store.StaysIn.textWithin s _ w (textDepth - 1) [] hgathered hs hknown _ houter

/-- The header of a program declares `print` as a function that does the same as the builtin one. In the
place of the text may be whatever value, and the arguments may be whatever values of the store that are
not too deep. Both functions put the text of the old value there with what is printed for the arguments
after it, and give no value. Everything else is as it was: the function of the header only adds to the
store what was needed for its call. -/
theorem print_functions_agree :
    (∀ {parameter : String} {more : List Char} {f : Function}, isIdentifier parameter = true →
      Function.ofText? (Source.program parameter.toList (Source.header ++ more)) = .ok f →
      ∃ rest, f.body = .declaration .functionWide [⟨"__t", none⟩, ⟨outputName, some (.string "")⟩,
        ⟨"print", some (.function printer)⟩] :: rest) ∧
    ∀ {s : Store} {c : Context} {a : Address} {v : Value} {args : List Value} (bound : Nat),
      s.functions[a]? = some ⟨printer, programContext.scope⟩ → s.HoldsOutput v →
      c.output = programFrame → c.depth < callLimit → s.HoldsKnown → s.Knows v →
      (∀ w ∈ args, s.Knows w ∧ s.NestsUpTo 999 w) →
      let after := s.declare programFrame outputName ⟨.string (s.text v ++ s.printed args), true⟩
      (call (bound + 1) c (.builtin .print) args).Gives s .undefined after ∧
      ∃ t, (call (bound + 6) c (.function a) args).Gives s .undefined t ∧ after.StaysIn t := by
  refine ⟨exists_declaration, fun {s c a v args} bound hprinter houtput hc hdepth hs hv hargs => ?_⟩
  refine ⟨call_print args houtput hc bound, _, call_printer_gives args houtput hprinter hdepth bound, ?_⟩
  rw [binary_string_add, joinArray_gathered hs hargs, (staysIn_gathered s args).text hs hv]
  exact (staysIn_gathered s args).declare _ _ _

/-- An array that holds itself, printed after itself and in front of nothing and a truth value. -/
theorem print_functions_agree_cyclic :
    let s : Store := ⟨#[#[.string "x", .array 0, .null]], #[], #[⟨printer, programContext.scope⟩], #[],
      #[⟨.global, []⟩, ⟨.function, [(outputName, ⟨.array 0, true⟩)]⟩]⟩
    let args : List Value := [.array 0, .undefined, .boolean true]
    let after := s.declare programFrame outputName ⟨.string "x,,x,,true", true⟩
    (∃ f rest, Function.ofText? (Source.program "obj".toList (Source.header ++ [])) = .ok f ∧
      f.body = .declaration .functionWide [⟨"__t", none⟩, ⟨outputName, some (.string "")⟩,
        ⟨"print", some (.function printer)⟩] :: rest) ∧
    (call 1 programContext (.builtin .print) args).Gives s .undefined after ∧
      ∃ t, (call 6 programContext (.function 0) args).Gives s .undefined t ∧ after.StaysIn t := by
  intro s args after
  have helements : ∀ a, ∀ w ∈ s.elements a, a = 0 ∧ (w = .string "x" ∨ w = .array 0 ∨ w = .null) := by
    intro a w hw
    match a with
    | 0 => simpa [Store.elements, s] using hw
    | a + 1 => simp [Store.elements, s] at hw
  have hself : ∀ b, Relation.ReflTransGen s.Nests 0 b → b = 0 := by
    intro b hb
    induction hb with
    | refl => rfl
    | tail _ hnests _ => simpa using (helements _ _ hnests).2
  have hnests : s.NestsUpTo 999 (.array 0) := by
    rintro _ ⟨⟩ chain hchain hnodup
    cases chain with
    | nil => exact Nat.zero_le _
    | cons b chain =>
      have hzero : ∀ x ∈ b :: chain, x = 0 := fun x hx => hself x (hchain.reaches hx).1
      rw [List.eq_replicate_of_mem hzero, List.nodup_replicate] at hnodup
      omega
  have hknown : s.HoldsKnown := by
    intro a w hw
    obtain ⟨-, rfl | rfl | rfl⟩ := helements a w hw
    · trivial
    · exact Nat.zero_lt_one
    · trivial
  have hargs : ∀ w ∈ args, s.Knows w ∧ s.NestsUpTo 999 w := by
    refine List.forall_mem_cons.mpr ⟨⟨Nat.zero_lt_one, hnests⟩, List.forall_mem_cons.mpr
      ⟨⟨trivial, fun _ => Value.noConfusion⟩,
        List.forall_mem_singleton.mpr ⟨trivial, fun _ => Value.noConfusion⟩⟩⟩
  obtain ⟨hheader, hagree⟩ := print_functions_agree
  refine ⟨?_, ?_⟩
  · have hread : (Function.ofText? (Source.program "obj".toList (Source.header ++ []))).isOk = true := by
      decide +kernel
    cases h : Function.ofText? (Source.program "obj".toList (Source.header ++ [])) with
    | error e =>
      rw [h] at hread
      cases hread
    | ok f =>
      obtain ⟨rest, hrest⟩ := hheader (by decide +kernel) h
      exact ⟨f, rest, rfl, hrest⟩
  · have htext : s.text (.array 0) ++ s.printed args = "x,,x,,true" := by decide +kernel
    have houtput : s.HoldsOutput (.array 0) := ⟨_, rfl, rfl, rfl⟩
    have hboth := @hagree s programContext 0 (.array 0) args 0 rfl houtput rfl (by decide) hknown
      Nat.zero_lt_one hargs
    rw [htext] at hboth
    exact hboth

end

end ProgramText

end Microtemplate
