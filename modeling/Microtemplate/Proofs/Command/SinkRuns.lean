import Microtemplate.Proofs.Command.AllOrNothing

/-!
Runs into one file, one after the other. The file holds the texts that were put before its contents
in reverse order, then the last text that replaced them, then the texts that were put after them, of
which those count that came after that replacement.
-/

namespace Microtemplate.Command

/-- The texts that runs write in one mode, in their order. -/
def textsOf (mode : SinkMode) (runs : List (SinkMode × String)) : List ByteArray :=
  (runs.filter (·.1 = mode)).map (·.2.toUTF8)

/-- The runs after the last one that replaces the contents. -/
def sinceReplaced (runs : List (SinkMode × String)) : List (SinkMode × String) :=
  (runs.reverse.takeWhile (·.1 ≠ .replace)).reverse

/-- Texts one after the other. -/
def joined (texts : List ByteArray) : ByteArray := texts.foldr (· ++ ·) .empty

/-- What a file holds after runs into it. -/
def heldAfter (old : ByteArray) (runs : List (SinkMode × String)) : ByteArray :=
  joined (textsOf .prepend (sinceReplaced runs)).reverse ++
    (((textsOf .replace runs).getLast?.getD old) ++ joined (textsOf .append (sinceReplaced runs)))

theorem joined_append (texts more : List ByteArray) :
    joined (texts ++ more) = joined texts ++ joined more := by
  induction texts with
  | nil => exact ByteArray.empty_append.symm
  | cons text texts ih =>
    change text ++ joined (texts ++ more) = text ++ joined texts ++ joined more
    rw [ih, ByteArray.append_assoc]

theorem joined_cons (text : ByteArray) (texts : List ByteArray) :
    joined (text :: texts) = text ++ joined texts := rfl

theorem joined_singleton (text : ByteArray) : joined [text] = text := ByteArray.append_empty

/-- With one more run the contents change in the way that its mode says. -/
theorem heldAfter_append (old : ByteArray) (runs : List (SinkMode × String)) (mode : SinkMode)
    (output : String) : heldAfter old (runs ++ [(mode, output)]) =
      mode.combine (heldAfter old runs) output.toUTF8 := by
  have htexts : ∀ (kind : SinkMode) (rs : List (SinkMode × String)),
      textsOf kind (rs ++ [(mode, output)]) =
        textsOf kind rs ++ if mode = kind then [output.toUTF8] else [] := by
    intro kind rs
    rw [textsOf, List.filter_append, List.map_append, textsOf]
    by_cases hkind : mode = kind <;> simp [hkind]
  have hsince : sinceReplaced (runs ++ [(mode, output)]) =
      if mode = .replace then [] else sinceReplaced runs ++ [(mode, output)] := by
    rw [sinceReplaced, List.reverse_append, List.reverse_singleton, List.singleton_append]
    by_cases hmode : mode = .replace <;> simp [hmode, sinceReplaced]
  cases mode with
  | append =>
    simp only [heldAfter, hsince, htexts, reduceCtorEq, if_false, if_true, List.append_nil,
      joined_append, joined_singleton, SinkMode.combine, ByteArray.append_assoc]
  | replace => simp [heldAfter, hsince, SinkMode.combine, textsOf, joined]
  | prepend =>
    simp only [heldAfter, hsince, htexts, reduceCtorEq, if_false, if_true, List.append_nil,
      List.reverse_append, List.reverse_singleton, List.singleton_append, joined_cons,
      SinkMode.combine, ByteArray.append_assoc]

/-- What a file holds before any run. -/
theorem heldAfter_nil (old : ByteArray) : heldAfter old [] = old := by
  simp [heldAfter, sinceReplaced, textsOf, joined]

/-- A command line renders a text into a file, and succeeds. -/
def RendersInto (path : String) (d : Directory) (mode : SinkMode) (output : String)
    (d' : Directory) : Prop :=
  ∃ input words template data quiet options shown,
    Request.ofWords words = .ok (.render template data (some path) mode quiet options) ∧
    (run (Directory.access input) words).run d = (.done shown, d') ∧
    resultOn (execute (Directory.access input) (.render template data none mode quiet options)) d =
      (.ok output, d)

/-- Command lines render texts into one file, and all of them succeed. -/
inductive RunsInto (path : String) : Directory → List (SinkMode × String) → Directory → Prop
  | first (d : Directory) : RunsInto path d [] d
  | next {d d' after : Directory} {runs : List (SinkMode × String)} {mode : SinkMode}
      {output : String} : RunsInto path d runs d' → RendersInto path d' mode output after →
        RunsInto path d (runs ++ [(mode, output)]) after

theorem RendersInto.contents {path : String} {d d' : Directory} {mode : SinkMode} {output : String}
    (h : RendersInto path d mode output d') : ∃ old, d.Holds path old ∧
      d'.contents path = .ok (mode.combine old output.toUTF8) := by
  obtain ⟨input, words, template, data, quiet, options, shown, hrequest, hrun, houtput⟩ := h
  obtain ⟨output', name, old, houtput', htarget, hold, rfl, -⟩ := run_done hrequest hrun
  rw [houtput] at houtput'
  cases houtput'
  exact ⟨old, hold, Directory.contents_put htarget _⟩

/-- After runs into a file it holds what they leave there. -/
theorem RunsInto.contents {path : String} {d d' : Directory} {runs : List (SinkMode × String)}
    (h : RunsInto path d runs d') : (runs = [] ∧ d' = d) ∨
      ∃ old, d.Holds path old ∧ d'.contents path = .ok (heldAfter old runs) := by
  induction h with
  | first => exact .inl ⟨rfl, rfl⟩
  | next _ hrun ih =>
    obtain ⟨held, hheld, hcontents⟩ := hrun.contents
    right
    rcases ih with ⟨rfl, rfl⟩ | ⟨old, hold, hbefore⟩
    · refine ⟨held, hheld, ?_⟩
      rw [hcontents, heldAfter_append, heldAfter_nil]
    · obtain rfl := hheld.unique (.inl hbefore)
      refine ⟨old, hold, ?_⟩
      rw [hcontents, heldAfter_append]

end Microtemplate.Command
