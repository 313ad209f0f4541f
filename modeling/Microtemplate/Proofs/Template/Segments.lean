import Mathlib.Data.List.Chain
import Microtemplate.Proofs.Template.Rendering

/-!
Templates that are made of texts and of regions which show fields: they compile, and what they
render is the texts and the fields in their order.
-/

namespace Microtemplate

open Script

/-- A part of a template: a text, or a region that shows a field of the data. -/
inductive Segment where
  | literal (text : String)
  | field (escaped : Bool) (name : String)

namespace Segment

/-- Whether a part is a text. -/
def isLiteral : Segment → Bool
  | literal _ => true
  | field .. => false

/-- A part as it is written. If a variable holds the data, fields are properties of it. -/
def text (v : Option String) : Segment → String
  | literal text => text
  | field escaped name =>
    (if escaped then "<%- " else "<%= ") ++ v.elim name (· ++ "." ++ name) ++ " %>"

/-- What is rendered for a part: texts as they are, nothing for a field that is null, and the text
of any other field, escaped if the region says so. -/
def rendered (fields : List (String × Json)) : Segment → String
  | literal text => text
  | field escaped name => ((Fields.get? fields name).getD .null).shown escaped

/-- A text opens no region, and a field has a name of the data. -/
def Fits (fields : List (String × Json)) : Segment → Prop
  | literal text => ¬ ['<', '%'] <:+: text.toList
  | field _ name => isIdentifier name = true ∧ (Fields.get? fields name).isSome = true

/-- The text at the start and the slots after it. -/
def gather : List Segment → List Char × List Slot
  | [] => ([], [])
  | literal text :: rest => (text.toList ++ (gather rest).1, (gather rest).2)
  | field escaped name :: rest => ([], ⟨escaped, name, (gather rest).1⟩ :: (gather rest).2)

theorem text_field (v : Option String) (s : Slot) :
    (field s.escaped s.name).text v = String.ofList (s.insert v).tag := by
  have hopening : ∀ escaped : Bool, (if escaped then "<%- " else "<%= ").toList =
      (if escaped then Region.escape else .interpolate).opening ++ [' '] := by
    intro escaped
    cases escaped <;> decide +kernel
  have hreference : ' ' :: (v.elim s.name (· ++ "." ++ s.name)).toList =
      Piece.print (Slot.reference v s.name) := by
    cases v <;> simp [Slot.reference, Piece.print, Piece.chars, Spacing.chars, Lexeme.chars,
      Punctuator.chars]
  refine String.toList_inj.mp ?_
  rw [String.toList_ofList, Segment.text, String.toList_append, String.toList_append, hopening,
    Insert.tag, Slot.insert, ← hreference]
  simp

theorem flatMap_text (v : Option String) (segments : List Segment) :
    (segments.map (·.text v)).flatMap String.toList =
      (gather segments).1 ++ ((gather segments).2.map (·.insert v)).flatMap Insert.text := by
  induction segments with
  | nil => rfl
  | cons s rest ih =>
    rw [List.map_cons, List.flatMap_cons, ih]
    cases s with
    | literal text => rw [gather, Segment.text, List.append_assoc]
    | field escaped name =>
      have htext := text_field v ⟨escaped, name, (gather rest).1⟩
      dsimp only at htext
      rw [htext, String.toList_ofList]
      simp [gather, Insert.text, Slot.insert]

theorem join_rendered (fields : List (String × Json)) (segments : List Segment) :
    String.join (segments.map (·.rendered fields)) = String.ofList (gather segments).1 ++
      String.join ((gather segments).2.map (·.shown fields)) := by
  induction segments with
  | nil => rfl
  | cons s rest ih =>
    rw [List.map_cons, String.join_cons, ih]
    cases s with
    | literal text =>
      rw [gather, rendered, String.ofList_append, String.ofList_toList, String.append_assoc]
    | field escaped name =>
      simp [gather, rendered, Slot.shown, String.append_assoc]

theorem length_gather_le (segments : List Segment) :
    (gather segments).2.length ≤ segments.length := by
  induction segments with
  | nil => exact Nat.le_refl _
  | cons s rest ih =>
    cases s with
    | literal text => exact Nat.le_succ_of_le ih
    | field escaped name => exact Nat.succ_le_succ ih

section

variable {fields : List (String × Json)} {segments : List Segment}
  (hchain : segments.IsChain fun s t => ¬ (s.isLiteral = true ∧ t.isLiteral = true))
  (hfits : ∀ s ∈ segments, s.Fits fields)

include hchain hfits

/-- The texts between regions are single parts, so none of them opens a region. -/
theorem gather_plain : ¬ ['<', '%'] <:+: (gather segments).1 ∧
    ∀ s ∈ (gather segments).2, s.Named ∧ (Fields.get? fields s.name).isSome = true := by
  induction segments with
  | nil => exact ⟨by decide, by simp [gather]⟩
  | cons s rest ih =>
    obtain ⟨hlead, hslots⟩ := ih (List.isChain_cons.mp hchain).2
      fun t ht => hfits t (List.mem_cons_of_mem s ht)
    have hs := hfits s (List.mem_cons_self ..)
    cases s with
    | literal text =>
      have hempty : (gather rest).1 = [] := by
        cases rest with
        | nil => rfl
        | cons t rest =>
          cases t with
          | literal other => exact absurd ⟨rfl, rfl⟩ (List.isChain_cons_cons.mp hchain).1
          | field escaped name => rfl
      refine ⟨?_, hslots⟩
      rw [gather, hempty, List.append_nil]
      exact hs
    | field escaped name =>
      refine ⟨(by decide : ¬ ['<', '%'] <:+: []), ?_⟩
      intro slot hslot
      rcases List.mem_cons.mp hslot with rfl | hslot
      · exact ⟨⟨hs.1, hlead⟩, hs.2⟩
      · exact hslots slot hslot

end

/-- A template of texts and fields compiles, and it renders the texts and the fields in their order.
The fields are names if `v` is none, and properties of the variable `v` otherwise. -/
theorem renderWithin_join {v : Option String}
    (hv : ∀ w, v = some w → isIdentifier w = true ∧ w ∉ ["__t", "__p", "print", "_"])
    {fields : List (String × Json)}
    (hhidden : ∀ name ∈ ["__t", "__p", "_"], Fields.get? fields name = none)
    {segments : List Segment}
    (hchain : segments.IsChain fun s t => ¬ (s.isLiteral = true ∧ t.isLiteral = true))
    (hfits : ∀ s ∈ segments, s.Fits fields) :
    ∃ c, Compiled.ofTemplate (String.join (segments.map (·.text v)))
        (Settings.default.withVariable v) = .ok c ∧
      ∀ bound, 2 * segments.length + 9 ≤ bound → c.renderWithin bound (.object fields) =
        .ok (String.join (segments.map (·.rendered fields))) := by
  obtain ⟨hlead, hslots⟩ := gather_plain hchain hfits
  have hidentifier : ∀ w, v = some w → isIdentifier w = true := fun w hw => (hv w hw).1
  have hvariable : (Settings.default.withVariable v).variableName = v := by
    cases v with
    | none => rfl
    | some w =>
      obtain ⟨c, cs, hname, -⟩ := exists_toList_of_isIdentifier (hidentifier w rfl)
      have hne : w.isEmpty = false := by
        refine Bool.eq_false_iff.mpr fun hempty => ?_
        rw [String.isEmpty_iff.mp hempty] at hname
        cases hname
      simp [Settings.withVariable, hne]
  have hnames : v.getD Settings.defaultVariable ∉ ProgramText.names := by
    cases v with
    | none => decide
    | some w => exact (hv w rfl).2
  have hplain : ∀ i ∈ (gather segments).2.map (·.insert v), i.Plain := by
    simpa using fun s hs => Slot.insert_plain hidentifier (hslots s hs).1
  have hdefault : (Settings.default.withVariable v).HasDefaultPatterns := fun _ => rfl
  have hsteps := hdefault.steps hplain hlead
  rw [List.flatMap_map (Slot.insert v) Insert.steps] at hsteps
  have hsource := ProgramText.ofInstructions_eq_print (Settings.default.withVariable v)
    (gather segments).1 (gather segments).2
  rw [hvariable] at hsource
  have hprogram := ProgramText.ofText?_print hidentifier (gather segments).1
    fun s hs => (hslots s hs).1
  refine ⟨⟨String.ofList (Piece.print (ProgramText.pieces v (gather segments).1
    (gather segments).2)), ProgramText.tree v (gather segments).1 (gather segments).2⟩, ?_, ?_⟩
  · rw [Compiled.ofTemplate, String.toList_join, flatMap_text, hsteps]
    simp only [Compiled.ofSource, hsource, Function.parse, String.toList_ofList, hprogram]
    rfl
  · intro bound hbound
    have hlength := length_gather_le segments
    rw [join_rendered]
    exact ProgramText.render_tree hnames _ hhidden (fun s hs => (hslots s hs).2) (by omega)

/-- A greeting in which the ampersand of the name is escaped, and a field that is null. -/
theorem renderWithin_join_greeting :
    ∃ c, Compiled.ofTemplate "Hi <%- name %><%= title %>!" Settings.default = .ok c ∧
      c.render (.object [("name", .string "A&B"), ("title", .null)]) = .ok "Hi A&amp;B!" := by
  let segments := [literal "Hi ", field true "name", field false "title", literal "!"]
  let fields : List (String × Json) := [("name", .string "A&B"), ("title", .null)]
  have hfits : ∀ s ∈ segments, s.Fits fields := by
    refine List.forall_mem_cons.mpr ⟨?_, List.forall_mem_cons.mpr ⟨⟨by decide +kernel, rfl⟩,
      List.forall_mem_cons.mpr ⟨⟨by decide +kernel, rfl⟩, List.forall_mem_singleton.mpr ?_⟩⟩⟩
    · exact (by decide +kernel : ¬ ['<', '%'] <:+: "Hi ".toList)
    · exact (by decide +kernel : ¬ ['<', '%'] <:+: "!".toList)
  have htext : String.join (segments.map (·.text none)) = "Hi <%- name %><%= title %>!" := by
    decide +kernel
  have hrendered : String.join (segments.map (·.rendered fields)) = "Hi A&amp;B!" := by
    decide +kernel
  obtain ⟨c, hcompiled, hrender⟩ := renderWithin_join (v := none) (fun w hw => by cases hw)
    (by decide) (by decide) hfits
  rw [htext] at hcompiled
  rw [hrendered] at hrender
  exact ⟨c, hcompiled, hrender _ (by decide)⟩

end Segment

end Microtemplate
