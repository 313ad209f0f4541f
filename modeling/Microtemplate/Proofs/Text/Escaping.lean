import Microtemplate.Proofs.Script.Running
import Mathlib.Data.List.Infix
import Mathlib.Logic.Function.Basic

/-!
Escaped text. It has none of the characters that HTML gives a meaning, except for the ampersands that
start an entity, and whoever reads the entities back has the text that was escaped.
-/

namespace Microtemplate.Text

/-- The entities that escaping writes. -/
def htmlEntities : List String := ["&amp;", "&lt;", "&gt;", "&quot;", "&#x27;", "&#x60;"]

/-- The text that an HTML text stands for: entities are read from left to right, and an ampersand
that starts none of them stands for itself. -/
def decodeHtml : List Char → List Char
  | '&' :: 'a' :: 'm' :: 'p' :: ';' :: cs => '&' :: decodeHtml cs
  | '&' :: 'l' :: 't' :: ';' :: cs => '<' :: decodeHtml cs
  | '&' :: 'g' :: 't' :: ';' :: cs => '>' :: decodeHtml cs
  | '&' :: 'q' :: 'u' :: 'o' :: 't' :: ';' :: cs => '"' :: decodeHtml cs
  | '&' :: '#' :: 'x' :: '2' :: '7' :: ';' :: cs => '\'' :: decodeHtml cs
  | '&' :: '#' :: 'x' :: '6' :: '0' :: ';' :: cs => '`' :: decodeHtml cs
  | c :: cs => c :: decodeHtml cs
  | [] => []

/-- A text that stands in HTML as text, or in quotes as the value of an attribute: it has no
character of markup, and each ampersand starts an entity. -/
structure HtmlSafe (text : List Char) : Prop where
  noMarkup : ∀ c ∈ text, c ∉ ['<', '>', '"', '\'', '`']
  startsEntity : ∀ before after, text = before ++ '&' :: after →
    ∃ e ∈ htmlEntities, e.toList <+: '&' :: after

namespace HtmlSafe

theorem nil : HtmlSafe [] where
  noMarkup := by rintro c ⟨⟩
  startsEntity before after h := by cases before <;> cases h

theorem append {text rest : List Char} (h : HtmlSafe text) (h' : HtmlSafe rest) :
    HtmlSafe (text ++ rest) where
  noMarkup c hc := (List.mem_append.mp hc).elim (h.noMarkup c) (h'.noMarkup c)
  startsEntity before after hsplit := by
    rcases List.append_eq_append_iff.mp hsplit with ⟨between, hbefore, hrest⟩ | ⟨between, htext, hafter⟩
    · exact h'.startsEntity between after hrest
    · cases between with
      | nil => exact h'.startsEntity [] after hafter.symm
      | cons c between =>
        obtain ⟨rfl, rfl⟩ := List.cons.inj hafter
        obtain ⟨e, he, hprefix⟩ := h.startsEntity before between htext
        exact ⟨e, he, hprefix.trans (List.prefix_append _ _)⟩

theorem flatMap {f : Char → List Char} (h : ∀ c, HtmlSafe (f c)) (text : List Char) :
    HtmlSafe (text.flatMap f) := by
  induction text with
  | nil => exact nil
  | cons c text ih => exact (h c).append ih

/-- An entity is safe: its only ampersand is the first character. -/
theorem entity {e : List Char} (hmem : String.ofList ('&' :: e) ∈ htmlEntities)
    (hmarkup : ('&' :: e).all (· ∉ ['<', '>', '"', '\'', '`']) = true) (hone : '&' ∉ e) :
    HtmlSafe ('&' :: e) where
  noMarkup c hc := of_decide_eq_true (List.all_eq_true.mp hmarkup c hc)
  startsEntity before after hsplit := by
    cases before with
    | nil => exact ⟨_, hmem, by rw [String.toList_ofList, hsplit]; exact List.prefix_rfl⟩
    | cons c before =>
      obtain ⟨-, rfl⟩ := List.cons.inj hsplit
      exact absurd (List.mem_append_right before List.mem_cons_self) hone

/-- A character without a meaning in HTML is safe as it is. -/
theorem plain {c : Char} (h : c ∉ htmlSpecial) : HtmlSafe [c] where
  noMarkup d hd := by
    obtain rfl := List.mem_singleton.mp hd
    exact fun hmarkup => h (List.mem_cons_of_mem _ hmarkup)
  startsEntity before after hsplit := by
    obtain rfl : c = '&' := by cases before <;> simp_all
    exact absurd List.mem_cons_self h

end HtmlSafe

theorem htmlSafe_htmlChar (c : Char) : HtmlSafe (htmlChar c) := by
  by_cases h : c ∈ htmlSpecial
  · simp only [htmlSpecial, List.mem_cons, List.not_mem_nil, or_false] at h
    rcases h with rfl | rfl | rfl | rfl | rfl | rfl <;>
      exact .entity (by decide) (by decide) (by decide)
  · rw [htmlChar_of_not_special h]
    exact .plain h

/-- What a character is written as is read back as the character, whatever text follows: an ampersand
of the text is written as an entity, so it never starts another one. -/
theorem decodeHtml_htmlChar (c : Char) (cs : List Char) :
    decodeHtml (htmlChar c ++ cs) = c :: decodeHtml cs := by
  by_cases h : c ∈ htmlSpecial
  · simp only [htmlSpecial, List.mem_cons, List.not_mem_nil, or_false] at h
    rcases h with rfl | rfl | rfl | rfl | rfl | rfl <;> rfl
  · have hne : c ≠ '&' := by
      rintro rfl
      exact h List.mem_cons_self
    rw [htmlChar_of_not_special h, List.singleton_append]
    simp [decodeHtml, hne]

theorem decodeHtml_flatMap (text : List Char) : decodeHtml (text.flatMap htmlChar) = text := by
  induction text with
  | nil => rfl
  | cons c text ih => rw [List.flatMap_cons, decodeHtml_htmlChar, ih]

/-- The texts that are returned as they are would be kept by the loop over their characters too. -/
theorem escapeHtml_eq (text : String) :
    escapeHtml text = String.ofList (text.toList.flatMap htmlChar) := by
  unfold escapeHtml
  split
  · rfl
  · rename_i h
    have hplain : text.toList.flatMap htmlChar = text.toList.flatMap fun c => [c] := by
      refine List.flatMap_congr fun c hc => htmlChar_of_not_special fun hspecial => h ?_
      exact List.any_eq_true.mpr ⟨c, hc, by simpa using hspecial⟩
    rw [hplain, List.flatMap_singleton', String.ofList_toList]

theorem toList_escapeHtml (text : String) :
    (escapeHtml text).toList = text.toList.flatMap htmlChar := by
  rw [escapeHtml_eq, String.toList_ofList]

theorem htmlSafe_escapeHtml (text : String) : HtmlSafe (escapeHtml text).toList := by
  rw [toList_escapeHtml]
  exact .flatMap htmlSafe_htmlChar _

theorem decodeHtml_escapeHtml (text : String) :
    decodeHtml (escapeHtml text).toList = text.toList := by
  rw [toList_escapeHtml, decodeHtml_flatMap]

theorem escapeHtml_injective : Function.Injective escapeHtml := by
  intro s t h
  rw [← String.toList_inj, ← decodeHtml_escapeHtml s, h, decodeHtml_escapeHtml]

theorem escapeHtml_append (s t : String) :
    escapeHtml (s ++ t) = escapeHtml s ++ escapeHtml t := by
  rw [escapeHtml_eq, escapeHtml_eq, escapeHtml_eq, String.toList_append, List.flatMap_append,
    String.ofList_append]

end Microtemplate.Text

namespace Microtemplate.Script

theorem Store.htmlSafe_escaped (s : Store) (v : Value) : Text.HtmlSafe (s.escaped v).toList := by
  unfold Store.escaped
  split
  · exact .nil
  · exact Text.htmlSafe_escapeHtml _

/-- A call of the function that escapes gives a text, and the text is safe, whatever the arguments
are. -/
theorem call_escape (n : Nat) (c : Context) (args : List Value) (s : Store) : ∃ text,
    (call (n + 1) c (.builtin .escape) args).Gives s (.string text) s ∧
      Text.HtmlSafe text.toList :=
  ⟨s.escaped (argument args 0), .read _, s.htmlSafe_escaped _⟩

end Microtemplate.Script

namespace Microtemplate.Text

/-- Escaped text is safe and loses nothing: entities read from left to right give the text back, so
two texts are never written alike, and texts are escaped part by part. The test for texts to be kept
changes no result, and what the escape function of a program gives is safe for each value. -/
theorem escaping_safe_and_lossless :
    (∀ s : String, HtmlSafe (escapeHtml s).toList ∧ decodeHtml (escapeHtml s).toList = s.toList) ∧
    Function.Injective escapeHtml ∧
    (∀ s t : String, escapeHtml (s ++ t) = escapeHtml s ++ escapeHtml t) ∧
    (∀ s : String, escapeHtml s = String.ofList (s.toList.flatMap htmlChar)) ∧
    ∀ (n : Nat) (c : Script.Context) (args : List Script.Value) (s : Script.Store), ∃ text,
      (Script.call (n + 1) c (.builtin .escape) args).Gives s (.string text) s ∧
        HtmlSafe text.toList :=
  ⟨fun s => ⟨htmlSafe_escapeHtml s, decodeHtml_escapeHtml s⟩, escapeHtml_injective,
    escapeHtml_append, escapeHtml_eq, Script.call_escape⟩

example : escapeHtml "Tom & 'Jerry' &amp;" = "Tom &amp; &#x27;Jerry&#x27; &amp;amp;" := by decide

end Microtemplate.Text
