import Mathlib.Data.List.Forall2
import Microtemplate.Json.Printer
import Microtemplate.Proofs.Json.Numbers

/-!
Reading JSON that is written with blanks around the parts of its containers. A text of a value is
one that a reader of enough levels goes over wherever it stands; the texts of the items of a
container give a text of the container.
-/

namespace Microtemplate

theorem Fields.ofPairs_of_nodup {α : Type} {pairs : List (String × α)}
    (h : (pairs.map Prod.fst).Nodup) : Fields.ofPairs pairs = pairs := by
  have hfold : ∀ (pairs : List (String × α)) (fields : Fields α),
      (fields.names ++ pairs.map Prod.fst).Nodup →
      pairs.foldl (fun fields p => fields.set p.1 p.2) fields = fields ++ pairs := by
    intro pairs
    induction pairs with
    | nil => exact fun fields _ => (List.append_nil fields).symm
    | cons p pairs ih =>
      intro fields hnodup
      have hnew : p.1 ∉ fields.names := fun hmem =>
        (List.nodup_append.mp hnodup).2.2 p.1 hmem p.1 (List.mem_cons_self ..) rfl
      rw [List.foldl_cons, Fields.set_eq_append hnew, ih]
      · exact List.append_assoc ..
      · simpa [Fields.names] using hnodup
  exact hfold pairs [] h

namespace Json

namespace Reader

variable {c : Char} {b cs rest : List Char}

/-- Blanks and ends of lines. -/
def Blank (b : List Char) : Prop := ∀ c ∈ b, c = ' ' ∨ c = '\n'

theorem blank_nil : Blank [] := fun _ h => by cases h

theorem skipBlanks_append (hb : Blank b) (cs : List Char) :
    skipBlanks (b ++ cs) = skipBlanks cs := by
  refine List.dropWhile_append_of_pos fun c hc => ?_
  rcases hb c hc with rfl | rfl <;> rfl

theorem skipBlanks_cons (hc : c ∉ [' ', '\n', '\t', '\r']) (cs : List Char) :
    skipBlanks (c :: cs) = c :: cs := by
  simp only [List.mem_cons, List.not_mem_nil, or_false, not_or] at hc
  rw [skipBlanks, List.dropWhile_cons_of_neg]
  simp [hc]

theorem EndsNumber.of_blank (hb : Blank b) (hrest : EndsNumber rest) : EndsNumber (b ++ rest) := by
  cases b with
  | nil => exact hrest
  | cons c b =>
    intro c' hc'
    cases hc'
    rcases hb c (List.mem_cons_self ..) with rfl | rfl <;> decide

theorem EndsNumber.of_cons (hc : c ∈ [',', ']', '\x7d']) : EndsNumber (c :: rest) := by
  intro c' hc'
  cases hc'
  simp only [List.mem_cons, List.not_mem_nil, or_false] at hc
  rcases hc with rfl | rfl | rfl <;> decide

section Strings

theorem hexDigit?_hexChar {d : Nat} (hd : d < 16) : Unicode.hexDigit? (hexChar d) = some d := by
  revert d
  decide

/-- The code of a control character is read back. -/
theorem unicode?_control (hc : c.toNat < 0x20) (left : List Char) :
    unicode? ('0' :: '0' :: hexChar (c.toNat / 16) :: hexChar (c.toNat % 16) :: left) =
      some (c, left) := by
  have hfour : hexFour? ('0' :: '0' :: hexChar (c.toNat / 16) :: hexChar (c.toNat % 16) :: left) =
      some (c.toNat, left) := by
    have hcode : ((0 * 16 + 0) * 16 + c.toNat / 16) * 16 + c.toNat % 16 = c.toNat := by omega
    have hzero : Unicode.hexDigit? '0' = some 0 := rfl
    simp only [hexFour?, hzero, hexDigit?_hexChar (show c.toNat / 16 < 16 by omega),
      hexDigit?_hexChar (show c.toNat % 16 < 16 by omega), bind, Option.bind, pure, hcode]
  simp only [unicode?, hfour, bind, Option.bind, pure]
  rw [if_neg (by omega), if_neg (by omega), Char.ofNat_toNat]

/-- A round of the string reader goes over one written character. -/
theorem stringBody?_quoteChar (c : Char) (bound : Nat) (left : List Char) :
    stringBody? (bound + 1) (quoteChar c ++ left) =
      (stringBody? bound left).map fun p => (c :: p.1, p.2) := by
  have hescape : ∀ cs : List Char, escape? (cs ++ left) = some (c, left) →
      stringBody? (bound + 1) ('\\' :: (cs ++ left)) =
        (stringBody? bound left).map fun p => (c :: p.1, p.2) := fun cs h => by
    simp only [stringBody?, h, bind, Option.bind, pure]
    cases stringBody? bound left <;> rfl
  fun_cases quoteChar c
  · exact hescape ['"'] rfl
  · exact hescape ['\\'] rfl
  · exact hescape ['b'] rfl
  · exact hescape ['f'] rfl
  · exact hescape ['n'] rfl
  · exact hescape ['r'] rfl
  · exact hescape ['t'] rfl
  · next hcontrol => exact hescape ['u', '0', '0', _, _] (unicode?_control hcontrol left)
  · next hquote hslash _ _ _ _ _ hcontrol =>
    rw [List.singleton_append, stringBody?, if_neg hquote, if_neg hslash, if_neg hcontrol]
    cases stringBody? bound left <;> rfl

theorem quoteChar_ne_nil (c : Char) : quoteChar c ≠ [] := by
  fun_cases quoteChar c <;> exact List.cons_ne_nil _ _

theorem stringBody?_quoted (cs rest : List Char) {bound : Nat} (hbound : cs.length < bound) :
    stringBody? bound (cs.flatMap quoteChar ++ '"' :: rest) = some (cs, rest) := by
  induction cs generalizing bound with
  | nil =>
    obtain ⟨bound, rfl⟩ := Nat.exists_eq_add_of_lt hbound
    rfl
  | cons c cs ih =>
    obtain ⟨bound, rfl⟩ : ∃ n, bound = n + 1 := ⟨bound - 1, by omega⟩
    rw [List.flatMap_cons, List.append_assoc, stringBody?_quoteChar,
      ih (Nat.lt_of_succ_lt_succ hbound)]
    rfl

theorem length_le_quoted (cs : List Char) : cs.length ≤ (cs.flatMap quoteChar).length := by
  induction cs with
  | nil => exact Nat.le_refl _
  | cons c cs ih =>
    have hpos := List.length_pos_of_ne_nil (quoteChar_ne_nil c)
    rw [List.flatMap_cons, List.length_append, List.length_cons]
    omega

/-- A written string is read back. -/
theorem string?_quoted (cs rest : List Char) :
    string? (cs.flatMap quoteChar ++ '"' :: rest) = some (String.ofList cs, rest) := by
  have hbound : cs.length < (cs.flatMap quoteChar ++ '"' :: rest).length := by
    rw [List.length_append, List.length_cons]
    exact Nat.lt_of_le_of_lt (length_le_quoted cs) (by omega)
  rw [string?, stringBody?_quoted cs rest hbound]
  rfl

end Strings

/-- A list reader goes over the texts of items, with commas and blanks between them, up to its
closing bracket. -/
theorem takes_items {α : Type} {reader : List Char → Option (α × List Char)}
    {readers : Nat → List Char → Option (List α × List Char)} {closing : Char}
    (hcomma : ∀ bound cs a left rest, reader cs = some (a, left) → skipBlanks left = ',' :: rest →
      readers (bound + 1) cs = (readers bound rest).map fun p => (a :: p.1, p.2))
    (hclosing : ∀ bound cs a left rest, reader cs = some (a, left) →
      skipBlanks left = closing :: rest → readers (bound + 1) cs = some ([a], rest))
    (hblank : ∀ b, Blank b → ∀ cs, reader (b ++ cs) = reader cs) (hclose : closing ∈ [']', '\x7d'])
    {b' : List Char} (hb : Blank b) (hb' : Blank b') {texts : List (List Char)} {values : List α}
    (h : List.Forall₂ (Takes reader) texts values) (hne : texts ≠ []) {lead : List Char}
    (hlead : Blank lead) {bound : Nat} (hbound : texts.length ≤ bound) (rest : List Char) :
    readers bound (lead ++ ((',' :: b).intercalate texts ++ (b' ++ closing :: rest))) =
      some (values, rest) := by
  have hcloses : closing ∉ [' ', '\n', '\t', '\r'] := by
    rcases List.mem_pair.mp hclose with rfl | rfl <;> decide
  induction h generalizing bound lead with
  | nil => exact absurd rfl hne
  | @cons text a texts values htext hmore ih =>
    obtain ⟨bound, rfl⟩ : ∃ n, bound = n + 1 :=
      ⟨bound - 1, by rw [List.length_cons] at hbound; omega⟩
    cases hmore with
    | nil =>
      rw [List.intercalate_singleton]
      refine hclosing bound _ a (b' ++ closing :: rest) rest ?_ ?_
      · rw [hblank lead hlead]
        exact htext _ (.of_blank hb' (.of_cons (.tail _ hclose)))
      · rw [skipBlanks_append hb', skipBlanks_cons hcloses]
    | @cons next _ more _ hnext hmore =>
      have hread : reader (lead ++ ((',' :: b).intercalate (text :: next :: more) ++
            (b' ++ closing :: rest))) =
          some (a, ',' :: (b ++ ((',' :: b).intercalate (next :: more) ++
            (b' ++ closing :: rest)))) := by
        rw [List.intercalate_cons_cons, hblank lead hlead, List.append_assoc, List.append_assoc,
          List.cons_append]
        exact htext _ (.of_cons (.head _))
      rw [hcomma bound _ a _ _ hread (skipBlanks_cons (by decide) _),
        ih (List.cons_ne_nil _ _) hb (Nat.le_of_succ_le_succ hbound)]
      rfl

theorem items?_comma {value : ValueReader} (bound : Nat) (cs : List Char) (j : Json)
    (left rest : List Char) (h : value cs = some (j, left))
    (hleft : skipBlanks left = ',' :: rest) :
    items? value (bound + 1) cs = (items? value bound rest).map fun p => (j :: p.1, p.2) := by
  simp only [items?, h, hleft, bind, Option.bind, pure]
  cases items? value bound rest <;> rfl

theorem items?_closing {value : ValueReader} (bound : Nat) (cs : List Char) (j : Json)
    (left rest : List Char) (h : value cs = some (j, left))
    (hleft : skipBlanks left = ']' :: rest) :
    items? value (bound + 1) cs = some ([j], rest) := by
  simp only [items?, h, hleft, bind, Option.bind, pure]

theorem pairs?_comma {value : ValueReader} (bound : Nat) (cs : List Char) (p : String × Json)
    (left rest : List Char) (h : pair? value cs = some (p, left))
    (hleft : skipBlanks left = ',' :: rest) :
    pairs? value (bound + 1) cs = (pairs? value bound rest).map fun q => (p :: q.1, q.2) := by
  simp only [pairs?, h, hleft, bind, Option.bind, pure]
  cases pairs? value bound rest <;> rfl

theorem pairs?_closing {value : ValueReader} (bound : Nat) (cs : List Char) (p : String × Json)
    (left rest : List Char) (h : pair? value cs = some (p, left))
    (hleft : skipBlanks left = '\x7d' :: rest) :
    pairs? value (bound + 1) cs = some ([p], rest) := by
  simp only [pairs?, h, hleft, bind, Option.bind, pure]

theorem value?_blank (hb : Blank b) (levels : Nat) (cs : List Char) :
    value? levels (b ++ cs) = value? levels cs := by
  cases levels <;> simp only [value?, skipBlanks_append hb]

theorem pair?_blank (hb : Blank b) (value : ValueReader) (cs : List Char) :
    pair? value (b ++ cs) = pair? value cs := by
  simp only [pair?, skipBlanks_append hb]

/-- A name and the text of its value, with blanks between them. -/
theorem takes_pair {value : ValueReader} (hblank : ∀ cs, value (b ++ cs) = value cs)
    {text : List Char} {j : Json} (h : Takes value text j) (name : String) :
    Takes (pair? value) (quote name.toList ++ ':' :: (b ++ text)) (name, j) := by
  intro rest hrest
  have hquote : quote name.toList ++ ':' :: (b ++ text) ++ rest =
      '"' :: (name.toList.flatMap quoteChar ++ '"' :: ':' :: (b ++ (text ++ rest))) := by
    simp [quote]
  rw [hquote, pair?, skipBlanks_cons (by decide)]
  simp only [string?_quoted, skipBlanks_cons (c := ':') (by decide), hblank, h rest hrest, bind,
    Option.bind, pure, String.ofList_toList]

/-- A character with which texts of values start. -/
def Starts (text : List Char) : Prop :=
  ∃ c cs, text = c :: cs ∧ c ∉ [' ', '\n', '\t', '\r'] ∧ c ∉ [']', '\x7d']

theorem Starts.append (h : Starts cs) (rest : List Char) : Starts (cs ++ rest) := by
  obtain ⟨c, cs, rfl, hc⟩ := h
  exact ⟨c, cs ++ rest, rfl, hc⟩

/-- Texts with a separator between them start as the first one does, and have at least a character
each. -/
theorem starts_intercalate (separator : List Char) {texts : List (List Char)}
    (h : ∀ text ∈ texts, Starts text) (hne : texts ≠ []) (rest : List Char) :
    Starts (separator.intercalate texts ++ rest) ∧
      texts.length ≤ (separator.intercalate texts ++ rest).length := by
  induction texts with
  | nil => exact absurd rfl hne
  | cons text texts ih =>
    obtain ⟨htext, hmore⟩ := List.forall_mem_cons.mp h
    have hpos : 0 < text.length := by
      obtain ⟨c, cs, rfl, -⟩ := htext
      exact Nat.succ_pos _
    cases texts with
    | nil =>
      rw [List.intercalate_singleton, List.length_append]
      exact ⟨htext.append rest, Nat.le_trans hpos (Nat.le_add_right _ _)⟩
    | cons next texts =>
      obtain ⟨-, hlength⟩ := ih hmore (List.cons_ne_nil _ _)
      rw [List.intercalate_cons_cons, List.append_assoc, List.append_assoc]
      refine ⟨htext.append _, ?_⟩
      simp only [List.length_append, List.length_cons] at hlength ⊢
      omega

theorem value?_array {levels : Nat} {text : List Char} (hb : Blank b) (h : Starts text) :
    value? (levels + 1) ('[' :: (b ++ text)) =
      (items? (value? levels) text.length text).map fun p => (.array p.1, p.2) := by
  obtain ⟨c, cs, rfl, hblank, hclose⟩ := h
  have hc : c ≠ ']' := fun heq => hclose (heq ▸ .head _)
  simp only [value?, skipBlanks_cons (c := '[') (by decide), skipBlanks_append hb,
    skipBlanks_cons hblank]
  split
  · next heq => exact absurd (List.cons.inj heq).1 hc
  · rfl

theorem value?_object {levels : Nat} {text : List Char} (hb : Blank b) (h : Starts text) :
    value? (levels + 1) ('\x7b' :: (b ++ text)) =
      (pairs? (value? levels) text.length text).map fun p =>
        (.object (Fields.ofPairs p.1), p.2) := by
  obtain ⟨c, cs, rfl, hblank, hclose⟩ := h
  have hc : c ≠ '\x7d' := fun heq => hclose (heq ▸ .tail _ (.head _))
  simp only [value?, skipBlanks_cons (c := '\x7b') (by decide), skipBlanks_append hb,
    skipBlanks_cons hblank]
  split
  · next heq => exact absurd (List.cons.inj heq).1 hc
  · rfl

end Reader

/-- A text of a value: readers of enough levels go over it wherever it stands. -/
structure IsTextOf (text : List Char) (j : Json) : Prop where
  starts : Reader.Starts text
  takes : ∃ depth, ∀ levels, depth ≤ levels → Reader.Takes (Reader.value? levels) text j

namespace IsTextOf

open Reader

theorem reads {text : List Char} {j : Json} (h : IsTextOf text j) :
    ∃ depth, ∀ levels, depth ≤ levels → value? levels text = some (j, []) := by
  obtain ⟨depth, htakes⟩ := h.takes
  refine ⟨depth, fun levels hlevels => ?_⟩
  have hread := htakes levels hlevels [] (by simp [EndsNumber])
  rwa [List.append_nil] at hread

/-- What holds of each of some items from a level on holds of all of them from one on. -/
theorem exists_depth {α β : Type} {holds : Nat → α → β → Prop} {texts : List α} {items : List β}
    (h : List.Forall₂ (fun text j => ∃ depth, ∀ levels, depth ≤ levels → holds levels text j)
      texts items) :
    ∃ depth, ∀ levels, depth ≤ levels → List.Forall₂ (holds levels) texts items := by
  induction h with
  | nil => exact ⟨0, fun _ _ => .nil⟩
  | cons hfirst _ ih =>
    obtain ⟨depth, hdepth⟩ := hfirst
    obtain ⟨depth', hdepth'⟩ := ih
    exact ⟨max depth depth', fun levels hlevels =>
      .cons (hdepth levels (by omega)) (hdepth' levels (by omega))⟩

theorem starts_of_forall {texts : List (List Char)} {items : List Json}
    (h : List.Forall₂ IsTextOf texts items) : ∀ text ∈ texts, Starts text := by
  induction h with
  | nil => exact fun _ hmem => by cases hmem
  | cons hfirst _ ih => exact List.forall_mem_cons.mpr ⟨hfirst.starts, ih⟩

theorem array_nil : IsTextOf ['[', ']'] (.array []) where
  starts := ⟨'[', _, rfl, by decide, by decide⟩
  takes := ⟨1, fun levels hlevels rest _ => by
    obtain ⟨levels, rfl⟩ := Nat.exists_eq_add_of_le' hlevels
    rfl⟩

theorem object_nil : IsTextOf ['\x7b', '\x7d'] (.object []) where
  starts := ⟨'\x7b', _, rfl, by decide, by decide⟩
  takes := ⟨1, fun levels hlevels rest _ => by
    obtain ⟨levels, rfl⟩ := Nat.exists_eq_add_of_le' hlevels
    rfl⟩

theorem scalar {text : List Char} {j : Json} (hstarts : Starts text)
    (hplain : ∀ c ∈ text.head?, c ≠ '[' ∧ c ≠ '\x7b') (h : Takes scalar? text j) :
    IsTextOf text j where
  starts := hstarts
  takes := by
    refine ⟨0, fun levels _ rest hrest => ?_⟩
    obtain ⟨c, cs, rfl, hblank, -⟩ := hstarts
    obtain ⟨hbracket, hbrace⟩ := hplain c rfl
    have hskip := skipBlanks_cons hblank (cs ++ rest)
    rw [← h rest hrest]
    cases levels with
    | zero =>
      rw [value?, List.cons_append, hskip]
      split
      · next heq => exact absurd (List.cons.inj heq).1 hbracket
      · next heq => exact absurd (List.cons.inj heq).1 hbrace
      · rfl
    | succ levels =>
      rw [value?, List.cons_append, hskip]
      split
      · next heq => exact absurd (List.cons.inj heq).1 hbracket
      · next heq => exact absurd (List.cons.inj heq).1 hbrace
      · rfl

theorem null : IsTextOf "null".toList .null :=
  scalar ⟨'n', _, rfl, by decide, by decide⟩ (fun c hc => by cases hc; decide) fun _ _ => rfl

theorem boolean (b : Bool) : IsTextOf (if b then "true" else "false").toList (.boolean b) := by
  cases b
  · exact scalar ⟨'f', _, rfl, by decide, by decide⟩ (fun c hc => by cases hc; decide)
      fun _ _ => rfl
  · exact scalar ⟨'t', _, rfl, by decide, by decide⟩ (fun c hc => by cases hc; decide)
      fun _ _ => rfl

theorem string (s : String) : IsTextOf (quote s.toList) (.string s) := by
  refine scalar ⟨'"', _, rfl, by decide, by decide⟩ (fun c hc => by cases hc; decide)
    fun rest _ => ?_
  have hquote : quote s.toList ++ rest = '"' :: (s.toList.flatMap quoteChar ++ '"' :: rest) := by
    simp [quote]
  simp only [hquote, scalar?, string?_quoted, Option.map_some, String.ofList_toList]

/-- The script's text of a finite number is one of a number with the same double, but for the sign
of zero. -/
theorem number {x : Float} {negative : Bool} {m : Nat} {e : Int}
    (h : Decimal.Binary.ofFloat x = .finite negative m e) :
    ∃ n : JsonNumber, n.toFloat = unsignedZero x ∧
      IsTextOf (Decimal.numberText x).toList (.number n) := by
  obtain ⟨c, cs, hcs, hc⟩ := numberText_starts h
  have hplain : c ∉ [' ', '\n', '\t', '\r', ']', '\x7d', '[', '\x7b', '"', 'n', 't', 'f'] := by
    rcases hc with rfl | hc
    · decide
    · intro hmem
      simp only [List.mem_cons, List.not_mem_nil, or_false] at hmem
      rcases hmem with rfl | rfl | rfl | rfl | rfl | rfl | rfl | rfl | rfl | rfl | rfl | rfl <;>
        cases hc
  simp only [List.mem_cons, List.not_mem_nil, or_false, not_or] at hplain
  obtain ⟨n, hn, hx⟩ := numberText_takes h
  refine ⟨n, hx, scalar ⟨c, cs, hcs, by simp [hplain], by simp [hplain]⟩ (fun c' hc' => ?_)
    fun rest hrest => ?_⟩
  · rw [hcs] at hc'
    cases hc'
    exact ⟨hplain.2.2.2.2.2.2.1, hplain.2.2.2.2.2.2.2.1⟩
  · have hread := hn rest hrest
    rw [hcs, List.cons_append] at hread ⊢
    rw [scalar?, hread]
    · rfl
    all_goals
      intro cs' heq
      simp [(List.cons.inj heq).1] at hplain

section Containers

variable {b b' : List Char} (hb : Blank b) (hb' : Blank b')

include hb hb'

theorem array {texts : List (List Char)} {items : List Json} (h : List.Forall₂ IsTextOf texts items)
    (hne : texts ≠ []) :
    IsTextOf ('[' :: (b ++ ((',' :: b).intercalate texts ++ (b' ++ [']'])))) (.array items) where
  starts := ⟨'[', _, rfl, by decide, by decide⟩
  takes := by
    obtain ⟨depth, hdepth⟩ := exists_depth (h.imp fun _ _ hj => hj.takes)
    refine ⟨depth + 1, fun levels hlevels rest _ => ?_⟩
    obtain ⟨levels, rfl⟩ : ∃ n, levels = n + 1 := ⟨levels - 1, by omega⟩
    obtain ⟨hstarts, hlength⟩ := starts_intercalate (',' :: b) (starts_of_forall h) hne
      (b' ++ ']' :: rest)
    have hitems := takes_items items?_comma items?_closing
      (fun b hb cs => value?_blank hb levels cs)
      (by decide) hb hb' (hdepth levels (by omega)) hne blank_nil hlength rest
    have htext : '[' :: (b ++ ((',' :: b).intercalate texts ++ (b' ++ [']']))) ++ rest =
        '[' :: (b ++ ((',' :: b).intercalate texts ++ (b' ++ ']' :: rest))) := by
      simp
    rw [List.nil_append] at hitems
    rw [htext, value?_array hb hstarts, hitems]
    rfl

/-- The text of a name and the one of its value, with the given text between them. -/
theorem object {colon : List Char} (hcolon : Blank colon) {texts : List (String × List Char)}
    {fields : List (String × Json)}
    (h : List.Forall₂ (fun p q => p.1 = q.1 ∧ IsTextOf p.2 q.2) texts fields)
    (hnames : (fields.map Prod.fst).Nodup) (hne : texts ≠ []) :
    IsTextOf ('\x7b' :: (b ++ ((',' :: b).intercalate
      (texts.map fun p => quote p.1.toList ++ ':' :: (colon ++ p.2)) ++ (b' ++ ['\x7d']))))
      (.object fields) where
  starts := ⟨'\x7b', _, rfl, by decide, by decide⟩
  takes := by
    have htakes : List.Forall₂ (fun p q => ∃ depth, ∀ levels, depth ≤ levels →
        p.1 = q.1 ∧ Takes (value? levels) p.2 q.2) texts fields := h.imp fun _ _ hp => by
      obtain ⟨depth, hdepth⟩ := hp.2.takes
      exact ⟨depth, fun levels hlevels => ⟨hp.1, hdepth levels hlevels⟩⟩
    obtain ⟨depth, hdepth⟩ := exists_depth htakes
    refine ⟨depth + 1, fun levels hlevels rest _ => ?_⟩
    obtain ⟨levels, rfl⟩ : ∃ n, levels = n + 1 := ⟨levels - 1, by omega⟩
    let written := texts.map fun p => quote p.1.toList ++ ':' :: (colon ++ p.2)
    have hpairs : List.Forall₂ (Takes (pair? (value? levels))) written fields := by
      rw [List.forall₂_map_left_iff]
      refine (hdepth levels (by omega)).imp fun p q hp => ?_
      rw [hp.1]
      exact takes_pair (value?_blank hcolon levels) hp.2 q.1
    have hstart : ∀ text ∈ written, Starts text := fun text htext => by
      obtain ⟨p, -, rfl⟩ := List.mem_map.mp htext
      exact ⟨'"', _, rfl, by decide, by decide⟩
    have hwritten : written ≠ [] := fun hnil => hne (List.map_eq_nil_iff.mp hnil)
    obtain ⟨hstarts, hlength⟩ :=
      starts_intercalate (',' :: b) hstart hwritten (b' ++ '\x7d' :: rest)
    have hread := takes_items pairs?_comma pairs?_closing (fun b hb cs => pair?_blank hb _ cs)
      (by decide) hb hb' hpairs hwritten blank_nil hlength rest
    have htext : '\x7b' :: (b ++ ((',' :: b).intercalate written ++ (b' ++ ['\x7d']))) ++ rest =
        '\x7b' :: (b ++ ((',' :: b).intercalate written ++ (b' ++ '\x7d' :: rest))) := by
      simp
    rw [List.nil_append] at hread
    rw [htext, value?_object hb hstarts, hread, Option.map_some, Fields.ofPairs_of_nodup hnames]

end Containers

end IsTextOf

end Json

end Microtemplate
