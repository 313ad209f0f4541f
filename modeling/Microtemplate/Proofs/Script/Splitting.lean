import Microtemplate.Proofs.Decimal.Exact
import Microtemplate.Proofs.Script.JsonText
import Microtemplate.Proofs.Script.LastingText
import Microtemplate.Proofs.Text.Splitting

/-!
Cutting a text with `split` and putting it together with `join`. Whatever the separator is, the parts with
the separator between them are the text again. This holds for the methods, and for the expression that calls
one after the other, whichever expressions give the text and the separator.
-/

namespace Microtemplate.Script

open Decimal (Exactly)

/-- The parts that are asked for: all of them without a limit or with an infinite one, and else the first
ones, as many as the limit says when its fraction is dropped. -/
inductive Limited (s : Store) (parts : List String) : Value → List String → Prop
  | all : Limited s parts .undefined parts
  | first {v : Value} {q : ℚ} : Exactly (s.number v) q → 0 ≤ q → Limited s parts v (parts.take ⌊q⌋₊)
  | infinite {v : Value} : s.number v = Decimal.infinity false → Limited s parts v parts

/-- From a bound on, an expression gives a value and changes nothing, also when more has been added to the
store. -/
def Context.HasValue (c : Context) (s : Store) (bound : Nat) (e : Expr) (v : Value) : Prop :=
  ∀ n t, bound ≤ n → s.StaysIn t → (eval n c e).Gives t v t

/-- `text.split(separator).join(separator) === text` -/
def splitAndJoined (text separator : Expr) : Expr :=
  .binary .strictEqual
    (.call (.member (.call (.member text "split") [separator]) "join") [separator]) text

section Values

variable {s t : Store} {c : Context} {v : Value} {n : String}

namespace Store.StaysIn

variable (h : s.StaysIn t)

include h

theorem ownProperty? (hv : s.Knows v) (n : String) : t.ownProperty? v n = s.ownProperty? v n := by
  cases v with
  | object a =>
    have hold := Array.getElem?_eq_getElem (show a < s.objects.size from hv)
    rw [Store.ownProperty?, Store.ownProperty?, Store.fields, Store.fields, h.objects a _ hold, hold]
  | array a => rw [Store.ownProperty?, Store.ownProperty?, h.elements hv]
  | _ => rfl

/-- A name means the same if the frames of its scope are there and show only what is there. -/
theorem lookup? {scope : Scope}
    (hscope : ∀ a ∈ scope, ∃ frame, s.frames[a]? = some frame ∧ ∀ v, frame.kind = .within v → s.Knows v)
    (n : String) : t.lookup? scope n = s.lookup? scope n := by
  have hframe : ∀ a ∈ scope, t.resolveIn? a n = s.resolveIn? a n := by
    intro a ha
    obtain ⟨frame, hold, hknown⟩ := hscope a ha
    have hvisible : t.visibleProperty? frame n = s.visibleProperty? frame n := by
      unfold visibleProperty?
      split
      · next v hkind => rw [h.ownProperty? (hknown v hkind)]
      · rfl
    rw [resolveIn?, resolveIn?, h.frames a frame hold, hold]
    simp only [hvisible]
  rw [Store.lookup?, Store.lookup?, resolve?, resolve?]
  congr 1
  induction scope with
  | nil => rfl
  | cons a scope ih =>
    obtain ⟨ha, hmore⟩ := List.forall_mem_cons.mp hframe
    rw [List.findSome?_cons, List.findSome?_cons, ha, ih (List.forall_mem_cons.mp hscope).2 hmore]

end Store.StaysIn

namespace Context.HasValue

theorem string (c : Context) (s : Store) (text : String) :
    c.HasValue s 1 (.string text) (.string text) := fun n t hn _ => by
  obtain ⟨k, rfl⟩ := Nat.exists_eq_add_of_le' hn
  exact eval_string text

theorem identifier (h : s.lookup? c.scope n = some v) (hscope : ∀ a ∈ c.scope,
    ∃ frame, s.frames[a]? = some frame ∧ ∀ v, frame.kind = .within v → s.Knows v) :
    c.HasValue s 1 (.identifier n) v := fun m t hm ht => by
  obtain ⟨k, rfl⟩ := Nat.exists_eq_add_of_le' hm
  exact eval_identifier ((ht.lookup? hscope n).trans h)

end Context.HasValue

end Values

namespace TextMethod

variable {s : Store} {text separator : String} {parts shown : List String} {args : List Value}

theorem split_eq (hparts : parts = (Text.split separator.toList text.toList).map String.ofList)
    (hseparator : argument args 0 = .string separator) :
    split s text args = match limit? s args with
      | none => parts
      | some n => parts.take n := by
  rw [split, hseparator, hparts]
  rfl

theorem limit?_of_ne (h : argument args 1 ≠ .undefined) :
    limit? s args = match s.whole (argument args 1) with
      | .below => some 0
      | .above => none
      | .int i => some i.toNat := by
  unfold limit?
  split
  · contradiction
  · rfl

/-- The parts behind the limit are left out. -/
theorem split_limited (hparts : parts = (Text.split separator.toList text.toList).map String.ofList)
    (hseparator : argument args 0 = .string separator) (h : Limited s parts (argument args 1) shown) :
    split s text args = shown := by
  rw [split_eq hparts hseparator]
  generalize hlimit : argument args 1 = limit at h
  -- a limit that is left out stands for no number, so the other two cases are apart from it
  cases h with
  | all => rw [limit?, hlimit]
  | first hexactly hq =>
    have hne : limit ≠ .undefined := by
      rintro rfl
      obtain ⟨_, _, _, hfinite, -⟩ := hexactly
      have hnan : Decimal.Binary.ofFloat Decimal.nan = .nan := by decide +kernel
      cases hnan.symm.trans hfinite
    have hwhole : s.whole limit = .int ⌊_⌋₊ := hexactly.whole_eq hq
    rw [limit?_of_ne (hlimit ▸ hne), hlimit, hwhole]
    rfl
  | infinite hinfinite =>
    have hne : limit ≠ .undefined := by
      rintro rfl
      exact absurd hinfinite (by decide +kernel : Decimal.nan ≠ Decimal.infinity false)
    have hwhole : s.whole limit = .above := by
      rw [Store.whole, hinfinite]
      decide +kernel
    rw [limit?_of_ne (hlimit ▸ hne), hlimit, hwhole]

end TextMethod

/-- What is joined are the texts themselves. -/
theorem joinArray_strings {s : Store} {a : Address} {parts : List String}
    (h : (s.elements a).toList = parts.map .string) (separator : String) :
    s.joinArray a separator = separator.intercalate parts := by
  have htext : ∀ part : String, (if (Value.string part).isNullish then "" else
      s.textWithin (textDepth - 1) [a] (.string part)) = part := fun part =>
    Store.textWithin_plain nofun
  rw [Store.joinArray, Store.joinWith, h, List.map_map]
  exact congrArg separator.intercalate (List.map_id'' htext parts)

section Calls

variable {s t u : Store} {c : Context} {n : Nat} {m : Method} {receiver x y : Value} {a e : Expr}
  {name : String}

/-- A method is read from its receiver and called with an argument that changes nothing. -/
theorem eval_method (hreceiver : (eval n c a).Gives s receiver t)
    (hread : (Run.readProperty receiver name).Gives t (.method t.methods.size)
      (t.addMethod ⟨receiver, m⟩).2)
    (hargument : (eval (n + 1) c e).Gives (t.addMethod ⟨receiver, m⟩).2 x (t.addMethod ⟨receiver, m⟩).2)
    (hrun : (BoundMethod.run (call n c) ⟨receiver, m⟩ [x]).Gives (t.addMethod ⟨receiver, m⟩).2 y u) :
    (eval (n + 2) c (.call (.member a name) [e])).Gives s y u := by
  have hcall : (call (n + 1) c (.method t.methods.size) [x]).Gives (t.addMethod ⟨receiver, m⟩).2 y u :=
    callStep_method (getElem?_addMethod t _) hrun
  exact eval_call (eval_member hreceiver hread) hargument rfl hcall

variable {text separator : String} {parts shown : List String} {args : List Value}

theorem split_gives (hparts : parts = (Text.split separator.toList text.toList).map String.ofList)
    (hseparator : argument args 0 = .string separator) (h : Limited s parts (argument args 1) shown)
    (call : Caller) : (BoundMethod.run call ⟨.string text, .split⟩ args).Gives s
      (.array s.arrays.size) (s.addArray (shown.map Value.string).toArray).2 := by
  rw [← TextMethod.split_limited hparts hseparator h]
  exact .bind (.read _) (.add _)

theorem join_gives {place : Address} (hparts : (s.elements place).toList = parts.map .string)
    (hseparator : argument args 0 = .string separator) (call : Caller) :
    (BoundMethod.run call ⟨.array place, .join⟩ args).Gives s
      (.string (separator.intercalate parts)) s := by
  have hjoined : s.joinArray place (ArrayMethod.separator s args) = separator.intercalate parts := by
    rw [ArrayMethod.separator, hseparator]
    exact joinArray_strings hparts separator
  rw [← hjoined]
  exact .read _

end Calls

/-- The parts of a text, as they are cut out and as they are put together again. -/
theorem exists_cutInto (text separator : String) : ∃ parts : List String,
    parts = (Text.split separator.toList text.toList).map String.ofList ∧
    Text.CutInto separator.toList text.toList (parts.map String.toList) ∧
    separator.intercalate parts = text := by
  have hparts : ((Text.split separator.toList text.toList).map String.ofList).map String.toList =
      Text.split separator.toList text.toList := by
    rw [List.map_map]
    exact List.map_id'' (fun _ => String.toList_ofList) _
  have hcut := Text.cutInto_split separator.toList text.toList
  rw [← hparts] at hcut
  refine ⟨_, rfl, hcut, String.toList_injective ?_⟩
  rw [String.toList_intercalate, hcut.whole]

/-- Cutting a text at a separator and joining what comes of it gives the text again, if the two are what
expressions give, from a store on and whatever is added to it. -/
theorem eval_splitAndJoined {s : Store} {c : Context} {bound : Nat} {a b : Expr} {text separator : String}
    (ha : c.HasValue s bound a (.string text)) (hb : c.HasValue s bound b (.string separator)) :
    ∃ t, s.StaysIn t ∧ ∀ n, bound + 5 ≤ n → (eval n c (splitAndJoined a b)).Gives s (.boolean true) t := by
  obtain ⟨parts, hparts, -, hjoined⟩ := exists_cutInto text separator
  -- reading a method adds it to the store, and the parts are added between the two methods
  let s₁ := (s.addMethod ⟨.string text, .split⟩).2
  let s₂ := (s₁.addArray (parts.map Value.string).toArray).2
  let s₃ := (s₂.addMethod ⟨.array s.arrays.size, .join⟩).2
  have hs₁ : s.StaysIn s₁ := .addMethod s _
  have hs₂ : s.StaysIn s₂ := hs₁.trans (.addArray s₁ _)
  have hs₃ : s.StaysIn s₃ := hs₂.trans (.addMethod s₂ _)
  have helements : (s₃.elements s.arrays.size).toList = parts.map .string :=
    congrArg Array.toList (elements_addArray s₁ _)
  refine ⟨s₃, hs₃, fun n hn => ?_⟩
  obtain ⟨k, hk, rfl⟩ : ∃ k, bound ≤ k ∧ n = k + 5 := ⟨n - 5, by omega, by omega⟩
  have hsplit : (eval (k + 2) c (.call (.member a "split") [b])).Gives s (.array s.arrays.size) s₂ :=
    eval_method (m := .split) (ha k s hk (.refl s)) rfl (hb (k + 1) s₁ (by omega) hs₁)
      (split_gives hparts rfl .all _)
  have hjoin : (eval (k + 4) c (.call (.member (.call (.member a "split") [b]) "join") [b])).Gives s
      (.string (separator.intercalate parts)) s₃ :=
    eval_method (m := .join) hsplit rfl (hb (k + 3) s₃ (by omega) hs₃) (join_gives helements rfl _)
  have htrue : s₃.binary .strictEqual (.string (separator.intercalate parts)) (.string text) =
      .boolean true := by
    rw [hjoined]
    exact congrArg Value.boolean (beq_self_eq_true text)
  rw [← htrue]
  exact eval_binary hjoin (ha (k + 4) s₃ (by omega) hs₃)

/-- A text is cut into parts by a separator. There is one more of them than there are places of the
separator, found from left to right, and the method `split` gives an array of them, or of the first ones
if there is a limit. The method `join` makes the text of the parts again. So the expression that calls one
after the other and compares what they give with the text is true, for texts that are written in it and
for all expressions that have these texts as their values. -/
theorem split_then_join (text separator : String) : ∃ parts : List String,
    Text.CutInto separator.toList text.toList (parts.map String.toList) ∧
    (separator ≠ "" → ∀ places, Text.FoundFrom separator.toList text.toList 0 places →
      parts.length = places.length + 1) ∧
    (∀ (s : Store) (call : Caller) (args : List Value) (shown : List String),
      argument args 0 = .string separator → Limited s parts (argument args 1) shown →
      ∃ place t, (BoundMethod.run call ⟨.string text, .split⟩ args).Gives s (.array place) t ∧
        s.StaysIn t ∧ (t.elements place).toList = shown.map .string) ∧
    (∀ (s : Store) (call : Caller) (args : List Value) (place : Address),
      (s.elements place).toList = parts.map .string → argument args 0 = .string separator →
      (BoundMethod.run call ⟨.array place, .join⟩ args).Gives s (.string text) s) ∧
    (∀ (s : Store) (c : Context), ∃ t, s.StaysIn t ∧ ∀ n, 6 ≤ n →
      (eval n c (splitAndJoined (.string text) (.string separator))).Gives s (.boolean true) t) ∧
    ∀ (s : Store) (c : Context) (bound : Nat) (a b : Expr), c.HasValue s bound a (.string text) →
      c.HasValue s bound b (.string separator) → ∃ t, s.StaysIn t ∧
        ∀ n, bound + 5 ≤ n → (eval n c (splitAndJoined a b)).Gives s (.boolean true) t := by
  obtain ⟨parts, hparts, hcut, hjoined⟩ := exists_cutInto text separator
  refine ⟨parts, hcut, fun hne places hplaces => ?_, fun s call args shown hseparator hshown => ?_,
    fun s call args place helements hseparator => ?_,
    fun s c => eval_splitAndJoined (.string c s text) (.string c s separator),
    fun s c bound a b ha hb => eval_splitAndJoined ha hb⟩
  · have hlist : separator.toList ≠ [] := mt String.toList_eq_nil_iff.mp hne
    obtain ⟨others, hothers, hbetween⟩ := hcut.places hlist
    obtain rfl := hplaces.unique hothers
    rw [← List.length_map (f := String.toList), hbetween, Text.length_between]
  · exact ⟨_, _, split_gives hparts hseparator hshown call, .addArray s _,
      congrArg Array.toList (elements_addArray s _)⟩
  · rw [← hjoined]
    exact join_gives helements hseparator call

/-- A separator that overlaps itself, in a text that is a field of the data: what stands between the two
places is the second of three parts, and a limit of two and a half leaves two of them. -/
theorem split_then_join_overlapping :
    let s : Store := ⟨#[], #[[("text", .string "abababa"), ("cut", .string "aba")]], #[], #[],
      #[⟨.global, []⟩, ⟨.within (.object 0), []⟩]⟩
    let c : Context := ⟨[1, 0], 0, 0⟩
    let call : Caller := fun _ _ => pure .undefined
    Text.FoundFrom "aba".toList "abababa".toList 0 [0, 4] ∧
    (∃ place t, (BoundMethod.run call ⟨.string "abababa", .split⟩ [.string "aba", .number 2.5]).Gives s
      (.array place) t ∧ s.StaysIn t ∧ (t.elements place).toList = [.string "", .string "b"]) ∧
    (∀ t : Store, (t.elements 0).toList = [.string "", .string "b", .string ""] →
      (BoundMethod.run call ⟨.array 0, .join⟩ [.string "aba"]).Gives t (.string "abababa") t) ∧
    ∃ t, s.StaysIn t ∧ ∀ n, 6 ≤ n →
      (eval n c (splitAndJoined (.identifier "text") (.identifier "cut"))).Gives s (.boolean true) t := by
  intro s c call
  have hfound : Text.FoundFrom "aba".toList "abababa".toList 0 [0, 4] := by
    refine .next ⟨⟨Nat.le_refl 0, by decide, by decide⟩, fun j _ => Nat.zero_le j⟩
      (.next ⟨⟨by decide, by decide, by decide⟩, ?_⟩ (.none ?_))
    · rintro j ⟨hj, -, hat⟩
      refine Nat.lt_of_le_of_ne hj ?_
      rintro rfl
      exact absurd hat (by decide)
    · rintro j hj ⟨hle, hat⟩
      obtain rfl : j = 7 := Nat.le_antisymm hle hj
      exact absurd hat (by decide)
  obtain ⟨parts, hcut, -, hsplit, hjoin, -, heval⟩ := split_then_join "abababa" "aba"
  obtain rfl : parts = ["", "b", ""] := by
    obtain ⟨others, hothers, hbetween⟩ := hcut.places (by decide)
    obtain rfl := hfound.unique hothers
    exact List.map_injective_iff.mpr (fun _ _ => String.toList_injective) hbetween
  have hlimit : Limited s ["", "b", ""] (.number 2.5) ["", "b"] := by
    have hexactly : Exactly 2.5 (5 / 2) := ⟨false, 5 * 2 ^ 50, -51, by decide +kernel, by norm_num⟩
    have htwo : ⌊(5 / 2 : ℚ)⌋₊ = 2 := by
      rw [Nat.floor_eq_iff (by positivity)]
      norm_num
    have hfirst : Limited s ["", "b", ""] (.number 2.5) _ := .first hexactly (by positivity)
    rw [htwo] at hfirst
    exact hfirst
  have hscope : ∀ a ∈ c.scope,
      ∃ frame, s.frames[a]? = some frame ∧ ∀ v, frame.kind = .within v → s.Knows v := by
    refine List.forall_mem_cons.mpr ⟨⟨_, rfl, ?_⟩, List.forall_mem_singleton.mpr ⟨_, rfl, nofun⟩⟩
    rintro v ⟨⟩
    exact Nat.zero_lt_one
  exact ⟨hfound, hsplit s call [.string "aba", .number 2.5] _ rfl hlimit,
    fun t ht => hjoin t call _ 0 ht rfl, heval s c 1 _ _ (.identifier rfl hscope) (.identifier rfl hscope)⟩

end Microtemplate.Script
