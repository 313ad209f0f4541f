import Microtemplate.Proofs.Script.FaultPlaces
import Microtemplate.Proofs.Script.Gaps

/-!
Gaps carry no meaning but the ends of lines. The tokens of a source stand one after the other with a gap
before each. A gap between two tokens may be replaced by another one that starts with a blank and ends a
line if the old one does: the tokens stay the same, only further on in the text, and as no reader looks
at places, the source is read as the same program or refused for the same cause.
-/

namespace Microtemplate.Script

/-- The offset of a token in the source that it was cut from. -/
def Located.offset (source : List Char) (l : Located) : Nat :=
  Text.byteLength source - Text.byteLength l.text

/-- What the readers see of a token: not its place. -/
def Located.content (l : Located) : Token × Bool := (l.token, l.newlineBefore)

/-- A row of tokens ends with the end of input and has it nowhere before. -/
theorem Tokens.Ended.exists_toList {s : Tokens} (h : s.Ended) : ∃ init,
    s.toList = init ++ [⟨.endOfInput, true, []⟩] ∧ ∀ l ∈ init, l.token ≠ .endOfInput := by
  induction h with
  | finished => exact ⟨[], rfl, by rintro _ ⟨⟩⟩
  | @push l s hl _ ih =>
    obtain ⟨init, hinit, hnone⟩ := ih
    refine ⟨l :: init, ?_, List.forall_mem_cons.mpr ⟨hl, hnone⟩⟩
    exact congrArg (List.cons l) hinit

namespace Lexer

variable {source cs start rest gap old left : List Char} {newline : Bool} {s : Tokens} {t : Token}

/-- The tokens of a text stand at offsets that grow. -/
theorem Cuts.pairwise_offset (h : Cuts cs s) (hcs : cs <:+ source) :
    s.toList.Pairwise fun l next => l.offset source < next.offset source := by
  induction h with
  | stop => exact List.pairwise_singleton _ _
  | @step cs start rest newline t s hgap hstart htoken hcuts ih =>
    have hplace : start <:+ source := (skipGap_suffix hgap).trans hcs
    have hrest : rest <:+ start := token_suffix hstart htoken
    refine List.pairwise_cons.mpr ⟨fun next hnext => ?_, ih (hrest.trans hplace)⟩
    have hnext : next.text <:+ rest := (hcuts.placed List.suffix_rfl).2 next hnext
    have hless := Text.byteLength_lt_of_suffix hrest (length_token_lt hstart htoken)
    have hle := Text.byteLength_le_of_suffix hnext
    have hstartle := Text.byteLength_le_of_suffix hplace
    change Text.byteLength source - Text.byteLength start <
      Text.byteLength source - Text.byteLength next.text
    omega

/-- Before the first token of a text there is a gap, and the token says whether a line ends in it. -/
theorem Cuts.exists_firstGap (h : Cuts cs s) : ∃ gap, FirstGap cs gap s.current.text ∧
    (s.current.token ≠ .endOfInput → s.current.newlineBefore = hasLineEnd gap) := by
  cases h with
  | stop hgap =>
    obtain ⟨gap, hfirst, -⟩ := Lexer.exists_firstGap hgap
    exact ⟨gap, hfirst, fun hend => absurd rfl hend⟩
  | step hgap hstart htoken hcuts =>
    obtain ⟨gap, hfirst, rfl⟩ := Lexer.exists_firstGap hgap
    exact ⟨gap, hfirst, fun _ => rfl⟩

/-- What may stand in a text instead of a gap: a closed gap that starts with a blank and ends a line if
the other one does. -/
structure Replaces (gap' gap : List Char) : Prop where
  closed : ClosedGap gap'
  starts : ∃ c cs, gap' = c :: cs ∧ isGap c = true
  lines : hasLineEnd gap' = hasLineEnd gap

theorem Replaces.closing {gap' : List Char} (h : Replaces gap' gap) (rest : List Char) :
    Closing (gap' ++ rest) := by
  obtain ⟨c, cs, rfl, hc⟩ := h.starts
  exact closing_cons (closes_of_isGap hc) (cs ++ rest)

/-- A text keeps its tokens if its first gap is replaced. -/
theorem Cuts.replace_first (h : Cuts cs s) (hfirst : FirstGap cs gap s.current.text)
    {gap' : List Char} (hreplaces : Replaces gap' gap) : Cuts (gap' ++ s.current.text) s := by
  refine .of_skipGap_eq ?_ h
  rw [(hfirst.replace hreplaces.closed).skipGap_eq, hfirst.skipGap_eq, hreplaces.lines]

/-- A token before a place where a text changes is read again if the text goes on there with a closing
character. -/
theorem exists_push_replace (hgap : skipGap .blank false cs = .ok (newline, start))
    (hstart : start ≠ []) {l : List Char} (htoken : token start = .ok (t, l ++ old)) : ∃ front,
      cs = front ++ (l ++ old) ∧ ∀ new s, Closing new → Cuts (l ++ new) s →
        ∃ text, Cuts (front ++ (l ++ new)) (s.push ⟨t, newline, text⟩) := by
  obtain ⟨gap, hfirst, -⟩ := Lexer.exists_firstGap hgap
  obtain ⟨taken, rfl⟩ := token_suffix hstart htoken
  have htaken : taken ++ l ≠ [] := by
    have hlt := length_token_lt hstart htoken
    intro hnil
    rw [← List.append_assoc, hnil, List.nil_append, List.length_append] at hlt
    omega
  refine ⟨gap ++ taken, by rw [hfirst.split, List.append_assoc], fun new s hnew h => ?_⟩
  rw [hfirst.split, ← List.append_assoc taken, ← List.append_assoc] at hgap
  rw [← List.append_assoc] at htoken
  have hskip := skipGap_replace hgap htaken hnew
  have hread := token_replace hnew htaken htoken
  refine ⟨taken ++ l ++ new, .step ?_ (List.append_ne_nil_of_left_ne_nil htaken new) hread h⟩
  simpa only [List.append_assoc] using hskip

/-- Two tokens of a source with the gap between them; `front` is the source up to the end of the first
one. -/
structure GapBetween (source : List Char) (l next : Located) (front gap : List Char) : Prop where
  split : source = front ++ (gap ++ next.text)
  token : Lexer.token l.text = .ok (l.token, gap ++ next.text)
  before : GapBefore next.text gap
  lines : next.token ≠ .endOfInput → next.newlineBefore = hasLineEnd gap

/-- Between two tokens of a text there is a gap, and the text keeps its tokens if it is replaced. -/
theorem Cuts.exists_gapBetween (h : Cuts cs s) {l next : Located} (hadjacent : [l, next] <:+: s.toList) :
    ∃ front gap, GapBetween cs l next front gap ∧ ∀ gap', Replaces gap' gap →
      ∃ s', Cuts (front ++ (gap' ++ next.text)) s' ∧
        s'.toList.map Located.content = s.toList.map Located.content := by
  induction h with
  | stop =>
    have hle := hadjacent.length_le
    simp [Tokens.toList, Tokens.finished] at hle
  | @step cs start rest newline t s hgap hstart htoken hcuts ih =>
    change [l, next] <:+: ⟨t, newline, start⟩ :: s.toList at hadjacent
    rcases List.infix_cons_iff.mp hadjacent with hfirst | hlater
    · obtain ⟨rfl, hnext⟩ := List.cons_prefix_cons.mp hfirst
      obtain rfl : next = s.current := (List.cons_prefix_cons.mp hnext).1
      obtain ⟨gap, hfirst, hlines⟩ := hcuts.exists_firstGap
      obtain ⟨front, hsplit, hpush⟩ := exists_push_replace hgap hstart (l := []) htoken
      rw [List.nil_append, hfirst.split] at hsplit
      rw [hfirst.split] at htoken
      refine ⟨front, gap, ⟨hsplit, htoken, hfirst.before, hlines⟩, fun gap' hgap' => ?_⟩
      obtain ⟨text, hcuts'⟩ := hpush _ s (hgap'.closing _) (hcuts.replace_first hfirst hgap')
      exact ⟨_, hcuts', rfl⟩
    · obtain ⟨later, gap, hbetween, hreplace⟩ := ih hlater
      rw [hbetween.split] at htoken
      obtain ⟨front, hsplit, hpush⟩ := exists_push_replace hgap hstart htoken
      refine ⟨front ++ later, gap, ⟨?_, hbetween.token, hbetween.before, hbetween.lines⟩,
        fun gap' hgap' => ?_⟩
      · rw [hsplit, List.append_assoc]
      · obtain ⟨s', hcuts', hsame⟩ := hreplace gap' hgap'
        obtain ⟨text, hcuts''⟩ := hpush _ s' (hgap'.closing _) hcuts'
        refine ⟨_, by rw [List.append_assoc]; exact hcuts'', ?_⟩
        exact congrArg (List.cons (t, newline)) hsame

end Lexer

/-- Rows of tokens that differ in places only are the same once they stand in one place. -/
theorem Tokens.moved_eq_of_content {s s' : Tokens}
    (h : s'.toList.map Located.content = s.toList.map Located.content) (place : List Char) :
    s'.moved (fun _ => place) = s.moved fun _ => place := by
  obtain ⟨current, following⟩ := s
  obtain ⟨current', following'⟩ := s'
  have hplace : ∀ l : Located, l.moved (fun _ => place) = ⟨l.content.1, l.content.2, place⟩ :=
    fun _ => rfl
  have hlist := congrArg (List.map fun c : Token × Bool => (⟨c.1, c.2, place⟩ : Located)) h
  simp only [toList, List.map_cons, List.map_map, List.cons.injEq] at hlist
  exact congrArg₂ Tokens.mk hlist.1 hlist.2

/-- What a reader gives but for places: what it has read, or the message of the fault. -/
def Parse.unplaced {α : Type} : Except Fault (α × Tokens) → Except String α
  | .ok (a, _) => .ok a
  | .error e => .error e.cause.message

theorem Parse.unplaced_movedResult {α : Type} (move : List Char → List Char)
    (r : Except Fault (α × Tokens)) : unplaced (movedResult move r) = unplaced r := by
  cases r <;> rfl

namespace Function

/-- What a source is read as is what its tokens are read as. -/
theorem parse_of_tokens {source : String} {s : Tokens}
    (h : Lexer.tokens source.toList = .ok (s.current :: s.following)) :
    (Function.parse source).mapError (·.message) =
      Parse.unplaced (Reader.program (s.following.length + 1) s) := by
  have htext : Function.ofText? source.toList =
      (Reader.program (s.following.length + 1)).run s >>= fun r => pure r.1 := by
    rw [Function.ofText?, h]
    rfl
  rw [Function.parse, htext, StateT.run]
  cases Reader.program (s.following.length + 1) s <;> rfl

/-- Sources with the same tokens are read as the same program, or both are refused for the same
cause. -/
theorem parse_eq_of_content {source source' : String} {ls ls' : List Located}
    (h : Lexer.tokens source.toList = .ok ls) (h' : Lexer.tokens source'.toList = .ok ls')
    (hsame : ls'.map Located.content = ls.map Located.content) :
    (Function.parse source').mapError (·.message) = (Function.parse source).mapError (·.message) := by
  obtain ⟨s, hcuts, rfl⟩ := Lexer.tokens_eq_ok_iff.mp h
  obtain ⟨s', hcuts', rfl⟩ := Lexer.tokens_eq_ok_iff.mp h'
  have hlength : s'.following.length = s.following.length := by
    have := congrArg List.length hsame
    simpa using this
  let limit := s.following.length + 1
  have hread : ∀ {cs : List Char} {u : Tokens}, Lexer.Cuts cs u → u.left < limit →
      Reader.program limit (u.moved fun _ => []) =
        Parse.movedResult (fun _ => []) (Reader.program limit u) := by
    intro cs u hu hlimit
    have hadvances : Parse.Advances (· <:+ cs) (fun _ => []) Parse.Anywhere 1 limit
        (Reader.program limit) (Reader.program limit) :=
      Reader.program_advances (Nat.le_refl _) (Nat.le_refl _)
    exact hadvances.same u (hu.placed List.suffix_rfl) trivial hlimit
  have hplain := hread hcuts (Nat.lt_succ_self _)
  have hmoved := hread hcuts' (show s'.following.length < _ from hlength ▸ Nat.lt_succ_self _)
  rw [Tokens.moved_eq_of_content hsame, hplain] at hmoved
  rw [parse_of_tokens h, parse_of_tokens h', hlength, ← Parse.unplaced_movedResult fun _ => [],
    ← hmoved, Parse.unplaced_movedResult]

/-- Gaps carry no meaning but the ends of lines. The tokens of a source stand at growing character
boundaries, and the last of them is the end of input at the end of the text. Before the first token and
between two tokens there are only blanks and comments, and a token says whether a line ends there. If
another gap stands between two tokens that ends a line too or ends none either, and that starts with a
blank, the tokens are the same, and so is the program or the message of the refusal. -/
theorem gaps_carry_only_line_ends {source : String} {ls : List Located}
    (h : Lexer.tokens source.toList = .ok ls) :
    (ls.Pairwise fun l next => l.offset source.toList < next.offset source.toList) ∧
      (∀ l ∈ ls, Text.IsBoundary (l.offset source.toList) source.toList) ∧
      (∃ init last, ls = init ++ [last] ∧ last.token = .endOfInput ∧
        last.offset source.toList = Text.byteLength source.toList ∧
        ∀ l ∈ init, l.token ≠ .endOfInput) ∧
      (∀ first ∈ ls.head?, ∃ gap, Lexer.FirstGap source.toList gap first.text ∧
        (first.token ≠ .endOfInput → first.newlineBefore = Lexer.hasLineEnd gap)) ∧
      ∀ l next, [l, next] <:+: ls → ∃ front gap,
        Lexer.GapBetween source.toList l next front gap ∧ ∀ gap', Lexer.Replaces gap' gap →
          ∃ source' ls', source' = String.ofList (front ++ (gap' ++ next.text)) ∧
            Lexer.tokens source'.toList = .ok ls' ∧
            ls'.map Located.content = ls.map Located.content ∧
            (Function.parse source').mapError (·.message) =
              (Function.parse source).mapError (·.message) := by
  obtain ⟨s, hcuts, rfl⟩ := Lexer.tokens_eq_ok_iff.mp h
  have hplaced := (hcuts.placed List.suffix_rfl).2
  refine ⟨hcuts.pairwise_offset List.suffix_rfl, fun l hl => Text.isBoundary_of_suffix (hplaced l hl),
    ?_, ?_, fun l next hadjacent => ?_⟩
  · obtain ⟨init, hinit, hnone⟩ := hcuts.ended.exists_toList
    exact ⟨init, _, hinit, rfl, rfl, hnone⟩
  · rintro first hfirst
    obtain rfl := Option.some.inj hfirst
    obtain ⟨gap, hgap, hlines⟩ := hcuts.exists_firstGap
    exact ⟨gap, hgap, hlines⟩
  · obtain ⟨front, gap, hbetween, hreplace⟩ := hcuts.exists_gapBetween hadjacent
    refine ⟨front, gap, hbetween, fun gap' hgap' => ?_⟩
    obtain ⟨s', hcuts', hsame⟩ := hreplace gap' hgap'
    have htokens : Lexer.tokens (String.ofList (front ++ (gap' ++ next.text))).toList =
        .ok s'.toList := by
      rw [String.toList_ofList]
      exact Lexer.tokens_eq_ok_iff.mpr ⟨s', hcuts', rfl⟩
    exact ⟨_, s'.toList, rfl, htokens, hsame, parse_eq_of_content h htokens hsame⟩

/-- A line ends in the comment between `a` and `b`, so a plain end of a line means the same. -/
theorem gaps_carry_only_line_ends_of_comment :
    let a : Located := ⟨.identifier "a", false, "a/*\n*/b\x7d".toList⟩
    let b : Located := ⟨.identifier "b", true, "b\x7d".toList⟩
    let ls : List Located := [⟨.keyword .functionWord, false, "function()\x7ba/*\n*/b\x7d".toList⟩,
      ⟨.punctuator .leftParen, false, "()\x7ba/*\n*/b\x7d".toList⟩,
      ⟨.punctuator .rightParen, false, ")\x7ba/*\n*/b\x7d".toList⟩,
      ⟨.punctuator .leftBrace, false, "\x7ba/*\n*/b\x7d".toList⟩, a, b,
      ⟨.punctuator .rightBrace, false, ['\x7d']⟩, ⟨.endOfInput, true, []⟩]
    Lexer.tokens "function()\x7ba/*\n*/b\x7d".toList = .ok ls ∧ [a, b] <:+: ls ∧
      Lexer.Replaces ['\n'] "/*\n*/".toList ∧
      ∃ ls', Lexer.tokens "function()\x7ba\nb\x7d".toList = .ok ls' ∧
        ls'.map Located.content = ls.map Located.content ∧
        (Function.parse "function()\x7ba\nb\x7d").mapError (·.message) =
          (Function.parse "function()\x7ba/*\n*/b\x7d").mapError (·.message) := by
  intro a b ls
  have htokens : Lexer.tokens "function()\x7ba/*\n*/b\x7d".toList = .ok ls := by rfl
  have hadjacent : [a, b] <:+: ls := ⟨ls.take 4, ls.drop 6, rfl⟩
  have hreplaces : Lexer.Replaces ['\n'] "/*\n*/".toList :=
    ⟨.blank rfl .nil, ⟨'\n', [], rfl, rfl⟩, rfl⟩
  obtain ⟨-, -, -, -, hgaps⟩ := gaps_carry_only_line_ends htokens
  obtain ⟨front, gap, hbetween, hreplace⟩ := hgaps a b hadjacent
  have hread : Lexer.token a.text = .ok (a.token, "/*\n*/".toList ++ b.text) := rfl
  obtain rfl : gap = "/*\n*/".toList := by
    have hrest := (Prod.mk.inj (Except.ok.inj (hbetween.token.symm.trans hread))).2
    exact List.append_cancel_right hrest
  obtain rfl : front = "function()\x7ba".toList := List.append_cancel_right hbetween.split.symm
  obtain ⟨_, ls', rfl, hrest⟩ := hreplace _ hreplaces
  exact ⟨htokens, hadjacent, hreplaces, ls', hrest⟩

end Function

end Microtemplate.Script
