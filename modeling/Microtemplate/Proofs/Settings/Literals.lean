import Mathlib.Data.List.Basic
import Microtemplate.Settings.Pattern

/-!
Pattern literals. A text falls into pieces, each of them a backslash with the character after it or a
character that stands alone, and slashes are quoted and unquoted piece by piece. So a literal stands for
the expression that was quoted in it, unless a slash had a backslash before it already. A text that is no
literal is a regular expression as it stands.
-/

namespace Microtemplate.Pattern

/-- The pieces of a text, read from left to right: a backslash takes the next character with it, if there
is one, and all other characters stand alone. -/
def pieces : List Char → List (List Char)
  | '\\' :: c :: cs => ['\\', c] :: pieces cs
  | c :: cs => [c] :: pieces cs
  | [] => []

/-- A slash that stands alone gets a backslash before it. -/
def quotePiece (piece : List Char) : List Char := if piece = ['/'] then ['\\', '/'] else piece

/-- A slash with a backslash before it loses the backslash. -/
def unquotePiece (piece : List Char) : List Char := if piece = ['\\', '/'] then ['/'] else piece

/-- A text as it is written in a literal. -/
def quoted (cs : List Char) : List Char := (pieces cs).flatMap quotePiece

/-- The pieces that are read in the same way whatever follows them. -/
inductive Complete : List Char → Prop
  | pair (c : Char) : Complete ['\\', c]
  | alone {c : Char} : c ≠ '\\' → Complete [c]

/-- A text is a pattern with this source. If the source is a regular expression, that is the one of the
pattern, which keeps the text as it is written; otherwise the text is refused. -/
structure IsRead (text source : String) (isGlobal : Bool) : Prop where
  accepted : (Regex.ofText? source.toList).isSome = true →
    ∃ p, ofText text = .ok p ∧ p.text = text ∧ p.source = source ∧ p.isGlobal = isGlobal
  refused : Regex.ofText? source.toList = none → ofText text = .error ⟨none, text, .notRegular⟩

/-- A text is a literal: it starts with a slash, and after another slash there are only letters, small and
capital ones from `a` to `z`. -/
def IsLiteral (text body flags : List Char) : Prop :=
  text = '/' :: (body ++ '/' :: flags) ∧ ∀ c ∈ flags, c.isAlpha = true

section Pieces

variable {c : Char} {cs piece : List Char} {f : List Char → List Char}

theorem pieces_cons (hc : c = '\\' → cs = []) : pieces (c :: cs) = [c] :: pieces cs := by
  refine pieces.eq_2 c cs ?_
  rintro d ds rfl rfl
  cases hc rfl

/-- A backslash stands alone at the end only. -/
theorem eq_nil_of_alone (h : ∀ d ds, c = '\\' → cs = d :: ds → False) (hc : c = '\\') : cs = [] := by
  cases cs with
  | nil => rfl
  | cons d ds => exact absurd rfl (h d ds hc)

theorem flatten_pieces (cs : List Char) : (pieces cs).flatten = cs := by
  fun_induction pieces cs with
  | case1 c cs ih =>
    rw [List.flatten_cons, ih]
    rfl
  | case2 c cs hpair ih =>
    rw [List.flatten_cons, ih]
    rfl
  | case3 => rfl

theorem pieces_append (h : Complete piece) (cs : List Char) :
    pieces (piece ++ cs) = piece :: pieces cs := by
  cases h with
  | pair c => rfl
  | alone hc => exact pieces_cons fun h => absurd h hc

/-- What is done to each piece can be seen in the pieces again. -/
theorem pieces_flatMap (hf : ∀ piece, Complete piece → Complete (f piece)) (hlast : f ['\\'] = ['\\'])
    (cs : List Char) : pieces ((pieces cs).flatMap f) = (pieces cs).map f := by
  fun_induction pieces cs with
  | case1 c cs ih =>
    rw [List.flatMap_cons, List.map_cons, pieces_append (hf _ (.pair c)), ih]
  | case2 c cs hpair ih =>
    -- a backslash at the end is the one piece that is not complete
    by_cases hc : c = '\\'
    · obtain rfl := eq_nil_of_alone hpair hc
      subst hc
      have hpieces : pieces ['\\'] = [['\\']] := rfl
      rw [pieces, List.flatMap_cons, List.flatMap_nil, List.append_nil, List.map_cons, hlast, hpieces]
      rfl
    · rw [List.flatMap_cons, List.map_cons, pieces_append (hf _ (.alone hc)), ih]
  | case3 => rfl

theorem complete_quotePiece (h : Complete piece) : Complete (quotePiece piece) := by
  unfold quotePiece
  split
  · exact .pair '/'
  · exact h

theorem complete_unquotePiece (h : Complete piece) : Complete (unquotePiece piece) := by
  unfold unquotePiece
  split
  · exact .alone (by decide)
  · exact h

theorem pieces_quoted (cs : List Char) : pieces (quoted cs) = (pieces cs).map quotePiece :=
  pieces_flatMap (fun _ => complete_quotePiece) rfl cs

theorem pieces_unquoted (cs : List Char) :
    pieces ((pieces cs).flatMap unquotePiece) = (pieces cs).map unquotePiece :=
  pieces_flatMap (fun _ => complete_unquotePiece) rfl cs

/-- Unescaping unquotes the pieces. -/
theorem unescapeSlashes_eq (cs : List Char) :
    unescapeSlashes cs = (pieces cs).flatMap unquotePiece := by
  fun_induction unescapeSlashes cs with
  | case1 => rfl
  | case2 => rfl
  | case3 cs ih =>
    rw [ih]
    rfl
  | case4 c cs hc ih =>
    have hpair : unquotePiece ['\\', c] = ['\\', c] := if_neg (by simpa using hc)
    rw [pieces, List.flatMap_cons, hpair, ih]
    rfl
  | case5 c cs hlast hpair ih =>
    rw [pieces_cons (eq_nil_of_alone hpair), List.flatMap_cons, unquotePiece, if_neg (by simp), ih]
    rfl

theorem unescapeSlashes_unescapeSlashes (cs : List Char) :
    unescapeSlashes (unescapeSlashes cs) = unescapeSlashes cs := by
  have htwice : ∀ piece, unquotePiece (unquotePiece piece) = unquotePiece piece := by
    intro piece
    by_cases h : piece = ['\\', '/']
    · subst h
      rfl
    · have hsame : unquotePiece piece = piece := if_neg h
      rw [hsame, hsame]
  simp only [unescapeSlashes_eq, pieces_unquoted, List.flatMap_map, htwice]

theorem unquotePiece_quotePiece (h : piece ≠ ['\\', '/']) : unquotePiece (quotePiece piece) = piece := by
  by_cases hslash : piece = ['/']
  · subst hslash
    rfl
  · have hsame : quotePiece piece = piece := if_neg hslash
    rw [hsame, unquotePiece, if_neg h]

/-- No slash of an unescaped text has a backslash before it. -/
theorem notMem_pieces_unescapeSlashes (cs : List Char) :
    ['\\', '/'] ∉ pieces (unescapeSlashes cs) := by
  rw [unescapeSlashes_eq, pieces_unquoted, List.mem_map]
  rintro ⟨piece, -, heq⟩
  unfold unquotePiece at heq
  split at heq
  · cases heq
  · contradiction

/-- What is quoted is read back exactly if no slash had a backslash before it: that backslash is lost. -/
theorem unescapeSlashes_quoted_iff :
    unescapeSlashes (quoted cs) = cs ↔ ['\\', '/'] ∉ pieces cs := by
  constructor
  · intro h
    rw [← h]
    exact notMem_pieces_unescapeSlashes _
  · intro h
    calc unescapeSlashes (quoted cs)
        = (pieces cs).flatMap fun piece => unquotePiece (quotePiece piece) := by
          rw [unescapeSlashes_eq, pieces_quoted, List.flatMap_map]
      _ = (pieces cs).flatMap id := List.flatMap_congr fun piece hpiece =>
          unquotePiece_quotePiece fun heq => h (heq ▸ hpiece)
      _ = cs := by rw [List.flatMap_id, flatten_pieces]

end Pieces

section Literals

variable {cs before after text body flags : List Char}

theorem cutLastSlash?_of_notMem (h : '/' ∉ cs) : cutLastSlash? cs = none := by
  induction cs with
  | nil => rfl
  | cons c cs ih =>
    obtain ⟨hc, hcs⟩ := not_or.mp (mt List.mem_cons.mpr h)
    rw [cutLastSlash?, ih hcs]
    exact if_neg (Ne.symm hc)

/-- A text is cut at a slash after which there is none. -/
theorem cutLastSlash?_append (h : '/' ∉ after) (before : List Char) :
    cutLastSlash? (before ++ '/' :: after) = some (before, after) := by
  induction before with
  | nil =>
    rw [List.nil_append, cutLastSlash?, cutLastSlash?_of_notMem h]
    rfl
  | cons c before ih => rw [List.cons_append, cutLastSlash?, ih]

theorem eq_of_cutLastSlash? (h : cutLastSlash? cs = some (before, after)) :
    cs = before ++ '/' :: after := by
  induction cs generalizing before with
  | nil => cases h
  | cons c cs ih =>
    rw [cutLastSlash?] at h
    split at h
    · next b a hcut =>
      cases h
      exact congrArg (c :: ·) (ih hcut)
    · split at h
      · next hc =>
        cases h
        exact congrArg (· :: after) hc
      · cases h

theorem cutLiteral?_eq_some_iff : cutLiteral? text = some (body, flags) ↔ IsLiteral text body flags := by
  constructor
  · intro h
    unfold cutLiteral? at h
    split at h
    · split at h
      · next b a hcut =>
        split at h
        · next hflags =>
          cases h
          exact ⟨congrArg ('/' :: ·) (eq_of_cutLastSlash? hcut), List.all_eq_true.mp hflags⟩
        · cases h
      · cases h
    · cases h
  · rintro ⟨rfl, hflags⟩
    have hslash : '/' ∉ flags := fun hmem => absurd (hflags _ hmem) (by decide)
    rw [cutLiteral?, cutLastSlash?_append hslash]
    exact if_pos (List.all_eq_true.mpr hflags)

theorem IsRead.of_build {text source : String} {isGlobal : Bool}
    (h : ofText text = build text source isGlobal) : IsRead text source isGlobal where
  accepted hsome := by
    obtain ⟨_, hregex⟩ := Option.isSome_iff_exists.mp hsome
    exact ⟨_, h.trans (build_eq_ok hregex), rfl, rfl, rfl⟩
  refused hnone := h.trans (build_eq_error hnone)

theorem isRead_of_not_isLiteral {text : String}
    (h : ¬ ∃ body flags, IsLiteral text.toList body flags) : IsRead text text true := by
  refine .of_build ?_
  cases hcut : cutLiteral? text.toList with
  | none => rw [ofText, hcut, ofSource]
  | some cut => exact absurd ⟨_, _, cutLiteral?_eq_some_iff.mp hcut⟩ h

/-- The letters that may stand after a literal. -/
def flagLetters : List Char := ['g', 'i', 'm', 's', 'u']

/-- The source of an expression with flags before it. -/
def flagged (flags body : List Char) : List Char :=
  if flags = [] then body else '(' :: '?' :: (flags ++ ')' :: body)

theorem literalSource_eq (body flags : List Char) :
    literalSource body flags = flagged (inlineFlags flags) (unescapeSlashes body) := by
  unfold literalSource flagged
  split
  · next hnone => rw [if_pos hnone]
  · next hsome => exact (if_neg hsome).symm

theorem isRead_of_isLiteral {text : String} (h : IsLiteral text.toList body flags)
    (hflags : ∀ c ∈ flags, c ∈ flagLetters) :
    IsRead text (String.ofList (flagged (inlineFlags flags) (unescapeSlashes body)))
      (decide ('g' ∈ flags)) := by
  have hsupported : unsupportedFlag? flags = none := by
    rw [unsupportedFlag?, List.find?_eq_none]
    intro c hc
    have hmem : c ∈ ['g', 'i', 'm', 's', 'u'] := hflags c hc
    simp only [List.contains_iff_mem.mpr hmem, Bool.not_true, Bool.false_eq_true, not_false_eq_true]
  refine .of_build ?_
  rw [ofText, cutLiteral?_eq_some_iff.mpr h]
  simp only [hsupported, literalSource_eq, List.contains_eq_mem]

/-- The literal of a body is one. -/
theorem isLiteral_quoted (hflags : ∀ c ∈ flags, c ∈ flagLetters) (body : List Char) :
    IsLiteral ('/' :: (quoted body ++ '/' :: flags)) (quoted body) flags := by
  refine ⟨rfl, fun c hc => ?_⟩
  have hletters : flagLetters.all Char.isAlpha = true := by decide
  exact List.all_eq_true.mp hletters c (hflags c hc)

end Literals

/-- A literal in which a body is quoted stands for that body, behind those of its flags that are flags of
the expression. It scans for every match if it has the flag for that, and it keeps the text as it is
written. The body must have no slash with a backslash before it, since quoting would lose the backslash.
Unescaping a text twice is the same as unescaping it once. A text that is no literal is a regular
expression as it stands, and scans for every match. -/
theorem literal_denotes_quoted :
    (∀ body flags : List Char, ['\\', '/'] ∉ pieces body → (∀ c ∈ flags, c ∈ flagLetters) →
      IsRead (String.ofList ('/' :: (quoted body ++ '/' :: flags)))
        (String.ofList (flagged (flags.filter (· ∈ ['i', 'm', 's'])) body)) (decide ('g' ∈ flags))) ∧
    (∀ body : List Char, unescapeSlashes (quoted body) = body ↔ ['\\', '/'] ∉ pieces body) ∧
    (∀ cs : List Char, unescapeSlashes (unescapeSlashes cs) = unescapeSlashes cs) ∧
    ∀ text : String, (¬ ∃ body flags, IsLiteral text.toList body flags) → IsRead text text true := by
  refine ⟨fun body flags hbody hflags => ?_, fun _ => unescapeSlashes_quoted_iff,
    unescapeSlashes_unescapeSlashes, fun _ => isRead_of_not_isLiteral⟩
  have hliteral := isLiteral_quoted hflags body
  rw [← String.toList_ofList (l := '/' :: (quoted body ++ '/' :: flags))] at hliteral
  have hread := isRead_of_isLiteral hliteral hflags
  have hletters : inlineFlags flags = flags.filter (· ∈ ['i', 'm', 's']) := by
    simp only [inlineFlags, List.contains_eq_mem]
  rwa [unescapeSlashes_quoted_iff.mpr hbody, hletters] at hread

/-- A slash after a pair of backslashes, in a literal with two flags, and a text that ends with a slash and
a figure. -/
theorem literal_denotes_quoted_after_backslashes :
    let body := "<\\\\/(.+)/>".toList
    ['\\', '/'] ∉ pieces body ∧ (∀ c ∈ ['s', 'g'], c ∈ flagLetters) ∧
    (∃ p, ofText "/<\\\\\\/(.+)\\/>/sg" = .ok p ∧ p.text = "/<\\\\\\/(.+)\\/>/sg" ∧
      p.source = "(?s)<\\\\/(.+)/>" ∧ p.isGlobal = true) ∧
    (¬ ∃ body flags, IsLiteral "/(a)/1".toList body flags) ∧
    ∃ p, ofText "/(a)/1" = .ok p ∧ p.text = "/(a)/1" ∧ p.source = "/(a)/1" ∧ p.isGlobal = true := by
  intro body
  have hbody : ['\\', '/'] ∉ pieces body := by decide +kernel
  have hflags : ∀ c ∈ ['s', 'g'], c ∈ flagLetters := by simp [flagLetters]
  have hbare : ¬ ∃ body flags, IsLiteral "/(a)/1".toList body flags := by
    rintro ⟨body, flags, h⟩
    have hnone : cutLiteral? "/(a)/1".toList = none := by decide +kernel
    cases hnone.symm.trans (cutLiteral?_eq_some_iff.mpr h)
  refine ⟨hbody, hflags, ?_, hbare, ?_⟩
  · have hread := literal_denotes_quoted.1 body ['s', 'g'] hbody hflags
    have hwritten : String.ofList ('/' :: (quoted body ++ '/' :: ['s', 'g'])) =
        "/<\\\\\\/(.+)\\/>/sg" := by decide +kernel
    have hsource : String.ofList (flagged (['s', 'g'].filter (· ∈ ['i', 'm', 's'])) body) =
        "(?s)<\\\\/(.+)/>" := by decide +kernel
    rw [hwritten, hsource] at hread
    exact hread.accepted (by decide +kernel)
  · exact (literal_denotes_quoted.2.2.2 "/(a)/1" hbare).accepted (by decide +kernel)

end Microtemplate.Pattern
