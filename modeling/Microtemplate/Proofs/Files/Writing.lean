import Microtemplate.Files.Directory

/-!
Writing into a file of a directory. A path that leads to a file still leads to it when the file is
written, since no directory on the way is affected, and no other file is.
-/

namespace Microtemplate.Directory

/-- A directory after the contents of a file are set. -/
def put (d : Directory) (name : String) (bytes : ByteArray) : Directory :=
  ⟨d.files.set name bytes⟩

theorem get?_put (d : Directory) (name other : String) (bytes : ByteArray) :
    (d.put name bytes).files.get? other = if other = name then some bytes else d.files.get? other :=
  Fields.get?_set ..

theorem has_put_of_ne {d : Directory} {name other : String} (h : other ≠ name) (bytes : ByteArray) :
    (d.put name bytes).files.has other = d.files.has other := by
  rw [Fields.has, get?_put, if_neg h, Fields.has]

theorem has_put_self (d : Directory) (name : String) (bytes : ByteArray) :
    (d.put name bytes).files.has name = true := by
  rw [Fields.has, get?_put, if_pos rfl, Option.isSome_some]

/-- No directory is lost. -/
theorem hasDirectory_put {d : Directory} {parts : List (List Char)} (h : d.hasDirectory parts = true)
    (name : String) (bytes : ByteArray) : (d.put name bytes).hasDirectory parts = true := by
  have hnames : ∀ fields : Fields ByteArray,
      (fields.any fun f => ((joined parts).toList ++ ['/']).isPrefixOf f.1.toList) =
        fields.names.any fun n => ((joined parts).toList ++ ['/']).isPrefixOf n.toList := by
    intro fields
    rw [Fields.names, List.any_map]
    rfl
  rw [hasDirectory, Bool.or_eq_true, hnames] at h ⊢
  refine h.imp_right fun h => ?_
  rw [put, Fields.names_set]
  split
  · exact h
  · rw [List.any_append, h, Bool.true_or]

namespace Spot

/-- Whether a walk may still come to any place. -/
def isFolder : Spot → Bool
  | outside | directory _ => true
  | file .. | beyond => false

end Spot

/-- A file is there, or no directory has its name. -/
def Free (d : Directory) (name : String) : Prop :=
  d.files.has name = true ∨ ∀ parts, parts ≠ [] → joined parts = name → d.hasDirectory parts = false

/-- The files in a directory are found by the name of the directory. -/
theorem hasDirectory_eq_any (d : Directory) {parts : List (List Char)} (h : parts ≠ []) :
    d.hasDirectory parts =
      d.files.any fun f => ((joined parts).toList ++ ['/']).isPrefixOf f.1.toList := by
  rw [hasDirectory, List.isEmpty_eq_false_iff.mpr h, Bool.false_or]

/-- Where neither a file nor a directory is, a file may be put. -/
theorem free_of_hasDirectory {d : Directory} {parts : List (List Char)} (hne : parts ≠ [])
    (h : ¬ d.hasDirectory parts = true) : d.Free (joined parts) := by
  refine .inr fun others hothers hsame => ?_
  rw [hasDirectory_eq_any d hothers, hsame, ← hasDirectory_eq_any d hne]
  exact Bool.eq_false_iff.mpr h

/-- No file may be put where a directory is. -/
theorem Free.joined_ne {d : Directory} {name : String} (hfree : d.Free name)
    {parts : List (List Char)} (hne : parts ≠ []) (hmissing : ¬ d.files.has (joined parts) = true)
    (hdirectory : d.hasDirectory parts = true) : joined parts ≠ name := by
  rintro rfl
  rcases hfree with hthere | hnone
  · exact hmissing hthere
  · rw [hnone parts hne rfl] at hdirectory
    cases hdirectory

/-- A walk goes from a directory to another one, or to a file, in each case in the same way after
the contents of a file are set. -/
theorem walk_cases {d : Directory} {part : List Char} {s t : Spot} (hs : s.isFolder = true)
    (h : d.walk part s = .ok t) :
    (t.isFolder = true ∧ ∀ name bytes, d.Free name → (d.put name bytes).walk part s = .ok t) ∨
      ∃ name present, t = .file name present ∧ d.Free name ∧
        ∀ bytes, (d.put name bytes).walk part s = .ok (.file name true) := by
  cases s with
  | outside =>
    refine .inl ⟨?_, fun _ _ _ => h⟩
    rw [walk] at h
    split at h
    · cases h
      rfl
    · cases h
  | directory parts =>
    have hparts : parts ++ [part] ≠ [] := List.append_ne_nil_of_right_ne_nil _ (List.cons_ne_nil _ _)
    simp only [walk] at h ⊢
    split at h
    · cases h
      exact .inl ⟨rfl, fun _ _ _ => if_pos ‹_›⟩
    rename_i hstay
    split at h
    · rename_i hup
      cases h
      refine .inl ⟨?_, fun _ _ _ => by rw [if_neg hstay, if_pos hup]⟩
      split <;> rfl
    rename_i hup
    split at h
    · cases h
    rename_i hlength
    have hput : ∀ bytes, (d.put (joined (parts ++ [part])) bytes).walk part (.directory parts) =
        .ok (.file (joined (parts ++ [part])) true) := fun bytes => by
      rw [walk, if_neg hstay, if_neg hup, if_neg hlength, if_pos (has_put_self ..)]
    split at h
    · cases h
      exact .inr ⟨_, _, rfl, .inl ‹_›, hput⟩
    rename_i hmissing
    split at h
    · rename_i hdirectory
      cases h
      refine .inl ⟨rfl, fun name bytes hfree => ?_⟩
      have hne := hfree.joined_ne hparts hmissing hdirectory
      rw [if_neg hstay, if_neg hup, if_neg hlength, if_neg (by rwa [has_put_of_ne hne]),
        if_pos (hasDirectory_put hdirectory name bytes)]
    · cases h
      exact .inr ⟨_, _, rfl, free_of_hasDirectory hparts ‹_›, hput⟩
  | file name present => cases hs
  | beyond => cases hs

/-- A walk ends at a file when it has come to it. -/
theorem walk_of_not_isFolder {d : Directory} {part : List Char} {s t : Spot}
    (hs : s.isFolder = false) (h : d.walk part s = .ok t) : t = .beyond := by
  cases s with
  | outside => cases hs
  | directory parts => cases hs
  | file name present =>
    cases present with
    | true => cases h
    | false =>
      rw [walk] at h
      split at h
      · cases h
        rfl
      · cases h
  | beyond =>
    rw [walk] at h
    split at h
    · cases h
      rfl
    · cases h

/-- What a walk over components leads to. -/
def walkAll (d : Directory) (parts : List (List Char)) (s : Spot) : Except FileFault Spot :=
  parts.foldlM (fun s part => d.walk part s) s

theorem walkAll_cons {d : Directory} {part : List Char} {parts : List (List Char)} {s t : Spot}
    (h : d.walkAll (part :: parts) s = .ok t) :
    ∃ u, d.walk part s = .ok u ∧ d.walkAll parts u = .ok t := by
  rw [walkAll, List.foldlM_cons] at h
  cases hwalk : d.walk part s with
  | error e =>
    rw [hwalk] at h
    cases h
  | ok u =>
    rw [hwalk] at h
    exact ⟨u, rfl, h⟩

/-- Where a walk has come to a file it ends. -/
theorem walkAll_of_not_isFolder {d : Directory} {parts : List (List Char)} {s : Spot}
    (hs : s.isFolder = false) {name : String} {present : Bool}
    (h : d.walkAll parts s = .ok (.file name present)) : parts = [] ∧ s = .file name present := by
  have hbeyond : ∀ parts, d.walkAll parts .beyond ≠ .ok (.file name present) := by
    intro parts
    induction parts with
    | nil => intro h; cases h
    | cons part parts ih =>
      intro h
      obtain ⟨u, hwalk, hmore⟩ := walkAll_cons h
      rw [walk_of_not_isFolder rfl hwalk] at hmore
      exact ih hmore
  cases parts with
  | nil =>
    cases h
    exact ⟨rfl, rfl⟩
  | cons part parts =>
    obtain ⟨u, hwalk, hmore⟩ := walkAll_cons h
    rw [walk_of_not_isFolder hs hwalk] at hmore
    exact absurd hmore (hbeyond parts)

/-- A walk that leads to a file leads to it when the file is written. -/
theorem walkAll_put {d : Directory} {parts : List (List Char)} {s : Spot} (hs : s.isFolder = true)
    {name : String} {present : Bool} (h : d.walkAll parts s = .ok (.file name present)) :
    d.Free name ∧ ∀ bytes, (d.put name bytes).walkAll parts s = .ok (.file name true) := by
  induction parts generalizing s with
  | nil =>
    cases h
    cases hs
  | cons part parts ih =>
    obtain ⟨u, hwalk, hmore⟩ := walkAll_cons h
    rcases walk_cases hs hwalk with ⟨hu, hsame⟩ | ⟨n, there, rfl, hfree, hput⟩
    · obtain ⟨hfree, hput⟩ := ih hu hmore
      refine ⟨hfree, fun bytes => ?_⟩
      rw [walkAll, List.foldlM_cons, hsame name bytes hfree]
      exact hput bytes
    · obtain ⟨rfl, heq⟩ := walkAll_of_not_isFolder rfl hmore
      cases heq
      refine ⟨hfree, fun bytes => ?_⟩
      rw [walkAll, List.foldlM_cons, hput bytes]
      rfl

/-- A path is walked from a directory. -/
theorem exists_walkAll (path : String) : (∀ d, spot d path = .error .missing) ∨
    ∃ parts s, s.isFolder = true ∧ ∀ d, spot d path = walkAll d parts s := by
  cases hpath : path.toList with
  | nil =>
    exact .inl fun d => by rw [spot, hpath]
  | cons c cs =>
    by_cases hroot : c = '/'
    · subst hroot
      exact .inr ⟨components cs, .outside, rfl, fun d => by rw [spot, hpath]; rfl⟩
    · refine .inr ⟨components (c :: cs), .directory [], rfl, fun d => ?_⟩
      rw [spot, hpath]
      split
      · contradiction
      · rename_i heq
        cases heq
        contradiction
      · rfl

theorem target_eq_ok {d : Directory} {path name : String} :
    d.target path = .ok name ↔ ∃ present, d.spot path = .ok (.file name present) := by
  rw [target]
  cases hspot : d.spot path with
  | error e => exact ⟨fun h => (by cases h), fun ⟨_, h⟩ => (by cases h)⟩
  | ok s =>
    cases s with
    | file n present =>
      refine ⟨fun h => ?_, fun ⟨_, h⟩ => ?_⟩
      · cases h
        exact ⟨present, rfl⟩
      · cases h
        rfl
    | _ => exact ⟨fun h => (by cases h), fun ⟨_, h⟩ => (by cases h)⟩

/-- A path leads to the file that is written also afterwards. -/
theorem target_put {d : Directory} {path name : String} (h : d.target path = .ok name)
    (bytes : ByteArray) : (d.put name bytes).target path = .ok name := by
  obtain ⟨present, hspot⟩ := target_eq_ok.mp h
  rcases exists_walkAll path with hnone | ⟨parts, s, hs, hwalk⟩
  · rw [hnone] at hspot
    cases hspot
  · rw [hwalk] at hspot
    exact target_eq_ok.mpr ⟨true, (hwalk _).trans ((walkAll_put hs hspot).2 bytes)⟩

/-- What a file that can be written holds; nothing if it is missing. -/
def Holds (d : Directory) (path : String) (bytes : ByteArray) : Prop :=
  d.contents path = .ok bytes ∨ d.contents path = .error .missing ∧ bytes = .empty

theorem contents_of_target {d : Directory} {path name : String} (h : d.target path = .ok name) :
    d.contents path = match d.files.get? name with
      | some bytes => .ok bytes
      | none => .error .missing := by
  obtain ⟨present, hspot⟩ := target_eq_ok.mp h
  rw [contents, hspot]
  change (match d.files.get? name with
    | some bytes => pure bytes
    | none => throw .missing : Except FileFault ByteArray) = _
  cases d.files.get? name <;> rfl

theorem holds_of_target {d : Directory} {path name : String} (h : d.target path = .ok name) :
    d.Holds path ((d.files.get? name).getD .empty) := by
  rw [Holds, contents_of_target h]
  cases d.files.get? name with
  | none => exact .inr ⟨rfl, rfl⟩
  | some bytes => exact .inl rfl

theorem Holds.unique {d : Directory} {path : String} {old old' : ByteArray} (h : d.Holds path old)
    (h' : d.Holds path old') : old = old' := by
  rcases h with h | ⟨h, rfl⟩ <;> rcases h' with h' | ⟨h', rfl⟩
  · exact Except.ok.inj (h.symm.trans h')
  · cases h.symm.trans h'
  · cases h.symm.trans h'
  · rfl

/-- A file holds what is written into it. -/
theorem contents_put {d : Directory} {path name : String} (h : d.target path = .ok name)
    (bytes : ByteArray) : (d.put name bytes).contents path = .ok bytes := by
  rw [contents_of_target (target_put h bytes), get?_put, if_pos rfl]

end Microtemplate.Directory
