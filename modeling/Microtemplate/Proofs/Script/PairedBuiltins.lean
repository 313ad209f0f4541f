import Microtemplate.Proofs.Script.Pairing

/-!
Properties, builtin functions and methods in two runs side by side. None of them looks at an address,
so each does the same in both runs if the functions that it calls back do.
-/

namespace Microtemplate.Script

theorem mem_of_mem_extract {α : Type} {xs : Array α} {start stop : Nat} {x : α}
    (h : x ∈ xs.extract start stop) : x ∈ xs := by
  obtain ⟨k, hk, hx⟩ := Array.mem_extract_iff_getElem.mp h
  exact hx ▸ Array.getElem_mem _

theorem mem_of_mem_pop {α : Type} {xs : Array α} {x : α} (h : x ∈ xs.pop) : x ∈ xs := by
  rw [← Array.mem_toList_iff, Array.toList_pop] at h
  exact Array.mem_toList_iff.mp ((List.dropLast_sublist _).subset h)

theorem mem_resize {items : Array Value} {length : Nat} {v : Value} (h : v ∈ resize items length) :
    v ∈ items ∨ v = .undefined := by
  unfold resize at h
  split at h
  · exact Or.inl (mem_of_mem_extract h)
  · exact (Array.mem_append.mp h).imp_right fun h => (Array.mem_replicate.mp h).2

theorem mem_putAt {items : Array Value} {index : Nat} {v new : Value} (h : v ∈ putAt items index new) :
    v ∈ items ∨ v = .undefined ∨ v = new := by
  unfold putAt at h
  split at h
  · exact (Array.mem_or_eq_of_mem_setIfInBounds h).imp_right Or.inr
  · rcases Array.mem_push.mp h with h | h
    · exact (mem_resize h).imp_right Or.inl
    · exact Or.inr (Or.inr h)

theorem bind_error {ε α β : Type} {x : Except ε α} {f : α → Except ε β} {e : ε}
    (h : (x >>= f) = .error e) : (∃ a, x = .ok a ∧ f a = .error e) ∨ x = .error e := by
  cases x with
  | ok a => exact Or.inl ⟨a, rfl, h⟩
  | error _ => exact Or.inr (congrArg Except.error (Except.error.inj h))

theorem mapM_error {ε α β : Type} {f : α → Except ε β} {as : List α} {e : ε}
    (h : as.mapM f = .error e) : ∃ a ∈ as, f a = .error e := by
  induction as with
  | nil =>
    rw [List.mapM_nil] at h
    cases h
  | cons a as ih =>
    rw [List.mapM_cons] at h
    obtain ⟨b, -, hrest⟩ | ha := bind_error h
    · obtain ⟨bs, -, hpure⟩ | has := bind_error hrest
      · cases hpure
      · obtain ⟨a', ha', he⟩ := ih has
        exact ⟨a', List.mem_cons_of_mem a ha', he⟩
    · exact ⟨a, List.mem_cons_self .., ha⟩

theorem Fields.mem_of_get? {α : Type} {fields : Fields α} {name : String} {x : α}
    (h : fields.get? name = some x) : (name, x) ∈ fields := by
  obtain ⟨before, after, rfl, -⟩ := List.lookup_eq_some_iff.mp h
  exact List.mem_append_right _ (List.mem_cons_self ..)

namespace Renaming

variable (r : Renaming)

theorem resize_map (items : Array Value) (length : Nat) :
    resize (items.map r.value) length = (resize items length).map r.value := by
  unfold resize
  rw [Array.size_map]
  split <;> simp [value]

theorem putAt_map (items : Array Value) (index : Nat) (new : Value) :
    putAt (items.map r.value) index (r.value new) = (putAt items index new).map r.value := by
  unfold putAt
  rw [Array.size_map]
  split
  · exact Array.map_setIfInBounds.symm
  · rw [resize_map, Array.map_push]

end Renaming

namespace Pairing

variable {P : Pairing} (hP : P.Lawful) {v new : Value} {key : String}

include hP

theorem twins_text (v : Value) : P.Twins (Run.text v) (Run.text (P.places.value v)) :=
  .value hP fun _ _ hs => ⟨trivial, (hP.mirrors hs).text v⟩

theorem twins_failText {α : Type} [Renamable α] (v : Value) {error : String → RenderError}
    (h : ∀ t, (error t).isOfCode = false) : P.Twins (do Run.fail (error (← Run.text v)) : Run α)
      (do Run.fail (error (← Run.text (P.places.value v))) : Run α) :=
  .bind hP (twins_text hP v) fun t _ => .fail hP (h t)

theorem twins_readMethod (hv : P.places.Visible v) (key : String) :
    P.Twins (Run.readMethod v key) (Run.readMethod (P.places.value v) key) := by
  unfold Run.readMethod
  rw [Renaming.of?_value]
  split
  · refine .add fun s u hs => ⟨trivial, ?_, hP.addMethod hs hv⟩
    have hsize : u.methods.size = s.methods.size := by
      rw [(hP.mirrors hs).methods, Array.size_map]
    exact congrArg Value.method hsize
  · exact .pure hP trivial

theorem twins_readProperty (hv : P.places.Visible v) :
    P.Twins (Run.readProperty v key) (Run.readProperty (P.places.value v) key) := by
  cases v with
  | undefined => exact twins_failText hP .undefined fun _ => rfl
  | null => exact twins_failText hP .null fun _ => rfl
  | object a =>
    refine .value hP fun s u hs => ?_
    have hmirrors := hP.mirrors hs
    rw [hmirrors.fields a hv, Renaming.get?_fields]
    cases hfield : (s.fields a).get? key with
    | none => exact ⟨trivial, rfl⟩
    | some x =>
      have hmem : (key, x) ∈ s.fields a := Script.Fields.mem_of_get? hfield
      exact ⟨hmirrors.visibleFields a hv _ hmem, rfl⟩
  | array a =>
    change P.Twins (if _ then _ else _) (if _ then _ else _)
    split
    · refine .value hP fun s u hs => ⟨trivial, ?_⟩
      rw [(hP.mirrors hs).elements, Array.size_map]
      rfl
    · split
      · rename_i i _
        refine .value hP fun s u hs => ?_
        have hmirrors := hP.mirrors hs
        rw [hmirrors.elements, Array.getElem?_map]
        cases hitem : (s.elements a)[i]? with
        | none => exact ⟨trivial, rfl⟩
        | some x => exact ⟨hmirrors.visibleElements a x (Array.mem_of_getElem? hitem), rfl⟩
      · exact twins_readMethod hP hv key
  | string t =>
    change P.Twins (if _ then _ else _) (if _ then _ else _)
    split
    · exact .pure hP (a := Value.number _) trivial
    · split
      · rename_i i _
        cases t.toList[i]? with
        | none => exact .pure hP (a := Value.undefined) trivial
        | some c => exact .pure hP (a := Value.string _) trivial
      · exact twins_readMethod hP hv key
  | _ => exact twins_readMethod hP hv key

theorem twins_writeLength (a : Address) (new : Value) :
    P.Twins (Run.writeLength a new) (Run.writeLength (P.places.arrays a) (P.places.value new)) := by
  refine .read fun s u hs => ?_
  rw [(hP.mirrors hs).number]
  split
  · split
    · exact .fail hP rfl
    · refine .change fun s u hs => hP.modifyArray a hs (fun items hitems v hv => ?_) fun items =>
        Renaming.resize_map _ items _
      rcases mem_resize hv with hv | rfl
      · exact hitems v hv
      · exact trivial
  · exact .fail hP rfl

theorem twins_writeElement (a : Address) (index : Nat) (hnew : P.places.Visible new) :
    P.Twins (Run.writeElement a index new)
      (Run.writeElement (P.places.arrays a) index (P.places.value new)) := by
  refine .read fun s u hs => ?_
  rw [(hP.mirrors hs).elements, Array.size_map]
  split
  · exact .fail hP rfl
  · refine .change fun s u hs => hP.modifyArray a hs (fun items hitems v hv => ?_) fun items =>
      Renaming.putAt_map _ items _ _
    rcases mem_putAt hv with hv | rfl | rfl
    · exact hitems v hv
    · exact trivial
    · exact hnew

theorem twins_writeProperty (hv : P.places.Visible v) (hnew : P.places.Visible new) :
    P.Twins (Run.writeProperty v key new)
      (Run.writeProperty (P.places.value v) key (P.places.value new)) := by
  cases v with
  | undefined => exact twins_failText hP .undefined fun _ => rfl
  | null => exact twins_failText hP .null fun _ => rfl
  | object a => exact .change fun s u hs => hP.setField hs hnew hv
  | array a =>
    change P.Twins (if _ then _ else _) (if _ then _ else _)
    split
    · exact twins_writeLength hP a new
    · split
      · exact twins_writeElement hP a _ hnew
      · exact .pure hP (a := ()) trivial
  | _ => exact .pure hP (a := ()) trivial

end Pairing

open Pairing

section Methods

variable {P : Pairing} (hP : P.Lawful) {call call' : Caller}
  (hcall : ∀ f args, P.places.Visible f → (∀ v ∈ args, P.places.Visible v) →
    P.Twins (call f args) (call' (P.places.value f) (args.map P.places.value)))

include hP hcall

theorem ArrayMethod.twins_visit (a : Address) {callback : Value}
    (hcallback : P.places.Visible callback) (count index : Nat) :
    P.Twins (visit (call callback) a count index)
      (visit (call' (P.places.value callback)) (P.places.arrays a) count index) := by
  induction count generalizing index with
  | zero => exact .pure hP (a := []) (fun _ hb => absurd hb List.not_mem_nil)
  | succ count ih =>
    refine .read fun s u hs => ?_
    have hmirrors := hP.mirrors hs
    rw [hmirrors.elements, Array.getElem?_map]
    cases hitem : (s.elements a)[index]? with
    | none => exact .pure hP (a := []) (fun _ hb => absurd hb List.not_mem_nil)
    | some item =>
      have hvisible := hmirrors.visibleElements a item (Array.mem_of_getElem? hitem)
      have hargs : ∀ v ∈ [item, .number (Decimal.ofNat index), .array a], P.places.Visible v :=
        List.forall_mem_cons.mpr ⟨hvisible, List.forall_mem_cons.mpr
          ⟨trivial, List.forall_mem_singleton.mpr trivial⟩⟩
      exact .bind hP (hcall _ _ hcallback hargs) fun result hresult =>
        .bind hP (ih _) fun more hmore =>
          .pure hP (a := (item, result) :: more) (List.forall_mem_cons.mpr ⟨⟨hvisible, hresult⟩, hmore⟩)

theorem ArrayMethod.twins_visitAll (a : Address) {callback : Value}
    (hcallback : P.places.Visible callback) :
    P.Twins (visitAll call a callback)
      (visitAll call' (P.places.arrays a) (P.places.value callback)) := by
  refine .read fun s u hs => ?_
  rw [(hP.mirrors hs).elements, Array.size_map]
  exact twins_visit hP hcall a hcallback _ _

theorem ArrayMethod.twins_visitAll? (a : Address) {callback : Value}
    (hcallback : P.places.Visible callback) :
    P.Twins (visitAll? call a callback)
      (visitAll? call' (P.places.arrays a) (P.places.value callback)) := by
  unfold visitAll?
  rw [Renaming.isCallable_value]
  split
  · exact twins_visitAll hP hcall a hcallback
  · exact twins_failText hP _ fun _ => rfl

omit hcall in
theorem ArrayMethod.twins_addArray {items items' : Store → Array Value}
    (h : ∀ s u, P.Holds s u → (∀ v ∈ items s, P.places.Visible v) ∧
      items' u = (items s).map P.places.value) :
    P.Twins (Run.add fun s => s.addArray (items s)) (Run.add fun s => s.addArray (items' s)) := by
  refine .add fun s u hs => ?_
  obtain ⟨hvisible, heq⟩ := h s u hs
  obtain ⟨hsize, hmoves⟩ := hP.addArray hs hvisible
  rw [heq]
  exact ⟨trivial, congrArg Value.array hsize.symm, hmoves⟩

omit hP hcall in
theorem ArrayMethod.separator_value {r : Renaming} {s u : Store} (h : r.Mirrors s u)
    (args : List Value) : separator u (args.map r.value) = separator s args := by
  have htext := h.text (argument args 0)
  rw [separator, separator, Renaming.argument_value]
  cases hv : argument args 0 <;> rw [hv] at htext <;> first | rfl | exact htext

omit hP hcall in
theorem ArrayMethod.indexOf_value {r : Renaming} {s u : Store} (h : r.Mirrors s u)
    (items : Array Value) (args : List Value) :
    indexOf u (items.map r.value) (args.map r.value) = indexOf s items args := by
  simp only [indexOf, Renaming.argument_value, h.relativePosition, Array.size_map,
    Array.toList_map, ← List.map_drop, List.findIdx?_map, Function.comp_def,
    Renaming.strictEquals_value]

omit hP hcall in
theorem ArrayMethod.slice_value {r : Renaming} {s u : Store} (h : r.Mirrors s u)
    (items : Array Value) (args : List Value) :
    slice u (items.map r.value) (args.map r.value) = (slice s items args).map r.value := by
  simp only [slice, Renaming.argument_value, h.relativePosition, Array.size_map, Array.map_extract]

theorem ArrayMethod.twins_run (a : Address) (m : Method) {args : List Value}
    (hargs : ∀ v ∈ args, P.places.Visible v) : P.Twins (ArrayMethod.run call a m args)
      (ArrayMethod.run call' (P.places.arrays a) m (args.map P.places.value)) := by
  have hvisit := ArrayMethod.twins_visitAll? hP hcall a (Renaming.visible_argument _ hargs 0)
  rw [← Renaming.argument_value] at hvisit
  unfold ArrayMethod.run
  split
  · refine .value hP fun s u hs => ⟨trivial, ?_⟩
    have hmirrors := hP.mirrors hs
    rw [hmirrors.joinArray, separator_value hmirrors]
    rfl
  · refine .value hP fun s u hs => ⟨trivial, ?_⟩
    rw [(hP.mirrors hs).joinArray]
    rfl
  · refine .bind hP (.change fun s u hs => hP.modifyArray a hs (fun items hitems v hv => ?_)
      fun items => by simp) fun _ _ => .value hP fun s u hs => ⟨trivial, ?_⟩
    · rcases Array.mem_append.mp hv with hv | hv
      · exact hitems v hv
      · exact hargs v (List.mem_toArray.mp hv)
    · rw [(hP.mirrors hs).elements, Array.size_map]
      rfl
  · refine .read fun s u hs => ?_
    have hmirrors := hP.mirrors hs
    rw [hmirrors.elements, Array.back?_map]
    refine .bind hP (.change fun s u hs => hP.modifyArray a hs
      (fun items hitems v hv => hitems v (mem_of_mem_pop hv)) fun items => Array.map_pop.symm)
      fun _ _ => ?_
    cases hlast : (s.elements a).back? with
    | none => exact .pure hP (a := Value.undefined) trivial
    | some v => exact .pure hP (hmirrors.visibleElements a v (Array.mem_of_getElem? hlast))
  · refine .value hP fun s u hs => ⟨trivial, ?_⟩
    have hmirrors := hP.mirrors hs
    rw [hmirrors.elements, indexOf_value hmirrors]
    rfl
  · refine .value hP fun s u hs => ⟨trivial, ?_⟩
    rw [(hP.mirrors hs).elements, Array.any_map, Renaming.argument_value]
    simp only [Function.comp_def, Renaming.sameValue_value]
    rfl
  · refine .read fun s u hs => ?_
    have hmirrors := hP.mirrors hs
    rw [hmirrors.elements, slice_value hmirrors]
    refine twins_addArray hP fun _ _ _ => ⟨fun v hv => ?_, rfl⟩
    exact hmirrors.visibleElements a v (mem_of_mem_extract hv)
  · exact .bind hP hvisit fun _ _ => .pure hP (a := Value.undefined) trivial
  · refine .bind hP hvisit fun visited hvisited => twins_addArray hP fun _ _ _ => ⟨fun v hv => ?_, ?_⟩
    · obtain ⟨p, hp, rfl⟩ := List.mem_map.mp (List.mem_toArray.mp hv)
      exact (hvisited p hp).2
    · change (List.map _ (List.map _ visited)).toArray = _
      simp [Function.comp_def, Renamable.rename]
  · refine .bind hP hvisit fun visited hvisited => twins_addArray hP fun _ _ _ => ⟨fun v hv => ?_, ?_⟩
    · obtain ⟨p, hp, rfl⟩ := List.mem_map.mp (List.mem_toArray.mp hv)
      exact (hvisited p (List.mem_of_mem_filter hp)).1
    · change (List.map _ (List.filter _ (List.map _ visited))).toArray = _
      simp [Function.comp_def, Renamable.rename, List.filter_map]
  · exact .fail hP rfl

namespace TextMethod

section

omit hP hcall

variable {r : Renaming} {s u : Store} (h : r.Mirrors s u) (args : List Value)

include h

theorem wanted_value : wanted u (args.map r.value) = wanted s args := by
  rw [wanted, wanted, Renaming.argument_value, h.text]

theorem position_value (length default : Nat) :
    position u (args.map r.value) length default = position s args length default := by
  rw [position, position, Renaming.argument_value, h.clampedPosition]

theorem search_value (cs : List Char) : search u cs (args.map r.value) = search s cs args := by
  rw [search, search, wanted_value h, position_value h]

theorem slice_value (cs : List Char) : slice u cs (args.map r.value) = slice s cs args := by
  simp only [slice, Renaming.argument_value, h.relativePosition]

theorem charAt_value (cs : List Char) : charAt u cs (args.map r.value) = charAt s cs args := by
  simp only [charAt, Renaming.argument_value, h.whole]

theorem repeated_value (t : String) : repeated u t (args.map r.value) = repeated s t args := by
  simp only [repeated, Renaming.argument_value, h.whole]

omit h in
theorem isOfCode_repeated {t : String} {e : RenderError} (h : repeated s t args = .error e) :
    e.isOfCode = false := by
  unfold repeated at h
  split at h
  · cases h
    rfl
  · cases h
    rfl
  · split at h
    · cases h
      rfl
    · split at h
      · cases h
      · split at h <;> cases h
        rfl

theorem limit?_value : limit? u (args.map r.value) = limit? s args := by
  have hwhole := h.whole (argument args 1)
  rw [limit?, limit?, Renaming.argument_value]
  generalize argument args 1 = v at hwhole ⊢
  cases v with
  | undefined => rfl
  | _ =>
    simp only [Renaming.value] at hwhole ⊢
    rw [hwhole]

theorem split_value (t : String) : split u t (args.map r.value) = split s t args := by
  have htext := h.text (argument args 0)
  rw [split, split, Renaming.argument_value, limit?_value h]
  generalize argument args 0 = v at htext ⊢
  cases v with
  | undefined => rfl
  | _ =>
    simp only [Renaming.value] at htext ⊢
    rw [htext]

end

theorem twins_replace (t : String) {args : List Value} (hargs : ∀ v ∈ args, P.places.Visible v) :
    P.Twins (replace call t args) (replace call' t (args.map P.places.value)) := by
  have hvisible := Renaming.visible_argument _ hargs 1
  unfold replace
  refine .read fun s u hs => ?_
  rw [wanted_value (hP.mirrors hs), Renaming.argument_value, Renaming.isCallable_value]
  dsimp only
  split
  · exact .pure hP (a := Value.string t) trivial
  · split
    · rename_i i _ _
      have hlist : ∀ v ∈ ([.string (String.ofList (wanted s args)), .number (Decimal.ofNat i),
          .string t] : List Value), P.places.Visible v := List.forall_mem_cons.mpr
            ⟨trivial, List.forall_mem_cons.mpr ⟨trivial, List.forall_mem_singleton.mpr trivial⟩⟩
      simp only [pure_bind]
      exact .bind hP (hcall _ _ hvisible hlist) fun result _ =>
        .bind hP (twins_text hP result) fun text _ => .pure hP (a := Value.string _) trivial
    · simp only [pure_bind]
      exact .bind hP (twins_text hP _) fun text _ => .pure hP (a := Value.string _) trivial

theorem twins_run (t : String) (m : Method) {args : List Value}
    (hargs : ∀ v ∈ args, P.places.Visible v) :
    P.Twins (TextMethod.run call t m args) (TextMethod.run call' t m (args.map P.places.value)) := by
  unfold TextMethod.run
  dsimp only
  split
  · exact .pure hP (a := Value.string _) trivial
  · exact .pure hP (a := Value.string _) trivial
  · exact .pure hP (a := Value.string _) trivial
  · exact .pure hP (a := Value.string _) trivial
  · refine .value hP fun s u hs => ⟨trivial, ?_⟩
    rw [search_value (hP.mirrors hs)]
    rfl
  · refine .value hP fun s u hs => ⟨trivial, ?_⟩
    rw [search_value (hP.mirrors hs)]
    rfl
  · refine .value hP fun s u hs => ⟨trivial, ?_⟩
    rw [wanted_value (hP.mirrors hs), position_value (hP.mirrors hs)]
    rfl
  · refine .value hP fun s u hs => ⟨trivial, ?_⟩
    rw [wanted_value (hP.mirrors hs), position_value (hP.mirrors hs)]
    rfl
  · refine .value hP fun s u hs => ⟨trivial, ?_⟩
    rw [slice_value (hP.mirrors hs)]
    rfl
  · refine .value hP fun s u hs => ⟨trivial, ?_⟩
    rw [charAt_value (hP.mirrors hs)]
    rfl
  · refine .read fun s u hs => ?_
    rw [repeated_value (hP.mirrors hs)]
    split
    · exact .pure hP (a := Value.string _) trivial
    · rename_i herror
      exact .fail hP (isOfCode_repeated _ herror)
  · refine .read fun s u hs => ?_
    rw [split_value (hP.mirrors hs)]
    refine ArrayMethod.twins_addArray hP fun _ _ _ => ⟨fun v hv => ?_, ?_⟩
    · obtain ⟨part, -, rfl⟩ := List.mem_map.mp (List.mem_toArray.mp hv)
      exact trivial
    · simp [Function.comp_def, Renaming.value]
  · exact twins_replace hP hcall t hargs
  · exact .fail hP rfl

end TextMethod

omit hP hcall in
theorem NumberMethod.run_value {r : Renaming} {s u : Store} (h : r.Mirrors s u) (x : Float)
    (m : Method) (args : List Value) :
    NumberMethod.run u x m (args.map r.value) = NumberMethod.run s x m args := by
  have hfixed : toFixed u x (args.map r.value) = toFixed s x args := by
    simp only [toFixed, Renaming.argument_value, h.whole]
  have htext : toText u x (args.map r.value) = toText s x args := by
    have hwhole := h.whole (argument args 0)
    rw [toText, toText, Renaming.argument_value]
    generalize argument args 0 = v at hwhole ⊢
    cases v with
    | undefined => rfl
    | _ =>
      simp only [Renaming.value] at hwhole ⊢
      rw [hwhole]
  simp only [NumberMethod.run, hfixed, htext]

omit hP hcall in
theorem NumberMethod.visible_run {s : Store} {x : Float} {m : Method}
    {args : List Value} {v : Value} (h : NumberMethod.run s x m args = .ok v) :
    ∃ t, v = .string t := by
  unfold NumberMethod.run at h
  split at h
  · cases hfixed : toFixed s x args <;> rw [hfixed] at h <;> cases h
    exact ⟨_, rfl⟩
  · cases htext : toText s x args <;> rw [htext] at h <;> cases h
    exact ⟨_, rfl⟩
  · cases h

omit hP hcall in
theorem NumberMethod.isOfCode_run {s : Store} {x : Float} {m : Method} {args : List Value}
    {e : RenderError} (h : NumberMethod.run s x m args = .error e) : e.isOfCode = false := by
  unfold NumberMethod.run at h
  split at h
  · cases hfixed : toFixed s x args with
    | ok t => rw [hfixed] at h; cases h
    | error e' =>
      rw [hfixed] at h
      cases h
      unfold toFixed at hfixed
      split at hfixed
      · split at hfixed
        · cases hfixed
          rfl
        · split at hfixed
          · split at hfixed <;> cases hfixed
          · cases hfixed
      · cases hfixed
        rfl
  · cases htext : toText s x args with
    | ok t => rw [htext] at h; cases h
    | error e' =>
      rw [htext] at h
      cases h
      unfold toText at htext
      split at htext
      · cases htext
      · split at htext
        · split at htext <;> cases htext
          rfl
        · cases htext
          rfl
  · cases h
    rfl

theorem BoundMethod.twins_run (bound : BoundMethod) (hbound : P.places.Visible bound.receiver)
    {args : List Value} (hargs : ∀ v ∈ args, P.places.Visible v) :
    P.Twins (bound.run call args) ((P.places.method bound).run call' (args.map P.places.value)) := by
  obtain ⟨receiver, m⟩ := bound
  cases receiver with
  | string t => exact TextMethod.twins_run hP hcall t m hargs
  | array a => exact ArrayMethod.twins_run hP hcall a m hargs
  | number x =>
    refine .read fun s u hs => ?_
    dsimp only [Renaming.method]
    rw [NumberMethod.run_value (hP.mirrors hs)]
    split
    · rename_i v hv
      obtain ⟨t, rfl⟩ := NumberMethod.visible_run hv
      exact .pure hP (a := Value.string t) trivial
    · rename_i herror
      exact .fail hP (NumberMethod.isOfCode_run herror)
  | boolean b => exact .pure hP (a := Value.string _) trivial
  | _ => exact .fail hP rfl

theorem Builtin.twins_visitFields {callback owner : Value} (hcallback : P.places.Visible callback)
    (howner : P.places.Visible owner) {fields : Fields Value}
    (hfields : ∀ p ∈ fields, P.places.Visible p.2) :
    P.Twins (visitFields (call callback) owner fields)
      (visitFields (call' (P.places.value callback)) (P.places.value owner)
        (P.places.fields fields)) := by
  induction fields with
  | nil => exact .pure hP (a := ()) trivial
  | cons p fields ih =>
    obtain ⟨hp, hmore⟩ := List.forall_mem_cons.mp hfields
    have hargs : ∀ v ∈ [p.2, .string p.1, owner], P.places.Visible v :=
      List.forall_mem_cons.mpr ⟨hp, List.forall_mem_cons.mpr
        ⟨trivial, List.forall_mem_singleton.mpr howner⟩⟩
    exact .bind hP (hcall _ _ hcallback hargs) fun _ _ => ih hmore

theorem Builtin.twins_visitEach {list callback : Value} (hlist : P.places.Visible list)
    (hcallback : P.places.Visible callback) : P.Twins (visitEach call list callback)
      (visitEach call' (P.places.value list) (P.places.value callback)) := by
  unfold visitEach
  rw [Renaming.isCallable_value]
  split
  · cases list with
    | array a =>
      exact .bind hP (ArrayMethod.twins_visitAll hP hcall a hcallback) fun _ _ =>
        .pure hP (a := ()) trivial
    | object a =>
      refine .read fun s u hs => ?_
      have hmirrors := hP.mirrors hs
      rw [hmirrors.fields a hlist]
      exact twins_visitFields hP hcall hcallback hlist (hmirrors.visibleFields a hlist)
    | _ => exact .pure hP (a := ()) trivial
  · exact twins_failText hP _ fun _ => rfl

omit hP hcall in
theorem Store.indentation_value (r : Renaming) (v : Value) :
    Store.indentation (r.value v) = Store.indentation v := by
  cases v <;> rfl

omit hP hcall in
theorem Store.eq_circular_of_json {s : Store} {i : Indentation} {more : Nat} {writing : List Value}
    {v : Value} {e : RenderError} (h : s.jsonWithin i more writing v = .error e) : e = .circular := by
  induction more generalizing writing v with
  | zero => cases v <;> cases h <;> rfl
  | succ more ih =>
    cases v with
    | array a =>
      rw [jsonWithin] at h
      split at h
      · cases h
        rfl
      · obtain ⟨parts, hparts, hwrap⟩ | hparts := bind_error h
        · cases hwrap
        · obtain ⟨x, -, hx⟩ := mapM_error hparts
          obtain ⟨text, -, hpure⟩ | hx := bind_error hx
          · cases hpure
          · exact ih hx
    | object a =>
      rw [jsonWithin] at h
      split at h
      · cases h
        rfl
      · obtain ⟨parts, hparts, hwrap⟩ | hparts := bind_error h
        · cases hwrap
        · obtain ⟨x, -, hx⟩ := mapM_error hparts
          obtain ⟨text, -, hpure⟩ | hx := bind_error hx
          · cases hpure
          · exact ih hx
    | _ => cases h

theorem Builtin.alike_run {s u : Store} {c : Context} {b : Builtin} {args : List Value} (hs : P.Holds s u)
    (hb : P.PassesCall s c (.builtin b)) (hargs : ∀ v ∈ args, P.places.Visible v) :
    P.Alike s u (Builtin.run call c.output b args)
      (Builtin.run call' c.output b (args.map P.places.value)) := by
  have hfirst := Renaming.visible_argument _ hargs 0
  have hsecond := Renaming.visible_argument _ hargs 1
  unfold Builtin.run
  simp only [Renaming.argument_value, Store.indentation_value, List.head?_map, Option.map_map]
  split
  · have hmoves := hP.print (s.joinValues "" args) hs hb
    refine .change hP ?_ (.pure hP ?_ (a := Value.undefined) trivial)
    all_goals rw [(hP.mirrors hs).joinValues]
    · exact hmoves
    · exact hmoves.holds
  · refine Twins.value hP (fun s u hs => ⟨trivial, ?_⟩) s u hs
    rw [(hP.mirrors hs).escaped]
    rfl
  · refine Twins.bind hP (twins_visitEach hP hcall hfirst hsecond) (fun _ _ => ?_) s u hs
    exact .pure hP hfirst
  · refine Twins.value hP (fun s u hs => ⟨trivial, ?_⟩) s u hs
    simp only [Function.comp_def, (hP.mirrors hs).text]
    rfl
  · refine Twins.value hP (fun s u hs => ⟨trivial, ?_⟩) s u hs
    simp only [Function.comp_def, (hP.mirrors hs).number]
    rfl
  · refine .read ?_
    rw [(hP.mirrors hs).json _ hfirst]
    split
    · rename_i text _
      cases text with
      | none => exact .pure hP hs (a := Value.undefined) trivial
      | some t => exact .pure hP hs (a := Value.string t) trivial
    · rename_i herror
      refine .fail hP hs ?_
      rw [Store.eq_circular_of_json herror]
      rfl

end Methods

end Microtemplate.Script
