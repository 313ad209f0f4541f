import Microtemplate.Json.Reader
import Microtemplate.Proofs.Decimal.Shortest

/-!
JSON data. All numbers of what a reader gives are finite doubles, since it refuses those beyond the
largest one, and the names of its objects differ, since a later value takes the place of an earlier
one.
-/

namespace Microtemplate

theorem Fields.nodup_names_ofPairs {α : Type} (pairs : List (String × α)) :
    (Fields.ofPairs pairs).names.Nodup := by
  have hfold : ∀ (pairs : List (String × α)) (fields : Fields α), fields.names.Nodup →
      (pairs.foldl (fun fields p => fields.set p.1 p.2) fields).names.Nodup := by
    intro pairs
    induction pairs with
    | nil => exact fun _ h => h
    | cons p pairs ih =>
      intro fields h
      refine ih _ ?_
      rw [names_set]
      split
      · exact h
      · next hnew => exact List.nodup_append.mpr ⟨h, List.nodup_singleton _,
          fun _ ha _ hb heq => hnew (List.mem_singleton.mp hb ▸ heq ▸ ha)⟩
  exact hfold pairs [] List.nodup_nil

theorem Fields.mem_set {α : Type} {fields : Fields α} {name : String} {value : α} {p : String × α}
    (h : p ∈ fields.set name value) : p ∈ fields ∨ p.2 = value := by
  induction fields with
  | nil => exact .inr (by rw [List.mem_singleton.mp h])
  | cons q rest ih =>
    rw [set] at h
    split at h
    · rcases List.mem_cons.mp h with rfl | hrest
      · exact .inr rfl
      · exact .inl (List.mem_cons_of_mem _ hrest)
    · rcases List.mem_cons.mp h with rfl | hrest
      · exact .inl List.mem_cons_self
      · exact (ih hrest).imp_left (List.mem_cons_of_mem _)

/-- Each field stands for one of the pairs. -/
theorem Fields.mem_ofPairs {α : Type} {pairs : List (String × α)} {p : String × α}
    (h : p ∈ Fields.ofPairs pairs) : ∃ q ∈ pairs, q.2 = p.2 := by
  have hfold : ∀ (pairs : List (String × α)) (fields : Fields α),
      p ∈ pairs.foldl (fun fields p => fields.set p.1 p.2) fields →
      p ∈ fields ∨ ∃ q ∈ pairs, q.2 = p.2 := by
    intro pairs
    induction pairs with
    | nil => exact fun _ h => .inl h
    | cons q pairs ih =>
      intro fields h
      rcases ih _ h with hset | ⟨q', hq', hvalue⟩
      · exact (mem_set hset).imp_right fun hvalue => ⟨q, List.mem_cons_self, hvalue.symm⟩
      · exact .inr ⟨q', List.mem_cons_of_mem _ hq', hvalue⟩
  exact (hfold pairs [] h).resolve_left List.not_mem_nil

namespace Decimal

theorem finite_signed {bits : Nat} (h : bits < 0x7FF0000000000000) (negative : Bool) :
    ∃ m e, Binary.ofFloat (signed negative bits) = .finite negative m e := by
  obtain ⟨all, hall, hlt, hexponent, hsign⟩ : ∃ all,
      (if negative then bits + Nat.pow 2 63 else bits) = all ∧ all < UInt64.size ∧
        all / Nat.pow 2 52 % Nat.pow 2 11 ≠ 2047 ∧ (all / Nat.pow 2 63 == 1) = negative := by
    refine ⟨_, rfl, ?_⟩
    simp only [Nat.pow_eq, UInt64.size]
    cases negative
    · simp only [Bool.false_eq_true, if_false, beq_eq_false_iff_ne]
      omega
    · simp only [if_true, beq_iff_eq]
      omega
  have htoNat := UInt64.toNat_ofNat_of_lt' hlt
  have hbits : (signed negative bits).toBits.toNat = all := by
    rw [signed, hall, toBits_ofBits (by rw [htoNat]; exact .inl hexponent), htoNat]
  simp only [Binary.ofFloat, hbits, if_neg hexponent, hsign]
  split <;> exact ⟨_, _, rfl⟩

/-- A numeral is infinite or finite. -/
theorem Numeral.finite_of_ne_infinity {n : Numeral} {negative : Bool}
    (h : n.toFloat negative ≠ infinity negative) :
    ∃ m e, Binary.ofFloat (n.toFloat negative) = .finite negative m e := by
  obtain ⟨bits, hle, hbits⟩ := n.toFloat_signed
  rw [hbits] at h ⊢
  refine finite_signed (Nat.lt_of_le_of_ne hle fun heq => h ?_) negative
  rw [heq]
  cases negative <;> rfl

theorem scaleOf_whole {n : Nat} (hn : 0 < n) (h : n < 2 ^ 64) :
    (n.log2 : Int) - 53 ≤ scaleOf n 1 ∧ scaleOf n 1 ≤ 11 := by
  have hlog : n.log2 < 64 := (Nat.log2_lt hn.ne').mpr h
  simp only [scaleOf, show Nat.log2 1 = 0 from rfl]
  split <;> omega

theorem nearestBits_whole_lt {n : Nat} (hn : 0 < n) (h : n < 2 ^ 64) :
    nearestBits n 1 < 0x7FF0000000000000 := by
  obtain ⟨hlower, hupper⟩ := scaleOf_whole hn h
  have hquotient : n * 2 ^ (-scaleOf n 1).toNat / (1 * 2 ^ (scaleOf n 1).toNat) < 2 ^ 54 := by
    rw [one_mul, Nat.div_lt_iff_lt_mul (Nat.pow_pos (by decide)), ← pow_add]
    calc n * 2 ^ (-scaleOf n 1).toNat < 2 ^ (n.log2 + 1) * 2 ^ (-scaleOf n 1).toNat :=
          Nat.mul_lt_mul_of_pos_right Nat.lt_log2_self (Nat.pow_pos (by decide))
      _ ≤ 2 ^ (54 + (scaleOf n 1).toNat) := by
          rw [← pow_add]
          exact Nat.pow_le_pow_right (by decide) (by omega)
  have hround : ∀ num den, roundToEven num den ≤ num / den + 1 := by
    intro num den
    rw [roundToEven]
    split
    · omega
    · split <;> omega
  have hsignificand := hround (n * 2 ^ (-scaleOf n 1).toNat) (1 * 2 ^ (scaleOf n 1).toNat)
  simp only [nearestBits, Nat.pow_eq] at hsignificand ⊢
  refine Nat.lt_of_le_of_lt (Nat.min_le_left _ _) ?_
  generalize roundToEven _ _ = significand at hsignificand ⊢
  split <;> omega

theorem finite_ofInt {i : Int} (h : i.natAbs < 2 ^ 64) :
    ∃ m e, Binary.ofFloat (ofInt i) = .finite (decide (i < 0)) m e := by
  have hbits : (if i.natAbs = 0 then 0 else nearestBits i.natAbs 1) < 0x7FF0000000000000 := by
    split
    · decide
    · next hne => exact nearestBits_whole_lt (Nat.pos_of_ne_zero hne) h
  exact finite_signed hbits _

end Decimal

namespace Json

/-- JSON data: numbers are finite doubles, and the names of an object differ. -/
inductive Proper : Json → Prop
  | null : Proper .null
  | boolean (b : Bool) : Proper (.boolean b)
  | string (s : String) : Proper (.string s)
  | number {n : JsonNumber} {negative : Bool} {m : Nat} {e : Int}
      (h : Decimal.Binary.ofFloat n.toFloat = .finite negative m e) : Proper (.number n)
  | array {items : List Json} (h : ∀ j ∈ items, Proper j) : Proper (.array items)
  | object {fields : List (String × Json)} (hnames : (fields.map Prod.fst).Nodup)
      (h : ∀ p ∈ fields, Proper p.2) : Proper (.object fields)

namespace Reader

theorem unsigned?_finite {negative : Bool} {cs rest : List Char} {n : JsonNumber}
    (h : unsigned? negative cs = some (n, rest)) :
    ∃ sign m e, Decimal.Binary.ofFloat n.toFloat = .finite sign m e := by
  obtain ⟨⟨whole, afterWhole⟩, -, h⟩ := Option.bind_eq_some_iff.mp h
  obtain ⟨⟨fraction, afterFraction⟩, -, h⟩ := Option.bind_eq_some_iff.mp h
  obtain ⟨⟨power, afterPower⟩, -, h⟩ := Option.bind_eq_some_iff.mp h
  obtain ⟨hwhole, h⟩ | ⟨-, h⟩ := ite_eq_iff.mp h
  · cases h
    have hlimit : Decimal.figuresValue whole < 2 ^ 64 := by
      cases negative <;> simp only [Bool.and_eq_true, decide_eq_true_eq, Nat.pow_eq, if_true,
        Bool.false_eq_true, if_false] at hwhole <;> omega
    refine ⟨_, Decimal.finite_ofInt ?_⟩
    cases negative <;> simpa using hlimit
  · obtain ⟨-, h⟩ | ⟨hne, h⟩ := ite_eq_iff.mp h
    · cases h
    · cases h
      exact ⟨negative, Decimal.Numeral.finite_of_ne_infinity hne⟩

theorem number?_finite {cs rest : List Char} {n : JsonNumber} (h : number? cs = some (n, rest)) :
    ∃ sign m e, Decimal.Binary.ofFloat n.toFloat = .finite sign m e := by
  rw [number?.eq_def] at h
  split at h <;> exact unsigned?_finite h

theorem scalar?_proper {cs rest : List Char} {j : Json} (h : scalar? cs = some (j, rest)) :
    j.Proper := by
  rw [scalar?.eq_def] at h
  split at h <;> obtain ⟨p, hp, heq⟩ := Option.map_eq_some_iff.mp h <;> cases heq
  · exact .string _
  · exact .null
  · exact .boolean _
  · exact .boolean _
  · obtain ⟨sign, m, e, hn⟩ := number?_finite hp
    exact .number hn

section

variable {value : ValueReader} (hvalue : ∀ cs j rest, value cs = some (j, rest) → j.Proper)

include hvalue

theorem items?_proper {bound : Nat} {cs rest : List Char} {items : List Json}
    (h : items? value bound cs = some (items, rest)) : ∀ j ∈ items, j.Proper := by
  induction bound generalizing cs items with
  | zero => cases h
  | succ bound ih =>
    rw [items?] at h
    obtain ⟨⟨item, left⟩, hitem, h⟩ := Option.bind_eq_some_iff.mp h
    have hproper := hvalue _ _ _ hitem
    simp only at h
    split at h
    · obtain ⟨⟨more, after⟩, hmore, h⟩ := Option.bind_eq_some_iff.mp h
      cases h
      exact List.forall_mem_cons.mpr ⟨hproper, ih hmore⟩
    · cases h
      exact List.forall_mem_singleton.mpr hproper
    · cases h

theorem pair?_proper {cs rest : List Char} {p : String × Json}
    (h : pair? value cs = some (p, rest)) :
    p.2.Proper := by
  rw [pair?] at h
  split at h
  · obtain ⟨⟨name, left⟩, -, h⟩ := Option.bind_eq_some_iff.mp h
    simp only at h
    split at h
    · obtain ⟨⟨j, after⟩, hj, h⟩ := Option.bind_eq_some_iff.mp h
      cases h
      exact hvalue _ _ _ hj
    · cases h
  · cases h

theorem pairs?_proper {bound : Nat} {cs rest : List Char} {pairs : List (String × Json)}
    (h : pairs? value bound cs = some (pairs, rest)) : ∀ p ∈ pairs, p.2.Proper := by
  induction bound generalizing cs pairs with
  | zero => cases h
  | succ bound ih =>
    rw [pairs?] at h
    obtain ⟨⟨p, left⟩, hp, h⟩ := Option.bind_eq_some_iff.mp h
    have hproper := pair?_proper hvalue hp
    simp only at h
    split at h
    · obtain ⟨⟨more, after⟩, hmore, h⟩ := Option.bind_eq_some_iff.mp h
      cases h
      exact List.forall_mem_cons.mpr ⟨hproper, ih hmore⟩
    · cases h
      exact List.forall_mem_singleton.mpr hproper
    · cases h

end

theorem value?_proper {levels : Nat} {cs rest : List Char} {j : Json}
    (h : value? levels cs = some (j, rest)) : j.Proper := by
  induction levels generalizing cs rest j with
  | zero =>
    rw [value?] at h
    split at h
    · cases h
    · cases h
    · exact scalar?_proper h
  | succ levels ih =>
    rw [value?] at h
    split at h
    · split at h
      · cases h
        exact .array (by simp)
      · obtain ⟨p, hp, heq⟩ := Option.map_eq_some_iff.mp h
        cases heq
        exact .array (items?_proper (fun _ _ _ hj => ih hj) hp)
    · split at h
      · cases h
        exact .object List.nodup_nil (by simp)
      · obtain ⟨p, hp, heq⟩ := Option.map_eq_some_iff.mp h
        cases heq
        refine .object (Fields.nodup_names_ofPairs _) fun q hq => ?_
        obtain ⟨r, hr, hvalue⟩ := Fields.mem_ofPairs hq
        exact hvalue ▸ pairs?_proper (fun _ _ _ hj => ih hj) hp r hr
    · exact scalar?_proper h

end Reader

/-- What a text is read as is JSON data. -/
theorem proper_of_ofText? {cs : List Char} {j : Json} (h : ofText? cs = some j) : j.Proper := by
  rw [ofText?] at h
  obtain ⟨⟨item, rest⟩, hp, hrest⟩ := Option.bind_eq_some_iff.mp h
  obtain ⟨-, hrest⟩ | ⟨-, hrest⟩ := ite_eq_iff.mp hrest
  · cases hrest
    exact Reader.value?_proper hp
  · cases hrest

end Json

end Microtemplate
