import StellarConduit.Soroban.Store
import Mathlib.Data.Set.Function

/-!
# Two stores in step

Two contracts may keep a record each of one and the same event, under keys of their
own.  `Matched φ s t P Q R` says that this has gone well so far: `φ` takes the keys of
the records of `s` with the property `P` one to one to those of the records of `t` with
the property `Q`, and records under corresponding keys are related by `R`.

The properties single out the records that count.  A store may hold others, which have no
counterpart: entries of another kind, or records of events that concern one contract alone.
Which key corresponds to which is given by a function rather than by a relation, so that the
invariant has to be told, when a record is added on both sides, where the new key goes; it is
told by changing the function at that one key.

What the invariant is for is the last rule.  Sums over stores are finite sums over keys, and a
bijection between the keys that count, with related records, makes two of them equal.

* `Matched.append` — a record is added on either side, and the two are related.
* `Matched.append_left`, `Matched.append_right` — a record that does not count is added
  on one side.
* `Matched.sum_eq` — the totals over the records that count agree.
-/

namespace Soroban

variable {K K' V V' M : Type*}

/-- The keys of the records with the property `P`. -/
def Store.selected (s : Store K V) (P : V → Prop) : Set K := {k | ∃ v, s.get k = some v ∧ P v}

/-- A key is selected if its record has the property. -/
theorem Store.mem_selected {s : Store K V} {P : V → Prop} {k : K} :
    k ∈ s.selected P ↔ ∃ v, s.get k = some v ∧ P v := Iff.rfl

section Selected

variable [DecidableEq K] {s : Store K V} {P : V → Prop} {k : K} {v : V}

/-- A new record with the property is selected. -/
theorem Store.selected_set (h : s.get k = none) (hv : P v) :
    (s.set k v).selected P = insert k (s.selected P) := by
  ext j
  rw [Set.mem_insert_iff]
  by_cases hj : j = k
  · subst hj
    exact iff_of_true ⟨v, Store.get_set_self s j v, hv⟩ (Or.inl rfl)
  · simp only [Store.mem_selected, Store.get_set_of_ne s v hj, hj, false_or]

/-- A new record without the property is not selected. -/
theorem Store.selected_set_of_not (h : s.get k = none) (hv : ¬ P v) :
    (s.set k v).selected P = s.selected P := by
  ext j
  by_cases hj : j = k
  · subst hj
    simp [Store.mem_selected, h, hv]
  · simp only [Store.mem_selected, Store.get_set_of_ne s v hj]

omit [DecidableEq K] in
/-- Without a record there is nothing to select. -/
theorem Store.notMem_selected_of_none (h : s.get k = none) : k ∉ s.selected P := by
  rintro ⟨v, hv, -⟩
  rw [h] at hv
  cases hv

end Selected

/-- The records with `P` and those with `Q` correspond one to one, and are related. -/
structure Matched (φ : K → K') (s : Store K V) (t : Store K' V') (P : V → Prop) (Q : V' → Prop)
    (R : V → V' → Prop) : Prop where
  /-- The keys that count correspond. -/
  bijOn : Set.BijOn φ (s.selected P) (t.selected Q)
  /-- So do their records. -/
  related : ∀ k v v', s.get k = some v → P v → t.get (φ k) = some v' → R v v'

namespace Matched

variable {φ : K → K'} {s : Store K V} {t : Store K' V'} {P : V → Prop} {Q : V' → Prop}
  {R : V → V' → Prop} {k : K} {k' : K'} {v : V} {v' : V'}

/-- There is nothing to match in empty stores. -/
theorem empty (φ : K → K') : Matched φ (Store.empty : Store K V) (Store.empty : Store K' V')
    P Q R where
  bijOn := by
    have left : (Store.empty : Store K V).selected P = ∅ := by simp [Store.selected]
    have right : (Store.empty : Store K' V').selected Q = ∅ := by simp [Store.selected]
    rw [left, right]
    exact Set.bijOn_empty φ
  related := by simp

/-- The partner of a record that counts is not a key without a record. -/
theorem partner_ne (h : Matched φ s t P Q R) (hk : s.get k = some v) (hv : P v)
    (hk' : t.get k' = none) : φ k ≠ k' := by
  rintro rfl
  have partner : φ k ∈ t.selected Q := h.bijOn.mapsTo ⟨v, hk, hv⟩
  exact Store.notMem_selected_of_none hk' partner

/-- Two new records that are related continue the correspondence. -/
theorem append [DecidableEq K] [DecidableEq K'] (h : Matched φ s t P Q R) (hk : s.get k = none)
    (hk' : t.get k' = none) (hv : P v) (hv' : Q v') (hR : R v v') :
    Matched (Function.update φ k k') (s.set k v) (t.set k' v') P Q R where
  bijOn := by
    have new : Function.update φ k k' k = k' := Function.update_self k k' φ
    have old : Set.EqOn φ (Function.update φ k k') (s.selected P) := by
      intro j hj
      refine (Function.update_of_ne ?_ k' φ).symm
      rintro rfl
      exact Store.notMem_selected_of_none hk hj
    have bij := (h.bijOn.congr old).insert (a := k) (by
      rw [new]
      exact Store.notMem_selected_of_none hk')
    rw [Store.selected_set hk hv, Store.selected_set hk' hv']
    rwa [new] at bij
  related := by
    intro j u u' hj hu hu'
    by_cases hjk : j = k
    · subst hjk
      rw [Function.update_self, Store.get_set_self] at hu'
      rw [Store.get_set_self] at hj
      obtain rfl := Option.some.inj hj
      obtain rfl := Option.some.inj hu'
      exact hR
    · rw [Store.get_set_of_ne s v hjk] at hj
      rw [Function.update_of_ne hjk] at hu'
      -- The old record keeps its partner, which is not the new one.
      rw [Store.get_set_of_ne t v' (h.partner_ne hj hu hk')] at hu'
      exact h.related j u u' hj hu hu'

/-- A new record that does not count, on the left. -/
theorem append_left [DecidableEq K] (h : Matched φ s t P Q R) (hk : s.get k = none)
    (hv : ¬ P v) : Matched φ (s.set k v) t P Q R where
  bijOn := by
    rw [Store.selected_set_of_not hk hv]
    exact h.bijOn
  related := by
    intro j u u' hj hu hu'
    rw [Store.get_set] at hj
    split at hj
    · obtain rfl := Option.some.inj hj
      exact absurd hu hv
    · exact h.related j u u' hj hu hu'

/-- A new record that does not count, on the right. -/
theorem append_right [DecidableEq K'] (h : Matched φ s t P Q R) (hk' : t.get k' = none)
    (hv' : ¬ Q v') : Matched φ s (t.set k' v') P Q R where
  bijOn := by
    rw [Store.selected_set_of_not hk' hv']
    exact h.bijOn
  related := by
    intro j u u' hj hu hu'
    rw [Store.get_set_of_ne t v' (h.partner_ne hj hu hk')] at hu'
    exact h.related j u u' hj hu hu'

/-- Records in step have the same total. -/
theorem sum_eq [AddCommMonoid M] (h : Matched φ s t P Q R) {f : K → V → M} {g : K' → V' → M}
    (hf : ∀ k v, s.get k = some v → ¬ P v → f k v = 0)
    (hg : ∀ k' v', t.get k' = some v' → ¬ Q v' → g k' v' = 0)
    (same : ∀ k v v', P v → Q v' → R v v' → f k v = g (φ k) v') : s.sum f = t.sum g := by
  -- A share that is not zero is that of a record that counts.
  have left (k : K) (hk : s.term f k ≠ 0) : k ∈ s.selected P := by
    cases hv : s.get k with
    | none => exact absurd (Store.term_of_get_none f hv) hk
    | some v =>
        rw [Store.term_of_get f hv] at hk
        exact ⟨v, hv, not_not.mp fun hP => hk (hf k v hv hP)⟩
  have right (k' : K') (hk' : t.term g k' ≠ 0) : k' ∈ t.selected Q := by
    cases hv' : t.get k' with
    | none => exact absurd (Store.term_of_get_none g hv') hk'
    | some v' =>
        rw [Store.term_of_get g hv'] at hk'
        exact ⟨v', hv', not_not.mp fun hQ => hk' (hg k' v' hv' hQ)⟩
  have share (k : K) (hk : k ∈ s.selected P) : s.term f k = t.term g (φ k) := by
    obtain ⟨v', hv', hQ⟩ := h.bijOn.mapsTo hk
    obtain ⟨v, hv, hP⟩ := hk
    rw [Store.term_of_get f hv, Store.term_of_get g hv']
    exact same k v v' hP hQ (h.related k v v' hv hP hv')
  refine Finset.sum_bij_ne_zero (fun k _ _ => φ k) ?mem ?inj ?surj ?eq
  case mem =>
    intro k _ hk
    obtain ⟨v', hv', -⟩ := h.bijOn.mapsTo (left k hk)
    rw [t.mem_keys, hv']
    rfl
  case inj =>
    intro j _ hj k _ hk
    exact h.bijOn.injOn (left j hj) (left k hk)
  case surj =>
    intro k' _ hk'
    obtain ⟨k, hk, rfl⟩ := h.bijOn.surjOn (right k' hk')
    refine ⟨k, ?_, ?_, rfl⟩
    · obtain ⟨v, hv, -⟩ := hk
      rw [s.mem_keys, hv]
      rfl
    · rw [share k hk]
      exact hk'
  case eq =>
    intro k _ hk
    exact share k (left k hk)

end Matched
end Soroban
