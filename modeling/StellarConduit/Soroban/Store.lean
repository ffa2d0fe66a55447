import Mathlib.Algebra.BigOperators.Group.Finset.Basic
import Mathlib.Algebra.Order.BigOperators.Group.Finset
import Mathlib.Algebra.Group.Int.Defs

/-!
# Keyed storage

A contract keeps one record per key: a partial function of which only finitely
many keys are set.  `Store K V` is that function together with the finite set of
its keys, and the field `mem_keys` ties the two, so a store whose key set is
wrong cannot be built and two stores with the same lookups are equal.

Lookup is by the function, so `get` of `set` and of `remove` is a case distinction on keys and
nothing has to be known about the order in which records were written.  The set of keys is there
for sums and for counting, which a function alone does not allow.

`sum` adds a quantity over all stored records.  What a proof about totals needs
is `sum_add_term`: two stores that differ in the share of one key differ by it in
the total; `sum_set` is the case of writing one record.
-/

namespace Soroban

/-- A finite partial map from keys to records. -/
structure Store (K V : Type*) where
  /-- The keys with a record. -/
  keys : Finset K
  /-- The record under a key, if there is one. -/
  get : K → Option V
  /-- A key is one with a record exactly if there is one. -/
  mem_keys : ∀ k, k ∈ keys ↔ (get k).isSome

namespace Store

variable {K V M : Type*}

/-- Stores are the same if their lookups are. -/
@[ext]
theorem ext {s s' : Store K V} (h : ∀ k, s.get k = s'.get k) : s = s' := by
  have hget : s.get = s'.get := funext h
  have hkeys : s.keys = s'.keys := by
    ext k
    rw [s.mem_keys, s'.mem_keys, h]
  cases s
  cases s'
  simp only at hget hkeys
  subst hget hkeys
  rfl

/-- The store with no records. -/
def empty : Store K V where
  keys := ∅
  get := fun _ => none
  mem_keys := by simp

instance : Inhabited (Store K V) := ⟨empty⟩

/-- Nothing is stored in an empty store. -/
@[simp] theorem get_empty (k : K) : (empty : Store K V).get k = none := rfl

variable [DecidableEq K]

/-- Write the record `v` under `k`, replacing what was there. -/
def set (s : Store K V) (k : K) (v : V) : Store K V where
  keys := insert k s.keys
  get := Function.update s.get k (some v)
  mem_keys := by
    intro j
    by_cases hj : j = k
    · subst hj
      simp
    · simp [hj, s.mem_keys]

/-- Delete the record under `k`. -/
def remove (s : Store K V) (k : K) : Store K V where
  keys := s.keys.erase k
  get := Function.update s.get k none
  mem_keys := by
    intro j
    by_cases hj : j = k
    · subst hj
      simp
    · simp [hj, s.mem_keys]

/-- A lookup after a write. -/
theorem get_set (s : Store K V) (k j : K) (v : V) :
    (s.set k v).get j = if j = k then some v else s.get j :=
  Function.update_apply _ _ _ _

/-- What is written is read. -/
@[simp] theorem get_set_self (s : Store K V) (k : K) (v : V) : (s.set k v).get k = some v := by
  simp [get_set]

/-- Writing leaves what is stored under other keys. -/
theorem get_set_of_ne (s : Store K V) {k j : K} (v : V) (h : j ≠ k) :
    (s.set k v).get j = s.get j := by
  simp [get_set, h]

/-- A lookup after a removal. -/
theorem get_remove (s : Store K V) (k j : K) :
    (s.remove k).get j = if j = k then none else s.get j :=
  Function.update_apply _ _ _ _

/-- What is removed is not there. -/
@[simp] theorem get_remove_self (s : Store K V) (k : K) : (s.remove k).get k = none := by
  simp [get_remove]

/-- Removing leaves what is stored under other keys. -/
theorem get_remove_of_ne (s : Store K V) {k j : K} (h : j ≠ k) :
    (s.remove k).get j = s.get j := by
  simp [get_remove, h]

/-- Writing a record under a new key adds one key. -/
theorem card_keys_set_of_none {s : Store K V} {k : K} (v : V) (h : s.get k = none) :
    (s.set k v).keys.card = s.keys.card + 1 :=
  Finset.card_insert_of_notMem (by simp [s.mem_keys, h])

/-- Rewriting a record keeps the keys. -/
theorem keys_set_of_get {s : Store K V} {k : K} {v : V} (v' : V) (h : s.get k = some v) :
    (s.set k v').keys = s.keys :=
  Finset.insert_eq_of_mem (by simp [s.mem_keys, h])

/-- Removing a key that is not set changes nothing. -/
theorem remove_of_get_none {s : Store K V} {k : K} (h : s.get k = none) : s.remove k = s := by
  ext1 j
  rw [get_remove]
  split
  · rename_i hj
    rw [hj, h]
  · rfl

/-! ## Totals over all records -/

section Sum

variable [AddCommMonoid M]

/-- The share of the key `k` in a total. -/
def term (s : Store K V) (f : K → V → M) (k : K) : M := (s.get k).elim 0 (f k)

/-- The total of `f` over all stored records. -/
def sum (s : Store K V) (f : K → V → M) : M := ∑ k ∈ s.keys, s.term f k

omit [DecidableEq K] in
/-- An empty store has an empty sum. -/
@[simp] theorem sum_empty (f : K → V → M) : (empty : Store K V).sum f = 0 := rfl

omit [DecidableEq K] in
/-- The share of a key with a record. -/
theorem term_of_get {s : Store K V} {k : K} {v : V} (f : K → V → M) (h : s.get k = some v) :
    s.term f k = f k v := by
  simp [term, h]

omit [DecidableEq K] in
/-- The share of a key without a record is nothing. -/
theorem term_of_get_none {s : Store K V} {k : K} (f : K → V → M) (h : s.get k = none) :
    s.term f k = 0 := by
  simp [term, h]

omit [DecidableEq K] in
/-- A total may be taken over any larger set of keys. -/
theorem sum_eq_of_subset (s : Store K V) (f : K → V → M) {keys : Finset K} (h : s.keys ⊆ keys) :
    s.sum f = ∑ k ∈ keys, s.term f k := by
  refine Finset.sum_subset h fun k _ hk => term_of_get_none f ?_
  rw [s.mem_keys] at hk
  simpa using hk

/-- Stores that differ in one key's share differ by it in the total. -/
theorem sum_add_term {s s' : Store K V} (f : K → V → M) (k : K)
    (others : ∀ j, j ≠ k → s'.term f j = s.term f j) :
    s'.sum f + s.term f k = s.sum f + s'.term f k := by
  have mem : k ∈ insert k (s.keys ∪ s'.keys) := Finset.mem_insert_self _ _
  have erase : ∑ j ∈ (insert k (s.keys ∪ s'.keys)).erase k, s'.term f j =
      ∑ j ∈ (insert k (s.keys ∪ s'.keys)).erase k, s.term f j :=
    Finset.sum_congr rfl fun j hj => others j (Finset.ne_of_mem_erase hj)
  rw [s.sum_eq_of_subset f (Finset.subset_union_left.trans (Finset.subset_insert _ _)),
    s'.sum_eq_of_subset f (Finset.subset_union_right.trans (Finset.subset_insert _ _)),
    ← Finset.add_sum_erase _ _ mem, ← Finset.add_sum_erase _ _ mem, erase]
  ac_rfl

omit [DecidableEq K] in
/-- Stores with the same shares have the same total. -/
theorem sum_congr_term {s s' : Store K V} (f : K → V → M) (h : ∀ j, s'.term f j = s.term f j) :
    s'.sum f = s.sum f := by
  classical
  calc s'.sum f = ∑ j ∈ s.keys ∪ s'.keys, s'.term f j :=
        s'.sum_eq_of_subset f Finset.subset_union_right
    _ = ∑ j ∈ s.keys ∪ s'.keys, s.term f j := Finset.sum_congr rfl fun j _ => h j
    _ = s.sum f := (s.sum_eq_of_subset f Finset.subset_union_left).symm

/-- Writing one record replaces that key's share and no other. -/
theorem sum_set (s : Store K V) (f : K → V → M) (k : K) (v : V) :
    (s.set k v).sum f + s.term f k = s.sum f + f k v := by
  rw [← term_of_get f (get_set_self s k v)]
  refine sum_add_term f k fun j hj => ?_
  rw [term, term, get_set_of_ne s v hj]

/-- Writing a record under a new key adds its share. -/
theorem sum_set_of_none {s : Store K V} {k : K} (f : K → V → M) (v : V) (h : s.get k = none) :
    (s.set k v).sum f = s.sum f + f k v := by
  rw [← sum_set, term_of_get_none f h, add_zero]

end Sum

section Order

variable [AddCommMonoid M] [PartialOrder M] [IsOrderedAddMonoid M]

omit [DecidableEq K] in
/-- A total of shares that are not negative is not negative. -/
theorem sum_nonneg {s : Store K V} {f : K → V → M} (h : ∀ k, 0 ≤ s.term f k) : 0 ≤ s.sum f :=
  Finset.sum_nonneg fun k _ => h k

omit [DecidableEq K] in
/-- No share exceeds a total of shares that are not negative. -/
theorem term_le_sum {s : Store K V} {f : K → V → M} (h : ∀ k, 0 ≤ s.term f k) (k : K) :
    s.term f k ≤ s.sum f := by
  by_cases hk : k ∈ s.keys
  · exact Finset.single_le_sum (fun j _ => h j) hk
  · rw [s.mem_keys, Bool.not_eq_true, Option.isSome_eq_false_iff, Option.isNone_iff_eq_none] at hk
    rw [term_of_get_none f hk]
    exact sum_nonneg h

end Order

end Store
end Soroban
