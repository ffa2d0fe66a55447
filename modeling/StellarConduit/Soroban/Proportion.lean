import Mathlib.Algebra.BigOperators.Group.List.Basic
import Mathlib.Algebra.Order.Ring.Int
import Mathlib.Tactic.Linarith

/-!
# Proportions in whole units

A proportion of an amount, rounded down, and the rest of the amount.  Over several
amounts the first loses by rounding and the second gains: one unit at most for every
amount beyond the first.  Both grow with the amount: the proportion because the product
does, the rest because the proportion grows by no more than the amount.

## Main results

* `proportion_mono`, `rest_le_rest` — a larger amount has a larger proportion and a larger
  rest.
* `sum_proportion_le` — the proportions of the parts are at most the proportion of the sum.
* `sum_rest_lt` — the rests of the parts exceed the rest of the sum by less than one unit
  for every part.
-/

namespace Soroban

/-- `numerator / denominator` of the amount, rounded down. -/
def proportion (numerator denominator amount : Int) : Int := amount * numerator / denominator

/-- What the proportion leaves of the amount. -/
def rest (numerator denominator amount : Int) : Int :=
  amount - proportion numerator denominator amount

variable {numerator numerator' denominator x y : Int}

/-- Of nothing the part is nothing. -/
@[simp] theorem proportion_zero : proportion numerator denominator 0 = 0 := by
  simp [proportion]

/-- The part and the rest are the whole. -/
theorem proportion_add_rest :
    proportion numerator denominator x + rest numerator denominator x = x :=
  add_sub_cancel _ _

/-! ## One amount -/

/-- The proportion is no more than the exact fraction. -/
theorem proportion_mul_le (positive : 0 < denominator) :
    proportion numerator denominator x * denominator ≤ x * numerator :=
  Int.ediv_mul_le _ positive.ne'

/-- It falls short of it by less than one unit. -/
theorem lt_proportion_add_one_mul (positive : 0 < denominator) :
    x * numerator < (proportion numerator denominator x + 1) * denominator :=
  Int.lt_ediv_add_one_mul_self _ positive

/-- A larger fraction of a larger amount. -/
theorem proportion_mono (positive : 0 < denominator) (nonneg : 0 ≤ numerator)
    (fractions : numerator ≤ numerator') (amount : 0 ≤ x) (amounts : x ≤ y) :
    proportion numerator denominator x ≤ proportion numerator' denominator y := by
  have product : x * numerator ≤ y * numerator' :=
    mul_le_mul amounts fractions nonneg (amount.trans amounts)
  exact Int.ediv_le_ediv positive product

/-- The rest grows with the amount, when the proportion is at most the whole. -/
theorem rest_le_rest (positive : 0 < denominator) (most : numerator ≤ denominator) (h : x ≤ y) :
    rest numerator denominator x ≤ rest numerator denominator y := by
  unfold rest proportion
  -- Between the two amounts the product grows by no more than the difference.
  have growth : y * numerator ≤ x * numerator + (y - x) * denominator := by
    have step := mul_le_mul_of_nonneg_left most (sub_nonneg.mpr h)
    linarith [sub_mul y x numerator]
  have quotient : y * numerator / denominator ≤ x * numerator / denominator + (y - x) := by
    calc y * numerator / denominator
        ≤ (x * numerator + (y - x) * denominator) / denominator :=
          Int.ediv_le_ediv positive growth
      _ = x * numerator / denominator + (y - x) :=
          Int.add_mul_ediv_right _ _ positive.ne'
  omega

/-! ## Several amounts -/

/-- Rounding a sum loses no more than rounding its summands. -/
theorem proportion_add_le (positive : 0 < denominator) :
    proportion numerator denominator x + proportion numerator denominator y ≤
      proportion numerator denominator (x + y) := by
  unfold proportion
  rw [add_mul]
  exact Int.ediv_add_ediv_le_add_ediv positive

/-- It loses less than one unit more. -/
theorem proportion_add_le_succ (positive : 0 < denominator) :
    proportion numerator denominator (x + y) ≤
      proportion numerator denominator x + proportion numerator denominator y + 1 := by
  unfold proportion
  rw [add_mul, Int.add_ediv_of_pos positive]
  split
  · exact le_rfl
  · omega

/-- The rest of a sum is at most one unit short of the rests. -/
theorem rest_add_le (positive : 0 < denominator) :
    rest numerator denominator x + rest numerator denominator y ≤
      rest numerator denominator (x + y) + 1 := by
  have rounding : proportion numerator denominator (x + y) ≤
      proportion numerator denominator x + proportion numerator denominator y + 1 :=
    proportion_add_le_succ positive
  unfold rest
  omega

/-- Taken apart, the parts are at most the part of the sum. -/
theorem sum_proportion_le (positive : 0 < denominator) (xs : List Int) :
    (xs.map (proportion numerator denominator)).sum ≤
      proportion numerator denominator xs.sum := by
  induction xs with
  | nil => simp
  | cons x xs ih =>
      rw [List.map_cons, List.sum_cons, List.sum_cons]
      have first : proportion numerator denominator x + proportion numerator denominator xs.sum ≤
          proportion numerator denominator (x + xs.sum) := proportion_add_le positive
      omega

/-- Rounding the summands gains less than one unit for each of them. -/
theorem sum_rest_lt (positive : 0 < denominator) {xs : List Int} (nonempty : xs ≠ []) :
    (xs.map (rest numerator denominator)).sum < rest numerator denominator xs.sum + xs.length := by
  induction xs with
  | nil => exact absurd rfl nonempty
  | cons x xs ih =>
      cases xs with
      | nil => simp
      | cons y xs =>
          have later := ih (List.cons_ne_nil y xs)
          have first : rest numerator denominator x + rest numerator denominator (y :: xs).sum ≤
              rest numerator denominator (x + (y :: xs).sum) + 1 := rest_add_le positive
          rw [List.map_cons, List.sum_cons, List.sum_cons, List.length_cons]
          push_cast
          omega

end Soroban
