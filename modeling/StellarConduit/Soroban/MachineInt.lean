import Mathlib.Algebra.Order.Ring.Int
import Mathlib.Tactic.Positivity

/-!
# Machine integers with checked arithmetic

A Rust integer type is a range of mathematical integers.  `MachineInt t` carries
a value together with the proof that it lies in the range of `t`, so a value
that a register could not hold cannot be built, and every fact about the
operations is a fact about `Int`.

* `checked` — the one gate from `Int` into a range: `none` outside it.
* `checkedAdd`, `checkedSub`, `checkedMul`, `checkedDiv` — Rust's `checked_*`
  family, each the exact operation passed through `checked`.
* `wrap` — reduction modulo the size of the range; `cast` is Rust's `as`.

`checked_eq_some_iff` is what makes proofs short: a checked operation that
returns `some c` has returned the exact integer, and nothing about the bounds
has to be carried along, because `c` carries them.
-/

namespace Soroban

/-- A Rust integer type: signed (`i`) or unsigned (`u`), and its width. -/
structure IntType where
  signed : Bool
  bits : ℕ
deriving DecidableEq, Repr

namespace IntType

/-- The least value of the type. -/
def min (t : IntType) : Int := if t.signed then -(2 ^ (t.bits - 1)) else 0

/-- The greatest value of the type. -/
def max (t : IntType) : Int := if t.signed then 2 ^ (t.bits - 1) - 1 else 2 ^ t.bits - 1

/-- The integer `x` is a value of the type. -/
def Contains (t : IntType) (x : Int) : Prop := t.min ≤ x ∧ x ≤ t.max

instance (t : IntType) (x : Int) : Decidable (t.Contains x) := inferInstanceAs (Decidable (_ ∧ _))

/-- `0` belongs to every integer type. -/
theorem zero_mem (t : IntType) : t.min ≤ 0 ∧ 0 ≤ t.max := by
  have half : (0 : Int) < 2 ^ (t.bits - 1) := by positivity
  have full : (0 : Int) < 2 ^ t.bits := by positivity
  unfold min max
  split <;> omega

end IntType

/-- A value of the integer type `t`. -/
@[ext]
structure MachineInt (t : IntType) where
  val : Int
  min_le : t.min ≤ val
  le_max : val ≤ t.max
deriving DecidableEq

/-- Rust's `u32`. -/
abbrev U32 := MachineInt ⟨false, 32⟩

/-- Rust's `u64`. -/
abbrev U64 := MachineInt ⟨false, 64⟩

/-- Rust's `i128`. -/
abbrev I128 := MachineInt ⟨true, 128⟩

namespace MachineInt

variable {s t : IntType}

instance : Repr (MachineInt t) := ⟨fun a _ => repr a.val⟩

instance : LE (MachineInt t) := ⟨fun a b => a.val ≤ b.val⟩

instance : LT (MachineInt t) := ⟨fun a b => a.val < b.val⟩

instance : DecidableLE (MachineInt t) := fun a b => inferInstanceAs (Decidable (a.val ≤ b.val))

instance : DecidableLT (MachineInt t) := fun a b => inferInstanceAs (Decidable (a.val < b.val))

/-- Machine integers are compared by their values. -/
@[simp] theorem le_iff_val {a b : MachineInt t} : a ≤ b ↔ a.val ≤ b.val := Iff.rfl

/-- So they are strictly. -/
@[simp] theorem lt_iff_val {a b : MachineInt t} : a < b ↔ a.val < b.val := Iff.rfl

/-- The integers of the type are the values of its machine integers. -/
theorem contains_iff {x : Int} : t.Contains x ↔ ∃ a : MachineInt t, a.val = x := by
  constructor
  · rintro ⟨lower, upper⟩
    exact ⟨⟨x, lower, upper⟩, rfl⟩
  · rintro ⟨a, rfl⟩
    exact ⟨a.min_le, a.le_max⟩

/-! ## Wrapping and casts -/

/-- Reduce an integer into the range of `t`, modulo the size of the range. -/
def wrap (x : Int) : MachineInt t where
  val := t.min + (x - t.min) % (t.max - t.min + 1)
  min_le := by
    have size := t.zero_mem
    have := Int.emod_nonneg (x - t.min) (show t.max - t.min + 1 ≠ 0 by omega)
    omega
  le_max := by
    have size := t.zero_mem
    have := Int.emod_lt_of_pos (x - t.min) (show 0 < t.max - t.min + 1 by omega)
    omega

/-- An integer already in range is not moved by `wrap`. -/
theorem wrap_val {x : Int} (lower : t.min ≤ x) (upper : x ≤ t.max) :
    (wrap x : MachineInt t).val = x := by
  have small : (x - t.min) % (t.max - t.min + 1) = x - t.min :=
    Int.emod_eq_of_lt (by omega) (by omega)
  simp only [wrap, small]
  omega

instance (n : ℕ) : OfNat (MachineInt t) n := ⟨wrap n⟩

/-- Zero is in the range of every type. -/
@[simp] theorem val_zero : (0 : MachineInt t).val = 0 :=
  wrap_val t.zero_mem.1 t.zero_mem.2

/-- What is positive is not zero. -/
theorem ne_zero_of_pos {a : MachineInt t} (positive : 0 < a.val) : a ≠ 0 := by
  rintro rfl
  rw [val_zero] at positive
  exact lt_irrefl _ positive

/-- Rust's `as`. -/
def cast (a : MachineInt s) : MachineInt t := wrap a.val

/-- A widening cast keeps the value. -/
theorem cast_val {a : MachineInt s} (lower : t.min ≤ s.min) (upper : s.max ≤ t.max) :
    (cast a : MachineInt t).val = a.val :=
  wrap_val (lower.trans a.min_le) (a.le_max.trans upper)

/-- Widening to `u64` keeps the value. -/
@[simp] theorem cast_u32_u64_val (a : U32) : (cast a : U64).val = a.val :=
  cast_val (by decide) (by decide)

/-- Widening to `i128` keeps the value. -/
@[simp] theorem cast_u32_i128_val (a : U32) : (cast a : I128).val = a.val :=
  cast_val (by decide) (by decide)

/-! ## Ranges as numerals -/

/-- The range of `u32`. -/
theorem u32_bounds (a : U32) : 0 ≤ a.val ∧ a.val ≤ 4294967295 := ⟨a.min_le, a.le_max⟩

/-- The range of `u64`. -/
theorem u64_bounds (a : U64) : 0 ≤ a.val ∧ a.val ≤ 18446744073709551615 := ⟨a.min_le, a.le_max⟩

/-! ## Checked arithmetic -/

/-- The value of type `t` with the integer value `x`, when there is one. -/
def checked (x : Int) : Option (MachineInt t) :=
  if h : t.min ≤ x ∧ x ≤ t.max then some ⟨x, h.1, h.2⟩ else none

/-- A checked result is the exact integer. -/
theorem checked_eq_some_iff {x : Int} {c : MachineInt t} : checked x = some c ↔ c.val = x := by
  unfold checked
  constructor
  · intro h
    split at h
    · cases h
      rfl
    · cases h
  · rintro rfl
    rw [dif_pos ⟨c.min_le, c.le_max⟩]

/-- An integer in range has a checked value. -/
theorem exists_checked {x : Int} (lower : t.min ≤ x) (upper : x ≤ t.max) :
    ∃ c : MachineInt t, checked x = some c ∧ c.val = x :=
  ⟨⟨x, lower, upper⟩, checked_eq_some_iff.mpr rfl, rfl⟩

/-- Rust's `checked_add`. -/
def checkedAdd (a b : MachineInt t) : Option (MachineInt t) := checked (a.val + b.val)

/-- Rust's `checked_sub`. -/
def checkedSub (a b : MachineInt t) : Option (MachineInt t) := checked (a.val - b.val)

/-- Rust's `checked_mul`. -/
def checkedMul (a b : MachineInt t) : Option (MachineInt t) := checked (a.val * b.val)

/-- Rust's `checked_div`: the quotient rounded toward zero, undefined at divisor
`0`. -/
def checkedDiv (a b : MachineInt t) : Option (MachineInt t) :=
  if b.val = 0 then none else checked (a.val.tdiv b.val)

/-- `checked_add` is the sum, when the type has it. -/
@[simp] theorem checkedAdd_eq_some_iff {a b c : MachineInt t} :
    a.checkedAdd b = some c ↔ c.val = a.val + b.val := checked_eq_some_iff

/-- Adding what is not negative can only leave the range at the top. -/
theorem exists_checkedAdd {a b : MachineInt t} (nonneg : 0 ≤ b.val)
    (upper : a.val + b.val ≤ t.max) : ∃ c, a.checkedAdd b = some c := by
  have least := a.min_le
  obtain ⟨c, hc⟩ := contains_iff.mp (show t.Contains (a.val + b.val) from ⟨by omega, upper⟩)
  exact ⟨c, checkedAdd_eq_some_iff.mpr hc⟩

/-- A sum above the range has no value. -/
theorem checkedAdd_eq_none {a b : MachineInt t} (large : t.max < a.val + b.val) :
    a.checkedAdd b = none := by
  rw [Option.eq_none_iff_forall_ne_some]
  intro c hc
  have sum := checkedAdd_eq_some_iff.mp hc
  have most := c.le_max
  omega

/-- A counter that cannot be increased is at its maximum. -/
theorem val_eq_max_of_full {n m : MachineInt t} (one : m.val = 1) (full : n.checkedAdd m = none) :
    n.val = t.max := by
  have most := n.le_max
  by_contra below
  obtain ⟨c, hc⟩ := exists_checkedAdd (a := n) (b := m) (by omega) (by omega)
  rw [full] at hc
  cases hc

/-- `checked_sub` is the difference, when the type has it. -/
@[simp] theorem checkedSub_eq_some_iff {a b c : MachineInt t} :
    a.checkedSub b = some c ↔ c.val = a.val - b.val := checked_eq_some_iff

/-- `checked_mul` is the product, when the type has it. -/
@[simp] theorem checkedMul_eq_some_iff {a b c : MachineInt t} :
    a.checkedMul b = some c ↔ c.val = a.val * b.val := checked_eq_some_iff

/-- `checked_div` is the quotient, rounded towards zero, of a divisor that is not zero, when the
type has it. -/
@[simp] theorem checkedDiv_eq_some_iff {a b c : MachineInt t} :
    a.checkedDiv b = some c ↔ b.val ≠ 0 ∧ c.val = a.val.tdiv b.val := by
  unfold checkedDiv
  split <;> simp_all [checked_eq_some_iff]

end MachineInt
end Soroban
