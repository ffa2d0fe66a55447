import StellarConduit.Soroban.MachineInt
import StellarConduit.Soroban.Store

/-!
# Numbered records

A contract that appends records keeps a counter and stores the `n`-th record
under the key `n`, counting from one.  `Records store count log` says that this
is what a store holds: `log`, and nothing else.  `Numbered store count` says it of the
keys alone, for records that are rewritten after they were appended.

The counter is a machine integer and the log is a list, so the log is bounded by the type of the
counter; that another record fits is a hypothesis of appending, and a contract has it from the
addition that has not failed.  The keys of a numbered store are the numbers from one to the
counter, none left out.
-/

namespace Soroban

variable {V : Type}

/-- The store holds exactly the records of `log`, under the keys `1..count`. -/
structure Records (store : Store U64 V) (count : U64) (log : List V) : Prop where
  /-- The counter is the length of the log. -/
  length : (log.length : Int) = count.val
  /-- The `n`-th record is under the key `n`. -/
  get : ∀ id : U64, store.get id = if 0 < id.val then log[(id.val - 1).toNat]? else none

namespace Records

variable {store store' : Store U64 V} {count count' : U64} {log log' : List V}

/-- Nothing is recorded at the start. -/
theorem empty : Records (Store.empty : Store U64 V) 0 [] where
  length := by simp
  get := by simp

/-- Appending a record keeps the numbering. -/
theorem append (h : Records store count log) {nextId : U64} (hnext : nextId.val = count.val + 1)
    (v : V) : Records (store.set nextId v) nextId (log ++ [v]) where
  length := by
    have := h.length
    simp only [List.length_append, List.length_cons, List.length_nil, zero_add, Nat.cast_add,
      Nat.cast_one]
    omega
  get id := by
    have length := h.length
    rw [Store.get_set, h.get]
    by_cases hid : id = nextId
    · -- The new key is the position after the last.
      subst hid
      have last : (id.val - 1).toNat = log.length := by omega
      rw [if_pos rfl, if_pos (by omega), last, List.getElem?_concat_length]
    · have hval : id.val ≠ nextId.val := fun hval => hid (MachineInt.ext hval)
      rw [if_neg hid]
      split
      · by_cases inside : (id.val - 1).toNat < log.length
        · rw [List.getElem?_append_left inside]
        · rw [List.getElem?_eq_none (by omega), List.getElem?_eq_none (by simp; omega)]
      · rfl

/-- A record that is stored stays under its key when the log grows. -/
theorem get_of_prefix (h : Records store count log) (h' : Records store' count' log')
    (hlog : log <+: log') {id : U64} {v : V} (hv : store.get id = some v) :
    store'.get id = some v := by
  rw [h.get] at hv
  rw [h'.get]
  split at hv
  · rename_i positive
    obtain ⟨tail, rfl⟩ := hlog
    obtain ⟨inside, -⟩ := List.getElem?_eq_some_iff.mp hv
    rw [if_pos positive, List.getElem?_append_left inside, hv]
  · cases hv

end Records

/-- The keys of the store are exactly `1..count`. -/
def Numbered (store : Store U64 V) (count : U64) : Prop :=
  ∀ id : U64, (store.get id).isSome ↔ 0 < id.val ∧ id.val ≤ count.val

namespace Numbered

variable {store : Store U64 V} {count nextId id : U64} {v v' : V}

/-- Nothing is numbered at the start. -/
theorem empty : Numbered (Store.empty : Store U64 V) 0 := by
  intro id
  have zero : (0 : U64).val = 0 := MachineInt.val_zero
  rw [Store.get_empty, zero]
  exact iff_of_false nofun fun h => absurd h.1 (not_lt.mpr h.2)

/-- Nothing is stored under the next key. -/
theorem fresh (h : Numbered store count) (hnext : nextId.val = count.val + 1) :
    store.get nextId = none := by
  rw [← Option.not_isSome_iff_eq_none, h nextId]
  rintro ⟨-, hle⟩
  omega

/-- Appending a record under the next key keeps the numbering. -/
theorem append (h : Numbered store count) (hnext : nextId.val = count.val + 1) (v : V) :
    Numbered (store.set nextId v) nextId := by
  have lower := (MachineInt.u64_bounds count).1
  intro id
  rw [Store.get_set]
  split
  · rename_i hid
    subst hid
    exact iff_of_true rfl ⟨by omega, le_refl _⟩
  · rename_i hid
    have hval : id.val ≠ nextId.val := fun hval => hid (MachineInt.ext hval)
    rw [h id]
    omega

/-- Rewriting a record keeps the numbering. -/
theorem rewrite (h : Numbered store count) (hv : store.get id = some v) (v' : V) :
    Numbered (store.set id v') count := by
  intro j
  rw [Store.get_set]
  split
  · rename_i hj
    subst hj
    have stored : (store.get j).isSome := Option.isSome_iff_exists.mpr ⟨v, hv⟩
    exact iff_of_true rfl ((h j).mp stored)
  · exact h j

end Numbered
end Soroban
