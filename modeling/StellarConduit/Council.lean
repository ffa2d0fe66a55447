import StellarConduit.Soroban.Contract

/-!
# The admin council

Every contract of the protocol stores an `AdminCouncil`, accepts it under the
same test in `initialize`, and three of them gate their privileged entry points
by the same loop over its members.  The loop asks `require_auth` of one member
after the other, counts, and stops as soon as `threshold` members have passed;
because `require_auth` traps, a member that did not authorise the call ends it.

`returns_countCouncilAuth` says what that amounts to: the loop passes exactly
when the *first* `threshold` entries of the member list have all authorised.

The sources have a copy of the type, of the test and of the loop in each contract.  The copies
agree, so there is one definition here, generic in the world and in the errors; each contract
has its own gate, which loads the council from its own storage and calls the loop.  After the
loop the sources compare the count with the threshold once more and panic with "Insufficient
approvals" where it is smaller; for a council that was accepted the loop has either trapped
before or counted enough.
-/

namespace StellarConduit

open Soroban Contract

/-- A multi-signature admin council requiring threshold approvals. -/
structure AdminCouncil (Address : Type) where
  /-- The council member addresses. -/
  members : List Address
  /-- The minimum number of members required to authorise a sensitive action. -/
  threshold : U32
deriving DecidableEq

namespace AdminCouncil

variable {Address : Type}

/-- The test under which every `initialize` answers `InvalidCouncilConfig`. -/
def Invalid (council : AdminCouncil Address) : Prop :=
  council.threshold = 0 ∨ (council.members.length : Int) < council.threshold.val

instance (council : AdminCouncil Address) : Decidable council.Invalid :=
  inferInstanceAs (Decidable (_ ∨ _))

/-- What an accepted council satisfies: a positive threshold, not above the
number of list entries. -/
theorem not_invalid_iff {council : AdminCouncil Address} :
    ¬ council.Invalid ↔
      0 < council.threshold.val ∧ council.threshold.val ≤ council.members.length := by
  have lower := (MachineInt.u32_bounds council.threshold).1
  have zero : council.threshold = 0 ↔ council.threshold.val = 0 := by
    rw [MachineInt.ext_iff, MachineInt.val_zero]
  unfold Invalid
  rw [zero]
  omega

end AdminCouncil

section Gate

variable {Address X σ η ε : Type} {env : Env Address X} {w w' : World σ X η}

/-- The loop of `require_council_auth`, from a count of `authorized`. -/
def countCouncilAuth (env : Env Address X) (threshold : U32) :
    List Address → U32 → Contract (World σ X η) ε U32
  | [], authorized => pure authorized
  | member :: rest, authorized => do
      requireAuth env member
      let authorized ← plus authorized 1
      if authorized ≥ threshold then pure authorized
      else countCouncilAuth env threshold rest authorized

/-- The body of `require_council_auth`, once the council is at hand. -/
def requireAuthOfCouncil (env : Env Address X) (council : AdminCouncil Address) :
    Contract (World σ X η) ε Unit := do
  let authorized ← countCouncilAuth env council.threshold council.members 0
  if authorized < council.threshold then trap (.panic "Insufficient approvals")
  else pure ()

/-- The loop has no effect. -/
theorem countCouncilAuth_world {threshold : U32} {members : List Address} {authorized n : U32}
    (h : Returns (countCouncilAuth (ε := ε) env threshold members authorized) w n w') : w' = w := by
  induction members generalizing authorized w with
  | nil => exact (returns_pure.mp h).2
  | cons member rest ih =>
      simp only [countCouncilAuth, returns_bind, returns_requireAuth, returns_plus] at h
      obtain ⟨_, _, ⟨-, rfl⟩, next, _, ⟨-, rfl⟩, h⟩ := h
      split at h
      · exact (returns_pure.mp h).2
      · exact ih h

/-- The gate has no effect. -/
theorem requireAuthOfCouncil_world {council : AdminCouncil Address} {u : Unit}
    (h : Returns (requireAuthOfCouncil (ε := ε) env council) w u w') : w' = w := by
  simp only [requireAuthOfCouncil, returns_bind] at h
  obtain ⟨n, w'', hcount, h⟩ := h
  have hw := countCouncilAuth_world hcount
  split at h
  · exact absurd h returns_trap
  · rw [(returns_pure.mp h).2, hw]

/-- The loop passes exactly when the entries it visits have all authorised; it
visits as many as are missing to the threshold, if the list has that many. -/
theorem returns_countCouncilAuth {threshold : U32} {members : List Address}
    {authorized n : U32} (below : authorized.val < threshold.val) :
    Returns (countCouncilAuth (ε := ε) env threshold members authorized) w n w' ↔
      (∀ m ∈ members.take (threshold.val - authorized.val).toNat, env.authorised m = true) ∧
        n.val = min threshold.val (authorized.val + members.length) ∧ w' = w := by
  induction members generalizing authorized w with
  | nil =>
      have count : n = authorized ↔ n.val = authorized.val := MachineInt.ext_iff
      simp only [countCouncilAuth, returns_pure, List.take_nil, List.not_mem_nil, List.length_nil,
        count]
      simp only [IsEmpty.forall_iff, implies_true, Nat.cast_zero, add_zero, true_and,
        and_congr_left_iff]
      omega
  | cons member rest ih =>
      obtain ⟨gap, hgap⟩ : ∃ gap, (threshold.val - authorized.val).toNat = gap + 1 :=
        ⟨(threshold.val - authorized.val).toNat - 1, by omega⟩
      obtain ⟨next, hnext, hval⟩ : ∃ next : U32,
          MachineInt.checked (authorized.val + 1) = some next ∧ next.val = authorized.val + 1 :=
        MachineInt.exists_checked (by have := authorized.min_le; omega)
          (by have := threshold.le_max; omega)
      have one : (1 : U32).val = 1 := rfl
      have step : ∀ k : U32, k.val = authorized.val + (1 : U32).val ↔ k = next := fun k => by
        rw [one, ← hval, ← MachineInt.ext_iff]
      simp only [countCouncilAuth, returns_bind, returns_requireAuth, returns_plus, step, hgap,
        List.take_succ_cons, List.forall_mem_cons, List.length_cons]
      by_cases reached : next ≥ threshold
      · -- The threshold is met: the loop breaks after this member.
        have hval' : threshold.val ≤ next.val := reached
        have count : n = next ↔ n.val = next.val := MachineInt.ext_iff
        have hgap' : gap = 0 := by omega
        subst hgap'
        simp only [↓existsAndEq, and_true, and_self, ge_iff_le, reached, ↓reduceIte, returns_pure,
          count, true_and, exists_const, List.take_zero, List.not_mem_nil, IsEmpty.forall_iff,
          implies_true, Nat.cast_add, Nat.cast_one, and_congr_right_iff, and_congr_left_iff]
        intro _ _
        omega
      · have hval' : next.val < threshold.val := not_le.mp (by simpa using reached)
        have hgap' : (threshold.val - next.val).toNat = gap := by omega
        have hlen : next.val + (rest.length : Int) =
            authorized.val + ((rest.length + 1 : ℕ) : Int) := by
          push_cast
          omega
        have remaining := ih (w := w) hval'
        rw [hgap', hlen] at remaining
        simp [reached, remaining, and_assoc]

/-- The gate passes exactly when the first `threshold` entries of the member
list have all authorised the call. -/
theorem returns_requireAuthOfCouncil {council : AdminCouncil Address} {u : Unit}
    (accepted : ¬ council.Invalid) :
    Returns (requireAuthOfCouncil (ε := ε) env council) w u w' ↔
      (∀ m ∈ council.members.take council.threshold.val.toNat, env.authorised m = true) ∧
        w' = w := by
  obtain ⟨positive, enough⟩ := AdminCouncil.not_invalid_iff.mp accepted
  have zero : (0 : U32).val = 0 := MachineInt.val_zero
  have loop (n : U32) (w'' : World σ X η) :
      Returns (countCouncilAuth (ε := ε) env council.threshold council.members 0) w n w'' ↔
        (∀ m ∈ council.members.take council.threshold.val.toNat, env.authorised m = true) ∧
          n.val = min council.threshold.val council.members.length ∧ w'' = w := by
    rw [returns_countCouncilAuth (by omega), zero, sub_zero, zero_add]
  simp only [requireAuthOfCouncil, returns_bind, loop]
  constructor
  · rintro ⟨n, _, ⟨auth, hn, rfl⟩, h⟩
    have reached : ¬ n < council.threshold := by
      rw [MachineInt.lt_iff_val]
      omega
    rw [if_neg reached, returns_pure] at h
    exact ⟨auth, h.2⟩
  · rintro ⟨auth, rfl⟩
    refine ⟨council.threshold, w', ⟨auth, by omega, rfl⟩, ?_⟩
    rw [if_neg (by rw [MachineInt.lt_iff_val]; omega)]
    exact returns_pure.mpr ⟨rfl, rfl⟩

end Gate
end StellarConduit
