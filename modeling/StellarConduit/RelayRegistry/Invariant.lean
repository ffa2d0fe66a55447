import StellarConduit.RelayRegistry.Transition

/-!
# The representation invariant of the registry

A node's status is never recomputed from its stake: `stake` only promotes,
`unstake` only demotes, `slash` and `reinstate_node` set it outright.  That it
agrees with the stake all the same is part of an invariant of the storage, and
the part does not stand on its own: `unstake` keeps it because the node was
active, `reinstate_node` because a slashed node has no stake and the minimum is
positive.

The invariant is for a configuration that is fixed, so it holds from an accepted `initialize` on
and not before.  A node that has registered before, without stake, is in order under whatever
minimum is set then; one that could stake before, with the token already set, has been promoted
by a minimum of zero and need not be.  The runs here start from the initialized registry of a
deployment.

A pending entry is the record of an amount that is owed, under the key of its node, whose record
exists; a slashed node has none.  So there is never an amount owed to somebody who is not, or is
no longer, a node in good standing.

## Main definitions

* `NodeInvariant` — a node's status agrees with its stake and its pending entry.

## Main results

* `Invariant` — the invariant, for the configuration fixed at initialization.
* `invariant_run` — it holds in every state reached after initialization.
* `registry_wellFormed` — what it says about nodes, lock entries and
  `is_active`.
-/

namespace StellarConduit.RelayRegistry

open Soroban Contract

variable {Address X : Type}

/-- What holds of a stored node, given the minimum stake and the lock entry
stored beside it. -/
structure NodeInvariant (minStake : I128) (node : RelayNode Address)
    (entry : Option (StakeEntry Address)) : Prop where
  /-- A stake is not negative. -/
  stake_nonneg : 0 ≤ node.stake.val
  /-- The active nodes are those with the minimum stake. -/
  active_iff : node.status = .active ↔ minStake.val ≤ node.stake.val
  /-- A slashed node has nothing, staked or pending. -/
  slashed : node.status = .slashed → node.stake.val = 0 ∧ entry = none

/-! ## One node -/

section Nodes

variable {minStake newStake : I128} {node : RelayNode Address}
  {entry : Option (StakeEntry Address)} {now : U64}

/-- A stake promotes at the minimum; below it the node was not active before
either. -/
theorem NodeInvariant.staked (inv : NodeInvariant minStake node entry)
    (hstatus : node.status ≠ .slashed) (hnew : node.stake.val ≤ newStake.val) :
    NodeInvariant minStake (node.staked minStake newStake now) entry where
  stake_nonneg := le_trans inv.stake_nonneg hnew
  active_iff := by
    simp only [RelayNode.staked, ge_iff_le, MachineInt.le_iff_val]
    split
    · rename_i enough
      exact iff_of_true rfl enough
    · rename_i short
      rw [inv.active_iff]
      omega
  slashed := by
    simp only [RelayNode.staked]
    split
    · exact nofun
    · exact fun hslashed => absurd hslashed hstatus

/-- An unstake demotes below the minimum; at the minimum the node stays active, as
it was. -/
theorem NodeInvariant.unstaked (hactive : node.status = .active) (hnew : 0 ≤ newStake.val) :
    NodeInvariant minStake (node.unstaked minStake newStake now) entry where
  stake_nonneg := hnew
  active_iff := by
    simp only [RelayNode.unstaked, MachineInt.lt_iff_val, hactive]
    split
    · rename_i short
      exact iff_of_false nofun (not_le.mpr short)
    · rename_i enough
      exact iff_of_true rfl (not_lt.mp enough)
  slashed := by
    simp only [RelayNode.unstaked, hactive]
    split <;> exact nofun

/-- A slash takes the stake and the lock entry. -/
theorem NodeInvariant.afterSlash (hmin : 0 < minStake.val) :
    NodeInvariant minStake (node.afterSlash now) none where
  stake_nonneg := le_of_eq MachineInt.val_zero.symm
  active_iff := by
    refine iff_of_false nofun ?_
    rw [RelayNode.afterSlash, MachineInt.val_zero]
    exact not_le.mpr hmin
  slashed _ := ⟨MachineInt.val_zero, rfl⟩

/-- A slashed node has no stake, so reinstatement leaves it below the minimum. -/
theorem NodeInvariant.afterReinstatement (inv : NodeInvariant minStake node entry)
    (hslashed : node.status = .slashed) (hmin : 0 < minStake.val) :
    NodeInvariant minStake (node.afterReinstatement now) entry where
  stake_nonneg := inv.stake_nonneg
  active_iff := by
    have hzero := (inv.slashed hslashed).1
    refine iff_of_false nofun ?_
    rw [RelayNode.afterReinstatement, hzero]
    exact not_le.mpr hmin
  slashed := nofun

end Nodes

/-! ## The storage -/

/-- What holds of the storage of a registry initialized with `council`,
`minStake` and `stakeLockPeriod`. -/
structure Invariant (council : AdminCouncil Address) (minStake : I128) (stakeLockPeriod : U32)
    (s : Storage Address) : Prop where
  /-- The council, -/
  adminCouncil : s.adminCouncil = some council
  /-- the minimum stake, -/
  minStake_eq : s.minStake = some minStake
  /-- which is positive, -/
  minStake_pos : 0 < minStake.val
  /-- and the lock period are those that were set. -/
  stakeLockPeriod : s.stakeLockPeriod = some stakeLockPeriod
  /-- Every node is in order. -/
  node : ∀ a n, s.relayNode.get a = some n → NodeInvariant minStake n (s.lockEntry.get a)
  /-- A pending entry is a positive amount of a node. -/
  entry : ∀ a e, s.lockEntry.get a = some e →
    (s.relayNode.get a).isSome ∧ e.address = a ∧ 0 < e.amount.val

/-- The world of a freshly deployed registry. -/
def freshState (x : X) : State Address X where
  storage := Storage.fresh
  outside := x
  events := []

/-- The world of a freshly deployed registry after a successful `initialize`. -/
def initialState (council : AdminCouncil Address) (minStake : I128) (stakeLockPeriod : U32)
    (x : X) : State Address X where
  storage := { (Storage.fresh : Storage Address) with
    adminCouncil := some council
    minStake := some minStake
    stakeLockPeriod := some stakeLockPeriod
    nodeCount := some 0 }
  outside := x
  events := []

variable {council : AdminCouncil Address} {minStake : I128} {stakeLockPeriod : U32}

/-- `initialize` on a fresh deployment, as one equivalence. -/
theorem returns_initializeContract_freshState {x : X} {w : State Address X} {u : Unit} :
    Returns (initializeContract council minStake stakeLockPeriod) (freshState x) u w ↔
      0 < minStake.val ∧ stakeLockPeriod ≠ 0 ∧ ¬ council.Invalid ∧
        w = initialState council minStake stakeLockPeriod x := by
  rw [returns_initializeContract]
  exact and_iff_right rfl

/-- Initialization establishes the invariant. -/
theorem invariant_initializeContract {x : X} {w : State Address X} {u : Unit}
    (h : Returns (initializeContract council minStake stakeLockPeriod) (freshState x) u w) :
    Invariant council minStake stakeLockPeriod w.storage := by
  obtain ⟨hpos, -, -, rfl⟩ := returns_initializeContract_freshState.mp h
  exact
    { adminCouncil := rfl
      minStake_eq := rfl
      minStake_pos := hpos
      stakeLockPeriod := rfl
      node := by simp [initialState, Storage.fresh]
      entry := by simp [initialState, Storage.fresh] }

/-- Setting the token address keeps the invariant. -/
theorem invariant_provide {p : Provision Address} {s : Storage Address}
    (inv : Invariant council minStake stakeLockPeriod s) :
    Invariant council minStake stakeLockPeriod (provide p s) := by
  cases p
  exact ⟨inv.adminCouncil, inv.minStake_eq, inv.minStake_pos, inv.stakeLockPeriod, inv.node,
    inv.entry⟩

section Steps

variable [DecidableEq Address] {s : Storage Address}

/-- Rewriting one node's two records keeps the invariant, when the new records
satisfy it together. -/
theorem Invariant.update (inv : Invariant council minStake stakeLockPeriod s) (a : Address)
    (n : RelayNode Address) {lock : Store Address (StakeEntry Address)} {count : Option U32}
    (others : ∀ b, b ≠ a → lock.get b = s.lockEntry.get b)
    (hnode : NodeInvariant minStake n (lock.get a))
    (hentry : ∀ e, lock.get a = some e → e.address = a ∧ 0 < e.amount.val) :
    Invariant council minStake stakeLockPeriod
      { s with relayNode := s.relayNode.set a n, lockEntry := lock, nodeCount := count } where
  adminCouncil := inv.adminCouncil
  minStake_eq := inv.minStake_eq
  minStake_pos := inv.minStake_pos
  stakeLockPeriod := inv.stakeLockPeriod
  node b m hb := by
    by_cases hba : b = a
    · subst hba
      rw [Store.get_set_self] at hb
      cases hb
      exact hnode
    · rw [Store.get_set_of_ne _ _ hba] at hb
      simpa only [others b hba] using inv.node b m hb
  entry b e hb := by
    by_cases hba : b = a
    · subst hba
      exact ⟨by simp, hentry e hb⟩
    · simp only [others b hba] at hb
      simpa only [Store.get_set_of_ne _ _ hba] using inv.entry b e hb

/-- A call that returns keeps the invariant. -/
theorem invariant_call {env : Env Address X} {c : Call Address} {w w' : State Address X}
    {v : Value Address} (inv : Invariant council minStake stakeLockPeriod w.storage)
    (h : Returns (dispatch env c) w v w') :
    Invariant council minStake stakeLockPeriod w'.storage := by
  have hmin : w.storage.minStake.getD 0 = minStake := by rw [inv.minStake_eq]; rfl
  cases ran_of_returns h with
  | initializeContract h =>
      obtain ⟨hnone, -⟩ := returns_initializeContract.mp h
      rw [inv.adminCouncil] at hnone
      cases hnone
  | @register a _ _ h =>
      obtain ⟨-, hnone, -, count, -, rfl⟩ := returns_register.mp h
      -- A lock entry under the key would belong to a registered node.
      have hlock : w.storage.lockEntry.get a = none := by
        by_contra hsome
        obtain ⟨e, he⟩ := Option.ne_none_iff_exists'.mp hsome
        have hregistered := (inv.entry a e he).1
        rw [hnone] at hregistered
        cases hregistered
      refine inv.update a _ (fun _ _ => rfl) ⟨le_of_eq MachineInt.val_zero.symm, ?_, nofun⟩ ?_
      · refine iff_of_false nofun ?_
        rw [MachineInt.val_zero]
        exact not_le.mpr inv.minStake_pos
      · intro e he
        rw [hlock] at he
        cases he
  | @updateMetadata a _ _ h =>
      obtain ⟨-, node, hnode, -, rfl⟩ := returns_updateMetadata.mp h
      have hinv := inv.node a node hnode
      exact inv.update a _ (fun _ _ => rfl) ⟨hinv.stake_nonneg, hinv.active_iff, hinv.slashed⟩
        fun e he => (inv.entry a e he).2
  | @stake a _ _ h =>
      obtain ⟨-, node, hnode, hstatus, hamount, newStake, hnew, token, -, x, -, rfl⟩ :=
        returns_stake.mp h
      rw [hmin]
      exact inv.update a _ (fun _ _ => rfl) ((inv.node a node hnode).staked hstatus (by omega))
        fun e he => (inv.entry a e he).2
  | @unstake a _ _ _ h =>
      obtain ⟨-, hamount, node, hnode, hactive, unlockAfter, -, hle, newStake, hnew, rfl, -⟩ :=
        returns_unstake.mp h
      rw [hmin]
      refine inv.update a _ (fun b hb => Store.get_set_of_ne _ _ hb) (.unstaked hactive ?_) ?_
      · rw [hnew]
        omega
      · rw [Store.get_set_self]
        rintro e ⟨⟩
        exact ⟨rfl, hamount⟩
  | finalizeUnstake h =>
      obtain ⟨-, entry, hentry, -, token, -, x, -, -, rfl⟩ := returns_finalizeUnstake.mp h
      refine ⟨inv.adminCouncil, inv.minStake_eq, inv.minStake_pos, inv.stakeLockPeriod, ?_, ?_⟩
      · intro b n hb
        have hinv := inv.node b n hb
        refine ⟨hinv.stake_nonneg, hinv.active_iff, fun hslashed => ?_⟩
        obtain ⟨hzero, hnone⟩ := hinv.slashed hslashed
        exact ⟨hzero, by rw [Store.get_remove, hnone, ite_self]⟩
      · intro b e hb
        rw [Store.get_remove] at hb
        split at hb
        · cases hb
        · exact inv.entry b e hb
  | @slash a _ _ h =>
      obtain ⟨-, node, hnode, -, slashedAmount, -, rfl⟩ := returns_slash.mp h
      refine inv.update a _ (fun b hb => Store.get_remove_of_ne _ hb) ?_ ?_
      · rw [Store.get_remove_self]
        exact .afterSlash inv.minStake_pos
      · intro e he
        rw [Store.get_remove_self] at he
        cases he
  | @reinstateNode a _ h =>
      obtain ⟨-, node, hnode, hslashed, rfl⟩ := returns_reinstateNode.mp h
      have hinv := inv.node a node hnode
      exact inv.update a _ (fun _ _ => rfl) (hinv.afterReinstatement hslashed inv.minStake_pos)
        fun e he => (inv.entry a e he).2
  | getNode => exact inv
  | isActive => exact inv

/-- Every step keeps the invariant. -/
theorem invariant_step (w : State Address X)
    (action : Action Address X (Call Address) (Provision Address))
    (inv : Invariant council minStake stakeLockPeriod w.storage) :
    Invariant council minStake stakeLockPeriod (machine.step w action).2.storage :=
  Deployed.step_storage (Invariant council minStake stakeLockPeriod)
    (fun _ _ _ _ _ => invariant_call) (fun _ _ => invariant_provide) w action inv

/-- The invariant holds in every state reached from an initialized registry. -/
theorem invariant_run {x : X} {w : State Address X} {u : Unit}
    (h : Returns (initializeContract council minStake stakeLockPeriod) (freshState x) u w)
    (as : List (Action Address X (Call Address) (Provision Address))) :
    Invariant council minStake stakeLockPeriod (machine.run w as).storage :=
  machine.run_invariant (fun w => Invariant council minStake stakeLockPeriod w.storage)
    invariant_step (invariant_initializeContract h) as

end Steps

/-- **The registry is well formed in every reachable state.**  Stakes are
non-negative; a node is active exactly when its stake reaches the minimum, and
that is what `is_active` answers on every address; a slashed node has neither
stake nor lock entry; every lock entry belongs to a registered node, carries its
own key and holds a positive amount. -/
theorem registry_wellFormed [DecidableEq Address] {x : X} {w : State Address X} {u : Unit}
    (h : Returns (initializeContract council minStake stakeLockPeriod) (freshState x) u w)
    (as : List (Action Address X (Call Address) (Provision Address))) :
    let s := (machine.run w as).storage
    (∀ a n, s.relayNode.get a = some n →
        0 ≤ n.stake.val ∧ (n.status = .active ↔ minStake.val ≤ n.stake.val) ∧
          (n.status = .slashed → n.stake.val = 0 ∧ s.lockEntry.get a = none)) ∧
      (∀ a, ∃ b, Returns (isActive a) (machine.run w as) b (machine.run w as) ∧
        (b = true ↔ ∃ n, s.relayNode.get a = some n ∧ minStake.val ≤ n.stake.val)) ∧
      ∀ a e, s.lockEntry.get a = some e →
        (s.relayNode.get a).isSome ∧ e.address = a ∧ 0 < e.amount.val := by
  intro s
  have inv := invariant_run h as
  refine ⟨fun a n hn => ?_, fun a => ⟨_, returns_isActive.mpr ⟨rfl, rfl⟩, ?_⟩, inv.entry⟩
  · have hinv := inv.node a n hn
    exact ⟨hinv.stake_nonneg, hinv.active_iff, hinv.slashed⟩
  · rw [decide_eq_true_iff, Option.map_eq_some_iff]
    constructor
    · rintro ⟨n, hn, hactive⟩
      exact ⟨n, hn, (inv.node a n hn).active_iff.mp hactive⟩
    · rintro ⟨n, hn, hle⟩
      exact ⟨n, hn, (inv.node a n hn).active_iff.mpr hle⟩

/-- The registry initialized with a one-member council, on a chain of its own. -/
def sampleRegistry : State ℕ Unit := initialState ⟨[7], 1⟩ 100 10 ()

/-- The sample registry is one that has been initialized. -/
theorem sampleRegistry_initialized :
    Returns (initializeContract ⟨[7], 1⟩ 100 10) (freshState ()) () sampleRegistry :=
  returns_initializeContract_freshState.mpr ⟨by decide, by decide, by decide, rfl⟩

/-- So no stake of its runs is negative. -/
theorem registry_wellFormed_sample :
    ∃ w : State ℕ Unit, Returns (initializeContract ⟨[7], 1⟩ 100 10) (freshState ()) () w ∧
      ∀ as a n, (machine.run w as).storage.relayNode.get a = some n → 0 ≤ n.stake.val :=
  ⟨sampleRegistry, sampleRegistry_initialized, fun as a n hn =>
    ((registry_wellFormed sampleRegistry_initialized as).1 a n hn).1⟩

end StellarConduit.RelayRegistry
