import StellarConduit.RelayRegistry.Contract

/-!
# What each registry entry point does when it returns

One equivalence for each entry point: the checks that passed, the calls into the
token that went through, and the world left behind.  Later modules take an entry
point apart with its equivalence and never unfold its code.

An equivalence `returns_stake` has on its right everything that the source checks, in the
order of the source, and then one equation for the world after the call.  It is used from left
to right to find out what an accepted call has done, and from right to left to show that a
call is accepted.  Arithmetic shows as the existence of a machine integer of the right value,
which is how an overflow that is answered with an error shows in a call that returns.

Most properties are about one of two things, and each of them is said once.  `Ran` is the list
of the entry points with their equivalences, for a proof that goes through all of them.
`Outcome` sums up what a call can do to stakes and lock entries: four entry points move stake,
and the rest, whatever else they do, leave every stake and every lock entry as it was.

## Main definitions

* `CouncilPasses` — the stored council lets the call through.
* `pendingAmount`, `stakeAmount` — what is pending and what is staked for a node, `0` for none.
* `Ran` — the entry point that a call has run, with what it returned.
* `Outcome` — what a call does to stakes and lock entries.

## Main results

* `returns_register`, `returns_stake`, `returns_unstake`, … — the entry points.
* `ran_of_returns`, `outcome_of_returns` — what a call that returns has run, and done.
-/

namespace StellarConduit.RelayRegistry

open Soroban Contract

section

variable {Address X : Type} {w w' : State Address X} {u : Unit}

/-! ## Storage helpers -/

/-- A lookup of a node changes nothing. -/
@[simp] theorem returns_loadNode {a : Address} {r : Option (RelayNode Address)} :
    Returns (loadNode a) w r w' ↔ r = w.storage.relayNode.get a ∧ w' = w := returns_loadStorage

/-- A minimum stake that was never set is zero. -/
@[simp] theorem returns_getMinStake {r : I128} :
    Returns getMinStake w r w' ↔ r = w.storage.minStake.getD 0 ∧ w' = w := returns_loadStorage

/-- A lock period that was never set is zero. -/
@[simp] theorem returns_getStakeLockPeriod {r : U32} :
    Returns getStakeLockPeriod w r w' ↔ r = w.storage.stakeLockPeriod.getD 0 ∧ w' = w :=
  returns_loadStorage

/-- A lookup of a pending unstake changes nothing. -/
@[simp] theorem returns_getLockEntry {a : Address} {r : Option (StakeEntry Address)} :
    Returns (getLockEntry a) w r w' ↔ r = w.storage.lockEntry.get a ∧ w' = w :=
  returns_loadStorage

/-- Without a token, the source panics. -/
@[simp] theorem returns_getTokenAddress {r : Address} :
    Returns getTokenAddress w r w' ↔ w.storage.tokenAddress = some r ∧ w' = w := by
  simp [getTokenAddress, returns_bind, and_assoc]

/-- Without a council, the source panics. -/
@[simp] theorem returns_getAdminCouncil {r : AdminCouncil Address} :
    Returns getAdminCouncil w r w' ↔ w.storage.adminCouncil = some r ∧ w' = w := by
  simp [getAdminCouncil, returns_bind, and_assoc]

/-- The count goes up by one, if `u32` has room; otherwise it panics. -/
@[simp] theorem returns_incrementNodeCount :
    Returns incrementNodeCount w u w' ↔
      ∃ next : U32, next.val = (w.storage.nodeCount.getD 0).val + 1 ∧
        w' = { w with storage := { w.storage with nodeCount := some next } } := by
  have one : (1 : U32).val = 1 := rfl
  simp [incrementNodeCount, getNodeCount, setNodeCount, returns_bind, one, and_assoc]

/-! ## Configuration -/

/-- `initialize` is accepted once, with values that are positive and a council that can be met. -/
theorem returns_initializeContract {council : AdminCouncil Address} {minStake : I128}
    {stakeLockPeriod : U32} :
    Returns (initializeContract council minStake stakeLockPeriod) w u w' ↔
      w.storage.adminCouncil = none ∧ 0 < minStake.val ∧ stakeLockPeriod ≠ 0 ∧
        ¬ council.Invalid ∧
        w' = { w with storage := { w.storage with
          adminCouncil := some council
          minStake := some minStake
          stakeLockPeriod := some stakeLockPeriod
          nodeCount := some 0 } } := by
  simp [initializeContract, setNodeCount, returns_bind, and_assoc]

/-- The gate passes in the world `w`: the stored council lets the call through. -/
def CouncilPasses (env : Env Address X) (w : State Address X) : Prop :=
  ∃ council, w.storage.adminCouncil = some council ∧
    Returns (requireAuthOfCouncil (ε := ContractError) env council) w () w

/-- The gate has no effect when it passes. -/
@[simp] theorem returns_requireCouncilAuth {env : Env Address X} :
    Returns (requireCouncilAuth env) w u w' ↔ CouncilPasses env w ∧ w' = w := by
  simp only [requireCouncilAuth, CouncilPasses, returns_bind, returns_getAdminCouncil]
  constructor
  · rintro ⟨council, _, ⟨hcouncil, rfl⟩, h⟩
    obtain rfl := requireAuthOfCouncil_world h
    exact ⟨⟨council, hcouncil, h⟩, rfl⟩
  · rintro ⟨⟨council, hcouncil, h⟩, rfl⟩
    exact ⟨council, w', ⟨hcouncil, rfl⟩, h⟩

/-! ## Views -/

/-- `get_node` returns the record as it is stored. -/
theorem returns_getNode {a : Address} {r : RelayNode Address} :
    Returns (getNode a) w r w' ↔ w.storage.relayNode.get a = some r ∧ w' = w := by
  simp [getNode, returns_bind, and_assoc]

/-- A node is active by its record's status alone. -/
theorem returns_isActive {a : Address} {b : Bool} :
    Returns (isActive a) w b w' ↔
      b = decide ((w.storage.relayNode.get a).map RelayNode.status = some .active) ∧ w' = w := by
  simp [isActive, returns_bind, and_assoc]

end

section

variable {Address X : Type} [DecidableEq Address]
variable {env : Env Address X} {w w' : State Address X} {u : Unit}

/-! ## Entry points on nodes

Each entry point by one equivalence: the signatures and checks that were passed, the values
computed, and the world that is left.  Later modules cite these and do not unfold the entry
points again.
-/

/-- The record of the node is made, or replaced. -/
@[simp] theorem returns_setNode {a : Address} {node : RelayNode Address} :
    Returns (setNode a node) w u w' ↔
      w' = { w with storage := { w.storage with relayNode := w.storage.relayNode.set a node } } :=
  returns_updateStorage

/-- The pending unstake of the node is made, or replaced. -/
@[simp] theorem returns_setLockEntry {a : Address} {entry : StakeEntry Address} :
    Returns (setLockEntry a entry) w u w' ↔
      w' = { w with storage := { w.storage with lockEntry := w.storage.lockEntry.set a entry } } :=
  returns_updateStorage

/-- There is no pending unstake any more. -/
@[simp] theorem returns_removeLockEntry {a : Address} :
    Returns (removeLockEntry a) w u w' ↔
      w' = { w with storage := { w.storage with lockEntry := w.storage.lockEntry.remove a } } :=
  returns_updateStorage

/-- A registration makes an inactive record without stake.  The region of the metadata is not
looked at. -/
theorem returns_register {a : Address} {metadata : NodeMetadata} :
    Returns (register env a metadata) w u w' ↔
      env.authorised a = true ∧ w.storage.relayNode.get a = none ∧
        ¬ metadata.uptimeCommitment > 100 ∧
        ∃ next : U32, next.val = (w.storage.nodeCount.getD 0).val + 1 ∧
          w' = { w with
            storage := { w.storage with
              relayNode := w.storage.relayNode.set a
                { address := a
                  stake := 0
                  status := .inactive
                  metadata := metadata
                  registeredAt := env.timestamp
                  lastActive := env.timestamp }
              nodeCount := some next }
            events := w.events ++ [.register a metadata] } := by
  simp [register, returns_bind, and_assoc]

/-- An update is checked for its region as well, and not for the status of the node. -/
theorem returns_updateMetadata {a : Address} {metadata : NodeMetadata} :
    Returns (updateMetadata env a metadata) w u w' ↔
      env.authorised a = true ∧ ∃ node, w.storage.relayNode.get a = some node ∧
        ¬ (metadata.uptimeCommitment > 100 ∨ metadata.region.len > 32) ∧
        w' = { w with
          storage := { w.storage with
            relayNode := w.storage.relayNode.set a { node with metadata := metadata } }
          events := w.events ++ [.updateMetadata a] } := by
  simp [updateMetadata, returns_bind, and_assoc]

/-- The node that a stake of `amount` leaves, at the total `newStake`. -/
def RelayNode.staked (node : RelayNode Address) (minStake newStake : I128) (now : U64) :
    RelayNode Address :=
  { node with
    status := if newStake ≥ minStake then .active else node.status
    lastActive := now
    stake := newStake }

/-- Staking moves the tokens into the registry, and makes the node active once it has the minimum
stake. -/
theorem returns_stake {a : Address} {amount : I128} :
    Returns (stake env a amount) w u w' ↔
      env.authorised a = true ∧ ∃ node, w.storage.relayNode.get a = some node ∧
        node.status ≠ .slashed ∧ 0 < amount.val ∧
        ∃ newStake : I128, newStake.val = node.stake.val + amount.val ∧
        ∃ token, w.storage.tokenAddress = some token ∧
        ∃ x, env.invokeContract token "transfer"
            [.address a, .address env.currentContract, .i128 amount] w.outside = some x ∧
          w' =
            { storage := { w.storage with
                relayNode := w.storage.relayNode.set a
                  (node.staked (w.storage.minStake.getD 0) newStake env.timestamp) }
              outside := x
              events := w.events ++ [.stake a amount] } := by
  simp [stake, tokenTransfer, RelayNode.staked, returns_bind, and_assoc]

/-- The node that an unstake leaves, at the remaining stake `newStake`. -/
def RelayNode.unstaked (node : RelayNode Address) (minStake newStake : I128) (now : U64) :
    RelayNode Address :=
  { node with
    stake := newStake
    status := if newStake < minStake then .inactive else node.status
    lastActive := now }

/-- Unstaking moves an amount of the stake into the pending entry, whose unlocking time is counted
from the timestamp; an entry that is pending already is overwritten. -/
theorem returns_unstake {a : Address} {amount : I128} {r : RelayNode Address} :
    Returns (unstake env a amount) w r w' ↔
      env.authorised a = true ∧ 0 < amount.val ∧
        ∃ node, w.storage.relayNode.get a = some node ∧ node.status = .active ∧
        ∃ unlockAfter : U64,
          unlockAfter.val = env.timestamp.val + (w.storage.stakeLockPeriod.getD 0).val ∧
        amount.val ≤ node.stake.val ∧
        ∃ newStake : I128, newStake.val = node.stake.val - amount.val ∧
          w' = { w with
            storage := { w.storage with
              relayNode := w.storage.relayNode.set a
                (node.unstaked (w.storage.minStake.getD 0) newStake env.timestamp)
              lockEntry := w.storage.lockEntry.set a
                { address := a, amount := amount, unlocksAt := unlockAfter } }
            events := w.events ++ [.unstake a amount unlockAfter] } ∧
          r = node.unstaked (w.storage.minStake.getD 0) newStake env.timestamp := by
  have active : ∀ s : NodeStatus, ¬ s = .slashed ∧ s = .active ↔ s = .active := by
    intro s
    cases s <;> simp
  simp [unstake, RelayNode.unstaked, returns_bind, ← and_assoc, active]

/-- The payout is the pending entry as it is stored, and removes it. -/
theorem returns_finalizeUnstake {a : Address} {r : I128} :
    Returns (finalizeUnstake env a) w r w' ↔
      env.authorised a = true ∧
        ∃ entry, w.storage.lockEntry.get a = some entry ∧
        entry.unlocksAt.val ≤ env.timestamp.val ∧
        ∃ token, w.storage.tokenAddress = some token ∧
        ∃ x, env.invokeContract token "transfer"
            [.address env.currentContract, .address a, .i128 entry.amount] w.outside = some x ∧
          r = entry.amount ∧
          w' =
            { storage := { w.storage with lockEntry := w.storage.lockEntry.remove a }
              outside := x
              events := w.events ++ [.finalizeUnstake a entry.amount] } := by
  simp [finalizeUnstake, tokenTransfer, returns_bind, and_assoc]

/-- The pending amount of a lock entry, `0` without one. -/
def pendingAmount (entry : Option (StakeEntry Address)) : Int :=
  entry.elim 0 fun e => e.amount.val

/-- What a slash takes is the stake and what is pending. -/
theorem returns_seizeLockEntry {a : Address} {stake r : I128} :
    Returns (seizeLockEntry a stake) w r w' ↔
      r.val = stake.val + pendingAmount (w.storage.lockEntry.get a) ∧
        w' = { w with storage := { w.storage with lockEntry := w.storage.lockEntry.remove a } } := by
  simp only [seizeLockEntry, returns_bind, returns_getLockEntry]
  cases h : w.storage.lockEntry.get a with
  | none =>
      have same : ∀ n : I128, n = stake ↔ n.val = stake.val := fun n => MachineInt.ext_iff
      simp [pendingAmount, Store.remove_of_get_none h, same]
  | some entry =>
      simp [pendingAmount, returns_bind, and_assoc]

/-- The node that a slash leaves. -/
def RelayNode.afterSlash (node : RelayNode Address) (now : U64) : RelayNode Address :=
  { node with stake := 0, status := .slashed, lastActive := now }

/-- Slashing takes all of a node's stake and moves no token. -/
theorem returns_slash {a : Address} {reason : HostString} :
    Returns (slash env a reason) w u w' ↔
      CouncilPasses env w ∧ ∃ node, w.storage.relayNode.get a = some node ∧
      node.status ≠ .slashed ∧
      ∃ slashedAmount : I128,
        slashedAmount.val = node.stake.val + pendingAmount (w.storage.lockEntry.get a) ∧
        w' = { w with
          storage := { w.storage with
            relayNode := w.storage.relayNode.set a (node.afterSlash env.timestamp)
            lockEntry := w.storage.lockEntry.remove a }
          events := w.events ++ [.slash a slashedAmount] } := by
  simp [slash, RelayNode.afterSlash, returns_seizeLockEntry, returns_bind, and_assoc]

/-- The node that a reinstatement leaves. -/
def RelayNode.afterReinstatement (node : RelayNode Address) (now : U64) : RelayNode Address :=
  { node with status := .inactive, lastActive := now }

/-- A reinstated node is inactive and has the stake that the slash left: none. -/
theorem returns_reinstateNode {a : Address} :
    Returns (reinstateNode env a) w u w' ↔
      CouncilPasses env w ∧ ∃ node, w.storage.relayNode.get a = some node ∧
      node.status = .slashed ∧
        w' = { w with
          storage := { w.storage with
            relayNode := w.storage.relayNode.set a (node.afterReinstatement env.timestamp) }
          events := w.events ++ [.reinstateNode a] } := by
  simp [reinstateNode, RelayNode.afterReinstatement, returns_bind, and_assoc]

/-! ## Calls -/

/-- The entry point that a call has run when it returns; the two views change nothing. -/
inductive Ran (env : Env Address X) (w : State Address X) :
    Call Address → Value Address → State Address X → Prop where
  | initializeContract {council : AdminCouncil Address} {minStake : I128} {stakeLockPeriod : U32}
      {w' : State Address X}
      (h : Returns (initializeContract council minStake stakeLockPeriod) w () w') :
      Ran env w (.initializeContract council minStake stakeLockPeriod) .unit w'
  | register {a : Address} {metadata : NodeMetadata} {w' : State Address X}
      (h : Returns (register env a metadata) w () w') : Ran env w (.register a metadata) .unit w'
  | updateMetadata {a : Address} {metadata : NodeMetadata} {w' : State Address X}
      (h : Returns (updateMetadata env a metadata) w () w') :
      Ran env w (.updateMetadata a metadata) .unit w'
  | stake {a : Address} {amount : I128} {w' : State Address X}
      (h : Returns (stake env a amount) w () w') : Ran env w (.stake a amount) .unit w'
  | unstake {a : Address} {amount : I128} {node : RelayNode Address} {w' : State Address X}
      (h : Returns (unstake env a amount) w node w') : Ran env w (.unstake a amount) (.node node) w'
  | finalizeUnstake {a : Address} {amount : I128} {w' : State Address X}
      (h : Returns (finalizeUnstake env a) w amount w') :
      Ran env w (.finalizeUnstake a) (.amount amount) w'
  | slash {a : Address} {reason : HostString} {w' : State Address X}
      (h : Returns (slash env a reason) w () w') : Ran env w (.slash a reason) .unit w'
  | reinstateNode {a : Address} {w' : State Address X}
      (h : Returns (reinstateNode env a) w () w') : Ran env w (.reinstateNode a) .unit w'
  | getNode {a : Address} {v : Value Address} : Ran env w (.getNode a) v w
  | isActive {a : Address} {v : Value Address} : Ran env w (.isActive a) v w

/-- By cases on the call. -/
theorem ran_of_returns {c : Call Address} {v : Value Address} (h : Returns (dispatch env c) w v w') :
    Ran env w c v w' := by
  cases c with
  | initializeContract council minStake stakeLockPeriod =>
      obtain ⟨_, hcall, rfl⟩ := returns_bind_pure.mp h
      exact .initializeContract hcall
  | register a metadata =>
      obtain ⟨_, hcall, rfl⟩ := returns_bind_pure.mp h
      exact .register hcall
  | updateMetadata a metadata =>
      obtain ⟨_, hcall, rfl⟩ := returns_bind_pure.mp h
      exact .updateMetadata hcall
  | stake a amount =>
      obtain ⟨_, hcall, rfl⟩ := returns_bind_pure.mp h
      exact .stake hcall
  | unstake a amount =>
      obtain ⟨node, hcall, rfl⟩ := returns_bind_pure.mp h
      exact .unstake hcall
  | finalizeUnstake a =>
      obtain ⟨amount, hcall, rfl⟩ := returns_bind_pure.mp h
      exact .finalizeUnstake hcall
  | slash a reason =>
      obtain ⟨_, hcall, rfl⟩ := returns_bind_pure.mp h
      exact .slash hcall
  | reinstateNode a =>
      obtain ⟨_, hcall, rfl⟩ := returns_bind_pure.mp h
      exact .reinstateNode hcall
  | getNode a =>
      obtain ⟨_, hcall, -⟩ := returns_bind_pure.mp h
      obtain ⟨-, rfl⟩ := returns_getNode.mp hcall
      exact .getNode
  | isActive a =>
      obtain ⟨_, hcall, -⟩ := returns_bind_pure.mp h
      obtain ⟨-, rfl⟩ := returns_isActive.mp hcall
      exact .isActive

/-! ## Outcomes

Every call that returns is one of these cases; invariants about stakes split on them and not on
the entry points.
-/

/-- The calls that move stake. -/
def MovesStake : Call Address → Prop
  | .stake _ _ | .unstake _ _ | .finalizeUnstake _ | .slash _ _ => True
  | _ => False

/-- The stake of a node record, `0` without one. -/
def stakeAmount (node : Option (RelayNode Address)) : Int := node.elim 0 fun n => n.stake.val

/-- Stakes and lock entries, the configuration and the other contracts are as they
were. -/
structure StakesKept (w w' : State Address X) : Prop where
  /-- No node's stake has moved. -/
  stake : ∀ n, stakeAmount (w'.storage.relayNode.get n) = stakeAmount (w.storage.relayNode.get n)
  /-- No pending entry has been made, replaced or removed. -/
  lockEntry : w'.storage.lockEntry = w.storage.lockEntry
  /-- The lock period. -/
  stakeLockPeriod : w'.storage.stakeLockPeriod = w.storage.stakeLockPeriod
  /-- The token. -/
  tokenAddress : w'.storage.tokenAddress = w.storage.tokenAddress
  /-- No other contract has been called. -/
  outside : w'.outside = w.outside

omit [DecidableEq Address] in
/-- Nothing is done to any stake. -/
theorem StakesKept.refl (w : State Address X) : StakesKept w w :=
  ⟨fun _ => rfl, rfl, rfl, rfl, rfl⟩

/-- Rewriting a node record with the stake it had. -/
theorem stakeAmount_set {nodes : Store Address (RelayNode Address)} {a : Address}
    {node : RelayNode Address} (same : node.stake.val = stakeAmount (nodes.get a)) (n : Address) :
    stakeAmount ((nodes.set a node).get n) = stakeAmount (nodes.get n) := by
  rw [Store.get_set]
  split
  · rename_i hn
    rw [hn, ← same]
    rfl
  · rfl

/-- What a call of an initialized registry does when it returns: it moves the stake
of one node, or it keeps all stakes. -/
inductive Outcome (env : Env Address X) (w : State Address X) :
    Call Address → Value Address → State Address X → Prop where
  /-- The node `a` has more at stake. -/
  | stake {a : Address} {amount : I128} {v : Value Address} {w' : State Address X}
      (h : Returns (stake env a amount) w () w') : Outcome env w (.stake a amount) v w'
  /-- A part of the stake is pending. -/
  | unstake {a : Address} {amount : I128} {node : RelayNode Address} {v : Value Address}
      {w' : State Address X} (h : Returns (unstake env a amount) w node w') :
      Outcome env w (.unstake a amount) v w'
  /-- What was pending has been paid out. -/
  | finalizeUnstake {a : Address} {amount : I128} {w' : State Address X}
      (h : Returns (finalizeUnstake env a) w amount w') :
      Outcome env w (.finalizeUnstake a) (.amount amount) w'
  /-- Stake and pending entry are gone. -/
  | slash {a : Address} {reason : HostString} {v : Value Address} {w' : State Address X}
      (h : Returns (slash env a reason) w () w') : Outcome env w (.slash a reason) v w'
  /-- A node may have been registered, changed its metadata, or been reinstated. -/
  | other {c : Call Address} {v : Value Address} {w' : State Address X} (quiet : ¬ MovesStake c)
      (kept : StakesKept w w') : Outcome env w c v w'

/-- Only the first `initialize` has no such outcome. -/
theorem outcome_of_returns {c : Call Address} {v : Value Address}
    (initialized : w.storage.adminCouncil.isSome) (h : Returns (dispatch env c) w v w') :
    Outcome env w c v w' := by
  cases ran_of_returns h with
  | initializeContract hcall =>
      -- A second `initialize` answers `AlreadyInitialized`.
      obtain ⟨hnone, -⟩ := returns_initializeContract.mp hcall
      rw [hnone] at initialized
      cases initialized
  | register hcall =>
      obtain ⟨-, hnone, -, count, -, rfl⟩ := returns_register.mp hcall
      refine .other id ⟨stakeAmount_set ?_, rfl, rfl, rfl, rfl⟩
      rw [hnone]
      exact MachineInt.val_zero
  | updateMetadata hcall =>
      obtain ⟨-, node, hnode, -, rfl⟩ := returns_updateMetadata.mp hcall
      refine .other id ⟨stakeAmount_set ?_, rfl, rfl, rfl, rfl⟩
      rw [hnode]
      rfl
  | stake hcall =>
      exact .stake hcall
  | unstake hcall =>
      exact .unstake hcall
  | finalizeUnstake hcall =>
      exact .finalizeUnstake hcall
  | slash hcall =>
      exact .slash hcall
  | reinstateNode hcall =>
      obtain ⟨-, node, hnode, -, rfl⟩ := returns_reinstateNode.mp hcall
      refine .other id ⟨stakeAmount_set ?_, rfl, rfl, rfl, rfl⟩
      rw [hnode]
      rfl
  | getNode => exact .other id (.refl _)
  | isActive => exact .other id (.refl _)

/-- A call that returns leaves the token address alone. -/
theorem Outcome.tokenAddress {c : Call Address} {v : Value Address} (h : Outcome env w c v w') :
    w'.storage.tokenAddress = w.storage.tokenAddress := by
  cases h with
  | stake h =>
      obtain ⟨-, _, -, -, -, _, -, _, -, _, -, rfl⟩ := returns_stake.mp h
      rfl
  | unstake h =>
      obtain ⟨-, -, _, -, -, _, -, -, _, -, rfl, -⟩ := returns_unstake.mp h
      rfl
  | finalizeUnstake h =>
      obtain ⟨-, _, -, -, _, -, _, -, -, rfl⟩ := returns_finalizeUnstake.mp h
      rfl
  | slash h =>
      obtain ⟨-, _, -, -, _, -, rfl⟩ := returns_slash.mp h
      rfl
  | other quiet kept => exact kept.tokenAddress

end
end StellarConduit.RelayRegistry
