import StellarConduit.RelayRegistry.StakeLedger

/-!
# What a call does to the stored records

Whatever a call of the registry is for, it writes the records of one node at most: it
stores a new node and counts it, rewrites a stored one, or removes a lock entry.
`Writes` lists these cases, with what later modules need to know of the records written,
and is independent of whether the contract has been initialized.

The five cases say less than the ten entry points and enough for most invariants.  A record that
is rewritten belongs to the node that the call is on and was there before; if it is slashed
afterwards, then either the call has slashed it, and nothing is pending for it, or it was slashed
already.  The number of nodes goes up with a new record and stays otherwise.  A change to one of
the entry points that keeps its case touches this module and none of those that reason by cases
of `Writes`.

## Main definitions

* `Writes` — the cases.
* `ConfigKept` — minimum, lock period, council and token are as they were.

## Main results

* `writes_of_returns` — every call that returns is one of the cases.
* `untouched_call` — it leaves the records of every other node alone.
* `configKept_call` — and the configuration, unless it is `initialize`.
-/

namespace StellarConduit.RelayRegistry

open Soroban Contract

variable {Address X : Type} [DecidableEq Address]

omit [DecidableEq Address] in
/-- The node whose records a call may write. -/
def Call.subject : Call Address → Option Address
  | .register a _ | .updateMetadata a _ | .stake a _ | .unstake a _ | .finalizeUnstake a |
    .slash a _ | .reinstateNode a => some a
  | _ => none

/-- What a call that returns does to council, records and counter. -/
inductive Writes (w : State Address X) : Call Address → State Address X → Prop where
  /-- The first `initialize`. -/
  | configure {council : AdminCouncil Address} {minStake : I128} {stakeLockPeriod : U32}
      {w' : State Address X}
      (h : Returns (initializeContract council minStake stakeLockPeriod) w () w') :
      Writes w (.initializeContract council minStake stakeLockPeriod) w'
  /-- A node is new. -/
  | register {a : Address} {metadata : NodeMetadata} {node : RelayNode Address}
      {w' : State Address X} (absent : w.storage.relayNode.get a = none)
      (inactive : node.status = .inactive)
      (council : w'.storage.adminCouncil = w.storage.adminCouncil)
      (record : w'.storage.relayNode = w.storage.relayNode.set a node)
      (entries : w'.storage.lockEntry = w.storage.lockEntry)
      (count : (w'.storage.nodeCount.getD 0).val = (w.storage.nodeCount.getD 0).val + 1) :
      Writes w (.register a metadata) w'
  /-- The record of a node is rewritten, and its pending entry perhaps. -/
  | rewrite {c : Call Address} {a : Address} {node node' : RelayNode Address}
      {w' : State Address X} (subject : c.subject = some a)
      (present : w.storage.relayNode.get a = some node)
      (council : w'.storage.adminCouncil = w.storage.adminCouncil)
      (record : w'.storage.relayNode = w.storage.relayNode.set a node')
      (others : ∀ b, b ≠ a → w'.storage.lockEntry.get b = w.storage.lockEntry.get b)
      (slashed : node'.status = .slashed → w'.storage.lockEntry.get a = none ∨
        node.status = .slashed ∧ w'.storage.lockEntry.get a = w.storage.lockEntry.get a)
      (count : w'.storage.nodeCount = w.storage.nodeCount) : Writes w c w'
  | payout {a : Address} {w' : State Address X}
      (council : w'.storage.adminCouncil = w.storage.adminCouncil)
      (nodes : w'.storage.relayNode = w.storage.relayNode)
      (entries : w'.storage.lockEntry = w.storage.lockEntry.remove a)
      (count : w'.storage.nodeCount = w.storage.nodeCount) : Writes w (.finalizeUnstake a) w'
  | view {c : Call Address} : Writes w c w

variable {env : Env Address X} {w w' : State Address X}

/-- By cases on the entry points. -/
theorem writes_of_returns {c : Call Address} {v : Value Address}
    (h : Returns (dispatch env c) w v w') : Writes w c w' := by
  cases ran_of_returns h with
  | initializeContract hcall =>
      exact .configure hcall
  | register hcall =>
      obtain ⟨-, hnone, -, next, hnext, rfl⟩ := returns_register.mp hcall
      exact .register hnone rfl rfl rfl rfl hnext
  | updateMetadata hcall =>
      obtain ⟨-, node, hnode, -, rfl⟩ := returns_updateMetadata.mp hcall
      exact .rewrite rfl hnode rfl rfl (fun _ _ => rfl) (fun hslashed => Or.inr ⟨hslashed, rfl⟩) rfl
  | stake hcall =>
      obtain ⟨-, node, hnode, hstatus, -, newStake, -, _, -, _, -, rfl⟩ := returns_stake.mp hcall
      refine .rewrite rfl hnode rfl rfl (fun _ _ => rfl) (fun hslashed => ?_) rfl
      simp only [RelayNode.staked] at hslashed
      split at hslashed
      · cases hslashed
      · exact absurd hslashed hstatus
  | unstake hcall =>
      obtain ⟨-, -, node, hnode, hactive, _, -, -, newStake, -, rfl, -⟩ := returns_unstake.mp hcall
      refine .rewrite rfl hnode rfl rfl (fun b hb => Store.get_set_of_ne _ _ hb)
        (fun hslashed => ?_) rfl
      -- The node was active, and an unstake at most demotes it.
      simp only [RelayNode.unstaked, hactive] at hslashed
      split at hslashed <;> cases hslashed
  | finalizeUnstake hcall =>
      obtain ⟨-, _, -, -, _, -, _, -, -, rfl⟩ := returns_finalizeUnstake.mp hcall
      exact .payout rfl rfl rfl rfl
  | slash hcall =>
      obtain ⟨-, node, hnode, -, _, -, rfl⟩ := returns_slash.mp hcall
      exact .rewrite rfl hnode rfl rfl (fun b hb => Store.get_remove_of_ne _ hb)
        (fun _ => Or.inl (Store.get_remove_self _ _)) rfl
  | reinstateNode hcall =>
      obtain ⟨-, node, hnode, -, rfl⟩ := returns_reinstateNode.mp hcall
      refine .rewrite rfl hnode rfl rfl (fun _ _ => rfl) (fun hslashed => ?_) rfl
      cases hslashed
  | getNode => exact .view
  | isActive => exact .view

/-- A call that returns leaves the records of every other node alone. -/
theorem untouched_call {a : Address} {c : Call Address} {v : Value Address}
    (h : Returns (dispatch env c) w v w') (others : c.subject ≠ some a) :
    w'.storage.relayNode.get a = w.storage.relayNode.get a ∧
      w'.storage.lockEntry.get a = w.storage.lockEntry.get a := by
  have ne {b : Address} (subject : c.subject = some b) : a ≠ b := by
    intro hab
    rw [subject, hab] at others
    exact others rfl
  cases writes_of_returns h with
  | configure hcall =>
      obtain ⟨-, -, -, -, rfl⟩ := returns_initializeContract.mp hcall
      exact ⟨rfl, rfl⟩
  | register _ _ _ record entries =>
      rw [record, entries]
      exact ⟨Store.get_set_of_ne _ _ (ne rfl), rfl⟩
  | rewrite subject _ _ record entries =>
      rw [record]
      exact ⟨Store.get_set_of_ne _ _ (ne subject), entries a (ne subject)⟩
  | payout _ nodes entries =>
      rw [nodes, entries]
      exact ⟨rfl, Store.get_remove_of_ne _ (ne rfl)⟩
  | view => exact ⟨rfl, rfl⟩

/-! ## Configuration -/

/-- Council, amounts and token are as they were. -/
structure ConfigKept (s s' : Storage Address) : Prop where
  /-- The minimum stake. -/
  minStake : s'.minStake = s.minStake
  /-- The lock period. -/
  stakeLockPeriod : s'.stakeLockPeriod = s.stakeLockPeriod
  /-- The council. -/
  adminCouncil : s'.adminCouncil = s.adminCouncil
  /-- The token. -/
  tokenAddress : s'.tokenAddress = s.tokenAddress

omit [DecidableEq Address] in
/-- Nothing is configured. -/
theorem ConfigKept.refl (s : Storage Address) : ConfigKept s s := ⟨rfl, rfl, rfl, rfl⟩

/-- A call that returns is `initialize`, or leaves the configuration alone. -/
theorem configKept_call {c : Call Address} {v : Value Address}
    (h : Returns (dispatch env c) w v w') :
    (∃ council minStake stakeLockPeriod,
        c = .initializeContract council minStake stakeLockPeriod ∧
          Returns (initializeContract council minStake stakeLockPeriod) w () w') ∨
      ConfigKept w.storage w'.storage := by
  cases ran_of_returns h with
  | @initializeContract council minStake stakeLockPeriod _ hcall =>
      exact Or.inl ⟨council, minStake, stakeLockPeriod, rfl, hcall⟩
  | register hcall =>
      obtain ⟨-, -, -, count, -, rfl⟩ := returns_register.mp hcall
      exact Or.inr ⟨rfl, rfl, rfl, rfl⟩
  | updateMetadata hcall =>
      obtain ⟨-, node, -, -, rfl⟩ := returns_updateMetadata.mp hcall
      exact Or.inr ⟨rfl, rfl, rfl, rfl⟩
  | stake hcall =>
      obtain ⟨-, -, -, -, -, -, -, t, -, x, -, rfl⟩ := returns_stake.mp hcall
      exact Or.inr ⟨rfl, rfl, rfl, rfl⟩
  | unstake hcall =>
      obtain ⟨-, -, node, -, -, unlockAfter, -, -, newStake, -, rfl, -⟩ := returns_unstake.mp hcall
      exact Or.inr ⟨rfl, rfl, rfl, rfl⟩
  | finalizeUnstake hcall =>
      obtain ⟨-, entry, -, -, t, -, x, -, -, rfl⟩ := returns_finalizeUnstake.mp hcall
      exact Or.inr ⟨rfl, rfl, rfl, rfl⟩
  | slash hcall =>
      obtain ⟨-, node, -, -, slashedAmount, -, rfl⟩ := returns_slash.mp hcall
      exact Or.inr ⟨rfl, rfl, rfl, rfl⟩
  | reinstateNode hcall =>
      obtain ⟨-, node, -, -, rfl⟩ := returns_reinstateNode.mp hcall
      exact Or.inr ⟨rfl, rfl, rfl, rfl⟩
  | getNode => exact Or.inr (.refl _)
  | isActive => exact Or.inr (.refl _)

/-- A call on a node leaves the configuration alone. -/
theorem configKept_of_subject {c : Call Address} {v : Value Address} {b : Address}
    (subject : c.subject = some b) (h : Returns (dispatch env c) w v w') :
    ConfigKept w.storage w'.storage := by
  rcases configKept_call h with ⟨council, minStake, stakeLockPeriod, rfl, -⟩ | kept
  · cases subject
  · exact kept

/-- No call sets the token address. -/
theorem tokenAddress_call {c : Call Address} {v : Value Address}
    (h : Returns (dispatch env c) w v w') : w'.storage.tokenAddress = w.storage.tokenAddress := by
  rcases configKept_call h with ⟨council, minStake, stakeLockPeriod, -, hcall⟩ | kept
  · obtain ⟨-, -, -, -, rfl⟩ := returns_initializeContract.mp hcall
    rfl
  · exact kept.tokenAddress

/-- A stored council stays. -/
theorem adminCouncil_call {c : Call Address} {v : Value Address}
    {council : AdminCouncil Address} (stored : w.storage.adminCouncil = some council)
    (h : Returns (dispatch env c) w v w') : w'.storage.adminCouncil = some council := by
  rcases configKept_call h with ⟨council', minStake, stakeLockPeriod, -, hcall⟩ | kept
  · obtain ⟨hnone, -⟩ := returns_initializeContract.mp hcall
    rw [stored] at hnone
    cases hnone
  · rw [kept.adminCouncil, stored]

end StellarConduit.RelayRegistry
