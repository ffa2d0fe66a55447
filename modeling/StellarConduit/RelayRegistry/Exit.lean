import StellarConduit.RelayRegistry.Records
import StellarConduit.RelayRegistry.Solvency

/-!
# The way out

`unstake` is for active nodes.  A node whose stake is below the minimum is inactive, after
an unstake that left a remainder or a first stake that was too small, and cannot take its
stake out before it has brought it up to the minimum.  From the minimum on the exit is
open.

So a node that leaves has to leave at once, or keep the minimum.  If it takes out a part and the
remainder is below the minimum, it has to stake again to get the remainder back.  The status and
the stake of a node are tied by `Threshold`, which every step keeps: what is not active has no
stake, or less than the minimum.

## Main definitions

* `Threshold` — how the status of a node goes with its stake.
* `StakeLeft` — the whole stake of a node has become its pending entry.

## Main results

* `unstake_whole_iff_active` — a node can withdraw its whole stake exactly when it is
  active, and it is active whenever its stake reaches the minimum.
-/

namespace StellarConduit.RelayRegistry

open Soroban Contract

section Thresholds

variable {Address X : Type}

/-- A stake is not negative, and reaches the minimum only at an active node. -/
structure Threshold (minStake : Int) (node : RelayNode Address) : Prop where
  /-- A stake is not negative. -/
  nonneg : 0 ≤ node.stake.val
  /-- A slashed node has none. -/
  slashed : node.status = .slashed → node.stake.val = 0
  /-- A node that is not active has none, or less than the minimum. -/
  inactive : node.status ≠ .active → node.stake.val = 0 ∨ node.stake.val < minStake

/-- Every stored node is on its side of the minimum. -/
def Thresholds (s : Storage Address) : Prop :=
  ∀ a node, s.relayNode.get a = some node → Threshold (s.minStake.getD 0).val node

variable [DecidableEq Address] {env : Env Address X} {w w' : State Address X}

/-- Writing the record of one node. -/
theorem Thresholds.write {s s' : Storage Address} (inv : Thresholds s) {a : Address}
    {node : RelayNode Address} (record : s'.relayNode = s.relayNode.set a node)
    (minStake : s'.minStake = s.minStake) (own : Threshold (s.minStake.getD 0).val node) :
    Thresholds s' := by
  intro b n hb
  rw [minStake]
  rw [record, Store.get_set] at hb
  split at hb
  · obtain rfl := Option.some.inj hb
    exact own
  · exact inv b n hb

/-- A call that returns keeps every node on its side of the minimum. -/
theorem thresholds_call {c : Call Address} {v : Value Address} (inv : Thresholds w.storage)
    (before : w.storage.adminCouncil = none → w.storage.minStake = none)
    (h : Returns (dispatch env c) w v w') : Thresholds w'.storage := by
  cases ran_of_returns h with
  | initializeContract hcall =>
      obtain ⟨hnone, -, -, -, rfl⟩ := returns_initializeContract.mp hcall
      intro a node hnode
      have threshold : Threshold 0 node := by
        have stored := inv a node hnode
        rw [before hnone, Option.getD_none, MachineInt.val_zero] at stored
        exact stored
      -- Before, the minimum was zero, and an inactive node had nothing.
      refine ⟨threshold.nonneg, threshold.slashed, fun inactive => Or.inl ?_⟩
      have nonneg := threshold.nonneg
      have short := threshold.inactive inactive
      omega
  | register hcall =>
      obtain ⟨-, -, -, count, -, rfl⟩ := returns_register.mp hcall
      refine inv.write rfl rfl ⟨MachineInt.val_zero.ge, fun _ => MachineInt.val_zero, fun _ => ?_⟩
      exact Or.inl MachineInt.val_zero
  | @updateMetadata a _ _ hcall =>
      obtain ⟨-, node, hnode, -, rfl⟩ := returns_updateMetadata.mp hcall
      have threshold := inv a node hnode
      exact inv.write rfl rfl ⟨threshold.nonneg, threshold.slashed, threshold.inactive⟩
  | @stake a _ _ hcall =>
      obtain ⟨-, node, hnode, hstatus, hamount, newStake, hnew, t, -, x, -, rfl⟩ :=
        returns_stake.mp hcall
      have nonneg := (inv a node hnode).nonneg
      refine inv.write rfl rfl ⟨?_, ?_, ?_⟩
      · show 0 ≤ newStake.val
        omega
      · intro slashed
        simp only [RelayNode.staked] at slashed
        split at slashed
        · cases slashed
        · exact absurd slashed hstatus
      · intro inactive
        simp only [RelayNode.staked, ge_iff_le, MachineInt.le_iff_val] at inactive ⊢
        split at inactive
        · exact absurd rfl inactive
        · rename_i short
          exact Or.inr (not_le.mp short)
  | unstake hcall =>
      obtain ⟨-, -, node, hnode, hactive, unlockAfter, -, hle, newStake, hnew, rfl, -⟩ :=
        returns_unstake.mp hcall
      refine inv.write rfl rfl ⟨?_, ?_, ?_⟩
      · show 0 ≤ newStake.val
        omega
      · intro slashed
        simp only [RelayNode.unstaked, hactive] at slashed
        split at slashed <;> cases slashed
      · intro inactive
        simp only [RelayNode.unstaked, MachineInt.lt_iff_val, hactive] at inactive ⊢
        split at inactive
        · rename_i short
          exact Or.inr short
        · exact absurd rfl inactive
  | finalizeUnstake hcall =>
      obtain ⟨-, entry, -, -, t, -, x, -, -, rfl⟩ := returns_finalizeUnstake.mp hcall
      exact inv
  | slash hcall =>
      obtain ⟨-, node, -, -, slashedAmount, -, rfl⟩ := returns_slash.mp hcall
      refine inv.write rfl rfl ⟨MachineInt.val_zero.ge, fun _ => MachineInt.val_zero, fun _ => ?_⟩
      exact Or.inl MachineInt.val_zero
  | @reinstateNode a _ hcall =>
      obtain ⟨-, node, hnode, hslashed, rfl⟩ := returns_reinstateNode.mp hcall
      have threshold := inv a node hnode
      have none := threshold.slashed hslashed
      exact inv.write rfl rfl ⟨threshold.nonneg, fun _ => none, fun _ => Or.inl none⟩
  | getNode => exact inv
  | isActive => exact inv

/-- The minimum is stored with the council. -/
theorem minStake_call {c : Call Address} {v : Value Address}
    (before : w.storage.adminCouncil = none → w.storage.minStake = none)
    (h : Returns (dispatch env c) w v w') :
    w'.storage.adminCouncil = none → w'.storage.minStake = none := by
  rcases configKept_call h with ⟨council, minStake, stakeLockPeriod, -, hcall⟩ | kept
  · obtain ⟨-, -, -, -, rfl⟩ := returns_initializeContract.mp hcall
    intro absent
    cases absent
  · rw [kept.adminCouncil, kept.minStake]
    exact before

/-- Every node is on its side of the minimum, from the deployment on. -/
theorem thresholds_reached (x : X)
    (as : List (Action Address X (Call Address) (Provision Address))) :
    Thresholds (machine.run (freshState x) as).storage := by
  have start : ((freshState x : State Address X).storage.adminCouncil = none →
      (freshState x : State Address X).storage.minStake = none) ∧
      Thresholds (freshState x : State Address X).storage := by
    refine ⟨fun _ => rfl, ?_⟩
    intro a node hnode
    cases hnode
  refine (machine.run_invariant (fun w => (w.storage.adminCouncil = none →
    w.storage.minStake = none) ∧ Thresholds w.storage) (fun w action inv => ?_) start as).2
  refine Deployed.step_storage (fun s => (s.adminCouncil = none → s.minStake = none) ∧
    Thresholds s) (fun env c w v w' inv h => ?_) (fun p s inv => ?_) w action inv
  · exact ⟨minStake_call inv.1 h, thresholds_call inv.2 inv.1 h⟩
  · cases p
    exact inv

end Thresholds

/-! ## The whole stake

An unstake of all that is staked asks for a positive amount and for no more than there is.  So if
it is signed and its unlock time does not overflow, only the status can refuse it.
-/

section Exit

variable {Address X : Type} [DecidableEq Address] {env : Env Address X} {w : State Address X}
  {a : Address} {node : RelayNode Address}

/-- An inactive node cannot take out anything. -/
theorem fails_unstake_nodeNotActive {amount : I128} (auth : env.authorised a = true)
    (positive : 0 < amount.val) (hnode : w.storage.relayNode.get a = some node)
    (notSlashed : node.status ≠ .slashed) (notActive : node.status ≠ .active) :
    Fails (unstake env a amount) w (.error .nodeNotActive) w := by
  simp [unstake, fails_bind, auth, hnode, notSlashed, notActive, not_le.mpr positive]

/-- The whole stake of the node `a` is on its way out. -/
structure StakeLeft (a : Address) (node : RelayNode Address) (w : State Address X) : Prop where
  /-- The node has nothing at stake. -/
  record : ∃ node', w.storage.relayNode.get a = some node' ∧ node'.stake = 0
  /-- What it had is pending. -/
  entry : ∃ entry, w.storage.lockEntry.get a = some entry ∧ entry.amount = node.stake

/-- An active node takes its whole stake out. -/
theorem unstake_whole (auth : env.authorised a = true)
    (hnode : w.storage.relayNode.get a = some node) (active : node.status = .active)
    (positive : 0 < node.stake.val)
    (unlocks : env.timestamp.val + (w.storage.stakeLockPeriod.getD 0).val ≤
      IntType.max ⟨false, 64⟩) :
    ∃ node' w', Returns (unstake env a node.stake) w node' w' ∧ StakeLeft a node w' := by
  have accepted : UnstakeAccepted env w a node.stake :=
    { authorised := auth
      positive := positive
      enough := ⟨node, hnode, active, le_rfl⟩
      unlocks := unlocks }
  obtain ⟨node', w', h⟩ := unstake_returns_iff.mpr accepted
  refine ⟨node', w', h, ?_⟩
  obtain ⟨-, -, n, hn, -, unlockAfter, -, -, newStake, hnew, rfl, -⟩ := returns_unstake.mp h
  obtain rfl : node = n := Option.some.inj (hnode.symm.trans hn)
  refine ⟨⟨_, Store.get_set_self _ _ _, ?_⟩, ⟨_, Store.get_set_self _ _ _, rfl⟩⟩
  apply MachineInt.ext
  rw [MachineInt.val_zero]
  exact hnew.trans (sub_self _)

/-- **The exit is open from the minimum on.**  Let a node that is not slashed have some
stake, and authorise an unstake of all of it, at a time at which the unlock time does not
overflow.  In every state reached from the deployment on, the unstake goes through exactly
when the node is active, and is answered `NodeNotActive` otherwise; and a node whose stake
reaches the minimum is active. -/
theorem unstake_whole_iff_active {x : X}
    {as : List (Action Address X (Call Address) (Provision Address))}
    (hnode : (machine.run (freshState x) as).storage.relayNode.get a = some node)
    (notSlashed : node.status ≠ .slashed) (positive : 0 < node.stake.val)
    (auth : env.authorised a = true)
    (unlocks : env.timestamp.val +
      ((machine.run (freshState x) as).storage.stakeLockPeriod.getD 0).val ≤
        IntType.max ⟨false, 64⟩) :
    let reached := machine.run (freshState x) as
    let answer := (machine.step reached (.call env (.unstake a node.stake))).1
    let after := (machine.step reached (.call env (.unstake a node.stake))).2
    (((∃ node', answer = some (.ok (.node node'))) ∧ StakeLeft a node after) ↔
        node.status = .active) ∧
      (answer = some (.error (.error .nodeNotActive)) ↔ node.status ≠ .active) ∧
      ((reached.storage.minStake.getD 0).val ≤ node.stake.val → node.status = .active) := by
  intro reached answer after
  have threshold : Threshold (reached.storage.minStake.getD 0).val node :=
    thresholds_reached x as a node hnode
  -- An inactive node has less than the minimum; this is the invariant `Threshold`.
  have reachesMinimum : (reached.storage.minStake.getD 0).val ≤ node.stake.val →
      node.status = .active := by
    intro enough
    by_contra inactive
    have short := threshold.inactive inactive
    omega
  by_cases active : node.status = .active
  · obtain ⟨node', w', h, left⟩ := unstake_whole auth hnode active positive unlocks
    have step : machine.step reached (.call env (.unstake a node.stake)) =
        (some (.ok (.node node')), w') :=
      Deployed.step_of_returns dispatch provide (returns_bind_pure.mpr ⟨node', h, rfl⟩)
    have answered : answer = some (.ok (.node node')) := congrArg Prod.fst step
    have reachedNext : after = w' := congrArg Prod.snd step
    refine ⟨iff_of_true ⟨⟨node', answered⟩, reachedNext ▸ left⟩ active, ?_, reachesMinimum⟩
    rw [answered]
    exact iff_of_false (by simp) (not_not.mpr active)
  · have failed : Fails (dispatch env (.unstake a node.stake)) reached (.error .nodeNotActive)
        reached :=
      fails_bind.mpr (Or.inl (fails_unstake_nodeNotActive auth positive hnode notSlashed active))
    have answered : answer = some (.error (.error .nodeNotActive)) :=
      Deployed.answer_of_fails dispatch provide failed
    refine ⟨?_, iff_of_true answered active, reachesMinimum⟩
    rw [answered]
    exact iff_of_false (by simp) active

end Exit

/-! ## A remainder below the minimum

The source leaves a node with a remainder below the minimum inactive, and `unstake` refuses an
inactive node; the way out is another stake.
-/

/-- With a minimum of 100, node 1 stakes 150 and takes 60 out. -/
def shortRemainder : List (Action ℕ (Balances ℕ) (Call ℕ) (Provision ℕ)) :=
  [.call (tokenLedger 0 5) (.initializeContract ⟨[7], 1⟩ 100 10),
    .provision (.setTokenAddress 9),
    .call (tokenLedger 0 5) (.register 1 ⟨HostString.fromStr "eu", 10, 99⟩),
    .call (tokenLedger 0 5) (.stake 1 150),
    .call (tokenLedger 0 5) (.unstake 1 60)]

/-- The remaining 90 are refused. -/
theorem shortRemainder_stranded :
    let reached := machine.run (freshState fundedRegistry.outside) shortRemainder
    reached.storage.tokenAddress = some 9 ∧
      (∃ node, reached.storage.relayNode.get 1 = some node ∧ node.status ≠ .slashed ∧
        node.stake = 90) ∧
      (tokenLedger 0 6 : Env ℕ (Balances ℕ)).authorised 1 = true ∧
      (tokenLedger 0 6 : Env ℕ (Balances ℕ)).timestamp.val +
        (reached.storage.stakeLockPeriod.getD 0).val ≤ IntType.max ⟨false, 64⟩ ∧
      (machine.step reached (.call (tokenLedger 0 6) (.unstake 1 90))).1 =
        some (.error (.error .nodeNotActive)) := by
  intro reached
  have hnode : reached.storage.relayNode.get 1 =
      some ⟨1, 90, .inactive, ⟨HostString.fromStr "eu", 10, 99⟩, 5, 5⟩ := by
    decide +kernel
  exact ⟨by decide +kernel, ⟨_, hnode, by decide, rfl⟩, rfl, by decide +kernel, by decide +kernel⟩

/-- Brought up to the minimum by another 10, the node takes its 100 out. -/
theorem unstake_whole_iff_active_toppedUp :
    ∃ node', (machine.step (machine.run (freshState fundedRegistry.outside)
        (shortRemainder ++ [.call (tokenLedger 0 6) (.stake 1 10)]))
      (.call (tokenLedger 0 6) (.unstake 1 100))).1 = some (.ok (.node node')) := by
  have hnode : (machine.run (freshState fundedRegistry.outside)
      (shortRemainder ++ [.call (tokenLedger 0 6) (.stake 1 10)])).storage.relayNode.get 1 =
        some ⟨1, 100, .active, ⟨HostString.fromStr "eu", 10, 99⟩, 5, 6⟩ := by
    decide +kernel
  have auth : (tokenLedger 0 6 : Env ℕ (Balances ℕ)).authorised 1 = true := rfl
  exact ((unstake_whole_iff_active hnode (by decide) (by decide) auth
    (by decide +kernel)).1.mpr rfl).1

end StellarConduit.RelayRegistry
