import StellarConduit.RelayRegistry.Invariant

/-!
# Where a node's stake goes

The tokens a node has staked are either still its stake, or pending in its lock
entry, or paid out by `finalize_unstake`, or seized by `slash`.  One step escapes
this account: `unstake` stores its lock entry under the node's key without
looking at what is stored there, so the amount of an earlier entry is dropped.

The account is kept in functions of a step: `stakedBy`, `paidTo`, `seizedFrom` and `overwritten`
are what a step moves for a node under each heading, and zero for most steps.  What a node holds,
`holdings`, is a function of the state, and changes in every step by their signed sum.  Summed
over a run this is an equation without exceptions, in which dropped amounts have a term of their
own; the account without this term is right exactly if the term is zero.

It is zero if and only if none of its summands is, since they are not negative, and a summand is
positive exactly for an `unstake` that is accepted while another is pending.

## Main definitions

* `holdings` — what is staked and pending for a node.
* `stakedBy`, `paidTo`, `seizedFrom`, `overwritten` — what a step moves.
* `StakeConserved` — the account without what is dropped.

## Main results

* `holdings_run` — along every run, what a node still holds is what it staked
  less what was paid, seized and dropped.
* `stakeConserved_iff` — nothing is dropped, at any moment of a run, exactly when
  no unstake was accepted while an earlier one was pending.
-/

namespace StellarConduit.RelayRegistry

open Soroban Contract

/-- A recorded step of the registry. -/
abbrev Step (Address X : Type) : Type :=
  Record (State Address X) (Action Address X (Call Address) (Provision Address))
    (Reply ContractError (Value Address))

section Amounts

variable {Address : Type} {council : AdminCouncil Address} {minStake : I128}
  {stakeLockPeriod : U32} {s : Storage Address}

/-- No stored stake is negative, and every lock entry holds something. -/
structure Amounts (s : Storage Address) : Prop where
  /-- No stake is negative, -/
  stake : ∀ a n, s.relayNode.get a = some n → 0 ≤ n.stake.val
  /-- and what is pending is positive. -/
  entry : ∀ a e, s.lockEntry.get a = some e → 0 < e.amount.val

/-- So it is in a registry that is in order. -/
theorem Invariant.amounts (inv : Invariant council minStake stakeLockPeriod s) : Amounts s where
  stake a n hn := (inv.node a n hn).stake_nonneg
  entry a e he := (inv.entry a e he).2.2

/-- With positive amounts, nothing is pending exactly when there is no entry. -/
theorem pendingAmount_eq_zero_iff (amounts : Amounts s) (n : Address) :
    pendingAmount (s.lockEntry.get n) = 0 ↔ (s.lockEntry.get n).isSome = false := by
  cases hentry : s.lockEntry.get n with
  | none => simp [pendingAmount]
  | some e => simp [pendingAmount, (amounts.entry n e hentry).ne']

/-- What is staked is not negative, also where there is no node. -/
theorem stakeAmount_nonneg (amounts : Amounts s) (n : Address) :
    0 ≤ stakeAmount (s.relayNode.get n) := by
  cases hnode : s.relayNode.get n with
  | none => exact le_refl 0
  | some node => exact amounts.stake n node hnode

/-- What is pending is not negative, also where there is no entry. -/
theorem pendingAmount_nonneg (amounts : Amounts s) (n : Address) :
    0 ≤ pendingAmount (s.lockEntry.get n) := by
  cases hentry : s.lockEntry.get n with
  | none => exact le_refl 0
  | some e => exact (amounts.entry n e hentry).le

/-- What the registry holds for `n`: its stake and its pending unstake. -/
def holdings (n : Address) (s : Storage Address) : Int :=
  stakeAmount (s.relayNode.get n) + pendingAmount (s.lockEntry.get n)

/-- The registry holds nothing negative for a node. -/
theorem holdings_nonneg (amounts : Amounts s) (n : Address) : 0 ≤ holdings n s :=
  add_nonneg (stakeAmount_nonneg amounts n) (pendingAmount_nonneg amounts n)

end Amounts

section Flows

variable {Address X : Type} [DecidableEq Address]

/-- The amount of a successful `stake` by `n`. -/
def stakedBy (n : Address) (r : Step Address X) : Int :=
  match r.action, r.reply with
  | .call _ (.stake a amount), some (.ok _) => if a = n then amount.val else 0
  | _, _ => 0

/-- The amount that a successful `finalize_unstake` paid to `n`. -/
def paidTo (n : Address) (r : Step Address X) : Int :=
  match r.action, r.reply with
  | .call _ (.finalizeUnstake a), some (.ok (.amount amount)) => if a = n then amount.val else 0
  | _, _ => 0

/-- What a successful `slash` seized from `n`: all the registry held for it. -/
def seizedFrom (n : Address) (r : Step Address X) : Int :=
  match r.action, r.reply with
  | .call _ (.slash a _), some (.ok _) => if a = n then holdings n r.before.storage else 0
  | _, _ => 0

/-- The pending amount of `n` that a successful `unstake` wrote over. -/
def overwritten (n : Address) (r : Step Address X) : Int :=
  match r.action, r.reply with
  | .call _ (.unstake a _), some (.ok _) =>
      if a = n then pendingAmount (r.before.storage.lockEntry.get n) else 0
  | _, _ => 0

/-- By how much a step changes the holdings of `n`. -/
def netFlow (n : Address) (r : Step Address X) : Int :=
  stakedBy n r - paidTo n r - seizedFrom n r - overwritten n r

/-! ## One step -/

/-- The net flow of a call that returned, by entry point. -/
theorem netFlow_call (n : Address) (w w' : State Address X) (env : Env Address X)
    (c : Call Address) (v : Value Address) :
    netFlow n ⟨w, .call env c, some (.ok v), w'⟩ =
      match c, v with
      | .stake a amount, _ => if a = n then amount.val else 0
      | .unstake a _, _ => if a = n then - pendingAmount (w.storage.lockEntry.get n) else 0
      | .finalizeUnstake a, .amount amount => if a = n then - amount.val else 0
      | .slash a _, _ => if a = n then - holdings n w.storage else 0
      | _, _ => 0 := by
  cases c <;> cases v <;> simp [netFlow, stakedBy, paidTo, seizedFrom, overwritten] <;>
    split <;> simp

/-- A call that returns moves the holdings by its net flow. -/
theorem holdings_call {council : AdminCouncil Address} {minStake : I128} {stakeLockPeriod : U32}
    {env : Env Address X} {c : Call Address} {w w' : State Address X} {v : Value Address}
    (inv : Invariant council minStake stakeLockPeriod w.storage)
    (h : Returns (dispatch env c) w v w') (n : Address) :
    holdings n w'.storage =
      holdings n w.storage + netFlow n ⟨w, .call env c, some (.ok v), w'⟩ := by
  have initialized : w.storage.adminCouncil.isSome := by rw [inv.adminCouncil]; rfl
  cases outcome_of_returns initialized h with
  | @stake a amount _ _ hcall =>
      obtain ⟨-, node, hnode, -, -, newStake, hnew, token, -, x, -, rfl⟩ := returns_stake.mp hcall
      by_cases hn : n = a
      · subst hn
        simp only [holdings, stakeAmount, RelayNode.staked, ge_iff_le, MachineInt.le_iff_val, hnew,
          Store.get_set_self, Option.elim_some, hnode, netFlow_call, ↓reduceIte]
        omega
      · simp [holdings, Store.get_set_of_ne _ _ hn, netFlow_call, Ne.symm hn]
  | @unstake a amount _ _ _ hcall =>
      obtain ⟨-, -, node, hnode, -, unlockAfter, -, -, newStake, hnew, rfl, -⟩ :=
        returns_unstake.mp hcall
      by_cases hn : n = a
      · subst hn
        -- What was pending before is in the flow as an outflow: the entry is overwritten.
        simp [holdings, stakeAmount, netFlow_call, hnode, RelayNode.unstaked, hnew, pendingAmount]
      · simp [holdings, Store.get_set_of_ne _ _ hn, netFlow_call, Ne.symm hn]
  | @finalizeUnstake a _ _ hcall =>
      obtain ⟨-, entry, hentry, -, token, -, x, -, rfl, rfl⟩ := returns_finalizeUnstake.mp hcall
      by_cases hn : n = a
      · subst hn
        simp [holdings, netFlow_call, hentry, pendingAmount]
      · simp [holdings, Store.get_remove_of_ne _ hn, netFlow_call, Ne.symm hn]
  | @slash a _ _ _ hcall =>
      obtain ⟨-, node, hnode, -, slashedAmount, -, rfl⟩ := returns_slash.mp hcall
      by_cases hn : n = a
      · subst hn
        simp [holdings, stakeAmount, netFlow_call, hnode, RelayNode.afterSlash, pendingAmount]
      · simp [holdings, Store.get_set_of_ne _ _ hn, Store.get_remove_of_ne _ hn, netFlow_call,
          Ne.symm hn]
  | other quiet kept =>
      have none : netFlow n ⟨w, .call env c, some (.ok v), w'⟩ = 0 := by
        cases c <;> first | exact absurd trivial quiet | simp [netFlow_call]
      rw [none, add_zero, holdings, kept.stake, kept.lockEntry]
      rfl

/-- The record of a call of the registry. -/
theorem record_call_cases (env : Env Address X) (c : Call Address) (w : State Address X) :
    (∃ v w', Returns (dispatch env c) w v w' ∧
        machine.record w (.call env c) = ⟨w, .call env c, some (.ok v), w'⟩) ∨
      ∃ e, machine.record w (.call env c) = ⟨w, .call env c, some (.error e), w⟩ :=
  Deployed.record_call_cases dispatch provide env c w

/-- Every step moves the holdings by its net flow; a failed call moves nothing. -/
theorem holdings_step {council : AdminCouncil Address} {minStake : I128} {stakeLockPeriod : U32}
    (n : Address) (w : State Address X)
    (action : Action Address X (Call Address) (Provision Address))
    (inv : Invariant council minStake stakeLockPeriod w.storage) :
    holdings n (machine.step w action).2.storage =
      holdings n w.storage + netFlow n (machine.record w action) := by
  refine Deployed.record_rule dispatch provide
    (fun r => holdings n r.after.storage = holdings n w.storage + netFlow n r) w action
    ?returned ?failed ?provision ?elsewhere
  case returned =>
    intro env c v w' h
    exact holdings_call inv h n
  case failed =>
    intro env c e
    simp [netFlow, stakedBy, paidTo, seizedFrom, overwritten]
  case provision =>
    intro p
    cases p
    simp [provide, holdings, netFlow, stakedBy, paidTo, seizedFrom, overwritten]
  case elsewhere =>
    intro x
    simp [netFlow, stakedBy, paidTo, seizedFrom, overwritten]

/-! ## Runs -/

variable {council : AdminCouncil Address} {minStake : I128} {stakeLockPeriod : U32} {x : X}
  {w : State Address X} {u : Unit}

/-- Along every run from an initialized registry, what a node still holds is
what it staked less what it was paid, what was seized from it, and what `unstake`
dropped. -/
theorem holdings_run
    (h : Returns (initializeContract council minStake stakeLockPeriod) (freshState x) u w)
    (as : List (Action Address X (Call Address) (Provision Address))) (n : Address) :
    holdings n (machine.run w as).storage =
      Machine.total (stakedBy n) (machine.trace w as)
        - Machine.total (paidTo n) (machine.trace w as)
        - Machine.total (seizedFrom n) (machine.trace w as)
        - Machine.total (overwritten n) (machine.trace w as) := by
  have start : holdings n w.storage = 0 := by
    obtain ⟨-, -, -, rfl⟩ := returns_initializeContract_freshState.mp h
    simp [initialState, Storage.fresh, holdings, stakeAmount, pendingAmount]
  have run := machine.potential_run
    (fun w => Invariant council minStake stakeLockPeriod w.storage)
    (fun w => holdings n w.storage) (netFlow n) invariant_step (holdings_step n)
    (invariant_initializeContract h) as
  rw [run, start, zero_add, ← Machine.total_sub, ← Machine.total_sub, ← Machine.total_sub]
  rfl

/-- The account of `n` after the actions `as`: all it staked is its stake, its
pending unstake, what `finalize_unstake` paid it, or what `slash` seized. -/
def StakeConserved (n : Address) (w : State Address X)
    (as : List (Action Address X (Call Address) (Provision Address))) : Prop :=
  Machine.total (stakedBy n) (machine.trace w as) =
    stakeAmount ((machine.run w as).storage.relayNode.get n)
      + pendingAmount ((machine.run w as).storage.lockEntry.get n)
      + Machine.total (paidTo n) (machine.trace w as)
      + Machine.total (seizedFrom n) (machine.trace w as)

instance (n : Address) (w : State Address X)
    (as : List (Action Address X (Call Address) (Provision Address))) :
    Decidable (StakeConserved n w as) :=
  inferInstanceAs (Decidable (_ = _))

/-- The account is right if nothing was dropped in all. -/
theorem stakeConserved_iff_total_overwritten
    (h : Returns (initializeContract council minStake stakeLockPeriod) (freshState x) u w)
    (as : List (Action Address X (Call Address) (Provision Address))) (n : Address) :
    StakeConserved n w as ↔ Machine.total (overwritten n) (machine.trace w as) = 0 := by
  have account := holdings_run h as n
  unfold holdings at account
  unfold StakeConserved
  omega

/-! ## When an unstake drops an earlier one -/

/-- The state and the arguments at which `unstake` goes through. -/
structure UnstakeAccepted (env : Env Address X) (w : State Address X) (a : Address)
    (amount : I128) : Prop where
  /-- The node has signed, -/
  authorised : env.authorised a = true
  /-- takes out something, -/
  positive : 0 < amount.val
  /-- is active and has as much at stake, -/
  enough : ∃ node, w.storage.relayNode.get a = some node ∧ node.status = .active ∧
    amount.val ≤ node.stake.val
  /-- and the time of unlocking is a `u64`. -/
  unlocks : env.timestamp.val + (w.storage.stakeLockPeriod.getD 0).val ≤ IntType.max ⟨false, 64⟩

/-- These are the conditions under which `unstake` returns. -/
theorem unstake_returns_iff {env : Env Address X} {w : State Address X} {a : Address}
    {amount : I128} :
    (∃ r w', Returns (unstake env a amount) w r w') ↔ UnstakeAccepted env w a amount := by
  simp only [returns_unstake]
  constructor
  · rintro ⟨_, _, hauth, hpos, node, hnode, hactive, unlockAfter, hunlock, hle, -⟩
    exact ⟨hauth, hpos, ⟨node, hnode, hactive, hle⟩, hunlock ▸ unlockAfter.le_max⟩
  · rintro ⟨hauth, hpos, ⟨node, hnode, hactive, hle⟩, hunlocks⟩
    have period := (MachineInt.u32_bounds (w.storage.stakeLockPeriod.getD 0)).1
    have now := (MachineInt.u64_bounds env.timestamp).1
    obtain ⟨unlockAfter, -, hunlock⟩ : ∃ c : U64, _ ∧ c.val = _ :=
      MachineInt.exists_checked (t := ⟨false, 64⟩) (show (0 : Int) ≤ _ by omega) hunlocks
    -- What remains lies between zero and the old stake, so it is an `i128`.
    have lower := node.stake.min_le
    have upper := node.stake.le_max
    obtain ⟨newStake, -, hnew⟩ : ∃ c : I128, _ ∧ c.val = node.stake.val - amount.val :=
      MachineInt.exists_checked (le_trans (IntType.zero_mem _).1 (by omega)) (by omega)
    exact ⟨_, _, hauth, hpos, node, hnode, hactive, unlockAfter, hunlock, hle, newStake, hnew,
      rfl, rfl⟩

/-- The action is an unstake by `n` that goes through while an earlier one is
pending. -/
def OverwritesPending (n : Address) (w : State Address X) :
    Action Address X (Call Address) (Provision Address) → Prop
  | .call env (.unstake a amount) =>
      a = n ∧ UnstakeAccepted env w a amount ∧ (w.storage.lockEntry.get n).isSome
  | _ => False

/-- A step drops an amount exactly when it is such an unstake. -/
theorem overwritten_eq_zero_iff (n : Address) (w : State Address X)
    (action : Action Address X (Call Address) (Provision Address))
    (inv : Invariant council minStake stakeLockPeriod w.storage) :
    overwritten n (machine.record w action) = 0 ↔ ¬ OverwritesPending n w action := by
  cases action with
  | call env c =>
      cases c with
      | unstake a amount =>
          by_cases accepted : UnstakeAccepted env w a amount
          · obtain ⟨r, w', hcall⟩ := unstake_returns_iff.mpr accepted
            have hrecord := Deployed.record_of_returns dispatch provide
              (c := .unstake a amount) (returns_bind_pure.mpr ⟨r, hcall, rfl⟩)
            by_cases hn : a = n
            · subst hn
              simp [machine, hrecord, overwritten, OverwritesPending, accepted,
                pendingAmount_eq_zero_iff inv.amounts]
            · simp [machine, hrecord, overwritten, OverwritesPending, hn]
          · rcases record_call_cases env (.unstake a amount) w with
              ⟨v, w', h, -⟩ | ⟨e, hrecord⟩
            · obtain ⟨r, hcall, -⟩ := returns_bind_pure.mp h
              exact absurd (unstake_returns_iff.mp ⟨r, w', hcall⟩) accepted
            · simp [hrecord, overwritten, OverwritesPending, accepted]
      | _ => simp [overwritten, OverwritesPending, Machine.record]
  | provision p => simp [overwritten, OverwritesPending, Machine.record]
  | elsewhere x => simp [overwritten, OverwritesPending, Machine.record]

end Flows

section Account

variable {Address X : Type} [DecidableEq Address]
variable {council : AdminCouncil Address} {minStake : I128} {stakeLockPeriod : U32} {x : X}
  {w : State Address X} {u : Unit}

/-- **A node's stake is accounted for at every moment of a run exactly when no
unstake of the node goes through while an earlier one is pending.** -/
theorem stakeConserved_iff
    (h : Returns (initializeContract council minStake stakeLockPeriod) (freshState x) u w)
    (as : List (Action Address X (Call Address) (Provision Address))) (n : Address) :
    (∀ pre, pre <+: as → StakeConserved n w pre) ↔
      ∀ r ∈ machine.trace w as, ¬ OverwritesPending n r.before r.action := by
  have start := invariant_initializeContract h
  calc (∀ pre, pre <+: as → StakeConserved n w pre)
      ↔ ∀ pre, pre <+: as → Machine.total (overwritten n) (machine.trace w pre) = 0 := by
        simp only [stakeConserved_iff_total_overwritten h]
    _ ↔ ∀ r ∈ machine.trace w as, overwritten n r = 0 :=
        machine.sum_prefixes_eq_zero_iff (overwritten n) w as
    _ ↔ ∀ r ∈ machine.trace w as, ¬ OverwritesPending n r.before r.action := by
        refine forall₂_congr fun r hr => ?_
        have inv := machine.trace_invariant
          (fun w => Invariant council minStake stakeLockPeriod w.storage)
          invariant_step start hr
        obtain ⟨pre, action, post, -, rfl⟩ := machine.mem_trace.mp hr
        exact overwritten_eq_zero_iff n (machine.run w pre) action inv

end Account

/-! ## The account of two unstakes in a row -/

/-- A ledger at time 5 on which every address authorises and every call goes
through. -/
def sampleEnv : Env ℕ Unit where
  currentContract := 0
  sequence := 0
  timestamp := 5
  authorised := fun _ => true
  invokeContract := fun _ _ _ x => some x

/-- Node 1 stakes 300 and unstakes 50, then 60 before the first has been
finalized. -/
def doubleUnstake : List (Action ℕ Unit (Call ℕ) (Provision ℕ)) :=
  [.provision (.setTokenAddress 9),
    .call sampleEnv (.register 1 ⟨HostString.fromStr "eu", 10, 99⟩),
    .call sampleEnv (.stake 1 300),
    .call sampleEnv (.unstake 1 50),
    .call sampleEnv (.unstake 1 60)]

/-- Of the 300 staked, 190 are stake, 60 are pending, and 50 are gone. -/
theorem doubleUnstake_not_conserved :
    Returns (initializeContract ⟨[7], 1⟩ 100 10) (freshState ()) () sampleRegistry ∧
      ¬ StakeConserved 1 sampleRegistry doubleUnstake :=
  ⟨sampleRegistry_initialized, by decide +kernel⟩

/-- The sample run unstakes twice, so its account is wrong. -/
theorem stakeConserved_iff_doubleUnstake :
    (∀ pre, pre <+: doubleUnstake → StakeConserved 1 sampleRegistry pre) ↔
      ∀ r ∈ machine.trace sampleRegistry doubleUnstake, ¬ OverwritesPending 1 r.before r.action :=
  stakeConserved_iff sampleRegistry_initialized doubleUnstake 1

end StellarConduit.RelayRegistry
