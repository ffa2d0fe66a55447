import StellarConduit.RelayRegistry.StakeLedger

/-!
# What `finalize_unstake` pays for

`finalize_unstake` looks at nothing but the lock entry, so what can be said of a
payout is what can be said of the entry it finds.  An entry found at any moment of a
run is traced to the step that wrote it: the last step that touched the node's entry
was an `unstake` of its amount, and the entry unlocks a lock period after it.

`Traced` is this history as an invariant on a state together with the trace that has led to it.
A new `unstake` starts a new history; a payout and a slash end one, since they remove the entry;
everything else is appended to the steps after the `unstake`, none of which has touched the
entry.  So from a payout one can go back to exactly one `unstake`, and no `unstake` is gone back
to from two payouts.

The second result is about amounts.  When a node is slashed, nothing is staked or pending for it,
and from there on what it is paid comes out of what it stakes anew: the holdings of the node are
a potential, which a stake raises and a payout lowers by its amount.

## Main results

* `Traced`, `traced_run` — the history behind a lock entry, at every moment of a run.
* `payout_matches_unstake` — every payout is for one unstake, and for one that has
  matured.
* `paid_after_slash_le_staked` — what is paid after a slash was staked after it.
-/

namespace StellarConduit.RelayRegistry

open Soroban Contract Machine

section History

variable {Address X : Type}

/-- The calls that write or remove the lock entry of `n`. -/
def WritesEntry (n : Address) : Call Address → Prop
  | .unstake a _ | .finalizeUnstake a | .slash a _ => a = n
  | _ => False

/-- The step is a call that returned and that wrote or removed the lock entry of `n`:
a successful `unstake`, `finalize_unstake` or `slash` of `n`. -/
def TouchesEntry (n : Address) (r : Step Address X) : Prop :=
  ∃ env c v, r.action = .call env c ∧ r.reply = some (.ok v) ∧ WritesEntry n c

/-- The step is a successful `unstake` of `amount` by `n`, on the ledger of `env`. -/
def Unstakes (n : Address) (amount : I128) (env : Env Address X) (r : Step Address X) : Prop :=
  r.action = .call env (.unstake n amount) ∧ ∃ v, r.reply = some (.ok v)

/-- The lock entry of `n`, if there is one, goes back to an `unstake` of its amount
after which nothing touched it, a lock period before it unlocks. -/
def Traced (n : Address) (stakeLockPeriod : U32) (s : Storage Address)
    (hist : List (Step Address X)) : Prop :=
  ∀ e, s.lockEntry.get n = some e → ∃ u, IsLast (TouchesEntry n) u hist ∧
    ∃ env, Unstakes n e.amount env u ∧
      e.unlocksAt.val = env.timestamp.val + stakeLockPeriod.val

variable {n : Address} {stakeLockPeriod : U32} {s s' : Storage Address}
  {hist : List (Step Address X)}

/-- A step that does not touch the entry leaves its history as it is. -/
theorem Traced.append (h : Traced n stakeLockPeriod s hist) {r : Step Address X}
    (untouched : ¬ TouchesEntry n r) (same : s'.lockEntry.get n = s.lockEntry.get n) :
    Traced n stakeLockPeriod s' (hist ++ [r]) := by
  intro e he
  rw [same] at he
  obtain ⟨u, last, hu⟩ := h e he
  exact ⟨u, last.append untouched, hu⟩

/-! ## One step

A lock entry is written by `unstake` and removed by a payout or a slash, and these are the calls
that touch it.  So a step either leaves the entry and is appended to its history, or ends the
history, or starts a new one with itself.
-/

variable [DecidableEq Address] {council : AdminCouncil Address} {minStake : I128}

/-- A call that returns and does not write the entry of `n` leaves it alone. -/
theorem lockEntry_of_not_writesEntry {env : Env Address X} {c : Call Address}
    {w w' : State Address X} {v : Value Address} (initialized : w.storage.adminCouncil.isSome)
    (h : Returns (dispatch env c) w v w') (other : ¬ WritesEntry n c) :
    w'.storage.lockEntry.get n = w.storage.lockEntry.get n := by
  cases outcome_of_returns initialized h with
  | stake hcall =>
      obtain ⟨-, _, -, -, -, _, -, _, -, _, -, rfl⟩ := returns_stake.mp hcall
      rfl
  | unstake hcall =>
      obtain ⟨-, -, _, -, -, _, -, -, _, -, rfl, -⟩ := returns_unstake.mp hcall
      exact Store.get_set_of_ne _ _ (Ne.symm other)
  | finalizeUnstake hcall =>
      obtain ⟨-, _, -, -, _, -, _, -, -, rfl⟩ := returns_finalizeUnstake.mp hcall
      exact Store.get_remove_of_ne _ (Ne.symm other)
  | slash hcall =>
      obtain ⟨-, _, -, -, _, -, rfl⟩ := returns_slash.mp hcall
      exact Store.get_remove_of_ne _ (Ne.symm other)
  | other quiet kept => rw [kept.lockEntry]

/-- A call that returns and writes the entry of `n` removes it, or is an `unstake`
that leaves its own. -/
theorem lockEntry_of_writesEntry {env : Env Address X} {c : Call Address}
    {w w' : State Address X} {v : Value Address} (initialized : w.storage.adminCouncil.isSome)
    (h : Returns (dispatch env c) w v w') (writes : WritesEntry n c) :
    w'.storage.lockEntry.get n = none ∨
      ∃ e : StakeEntry Address, w'.storage.lockEntry.get n = some e ∧ c = .unstake n e.amount ∧
        e.unlocksAt.val = env.timestamp.val + (w.storage.stakeLockPeriod.getD 0).val := by
  cases outcome_of_returns initialized h with
  | stake hcall => cases writes
  | unstake hcall =>
      obtain rfl := writes
      obtain ⟨-, -, _, -, -, unlockAfter, unlocks, -, _, -, rfl, -⟩ := returns_unstake.mp hcall
      exact Or.inr ⟨_, Store.get_set_self _ _ _, rfl, unlocks⟩
  | finalizeUnstake hcall =>
      obtain rfl := writes
      obtain ⟨-, _, -, -, _, -, _, -, -, rfl⟩ := returns_finalizeUnstake.mp hcall
      exact Or.inl (Store.get_remove_self _ _)
  | slash hcall =>
      obtain rfl := writes
      obtain ⟨-, _, -, -, _, -, rfl⟩ := returns_slash.mp hcall
      exact Or.inl (Store.get_remove_self _ _)
  | other quiet kept =>
      refine absurd ?_ quiet
      cases c <;> first | exact trivial | cases writes

/-- Every step keeps the lock entry traced. -/
theorem traced_step (w : State Address X)
    (action : Action Address X (Call Address) (Provision Address))
    (inv : Invariant council minStake stakeLockPeriod w.storage)
    (h : Traced n stakeLockPeriod w.storage hist) :
    Traced n stakeLockPeriod (machine.step w action).2.storage
      (hist ++ [machine.record w action]) := by
  refine Deployed.record_rule dispatch provide
    (fun r => Traced n stakeLockPeriod r.after.storage (hist ++ [r])) w action
    ?returned ?failed ?provision ?elsewhere
  case returned =>
    intro env c v w' hcall
    have initialized : w.storage.adminCouncil.isSome := by rw [inv.adminCouncil]; rfl
    by_cases writes : WritesEntry n c
    · -- A call that writes the entry has removed it, or is itself the unstake that it goes back
      -- to.
      rcases lockEntry_of_writesEntry initialized hcall writes with
        hnone | ⟨e, he, rfl, unlocks⟩
      · intro e he
        rw [hnone] at he
        cases he
      · intro e' he'
        obtain rfl : e = e' := Option.some.inj (he.symm.trans he')
        rw [inv.stakeLockPeriod] at unlocks
        exact ⟨_, isLast_append_self ⟨env, _, v, rfl, rfl, writes⟩ hist, env, ⟨rfl, v, rfl⟩, unlocks⟩
    · refine h.append ?_ (lockEntry_of_not_writesEntry initialized hcall writes)
      rintro ⟨_, _, _, ⟨⟩, -, hwrites⟩
      exact writes hwrites
  case failed =>
    intro env c e
    refine h.append ?_ rfl
    rintro ⟨_, _, _, -, ⟨⟩, -⟩
  case provision =>
    intro p
    cases p
    refine h.append ?_ rfl
    rintro ⟨_, _, _, ⟨⟩, -, -⟩
  case elsewhere =>
    intro x
    refine h.append ?_ rfl
    rintro ⟨_, _, _, ⟨⟩, -, -⟩

/-! ## Runs

The invariant speaks of the state and of the trace that has led to it, so the induction is over
runs with their traces.
-/

variable {x : X} {w : State Address X} {u : Unit}

/-- At every moment of a run, lock entries are traced through the steps before it. -/
theorem traced_run
    (h : Returns (initializeContract council minStake stakeLockPeriod) (freshState x) u w)
    (as : List (Action Address X (Call Address) (Provision Address))) (n : Address) :
    Traced n stakeLockPeriod (machine.run w as).storage (machine.trace w as) := by
  have start : Traced n stakeLockPeriod w.storage ([] : List (Step Address X)) := by
    obtain ⟨-, -, -, rfl⟩ := returns_initializeContract_freshState.mp h
    intro e he
    cases he
  refine (machine.trace_run (fun w hist => Invariant council minStake stakeLockPeriod w.storage ∧
    Traced n stakeLockPeriod w.storage hist) ?_ ⟨invariant_initializeContract h, start⟩ as).2
  rintro w action hist ⟨inv, traced⟩
  exact ⟨invariant_step w action inv, traced_step w action inv traced⟩

/-- What a successful `finalize_unstake` found in storage and did. -/
theorem finalizeUnstake_record {w : State Address X}
    {action : Action Address X (Call Address) (Provision Address)} {env : Env Address X}
    {n : Address} {v : Value Address}
    (haction : (machine.record w action).action = .call env (.finalizeUnstake n))
    (hreply : (machine.record w action).reply = some (.ok v)) :
    ∃ amount, v = .amount amount ∧
      Returns (finalizeUnstake env n) w amount (machine.record w action).after := by
  have call := Deployed.returns_of_reply dispatch provide rfl haction hreply
  obtain ⟨amount, hfinalize, hvalue⟩ := returns_bind_pure.mp call
  exact ⟨amount, hvalue, hfinalize⟩

/-- **Every payout matches one matured unstake.**  A successful `finalize_unstake` of
`n` transfers exactly the amount of an earlier successful `unstake` of `n`, at least a
lock period later; since that unstake no `unstake`, `finalize_unstake` or `slash` of
`n` succeeded. -/
theorem payout_matches_unstake
    (h : Returns (initializeContract council minStake stakeLockPeriod) (freshState x) u w)
    {as : List (Action Address X (Call Address) (Provision Address))}
    {hist post : List (Step Address X)} {r : Step Address X}
    (split : machine.trace w as = hist ++ r :: post) {env : Env Address X} {n : Address}
    {v : Value Address} (action : r.action = .call env (.finalizeUnstake n))
    (reply : r.reply = some (.ok v)) :
    ∃ amount, v = .amount amount ∧
      (∃ token, r.before.storage.tokenAddress = some token ∧
        env.invokeContract token "transfer"
          [.address env.currentContract, .address n, .i128 amount] r.before.outside =
            some r.after.outside) ∧
      ∃ unstaked, IsLast (TouchesEntry n) unstaked hist ∧
        ∃ env', Unstakes n amount env' unstaked ∧
          env'.timestamp.val + stakeLockPeriod.val ≤ env.timestamp.val := by
  obtain ⟨pre, a, rest, rfl, rfl, rfl, -⟩ := machine.trace_split split
  obtain ⟨amount, rfl, hcall⟩ := finalizeUnstake_record action reply
  obtain ⟨-, entry, hentry, matured, token, htoken, x', htransfer, rfl, hafter⟩ :=
    returns_finalizeUnstake.mp hcall
  obtain ⟨unstaked, last, env', hunstaked, unlocks⟩ := traced_run h pre n entry hentry
  refine ⟨entry.amount, rfl, ⟨token, htoken, ?_⟩, unstaked, last, env', hunstaked, ?_⟩
  · rw [hafter]
    exact htransfer
  · rw [← unlocks]
    exact matured

/-! ## After a slash

What the node holds with the registry is nothing after the slash, grows by what is staked, and
pays for every payout.  The inequality is between the sums of these over the run.
-/

/-- A slash leaves nothing of the node with the registry. -/
theorem holdings_after_slash {w : State Address X}
    {action : Action Address X (Call Address) (Provision Address)}
    (inv : Invariant council minStake stakeLockPeriod w.storage) {env : Env Address X}
    {n : Address} {reason : HostString} {v : Value Address}
    (haction : (machine.record w action).action = .call env (.slash n reason))
    (hreply : (machine.record w action).reply = some (.ok v)) :
    holdings n (machine.record w action).after.storage = 0 := by
  have flow := holdings_step n w action inv
  obtain rfl : action = .call env (.slash n reason) := haction
  rcases record_call_cases env (.slash n reason) w with ⟨v', w', hcall, hrecord⟩ | ⟨e, hrecord⟩
  · rw [hrecord, netFlow_call] at flow
    simp only [if_true] at flow
    rw [Machine.record_after, flow]
    omega
  · rw [hrecord] at hreply
    cases hreply

/-- No step pays more than what was held and what is staked with it. -/
theorem holdings_budget (n : Address) (w : State Address X)
    (action : Action Address X (Call Address) (Provision Address))
    (inv : Invariant council minStake stakeLockPeriod w.storage) :
    holdings n (machine.step w action).2.storage + paidTo n (machine.record w action) ≤
      holdings n w.storage + stakedBy n (machine.record w action) := by
  have flow := holdings_step n w action inv
  have seized : 0 ≤ seizedFrom n (machine.record w action) := by
    unfold seizedFrom
    split
    · split
      · exact holdings_nonneg inv.amounts n
      · exact le_refl 0
    · exact le_refl 0
  have dropped : 0 ≤ overwritten n (machine.record w action) := by
    unfold overwritten
    split
    · split
      · exact pendingAmount_nonneg inv.amounts n
      · exact le_refl 0
    · exact le_refl 0
  rw [netFlow] at flow
  omega

/-- **Slashing is final for the money.**  After a successful `slash` of a node, what
`finalize_unstake` pays it is at most what it stakes, whatever else happens. -/
theorem paid_after_slash_le_staked
    (h : Returns (initializeContract council minStake stakeLockPeriod) (freshState x) u w)
    {as : List (Action Address X (Call Address) (Provision Address))}
    {hist post : List (Step Address X)} {r : Step Address X}
    (split : machine.trace w as = hist ++ r :: post) {env : Env Address X} {n : Address}
    {reason : HostString} {v : Value Address} (action : r.action = .call env (.slash n reason))
    (reply : r.reply = some (.ok v)) :
    Machine.total (paidTo n) post ≤ Machine.total (stakedBy n) post := by
  obtain ⟨pre, a, rest, rfl, rfl, rfl, rfl⟩ := machine.trace_split split
  have before := invariant_run h pre
  have after : Invariant council minStake stakeLockPeriod
      (machine.record (machine.run w pre) a).after.storage := invariant_step _ a before
  have slashed := holdings_after_slash before action reply
  have budget := machine.budget_run
    (fun w => Invariant council minStake stakeLockPeriod w.storage)
    (fun w => holdings n w.storage) (paidTo n) (stakedBy n) invariant_step (holdings_budget n)
    after rest
  have reached := machine.run_invariant
    (fun w => Invariant council minStake stakeLockPeriod w.storage) invariant_step after rest
  have final := holdings_nonneg reached.amounts n
  omega

end History

/-! ## A node that is paid, and one that is slashed -/

/-- Node 1 stakes 300 and unstakes 50. -/
def oneUnstake : List (Action ℕ Unit (Call ℕ) (Provision ℕ)) :=
  [.provision (.setTokenAddress 9),
    .call sampleEnv (.register 1 ⟨HostString.fromStr "eu", 10, 99⟩),
    .call sampleEnv (.stake 1 300),
    .call sampleEnv (.unstake 1 50)]

/-- `sampleEnv`, once the lock period of 10 is over. -/
def laterEnv : Env ℕ Unit := { sampleEnv with timestamp := 20 }

/-- The payout of the 50. -/
theorem payout_matches_unstake_oneUnstake :
    ∃ u, IsLast (TouchesEntry 1) u (machine.trace sampleRegistry oneUnstake) ∧
      ∃ env', Unstakes 1 50 env' u ∧ env'.timestamp.val + 10 ≤ 20 := by
  have reply : (machine.record (machine.run sampleRegistry oneUnstake)
      (.call laterEnv (.finalizeUnstake 1))).reply = some (.ok (.amount 50)) := by decide +kernel
  obtain ⟨amount, hamount, -, h⟩ := payout_matches_unstake sampleRegistry_initialized
    (machine.trace_append sampleRegistry oneUnstake [.call laterEnv (.finalizeUnstake 1)]) rfl reply
  obtain rfl : 50 = amount := Value.amount.inj hamount
  exact h

/-- The registry after a slash of node 1 that comes before the payout. -/
def slashedRegistry : State ℕ Unit :=
  (machine.step (machine.run sampleRegistry oneUnstake)
    (.call sampleEnv (.slash 1 (HostString.fromStr "fraud")))).2

/-- The node is reinstated, stakes 200, and is paid the 70 it unstakes. -/
def secondLife : List (Action ℕ Unit (Call ℕ) (Provision ℕ)) :=
  [.call sampleEnv (.reinstateNode 1), .call sampleEnv (.stake 1 200),
    .call sampleEnv (.unstake 1 70), .call laterEnv (.finalizeUnstake 1)]

/-- A node that is reinstated, stakes again and leaves. -/
theorem paid_after_slash_le_staked_secondLife :
    Machine.total (paidTo 1) (machine.trace slashedRegistry secondLife) ≤
      Machine.total (stakedBy 1) (machine.trace slashedRegistry secondLife) := by
  have reply : (machine.record (machine.run sampleRegistry oneUnstake)
      (.call sampleEnv (.slash 1 (HostString.fromStr "fraud")))).reply = some (.ok .unit) := by
    decide +kernel
  exact paid_after_slash_le_staked sampleRegistry_initialized
    (machine.trace_append sampleRegistry oneUnstake
      (.call sampleEnv (.slash 1 (HostString.fromStr "fraud")) :: secondLife)) rfl reply

end StellarConduit.RelayRegistry
