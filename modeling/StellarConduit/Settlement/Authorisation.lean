import StellarConduit.Settlement.Conservation
import StellarConduit.FeeDistributor.Bounds

/-!
# Who may take the distributor's tokens

After its own transfer to the treasury, `distribute` calls the treasury's `deposit`,
which asks the token for another one, out of the distributor's account.  The token asks
the host whether the distributor has authorised it, and the host answers by who called
the token: this time the treasury.  `distribute` does not authorise calls of others
(`authorize_as_current_contract`), so the answer is no.

## Main results

* `storage_run` — what the distributor's calls preserve of its storage holds along
  every run of the composed system.
* `distribute_returns_iff` — under the host's rule, a distribution goes through exactly
  when it has nothing to pay to the treasury.
-/

namespace StellarConduit.Settlement

open Soroban Contract

section Runs

variable {Address : Type} [DecidableEq Address] {chain : Chain Address}

/-- Nothing but the distributor's own calls changes its storage. -/
theorem storage_step (Inv : FeeDistributor.Storage Address → Prop)
    (hcall : ∀ (tx : Tx chain) c v (s s' : State Address), Inv s.storage →
      Returns (FeeDistributor.dispatch tx.distributorEnv c) s v s' → Inv s'.storage)
    (s : State Address) (action : Action chain) (inv : Inv s.storage) :
    Inv ((machine chain).step s action).2.storage :=
  step_invariant (fun s => Inv s.storage) hcall (fun _ _ _ _ _ inv _ => inv) (fun _ _ inv => inv)
    s action inv

/-- What the distributor's calls preserve of its storage holds along every run. -/
theorem storage_run (Inv : FeeDistributor.Storage Address → Prop)
    (hcall : ∀ (tx : Tx chain) c v (s s' : State Address), Inv s.storage →
      Returns (FeeDistributor.dispatch tx.distributorEnv c) s v s' → Inv s'.storage)
    {s : State Address} (start : Inv s.storage) (as : List (Action chain)) :
    Inv ((machine chain).run s as).storage :=
  (machine chain).run_invariant (fun s => Inv s.storage) (storage_step Inv hcall) start as

end Runs

section Authorisation

variable {Address : Type} [DecidableEq Address] {chain : Chain Address} {tx : Tx chain}
  {s : State Address}

/-- The host's rule for a contract that does not authorise the calls of others:
`require_auth` on the distributor returns only in a contract that the distributor
itself has called. -/
def HostRule (tx : Tx chain) : Prop :=
  ∀ caller, tx.authorised (some caller) chain.distributor = true → caller = chain.distributor

omit [DecidableEq Address] in
/-- Under the host's rule no deposit of the distributor is accepted: the treasury is
not the distributor. -/
theorem not_depositAccepted (rule : HostRule tx) (t : Treasury.State Address (Balances Address))
    (amount : I128) : ¬ DepositAccepted tx t amount := fun accepted =>
  chain.treasury_ne_distributor (rule chain.treasury accepted.nested)

/-- Under the host's rule the treasury is paid exactly a share that is not positive. -/
theorem paysTreasury_iff_not_pos (wired : Wired chain s) (rule : HostRule tx) {share : I128} :
    (∃ t, FeeDistributor.PaysTreasury tx.distributorEnv s.storage share s.outside t) ↔
      ¬ 0 < share.val := by
  constructor
  · rintro ⟨t, pays⟩ positive
    obtain ⟨-, hdeposit⟩ := (paysTreasury_iff wired positive).mp pays
    exact not_depositAccepted rule _ share ((deposit_returns_iff wired _).mp ⟨t, hdeposit⟩)
  · intro zero
    exact ⟨s.outside, by rw [FeeDistributor.PaysTreasury, if_neg zero]⟩

variable {council : AdminCouncil Address} {feeRateBps treasuryShareBps : U32}
  {t : Treasury.State Address (Balances Address)} {u : Unit}

/-- **Under the host's authorisation rule, a distribution goes through exactly when it
has nothing to pay to the treasury.**  In every reachable state, a new batch that is
not empty is distributed if and only if the treasury's part of its fee is less than one
unit. -/
theorem distribute_returns_iff
    (h : Returns (FeeDistributor.initializeContract council feeRateBps treasuryShareBps
      chain.treasury chain.token) (FeeDistributor.freshState t) u s)
    (hcouncil : t.storage.adminCouncil.isSome)
    (htoken : t.storage.tokenAddress = some chain.token) (as : List (Action chain))
    (rule : HostRule tx) {config : FeeDistributor.FeeConfig Address}
    (hconfig : ((machine chain).run s as).storage.feeConfig = some config) {batchId : U64}
    (fresh : ((machine chain).run s as).storage.feeEntry.get batchId = none) {batchSize : U32}
    (nonempty : batchSize ≠ 0) (a : Address) :
    (∃ s', Returns (FeeDistributor.distribute tx.distributorEnv a batchId batchSize)
        ((machine chain).run s as) () s') ↔
      batchSize.val * config.feeRateBps.val / 10000 * config.treasuryShareBps.val < 10000 := by
  have wired : Wired chain ((machine chain).run s as) := (machine chain).run_invariant (Wired chain)
    wired_step (wired_initializeContract h hcouncil htoken) as
  have range := storage_run
    (fun s => FeeDistributor.Configured treasuryShareBps s ∧ FeeDistributor.WithinRange s)
    (fun _ _ _ _ _ inv hcall => ⟨FeeDistributor.configured_call inv.1 hcall,
      FeeDistributor.withinRange_call inv.1 inv.2 hcall⟩)
    ⟨FeeDistributor.configured_initializeContract h,
      FeeDistributor.withinRange_initializeContract h⟩ as
  -- The share is the part of the fee, rounded down.
  have nonneg :
      0 ≤ FeeDistributor.feeOf batchSize config.feeRateBps * config.treasuryShareBps.val :=
    mul_nonneg (FeeDistributor.feeOf_bounds _ _).1 (MachineInt.u32_bounds _).1
  have share_eq : FeeDistributor.shareOf (FeeDistributor.feeOf batchSize config.feeRateBps)
      config.treasuryShareBps =
        FeeDistributor.feeOf batchSize config.feeRateBps * config.treasuryShareBps.val / 10000 :=
    rfl
  show _ ↔ FeeDistributor.feeOf batchSize config.feeRateBps * config.treasuryShareBps.val < 10000
  constructor
  · rintro ⟨s', hcall⟩
    obtain ⟨-, -, config', hconfig', fee, hfee, share, hshare, payout, -, totalEarned, -, unclaimed,
      -, t', hpays, -⟩ := FeeDistributor.returns_distribute.mp hcall
    obtain rfl : config = config' := Option.some.inj (hconfig.symm.trans hconfig')
    have zero := (paysTreasury_iff_not_pos wired rule).mp ⟨t', hpays⟩
    rw [hshare, hfee, share_eq] at zero
    omega
  · intro small
    obtain ⟨config', hconfig', -, rate⟩ := range.1
    obtain rfl : config = config' := Option.some.inj (hconfig.symm.trans hconfig')
    refine FeeDistributor.distribute_returns hconfig rate range.2 fresh nonempty
      fun share hshare => ?_
    apply (paysTreasury_iff_not_pos wired rule).mpr
    rw [hshare, share_eq]
    omega

end Authorisation

/-! ## The host's rule -/

/-- A transaction signed by all but the distributor, under the host's rule: a contract's
authorisation goes no further than the calls it makes itself. -/
def directTx : Tx sampleChain where
  sequence := 0
  timestamp := 5
  authorised := fun caller a => if a = 1 then caller == some 1 else true
  accepts := fun b sender _ amount => decide (0 ≤ amount.val ∧ amount.val ≤ b sender)
  invoker c := by
    by_cases h : c = 1
    · simp [h]
    · simp [h]
  unsigned := rfl

theorem directTx_hostRule : HostRule directTx := fun caller h => by
  simpa [directTx, sampleChain] using h

/-- The distributor holds a million, the share of a batch of ten thousand is 5, and to
distribute it traps on the call of the treasury. -/
theorem sampleSystem_distribute_traps :
    Returns (FeeDistributor.initializeContract ⟨[7], 1⟩ 50 1000 sampleChain.treasury
        sampleChain.token) (FeeDistributor.freshState sampleTreasury) () sampleSystem ∧
      HostRule directTx ∧ tokenBalance sampleSystem 1 = 1000000 ∧
      sampleSystem.storage.feeEntry.get 1 = none ∧
      (FeeDistributor.distribute directTx.distributorEnv 10 1 10000 sampleSystem).1 =
        .error (.trap .crossCall) :=
  ⟨sampleSystem_initialized, directTx_hostRule, rfl, rfl, by decide +kernel⟩

theorem distribute_returns_iff_directTx :
    (∃ s', Returns (FeeDistributor.distribute directTx.distributorEnv 10 1 10000)
        ((machine sampleChain).run sampleSystem []) () s') ↔
      (10000 : U32).val * (50 : U32).val / 10000 * (1000 : U32).val < 10000 :=
  distribute_returns_iff sampleSystem_initialized rfl rfl [] directTx_hostRule rfl rfl (by decide) 10

end StellarConduit.Settlement
