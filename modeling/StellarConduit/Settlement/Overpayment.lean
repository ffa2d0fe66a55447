import StellarConduit.FeeDistributor.Nonneg
import StellarConduit.Settlement.Authorisation
import StellarConduit.Settlement.Books

/-!
# What the treasury is given of a fee

A batch is split by its fee entry: the treasury's share is entered, and the rest goes to the
relay.  As long as the share is at most the whole fee, nothing in the distributor's books is
ever negative (`FeeDistributor.neverNegative_iff`).  The tokens are another matter.
`distribute` transfers the share to the treasury and then has the treasury's `deposit` take it
once more, so what the treasury is given of a batch is twice the share of its entry, and this
stays within the fee only when the share is at most half of it.

So two bounds are in play that `initialize` checks neither of.  Up to a share of one half, both
the books and the tokens are as they should be; between one half and the whole fee the books
are, and the treasury is given more than the fee; beyond that the relay's earnings are negative
as well.

The run that shows the bound to be exact is one batch of the largest size.  Its fee is at least
ten thousand at any rate that is accepted, so that one basis point of it is not lost to rounding.

## Main definitions

* `settledFee` — the fee of the batch that a step distributes.
* `GivenWithinFee` — no distribution of a run gives the treasury more tokens than its fee.

## Main results

* `given_distribute` — a distribution gives the treasury twice the share that it enters.
* `neverNegative_given_iff` — the books are never negative and the treasury is never given more
  than the fee, in any run, exactly when the treasury's share is at most half of the fee.
-/

namespace StellarConduit.Settlement

open Soroban Contract

/-! ## Twice the share -/

section Split

variable {treasuryShareBps : U32} {fee : Int}

/-- Twice a share of at most one half is at most the fee. -/
theorem two_shareOf_le (nonneg : 0 ≤ fee) (half : treasuryShareBps.val ≤ 5000) :
    2 * FeeDistributor.shareOf fee treasuryShareBps ≤ fee := by
  have scaled : FeeDistributor.shareOf fee treasuryShareBps * 10000 ≤
      fee * treasuryShareBps.val := Int.ediv_mul_le _ (by decide)
  have bounded : fee * treasuryShareBps.val ≤ fee * 5000 := mul_le_mul_of_nonneg_left half nonneg
  omega

/-- Twice a share of more than one half is more than the fee, when this is not small: one basis
point more than the half makes up for the rounding. -/
theorem lt_two_shareOf (large : 10000 ≤ fee) (half : 5000 < treasuryShareBps.val) :
    fee < 2 * FeeDistributor.shareOf fee treasuryShareBps := by
  have rounded : fee * treasuryShareBps.val <
      (FeeDistributor.shareOf fee treasuryShareBps + 1) * 10000 :=
    Int.lt_ediv_add_one_mul_self _ (by decide)
  have scaled : fee * 5001 ≤ fee * treasuryShareBps.val :=
    mul_le_mul_of_nonneg_left (by omega) (by omega)
  omega

end Split

/-! ## What is given -/

section Given

variable {Address : Type} {chain : Chain Address}

/-- The fee of the batch that a step distributes, when it is a distribution that goes
through. -/
def settledFee (r : Step chain) : Option Int :=
  match r.action, r.reply with
  | .distributor _ (.distribute _ batchId _), .distributor (some (.ok _)) =>
      (r.after.storage.feeEntry.get batchId).map fun e => e.amount.val
  | _, _ => none

variable [DecidableEq Address]

/-- No distribution of the run gives the treasury more tokens than the fee of its batch. -/
def GivenWithinFee (chain : Chain Address) (s : State Address) (as : List (Action chain)) : Prop :=
  ∀ r ∈ (machine chain).trace s as, ∀ fee ∈ settledFee r,
    tokenBalance r.after chain.treasury ≤ tokenBalance r.before chain.treasury + fee

instance (chain : Chain Address) (s : State Address) (as : List (Action chain)) :
    Decidable (GivenWithinFee chain s as) :=
  inferInstanceAs (Decidable (∀ r ∈ _, ∀ fee ∈ _, _))

variable {s s' : State Address} {tx : Tx chain} {t' : Treasury.State Address (Balances Address)}
  {share : I128} {a : Address} {batchId : U64} {batchSize : U32}

/-- Paying the treasury gives it the share twice: by the distributor's own transfer, and by the
one that `deposit` makes. -/
theorem paysTreasury_gives (wired : Wired chain s) (nonneg : 0 ≤ share.val)
    (h : FeeDistributor.PaysTreasury tx.distributorEnv s.storage share s.outside t') :
    t'.outside chain.treasury = tokenBalance s chain.treasury + 2 * share.val := by
  by_cases positive : 0 < share.val
  · obtain ⟨-, hdeposit⟩ := (paysTreasury_iff wired positive).mp h
    obtain ⟨-, houtside, -⟩ := deposit_moves hdeposit wired.treasuryToken
    rw [houtside, withBalances_outside, Balances.move_of_ne_sender chain.treasury_ne_distributor,
      Balances.move_of_ne_sender chain.treasury_ne_distributor, if_pos rfl, tokenBalance]
    omega
  · rw [FeeDistributor.PaysTreasury, if_neg positive] at h
    subst h
    have zero : share.val = 0 := by omega
    simp [zero, tokenBalance]

/-- A distribution that returns enters a share, and gives the treasury twice as much. -/
theorem given_distribute (wired : Wired chain s)
    (h : Returns (FeeDistributor.distribute tx.distributorEnv a batchId batchSize) s () s') :
    ∃ config e, FeeDistributor.DistributionEntered s s' a batchId batchSize config e ∧
      tokenBalance s' chain.treasury =
        tokenBalance s chain.treasury + 2 * e.treasuryShare.val := by
  obtain ⟨config, e, entered⟩ := FeeDistributor.distribute_enters h
  have stored : s'.storage.feeEntry.get batchId = some e := entered.stored
  obtain ⟨-, -, config', -, fee, hfee, share, hshare, payout, -, totalEarned, -, unclaimed, -, t,
    hpays, rfl⟩ := FeeDistributor.returns_distribute.mp h
  obtain rfl := Option.some.inj ((Store.get_set_self _ _ _).symm.trans stored)
  have nonneg : 0 ≤ share.val := by
    rw [hshare, hfee]
    exact FeeDistributor.shareOf_nonneg _ _ _
  exact ⟨config, _, entered, paysTreasury_gives wired nonneg hpays⟩

/-- With a treasury share of at most one half, no step of the system gives the treasury more
than the fee that it settles. -/
theorem given_step {treasuryShareBps : U32} (half : treasuryShareBps.val ≤ 5000)
    (wired : Wired chain s) (configured : FeeDistributor.Configured treasuryShareBps s.storage)
    (action : Action chain) :
    ∀ fee ∈ settledFee ((machine chain).record s action),
      tokenBalance ((machine chain).step s action).2 chain.treasury ≤
        tokenBalance s chain.treasury + fee := by
  rw [← Machine.record_after]
  intro fee settled
  cases action with
  | distributor tx c =>
      rcases record_distributor tx c s with ⟨v, s', h, hrecord⟩ | ⟨e, hrecord⟩
      · rw [hrecord] at settled ⊢
        cases c with
        | distribute a batchId batchSize =>
            obtain ⟨_, hcall, -⟩ := returns_bind_pure.mp h
            obtain ⟨config, e, entered, given⟩ := given_distribute wired hcall
            have stored : s'.storage.feeEntry.get batchId = some e := entered.stored
            obtain rfl : e.amount.val = fee := by
              simpa [settledFee, stored] using settled
            -- The share of the entry is the configured part of its fee.
            obtain ⟨config', hconfig', rfl, -⟩ := configured
            obtain rfl : config = config' :=
              Option.some.inj (entered.configured.symm.trans hconfig')
            have twice := two_shareOf_le
              (FeeDistributor.feeOf_bounds batchSize config.feeRateBps).1 half
            rw [← entered.treasuryShare, ← entered.amount] at twice
            exact given.trans_le (add_le_add_right twice _)
        | _ => cases settled
      · rw [hrecord] at settled
        cases c <;> cases settled
  | treasury tx c => cases settled
  | transfer tx sender recipient amount => cases settled

end Given

/-! ## The exact bound -/

section Bound

variable {Address : Type} [DecidableEq Address] {chain : Chain Address}
  {council treasuryCouncil : AdminCouncil Address} {feeRateBps treasuryShareBps : U32}
  {b : Balances Address} {t : Treasury.State Address (Balances Address)} {s : State Address}
  {u u' : Unit}

omit [DecidableEq Address] in
/-- An initialized distributor is wired to the treasury that is initialized with its token. -/
theorem wired_initialized
    (h : Returns (FeeDistributor.initializeContract council feeRateBps treasuryShareBps
      chain.treasury chain.token) (FeeDistributor.freshState t) u s)
    (ht : Returns (Treasury.initializeContract treasuryCouncil chain.token)
      (Treasury.freshState b) u' t) : Wired chain s := by
  obtain ⟨-, rfl⟩ := Treasury.returns_initializeContract_freshState.mp ht
  exact wired_initializeContract h rfl rfl

/-- With a treasury share of at most one half, the treasury is given at most the fee, in every
run. -/
theorem givenWithinFee_of_le_half
    (h : Returns (FeeDistributor.initializeContract council feeRateBps treasuryShareBps
      chain.treasury chain.token) (FeeDistributor.freshState t) u s)
    (ht : Returns (Treasury.initializeContract treasuryCouncil chain.token)
      (Treasury.freshState b) u' t)
    (half : treasuryShareBps.val ≤ 5000) (as : List (Action chain)) :
    GivenWithinFee chain s as := by
  intro r hr
  obtain ⟨pre, action, post, -, rfl⟩ := (machine chain).mem_trace.mp hr
  have wired : Wired chain ((machine chain).run s pre) :=
    (machine chain).run_invariant (Wired chain) wired_step (wired_initialized h ht) pre
  have configured : FeeDistributor.Configured treasuryShareBps
      ((machine chain).run s pre).storage :=
    storage_run (FeeDistributor.Configured treasuryShareBps)
      (fun _ _ _ _ _ inv hcall => FeeDistributor.configured_call inv hcall)
      (FeeDistributor.configured_initializeContract h) pre
  exact given_step half wired configured action

/-- A transaction that everybody but the distributor has signed, in which every nested call is
authorised and the token goes along with every transfer. -/
def openTx (chain : Chain Address) : Tx chain where
  sequence := 0
  timestamp := 0
  authorised caller a := caller.isSome || decide (a ≠ chain.distributor)
  accepts _ _ _ _ := true
  invoker _ := rfl
  unsigned := by simp

/-- The largest batch, distributed to the address `a`. -/
def largestBatch (chain : Chain Address) (a : Address) : List (Action chain) :=
  [.distributor (openTx chain) (.distribute a 0 4294967295)]

/-- Right after initialization the largest batch can be distributed. -/
theorem largestBatch_returns
    (h : Returns (FeeDistributor.initializeContract council feeRateBps treasuryShareBps
      chain.treasury chain.token) (FeeDistributor.freshState t) u s)
    (ht : Returns (Treasury.initializeContract treasuryCouncil chain.token)
      (Treasury.freshState b) u' t) (a : Address) :
    ∃ s', Returns (FeeDistributor.distribute (openTx chain).distributorEnv a 0 4294967295)
      s () s' := by
  have wired := wired_initialized h ht
  have range := FeeDistributor.withinRange_initializeContract h
  obtain ⟨accepted, -, rfl⟩ := FeeDistributor.returns_initializeContract_freshState.mp h
  obtain ⟨-, rfl⟩ := Treasury.returns_initializeContract_freshState.mp ht
  have rate := FeeDistributor.rate_bounds accepted
  refine FeeDistributor.distribute_returns rfl rate.2 range rfl (by decide) fun share _ => ?_
  by_cases positive : 0 < share.val
  · have zero : (0 : I128).val = 0 := MachineInt.val_zero
    -- The treasury has just been initialized, so its numbers have room.
    have small : IntType.Contains ⟨true, 128⟩ (0 + share.val) := by
      rw [zero_add]
      exact MachineInt.contains_iff.mpr ⟨share, rfl⟩
    have next : IntType.Contains ⟨false, 64⟩ ((0 : U64).val + 1) := by decide
    have accepted : DepositAccepted (openTx chain) (withBalances
        (Treasury.initialState treasuryCouncil chain.token b)
        (b.move chain.distributor chain.treasury share.val)) share :=
      { nested := rfl
        accepts := rfl
        positive := positive
        balance := small
        deposited := small
        nextId := next }
    obtain ⟨t', deposit⟩ := (deposit_returns_iff wired _).mpr accepted
    exact ⟨t', (paysTreasury_iff wired positive).mpr ⟨rfl, deposit⟩⟩
  · exact ⟨_, by rw [FeeDistributor.PaysTreasury, if_neg positive]⟩

/-- The record of a call of the distributor that returns. -/
theorem record_of_returns {tx : Tx chain} {c : FeeDistributor.Call Address}
    {v : FeeDistributor.Value} {s' : State Address}
    (h : Returns (FeeDistributor.dispatch tx.distributorEnv c) s v s') :
    (machine chain).record s (.distributor tx c) =
      ⟨s, .distributor tx c, .distributor (some (.ok v)), s'⟩ := by
  have step := Deployed.step_of_returns FeeDistributor.dispatch FeeDistributor.provide h
  simp [machine, FeeDistributor.machine, Machine.record, step]

/-- With a treasury share of more than one half, the largest batch gives the treasury more than
its fee. -/
theorem not_givenWithinFee_of_half_lt
    (h : Returns (FeeDistributor.initializeContract council feeRateBps treasuryShareBps
      chain.treasury chain.token) (FeeDistributor.freshState t) u s)
    (ht : Returns (Treasury.initializeContract treasuryCouncil chain.token)
      (Treasury.freshState b) u' t)
    (half : 5000 < treasuryShareBps.val) (a : Address) :
    ¬ GivenWithinFee chain s (largestBatch chain a) := by
  obtain ⟨s', hcall⟩ := largestBatch_returns h ht a
  obtain ⟨config, e, entered, given⟩ := given_distribute (wired_initialized h ht) hcall
  obtain ⟨accepted, -, rfl⟩ := FeeDistributor.returns_initializeContract_freshState.mp h
  obtain rfl : _ = config := Option.some.inj entered.configured
  have twice := lt_two_shareOf
    (FeeDistributor.le_feeOf_max (FeeDistributor.rate_bounds accepted).1) half
  rw [← entered.treasuryShare, ← entered.amount] at twice
  have stored : s'.storage.feeEntry.get 0 = some e := entered.stored
  have returned : Returns (FeeDistributor.dispatch (openTx chain).distributorEnv
      (.distribute a 0 4294967295)) _ .unit s' := returns_bind_pure.mpr ⟨(), hcall, rfl⟩
  intro within
  -- The first step of the run is the distribution, and its fee is that of the entry.
  have bounded := within _ List.mem_cons_self e.amount.val (by
    rw [record_of_returns returned]
    simp [settledFee, stored])
  rw [record_of_returns returned] at bounded
  exact absurd ((add_le_add_iff_left _).mp (given.symm.trans_le bounded)) (not_le.mpr twice)

/-- **The books are never negative and the treasury is never given more than the fee exactly
when the treasury's share is at most half of the fee.**  For every accepted configuration of a
distributor that is wired to a newly initialized treasury: whatever happens around the
distributor, in every run every fee entry has a share between zero and its fee, no total of a
relay is negative or ever becomes less and no claim pays a negative amount, and in every run of
the two contracts and their token no distribution gives the treasury more tokens than its fee,
if and only if `treasury_share_bps` is at most 5000. -/
theorem neverNegative_given_iff
    (h : Returns (FeeDistributor.initializeContract council feeRateBps treasuryShareBps
      chain.treasury chain.token) (FeeDistributor.freshState t) u s)
    (ht : Returns (Treasury.initializeContract treasuryCouncil chain.token)
      (Treasury.freshState b) u' t) :
    ((∀ as, FeeDistributor.NeverNegative s as) ∧ ∀ as, GivenWithinFee chain s as) ↔
      treasuryShareBps.val ≤ 5000 := by
  constructor
  · rintro ⟨-, within⟩
    by_contra half
    exact not_givenWithinFee_of_half_lt h ht (not_le.mp half) chain.treasury (within _)
  · intro half
    exact ⟨(FeeDistributor.neverNegative_iff h).mpr (half.trans (by decide)),
      givenWithinFee_of_le_half h ht half⟩

end Bound

/-! ## Two shares that are accepted -/

/-- The distributor of `sampleSystem`, with another share for the treasury. -/
def sharing (treasuryShareBps : U32) : State ℕ :=
  FeeDistributor.initialState ⟨[7], 1⟩ 50 treasuryShareBps 2 3 sampleTreasury

/-- `initialize` accepts any share. -/
theorem sharing_initialized (treasuryShareBps : U32) :
    Returns (FeeDistributor.initializeContract ⟨[7], 1⟩ 50 treasuryShareBps sampleChain.treasury
      sampleChain.token) (FeeDistributor.freshState sampleTreasury) () (sharing treasuryShareBps) :=
  FeeDistributor.returns_initializeContract_freshState.mpr ⟨by decide, by decide, rfl⟩

/-- A batch of ten thousand has a fee of 50.  With the whole fee as its share the treasury is
given 100, and with twice the fee relay 10 has earned -50. -/
theorem sharing_overpaid :
    Returns (FeeDistributor.initializeContract ⟨[7], 1⟩ 50 10000 sampleChain.treasury
        sampleChain.token) (FeeDistributor.freshState sampleTreasury) () (sharing 10000) ∧
      tokenBalance (sharing 10000) 2 = 0 ∧
      tokenBalance ((machine sampleChain).run (sharing 10000) oneDistribution) 2 = 100 ∧
      ¬ GivenWithinFee sampleChain (sharing 10000) oneDistribution ∧
      Returns (FeeDistributor.initializeContract ⟨[7], 1⟩ 50 20000 sampleChain.treasury
        sampleChain.token) (FeeDistributor.freshState sampleTreasury) () (sharing 20000) ∧
      (FeeDistributor.earningsOf
        ((machine sampleChain).run (sharing 20000) oneDistribution).storage 10).unclaimed.val =
          -50 :=
  ⟨sharing_initialized 10000, rfl, by decide +kernel, by decide +kernel,
    sharing_initialized 20000, by decide +kernel⟩

/-- A tenth of the fee is within the bound. -/
theorem neverNegative_given_iff_sampleSystem :
    ((∀ as, FeeDistributor.NeverNegative sampleSystem as) ∧
        ∀ as, GivenWithinFee sampleChain sampleSystem as) ↔ (1000 : U32).val ≤ 5000 :=
  neverNegative_given_iff sampleSystem_initialized sampleTreasury_initialized

end StellarConduit.Settlement
