import StellarConduit.FeeDistributor.Earnings
import Mathlib.Data.Int.Interval

/-!
# The range of the earnings

The fee rate is checked against the basis-point scale, by `initialize` and by
`set_fee_rate`; the treasury's share is taken as it comes.  With a checked rate a fee
is at most the size of its batch, and whatever the share, a single payout is so small
that no relay's totals leave the range of an `i128`, however many batches there are.

A share of more than ten thousand basis points is more than the fee, and the payout is then
negative; the totals may fall as well as rise.  The bound is on their size, by the number of
fee entries: every batch moves them by at most `payoutBound`, and a batch is entered once.  There
are no more batches than identifiers, so the bound at the end is `payoutBound` times `2^64`.

## Main definitions

* `payoutBound` — the size of a single payout, at the most.
* `Configured` — there is a configuration with a checked rate.
* `WithinRange` — the totals of all relays are bounded by the number of batches.

## Main results

* `withinRange_run` — the totals stay in range in every run.
* `distribute_returns` — a distribution fails on no arithmetic.
-/

namespace StellarConduit.FeeDistributor

open Soroban Contract

/-! ## One batch

A batch size and both rates are `u32`.  The fee is at most the batch when the rate is at most the
whole; the share is a `u32` multiple of the fee over the scale, and so may exceed it by a factor
of over four hundred thousand.
-/

section Batch

variable {batchSize feeRateBps treasuryShareBps : U32} {fee : Int}

/-- At a rate of at most the whole, a fee is at most the batch. -/
theorem feeOf_le (rate : feeRateBps.val ≤ 10000) : feeOf batchSize feeRateBps ≤ batchSize.val := by
  have size := MachineInt.u32_bounds batchSize
  apply Int.ediv_le_of_le_mul (by decide)
  exact mul_le_mul_of_nonneg_left rate size.1

/-- No payout is larger than this, in either direction. -/
def payoutBound : Int := 2 ^ 51

/-- What a batch leaves to its relay, at a rate of at most the whole. -/
theorem payout_bounds (rate : feeRateBps.val ≤ 10000) :
    - payoutBound ≤ feeOf batchSize feeRateBps -
        shareOf (feeOf batchSize feeRateBps) treasuryShareBps ∧
      feeOf batchSize feeRateBps - shareOf (feeOf batchSize feeRateBps) treasuryShareBps ≤
        payoutBound := by
  have size := MachineInt.u32_bounds batchSize
  have bps := MachineInt.u32_bounds treasuryShareBps
  have fee : feeOf batchSize feeRateBps ≤ 4294967295 := (feeOf_le rate).trans size.2
  have feeNonneg := (feeOf_bounds batchSize feeRateBps).1
  have shareNonneg := shareOf_nonneg batchSize feeRateBps treasuryShareBps
  have product : feeOf batchSize feeRateBps * treasuryShareBps.val ≤ 4294967295 * 4294967295 :=
    mul_le_mul fee bps.2 bps.1 (by decide)
  unfold payoutBound
  unfold shareOf at shareNonneg ⊢
  omega

/-- Fee, share and payout are in the range of an `i128`. -/
theorem exists_amounts (batchSize treasuryShareBps : U32) (rate : feeRateBps.val ≤ 10000) :
    ∃ fee share payout : I128, fee.val = feeOf batchSize feeRateBps ∧
      share.val = shareOf fee.val treasuryShareBps ∧ payout.val = fee.val - share.val := by
  have payout : - payoutBound ≤ feeOf batchSize feeRateBps -
        shareOf (feeOf batchSize feeRateBps) treasuryShareBps ∧
      feeOf batchSize feeRateBps - shareOf (feeOf batchSize feeRateBps) treasuryShareBps ≤
        payoutBound := payout_bounds rate
  have bounds := feeOf_bounds batchSize feeRateBps
  have nonneg := shareOf_nonneg batchSize feeRateBps treasuryShareBps
  have large : (4294967295 * 4294967295 : Int) + payoutBound ≤ IntType.max ⟨true, 128⟩ := by decide
  have lowest : IntType.min ⟨true, 128⟩ ≤ - payoutBound := by decide
  obtain ⟨fee, hfee⟩ : ∃ c : I128, c.val = feeOf batchSize feeRateBps :=
    MachineInt.contains_iff.mp ⟨by omega, by omega⟩
  obtain ⟨share, hshare⟩ : ∃ c : I128, c.val =
      shareOf (feeOf batchSize feeRateBps) treasuryShareBps :=
    MachineInt.contains_iff.mp ⟨by omega, by omega⟩
  obtain ⟨payout, hpayout⟩ : ∃ c : I128, c.val = fee.val - share.val :=
    MachineInt.contains_iff.mp ⟨by omega, by omega⟩
  exact ⟨fee, share, payout, hfee, hfee ▸ hshare, hpayout⟩

end Batch

/-! ## The configuration

`initialize` and `set_fee_rate` check the rate, and nothing else writes one; the share is never
written again.
-/

section Steps

variable {Address X : Type} [DecidableEq Address] {env : Env Address X} {w w' : State Address X}
  {treasuryShareBps : U32}

/-- The configuration has this treasury share, and a rate that `initialize` or
`set_fee_rate` has checked. -/
def Configured (treasuryShareBps : U32) (s : Storage Address) : Prop :=
  ∃ config, s.feeConfig = some config ∧ config.treasuryShareBps = treasuryShareBps ∧
    config.feeRateBps.val ≤ 10000

omit [DecidableEq Address] in
/-- A configured distributor has a configuration. -/
theorem Configured.isSome {s : Storage Address} (h : Configured treasuryShareBps s) :
    s.feeConfig.isSome := by
  obtain ⟨config, hconfig, -⟩ := h
  rw [hconfig]
  rfl

/-- The rates that are accepted. -/
theorem rate_bounds {rate : U32} (accepted : ¬ (rate = 0 ∨ rate > 10000)) :
    0 < rate.val ∧ rate.val ≤ 10000 := by
  obtain ⟨positive, upper⟩ := not_or.mp accepted
  have lower := (MachineInt.u32_bounds rate).1
  have zero : rate.val ≠ 0 := fun h => positive (MachineInt.ext (h.trans MachineInt.val_zero.symm))
  have scale : (10000 : U32).val = 10000 := rfl
  rw [gt_iff_lt, MachineInt.lt_iff_val, scale, not_lt] at upper
  exact ⟨by omega, upper⟩

/-- A call that returns leaves the share of the treasury, and a checked rate. -/
theorem configured_call {c : Call Address} {v : Value} (h : Configured treasuryShareBps w.storage)
    (hcall : Returns (dispatch env c) w v w') : Configured treasuryShareBps w'.storage := by
  cases c with
  | initializeContract council feeRateBps treasuryShareBps treasury token =>
      obtain ⟨_, hcall, -⟩ := returns_bind_pure.mp hcall
      obtain ⟨hnone, -⟩ := returns_initializeContract.mp hcall
      have configured := h.isSome
      rw [hnone] at configured
      cases configured
  | calculateFee batchSize | getEarnings a =>
      obtain rfl := world_eq_of_reads hcall trivial
      exact h
  | distribute a batchId batchSize =>
      obtain ⟨_, hcall, -⟩ := returns_bind_pure.mp hcall
      obtain ⟨_, _, entered⟩ := distribute_enters hcall
      rw [Configured, entered.configKept]
      exact h
  | claim a =>
      obtain ⟨_, hcall, -⟩ := returns_bind_pure.mp hcall
      rw [Configured, (claim_enters hcall).configKept]
      exact h
  | setFeeRate newFeeRateBps =>
      obtain ⟨_, hcall, -⟩ := returns_bind_pure.mp hcall
      obtain ⟨-, accepted, config, hconfig, rfl⟩ := returns_setFeeRate.mp hcall
      obtain ⟨config', hconfig', share, -⟩ := h
      obtain rfl : config = config' := Option.some.inj (hconfig.symm.trans hconfig')
      exact ⟨_, rfl, share, (rate_bounds accepted).2⟩

/-! ## Totals in range

What a relay has earned moves by one payout for each batch in its name; what it may claim moves
with it, and goes back to zero by a claim.  The bound is in terms of the set of batches that have
an entry, which every distribution extends by its own batch.
-/

/-- Every batch has moved a relay's totals by at most the largest payout. -/
structure WithinRange (s : Storage Address) : Prop where
  /-- What a relay has earned in total. -/
  totalEarned : ∀ a, - (payoutBound * s.feeEntry.keys.card) ≤ (earningsOf s a).totalEarned.val ∧
    (earningsOf s a).totalEarned.val ≤ payoutBound * s.feeEntry.keys.card
  /-- What it can claim of it. -/
  unclaimed : ∀ a, - (payoutBound * s.feeEntry.keys.card) ≤ (earningsOf s a).unclaimed.val ∧
    (earningsOf s a).unclaimed.val ≤ payoutBound * s.feeEntry.keys.card

/-- There are no more batches than identifiers. -/
theorem card_le_u64 (ids : Finset U64) : ids.card ≤ 2 ^ 64 := by
  have le : ids.card ≤ (Finset.Icc (0 : Int) 18446744073709551615).card :=
    Finset.card_le_card_of_injOn MachineInt.val
      (fun id _ => Finset.mem_coe.mpr (Finset.mem_Icc.mpr (MachineInt.u64_bounds id)))
      fun _ _ _ _ h => MachineInt.ext h
  exact le.trans (by rw [Int.card_Icc]; decide)

/-- A payout on top of a total in range is an `i128`. -/
theorem contains_add_payout {total payout : Int} {ids : Finset U64}
    (inRange : - (payoutBound * ids.card) ≤ total ∧ total ≤ payoutBound * ids.card)
    (payoutInRange : - payoutBound ≤ payout ∧ payout ≤ payoutBound) :
    IntType.Contains ⟨true, 128⟩ (total + payout) := by
  have batches : (ids.card : Int) ≤ 2 ^ 64 := mod_cast card_le_u64 ids
  have largest : payoutBound * ids.card ≤ payoutBound * 2 ^ 64 :=
    mul_le_mul_of_nonneg_left batches (by decide)
  have enough : payoutBound * 2 ^ 64 + payoutBound ≤ IntType.max ⟨true, 128⟩ := by decide
  have lowest : IntType.min ⟨true, 128⟩ ≤ - (payoutBound * 2 ^ 64 + payoutBound) := by decide
  exact ⟨by omega, by omega⟩

/-- The payout of a batch is in range. -/
theorem DistributionEntered.payout_bounds {a : Address} {batchId : U64} {batchSize : U32}
    {config : FeeConfig Address} {e : FeeEntry Address}
    (entered : DistributionEntered w w' a batchId batchSize config e)
    (configured : Configured treasuryShareBps w.storage) :
    - payoutBound ≤ e.amount.val - e.treasuryShare.val ∧
      e.amount.val - e.treasuryShare.val ≤ payoutBound := by
  obtain ⟨config', hconfig', -, rate⟩ := configured
  obtain rfl : config = config' := Option.some.inj (entered.configured.symm.trans hconfig')
  rw [entered.treasuryShare, entered.amount]
  exact FeeDistributor.payout_bounds rate

/-- A call that returns keeps the totals in range. -/
theorem withinRange_call {c : Call Address} {v : Value}
    (configured : Configured treasuryShareBps w.storage) (range : WithinRange w.storage)
    (h : Returns (dispatch env c) w v w') : WithinRange w'.storage := by
  cases outcome_of_returns configured.isSome h with
  | @distribute a _ _ _ _ hcall =>
      obtain ⟨config, e, entered⟩ := distribute_enters hcall
      have bounds := entered.payout_bounds configured
      have payout : ∀ b, - payoutBound ≤ (if b = a then e.amount.val - e.treasuryShare.val else 0) ∧
          (if b = a then e.amount.val - e.treasuryShare.val else 0) ≤ payoutBound := by
        intro b
        split
        · exact bounds
        · decide
      -- The batch is a new one, so the number of entries grows by one.
      have one : payoutBound * ((w'.storage.feeEntry.keys.card : ℕ) : Int) =
          payoutBound * w.storage.feeEntry.keys.card + payoutBound := by
        rw [entered.feeEntry, Store.card_keys_set_of_none e entered.fresh, Nat.cast_succ, mul_add,
          mul_one]
      refine ⟨fun b => ?_, fun b => ?_⟩
      · have before := range.totalEarned b
        have step := payout b
        rw [entered.totalEarned, one]
        omega
      · have before := range.unclaimed b
        have step := payout b
        rw [entered.unclaimed, one]
        omega
  | @claim a payout _ hcall =>
      have entered := claim_enters hcall
      refine ⟨fun b => ?_, fun b => ?_⟩
      · rw [entered.totalEarned, entered.feeEntry]
        exact range.totalEarned b
      · have before := range.unclaimed b
        rw [entered.unclaimed, entered.feeEntry]
        split
        · rw [MachineInt.val_zero]
          omega
        · exact before
  | other quiet kept =>
      have same : ∀ a, earningsOf w'.storage a = earningsOf w.storage a := fun a => by
        rw [earningsOf, earningsOf, kept.earnings]
      refine ⟨?_, ?_⟩
      · simpa only [same, kept.feeEntry] using range.totalEarned
      · simpa only [same, kept.feeEntry] using range.unclaimed

/-- A distribution of a new batch that is not empty goes through when the treasury is
paid: no arithmetic of it overflows. -/
theorem distribute_returns {a : Address} {batchId : U64} {batchSize : U32}
    {config : FeeConfig Address} (hconfig : w.storage.feeConfig = some config)
    (rate : config.feeRateBps.val ≤ 10000) (range : WithinRange w.storage)
    (fresh : w.storage.feeEntry.get batchId = none) (nonempty : batchSize ≠ 0)
    (pays : ∀ share : I128, share.val =
        shareOf (feeOf batchSize config.feeRateBps) config.treasuryShareBps →
      ∃ x, PaysTreasury env w.storage share w.outside x) :
    ∃ w', Returns (distribute env a batchId batchSize) w () w' := by
  obtain ⟨fee, share, payout, hfee, hshare, hpayout⟩ :=
    exists_amounts batchSize config.treasuryShareBps rate
  rw [hfee] at hshare
  have payoutInRange : - payoutBound ≤ payout.val ∧ payout.val ≤ payoutBound := by
    rw [hpayout, hfee, hshare]
    exact payout_bounds rate
  obtain ⟨totalEarned, htotal⟩ :=
    MachineInt.contains_iff.mp (contains_add_payout (range.totalEarned a) payoutInRange)
  obtain ⟨unclaimed, hunclaimed⟩ :=
    MachineInt.contains_iff.mp (contains_add_payout (range.unclaimed a) payoutInRange)
  obtain ⟨x, hpays⟩ := pays share hshare
  exact ⟨_, returns_distribute.mpr ⟨fresh, nonempty, config, hconfig, fee, hfee, share,
    hfee ▸ hshare, payout, hpayout, totalEarned, htotal, unclaimed, hunclaimed, x, hpays, rfl⟩⟩

end Steps

/-! ## Runs

The run lemma carries the configuration along, since the bound on one payout needs the checked
rate.
-/

section Runs

variable {Address X : Type} [DecidableEq Address] {council : AdminCouncil Address}
  {feeRateBps treasuryShareBps : U32} {treasury token : Address} {x : X} {w : State Address X}
  {u : Unit}

omit [DecidableEq Address] in
/-- `initialize` checks the rate. -/
theorem configured_initializeContract
    (h : Returns (initializeContract council feeRateBps treasuryShareBps treasury token)
      (freshState x) u w) : Configured treasuryShareBps w.storage := by
  obtain ⟨accepted, -, rfl⟩ := returns_initializeContract_freshState.mp h
  exact ⟨_, rfl, rfl, (rate_bounds accepted).2⟩

omit [DecidableEq Address] in
/-- At the start there are no entries and no earnings. -/
theorem earningsOf_initializeContract
    (h : Returns (initializeContract council feeRateBps treasuryShareBps treasury token)
      (freshState x) u w) :
    w.storage.feeEntry = Store.empty ∧ ∀ a, earningsOf w.storage a = EarningsRecord.zero := by
  obtain ⟨-, -, rfl⟩ := returns_initializeContract_freshState.mp h
  exact ⟨rfl, fun _ => rfl⟩

omit [DecidableEq Address] in
/-- Before the first batch all totals are zero. -/
theorem withinRange_initializeContract
    (h : Returns (initializeContract council feeRateBps treasuryShareBps treasury token)
      (freshState x) u w) : WithinRange w.storage := by
  obtain ⟨hentry, hearnings⟩ := earningsOf_initializeContract h
  have zero : - (payoutBound * ((Store.empty : Store U64 (FeeEntry Address)).keys.card : ℕ)) ≤
      (0 : I128).val ∧ (0 : I128).val ≤
        payoutBound * ((Store.empty : Store U64 (FeeEntry Address)).keys.card : ℕ) := by
    rw [MachineInt.val_zero]
    simp [Store.empty]
  refine ⟨fun a => ?_, fun a => ?_⟩
  · rw [hearnings, hentry]
    exact zero
  · rw [hearnings, hentry]
    exact zero

/-- The totals are in range at every moment of a run. -/
theorem withinRange_run
    (h : Returns (initializeContract council feeRateBps treasuryShareBps treasury token)
      (freshState x) u w) (as : List (Action Address X (Call Address) Empty)) :
    Configured treasuryShareBps (machine.run w as).storage ∧
      WithinRange (machine.run w as).storage := by
  refine machine.run_invariant
    (fun w => Configured treasuryShareBps w.storage ∧ WithinRange w.storage)
    (fun w action inv => ?_)
    ⟨configured_initializeContract h, withinRange_initializeContract h⟩ as
  exact Deployed.step_storage (fun s => Configured treasuryShareBps s ∧ WithinRange s)
    (fun _ _ _ _ _ inv hcall => ⟨configured_call inv.1 hcall, withinRange_call inv.1 inv.2 hcall⟩)
    (fun p => p.elim) w action inv

end Runs

end StellarConduit.FeeDistributor
