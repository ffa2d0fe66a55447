import StellarConduit.FeeDistributor.Splitting

/-!
# Larger batches and higher rates

A batch is split in two roundings: the fee is the rate's fraction of the batch, and the
treasury's share is its fraction of the fee.  Both grow with the batch and with the rate.
The relay is paid the difference of the two, and this grows as well: a share of at most
the whole grows by no more than the fee does, before rounding and after it.

## Main definitions

* `Split` — what a distribution computes from its batch.
* `Computes` — at this rate and share, batches of this size are split so, in every state
  and for every relay.

## Main results

* `larger_pays_no_less` — a larger batch at a higher rate, compared part by part.
-/

namespace StellarConduit.FeeDistributor

open Soroban Contract

/-! ## Splits -/

/-- What a distribution computes from its batch. -/
structure Split where
  /-- The fee of the batch, -/
  fee : I128
  /-- the treasury's share of it -/
  treasuryShare : I128
  /-- and the relay's. -/
  relayPayout : I128

namespace Split

variable {feeRateBps higherRateBps treasuryShareBps batchSize largerSize : U32}
  {split small large : Split}

/-- The fee is a fee of the batch, its two parts make it up, and the treasury's part is
the configured fraction of it, rounded down. -/
structure Exact (split : Split) (treasuryShareBps batchSize : U32) : Prop where
  /-- A fee is not negative, -/
  fee_nonneg : 0 ≤ split.fee.val
  /-- and at most the batch. -/
  fee_le : split.fee.val ≤ batchSize.val
  /-- It is divided without a rest. -/
  parts : split.treasuryShare.val + split.relayPayout.val = split.fee.val
  /-- The share is the fraction of the fee, -/
  share_le : split.treasuryShare.val * 10000 ≤ split.fee.val * treasuryShareBps.val
  /-- rounded down. -/
  lt_share : split.fee.val * treasuryShareBps.val < (split.treasuryShare.val + 1) * 10000

/-- The split that the rate and the treasury's share make of the batch. -/
structure Of (split : Split) (feeRateBps treasuryShareBps batchSize : U32) : Prop where
  /-- The fee is the rate's fraction of the batch. -/
  fee : split.fee.val = proportion feeRateBps.val 10000 batchSize.val
  /-- The share is its fraction of the fee. -/
  treasuryShare : split.treasuryShare.val =
    proportion treasuryShareBps.val 10000 split.fee.val
  /-- The payout is the rest. -/
  relayPayout : split.relayPayout.val = rest treasuryShareBps.val 10000 split.fee.val

/-- At a rate of at most the whole every batch has a split. -/
theorem exists_of (treasuryShareBps batchSize : U32) (rate : feeRateBps.val ≤ 10000) :
    ∃ split : Split, split.Of feeRateBps treasuryShareBps batchSize := by
  obtain ⟨fee, share, payout, hfee, hshare, hpayout⟩ :=
    exists_amounts batchSize treasuryShareBps rate
  refine ⟨⟨fee, share, payout⟩, hfee, hshare, ?_⟩
  show payout.val = fee.val - proportion treasuryShareBps.val 10000 fee.val
  rw [hpayout, hshare]
  rfl

/-- At a checked rate, what is computed is exact. -/
theorem Of.exact (of : split.Of feeRateBps treasuryShareBps batchSize)
    (rate : feeRateBps.val ≤ 10000) : split.Exact treasuryShareBps batchSize where
  fee_nonneg := by
    rw [of.fee]
    exact (feeOf_bounds batchSize feeRateBps).1
  fee_le := by
    rw [of.fee]
    exact feeOf_le rate
  parts := by
    rw [of.treasuryShare, of.relayPayout]
    exact proportion_add_rest
  share_le := by
    rw [of.treasuryShare]
    exact proportion_mul_le (by decide)
  lt_share := by
    rw [of.treasuryShare]
    exact lt_proportion_add_one_mul (by decide)

section Larger

variable (ofSmall : small.Of feeRateBps treasuryShareBps batchSize)
  (ofLarge : large.Of higherRateBps treasuryShareBps largerSize)

include ofSmall ofLarge

/-- A larger batch at a higher rate has a larger fee. -/
theorem Of.fee_le_fee (rates : feeRateBps.val ≤ higherRateBps.val)
    (sizes : batchSize.val ≤ largerSize.val) : small.fee.val ≤ large.fee.val := by
  have rate := (MachineInt.u32_bounds feeRateBps).1
  have size := (MachineInt.u32_bounds batchSize).1
  rw [ofSmall.fee, ofLarge.fee]
  exact proportion_mono (by decide) rate rates size sizes

/-- A larger fee has a larger share. -/
theorem Of.share_le_share (nonneg : 0 ≤ small.fee.val) (fees : small.fee.val ≤ large.fee.val) :
    small.treasuryShare.val ≤ large.treasuryShare.val := by
  have share := (MachineInt.u32_bounds treasuryShareBps).1
  rw [ofSmall.treasuryShare, ofLarge.treasuryShare]
  exact proportion_mono (by decide) share le_rfl nonneg fees

/-- And it leaves more to the relay, when the share is at most the whole. -/
theorem Of.payout_le_payout (share : treasuryShareBps.val ≤ 10000)
    (fees : small.fee.val ≤ large.fee.val) : small.relayPayout.val ≤ large.relayPayout.val := by
  rw [ofSmall.relayPayout, ofLarge.relayPayout]
  exact rest_le_rest (by decide) share fees

end Larger
end Split

/-! ## Splits that are computed -/

section Computed

variable {Address X : Type} [DecidableEq Address]

/-- The configured rate and share are these. -/
def Charges (feeRateBps treasuryShareBps : U32) (s : Storage Address) : Prop :=
  ∃ config, s.feeConfig = some config ∧ config.feeRateBps = feeRateBps ∧
    config.treasuryShareBps = treasuryShareBps

/-- Where some run of an initialized distributor leads. -/
def Reached (w : State Address X) : Prop :=
  ∃ council feeRateBps treasuryShareBps treasury token x start as,
    Returns (initializeContract council feeRateBps treasuryShareBps treasury token)
      (freshState x) () start ∧ machine.run start as = w

/-- A distribution has stored the split, has published it, and has credited the payout. -/
structure SplitRecorded (w w' : State Address X) (a : Address) (batchId : U64)
    (split : Split) : Prop where
  /-- The fee entry has fee and share, -/
  entry : ∃ e, w'.storage.feeEntry.get batchId = some e ∧ e.amount = split.fee ∧
    e.treasuryShare = split.treasuryShare
  /-- the event payout and share, -/
  event : w'.events =
    w.events ++ [.distribute a batchId split.relayPayout split.treasuryShare]
  /-- and the relay's total -/
  totalEarned : (earningsOf w'.storage a).totalEarned.val =
    (earningsOf w.storage a).totalEarned.val + split.relayPayout.val
  /-- and what it can claim have grown by the payout. -/
  unclaimed : (earningsOf w'.storage a).unclaimed.val =
    (earningsOf w.storage a).unclaimed.val + split.relayPayout.val

/-- At this rate and share, batches of this size are split so. -/
structure Computes (Address X : Type) [DecidableEq Address]
    (feeRateBps treasuryShareBps batchSize : U32) (split : Split) : Prop where
  /-- `calculate_fee` answers the fee. -/
  calculateFee : ∀ w : State Address X, Charges feeRateBps treasuryShareBps w.storage →
    Returns (calculateFee batchSize) w split.fee w
  /-- A distribution that goes through records the split. -/
  distribute : ∀ (env : Env Address X) (w w' : State Address X) (a : Address) (batchId : U64),
    Charges feeRateBps treasuryShareBps w.storage →
      Returns (distribute env a batchId batchSize) w () w' → SplitRecorded w w' a batchId split
  /-- In a reached state it goes through for every new batch of which the treasury can be
  paid its share. -/
  completes : ∀ (env : Env Address X) (w : State Address X) (a : Address) (batchId : U64) (x : X),
    Reached w → Charges feeRateBps treasuryShareBps w.storage →
      w.storage.feeEntry.get batchId = none →
      PaysTreasury env w.storage split.treasuryShare w.outside x →
        ∃ w', Returns (FeeDistributor.distribute env a batchId batchSize) w () w'

/-- A reached state has a checked rate, and totals in range. -/
theorem Reached.withinRange {w : State Address X} (reached : Reached w) :
    (∃ treasuryShareBps, Configured treasuryShareBps w.storage) ∧ WithinRange w.storage := by
  obtain ⟨council, feeRateBps, treasuryShareBps, treasury, token, x, start, as, h, rfl⟩ := reached
  obtain ⟨configured, range⟩ := withinRange_run h as
  exact ⟨⟨treasuryShareBps, configured⟩, range⟩

variable {feeRateBps treasuryShareBps batchSize : U32} {split : Split}

/-- A distribution that goes through records what is computed. -/
theorem Split.Of.recorded (of : split.Of feeRateBps treasuryShareBps batchSize)
    {env : Env Address X} {w w' : State Address X} {a : Address} {batchId : U64}
    (charges : Charges feeRateBps treasuryShareBps w.storage)
    (h : Returns (distribute env a batchId batchSize) w () w') :
    SplitRecorded w w' a batchId split := by
  obtain ⟨config, hconfig, rfl, rfl⟩ := charges
  obtain ⟨-, -, config', hconfig', fee, hfee, share, hshare, payout, hpayout, totalEarned, htotal,
    unclaimed, hunclaimed, x, -, rfl⟩ := returns_distribute.mp h
  obtain rfl : config = config' := Option.some.inj (hconfig.symm.trans hconfig')
  obtain rfl : fee = split.fee := MachineInt.ext (hfee.trans of.fee.symm)
  obtain rfl : share = split.treasuryShare := MachineInt.ext (hshare.trans of.treasuryShare.symm)
  have hrest : payout.val = split.relayPayout.val := by
    rw [of.relayPayout, hpayout, of.treasuryShare]
    rfl
  obtain rfl : payout = split.relayPayout := MachineInt.ext hrest
  refine ⟨⟨_, Store.get_set_self _ _ _, rfl, rfl⟩, rfl, ?_, ?_⟩
  · rw [earningsOf_set, if_pos rfl]
    exact htotal
  · rw [earningsOf_set, if_pos rfl]
    exact hunclaimed

/-- The split of a batch is what is computed from it. -/
theorem Split.Of.computes (of : split.Of feeRateBps treasuryShareBps batchSize)
    (nonempty : batchSize ≠ 0) : Computes Address X feeRateBps treasuryShareBps batchSize split where
  calculateFee := by
    rintro w ⟨config, hconfig, rfl, rfl⟩
    exact returns_calculateFee.mpr ⟨nonempty, config, hconfig, of.fee, rfl⟩
  distribute env w w' a batchId charges h := of.recorded charges h
  completes := by
    rintro env w a batchId x reached ⟨config, hconfig, rfl, rfl⟩ fresh pays
    obtain ⟨⟨_, config', hconfig', -, rate⟩, range⟩ := reached.withinRange
    obtain rfl : config = config' := Option.some.inj (hconfig.symm.trans hconfig')
    refine distribute_returns hconfig rate range fresh nonempty fun share hshare => ?_
    -- The share to be paid is the share of the split.
    have hsame : share.val = split.treasuryShare.val := by
      rw [of.treasuryShare, of.fee]
      exact hshare
    obtain rfl : share = split.treasuryShare := MachineInt.ext hsame
    exact ⟨x, pays⟩

/-- **Bigger batches and higher rates never pay anyone less.**  At every treasury share of
at most the whole, what is computed from a batch at a rate is compared with what is
computed from a batch at least as large, at a rate at least as high: neither the fee nor
the treasury's share nor the relay's payout is larger.  A fee is at most its batch, the
two parts make it up, and the share is the configured fraction of it, rounded down. -/
theorem larger_pays_no_less {lowerRateBps higherRateBps smallerSize largerSize : U32}
    (share : treasuryShareBps.val ≤ 10000) (rates : lowerRateBps.val ≤ higherRateBps.val)
    (highest : higherRateBps.val ≤ 10000) (least : 1 ≤ smallerSize.val)
    (sizes : smallerSize.val ≤ largerSize.val) :
    ∃ small large : Split,
      Computes Address X lowerRateBps treasuryShareBps smallerSize small ∧
      Computes Address X higherRateBps treasuryShareBps largerSize large ∧
      small.fee.val ≤ large.fee.val ∧
      small.treasuryShare.val ≤ large.treasuryShare.val ∧
      small.relayPayout.val ≤ large.relayPayout.val ∧
      small.Exact treasuryShareBps smallerSize ∧ large.Exact treasuryShareBps largerSize := by
  have lowerRate : lowerRateBps.val ≤ 10000 := rates.trans highest
  obtain ⟨small, ofSmall⟩ := Split.exists_of treasuryShareBps smallerSize lowerRate
  obtain ⟨large, ofLarge⟩ := Split.exists_of treasuryShareBps largerSize highest
  have smallNonempty : smallerSize ≠ 0 := MachineInt.ne_zero_of_pos least
  have largeNonempty : largerSize ≠ 0 := MachineInt.ne_zero_of_pos (least.trans sizes)
  have smallExact := ofSmall.exact lowerRate
  have fees : small.fee.val ≤ large.fee.val := ofSmall.fee_le_fee ofLarge rates sizes
  exact ⟨small, large, ofSmall.computes smallNonempty, ofLarge.computes largeNonempty, fees,
    ofSmall.share_le_share ofLarge smallExact.fee_nonneg fees,
    ofSmall.payout_le_payout ofLarge share fees, smallExact, ofLarge.exact highest⟩

/-- With the share of a tenth: a batch of 200 at half a percent, and a batch of 1000 at five
percent. -/
theorem larger_pays_no_less_tenth :
    ∃ small large : Split,
      Computes ℕ Unit 50 1000 200 small ∧ Computes ℕ Unit 500 1000 1000 large ∧
        small.relayPayout.val ≤ large.relayPayout.val := by
  obtain ⟨small, large, computesSmall, computesLarge, -, -, payouts, -, -⟩ :=
    @larger_pays_no_less ℕ Unit _ 1000 50 500 200 1000 (by decide) (by decide) (by decide)
      (by decide) (by decide)
  exact ⟨small, large, computesSmall, computesLarge, payouts⟩

end Computed

end StellarConduit.FeeDistributor
