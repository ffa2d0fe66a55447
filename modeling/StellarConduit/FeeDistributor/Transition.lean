import StellarConduit.FeeDistributor.Contract

/-!
# What each distributor entry point does when it returns

One equivalence for each entry point.  On its right stand the checks of the source in their
order, the calls of other contracts that went through, and one equation for the world after
the call; the later modules rewrite with it and never unfold an entry point.

The intermediate products of the fee computation always fit into an `i128`: a batch size and a
rate are `u32`, a share is a `u32` again, and `2^96` is far below the bound.  So the
equivalences speak of the exact quotients `feeOf` and `shareOf`, and the `Overflow` answers of
the computation do not occur in them.  Only the running totals of a relay can overflow, which
shows as the existence of a sum of the right value.

The payment to the treasury is one block of the source, behind a check that the share is not
zero.  It makes two calls, of the token and then of the treasury, and `PaysTreasury` is what
they do to the outside.

`Outcome` sums up what a call can do, for the proofs about earnings and entries: two entry
points write them, `distribute` and `claim`.

## Main definitions

* `feeOf`, `shareOf` — the fee of a batch and the treasury's share, as quotients.
* `CouncilPasses` — the stored council lets the call through.
* `PaysTreasury` — what the payment to the treasury does to the outside.
* `Outcome` — what a call does to earnings and entries.

## Main results

* `returns_distribute`, `returns_claim`, … — the entry points.
* `outcome_of_returns` — the calls of a configured distributor have such an outcome.
-/

namespace StellarConduit.FeeDistributor

open Soroban Contract

/-- The fee of a batch: the rate's fraction of its size, rounded down. -/
def feeOf (batchSize feeRateBps : U32) : Int := batchSize.val * feeRateBps.val / 10000

/-- The treasury's share of a fee: its fraction of the fee, rounded down. -/
def shareOf (fee : Int) (treasuryShareBps : U32) : Int := fee * treasuryShareBps.val / 10000

/-- A fee is not negative and not larger than the product of two `u32`. -/
theorem feeOf_bounds (batchSize feeRateBps : U32) :
    0 ≤ feeOf batchSize feeRateBps ∧ feeOf batchSize feeRateBps ≤ 4294967295 * 4294967295 := by
  have size := MachineInt.u32_bounds batchSize
  have rate := MachineInt.u32_bounds feeRateBps
  have lower : 0 ≤ batchSize.val * feeRateBps.val := mul_nonneg size.1 rate.1
  have upper : batchSize.val * feeRateBps.val ≤ 4294967295 * 4294967295 :=
    mul_le_mul size.2 rate.2 rate.1 (by decide)
  unfold feeOf
  omega

/-- A share of a fee is not negative. -/
theorem shareOf_nonneg (batchSize feeRateBps treasuryShareBps : U32) :
    0 ≤ shareOf (feeOf batchSize feeRateBps) treasuryShareBps := by
  have fee := feeOf_bounds batchSize feeRateBps
  have bps := MachineInt.u32_bounds treasuryShareBps
  have product := mul_nonneg fee.1 bps.1
  unfold shareOf
  omega

/-- A product in range, then divided by the basis-point scale. -/
theorem exists_product_iff {x y : Int} {r : I128} (lower : 0 ≤ x * y)
    (upper : x * y ≤ IntType.max ⟨true, 128⟩) :
    (∃ total : I128, total.val = x * y ∧ r.val = total.val.tdiv 10000) ↔
      r.val = x * y / 10000 := by
  constructor
  · rintro ⟨total, htotal, hr⟩
    rw [hr, htotal, Int.tdiv_eq_ediv_of_nonneg lower]
  · intro hr
    obtain ⟨total, -, htotal⟩ : ∃ c : I128, _ ∧ c.val = x * y :=
      MachineInt.exists_checked (le_trans (IntType.zero_mem _).1 lower) upper
    exact ⟨total, htotal, by rw [htotal, Int.tdiv_eq_ediv_of_nonneg lower, hr]⟩

/-- The fee computation, through its intermediate product. -/
theorem exists_fee_iff {batchSize feeRateBps : U32} {r : I128} :
    (∃ total : I128, total.val = batchSize.val * feeRateBps.val ∧ r.val = total.val.tdiv 10000) ↔
      r.val = feeOf batchSize feeRateBps := by
  have size := MachineInt.u32_bounds batchSize
  have rate := MachineInt.u32_bounds feeRateBps
  apply exists_product_iff (mul_nonneg size.1 rate.1)
  calc batchSize.val * feeRateBps.val ≤ 4294967295 * 4294967295 :=
        mul_le_mul size.2 rate.2 rate.1 (by decide)
    _ ≤ IntType.max ⟨true, 128⟩ := by decide

/-- The share computation, through its intermediate product. -/
theorem exists_share_iff {batchSize feeRateBps treasuryShareBps : U32} {r : I128} :
    (∃ total : I128, total.val = feeOf batchSize feeRateBps * treasuryShareBps.val ∧
        r.val = total.val.tdiv 10000) ↔
      r.val = shareOf (feeOf batchSize feeRateBps) treasuryShareBps := by
  have fee := feeOf_bounds batchSize feeRateBps
  have bps := MachineInt.u32_bounds treasuryShareBps
  apply exists_product_iff (mul_nonneg fee.1 bps.1)
  calc feeOf batchSize feeRateBps * treasuryShareBps.val
      ≤ 4294967295 * 4294967295 * 4294967295 := mul_le_mul fee.2 bps.2 bps.1 (by decide)
    _ ≤ IntType.max ⟨true, 128⟩ := by decide

section

variable {Address X : Type} {env : Env Address X} {w w' : State Address X} {u : Unit}

/-! ## Storage helpers

What each helper returns and leaves, as an equivalence, so that the entry points can be taken
apart without unfolding a helper again.
-/

/-- A relay without a record reads as one that has earned nothing. -/
@[simp] theorem returns_loadEarnings {a : Address} {r : EarningsRecord} :
    Returns (loadEarnings a) w r w' ↔
      r = (w.storage.earnings.get a).getD EarningsRecord.zero ∧ w' = w := returns_loadStorage

/-- A lookup of a batch changes nothing. -/
@[simp] theorem returns_getFeeEntry {id : U64} {r : Option (FeeEntry Address)} :
    Returns (getFeeEntry id) w r w' ↔ r = w.storage.feeEntry.get id ∧ w' = w :=
  returns_loadStorage

/-- The entry of the batch is made, or replaced. -/
@[simp] theorem returns_setFeeEntry {id : U64} {entry : FeeEntry Address} :
    Returns (setFeeEntry id entry) w u w' ↔
      w' = { w with storage := { w.storage with feeEntry := w.storage.feeEntry.set id entry } } :=
  returns_updateStorage

/-- Without a configuration, the source panics. -/
@[simp] theorem returns_getFeeConfig {r : FeeConfig Address} :
    Returns getFeeConfig w r w' ↔ w.storage.feeConfig = some r ∧ w' = w := by
  simp [getFeeConfig, returns_bind, and_assoc]

/-- The configuration is replaced, and nothing else. -/
@[simp] theorem returns_setFeeConfig {config : FeeConfig Address} :
    Returns (setFeeConfig config) w u w' ↔
      w' = { w with storage := { w.storage with feeConfig := some config } } :=
  returns_updateStorage

/-- Without a treasury, the source panics. -/
@[simp] theorem returns_getTreasuryAddress {r : Address} :
    Returns getTreasuryAddress w r w' ↔ w.storage.treasuryAddress = some r ∧ w' = w := by
  simp [getTreasuryAddress, returns_bind, and_assoc]

/-- Without a token, the source panics. -/
@[simp] theorem returns_getTokenAddress {r : Address} :
    Returns getTokenAddress w r w' ↔ w.storage.tokenAddress = some r ∧ w' = w := by
  simp [getTokenAddress, returns_bind, and_assoc]

/-! ## Configuration and views -/

/-- `initialize` is accepted once, with a rate in bounds and a council that can be met; the share
is not checked. -/
theorem returns_initializeContract {council : AdminCouncil Address}
    {feeRateBps treasuryShareBps : U32} {treasury token : Address} :
    Returns (initializeContract council feeRateBps treasuryShareBps treasury token) w u w' ↔
      w.storage.feeConfig = none ∧ ¬ (feeRateBps = 0 ∨ feeRateBps > 10000) ∧
        ¬ council.Invalid ∧
        w' = { w with storage := { w.storage with
          feeConfig := some
            { feeRateBps := feeRateBps, treasuryShareBps := treasuryShareBps, council := council }
          treasuryAddress := some treasury
          tokenAddress := some token } } := by
  simp [initializeContract, returns_bind, and_assoc]

/-- The fee is computed for a batch that is not empty, and cannot overflow. -/
theorem returns_calculateFee {batchSize : U32} {r : I128} :
    Returns (calculateFee batchSize) w r w' ↔
      batchSize ≠ 0 ∧ ∃ config, w.storage.feeConfig = some config ∧
        r.val = feeOf batchSize config.feeRateBps ∧ w' = w := by
  have scale : (10000 : I128).val = 10000 := rfl
  have fee (config : FeeConfig Address) :
      (∃ total : I128, total.val = batchSize.val * config.feeRateBps.val ∧
          r.val = total.val.tdiv 10000 ∧ w' = w) ↔
        r.val = feeOf batchSize config.feeRateBps ∧ w' = w := by
    rw [← exists_fee_iff]
    simp only [← and_assoc, exists_and_right]
  simp [calculateFee, returns_bind, scale, fee, and_assoc]

/-- A relay without a record has earned nothing. -/
theorem returns_getEarnings {a : Address} {r : EarningsRecord} :
    Returns (getEarnings a) w r w' ↔
      r = (w.storage.earnings.get a).getD EarningsRecord.zero ∧ w' = w := returns_loadEarnings

/-- The gate passes in the world `w`: the configured council lets the call
through. -/
def CouncilPasses (env : Env Address X) (w : State Address X) : Prop :=
  ∃ config, w.storage.feeConfig = some config ∧
    Returns (requireAuthOfCouncil (ε := ContractError) env config.council) w () w

/-- The council may change the rate, and only the rate, within the bounds that `initialize` checks
too. -/
theorem returns_setFeeRate {newFeeRateBps : U32} :
    Returns (setFeeRate env newFeeRateBps) w u w' ↔
      CouncilPasses env w ∧ ¬ (newFeeRateBps = 0 ∨ newFeeRateBps > 10000) ∧
        ∃ config, w.storage.feeConfig = some config ∧
          w' = { w with
            storage := { w.storage with
              feeConfig := some { config with feeRateBps := newFeeRateBps } }
            events := w.events ++ [.setFeeRate newFeeRateBps] } := by
  simp only [setFeeRate, requireCouncilAuth, CouncilPasses, returns_bind, returns_getFeeConfig]
  constructor
  · rintro ⟨config, _, ⟨hconfig, rfl⟩, _, _, hauth, h⟩
    obtain rfl := requireAuthOfCouncil_world hauth
    simp only [returns_rejectIf, returns_setFeeConfig, returns_publish] at h
    obtain ⟨_, _, ⟨hrate, rfl⟩, _, _, rfl, rfl⟩ := h
    exact ⟨⟨config, hconfig, hauth⟩, hrate, config, hconfig, rfl⟩
  · rintro ⟨⟨config, hconfig, hauth⟩, hrate, config', hconfig', rfl⟩
    obtain rfl : config = config' := Option.some.inj (hconfig.symm.trans hconfig')
    refine ⟨config, w, ⟨hconfig, rfl⟩, (), w, hauth, ?_⟩
    simpa only [returns_rejectIf, returns_setFeeConfig, returns_publish] using
      ⟨(), w, ⟨hrate, rfl⟩, (), _, rfl, rfl⟩

/-- The treasury has been paid: the token transfer and the deposit went through,
one after the other; a share that is not positive needs neither. -/
def PaysTreasury (env : Env Address X) (s : Storage Address) (treasuryShare : I128)
    (x x' : X) : Prop :=
  if 0 < treasuryShare.val then
    ∃ treasury, s.treasuryAddress = some treasury ∧ ∃ token, s.tokenAddress = some token ∧
    ∃ y, env.invokeContract token "transfer"
        [.address env.currentContract, .address treasury, .i128 treasuryShare] x = some y ∧
      env.invokeContract treasury "deposit"
        [.address env.currentContract, .i128 treasuryShare] y = some x'
  else x' = x

/-- The payment changes the outside alone. -/
@[simp] theorem returns_payTreasury {treasuryShare : I128} :
    Returns (payTreasury env treasuryShare) w u w' ↔
      ∃ x, PaysTreasury env w.storage treasuryShare w.outside x ∧ w' = { w with outside := x } := by
  unfold payTreasury PaysTreasury
  by_cases hpos : 0 < treasuryShare.val
  · simp only [gt_iff_lt, MachineInt.lt_iff_val, MachineInt.val_zero, hpos, ↓reduceIte,
      tokenTransfer, returns_bind, returns_getTreasuryAddress, returns_getTokenAddress,
      returns_callContract, ↓existsAndEq, and_true, exists_const, and_assoc, exists_and_left,
      true_and]
    constructor
    · rintro ⟨treasury, htreasury, token, htoken, y, htransfer, x, hdeposit, rfl⟩
      exact ⟨x, ⟨treasury, htreasury, token, htoken, y, htransfer, hdeposit⟩, rfl⟩
    · rintro ⟨x, ⟨treasury, htreasury, token, htoken, y, htransfer, hdeposit⟩, rfl⟩
      exact ⟨treasury, htreasury, token, htoken, y, htransfer, x, hdeposit, rfl⟩
  · simp [hpos]

end

section

variable {Address X : Type} [DecidableEq Address]
variable {env : Env Address X} {w w' : State Address X} {u : Unit}

/-! ## Entry points on earnings -/

/-- The record of the relay is made, or replaced. -/
@[simp] theorem returns_setEarnings {a : Address} {record : EarningsRecord} :
    Returns (setEarnings a record) w u w' ↔
      w' = { w with storage := { w.storage with earnings := w.storage.earnings.set a record } } :=
  returns_updateStorage

/-- `distribute` needs a batch that has not been distributed.  It asks for nobody's signature and
looks at no registration. -/
theorem returns_distribute {a : Address} {batchId : U64} {batchSize : U32} :
    Returns (distribute env a batchId batchSize) w u w' ↔
      w.storage.feeEntry.get batchId = none ∧ batchSize ≠ 0 ∧
        ∃ config, w.storage.feeConfig = some config ∧
        ∃ fee : I128, fee.val = feeOf batchSize config.feeRateBps ∧
        ∃ share : I128, share.val = shareOf fee.val config.treasuryShareBps ∧
        ∃ payout : I128, payout.val = fee.val - share.val ∧
        ∃ totalEarned : I128, totalEarned.val =
          ((w.storage.earnings.get a).getD EarningsRecord.zero).totalEarned.val + payout.val ∧
        ∃ unclaimed : I128, unclaimed.val =
          ((w.storage.earnings.get a).getD EarningsRecord.zero).unclaimed.val + payout.val ∧
        ∃ x, PaysTreasury env w.storage share w.outside x ∧
          w' =
            { storage := { w.storage with
                earnings := w.storage.earnings.set a
                  { (w.storage.earnings.get a).getD EarningsRecord.zero with
                    totalEarned := totalEarned, unclaimed := unclaimed }
                feeEntry := w.storage.feeEntry.set batchId
                  { batchId := batchId
                    relayAddress := a
                    amount := fee
                    treasuryShare := share
                    settledAt := env.timestamp } }
              outside := x
              events := w.events ++ [.distribute a batchId payout share] } := by
  have scale : (10000 : I128).val = 10000 := rfl
  simp only [distribute, returns_bind, returns_getFeeEntry, returns_rejectIf, Bool.not_eq_true,
    Option.isSome_eq_false_iff, Option.isNone_iff_eq_none, returns_calculateFee, ne_eq,
    returns_getFeeConfig, returns_okOr, MachineInt.checkedMul_eq_some_iff,
    MachineInt.cast_u32_i128_val, MachineInt.checkedDiv_eq_some_iff, scale, OfNat.ofNat_ne_zero,
    not_false_eq_true, true_and, MachineInt.checkedSub_eq_some_iff, returns_loadEarnings,
    MachineInt.checkedAdd_eq_some_iff, returns_setEarnings, returns_setFeeEntry,
    returns_payTreasury, returns_publish, ↓existsAndEq, and_true, exists_const, exists_eq_left,
    and_assoc, exists_and_left, and_congr_right_iff]
  intro _ _
  constructor
  · -- The configuration is loaded twice, and is the same both times.
    rintro ⟨fee, config, hconfig, hfee, config', hconfig', total, htotal, share, hshare, rest⟩
    obtain rfl : config = config' := Option.some.inj (hconfig.symm.trans hconfig')
    rw [hfee] at htotal
    exact ⟨config, hconfig, fee, hfee, share, hfee ▸ exists_share_iff.mp ⟨total, htotal, hshare⟩,
      rest⟩
  · rintro ⟨config, hconfig, fee, hfee, share, hshare, rest⟩
    obtain ⟨total, htotal, hquot⟩ := exists_share_iff.mpr (hfee ▸ hshare)
    exact ⟨fee, config, hconfig, hfee, config, hconfig, total, hfee ▸ htotal, share, hquot, rest⟩

/-- `claim` pays out all that is unclaimed, to the relay that has signed for it. -/
theorem returns_claim {a : Address} {r : I128} :
    Returns (claim env a) w r w' ↔
      env.authorised a = true ∧
        ((w.storage.earnings.get a).getD EarningsRecord.zero).unclaimed ≠ 0 ∧
        r = ((w.storage.earnings.get a).getD EarningsRecord.zero).unclaimed ∧
        ∃ totalClaimed : I128, totalClaimed.val =
          ((w.storage.earnings.get a).getD EarningsRecord.zero).totalClaimed.val + r.val ∧
        ∃ token, w.storage.tokenAddress = some token ∧
        ∃ x, env.invokeContract token "transfer"
            [.address env.currentContract, .address a, .i128 r] w.outside = some x ∧
          w' =
            { storage := { w.storage with
                earnings := w.storage.earnings.set a
                  { (w.storage.earnings.get a).getD EarningsRecord.zero with
                    totalClaimed := totalClaimed, unclaimed := 0 } }
              outside := x
              events := w.events ++ [.claim a r] } := by
  simp only [claim, tokenTransfer, returns_bind, returns_requireAuth, returns_loadEarnings,
    returns_rejectIf, returns_okOr, MachineInt.checkedAdd_eq_some_iff, returns_setEarnings,
    returns_publish, returns_getTokenAddress, returns_callContract, returns_pure,
    exists_eq_right_right', exists_const, and_assoc, exists_and_left, ↓existsAndEq, true_and,
    exists_eq_left, ne_eq, and_congr_right_iff]
  intro _ _
  constructor
  · rintro ⟨totalClaimed, hclaimed, token, htoken, ⟨x, htransfer, rfl⟩, rfl⟩
    exact ⟨rfl, totalClaimed, hclaimed, token, htoken, x, htransfer, rfl⟩
  · rintro ⟨rfl, totalClaimed, hclaimed, token, htoken, x, htransfer, rfl⟩
    exact ⟨totalClaimed, hclaimed, token, htoken, ⟨x, htransfer, rfl⟩, rfl⟩

end

/-! ## Outcomes

Every call that returns is one of these cases; invariants split on them and not on the entry
points.
-/

section

variable {Address X : Type} {env : Env Address X} {w w' : State Address X}

/-- The calls that only read. -/
def Reads : Call Address → Prop
  | .calculateFee _ | .getEarnings _ => True
  | _ => False

/-- A call that only reads leaves the world as it was. -/
theorem world_eq_of_reads [DecidableEq Address] {c : Call Address} {v : Value}
    (h : Returns (dispatch env c) w v w') (reads : Reads c) : w' = w := by
  cases c with
  | calculateFee batchSize =>
      obtain ⟨_, hcall, -⟩ := returns_bind_pure.mp h
      obtain ⟨-, _, -, -, same⟩ := returns_calculateFee.mp hcall
      exact same
  | getEarnings a =>
      obtain ⟨_, hcall, -⟩ := returns_bind_pure.mp h
      exact (returns_getEarnings.mp hcall).2
  | _ => exact reads.elim

/-- The calls that post to the earnings. -/
def Posts : Call Address → Prop
  | .distribute _ _ _ | .claim _ => True
  | _ => False

/-- Earnings and fee entries, council, addresses and the other contracts are as
they were. -/
structure BooksKept (w w' : State Address X) : Prop where
  earnings : w'.storage.earnings = w.storage.earnings
  feeEntry : w'.storage.feeEntry = w.storage.feeEntry
  council : w'.storage.feeConfig.map FeeConfig.council = w.storage.feeConfig.map FeeConfig.council
  treasuryAddress : w'.storage.treasuryAddress = w.storage.treasuryAddress
  tokenAddress : w'.storage.tokenAddress = w.storage.tokenAddress
  outside : w'.outside = w.outside

/-- Nothing is done to the books. -/
theorem BooksKept.refl (w : State Address X) : BooksKept w w := ⟨rfl, rfl, rfl, rfl, rfl, rfl⟩

/-- What a call of a configured distributor does when it returns: it posts to the
earnings, or it keeps the books. -/
inductive Outcome [DecidableEq Address] (env : Env Address X) (w : State Address X) :
    Call Address → Value → State Address X → Prop where
  | distribute {a : Address} {batchId : U64} {batchSize : U32} {v : Value} {w' : State Address X}
      (h : Returns (distribute env a batchId batchSize) w () w') :
      Outcome env w (.distribute a batchId batchSize) v w'
  | claim {a : Address} {payout : I128} {w' : State Address X}
      (h : Returns (claim env a) w payout w') : Outcome env w (.claim a) (.amount payout) w'
  | other {c : Call Address} {v : Value} {w' : State Address X} (quiet : ¬ Posts c)
      (kept : BooksKept w w') : Outcome env w c v w'

/-- By cases on the call; a second `initialize` does not return. -/
theorem outcome_of_returns [DecidableEq Address] {c : Call Address} {v : Value}
    (configured : w.storage.feeConfig.isSome) (h : Returns (dispatch env c) w v w') :
    Outcome env w c v w' := by
  cases c with
  | initializeContract council feeRateBps treasuryShareBps treasury token =>
      -- A second `initialize` answers `AlreadyInitialized`.
      obtain ⟨_, hcall, -⟩ := returns_bind_pure.mp h
      obtain ⟨hnone, -⟩ := returns_initializeContract.mp hcall
      rw [hnone] at configured
      cases configured
  | calculateFee batchSize | getEarnings a =>
      obtain rfl := world_eq_of_reads h trivial
      exact .other id (.refl _)
  | distribute a batchId batchSize =>
      obtain ⟨_, hcall, -⟩ := returns_bind_pure.mp h
      exact .distribute hcall
  | claim a =>
      obtain ⟨payout, hcall, rfl⟩ := returns_bind_pure.mp h
      exact .claim hcall
  | setFeeRate newFeeRateBps =>
      obtain ⟨_, hcall, -⟩ := returns_bind_pure.mp h
      obtain ⟨-, -, config, hconfig, rfl⟩ := returns_setFeeRate.mp hcall
      exact .other id ⟨rfl, rfl, by rw [hconfig]; rfl, rfl, rfl, rfl⟩

/-- A call that returns leaves the configured council alone. -/
theorem Outcome.council [DecidableEq Address] {c : Call Address} {v : Value}
    (h : Outcome env w c v w') :
    w'.storage.feeConfig.map FeeConfig.council = w.storage.feeConfig.map FeeConfig.council := by
  cases h with
  | distribute h =>
      obtain ⟨-, -, _, -, _, -, _, -, _, -, _, -, _, -, _, -, rfl⟩ := returns_distribute.mp h
      rfl
  | claim h =>
      obtain ⟨-, -, -, _, -, _, -, _, -, rfl⟩ := returns_claim.mp h
      rfl
  | other quiet kept => exact kept.council

/-- A configured distributor stays configured. -/
theorem Outcome.configured [DecidableEq Address] {c : Call Address} {v : Value}
    (h : Outcome env w c v w') (configured : w.storage.feeConfig.isSome) :
    w'.storage.feeConfig.isSome := by
  rw [← Option.isSome_map (f := FeeConfig.council), h.council, Option.isSome_map]
  exact configured

end

end StellarConduit.FeeDistributor
