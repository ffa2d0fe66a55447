import StellarConduit.Soroban.Avoidance
import StellarConduit.FeeDistributor.Bounds

/-!
# No arithmetic of the distributor overflows

Every sum, difference and product of the three calls is checked, and each check is
answered by `Overflow` when it fails.  None fails: the products are of `u32` factors, the
totals of a relay are bounded by the number of batches, which cannot exceed the number of
identifiers, and what has been claimed together with what can be is what has been earned.

The bound is one of counting.  A batch is credited once and its identifier is a `u64`.  Its fee
is at most its size, the rate being checked; the treasury's share is not checked, and may exceed
the fee, but it is a `u32` and so a payout is below `2^51` in size, of whichever sign.  A relay's
total is then below `2^115`, which is far from the ends of an `i128`.  The claimed total needs no
bound of its own: together with what can be claimed it is what was earned.

`Avoids e x w` says that the computation `x` does not fail with `e` in the world `w`; like the
other relations on computations it has one rule for each primitive, and the entry points are
gone through with these rules.

## Main results

* `never_overflows` — no call of a reached state answers `Overflow`.
-/

namespace StellarConduit.FeeDistributor

open Soroban Contract

section Arithmetic

/-- A product of `u32` factors is an `i128`. -/
theorem exists_checkedMul {a b : I128} (lower : 0 ≤ a.val * b.val)
    (upper : a.val * b.val ≤ IntType.max ⟨true, 128⟩) : ∃ c, a.checkedMul b = some c := by
  obtain ⟨c, hc⟩ : ∃ c : I128, c.val = a.val * b.val :=
    MachineInt.contains_iff.mp ⟨le_trans (IntType.zero_mem _).1 lower, upper⟩
  exact ⟨c, MachineInt.checkedMul_eq_some_iff.mpr hc⟩

/-- A quotient by the basis-point scale is not larger than what is divided. -/
theorem exists_checkedDiv {a : I128} (nonneg : 0 ≤ a.val) :
    ∃ c, a.checkedDiv 10000 = some c := by
  have scale : (10000 : I128).val = 10000 := rfl
  have upper := a.le_max
  have lowest := (IntType.zero_mem ⟨true, 128⟩).1
  have quotient : a.val.tdiv 10000 = a.val / 10000 := Int.tdiv_eq_ediv_of_nonneg nonneg
  obtain ⟨c, hc⟩ : ∃ c : I128, c.val = a.val.tdiv 10000 :=
    MachineInt.contains_iff.mp ⟨by omega, by omega⟩
  refine ⟨c, MachineInt.checkedDiv_eq_some_iff.mpr ⟨?_, ?_⟩⟩
  · rw [scale]
    decide
  · rw [scale]
    exact hc

end Arithmetic

section Calls

variable {Address X : Type} {w : State Address X} {env : Env Address X} {β : Type}

/-- A configuration that is missing is a panic, not an overflow. -/
theorem avoids_getFeeConfig {f : FeeConfig Address → Distributor Address X β}
    (rest : ∀ config, w.storage.feeConfig = some config → Avoids .overflow (f config) w) :
    Avoids .overflow (getFeeConfig >>= f) w := by
  unfold getFeeConfig
  rw [bind_assoc]
  exact avoids_loadStorage (avoids_expect rest)

/-- The fee of a batch never overflows. -/
theorem avoids_calculateFee {batchSize : U32} :
    Avoids .overflow (calculateFee batchSize : Distributor Address X I128) w := by
  unfold calculateFee
  refine avoids_rejectIf (by decide) fun _ => ?_
  refine avoids_getFeeConfig fun config _ => ?_
  have size := MachineInt.u32_bounds batchSize
  have rate := MachineInt.u32_bounds config.feeRateBps
  have product : 0 ≤ batchSize.val * config.feeRateBps.val := mul_nonneg size.1 rate.1
  have total : ∃ total, (batchSize.cast : I128).checkedMul config.feeRateBps.cast = some total := by
    apply exists_checkedMul
    · rw [MachineInt.cast_u32_i128_val, MachineInt.cast_u32_i128_val]
      exact product
    · rw [MachineInt.cast_u32_i128_val, MachineInt.cast_u32_i128_val]
      calc batchSize.val * config.feeRateBps.val ≤ 4294967295 * 4294967295 :=
            mul_le_mul size.2 rate.2 rate.1 (by decide)
        _ ≤ IntType.max ⟨true, 128⟩ := by decide
  refine avoids_okOr_some total fun total htotal => avoids_last ?_
  refine avoids_okOr_some (exists_checkedDiv ?_) fun _ _ => avoids_pure
  rw [MachineInt.checkedMul_eq_some_iff.mp htotal, MachineInt.cast_u32_i128_val,
    MachineInt.cast_u32_i128_val]
  exact product

/-- A payment to the treasury that fails is a trap, not an overflow. -/
theorem avoids_payTreasury {treasuryShare : I128} :
    Avoids .overflow (payTreasury env treasuryShare) w := by
  unfold payTreasury getTreasuryAddress getTokenAddress tokenTransfer
  split
  · rw [bind_assoc]
    refine avoids_loadStorage (avoids_expect fun treasury _ => ?_)
    rw [bind_assoc]
    refine avoids_loadStorage (avoids_expect fun token _ => ?_)
    refine avoids_callContract fun x => avoids_last ?_
    exact avoids_callContract fun x => avoids_pure
  · exact avoids_pure

variable [DecidableEq Address] {treasuryShareBps : U32}

/-- A distribution never overflows while the totals are in range. -/
theorem avoids_distribute {a : Address} {batchId : U64} {batchSize : U32}
    (configured : Configured treasuryShareBps w.storage) (range : WithinRange w.storage) :
    Avoids .overflow (distribute env a batchId batchSize) w := by
  unfold distribute
  refine avoids_loadStorage (avoids_rejectIf (by decide) fun _ => ?_)
  -- The configuration is read twice, for the fee and for the share, and not written in between.
  refine avoids_bind avoids_calculateFee fun fee w' returned => ?_
  obtain ⟨-, config, hconfig, hfee, rfl⟩ := returns_calculateFee.mp returned
  refine avoids_getFeeConfig fun config' hconfig' => ?_
  obtain rfl : config = config' := Option.some.inj (hconfig.symm.trans hconfig')
  obtain ⟨configured, hconfigured, -, rate⟩ := configured
  obtain rfl : config = configured := Option.some.inj (hconfig.symm.trans hconfigured)
  have feeBounds := feeOf_bounds batchSize config.feeRateBps
  have bps := MachineInt.u32_bounds config.treasuryShareBps
  -- The product has three factors of 32 bits, and the quotient is smaller still.
  have product : 0 ≤ feeOf batchSize config.feeRateBps * config.treasuryShareBps.val :=
    mul_nonneg feeBounds.1 bps.1
  have scaled : ∃ scaled, fee.checkedMul config.treasuryShareBps.cast = some scaled := by
    apply exists_checkedMul
    · rw [MachineInt.cast_u32_i128_val, hfee]
      exact product
    · rw [MachineInt.cast_u32_i128_val, hfee]
      calc feeOf batchSize config.feeRateBps * config.treasuryShareBps.val
          ≤ 4294967295 * 4294967295 * 4294967295 :=
            mul_le_mul feeBounds.2 bps.2 bps.1 (by decide)
        _ ≤ IntType.max ⟨true, 128⟩ := by decide
  refine avoids_okOr_some scaled fun scaled hscaled => ?_
  have scaledVal : scaled.val = feeOf batchSize config.feeRateBps * config.treasuryShareBps.val := by
    rw [MachineInt.checkedMul_eq_some_iff.mp hscaled, MachineInt.cast_u32_i128_val, hfee]
  refine avoids_okOr_some (exists_checkedDiv (by rw [scaledVal]; exact product))
    fun share hshare => ?_
  have shareVal : share.val =
      shareOf (feeOf batchSize config.feeRateBps) config.treasuryShareBps := by
    have scale : (10000 : I128).val = 10000 := rfl
    rw [(MachineInt.checkedDiv_eq_some_iff.mp hshare).2, scale, scaledVal,
      Int.tdiv_eq_ediv_of_nonneg product]
    rfl
  -- The share may exceed the fee, so the payout is bounded on both sides.
  have bounds : - payoutBound ≤ fee.val - share.val ∧ fee.val - share.val ≤ payoutBound := by
    rw [hfee, shareVal]
    exact payout_bounds rate
  have payout : ∃ payout, fee.checkedSub share = some payout := by
    have small : payoutBound ≤ IntType.max ⟨true, 128⟩ := by decide
    have lowest : IntType.min ⟨true, 128⟩ ≤ - payoutBound := by decide
    obtain ⟨payout, hpayout⟩ : ∃ c : I128, c.val = fee.val - share.val :=
      MachineInt.contains_iff.mp ⟨by omega, by omega⟩
    exact ⟨payout, MachineInt.checkedSub_eq_some_iff.mpr hpayout⟩
  refine avoids_okOr_some payout fun payout hpayout => avoids_loadStorage ?_
  rw [← MachineInt.checkedSub_eq_some_iff.mp hpayout] at bounds
  -- Both totals get the payout on top, and for both this is the bound of one batch more.
  have fits {total : I128} (inRange : - (payoutBound * w'.storage.feeEntry.keys.card) ≤ total.val ∧
      total.val ≤ payoutBound * w'.storage.feeEntry.keys.card) :
      ∃ sum, total.checkedAdd payout = some sum := by
    obtain ⟨sum, hsum⟩ := MachineInt.contains_iff.mp (contains_add_payout inRange bounds)
    exact ⟨sum, MachineInt.checkedAdd_eq_some_iff.mpr hsum⟩
  refine avoids_okOr_some (fits (range.totalEarned a)) fun totalEarned _ => ?_
  refine avoids_okOr_some (fits (range.unclaimed a)) fun unclaimed _ => ?_
  refine avoids_updateStorage (avoids_updateStorage ?_)
  refine avoids_bind avoids_payTreasury fun _ w'' _ => avoids_last ?_
  exact avoids_publish avoids_pure

/-- A claim never overflows while the account is reconciled: the claimed total that it
leaves is what has been earned. -/
theorem avoids_claim {a : Address} (books : Reconciled w.storage) :
    Avoids .overflow (claim env a) w := by
  unfold claim getTokenAddress tokenTransfer
  refine avoids_requireAuth (avoids_loadStorage ?_)
  refine avoids_rejectIf (by decide) fun _ => ?_
  have split := books.split a
  have total : ∃ total, (earningsOf w.storage a).totalClaimed.checkedAdd
      (earningsOf w.storage a).unclaimed = some total :=
    ⟨(earningsOf w.storage a).totalEarned, MachineInt.checkedAdd_eq_some_iff.mpr split⟩
  refine avoids_okOr_some total fun totalClaimed _ => ?_
  refine avoids_updateStorage (avoids_publish ?_)
  rw [bind_assoc]
  refine avoids_loadStorage (avoids_expect fun token _ => ?_)
  exact avoids_callContract fun x => avoids_pure

end Calls

/-! ## Runs

The lemmas above assume a checked rate, totals in range and reconciled accounts.  All three are
invariants, so what is left is to put them together in a reached state.
-/

section Runs

variable {Address X : Type} [DecidableEq Address] {council : AdminCouncil Address}
  {feeRateBps treasuryShareBps : U32} {treasury token : Address} {x : X} {w : State Address X}

/-- **The arithmetic of the distributor never overflows.**  Whatever configuration
`initialize` has accepted, no `calculate_fee`, `distribute` or `claim` answers `Overflow`
in any reached state. -/
theorem never_overflows
    (h : Returns (initializeContract council feeRateBps treasuryShareBps treasury token)
      (freshState x) () w) (as : List (Action Address X (Call Address) Empty))
    (env : Env Address X) :
    let reached := machine.run w as
    let overflow : Reply ContractError Value := some (.error (.error .overflow))
    (∀ batchSize, (machine.step reached (.call env (.calculateFee batchSize))).1 ≠ overflow) ∧
      (∀ a batchId batchSize,
        (machine.step reached (.call env (.distribute a batchId batchSize))).1 ≠ overflow) ∧
      ∀ a, (machine.step reached (.call env (.claim a))).1 ≠ overflow := by
  intro reached overflow
  obtain ⟨configured, range⟩ := withinRange_run h as
  have start : Reconciled w.storage := by
    obtain ⟨-, -, rfl⟩ := returns_initializeContract_freshState.mp h
    exact reconciled_initialState
  have books : Reconciled reached.storage := reconciled_run start as
  refine ⟨fun batchSize => ?_, fun a batchId batchSize => ?_, fun a => ?_⟩
  · apply Deployed.reply_ne_of_avoids
    exact avoids_bind avoids_calculateFee fun _ _ _ => avoids_pure
  · apply Deployed.reply_ne_of_avoids
    exact avoids_bind (avoids_distribute configured range) fun _ _ _ => avoids_pure
  · apply Deployed.reply_ne_of_avoids
    exact avoids_bind (avoids_claim books) fun _ _ _ => avoids_pure

end Runs

/-- A share of more than twice the fee: the payouts are negative, and nothing overflows. -/
theorem never_overflows_largestShare :
    (machine.step (initialState ⟨[7], 1⟩ 10000 4294967295 8 9 () : State ℕ Unit)
      (.call (openEnv 0 0 5) (.distribute 1 1 4294967295))).1 ≠
        some (.error (.error .overflow)) := by
  have h : Returns (initializeContract ⟨[7], 1⟩ 10000 4294967295 8 9) (freshState ()) ()
      (initialState ⟨[7], 1⟩ 10000 4294967295 8 9 () : State ℕ Unit) :=
    returns_initializeContract_freshState.mpr ⟨by decide, by decide, rfl⟩
  exact (never_overflows h [] (openEnv 0 0 5)).2.1 1 1 4294967295

end StellarConduit.FeeDistributor
