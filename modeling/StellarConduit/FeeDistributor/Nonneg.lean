import StellarConduit.FeeDistributor.Bounds

/-!
# Earnings that are never negative

`initialize` checks the fee rate against ten thousand basis points, and takes the treasury's
share of a fee as it comes.  A share of up to the whole fee leaves a payout that is not
negative, and then nothing in the books ever is: every total is a sum of payouts, and a claim
moves what is unclaimed to what is claimed.  With a larger share a single batch leaves a
negative payout, once its fee is large enough for the excess not to be rounded away.

This is about the books alone, whatever the treasury does with the tokens that it is paid;
`Settlement.Overpayment` is about the tokens.

## Main definitions

* `EarningsNonneg` — nothing in the books is negative.
* `TotalsGrow` — between two states no relay's totals have become less.
* `NeverNegative` — both, along a run and all that follows it.

## Main results

* `earningsNonneg_call` — a call that returns makes nothing negative and no total less, when
  the treasury's share is at most the whole fee.
* `neverNegative_iff` — the earnings are never negative, in any run, exactly when the
  treasury's share is at most the whole fee.
-/

namespace StellarConduit.FeeDistributor

open Soroban Contract

section Batch

variable {feeRateBps treasuryShareBps : U32} {fee : Int}

/-- The fee of the largest batch is not small at any rate. -/
theorem le_feeOf_max (positive : 0 < feeRateBps.val) :
    10000 ≤ feeOf 4294967295 feeRateBps := by
  apply Int.le_ediv_of_mul_le (by decide)
  have largest : (4294967295 : U32).val = 4294967295 := rfl
  rw [largest]
  omega

/-- A share of at most the whole is at most the fee. -/
theorem shareOf_le (nonneg : 0 ≤ fee) (share : treasuryShareBps.val ≤ 10000) :
    shareOf fee treasuryShareBps ≤ fee :=
  Int.ediv_le_of_le_mul (by decide) (mul_le_mul_of_nonneg_left share nonneg)

/-- A share of more than the whole is more than the fee, when this is not small. -/
theorem lt_shareOf (large : 10000 ≤ fee) (share : 10000 < treasuryShareBps.val) :
    fee < shareOf fee treasuryShareBps := by
  apply Int.le_ediv_of_mul_le (by decide)
  calc (fee + 1) * 10000 ≤ fee * 10001 := by omega
    _ ≤ fee * treasuryShareBps.val := mul_le_mul_of_nonneg_left (by omega) (by omega)

end Batch

section Steps

variable {Address X : Type} [DecidableEq Address] {env : Env Address X} {w w' : State Address X}
  {treasuryShareBps : U32}

/-! ## Earnings that are not negative -/

/-- Every fee entry has a share between zero and the fee, and no record has a
negative total. -/
structure EarningsNonneg (s : Storage Address) : Prop where
  /-- A share is a part of its fee. -/
  entry : ∀ id e, s.feeEntry.get id = some e →
    0 ≤ e.treasuryShare.val ∧ e.treasuryShare.val ≤ e.amount.val
  /-- What was earned, -/
  totalEarned : ∀ a, 0 ≤ (earningsOf s a).totalEarned.val
  /-- what was claimed -/
  totalClaimed : ∀ a, 0 ≤ (earningsOf s a).totalClaimed.val
  /-- and what is left are not negative. -/
  unclaimed : ∀ a, 0 ≤ (earningsOf s a).unclaimed.val

/-- From one state to another, no relay's totals have become less. -/
def TotalsGrow (s s' : Storage Address) : Prop :=
  ∀ a, (earningsOf s a).totalEarned.val ≤ (earningsOf s' a).totalEarned.val ∧
    (earningsOf s a).totalClaimed.val ≤ (earningsOf s' a).totalClaimed.val

omit [DecidableEq Address] in
/-- No total has become less. -/
theorem TotalsGrow.refl (s : Storage Address) : TotalsGrow s s := fun _ => ⟨le_refl _, le_refl _⟩

omit [DecidableEq Address] in
/-- Nor has one in two steps. -/
theorem TotalsGrow.trans {s s' s'' : Storage Address} (h : TotalsGrow s s')
    (h' : TotalsGrow s' s'') : TotalsGrow s s'' :=
  fun a => ⟨(h a).1.trans (h' a).1, (h a).2.trans (h' a).2⟩

/-- The share of a batch is at most its fee, when the treasury's is at most the
whole. -/
theorem DistributionEntered.share_le {a : Address} {batchId : U64} {batchSize : U32}
    {config : FeeConfig Address} {e : FeeEntry Address}
    (entered : DistributionEntered w w' a batchId batchSize config e)
    (configured : Configured treasuryShareBps w.storage) (share : treasuryShareBps.val ≤ 10000) :
    0 ≤ e.treasuryShare.val ∧ e.treasuryShare.val ≤ e.amount.val := by
  obtain ⟨config', hconfig', rfl, -⟩ := configured
  obtain rfl : config = config' := Option.some.inj (entered.configured.symm.trans hconfig')
  rw [entered.treasuryShare, entered.amount]
  exact ⟨shareOf_nonneg _ _ _, shareOf_le (feeOf_bounds _ _).1 share⟩

/-- With a treasury share of at most the whole, a call that returns makes nothing
negative, and no total less. -/
theorem earningsNonneg_call {c : Call Address} {v : Value}
    (configured : Configured treasuryShareBps w.storage) (share : treasuryShareBps.val ≤ 10000)
    (inv : EarningsNonneg w.storage) (h : Returns (dispatch env c) w v w') :
    EarningsNonneg w'.storage ∧ TotalsGrow w.storage w'.storage := by
  cases outcome_of_returns configured.isSome h with
  | distribute hcall =>
      obtain ⟨config, e, entered⟩ := distribute_enters hcall
      -- With a share of at most the whole, the payout is the non-negative rest of the fee.
      have hshare := entered.share_le configured share
      have payout :
          ∀ b a : Address, 0 ≤ if b = a then e.amount.val - e.treasuryShare.val else 0 := by
        intro b a
        split <;> omega
      refine ⟨⟨fun id e' he' => ?_, fun b => ?_, fun b => ?_, fun b => ?_⟩, fun b => ⟨?_, ?_⟩⟩
      · rw [entered.feeEntry, Store.get_set] at he'
        split at he'
        · cases he'
          exact hshare
        · exact inv.entry id e' he'
      · rw [entered.totalEarned]
        exact add_nonneg (inv.totalEarned b) (payout _ _)
      · rw [entered.totalClaimed]
        exact inv.totalClaimed b
      · rw [entered.unclaimed]
        exact add_nonneg (inv.unclaimed b) (payout _ _)
      · rw [entered.totalEarned]
        exact le_add_of_nonneg_right (payout _ _)
      · rw [entered.totalClaimed]
  | @claim a payout _ hcall =>
      have entered := claim_enters hcall
      -- A claim pays what was unclaimed, which the invariant says is not negative.
      have hpayout : ∀ b, 0 ≤ if b = a then payout.val else 0 := by
        intro b
        split
        · rw [entered.payout_eq]
          exact inv.unclaimed a
        · exact le_refl 0
      refine ⟨⟨fun id e he => ?_, fun b => ?_, fun b => ?_, fun b => ?_⟩, fun b => ⟨?_, ?_⟩⟩
      · rw [entered.feeEntry] at he
        exact inv.entry id e he
      · rw [entered.totalEarned]
        exact inv.totalEarned b
      · rw [entered.totalClaimed]
        exact add_nonneg (inv.totalClaimed b) (hpayout b)
      · rw [entered.unclaimed]
        split
        · exact MachineInt.val_zero.ge
        · exact inv.unclaimed b
      · rw [entered.totalEarned]
      · rw [entered.totalClaimed]
        exact le_add_of_nonneg_right (hpayout b)
  | other quiet kept =>
      have same : ∀ a, earningsOf w'.storage a = earningsOf w.storage a := fun a => by
        rw [earningsOf, earningsOf, kept.earnings]
      refine ⟨⟨?_, ?_, ?_, ?_⟩, fun a => ?_⟩
      · rw [kept.feeEntry]
        exact inv.entry
      · simpa only [same] using inv.totalEarned
      · simpa only [same] using inv.totalClaimed
      · simpa only [same] using inv.unclaimed
      · rw [same]
        exact ⟨le_refl _, le_refl _⟩

end Steps

/-! ## Runs -/

section Runs

variable {Address X : Type} [DecidableEq Address] {council : AdminCouncil Address}
  {feeRateBps treasuryShareBps : U32} {treasury token : Address} {x : X} {w : State Address X}
  {u : Unit}

omit [DecidableEq Address] in
/-- Before the first batch all totals are zero. -/
theorem earningsNonneg_initializeContract
    (h : Returns (initializeContract council feeRateBps treasuryShareBps treasury token)
      (freshState x) u w) : EarningsNonneg w.storage := by
  obtain ⟨hentry, hearnings⟩ := earningsOf_initializeContract h
  have zero : ∀ a, earningsOf w.storage a = EarningsRecord.zero := hearnings
  refine ⟨fun id e he => ?_, fun a => ?_, fun a => ?_, fun a => ?_⟩
  · rw [hentry] at he
    cases he
  · rw [zero]
    exact MachineInt.val_zero.ge
  · rw [zero]
    exact MachineInt.val_zero.ge
  · rw [zero]
    exact MachineInt.val_zero.ge

/-- After these actions nothing in the books is negative, whatever follows makes no
total less, and no claim paid a negative amount. -/
structure NeverNegative (w : State Address X) (as : List (Action Address X (Call Address) Empty)) :
    Prop where
  /-- The books at the end of the run. -/
  earnings : EarningsNonneg (machine.run w as).storage
  /-- The totals, however the run goes on. -/
  totals : ∀ bs, TotalsGrow (machine.run w as).storage (machine.run w (as ++ bs)).storage
  /-- What is paid to a relay. -/
  claims : ∀ r ∈ machine.trace w as, ∀ a, 0 ≤ claimedBy a r

/-- Configured with this treasury share, and without anything negative in the books. -/
structure Positive (treasuryShareBps : U32) (s : Storage Address) : Prop where
  /-- The share is the one that was set. -/
  configured : Configured treasuryShareBps s
  /-- The books hold nothing negative. -/
  earnings : EarningsNonneg s

/-- Such a step leaves nothing negative in the books. -/
theorem positive_step (share : treasuryShareBps.val ≤ 10000) (w : State Address X)
    (action : Action Address X (Call Address) Empty) (inv : Positive treasuryShareBps w.storage) :
    Positive treasuryShareBps (machine.step w action).2.storage :=
  Deployed.step_storage (Positive treasuryShareBps)
    (fun _ _ _ _ _ inv hcall => ⟨configured_call inv.configured hcall,
      (earningsNonneg_call inv.configured share inv.earnings hcall).1⟩)
    (fun p => p.elim) w action inv

/-- Such a step makes no total less. -/
theorem totalsGrow_step (share : treasuryShareBps.val ≤ 10000) (w : State Address X)
    (action : Action Address X (Call Address) Empty) (inv : Positive treasuryShareBps w.storage) :
    TotalsGrow w.storage (machine.step w action).2.storage := by
  refine Deployed.record_rule dispatch provide (fun r => TotalsGrow w.storage r.after.storage)
    w action ?returned ?failed ?provision ?elsewhere
  case returned =>
    intro env c v w' h
    exact (earningsNonneg_call inv.configured share inv.earnings h).2
  case failed =>
    intro env c e
    exact .refl _
  case provision =>
    intro p
    exact p.elim
  case elsewhere =>
    intro x
    exact .refl _

/-- With a treasury share of at most the whole, nothing is ever negative. -/
theorem neverNegative_of_share_le
    (h : Returns (initializeContract council feeRateBps treasuryShareBps treasury token)
      (freshState x) u w)
    (share : treasuryShareBps.val ≤ 10000) (as : List (Action Address X (Call Address) Empty)) :
    NeverNegative w as := by
  have start : Positive treasuryShareBps w.storage :=
    ⟨configured_initializeContract h, earningsNonneg_initializeContract h⟩
  have positive (as : List (Action Address X (Call Address) Empty)) :
      Positive treasuryShareBps (machine.run w as).storage :=
    machine.run_invariant (fun w => Positive treasuryShareBps w.storage) (positive_step share) start
      as
  refine ⟨(positive as).earnings, fun bs => ?_, fun r hr a => ?_⟩
  · rw [Machine.run_append]
    exact machine.run_related (fun w => Positive treasuryShareBps w.storage)
      (fun w w' => TotalsGrow w.storage w'.storage) (fun _ => .refl _) TotalsGrow.trans
      (positive_step share) (totalsGrow_step share) (positive as) bs
  · -- What a claim pays is what the claimed total grows by.
    obtain ⟨pre, action, post, -, rfl⟩ := machine.mem_trace.mp hr
    have books : Reconciled (machine.run w pre).storage := by
      obtain ⟨-, -, rfl⟩ := returns_initializeContract_freshState.mp h
      exact reconciled_run reconciled_initialState pre
    have claimed := totalClaimed_step a (machine.run w pre) action books
    have grow := (totalsGrow_step share _ action (positive pre) a).2
    omega

/-- The largest batch, distributed to `a`. -/
def largestBatch (a : Address) : List (Action Address X (Call Address) Empty) :=
  [.call (openEnv a 0 0) (.distribute a 0 4294967295)]

/-- With a treasury share of more than the whole, the largest batch has a share of more
than its fee. -/
theorem not_neverNegative_of_lt_share
    (h : Returns (initializeContract council feeRateBps treasuryShareBps treasury token)
      (freshState x) u w)
    (share : 10000 < treasuryShareBps.val) (a : Address) :
    ¬ EarningsNonneg (machine.run w (largestBatch a)).storage := by
  have range := withinRange_initializeContract h
  obtain ⟨accepted, -, rfl⟩ := returns_initializeContract_freshState.mp h
  have rate := rate_bounds accepted
  obtain ⟨w', hcall⟩ : ∃ w', Returns (distribute (openEnv a 0 0) a 0 4294967295)
      (initialState council feeRateBps treasuryShareBps treasury token x) () w' := by
    refine distribute_returns rfl rate.2 range rfl (by decide) fun share _ => ?_
    unfold PaysTreasury
    split
    · exact ⟨x, treasury, rfl, token, rfl, x, rfl, rfl⟩
    · exact ⟨_, rfl⟩
  obtain ⟨config, e, entered⟩ := distribute_enters hcall
  obtain rfl : _ = config := Option.some.inj entered.configured
  have run : machine.run (initialState council feeRateBps treasuryShareBps treasury token x)
      (largestBatch a) = w' := by
    have returned : Returns (dispatch (openEnv a 0 0) (.distribute a 0 4294967295)) _ .unit w' :=
      returns_bind_pure.mpr ⟨(), hcall, rfl⟩
    show (machine.step _ _).2 = w'
    rw [machine, Deployed.step_of_returns dispatch provide returned]
  rw [run]
  intro nonneg
  have stored : w'.storage.feeEntry.get 0 = some e := entered.stored
  have le := (nonneg.entry 0 e stored).2
  rw [entered.treasuryShare, entered.amount] at le
  exact absurd (lt_shareOf (le_feeOf_max rate.1) share) (not_lt.mpr le)

/-- **Earnings are never negative exactly when the treasury's share is at most the
whole fee.**  For every accepted configuration: in every run every fee entry has a
share between zero and its fee, no total of a relay is negative or ever becomes less,
and no claim pays a negative amount, if and only if `treasury_share_bps` is at most
10000. -/
theorem neverNegative_iff
    (h : Returns (initializeContract council feeRateBps treasuryShareBps treasury token)
      (freshState x) u w) :
    (∀ as : List (Action Address X (Call Address) Empty), NeverNegative w as) ↔
      treasuryShareBps.val ≤ 10000 := by
  constructor
  · intro never
    by_contra share
    exact not_neverNegative_of_lt_share h (not_le.mp share) treasury (never _).earnings
  · exact neverNegative_of_share_le h

end Runs

end StellarConduit.FeeDistributor
