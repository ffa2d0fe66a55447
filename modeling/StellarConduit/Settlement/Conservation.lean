import StellarConduit.Settlement.System
import StellarConduit.Treasury.History

/-!
# Where the distributor's tokens go

By its own books the distributor has spent the treasury's shares of its fee
entries and what the relays have claimed.  Its token balance says otherwise:
`distribute` transfers the treasury's share and then calls `deposit`, which takes
the same amount from the distributor once more.

`accounted` is the distributor's tokens together with what its books say has been spent.  In a
step it moves by what flows in, `funded`, less what is paid and not entered, `overcharged`; and
the latter is the share of an accepted distribution, if it is positive.  So the books and the
balance agree at every moment of a run if and only if no such distribution goes through.

Whether a distribution goes through is, in the end, the token's decision: it is asked to move the
share twice, and may refuse the second time.  `PaysShare` lists the conditions under which it all
goes through, and the sample run meets them.

## Main definitions

* `accounted` — the distributor's tokens and what it has spent, by its books.
* `funded`, `overcharged` — what a step brings to it, and takes from it beside the books.
* `Conserved` — balance and books have moved alike.
* `PaysShare`, `DoubleCharge` — a distribution whose share is paid twice.

## Main results

* `accounted_run` — along every run, the balance and the books move by what flows
  in, less one share for each distribution.
* `conserved_iff` — the balance agrees with the books at every moment of a run
  exactly when no distribution with a positive treasury share goes through.
-/

namespace StellarConduit.Settlement

open Soroban Contract

section Account

variable {Address : Type} {chain : Chain Address}

/-- The treasury's shares of all fee entries. -/
def treasuryShares (s : State Address) : Int :=
  s.storage.feeEntry.sum fun _ e => e.treasuryShare.val

/-- What all relays have claimed. -/
def claimedTotal (s : State Address) : Int :=
  s.storage.earnings.sum fun _ record => record.totalClaimed.val

/-- The distributor's balance and all it has spent by its books. -/
def accounted (chain : Chain Address) (s : State Address) : Int :=
  tokenBalance s chain.distributor + treasuryShares s + claimedTotal s

variable {s s' : State Address} {tx : Tx chain}

/-- One who authorised the root of a transaction is not the distributor. -/
theorem ne_distributor_of_authorised {a : Address} (h : tx.authorised none a = true) :
    chain.distributor ≠ a := by
  rintro rfl
  rw [tx.unsigned] at h
  cases h

variable [DecidableEq Address]

/-- What others have moved into the distributor's account: by a transfer, or by a
withdrawal from the treasury. -/
def funded (r : Step chain) : Int :=
  match r.action, r.reply with
  | .transfer _ _ recipient amount, .transfer true =>
      if recipient = chain.distributor then amount.val else 0
  | .treasury _ (.withdraw toAddress amount _), .treasury (some (.ok _)) =>
      if toAddress = chain.distributor then amount.val else 0
  | _, _ => 0

/-- The treasury's share that a distribution has entered. -/
def overcharged (r : Step chain) : Int :=
  match r.action, r.reply with
  | .distributor _ (.distribute _ batchId _), .distributor (some (.ok _)) =>
      (r.after.storage.feeEntry.get batchId).elim 0 fun e => e.treasuryShare.val
  | _, _ => 0

/-! ## One step -/

/-- Writing the earnings of one relay replaces its claimed total. -/
theorem sum_totalClaimed_set (earnings : Store Address FeeDistributor.EarningsRecord) (a : Address)
    (record : FeeDistributor.EarningsRecord) :
    (earnings.set a record).sum (fun _ r => r.totalClaimed.val) =
      earnings.sum (fun _ r => r.totalClaimed.val) + record.totalClaimed.val
        - ((earnings.get a).getD FeeDistributor.EarningsRecord.zero).totalClaimed.val := by
  have hsum := Store.sum_set earnings (fun _ r => r.totalClaimed.val) a record
  have hterm : earnings.term (fun _ r => r.totalClaimed.val) a =
      ((earnings.get a).getD FeeDistributor.EarningsRecord.zero).totalClaimed.val := by
    unfold Store.term
    cases earnings.get a <;> simp [FeeDistributor.EarningsRecord.zero]
  omega

/-- A call of the distributor that returns takes out what it enters, and a
distribution takes its treasury share once more. -/
theorem accounted_distributor (wired : Wired chain s) {c : FeeDistributor.Call Address}
    {v : FeeDistributor.Value} (h : Returns (FeeDistributor.dispatch tx.distributorEnv c) s v s') :
    accounted chain s' = accounted chain s -
      overcharged ⟨s, .distributor tx c, .distributor (some (.ok v)), s'⟩ := by
  cases FeeDistributor.outcome_of_returns wired.feeConfig h with
  | distribute hcall =>
      obtain ⟨hnone, -, config, -, fee, hfee, share, hshare, payout, -, totalEarned, -, unclaimed,
        -, t, hpays, rfl⟩ := FeeDistributor.returns_distribute.mp hcall
      have nonneg : 0 ≤ share.val := by
        rw [hshare, hfee]
        exact FeeDistributor.shareOf_nonneg _ _ _
      -- The books enter the share once; the balance falls by it twice.
      have hbalance := (paysTreasury_effect wired nonneg hpays).1
      simp only [accounted, tokenBalance, treasuryShares, claimedTotal, overcharged, hbalance,
        Store.sum_set_of_none _ _ hnone, sum_totalClaimed_set, Store.get_set_self, Option.elim_some]
      omega
  | claim hcall =>
      obtain ⟨hauth, -, hpayout, totalClaimed, hclaimed, token, htoken, t, htransfer, rfl⟩ :=
        FeeDistributor.returns_claim.mp hcall
      obtain rfl : chain.token = token := Option.some.inj (wired.tokenAddress.symm.trans htoken)
      obtain ⟨-, rfl⟩ := Tx.distributorEnv_transfer.mp htransfer
      -- The claiming relay signed, so the payout leaves the distributor.
      have other := ne_distributor_of_authorised hauth
      simp only [accounted, tokenBalance, treasuryShares, claimedTotal, overcharged,
        withBalances_outside, Balances.move_sender other, sum_totalClaimed_set, hclaimed]
      omega
  | other quiet kept =>
      have none : overcharged ⟨s, .distributor tx c, .distributor (some (.ok v)), s'⟩ = 0 := by
        cases c <;> first | rfl | exact absurd trivial quiet
      simp only [accounted, tokenBalance, treasuryShares, claimedTotal, kept.earnings,
        kept.feeEntry, kept.outside, none, sub_zero]

/-- A call of the treasury that returns moves the distributor's balance by what it
pays to it. -/
theorem accounted_treasury (wired : Wired chain s) {c : Treasury.Call Address}
    {v : Treasury.Value Address} {t : Treasury.State Address (Balances Address)}
    (h : Returns (Treasury.dispatch (tx.treasuryEnv none) c) s.outside v t) :
    accounted chain { s with outside := t } = accounted chain s +
      funded ⟨s, .treasury tx c, .treasury (some (.ok v)), { s with outside := t }⟩ := by
  suffices hbalance : t.outside chain.distributor = tokenBalance s chain.distributor +
      funded ⟨s, .treasury tx c, .treasury (some (.ok v)), { s with outside := t }⟩ by
    simp only [accounted, tokenBalance, treasuryShares, claimedTotal] at hbalance ⊢
    omega
  cases Treasury.outcome_of_returns wired.adminCouncil h with
  | deposit hcall =>
      obtain ⟨hauth, houtside, -⟩ := deposit_moves hcall wired.treasuryToken
      rw [houtside, Balances.move_of_ne (ne_distributor_of_authorised hauth)
        chain.treasury_ne_distributor.symm]
      exact (add_zero _).symm
  | withdraw hcall =>
      obtain ⟨houtside, -⟩ := withdraw_moves hcall wired.treasuryToken
      rw [houtside, Balances.move_of_ne_sender chain.treasury_ne_distributor.symm]
      rfl
  | allocate hcall =>
      -- An allocation moves no tokens.
      obtain ⟨-, -, _, -, -, _, -, -, -, _, -, _, -, _, -, rfl⟩ := Treasury.returns_allocate.mp hcall
      exact (add_zero _).symm
  | other quiet kept =>
      have none : funded ⟨s, .treasury tx c, .treasury (some (.ok v)), { s with outside := t }⟩ =
          0 := by
        cases c <;> first | rfl | exact absurd trivial quiet
      rw [none, kept.outside, tokenBalance, add_zero]

/-- A step of a wired system, by the contract that it calls. -/
theorem accounted_step (s : State Address) (action : Action chain) (wired : Wired chain s) :
    accounted chain ((machine chain).step s action).2 = accounted chain s +
      (funded ((machine chain).record s action) -
        overcharged ((machine chain).record s action)) := by
  rw [← Machine.record_after]
  cases action with
  | distributor tx c =>
      rcases record_distributor tx c s with ⟨v, s', h, hrecord⟩ | ⟨e, hrecord⟩
      · rw [hrecord]
        have hcall := accounted_distributor wired h
        simp only [funded]
        omega
      · simp [hrecord, funded, overcharged]
  | treasury tx c =>
      rcases record_treasury tx c s with ⟨v, t, h, hrecord⟩ | ⟨e, hrecord⟩
      · rw [hrecord]
        have hcall := accounted_treasury wired h
        simp only [overcharged]
        omega
      · simp [hrecord, funded, overcharged]
  | transfer tx sender recipient amount =>
      rcases record_transfer tx sender recipient amount s with ⟨hauth, hrecord⟩ | hrecord
      · rw [hrecord]
        have hmove : s.outside.outside.move sender recipient amount.val chain.distributor =
            s.outside.outside chain.distributor +
              if recipient = chain.distributor then amount.val else 0 :=
          Balances.move_of_ne_sender (ne_distributor_of_authorised hauth)
        simp only [accounted, tokenBalance, treasuryShares, claimedTotal, funded, overcharged,
          withBalances_outside, hmove]
        omega
      · simp [hrecord, funded, overcharged]

/-- Along every run, balance and books move by what flows in, less one share for
each distribution. -/
theorem accounted_run (wired : Wired chain s) (as : List (Action chain)) :
    accounted chain ((machine chain).run s as) = accounted chain s +
      Machine.total funded ((machine chain).trace s as) -
        Machine.total overcharged ((machine chain).trace s as) := by
  rw [(machine chain).potential_run (Wired chain) (accounted chain)
    (fun r => funded r - overcharged r) wired_step accounted_step wired as, Machine.total_sub]
  omega

/-- The distributor's account after the actions `as`: what it held at the start
and what flowed in, less the treasury's shares and the claims. -/
def Conserved (chain : Chain Address) (s : State Address) (as : List (Action chain)) : Prop :=
  tokenBalance ((machine chain).run s as) chain.distributor =
    tokenBalance s chain.distributor + Machine.total funded ((machine chain).trace s as)
      - treasuryShares ((machine chain).run s as) - claimedTotal ((machine chain).run s as)

instance (chain : Chain Address) (s : State Address) (as : List (Action chain)) :
    Decidable (Conserved chain s as) :=
  inferInstanceAs (Decidable (_ = _))

/-! ## When a share is taken twice -/

/-- The state and the arguments at which `distribute` goes through with a positive
treasury share: the batch is new and not empty, the relay's totals stay in range,
the token accepts the transfer, and the treasury the deposit after it. -/
structure PaysShare (tx : Tx chain) (s : State Address) (a : Address) (batchId : U64)
    (batchSize : U32) (config : FeeDistributor.FeeConfig Address) (share : I128) : Prop where
  /-- The batch has not been distributed, -/
  fresh : s.storage.feeEntry.get batchId = none
  /-- is not empty, -/
  nonempty : batchSize ≠ 0
  /-- and the distributor has a configuration, -/
  configured : s.storage.feeConfig = some config
  /-- by which this is the treasury's share, -/
  share_eq : share.val = FeeDistributor.shareOf
    (FeeDistributor.feeOf batchSize config.feeRateBps) config.treasuryShareBps
  /-- which is positive. -/
  positive : 0 < share.val
  /-- The relay's totals have room for the payout, -/
  totalEarned : IntType.Contains ⟨true, 128⟩
    ((FeeDistributor.earningsOf s.storage a).totalEarned.val +
      (FeeDistributor.feeOf batchSize config.feeRateBps - share.val))
  /-- both of them. -/
  unclaimed : IntType.Contains ⟨true, 128⟩
    ((FeeDistributor.earningsOf s.storage a).unclaimed.val +
      (FeeDistributor.feeOf batchSize config.feeRateBps - share.val))
  /-- The token moves the share, -/
  accepts : tx.accepts s.outside.outside chain.distributor chain.treasury share = true
  /-- and the treasury takes it as a deposit. -/
  deposit : DepositAccepted tx (withBalances s.outside
    (s.outside.outside.move chain.distributor chain.treasury share.val)) share

/-- The action is a distribution that goes through with a positive treasury share. -/
def DoubleCharge (s : State Address) : Action chain → Prop
  | .distributor tx (.distribute a batchId batchSize) =>
      ∃ config share, PaysShare tx s a batchId batchSize config share
  | _ => False

section Distribute

variable {a : Address} {batchId : U64} {batchSize : U32}
  {config : FeeDistributor.FeeConfig Address} {share : I128}

/-- Such a distribution returns. -/
theorem PaysShare.returns (wired : Wired chain s)
    (pays : PaysShare tx s a batchId batchSize config share) :
    ∃ s', Returns (FeeDistributor.distribute tx.distributorEnv a batchId batchSize) s () s' := by
  have bounds := FeeDistributor.feeOf_bounds batchSize config.feeRateBps
  have upper := share.le_max
  have positive := pays.positive
  have lowest : IntType.min ⟨true, 128⟩ = - IntType.max ⟨true, 128⟩ - 1 := by decide
  have large : (4294967295 * 4294967295 : Int) ≤ IntType.max ⟨true, 128⟩ := by decide
  obtain ⟨fee, hfee⟩ : ∃ c : I128, c.val = FeeDistributor.feeOf batchSize config.feeRateBps :=
    MachineInt.contains_iff.mp ⟨by omega, by omega⟩
  obtain ⟨payout, hpayout⟩ : ∃ c : I128, c.val = fee.val - share.val :=
    MachineInt.contains_iff.mp ⟨by omega, by omega⟩
  obtain ⟨totalEarned, htotal⟩ := MachineInt.contains_iff.mp pays.totalEarned
  obtain ⟨unclaimed, hunclaimed⟩ := MachineInt.contains_iff.mp pays.unclaimed
  obtain ⟨t, hdeposit⟩ := (deposit_returns_iff wired _).mpr pays.deposit
  rw [← hfee, ← hpayout] at htotal hunclaimed
  exact ⟨_, FeeDistributor.returns_distribute.mpr ⟨pays.fresh, pays.nonempty, config,
    pays.configured, fee, hfee, share, hfee ▸ pays.share_eq, payout, hpayout, totalEarned, htotal,
    unclaimed, hunclaimed, t, (paysTreasury_iff wired pays.positive).mpr ⟨pays.accepts, hdeposit⟩,
    rfl⟩⟩

/-- A distribution that returned has entered a positive share exactly when it was
such a distribution. -/
theorem entered_share_iff (wired : Wired chain s)
    (h : Returns (FeeDistributor.distribute tx.distributorEnv a batchId batchSize) s () s') :
    (s'.storage.feeEntry.get batchId).elim 0 (fun e => e.treasuryShare.val) ≠ 0 ↔
      ∃ config share, PaysShare tx s a batchId batchSize config share := by
  obtain ⟨hnone, hsize, config, hconfig, fee, hfee, share, hshare, payout, hpayout, totalEarned,
    htotal, unclaimed, hunclaimed, t, hpays, rfl⟩ := FeeDistributor.returns_distribute.mp h
  rw [hfee] at hshare
  have nonneg : 0 ≤ share.val := hshare ▸ FeeDistributor.shareOf_nonneg _ _ _
  simp only [Store.get_set_self, Option.elim_some]
  constructor
  · intro hne
    have positive : 0 < share.val := by omega
    obtain ⟨haccepts, hdeposit⟩ := (paysTreasury_iff wired positive).mp hpays
    rw [hpayout, hfee] at htotal hunclaimed
    exact ⟨config, share,
      { fresh := hnone
        nonempty := hsize
        configured := hconfig
        share_eq := hshare
        positive := positive
        totalEarned := MachineInt.contains_iff.mpr ⟨totalEarned, htotal⟩
        unclaimed := MachineInt.contains_iff.mpr ⟨unclaimed, hunclaimed⟩
        accepts := haccepts
        deposit := (deposit_returns_iff wired _).mp ⟨t, hdeposit⟩ }⟩
  · rintro ⟨config', share', pays⟩
    obtain rfl : config = config' := Option.some.inj (hconfig.symm.trans pays.configured)
    have positive := pays.positive
    rw [hshare, ← pays.share_eq]
    omega

end Distribute

/-- A step overcharges exactly when it is such a distribution. -/
theorem overcharged_eq_zero_iff (s : State Address) (action : Action chain)
    (wired : Wired chain s) :
    overcharged ((machine chain).record s action) = 0 ↔ ¬ DoubleCharge s action := by
  cases action with
  | distributor tx c =>
      cases c with
      | distribute a batchId batchSize =>
          rcases record_distributor tx (.distribute a batchId batchSize) s with
            ⟨v, s', h, hrecord⟩ | ⟨e, hrecord⟩
          · obtain ⟨_, hcall, -⟩ := returns_bind_pure.mp h
            rw [hrecord, DoubleCharge, ← entered_share_iff wired hcall, not_not]
            rfl
          · have rejected :
                ¬ DoubleCharge s (.distributor tx (.distribute a batchId batchSize)) := by
              rintro ⟨config, share, pays⟩
              obtain ⟨s', hcall⟩ := pays.returns wired
              have hreturns := Deployed.step_of_returns FeeDistributor.dispatch
                FeeDistributor.provide (c := .distribute a batchId batchSize)
                (returns_bind_pure.mpr ⟨(), hcall, rfl⟩)
              have hreply := congrArg Record.reply hrecord
              simp [machine, FeeDistributor.machine, Machine.record, hreturns] at hreply
            simp [hrecord, overcharged, rejected]
      | _ => simp [overcharged, DoubleCharge, Machine.record]
  | treasury tx c => simp [overcharged, DoubleCharge, Machine.record]
  | transfer tx sender recipient amount => simp [overcharged, DoubleCharge, Machine.record]

end Account

section Runs

variable {Address : Type} {chain : Chain Address}
  {council : AdminCouncil Address} {feeRateBps treasuryShareBps : U32}
  {t : Treasury.State Address (Balances Address)} {s : State Address} {u : Unit}

/-- A distributor that knows this treasury and token starts wired, when the
treasury has been initialized with the same token. -/
theorem wired_initializeContract
    (h : Returns (FeeDistributor.initializeContract council feeRateBps treasuryShareBps
      chain.treasury chain.token) (FeeDistributor.freshState t) u s)
    (hcouncil : t.storage.adminCouncil.isSome)
    (htoken : t.storage.tokenAddress = some chain.token) : Wired chain s := by
  obtain ⟨-, -, rfl⟩ := FeeDistributor.returns_initializeContract_freshState.mp h
  exact
    { feeConfig := rfl
      treasuryAddress := rfl
      tokenAddress := rfl
      adminCouncil := hcouncil
      treasuryToken := htoken }

/-- At the start the books are empty. -/
theorem accounted_initializeContract
    (h : Returns (FeeDistributor.initializeContract council feeRateBps treasuryShareBps
      chain.treasury chain.token) (FeeDistributor.freshState t) u s) :
    accounted chain s = tokenBalance s chain.distributor := by
  obtain ⟨-, -, rfl⟩ := FeeDistributor.returns_initializeContract_freshState.mp h
  simp [accounted, treasuryShares, claimedTotal, FeeDistributor.initialState,
    FeeDistributor.Storage.fresh]

variable [DecidableEq Address]

/-- **The distributor's tokens are accounted for at every moment of a run exactly
when no distribution with a positive treasury share goes through.** -/
theorem conserved_iff
    (h : Returns (FeeDistributor.initializeContract council feeRateBps treasuryShareBps
      chain.treasury chain.token) (FeeDistributor.freshState t) u s)
    (hcouncil : t.storage.adminCouncil.isSome)
    (htoken : t.storage.tokenAddress = some chain.token) (as : List (Action chain)) :
    (∀ pre, pre <+: as → Conserved chain s pre) ↔
      ∀ r ∈ (machine chain).trace s as, ¬ DoubleCharge r.before r.action := by
  have wired := wired_initializeContract h hcouncil htoken
  have conserved (pre : List (Action chain)) :
      Conserved chain s pre ↔ Machine.total overcharged ((machine chain).trace s pre) = 0 := by
    have run := accounted_run wired pre
    rw [accounted_initializeContract h, accounted] at run
    unfold Conserved
    omega
  calc (∀ pre, pre <+: as → Conserved chain s pre)
      ↔ ∀ pre, pre <+: as → Machine.total overcharged ((machine chain).trace s pre) = 0 := by
        simp only [conserved]
    _ ↔ ∀ r ∈ (machine chain).trace s as, overcharged r = 0 :=
        (machine chain).sum_prefixes_eq_zero_iff overcharged s as
    _ ↔ ∀ r ∈ (machine chain).trace s as, ¬ DoubleCharge r.before r.action := by
        refine forall₂_congr fun r hr => ?_
        have before := (machine chain).trace_invariant (Wired chain) wired_step wired hr
        obtain ⟨pre, action, post, -, rfl⟩ := (machine chain).mem_trace.mp hr
        exact overcharged_eq_zero_iff ((machine chain).run s pre) action before

end Runs

/-! ## One batch of ten thousand -/

/-- Distributor, treasury and token at the addresses 1, 2 and 3. -/
def sampleChain : Chain ℕ where
  distributor := 1
  treasury := 2
  token := 3
  treasury_ne_distributor := by decide
  token_ne_treasury := by decide

/-- A transaction signed by all but the distributor, in which every nested call is
authorised and the token moves what its sender has. -/
def sampleTx : Tx sampleChain where
  sequence := 0
  timestamp := 5
  authorised := fun caller a => caller.isSome || decide (a ≠ 1)
  accepts := fun b sender _ amount => decide (0 ≤ amount.val ∧ amount.val ≤ b sender)
  invoker := fun _ => rfl
  unsigned := rfl

/-- The treasury of a one-member council, on a token of which the distributor holds
a million. -/
def sampleTreasury : Treasury.State ℕ (Balances ℕ) :=
  Treasury.initialState ⟨[7], 1⟩ 3 fun a => if a = 1 then 1000000 else 0

/-- A fee of half a percent, of which a tenth goes to the treasury. -/
def sampleSystem : State ℕ :=
  FeeDistributor.initialState ⟨[7], 1⟩ 50 1000 2 3 sampleTreasury

/-- The sample distributor is one that has been initialized. -/
theorem sampleSystem_initialized :
    Returns (FeeDistributor.initializeContract ⟨[7], 1⟩ 50 1000 sampleChain.treasury
      sampleChain.token) (FeeDistributor.freshState sampleTreasury) () sampleSystem :=
  FeeDistributor.returns_initializeContract_freshState.mpr ⟨by decide, by decide, rfl⟩

/-- Relay 10 is credited a batch of ten thousand: a fee of 50, of which 5 go to the
treasury. -/
def oneDistribution : List (Action sampleChain) :=
  [.distributor sampleTx (.distribute 10 1 10000)]

/-- The treasury's share is 5, and the distributor has 10 less. -/
theorem oneDistribution_not_conserved :
    Returns (FeeDistributor.initializeContract ⟨[7], 1⟩ 50 1000 sampleChain.treasury
        sampleChain.token) (FeeDistributor.freshState sampleTreasury) () sampleSystem ∧
      treasuryShares ((machine sampleChain).run sampleSystem oneDistribution) = 5 ∧
      tokenBalance ((machine sampleChain).run sampleSystem oneDistribution) 1 = 999990 ∧
      ¬ Conserved sampleChain sampleSystem oneDistribution :=
  ⟨sampleSystem_initialized, by decide +kernel⟩

/-- One batch is enough for a difference. -/
theorem conserved_iff_oneDistribution :
    (∀ pre, pre <+: oneDistribution → Conserved sampleChain sampleSystem pre) ↔
      ∀ r ∈ (machine sampleChain).trace sampleSystem oneDistribution,
        ¬ DoubleCharge r.before r.action :=
  conserved_iff sampleSystem_initialized rfl rfl oneDistribution

end StellarConduit.Settlement
