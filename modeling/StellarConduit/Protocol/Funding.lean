import StellarConduit.FeeDistributor.Nonneg
import StellarConduit.Protocol.Consent

/-!
# What the distributor has to hold

Nothing in the source funds the distributor: its tokens come from whoever transfers them, and
`distribute` checks no balance before it credits a relay.  For each batch it owes the fee, and
pays the treasury's share of it twice.  Its account is therefore a matter of two sums, what has
come in and what the batches cost, and whether the relays can be paid is a comparison of them.

The equation behind it is an account with four entries.  What has come in is what the
distributor holds, what the relays have claimed, and what the treasury was given; what the
batches cost is the fees and, once more, the treasury's shares.  Fees are split between relays
and treasury, so the difference of the two sums is what is held, less what may still be claimed.
The first sum is followed step by step with `received`, which counts a transfer to the
distributor, and a withdrawal of the treasury in its favour; the second is read off the fee
entries of the state.

That a claim is then paid is the assumption on the token and nothing else: the claim is within
the unclaimed total, this is within what is held, and the token moves what its sender has.

## Main definitions

* `Settlement.unclaimedTotal`, `Settlement.batchCosts` — what the relays may still claim, and
  what the batches so far cost the distributor.
* `received` — what a step of the system brings to the distributor.

## Main results

* `audited_run`, `inflow_run` — where the fees are, and what has come in, along every run.
* `claims_funded` — the account of the distributor, and the claims that it can pay.
-/

namespace StellarConduit.Settlement

open Soroban Contract

section Books

variable {Address : Type} {chain : Chain Address}

/-- The fees of all batches. -/
def feeTotal (s : State Address) : Int := s.storage.feeEntry.sum fun _ e => e.amount.val

/-- What all relays may still claim. -/
def unclaimedTotal (s : State Address) : Int := s.storage.earnings.sum fun _ r => r.unclaimed.val

/-- What the batches have cost: their fees, and the treasury's shares once more. -/
def batchCosts (s : State Address) : Int := feeTotal s + treasuryShares s

/-- Every fee is a share of the treasury's, or it is claimed, or may still be. -/
def FeesSplit (s : State Address) : Prop :=
  feeTotal s = treasuryShares s + claimedTotal s + unclaimedTotal s

/-- The distributor's balance, and all that has left it. -/
def inflow (chain : Chain Address) (s : State Address) : Int :=
  accounted chain s + treasuryShares s

variable {s s' : State Address} {tx : Tx chain} [DecidableEq Address]

omit [DecidableEq Address] in
/-- A relay without a record adds nothing to the total. -/
theorem term_unclaimed (earnings : Store Address FeeDistributor.EarningsRecord) (a : Address) :
    earnings.term (fun _ r => r.unclaimed.val) a =
      ((earnings.get a).getD FeeDistributor.EarningsRecord.zero).unclaimed.val := by
  unfold Store.term
  cases earnings.get a <;> simp [FeeDistributor.EarningsRecord.zero]

/-- Writing the earnings of one relay replaces what it may claim. -/
theorem sum_unclaimed_set (earnings : Store Address FeeDistributor.EarningsRecord) (a : Address)
    (record : FeeDistributor.EarningsRecord) :
    (earnings.set a record).sum (fun _ r => r.unclaimed.val) =
      earnings.sum (fun _ r => r.unclaimed.val) + record.unclaimed.val
        - ((earnings.get a).getD FeeDistributor.EarningsRecord.zero).unclaimed.val := by
  have hsum := Store.sum_set earnings (fun _ r => r.unclaimed.val) a record
  rw [term_unclaimed] at hsum
  omega

omit [DecidableEq Address] in
/-- When nothing in the books is negative, no relay may claim more than all of them. -/
theorem unclaimed_le_total (nonneg : FeeDistributor.EarningsNonneg s.storage) (a : Address) :
    (FeeDistributor.earningsOf s.storage a).unclaimed.val ≤ unclaimedTotal s := by
  have term (b : Address) : s.storage.earnings.term (fun _ r => r.unclaimed.val) b =
      (FeeDistributor.earningsOf s.storage b).unclaimed.val := term_unclaimed _ b
  rw [← term]
  exact Store.term_le_sum (fun b => term b ▸ nonneg.unclaimed b) a

/-- A relay is paid what it may claim, when the token goes along. -/
theorem claim_returns {a : Address} (wired : Wired chain s)
    (books : FeeDistributor.Reconciled s.storage) (signed : tx.authorised none a = true)
    (due : (FeeDistributor.earningsOf s.storage a).unclaimed ≠ 0)
    (accepted : tx.accepts s.outside.outside chain.distributor a
      (FeeDistributor.earningsOf s.storage a).unclaimed = true) :
    ∃ s', Returns (FeeDistributor.claim tx.distributorEnv a) s
      (FeeDistributor.earningsOf s.storage a).unclaimed s' :=
  -- The new total is what the relay has earned, so it fits.
  ⟨_, FeeDistributor.returns_claim.mpr ⟨signed, due, rfl,
    (FeeDistributor.earningsOf s.storage a).totalEarned, books.split a, chain.token,
    wired.tokenAddress, _, Tx.distributorEnv_transfer.mpr ⟨accepted, rfl⟩, rfl⟩⟩

/-- What a call of the distributor enters: a fee with its shares, or a claim. -/
theorem books_distributor (wired : Wired chain s) {c : FeeDistributor.Call Address}
    {v : FeeDistributor.Value} (h : Returns (FeeDistributor.dispatch tx.distributorEnv c) s v s') :
    (FeesSplit s → FeesSplit s') ∧
      treasuryShares s' = treasuryShares s +
        overcharged ⟨s, .distributor tx c, .distributor (some (.ok v)), s'⟩ := by
  cases FeeDistributor.outcome_of_returns wired.feeConfig h with
  | distribute hcall =>
      obtain ⟨hnone, -, config, -, fee, -, share, -, payout, hpayout, totalEarned, -, unclaimed,
        hunclaimed, t, -, rfl⟩ := FeeDistributor.returns_distribute.mp hcall
      refine ⟨fun split => ?_, ?_⟩
      · simp only [FeesSplit, feeTotal, treasuryShares, claimedTotal, unclaimedTotal,
          Store.sum_set_of_none _ _ hnone, sum_totalClaimed_set, sum_unclaimed_set] at split ⊢
        omega
      · simp only [treasuryShares, overcharged, Store.sum_set_of_none _ _ hnone,
          Store.get_set_self, Option.elim_some]
  | claim hcall =>
      obtain ⟨-, -, hpayout, totalClaimed, hclaimed, token, -, t, -, rfl⟩ :=
        FeeDistributor.returns_claim.mp hcall
      refine ⟨fun split => ?_, (add_zero _).symm⟩
      have zero : (0 : I128).val = 0 := MachineInt.val_zero
      simp only [FeesSplit, feeTotal, treasuryShares, claimedTotal, unclaimedTotal,
        sum_totalClaimed_set, sum_unclaimed_set, hclaimed, hpayout, zero] at split ⊢
      omega
  | other quiet kept =>
      -- Calls that write neither entries nor earnings pay no share either.
      have none : overcharged ⟨s, .distributor tx c, .distributor (some (.ok v)), s'⟩ = 0 := by
        cases c <;> first | rfl | exact absurd trivial quiet
      simp only [FeesSplit, feeTotal, treasuryShares, claimedTotal, unclaimedTotal, kept.earnings,
        kept.feeEntry, none, add_zero, imp_self, and_self]

/-- A step keeps the split of the fees, and overcharges the distributor by its share. -/
theorem books_step (s : State Address) (action : Action chain) (wired : Wired chain s) :
    (FeesSplit s → FeesSplit ((machine chain).step s action).2) ∧
      treasuryShares ((machine chain).step s action).2 =
        treasuryShares s + overcharged ((machine chain).record s action) := by
  rw [← Machine.record_after]
  cases action with
  | distributor tx c =>
      rcases record_distributor tx c s with ⟨v, s', h, hrecord⟩ | ⟨e, hrecord⟩
      · rw [hrecord]
        exact books_distributor wired h
      · simp [hrecord, overcharged]
  | treasury tx c => exact ⟨id, (add_zero _).symm⟩
  | transfer tx sender recipient amount =>
      rcases record_transfer tx sender recipient amount s with ⟨-, hrecord⟩ | hrecord
      · rw [hrecord]
        exact ⟨id, (add_zero _).symm⟩
      · rw [hrecord]
        exact ⟨id, (add_zero _).symm⟩

/-- What comes in is what is moved in. -/
theorem inflow_step (s : State Address) (action : Action chain) (wired : Wired chain s) :
    inflow chain ((machine chain).step s action).2 =
      inflow chain s + funded ((machine chain).record s action) := by
  have balance := accounted_step s action wired
  have entered := (books_step s action wired).2
  unfold inflow
  omega

omit [DecidableEq Address] in
/-- What has come in went to the batches, but for what is there and nobody may claim. -/
theorem inflow_eq (split : FeesSplit s) :
    inflow chain s + unclaimedTotal s = tokenBalance s chain.distributor + batchCosts s := by
  unfold FeesSplit at split
  unfold inflow accounted batchCosts
  omega

end Books
end StellarConduit.Settlement

/-! ## The system

Tokens reach the distributor by a transfer or by a withdrawal of the treasury in its favour; no
other call of another contract concerns its account.
-/

namespace StellarConduit.Protocol

open Soroban Contract Machine

variable {Address : Type} [DecidableEq Address] {chain : Chain Address}
  {settings : Settings Address} {s : State Address}

/-- What a step of the system brings to the distributor: a transfer, or a withdrawal from the
treasury. -/
def received (r : Step chain) : Int :=
  match r.action, r.reply with
  | .transfer _ _ recipient amount, .settlement (.transfer true) =>
      if recipient = chain.distributor then amount.val else 0
  | .treasury _ (.withdraw toAddress amount _), .settlement (.treasury (some (.ok _))) =>
      if toAddress = chain.distributor then amount.val else 0
  | _, _ => 0

/-- The registry moves tokens between itself and signers. -/
theorem registry_bypasses {tx : Tx chain} {a : Address} {c : RelayRegistry.Call Address}
    {v : RelayRegistry.Value Address} {w w' : RelayRegistry.State Address (Balances Address)}
    (unsigned : tx.authorised none a = false) (other : a ≠ chain.registry)
    (h : Returns (RelayRegistry.dispatch tx.registryEnv c) w v w') :
    w'.outside a = w.outside a := by
  -- Both transfers of the registry are between itself and a signer.
  have bystander {b : Address} (signed : tx.authorised none b = true) : a ≠ b := by
    rintro rfl
    rw [unsigned] at signed
    cases signed
  cases RelayRegistry.ran_of_returns h with
  | stake hcall =>
      obtain ⟨signed, node, -, -, -, newStake, -, token, -, b, htransfer, rfl⟩ :=
        RelayRegistry.returns_stake.mp hcall
      obtain ⟨-, -, -, rfl⟩ := tokenCall_transfer_of.mp htransfer
      exact Balances.move_of_ne (bystander signed) other
  | finalizeUnstake hcall =>
      obtain ⟨signed, entry, -, -, token, -, b, htransfer, -, rfl⟩ :=
        RelayRegistry.returns_finalizeUnstake.mp hcall
      obtain ⟨-, -, -, rfl⟩ := tokenCall_transfer_of.mp htransfer
      exact Balances.move_of_ne other (bystander signed)
  | initializeContract hcall =>
      obtain ⟨-, -, -, -, rfl⟩ := RelayRegistry.returns_initializeContract.mp hcall
      rfl
  | register hcall =>
      obtain ⟨-, -, -, count, -, rfl⟩ := RelayRegistry.returns_register.mp hcall
      rfl
  | updateMetadata hcall =>
      obtain ⟨-, node, -, -, rfl⟩ := RelayRegistry.returns_updateMetadata.mp hcall
      rfl
  | unstake hcall =>
      obtain ⟨-, -, node, -, -, unlockAfter, -, -, newStake, -, rfl, -⟩ :=
        RelayRegistry.returns_unstake.mp hcall
      rfl
  | slash hcall =>
      obtain ⟨-, node, -, -, slashedAmount, -, rfl⟩ := RelayRegistry.returns_slash.mp hcall
      rfl
  | reinstateNode hcall =>
      obtain ⟨-, node, -, -, rfl⟩ := RelayRegistry.returns_reinstateNode.mp hcall
      rfl
  | getNode => rfl
  | isActive => rfl

/-- Wired, and every fee is where it should be. -/
structure Audited (chain : Chain Address) (s : State Address) : Prop where
  /-- The distributor pays this treasury with this token. -/
  wired : Settlement.Wired chain.toChain s.settlement
  /-- Every fee is the relay's and the treasury's. -/
  split : Settlement.FeesSplit s.settlement

/-- Only the steps of distributor, treasury and token concern these books. -/
theorem audited_step (ed25519 : DisputeResolver.Ed25519) (s : State Address)
    (action : Action chain) (inv : Audited chain s) :
    Audited chain ((machine ed25519 chain).step s action).2 := by
  have settled (action : Settlement.Action chain.toChain) :
      Audited chain (settle s action).2 :=
    { wired := Settlement.wired_step s.settlement action inv.wired
      split := (Settlement.books_step s.settlement action inv.wired).1 inv.split }
  cases action with
  | distributor tx c => exact settled (.distributor tx.toTx c)
  | treasury tx c => exact settled (.treasury tx.toTx c)
  | transfer tx sender recipient amount => exact settled (.transfer tx.toTx sender recipient amount)
  | registry tx c => exact ⟨{ inv.wired with }, inv.split⟩
  | resolver tx c => exact ⟨inv.wired, inv.split⟩
  | setPublicKey address publicKey => exact ⟨inv.wired, inv.split⟩

/-- A call of the treasury brings what a withdrawal pays to the distributor. -/
theorem received_treasury (ed25519 : DisputeResolver.Ed25519) (s : State Address) (tx : Tx chain)
    (c : Treasury.Call Address) :
    received ((machine ed25519 chain).record s (.treasury tx c)) =
      Settlement.funded
        ((Settlement.machine chain.toChain).record s.settlement (.treasury tx.toTx c)) := by
  cases c with
  | withdraw toAddress amount memo =>
      simp only [Settlement.funded, received, Machine.record, machine, settle, Prod.map_fst]
      rcases ((Settlement.machine chain.toChain).step s.settlement
        (.treasury tx.toTx (.withdraw toAddress amount memo))).1 with _ | (_ | _ | _) | _ <;> rfl
  | _ => rfl

/-- A transfer brings its amount if it is to the distributor. -/
theorem received_transfer (ed25519 : DisputeResolver.Ed25519) (s : State Address) (tx : Tx chain)
    (sender recipient : Address) (amount : I128) :
    received ((machine ed25519 chain).record s (.transfer tx sender recipient amount)) =
      Settlement.funded ((Settlement.machine chain.toChain).record s.settlement
        (.transfer tx.toTx sender recipient amount)) := by
  simp only [Settlement.funded, received, Machine.record, machine, settle, Prod.map_fst]
  rcases ((Settlement.machine chain.toChain).step s.settlement
    (.transfer tx.toTx sender recipient amount)).1 with _ | _ | _ | _ <;> rfl

/-- The inflow of the settlement grows by what the step brings. -/
theorem inflow_received (ed25519 : DisputeResolver.Ed25519) (s : State Address)
    (action : Action chain) (inv : Audited chain s) :
    Settlement.inflow chain.toChain ((machine ed25519 chain).step s action).2.settlement =
      Settlement.inflow chain.toChain s.settlement +
        received ((machine ed25519 chain).record s action) := by
  have settled (action : Settlement.Action chain.toChain) :
      Settlement.inflow chain.toChain (settle s action).2.settlement =
        Settlement.inflow chain.toChain s.settlement +
          Settlement.funded ((Settlement.machine chain.toChain).record s.settlement action) :=
    Settlement.inflow_step s.settlement action inv.wired
  cases action with
  | distributor tx c => exact settled (.distributor tx.toTx c)
  | treasury tx c =>
      rw [received_treasury]
      exact settled (.treasury tx.toTx c)
  | transfer tx sender recipient amount =>
      rw [received_transfer]
      exact settled (.transfer tx.toTx sender recipient amount)
  | registry tx c =>
      -- The distributor signs nothing and is not the registry.
      have same : ((machine ed25519 chain).step s (.registry tx c)).2.tokens chain.distributor =
          s.tokens chain.distributor := by
        rcases Deployed.step_call_cases RelayRegistry.dispatch RelayRegistry.provide
          tx.registryEnv c s.registryWorld with ⟨v, w, h, hstep⟩ | ⟨e, hstep⟩
        · exact (congrArg (fun r => r.2.outside chain.distributor) hstep).trans
            (registry_bypasses tx.unsigned chain.registry_ne_distributor.symm h)
        · exact congrArg (fun r => r.2.outside chain.distributor) hstep
      exact (congrArg (· + _ + _ + _) same).trans (add_zero _).symm
  | resolver tx c => exact (add_zero _).symm
  | setPublicKey address publicKey => exact (add_zero _).symm

/-! ## The launched system

At the launch nothing has been earned, shared or claimed, so what has come in is what the
distributor holds, and the equation of the books can be carried along from there.
-/

/-- The books of a launched system are in order. -/
theorem Launched.audited (launched : Launched chain settings s) : Audited chain s := by
  refine ⟨launched.wired, ?_⟩
  obtain ⟨u, h⟩ := launched.distributor
  rw [(FeeDistributor.returns_initializeContract_freshState.mp h).2.2]
  exact rfl

/-- What has come in before any batch is what the distributor has. -/
theorem Launched.inflow_eq (launched : Launched chain settings s) :
    Settlement.inflow chain.toChain s.settlement = s.tokens chain.distributor := by
  obtain ⟨u, h⟩ := launched.distributor
  have start := Settlement.accounted_initializeContract h
  rw [(FeeDistributor.returns_initializeContract_freshState.mp h).2.2] at start ⊢
  exact (congrArg (· + _) start).trans (add_zero _)

/-- With a share of at most the fee, payouts and shares are not negative. -/
theorem positive_run (ed25519 : DisputeResolver.Ed25519) (launched : Launched chain settings s)
    (share : settings.treasuryShareBps.val ≤ 10000) (as : List (Action chain)) :
    FeeDistributor.Positive settings.treasuryShareBps
      ((machine ed25519 chain).run s as).settlement.storage := by
  obtain ⟨u, h⟩ := launched.distributor
  refine (machine ed25519 chain).run_invariant
    (fun s => FeeDistributor.Positive settings.treasuryShareBps s.settlement.storage)
    (fun s action inv => ?_)
    ⟨FeeDistributor.configured_initializeContract h,
      FeeDistributor.earningsNonneg_initializeContract h⟩ as
  exact (distributor_takes s action).invariant
    (fun w => FeeDistributor.Positive settings.treasuryShareBps w.storage)
    (fun w action _ => FeeDistributor.positive_step share w action) inv

/-- The books are in order in every state that is reached. -/
theorem audited_run (ed25519 : DisputeResolver.Ed25519) (launched : Launched chain settings s)
    (as : List (Action chain)) : Audited chain ((machine ed25519 chain).run s as) :=
  (machine ed25519 chain).run_invariant (Audited chain) (audited_step ed25519) launched.audited as

/-- Along every run, what has come in is what there was at the start, and what was received. -/
theorem inflow_run (ed25519 : DisputeResolver.Ed25519) (launched : Launched chain settings s)
    (as : List (Action chain)) :
    Settlement.inflow chain.toChain ((machine ed25519 chain).run s as).settlement =
      s.tokens chain.distributor +
        Machine.total received ((machine ed25519 chain).trace s as) := by
  rw [← launched.inflow_eq]
  exact (machine ed25519 chain).potential_run (Audited chain)
    (fun s => Settlement.inflow chain.toChain s.settlement) received (audited_step ed25519)
    (inflow_received ed25519) launched.audited as

/-- **Whether the relays can be paid is a matter of what has come in and what the batches cost.**
In every reached state, the distributor's tokens and the costs of its batches are together what it
had at the start, what it was sent since, and what its relays may still claim.  So with a
treasury's share of at most the whole fee, as long as the costs do not exceed what has come in,
every relay with unclaimed earnings is paid all of them in a transaction in which the token pays
what the distributor has (`Tx.Pays`). -/
theorem claims_funded (ed25519 : DisputeResolver.Ed25519) (launched : Launched chain settings s)
    (as : List (Action chain)) :
    let m := machine ed25519 chain
    let reached := m.run s as
    let funds := s.tokens chain.distributor + Machine.total received (m.trace s as)
    reached.tokens chain.distributor + Settlement.batchCosts reached.settlement =
        funds + Settlement.unclaimedTotal reached.settlement ∧
      (settings.treasuryShareBps.val ≤ 10000 →
        Settlement.batchCosts reached.settlement ≤ funds →
          ∀ (tx : Tx chain) a, tx.Pays chain.distributor → tx.authorised none a = true →
            let unclaimed := (FeeDistributor.earningsOf reached.settlement.storage a).unclaimed
            unclaimed ≠ 0 →
              (m.step reached (.distributor tx (.claim a))).1 =
                .settlement (.distributor (some (.ok (.amount unclaimed))))) := by
  intro m reached funds
  have audited : Audited chain reached := audited_run ed25519 launched as
  have account : reached.tokens chain.distributor + Settlement.batchCosts reached.settlement =
      funds + Settlement.unclaimedTotal reached.settlement :=
    calc reached.tokens chain.distributor + Settlement.batchCosts reached.settlement
      _ = Settlement.inflow chain.toChain reached.settlement +
            Settlement.unclaimedTotal reached.settlement :=
          (Settlement.inflow_eq audited.split).symm
      _ = funds + Settlement.unclaimedTotal reached.settlement :=
          congrArg (· + _) (inflow_run ed25519 launched as)
  refine ⟨account, ?_⟩
  intro share enough tx a pays signed unclaimed due
  have nonneg := (positive_run ed25519 launched share as).earnings
  -- With the costs covered, the account leaves at least what is unclaimed.
  have total : Settlement.unclaimedTotal reached.settlement ≤ reached.tokens chain.distributor := by
    omega
  -- No relay may claim more than all of them.
  have covered : unclaimed.val ≤ reached.tokens chain.distributor :=
    (Settlement.unclaimed_le_total nonneg a).trans total
  have positive : 0 < unclaimed.val :=
    lt_of_le_of_ne (nonneg.unclaimed a) fun zero => due (MachineInt.ext zero.symm)
  have accepted := pays a unclaimed reached.tokens positive covered
  obtain ⟨t, h⟩ := Settlement.claim_returns audited.wired
    (inOrder_run ed25519 launched as).distributor signed due accepted
  have returned : Returns (FeeDistributor.dispatch tx.distributorEnv (.claim a)) reached.settlement
      (.amount unclaimed) t := returns_bind_pure.mpr ⟨unclaimed, h, rfl⟩
  exact congrArg (fun reply => Reply.settlement (.distributor reply))
    (Deployed.answer_of_returns FeeDistributor.dispatch FeeDistributor.provide returned)

/-- A hundred for the distributor, from the relay that it owes. -/
def fundingActions : List (Action sampleChain) :=
  sampleActions ++ [.transfer (sampleTx 8) 10 1 100]

/-- The batch has cost 55, and relay 10 is paid its 45 of them. -/
theorem claims_funded_fundingActions :
    ((machine DisputeResolver.sampleEd25519 sampleChain).step
        ((machine DisputeResolver.sampleEd25519 sampleChain).run sampleState fundingActions)
        (.distributor (sampleTx 9) (.claim 10))).1 =
      .settlement (.distributor (some (.ok (.amount 45)))) := by
  have pays : (sampleTx 9).Pays sampleChain.distributor :=
    fun _ _ _ positive enough => decide_eq_true ⟨positive.le, enough⟩
  exact (claims_funded DisputeResolver.sampleEd25519 sample_launched fundingActions).2
    (by decide) (by decide +kernel) (sampleTx 9) 10 pays rfl (by decide +kernel)

end StellarConduit.Protocol
