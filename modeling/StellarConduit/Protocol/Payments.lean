import StellarConduit.DisputeResolver.Resolution
import StellarConduit.Protocol.System
import StellarConduit.RelayRegistry.Solvency
import StellarConduit.Settlement.Conservation

/-!
# Who pays

All token movements in the system are transfers that its contracts make, each asking its
sender, and transfers at the root of a transaction.  So tokens leave an address only when it
has signed, or when it is the contract that was called.

`Spends tx self b b'` says so of two states of the balances: an address that has not signed the
transaction and is not the contract `self` has at least what it had.  It is reflexive and
transitive, and one transfer from a signer, or from `self`, has it; a call is a sequence of such
transfers.

The distributor is the one contract that calls another, and there the question who has signed
has two answers.  When it deposits its share, the treasury is called by the distributor and
takes the tokens from it, on the strength of the distributor being the caller and not of a
signature.  `DistributorEffect` therefore keeps the two parts of a call apart: what the
distributor moves itself, and the deposit at the end, which is a call of the treasury in a state
whose balances have already moved.  The later modules that follow the treasury through runs of
the system take the deposit from there.

## Main definitions

* `Spends` — only signers of the transaction, and one contract, have paid.
* `DistributorEffect` — what a call of the distributor does outside it.

## Main results

* `distributor_effect` — what a call of the distributor does outside it: it moves tokens, and
  it may end in a deposit with the treasury.
* `tokens_step` — one step of the system takes tokens only from signers and from the contract
  called.
* `tokens_kept` — an address that is no contract and signs nothing loses no tokens in any run.
-/

namespace StellarConduit.Protocol

open Soroban Contract

variable {Address : Type} [DecidableEq Address] {chain : Chain Address}

/-- Only signers of the transaction and `self` have paid. -/
def Spends (tx : Tx chain) (self : Address) (b b' : Balances Address) : Prop :=
  ∀ a, tx.authorised none a = false → a ≠ self → b a ≤ b' a

section Spends

variable {tx : Tx chain} {self : Address} {b b' b'' : Balances Address}

omit [DecidableEq Address] in
/-- Nobody has paid. -/
theorem Spends.refl (tx : Tx chain) (self : Address) (b : Balances Address) : Spends tx self b b :=
  fun _ _ _ => le_rfl

omit [DecidableEq Address] in
/-- What is paid twice by signers is paid by signers. -/
theorem Spends.trans (first : Spends tx self b b') (second : Spends tx self b' b'') :
    Spends tx self b b'' :=
  fun a unsigned other => (first a unsigned other).trans (second a unsigned other)

/-- A transfer that the token accepts, from a signer or from `self`. -/
theorem Spends.move {sender recipient : Address} {amount : I128}
    (payer : tx.authorised none sender = true ∨ sender = self)
    (accepted : tx.accepts b sender recipient amount = true) :
    Spends tx self b (b.move sender recipient amount.val) := by
  intro a unsigned other
  refine Balances.le_move ?_ (tx.accepts_nonneg accepted)
  rintro rfl
  rcases payer with signed | rfl
  · rw [unsigned] at signed
    cases signed
  · exact other rfl

end Spends

/-! ## The distributor

`claim` pays a relay, and `distribute` pays the treasury twice: by a transfer of its own, and in
the deposit, where the treasury takes the share again.  The tokens are the distributor's in all
three.
-/

section Distributor

variable {tx : Tx chain} {s s' : Settlement.State Address} {c : FeeDistributor.Call Address}
  {v : FeeDistributor.Value}

/-- The share that a call pays to the treasury, read off the fee entry that it leaves. -/
def paidShare (s' : Settlement.State Address) : FeeDistributor.Call Address → Option I128
  | .distribute _ batchId _ =>
      ((s'.storage.feeEntry.get batchId).map FeeDistributor.FeeEntry.treasuryShare).filter
        fun share => 0 < share.val
  | _ => none

/-- What a call of the distributor does outside it. -/
inductive DistributorEffect (tx : Tx chain) (s s' : Settlement.State Address) :
    Option I128 → Prop where
  /-- Tokens have moved, and the treasury's storage is as it was. -/
  | moves {b : Balances Address} (after : s'.outside = Settlement.withBalances s.outside b)
      (spends : Spends tx chain.distributor s.outside.outside b) : DistributorEffect tx s s' none
  /-- Tokens have moved, and then the share was deposited. -/
  | deposits {share : I128} {b : Balances Address}
      (spends : Spends tx chain.distributor s.outside.outside b)
      (deposit : Returns
        (Treasury.deposit (tx.treasuryEnv (some chain.distributor)) chain.distributor share)
        (Settlement.withBalances s.outside b) () s'.outside) :
      DistributorEffect tx s s' (some share)

/-- A token transfer of the distributor. -/
theorem distributorEnv_transfer_of {contract recipient : Address} {amount : I128}
    {t t' : Treasury.State Address (Balances Address)}
    (h : tx.distributorEnv.invokeContract contract "transfer"
      [.address chain.distributor, .address recipient, .i128 amount] t = some t') :
    tx.accepts t.outside chain.distributor recipient amount = true ∧
      t' = Settlement.withBalances t (t.outside.move chain.distributor recipient amount.val) := by
  by_cases token : contract = chain.token
  · subst token
    exact Settlement.Tx.distributorEnv_transfer.mp h
  · -- The treasury has no `transfer`, and nobody else is called.
    have none : tx.distributorEnv.invokeContract contract "transfer"
        [.address chain.distributor, .address recipient, .i128 amount] t = none := by
      simp [Settlement.Tx.distributorEnv, Settlement.Tx.treasuryCall, token]
    rw [none] at h
    cases h

/-- A deposit of the distributor. -/
theorem distributorEnv_deposit_of {contract : Address} {amount : I128}
    {t t' : Treasury.State Address (Balances Address)}
    (h : tx.distributorEnv.invokeContract contract "deposit"
      [.address chain.distributor, .i128 amount] t = some t') :
    Returns (Treasury.deposit (tx.treasuryEnv (some chain.distributor)) chain.distributor amount)
      t () t' := by
  by_cases treasury : contract = chain.treasury
  · subst treasury
    exact Settlement.Tx.distributorEnv_deposit.mp h
  · have none : tx.distributorEnv.invokeContract contract "deposit"
        [.address chain.distributor, .i128 amount] t = none := by
      simp [Settlement.Tx.distributorEnv, tokenCall, treasury]
    rw [none] at h
    cases h

/-- Paying the treasury: a positive share is moved, and then deposited. -/
theorem paysTreasury_effect {share : I128} {storage : FeeDistributor.Storage Address}
    (h : FeeDistributor.PaysTreasury tx.distributorEnv storage share s.outside s'.outside) :
    DistributorEffect tx s s' ((some share).filter fun share => 0 < share.val) := by
  by_cases positive : 0 < share.val
  · rw [FeeDistributor.PaysTreasury, if_pos positive] at h
    obtain ⟨treasury, -, token, -, y, htransfer, hdeposit⟩ := h
    obtain ⟨accepted, rfl⟩ := distributorEnv_transfer_of htransfer
    have paid : (some share).filter (fun share => 0 < share.val) = some share := by
      simp [Option.filter, positive]
    rw [paid]
    exact .deposits (.move (Or.inr rfl) accepted) (distributorEnv_deposit_of hdeposit)
  · rw [FeeDistributor.PaysTreasury, if_neg positive] at h
    have unpaid : (some share).filter (fun share => 0 < share.val) = none := by
      simp [Option.filter, positive]
    rw [unpaid]
    exact .moves h (.refl tx _ _)

/-- By cases on the call; `distribute` and `claim` are the two that reach outside. -/
theorem distributor_effect (h : Returns (FeeDistributor.dispatch tx.distributorEnv c) s v s') :
    DistributorEffect tx s s' (paidShare s' c) := by
  cases c with
  | initializeContract council feeRateBps treasuryShareBps treasury token =>
      obtain ⟨_, hcall, -⟩ := returns_bind_pure.mp h
      obtain ⟨-, -, -, rfl⟩ := FeeDistributor.returns_initializeContract.mp hcall
      exact .moves rfl (.refl tx _ _)
  | calculateFee batchSize | getEarnings a =>
      obtain rfl := FeeDistributor.world_eq_of_reads h trivial
      exact .moves rfl (.refl tx _ _)
  | distribute a batchId batchSize =>
      obtain ⟨_, hcall, -⟩ := returns_bind_pure.mp h
      obtain ⟨-, -, config, -, fee, -, share, -, payout, -, totalEarned, -, unclaimed, -, t, hpays,
        hs'⟩ := FeeDistributor.returns_distribute.mp hcall
      have entered : paidShare s' (.distribute a batchId batchSize) =
          (some share).filter fun share => 0 < share.val := by
        simp [paidShare, hs']
      obtain rfl : t = s'.outside := by rw [hs']
      rw [entered]
      exact paysTreasury_effect hpays
  | claim a =>
      obtain ⟨payout, hcall, -⟩ := returns_bind_pure.mp h
      obtain ⟨-, -, -, totalClaimed, -, token, -, t, htransfer, rfl⟩ :=
        FeeDistributor.returns_claim.mp hcall
      obtain ⟨accepted, rfl⟩ := distributorEnv_transfer_of htransfer
      exact .moves rfl (.move (Or.inr rfl) accepted)
  | setFeeRate newFeeRateBps =>
      obtain ⟨_, hcall, -⟩ := returns_bind_pure.mp h
      obtain ⟨-, -, config, -, rfl⟩ := FeeDistributor.returns_setFeeRate.mp hcall
      exact .moves rfl (.refl tx _ _)

end Distributor

/-! ## The treasury and the registry

Each call of these two makes at most one transfer.  A deposit and a stake are paid by whoever has
signed them; a withdrawal and a payout are paid by the contract.
-/

section Holders

variable {tx : Tx chain} {t t' : Treasury.State Address (Balances Address)}
  {w w' : RelayRegistry.State Address (Balances Address)} {self : Address}

/-- A deposit takes from the one who makes it. -/
theorem deposit_spends {caller : Option Address} {fromAddress : Address} {amount : I128} {u : Unit}
    (h : Returns (Treasury.deposit (tx.treasuryEnv caller) fromAddress amount) t u t')
    (payer : tx.authorised none fromAddress = true ∨ fromAddress = self) :
    Spends tx self t.outside t'.outside := by
  obtain ⟨-, -, newBalance, -, deposited, -, nextId, -, token, -, b, htransfer, rfl⟩ :=
    Treasury.returns_deposit.mp h
  obtain ⟨-, -, accepted, rfl⟩ := tokenCall_transfer_of.mp htransfer
  exact .move payer accepted

/-- A deposit is signed by whoever pays it, a withdrawal is paid by the treasury. -/
theorem treasury_spends {c : Treasury.Call Address} {v : Treasury.Value Address}
    (h : Returns (Treasury.dispatch (tx.treasuryEnv none) c) t v t') :
    Spends tx chain.treasury t.outside t'.outside := by
  cases c with
  | getBalance | getHistory entryId | getProgram programId | getTreasuryStats =>
      rw [Treasury.world_eq_of_reads h trivial]
      exact .refl tx _ _
  | initializeContract council tokenAddress =>
      obtain ⟨_, hcall, -⟩ := returns_bind_pure.mp h
      obtain ⟨-, -, rfl⟩ := Treasury.returns_initializeContract.mp hcall
      exact .refl tx _ _
  | deposit fromAddress amount =>
      obtain ⟨_, hcall, -⟩ := returns_bind_pure.mp h
      exact deposit_spends hcall (Or.inl (Treasury.returns_deposit.mp hcall).1)
  | withdraw toAddress amount memo =>
      obtain ⟨_, hcall, -⟩ := returns_bind_pure.mp h
      obtain ⟨-, -, -, newBalance, -, withdrawn, -, nextId, -, token, -, b, htransfer, rfl⟩ :=
        Treasury.returns_withdraw.mp hcall
      obtain ⟨-, -, accepted, rfl⟩ := tokenCall_transfer_of.mp htransfer
      exact .move (Or.inr rfl) accepted
  | createProgram name budget =>
      obtain ⟨_, hcall, -⟩ := returns_bind_pure.mp h
      obtain ⟨-, -, -, -, rfl⟩ := Treasury.returns_createProgram.mp hcall
      exact .refl tx _ _
  | updateProgramBudget programId newBudget =>
      obtain ⟨_, hcall, -⟩ := returns_bind_pure.mp h
      obtain ⟨-, program, -, -, rfl⟩ := Treasury.returns_updateProgramBudget.mp hcall
      exact .refl tx _ _
  | deactivateProgram programId =>
      obtain ⟨_, hcall, -⟩ := returns_bind_pure.mp h
      obtain ⟨-, program, -, rfl⟩ := Treasury.returns_deactivateProgram.mp hcall
      exact .refl tx _ _
  | allocate programId amount =>
      obtain ⟨_, hcall, -⟩ := returns_bind_pure.mp h
      obtain ⟨-, -, _, -, -, _, -, -, -, _, -, _, -, _, -, rfl⟩ :=
        Treasury.returns_allocate.mp hcall
      exact .refl tx _ _

/-- A stake is signed by the node that pays it, a payout is paid by the registry. -/
theorem registry_spends {c : RelayRegistry.Call Address} {v : RelayRegistry.Value Address}
    (h : Returns (RelayRegistry.dispatch tx.registryEnv c) w v w') :
    Spends tx chain.registry w.outside w'.outside := by
  cases RelayRegistry.ran_of_returns h with
  | initializeContract hcall =>
      obtain ⟨-, -, -, -, rfl⟩ := RelayRegistry.returns_initializeContract.mp hcall
      exact .refl tx _ _
  | register hcall =>
      obtain ⟨-, -, -, count, -, rfl⟩ := RelayRegistry.returns_register.mp hcall
      exact .refl tx _ _
  | updateMetadata hcall =>
      obtain ⟨-, node, -, -, rfl⟩ := RelayRegistry.returns_updateMetadata.mp hcall
      exact .refl tx _ _
  | stake hcall =>
      obtain ⟨signed, node, -, -, -, newStake, -, token, -, b, htransfer, rfl⟩ :=
        RelayRegistry.returns_stake.mp hcall
      obtain ⟨-, -, accepted, rfl⟩ := tokenCall_transfer_of.mp htransfer
      exact .move (Or.inl signed) accepted
  | unstake hcall =>
      obtain ⟨-, -, node, -, -, unlockAfter, -, -, newStake, -, rfl, -⟩ :=
        RelayRegistry.returns_unstake.mp hcall
      exact .refl tx _ _
  | finalizeUnstake hcall =>
      obtain ⟨-, entry, -, -, token, -, b, htransfer, -, rfl⟩ :=
        RelayRegistry.returns_finalizeUnstake.mp hcall
      obtain ⟨-, -, accepted, rfl⟩ := tokenCall_transfer_of.mp htransfer
      exact .move (Or.inr rfl) accepted
  | slash hcall =>
      obtain ⟨-, node, -, -, slashedAmount, -, rfl⟩ := RelayRegistry.returns_slash.mp hcall
      exact .refl tx _ _
  | reinstateNode hcall =>
      obtain ⟨-, node, -, -, rfl⟩ := RelayRegistry.returns_reinstateNode.mp hcall
      exact .refl tx _ _
  | getNode => exact .refl tx _ _
  | isActive => exact .refl tx _ _

end Holders

/-! ## The system

An address that is no contract and has not signed is the sender of no transfer, whatever the
call.  What remains is to see that the system has no other way to move tokens: the resolver holds
none, and keys are no tokens.
-/

section System

variable {ed25519 : DisputeResolver.Ed25519} {s : State Address} {a : Address}

/-- The deposit, too, is paid by the distributor. -/
theorem DistributorEffect.spends {tx : Tx chain} {t t' : Settlement.State Address}
    {share : Option I128} (effect : DistributorEffect tx t t' share) :
    Spends tx chain.distributor t.outside.outside t'.outside.outside := by
  cases effect with
  | moves after spends =>
      rw [after]
      exact spends
  | deposits spends deposit => exact spends.trans (deposit_spends deposit (Or.inr rfl))

/-- A transfer at the root of a transaction goes through, or nothing happens. -/
theorem transfer_cases (tx : Tx chain) (sender recipient : Address) (amount : I128)
    (t : Settlement.State Address) :
    (tx.authorised none sender = true ∧
        tx.accepts t.outside.outside sender recipient amount = true ∧
        ((Settlement.machine chain.toChain).step t
            (.transfer tx.toTx sender recipient amount)).2 =
          { t with
            outside := Settlement.withBalances t.outside
              (t.outside.outside.move sender recipient amount.val) }) ∨
      ((Settlement.machine chain.toChain).step t
        (.transfer tx.toTx sender recipient amount)).2 = t := by
  cases hcall : tokenCall tx.accepts (tx.authorised none) "transfer"
    [.address sender, .address recipient, .i128 amount] t.outside.outside with
  | none => exact Or.inr (by simp [Settlement.machine, hcall])
  | some b =>
      obtain ⟨signed, accepted, rfl⟩ := tokenCall_transfer.mp hcall
      exact Or.inl ⟨signed, accepted, by simp [Settlement.machine, hcall]⟩

/-- The action may take tokens from `a`: `a` has signed it, or is the contract called. -/
def Action.Charges (a : Address) : Action chain → Prop
  | .distributor tx _ => tx.authorised none a = true ∨ a = chain.distributor
  | .treasury tx _ => tx.authorised none a = true ∨ a = chain.treasury
  | .registry tx _ => tx.authorised none a = true ∨ a = chain.registry
  | .transfer tx _ _ _ => tx.authorised none a = true
  | .resolver _ _ | .setPublicKey _ _ => False

/-- Tokens are taken from signers of the transaction and from the contract called. -/
theorem tokens_step (action : Action chain) (spared : ¬ action.Charges a) :
    s.tokens a ≤ ((machine ed25519 chain).step s action).2.tokens a := by
  cases action with
  | distributor tx c =>
      obtain ⟨unsigned, other⟩ := not_or.mp spared
      rw [Bool.not_eq_true] at unsigned
      rcases Settlement.record_distributor tx.toTx c s.settlement with
        ⟨v, t, h, hrecord⟩ | ⟨e, hrecord⟩
      · exact ((distributor_effect h).spends a unsigned other).trans_eq
          (congrArg (fun r => r.after.outside.outside a) hrecord).symm
      · exact le_of_eq (congrArg (fun r => r.after.outside.outside a) hrecord).symm
  | treasury tx c =>
      obtain ⟨unsigned, other⟩ := not_or.mp spared
      rw [Bool.not_eq_true] at unsigned
      rcases Settlement.record_treasury tx.toTx c s.settlement with
        ⟨v, t, h, hrecord⟩ | ⟨e, hrecord⟩
      · exact (treasury_spends h a unsigned other).trans_eq
          (congrArg (fun r => r.after.outside.outside a) hrecord).symm
      · exact le_of_eq (congrArg (fun r => r.after.outside.outside a) hrecord).symm
  | transfer tx sender recipient amount =>
      rcases transfer_cases tx sender recipient amount s.settlement with
        ⟨signed, accepted, after⟩ | same
      · have other : a ≠ sender := by
          rintro rfl
          exact spared signed
        exact (Balances.le_move other (tx.accepts_nonneg accepted)).trans_eq
          (congrArg (fun t => t.outside.outside a) after).symm
      · exact le_of_eq (congrArg (fun t => t.outside.outside a) same).symm
  | registry tx c =>
      obtain ⟨unsigned, other⟩ := not_or.mp spared
      rw [Bool.not_eq_true] at unsigned
      rcases Deployed.step_call_cases RelayRegistry.dispatch RelayRegistry.provide tx.registryEnv c
        s.registryWorld with ⟨v, w, h, hstep⟩ | ⟨e, hstep⟩
      · exact (registry_spends h a unsigned other).trans_eq
          (congrArg (fun r => r.2.outside a) hstep).symm
      · exact le_of_eq (congrArg (fun r => r.2.outside a) hstep).symm
  | resolver tx c => exact le_rfl
  | setPublicKey address publicKey => exact le_rfl

/-- **Nobody pays who has not signed.** An address that is none of the contracts and has signed no
transaction of a run holds at least what it held.  The token moves tokens by transfers only: a step
of the system has no other way to touch a balance. -/
theorem tokens_kept {as : List (Action chain)} (spared : ∀ action ∈ as, ¬ action.Charges a) :
    s.tokens a ≤ ((machine ed25519 chain).run s as).tokens a := by
  refine (machine ed25519 chain).run_invariant_of (fun t => s.tokens a ≤ t.tokens a)
    (fun r => ¬ r.action.Charges a) (fun t action free held => held.trans (tokens_step action free))
    le_rfl fun r hr => ?_
  exact spared r.action ((machine ed25519 chain).action_mem_of_mem_trace hr)

end System

/-- Distributor, treasury, token, registry and resolver at the addresses 1 to 5. -/
def sampleChain : Chain ℕ where
  toChain := Settlement.sampleChain
  registry := 4
  resolver := 5
  registry_ne_distributor := by decide
  registry_ne_treasury := by decide

/-- A transaction signed by all but the contracts and address 20, in which every nested call is
authorised and the token moves what its sender has. -/
def sampleTx (now : U64) : Tx sampleChain where
  sequence := 0
  timestamp := now
  authorised caller a :=
    if a = 1 ∨ a = 20 then caller.isSome
    else if a = 2 ∨ a = 4 then caller = some a
    else true
  accepts b sender _ amount := decide (0 ≤ amount.val ∧ amount.val ≤ b sender)
  invoker c := by grind
  unsigned := rfl
  treasury_own _ other := decide_eq_false other
  registry_own _ other := decide_eq_false other
  accepts_nonneg accepted := (of_decide_eq_true accepted).1

/-- The contracts, just deployed and initialized, on a token of which the distributor holds a
million and the addresses 10 and 20 a thousand each. -/
def sampleState : State ℕ :=
  let tokens : Balances ℕ := fun a => if a = 1 then 1000000 else if a = 10 ∨ a = 20 then 1000 else 0
  { settlement := FeeDistributor.initialState ⟨[7], 1⟩ 50 1000 2 3
      (Treasury.initialState ⟨[7], 1⟩ 3 tokens)
    registry := RelayRegistry.withToken 3 (RelayRegistry.initialState ⟨[7], 1⟩ 100 10 ())
    resolver := DisputeResolver.initialState ⟨[7], 1⟩ 17280 () }

/-- Relay 10 stakes, is credited a batch, and takes a part of its stake out. -/
def sampleActions : List (Action sampleChain) :=
  [.registry (sampleTx 5) (.register 10 ⟨HostString.fromStr "eu", 10, 99⟩),
    .registry (sampleTx 5) (.stake 10 300),
    .distributor (sampleTx 6) (.distribute 10 1 10000),
    .registry (sampleTx 7) (.unstake 10 50)]

/-- Address 20 keeps its thousand. -/
theorem tokens_kept_bystander :
    1000 ≤ ((machine DisputeResolver.sampleEd25519 sampleChain).run sampleState
      sampleActions).tokens 20 := by
  have spared : ∀ action ∈ sampleActions, ¬ action.Charges 20 := by
    intro action mem
    simp only [sampleActions, List.mem_cons, List.not_mem_nil, or_false] at mem
    rcases mem with rfl | rfl | rfl | rfl <;>
      simp [Action.Charges, sampleTx, sampleChain, Settlement.sampleChain]
  exact tokens_kept spared

end StellarConduit.Protocol
