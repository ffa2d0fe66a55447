import StellarConduit.Protocol.Parts
import StellarConduit.Settlement.Books
import StellarConduit.Treasury.Withdrawals

/-!
# The launched system

The four contracts are deployed and initialized with one token and with the distributor paying
this treasury.  From there on, whatever is called in whatever order, nobody who is owed tokens
has to fear the calls of anyone else: the registry can pay its nodes, the treasury can pay its
balance, and the books of the distributor and the treasury agree.

The deployment is described by its outcome.  `Launched chain settings s` says that in the state
`s` each contract has just been initialized with its part of the settings, and that the
registry has been told the token.  `initialize` does not do the latter, and no entry point does;
whoever deploys the registry has to write it into the storage, and the system as a whole could
not work without it.

Each invariant is one of a single contract, from the module about that contract, and holds of
the system because the contract takes part in it as `Parts` says.  What is new at this level is
the agreement between two contracts: that each share the distributor has recorded is a deposit
that the treasury has entered.

## Main definitions

* `Settings` — what the contracts are initialized with.
* `Launched` — the state of the system after its launch.

## Main results

* `solvent_run`, `backed_run`, `booked_run` — what the registry, the treasury and the two books
  of the treasury's shares maintain, in every state that a launched system reaches.
* `launched_safe` — so a payout that is due goes through, and a withdrawal is answered by the
  books.
-/

namespace StellarConduit.Protocol

open Soroban Contract Machine

variable {Address : Type} [DecidableEq Address] {chain : Chain Address}

/-- What the contracts are initialized with. -/
structure Settings (Address : Type) where
  /-- Who slashes and reinstates. -/
  registryCouncil : AdminCouncil Address
  /-- The stake of an active node, at the least. -/
  minStake : I128
  /-- How long an unstake is pending. -/
  stakeLockPeriod : U32
  /-- Who withdraws and allocates. -/
  treasuryCouncil : AdminCouncil Address
  /-- Who changes the fee rate. -/
  distributorCouncil : AdminCouncil Address
  /-- The rate of the fees to begin with. -/
  feeRateBps : U32
  /-- The treasury's part of a fee. -/
  treasuryShareBps : U32
  /-- The resolver stores a council and never asks it. -/
  resolverCouncil : AdminCouncil Address
  /-- How long a respondent has to answer. -/
  resolutionWindow : U32

/-- Each contract is freshly deployed and initialized, and the registry knows the token. -/
structure Launched (chain : Chain Address) (settings : Settings Address) (s : State Address) :
    Prop where
  /-- The registry has been initialized and told the token. -/
  registry : ∃ w u, Returns
      (RelayRegistry.initializeContract settings.registryCouncil settings.minStake
        settings.stakeLockPeriod) (RelayRegistry.freshState s.tokens) u w ∧
    s.registryWorld = RelayRegistry.withToken chain.token w
  /-- The treasury has been initialized with the token. -/
  treasury : ∃ u, Returns (Treasury.initializeContract settings.treasuryCouncil chain.token)
    (Treasury.freshState s.tokens) u s.treasury
  /-- The distributor has been initialized to pay this treasury. -/
  distributor : ∃ u, Returns
    (FeeDistributor.initializeContract settings.distributorCouncil settings.feeRateBps
      settings.treasuryShareBps chain.treasury chain.token)
    (FeeDistributor.freshState s.treasury) u s.settlement
  /-- The resolver has been initialized. -/
  resolver : ∃ u, Returns
    (DisputeResolver.initializeContract settings.resolverCouncil settings.resolutionWindow)
    (DisputeResolver.freshState ()) u s.resolver
  /-- Nobody owes tokens to the chain. -/
  registryTokens : 0 ≤ s.tokens chain.registry
  /-- The treasury has no debt to begin with, either. -/
  treasuryTokens : 0 ≤ s.tokens chain.treasury

variable {settings : Settings Address} {s : State Address} {ed25519 : DisputeResolver.Ed25519}

/-! ## Each part -/

/-- A launched registry is solvent. -/
theorem Launched.solvent (launched : Launched chain settings s) :
    RelayRegistry.Solvent chain.registry chain.token settings.registryCouncil settings.minStake
      settings.stakeLockPeriod s.registryWorld := by
  obtain ⟨w, u, h, hworld⟩ := launched.registry
  have start := launched.registryTokens
  have inv := RelayRegistry.invariant_initializeContract h
  obtain ⟨-, -, -, rfl⟩ := RelayRegistry.returns_initializeContract_freshState.mp h
  rw [hworld]
  exact
    { wellFormed := RelayRegistry.invariant_provide inv
      tokenAddress := rfl
      covered := start }

/-- The registry stays solvent in the steps that the system allows. -/
theorem solvent_run (ed25519 : DisputeResolver.Ed25519) (launched : Launched chain settings s)
    (as : List (Action chain)) :
    RelayRegistry.Solvent chain.registry chain.token settings.registryCouncil settings.minStake
      settings.stakeLockPeriod ((machine ed25519 chain).run s as).registryWorld :=
  takes_tokens
    (RelayRegistry.Solvent chain.registry chain.token settings.registryCouncil settings.minStake
      settings.stakeLockPeriod)
    (fun _ _ _ _ _ tokens inv => RelayRegistry.solvent_call inv tokens)
    (fun _ _ more inv => ⟨inv.wellFormed, inv.tokenAddress, inv.covered.trans more⟩)
    (registry_run ed25519 s as) launched.solvent

/-- The treasury's balance stays backed, and within what was deposited. -/
theorem backed_run (ed25519 : DisputeResolver.Ed25519) (launched : Launched chain settings s)
    (as : List (Action chain)) :
    Treasury.Backed chain.treasury chain.token ((machine ed25519 chain).run s as).treasury ∧
      Treasury.Room ((machine ed25519 chain).run s as).treasury.storage := by
  obtain ⟨u, h⟩ := launched.treasury
  obtain ⟨bs, reached, tokens, -⟩ := treasury_run ed25519 s as
  obtain ⟨log, -, rep⟩ := Treasury.represents_run h bs
  rw [← reached]
  exact ⟨Treasury.backed_run h launched.treasuryTokens tokens, rep.room⟩

/-- A step of the system keeps the books of the distributor and the treasury in step. -/
theorem booked_step (s : State Address) (action : Action chain)
    (inv : Settlement.Wired chain.toChain s.settlement ∧
      Settlement.Booked chain.toChain s.settlement) :
    Settlement.Wired chain.toChain ((machine ed25519 chain).step s action).2.settlement ∧
      Settlement.Booked chain.toChain ((machine ed25519 chain).step s action).2.settlement := by
  cases action with
  | distributor tx c => exact Settlement.booked_step s.settlement (.distributor tx.toTx c) inv
  | treasury tx c => exact Settlement.booked_step s.settlement (.treasury tx.toTx c) inv
  | transfer tx sender recipient amount =>
      exact Settlement.booked_step s.settlement (.transfer tx.toTx sender recipient amount) inv
  | registry tx c => exact ⟨{ inv.1 with }, inv.2.congr rfl rfl rfl⟩
  | resolver tx c => exact inv
  | setPublicKey address publicKey => exact inv

/-- A launched distributor is wired to the treasury. -/
theorem Launched.wired (launched : Launched chain settings s) :
    Settlement.Wired chain.toChain s.settlement := by
  obtain ⟨u, ht⟩ := launched.treasury
  obtain ⟨u', h⟩ := launched.distributor
  have initialized : s.treasury.storage.adminCouncil.isSome ∧
      s.treasury.storage.tokenAddress = some chain.token := by
    rw [(Treasury.returns_initializeContract_freshState.mp ht).2]
    exact ⟨rfl, rfl⟩
  exact Settlement.wired_initializeContract h initialized.1 initialized.2

/-- The books of distributor and treasury agree in every state that is reached. -/
theorem booked_run (ed25519 : DisputeResolver.Ed25519) (launched : Launched chain settings s)
    (as : List (Action chain)) :
    Settlement.Booked chain.toChain ((machine ed25519 chain).run s as).settlement := by
  obtain ⟨u, ht⟩ := launched.treasury
  obtain ⟨u', h⟩ := launched.distributor
  exact ((machine ed25519 chain).run_invariant
    (fun s => Settlement.Wired chain.toChain s.settlement ∧
      Settlement.Booked chain.toChain s.settlement) booked_step
    ⟨launched.wired, Settlement.booked_initializeContract h ht⟩ as).2

/-! ## The system -/

/-- In the transaction the token pays whatever `holder` has: this is assumed where a payout is
shown to go through, and nowhere else. -/
def Tx.Pays (tx : Tx chain) (holder : Address) : Prop :=
  ∀ (recipient : Address) (amount : I128) (b : Balances Address),
    0 < amount.val → amount.val ≤ b holder → tx.accepts b holder recipient amount = true

/-- A token that pays for the registry pays what the registry has. -/
theorem Tx.Pays.covered_registry {tx : Tx chain} (pays : tx.Pays chain.registry) :
    Covered chain.registry chain.token tx.registryEnv :=
  fun recipient amount b positive enough =>
    ⟨_, tokenCall_transfer_of.mpr
      ⟨rfl, tx.invoker _, pays recipient amount b positive enough, rfl⟩⟩

/-- A token that pays for the treasury pays what the treasury has. -/
theorem Tx.Pays.covered_treasury {tx : Tx chain} (pays : tx.Pays chain.treasury) :
    Covered chain.treasury chain.token (tx.treasuryEnv none) :=
  fun recipient amount b positive enough =>
    ⟨_, tokenCall_transfer_of.mpr
      ⟨rfl, tx.invoker _, pays recipient amount b positive enough, rfl⟩⟩

/-- **The launched system is safe for everyone, whatever is called.**  In every reached state
the registry holds what it owes its nodes and the treasury holds its balance, and what the
distributor has entered as the treasury's shares is what the treasury has entered as its
deposits.  So in a transaction in which the token pays what the registry has,
`finalize_unstake` of an unlocked entry pays it, and in one in which it pays what the treasury
has, an approved `withdraw` is answered by the treasury's books alone. -/
theorem launched_safe (ed25519 : DisputeResolver.Ed25519) (launched : Launched chain settings s)
    (as : List (Action chain)) :
    let reached := (machine ed25519 chain).run s as
    RelayRegistry.obligations reached.registry.storage ≤ reached.tokens chain.registry ∧
      (reached.treasury.storage.balance.getD 0).val ≤ reached.tokens chain.treasury ∧
      Settlement.treasuryShares reached.settlement =
        Settlement.depositedBy chain.distributor reached.treasury.storage ∧
      (∀ (tx : Tx chain) a entry, tx.Pays chain.registry → tx.authorised none a = true →
        reached.registry.storage.lockEntry.get a = some entry →
        entry.unlocksAt.val ≤ tx.timestamp.val →
          ((machine ed25519 chain).step reached (.registry tx (.finalizeUnstake a))).1 =
            .registry (some (.ok (.amount entry.amount)))) ∧
      ∀ (tx : Tx chain) toAddress amount memo, tx.Pays chain.treasury →
        Treasury.CouncilPasses (tx.treasuryEnv none) reached.treasury →
          ((machine ed25519 chain).step reached
              (.treasury tx (.withdraw toAddress amount memo))).1 =
            .settlement (.treasury (Treasury.withdrawAnswer
              (reached.treasury.storage.balance.getD 0) (reached.treasury.storage.entryCount.getD 0)
              amount)) := by
  intro reached
  have solvent := solvent_run ed25519 launched as
  obtain ⟨backed, room⟩ := backed_run ed25519 launched as
  have held := backed.held
  unfold Treasury.unbooked at held
  have booked := booked_run ed25519 launched as
  refine ⟨solvent.covered, sub_nonneg.mp held, booked.treasuryShares_eq, ?_, ?_⟩
  · intro tx a entry pays signed hentry unlocked
    obtain ⟨w', h⟩ := RelayRegistry.finalizeUnstake_returns solvent (tokenEnv_registry tx)
      pays.covered_registry signed hentry unlocked
    have returned : Returns (RelayRegistry.dispatch tx.registryEnv (.finalizeUnstake a))
        reached.registryWorld (.amount entry.amount) w' :=
      returns_bind_pure.mpr ⟨entry.amount, h, rfl⟩
    exact congrArg Reply.registry
      (Deployed.answer_of_returns RelayRegistry.dispatch RelayRegistry.provide returned)
  · intro tx toAddress amount memo pays approved
    have tokens : TokenEnv chain.treasury chain.token (tx.treasuryEnv none) :=
      tokenEnv_treasury tx nofun
    refine congrArg (fun reply => Reply.settlement (.treasury reply)) ?_
    exact Treasury.withdraw_answered room approved backed.initialized.tokenAddress
      fun positive covered =>
        backed.pays tokens pays.covered_treasury positive covered toAddress

/-- A registry with a minimum stake of 100 and a lock period of 10, a fee of half a percent, of
which a tenth goes to the treasury, and a resolution window of a day. -/
def sampleSettings : Settings ℕ where
  registryCouncil := ⟨[7], 1⟩
  minStake := 100
  stakeLockPeriod := 10
  treasuryCouncil := ⟨[7], 1⟩
  distributorCouncil := ⟨[7], 1⟩
  feeRateBps := 50
  treasuryShareBps := 1000
  resolverCouncil := ⟨[7], 1⟩
  resolutionWindow := 17280

/-- The sample settings pass the checks of each `initialize`. -/
theorem sample_launched : Launched sampleChain sampleSettings sampleState where
  registry := ⟨_, (), RelayRegistry.returns_initializeContract_freshState.mpr
    ⟨by decide, by decide, by decide, rfl⟩, rfl⟩
  treasury := ⟨(), Treasury.returns_initializeContract_freshState.mpr ⟨by decide, rfl⟩⟩
  distributor := ⟨(), FeeDistributor.returns_initializeContract_freshState.mpr
    ⟨by decide, by decide, rfl⟩⟩
  resolver := ⟨(), DisputeResolver.returns_initializeContract_freshState.mpr
    ⟨by decide, by decide, rfl⟩⟩
  registryTokens := by decide
  treasuryTokens := by decide

/-- Once the lock period is over, the 50 are paid. -/
theorem launched_safe_stakeAndDistribute :
    ((machine DisputeResolver.sampleEd25519 sampleChain).step
        ((machine DisputeResolver.sampleEd25519 sampleChain).run sampleState sampleActions)
        (.registry (sampleTx 20) (.finalizeUnstake 10))).1 =
      .registry (some (.ok (.amount 50))) := by
  have pays : (sampleTx 20).Pays sampleChain.registry :=
    fun _ _ _ positive enough => decide_eq_true ⟨positive.le, enough⟩
  exact (launched_safe DisputeResolver.sampleEd25519 sample_launched sampleActions).2.2.2.1
    (sampleTx 20) 10 ⟨10, 50, 17⟩ pays rfl (by decide +kernel) (by decide)

end StellarConduit.Protocol
