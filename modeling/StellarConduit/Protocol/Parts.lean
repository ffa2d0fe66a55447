import StellarConduit.Protocol.Payments
import StellarConduit.Soroban.Custody

/-!
# Each contract within the system

Seen by one of its contracts, a run of the system is a run of that contract, in which it is
called and the rest of the chain moves.  It hears of the calls at it, and the treasury also of
the deposits in which the distributor's distributions end.

What is proved about a contract alone may assume how the rest of the chain treats it:
`TokenStep` says that nobody signs for the contract and that others take none of its tokens.
The system sees to that: a contract has no key with which to sign, and tokens leave an address
only by its signature or by a call of its own.

`Takes` is the relation between one step of the system and what a contract makes of it.  It
names the calls that the contract hears, with their answers, and says that the contract's state
goes from the one to the other by steps of its own machine: those calls, and moves of the
outside that its assumptions allow.  From it there are two rules.  What a contract keeps in all
its runs, the system keeps, without a second proof about the entry points; and a whole run of
the system is a run of the contract, which makes every theorem about runs of one contract a
theorem about its part in the system.

## Main definitions

* `registryCalls`, `treasuryCalls`, `distributorCalls`, `resolverCalls` — what the contracts
  hear in a step.

## Main results

* `registry_takes`, `treasury_takes`, `distributor_takes`, `resolver_takes` — one step of the
  system, as each of the contracts sees it.
* `contracts_run` — a run of the system is a run of each of its contracts.
-/

namespace StellarConduit.Protocol

open Soroban Contract Machine

variable {Address : Type} [DecidableEq Address] {chain : Chain Address}

/-! ## What the contracts hear

The answers of the system are the answers of its contracts, so what a contract has heard in a
step can be read off the record of the step.  Calls that failed are left out: they have rolled
back, and a contract cannot tell them from nothing.
-/

/-- The calls of the registry that returned in a step. -/
def registryCalls (r : Step chain) :
    List (Env Address (Balances Address) × RelayRegistry.Call Address ×
      RelayRegistry.Value Address) :=
  match r.action, r.reply with
  | .registry tx c, .registry (some (.ok v)) => [(tx.registryEnv, c, v)]
  | _, _ => []

/-- The calls of the resolver that returned in a step. -/
def resolverCalls (r : Step chain) :
    List (Env Address Unit × DisputeResolver.Call Address × DisputeResolver.Value Address) :=
  match r.action, r.reply with
  | .resolver tx c, .resolver (some (.ok v)) => [(tx.resolverEnv, c, v)]
  | _, _ => []

/-- The calls of the distributor that returned in a step. -/
def distributorCalls (r : Step chain) :
    List (Env Address (Treasury.State Address (Balances Address)) × FeeDistributor.Call Address ×
      FeeDistributor.Value) :=
  match r.action, r.reply with
  | .distributor tx c, .settlement (.distributor (some (.ok v))) => [(tx.distributorEnv, c, v)]
  | _, _ => []

/-- The calls of the treasury that returned in a step: its own, and the deposit of the share
that a distribution pays. -/
def treasuryCalls (r : Step chain) :
    List (Env Address (Balances Address) × Treasury.Call Address × Treasury.Value Address) :=
  match r.action, r.reply with
  | .treasury tx c, .settlement (.treasury (some (.ok v))) => [(tx.treasuryEnv none, c, v)]
  | .distributor tx c, .settlement (.distributor (some (.ok _))) =>
      (paidShare r.after.settlement c).toList.map fun share =>
        (tx.treasuryEnv (some chain.distributor), .deposit chain.distributor share, .unit)
  | _, _ => []

/-! ## One step

For each contract, a step of the system is a call of it that returned, or a move of what is
outside it, or both in turn.  The treasury's case has a part more: a distribution moves tokens
and then ends in a deposit, which are two steps of the treasury.
-/

section Step

section Holder

variable {σ η ε ρ C P : Type}
  {dispatch : Env Address (Balances Address) → C → Contract (World σ (Balances Address) η) ε ρ}
  {provide : P → σ → σ} {holder token : Address} {w w' : World σ (Balances Address) η}

/-- The rest of the chain moves tokens, and none of the holder's. -/
theorem takes_elsewhere {b : Balances Address} (held : w.outside holder ≤ b holder) :
    (deployed dispatch provide).Takes (TokenStep holder token (· ≤ ·)) answered w []
      { w with outside := b } :=
  Takes.step (m := deployed dispatch provide) (a := .elsewhere b) held

/-- The holder is called, and returns. -/
theorem takes_call {env : Env Address (Balances Address)} {c : C} {v : ρ}
    (tokens : TokenEnv holder token env) (h : Returns (dispatch env c) w v w') :
    (deployed dispatch provide).Takes (TokenStep holder token (· ≤ ·)) answered w [(env, c, v)]
      w' := by
  have step : (deployed dispatch provide).Takes (TokenStep holder token (· ≤ ·)) answered w
      (answered ((deployed dispatch provide).record w (.call env c)))
      ((deployed dispatch provide).record w (.call env c)).after := Takes.step tokens
  rw [Deployed.record_of_returns dispatch provide h] at step
  exact step

/-- What the calls of the holder and the rest of the chain preserve holds where they lead. -/
theorem takes_tokens {E : Type} (Inv : World σ (Balances Address) η → Prop)
    (hcall : ∀ env c w v w', TokenEnv holder token env → Inv w → Returns (dispatch env c) w v w' →
      Inv w')
    (houtside : ∀ (w : World σ (Balances Address) η) b, w.outside holder ≤ b holder → Inv w →
      Inv { w with outside := b })
    {told : Record (World σ (Balances Address) η) (Soroban.Action Address (Balances Address) C P)
      (Soroban.Reply ε ρ) → List E} {heard : List E}
    (takes : (deployed dispatch provide).Takes (TokenStep holder token (· ≤ ·)) told w heard w')
    (start : Inv w) : Inv w' := by
  obtain ⟨as, rfl, allowed, -⟩ := takes
  exact Deployed.run_tokens Inv hcall houtside start allowed

end Holder

variable {ed25519 : DisputeResolver.Ed25519} {tx : Tx chain}

/-- To the registry, the chain's token is a token as assumed. -/
theorem tokenEnv_registry (tx : Tx chain) : TokenEnv chain.registry chain.token tx.registryEnv where
  current := rfl
  unsigned := tx.registry_own none nofun
  transfer h := (tokenCall_transfer_of.mp h).2.2.2

/-- To the treasury too, whoever calls it but itself. -/
theorem tokenEnv_treasury (tx : Tx chain) {caller : Option Address}
    (other : caller ≠ some chain.treasury) :
    TokenEnv chain.treasury chain.token (tx.treasuryEnv caller) where
  current := rfl
  unsigned := tx.treasury_own caller other
  transfer h := (tokenCall_transfer_of.mp h).2.2.2

/-- The registry hears its own calls; every other step moves tokens, none of them the
registry's. -/
theorem registry_takes (s : State Address) (action : Action chain) :
    RelayRegistry.machine.Takes (TokenStep chain.registry chain.token (· ≤ ·)) answered
      s.registryWorld (registryCalls ((machine ed25519 chain).record s action))
      ((machine ed25519 chain).step s action).2.registryWorld := by
  have unsigned (tx : Tx chain) : tx.authorised none chain.registry ≠ true := by
    rw [tx.registry_own none nofun]
    decide
  have spared (free : ¬ action.Charges chain.registry) :
      s.tokens chain.registry ≤
        ((machine ed25519 chain).step s action).2.tokens chain.registry :=
    tokens_step action free
  cases action with
  | distributor tx c =>
      exact takes_elsewhere (spared (not_or.mpr ⟨unsigned tx, chain.registry_ne_distributor⟩))
  | treasury tx c =>
      exact takes_elsewhere (spared (not_or.mpr ⟨unsigned tx, chain.registry_ne_treasury⟩))
  | transfer tx sender recipient amount => exact takes_elsewhere (spared (unsigned tx))
  | registry tx c =>
      have heard : registryCalls ((machine ed25519 chain).record s (.registry tx c)) =
          answered (RelayRegistry.machine.record s.registryWorld (.call tx.registryEnv c)) := by
        simp only [registryCalls, answered, Machine.record, machine, Prod.map_fst]
        rcases (RelayRegistry.machine.step s.registryWorld (.call tx.registryEnv c)).1 with
          _ | e | v <;> rfl
      rw [heard]
      exact Takes.step (m := RelayRegistry.machine) (a := .call tx.registryEnv c)
        (tokenEnv_registry tx)
  | resolver tx c => exact .refl _
  | setPublicKey address publicKey => exact .refl _

/-- The resolver hears its own calls, and holds no tokens. -/
theorem resolver_takes (s : State Address) (action : Action chain) :
    (DisputeResolver.machine ed25519).Takes (fun _ => True) answered
      s.resolver (resolverCalls ((machine ed25519 chain).record s action))
      ((machine ed25519 chain).step s action).2.resolver := by
  cases action with
  | resolver tx c =>
      have heard : resolverCalls ((machine ed25519 chain).record s (.resolver tx c)) =
          answered ((DisputeResolver.machine ed25519).record s.resolver
            (.call tx.resolverEnv c)) := by
        simp only [resolverCalls, answered, Machine.record, machine, Prod.map_fst]
        rcases ((DisputeResolver.machine ed25519).step s.resolver (.call tx.resolverEnv c)).1 with
          _ | e | v <;> rfl
      rw [heard]
      exact Takes.step (m := DisputeResolver.machine ed25519) (a := .call tx.resolverEnv c) trivial
  | setPublicKey address publicKey =>
      exact Takes.step (m := DisputeResolver.machine ed25519)
        (a := .provision (.setPublicKey address publicKey)) trivial
  | _ => exact .refl _

/-- The distributor hears its own calls; its outside is the treasury with all tokens. -/
theorem distributor_takes (s : State Address) (action : Action chain) :
    FeeDistributor.machine.Takes (fun _ => True) answered
      s.settlement (distributorCalls ((machine ed25519 chain).record s action))
      ((machine ed25519 chain).step s action).2.settlement := by
  have moves (t : Treasury.State Address (Balances Address)) :
      FeeDistributor.machine.Takes (fun _ => True) answered s.settlement []
        { s.settlement with outside := t } :=
    Takes.step (m := FeeDistributor.machine) (a := .elsewhere t) trivial
  cases action with
  | distributor tx c =>
      have heard : distributorCalls ((machine ed25519 chain).record s (.distributor tx c)) =
          answered (FeeDistributor.machine.record s.settlement (.call tx.distributorEnv c)) := by
        simp only [distributorCalls, answered, Machine.record, machine, settle, Settlement.machine,
          Prod.map_fst]
        rcases (FeeDistributor.machine.step s.settlement (.call tx.distributorEnv c)).1 with
          _ | e | v <;> rfl
      rw [heard]
      exact Takes.step (m := FeeDistributor.machine) (a := .call tx.distributorEnv c) trivial
  | treasury tx c => exact moves _
  | transfer tx sender recipient amount =>
      have step : ((machine ed25519 chain).step s
          (.transfer tx sender recipient amount)).2.settlement =
          ((Settlement.machine chain.toChain).step s.settlement
            (.transfer tx.toTx sender recipient amount)).2 := rfl
      rw [step]
      rcases transfer_cases tx sender recipient amount s.settlement with ⟨-, -, after⟩ | same
      · rw [after]
        exact moves _
      · rw [same]
        exact .refl _
  | registry tx c => exact moves _
  | resolver tx c => exact .refl _
  | setPublicKey address publicKey => exact .refl _

/-- The record of a call of the distributor. -/
theorem record_distributor (ed25519 : DisputeResolver.Ed25519) (tx : Tx chain)
    (c : FeeDistributor.Call Address) (s : State Address) :
    (∃ v t, Returns (FeeDistributor.dispatch tx.distributorEnv c) s.settlement v t ∧
        (machine ed25519 chain).record s (.distributor tx c) =
          ⟨s, .distributor tx c, .settlement (.distributor (some (.ok v))),
            { s with settlement := t }⟩) ∨
      ∃ e, (machine ed25519 chain).record s (.distributor tx c) =
        ⟨s, .distributor tx c, .settlement (.distributor (some (.error e))), s⟩ := by
  have record {reply : Settlement.Reply Address} {t : Settlement.State Address}
      (h : (Settlement.machine chain.toChain).record s.settlement (.distributor tx.toTx c) =
        ⟨s.settlement, .distributor tx.toTx c, reply, t⟩) :
      (machine ed25519 chain).record s (.distributor tx c) =
        ⟨s, .distributor tx c, .settlement reply, { s with settlement := t }⟩ := by
    obtain ⟨-, -, hreply, hafter⟩ := Record.mk.inj h
    simp only [Machine.record, machine, settle, Prod.map_fst, Prod.map_snd, hreply, hafter]
  rcases Settlement.record_distributor tx.toTx c s.settlement with ⟨v, t, h, hrecord⟩ | ⟨e, hrecord⟩
  · exact Or.inl ⟨v, t, h, record hrecord⟩
  · exact Or.inr ⟨e, record hrecord⟩

/-- What the treasury sees of a call of the distributor: tokens move, and a share that is
paid is then deposited with it. -/
theorem distribution_takes {t t' : Settlement.State Address} {share : Option I128}
    (effect : DistributorEffect tx t t' share) :
    Treasury.machine.Takes (TokenStep chain.treasury chain.token (· ≤ ·)) answered t.outside
      (share.toList.map fun share =>
        (tx.treasuryEnv (some chain.distributor), .deposit chain.distributor share, .unit))
      t'.outside := by
  have unsigned : tx.authorised none chain.treasury = false := tx.treasury_own none nofun
  cases effect with
  | moves after spends =>
      rw [after]
      exact takes_elsewhere (spends _ unsigned chain.treasury_ne_distributor)
  | @deposits share b spends deposit =>
      have moved : Treasury.machine.Takes (TokenStep chain.treasury chain.token (· ≤ ·)) answered
          t.outside [] (Settlement.withBalances t.outside b) :=
        takes_elsewhere (spends _ unsigned chain.treasury_ne_distributor)
      have tokens : TokenEnv chain.treasury chain.token
          (tx.treasuryEnv (some chain.distributor)) :=
        tokenEnv_treasury tx fun same =>
          chain.treasury_ne_distributor (Option.some.inj same).symm
      exact moved.trans (takes_call tokens (returns_bind_pure.mpr ⟨(), deposit, rfl⟩))

/-- The treasury hears its own calls and the deposits of the distributor. -/
theorem treasury_takes (s : State Address) (action : Action chain) :
    Treasury.machine.Takes (TokenStep chain.treasury chain.token (· ≤ ·)) answered
      s.treasury (treasuryCalls ((machine ed25519 chain).record s action))
      ((machine ed25519 chain).step s action).2.treasury := by
  have unsigned (tx : Tx chain) : tx.authorised none chain.treasury ≠ true := by
    rw [tx.treasury_own none nofun]
    decide
  -- The treasury has no key to sign with, so only a call of the treasury itself charges it.
  have spared (free : ¬ action.Charges chain.treasury) :
      s.tokens chain.treasury ≤
        ((machine ed25519 chain).step s action).2.tokens chain.treasury :=
    tokens_step action free
  cases action with
  | treasury tx c =>
      have heard : treasuryCalls ((machine ed25519 chain).record s (.treasury tx c)) =
          answered (Treasury.machine.record s.treasury (.call (tx.treasuryEnv none) c)) := by
        simp only [treasuryCalls, answered, Machine.record, machine, settle, Settlement.machine,
          Prod.map_fst, State.treasury]
        rcases (Treasury.machine.step s.settlement.outside (.call (tx.treasuryEnv none) c)).1 with
          _ | e | v <;> rfl
      rw [heard]
      exact Takes.step (m := Treasury.machine) (a := .call (tx.treasuryEnv none) c)
        (tokenEnv_treasury tx nofun)
  | distributor tx c =>
      rw [← Machine.record_after]
      rcases record_distributor ed25519 tx c s with ⟨v, t, h, hrecord⟩ | ⟨e, hrecord⟩
      · rw [hrecord]
        exact distribution_takes (distributor_effect h)
      · rw [hrecord]
        exact .refl _
  | transfer tx sender recipient amount =>
      have step : ((machine ed25519 chain).step s
          (.transfer tx sender recipient amount)).2.settlement =
          ((Settlement.machine chain.toChain).step s.settlement
            (.transfer tx.toTx sender recipient amount)).2 := rfl
      -- A transfer at the root of a transaction can only bring tokens to the treasury.
      have held := spared (unsigned tx)
      rw [State.tokens, State.tokens, step] at held
      rw [State.treasury, State.treasury, step]
      rcases transfer_cases tx sender recipient amount s.settlement with ⟨-, -, after⟩ | same
      · rw [after] at held ⊢
        exact takes_elsewhere held
      · rw [same]
        exact .refl _
  | registry tx c =>
      exact takes_elsewhere (spared (not_or.mpr ⟨unsigned tx, chain.registry_ne_treasury.symm⟩))
  | resolver tx c => exact .refl _
  | setPublicKey address publicKey => exact .refl _

end Step

/-! ## Runs

By induction over the run: the step lemmas of the four contracts are put one after another.
-/

section Runs

variable (ed25519 : DisputeResolver.Ed25519) (s : State Address) (as : List (Action chain))

/-- A run of the system, as the registry sees it. -/
theorem registry_run :
    RelayRegistry.machine.Takes (TokenStep chain.registry chain.token (· ≤ ·)) answered
      s.registryWorld (((machine ed25519 chain).trace s as).flatMap registryCalls)
      ((machine ed25519 chain).run s as).registryWorld :=
  takes_run State.registryWorld registryCalls registry_takes s as

/-- A run of the system, as the treasury sees it. -/
theorem treasury_run :
    Treasury.machine.Takes (TokenStep chain.treasury chain.token (· ≤ ·)) answered
      s.treasury (((machine ed25519 chain).trace s as).flatMap treasuryCalls)
      ((machine ed25519 chain).run s as).treasury :=
  takes_run State.treasury treasuryCalls treasury_takes s as

/-- **A run of the system is a run of each of its contracts.**  What a contract hears are the
calls of it that returned, with their values; the treasury also hears of a deposit for every
distribution that pays it a share.  To the two contracts that keep tokens the rest of the
chain behaves as `TokenStep` says. -/
theorem contracts_run :
    let trace := (machine ed25519 chain).trace s as
    let reached := (machine ed25519 chain).run s as
    RelayRegistry.machine.Takes (TokenStep chain.registry chain.token (· ≤ ·)) answered
        s.registryWorld (trace.flatMap registryCalls) reached.registryWorld ∧
      Treasury.machine.Takes (TokenStep chain.treasury chain.token (· ≤ ·)) answered
        s.treasury (trace.flatMap treasuryCalls) reached.treasury ∧
      FeeDistributor.machine.Takes (fun _ => True) answered
        s.settlement (trace.flatMap distributorCalls) reached.settlement ∧
      (DisputeResolver.machine ed25519).Takes (fun _ => True) answered
        s.resolver (trace.flatMap resolverCalls) reached.resolver :=
  ⟨registry_run ed25519 s as, treasury_run ed25519 s as,
    takes_run State.settlement distributorCalls distributor_takes s as,
    takes_run State.resolver resolverCalls resolver_takes s as⟩

end Runs

end StellarConduit.Protocol
