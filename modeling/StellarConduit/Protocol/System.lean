import StellarConduit.DisputeResolver.Contract
import StellarConduit.RelayRegistry.Transition
import StellarConduit.Settlement.System
import StellarConduit.Soroban.Part

/-!
# The four contracts on one chain

The relay registry, the fee distributor, the treasury and the dispute resolver are deployed
side by side.  The first three move one token; the resolver moves none, and none of the
contracts calls the registry or the resolver.  The distributor and the treasury are those of
`Settlement`, with the token inside.

## Main definitions

* `Chain`, `Tx` — the addresses of the contracts, and what the host answers during one
  transaction.  A contract's authorisation comes with its own calls and with nothing else.
* `State`, `machine` — the system, in which any entry point of any of the contracts and any
  token transfer may be called at any time, and a relay's public key may be set.
-/

namespace StellarConduit.Protocol

open Soroban Contract

/-- The addresses of the contracts and of their token. -/
structure Chain (Address : Type) extends Settlement.Chain Address where
  registry : Address
  resolver : Address
  registry_ne_distributor : registry ≠ distributor
  registry_ne_treasury : registry ≠ treasury

variable {Address : Type}

/-- What the host and the token answer during one transaction. -/
structure Tx (chain : Chain Address) extends Settlement.Tx chain.toChain where
  /-- Only the treasury's own calls carry its authorisation. -/
  treasury_own : ∀ caller, caller ≠ some chain.treasury → authorised caller chain.treasury = false
  /-- Only the registry's own calls carry its authorisation. -/
  registry_own : ∀ caller, caller ≠ some chain.registry → authorised caller chain.registry = false
  /-- No token moves a negative amount. -/
  accepts_nonneg : ∀ {b : Balances Address} {sender recipient : Address} {amount : I128},
    accepts b sender recipient amount = true → 0 ≤ amount.val

/-- The contracts' storages and events, and the balances of the token. -/
structure State (Address : Type) where
  /-- The distributor, around the treasury, around the token. -/
  settlement : Settlement.State Address
  registry : RelayRegistry.State Address Unit
  resolver : DisputeResolver.State Address Unit

namespace State

variable (s : State Address)

/-- What everyone holds of the token. -/
def tokens : Balances Address := s.settlement.outside.outside

/-- The treasury's world. -/
def treasury : Treasury.State Address (Balances Address) := s.settlement.outside

/-- The registry's world. -/
def registryWorld : RelayRegistry.State Address (Balances Address) where
  storage := s.registry.storage
  outside := s.tokens
  events := s.registry.events

/-- The system after the registry has come to `w`. -/
def afterRegistry (w : RelayRegistry.State Address (Balances Address)) : State Address :=
  { s with
    settlement :=
      { s.settlement with outside := Settlement.withBalances s.settlement.outside w.outside }
    registry := { storage := w.storage, outside := (), events := w.events } }

@[simp] theorem registryWorld_afterRegistry (w : RelayRegistry.State Address (Balances Address)) :
    (s.afterRegistry w).registryWorld = w := rfl

end State

variable [DecidableEq Address] {chain : Chain Address}

namespace Tx

/-- The host's answers to the registry. -/
def registryEnv (tx : Tx chain) : Env Address (Balances Address) where
  currentContract := chain.registry
  sequence := tx.sequence
  timestamp := tx.timestamp
  authorised := tx.authorised none
  invokeContract contract function args b :=
    if contract = chain.token then
      tokenCall tx.accepts (tx.authorised (some chain.registry)) function args b
    else none

omit [DecidableEq Address] in
/-- The host's answers to the resolver, which calls no other contract. -/
def resolverEnv (tx : Tx chain) : Env Address Unit where
  currentContract := chain.resolver
  sequence := tx.sequence
  timestamp := tx.timestamp
  authorised := tx.authorised none
  invokeContract _ _ _ _ := none

end Tx

/-! ## The system -/

/-- A call at the root of a transaction, or a public key that is set. -/
inductive Action (chain : Chain Address) where
  | distributor (tx : Tx chain) (call : FeeDistributor.Call Address)
  | treasury (tx : Tx chain) (call : Treasury.Call Address)
  | transfer (tx : Tx chain) (sender recipient : Address) (amount : I128)
  | registry (tx : Tx chain) (call : RelayRegistry.Call Address)
  | resolver (tx : Tx chain) (call : DisputeResolver.Call Address)
  | setPublicKey (address : Address) (publicKey : BytesN 32)

/-- The answer to an action. -/
inductive Reply (Address : Type) where
  | settlement (reply : Settlement.Reply Address)
  | registry (reply : Soroban.Reply RelayRegistry.ContractError (RelayRegistry.Value Address))
  | resolver (reply : Soroban.Reply DisputeResolver.ContractError (DisputeResolver.Value Address))

/-- The step of the distributor, the treasury and the token. -/
def settle (s : State Address) (action : Settlement.Action chain.toChain) :
    Reply Address × State Address :=
  ((Settlement.machine chain.toChain).step s.settlement action).map .settlement
    fun t => { s with settlement := t }

/-- The contracts as one machine. -/
def machine (ed25519 : DisputeResolver.Ed25519) (chain : Chain Address) :
    Machine (State Address) (Action chain) (Reply Address) where
  step s
    | .distributor tx c => settle s (.distributor tx.toTx c)
    | .treasury tx c => settle s (.treasury tx.toTx c)
    | .transfer tx sender recipient amount => settle s (.transfer tx.toTx sender recipient amount)
    | .registry tx c =>
        (RelayRegistry.machine.step s.registryWorld (.call tx.registryEnv c)).map .registry
          s.afterRegistry
    | .resolver tx c =>
        ((DisputeResolver.machine ed25519).step s.resolver (.call tx.resolverEnv c)).map .resolver
          fun d => { s with resolver := d }
    | .setPublicKey address publicKey =>
        ((DisputeResolver.machine ed25519).step s.resolver
            (.provision (.setPublicKey address publicKey))).map .resolver
          fun d => { s with resolver := d }

/-- A recorded step of the system. -/
abbrev Step (chain : Chain Address) : Type := Record (State Address) (Action chain) (Reply Address)

end StellarConduit.Protocol
