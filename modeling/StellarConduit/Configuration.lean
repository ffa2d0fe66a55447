import StellarConduit.DisputeResolver.Lifecycle
import StellarConduit.FeeDistributor.Transition
import StellarConduit.RelayRegistry.Records
import StellarConduit.Soroban.Once
import StellarConduit.Treasury.Transition

/-!
# The contracts are configured once

`initialize` asks for nobody's signature; whoever calls it first sets the council and the
parameters of the contract.  What protects them from then on is that it runs only once, and
that no other entry point writes what it has set, but for the fee rate.

The argument is the same for the four contracts, and it is made once, in `Soroban.Once`.  A
contract comes with two functions: `Call.configures`, what a call would set, and `config`, what
the storage holds.  `Configures` asks for four facts about them: a configuring call that is
accepted sets what it says, one that meets a configuration is refused, every other call keeps
what is stored, and so does whatever provisions the storage from outside.  From these the library
derives what holds of every run: after an accepted `initialize` its configuration stays in
force, and each later one is answered with `AlreadyInitialized`.

Two details of the sources show in the definitions.  The registry's token is not part of its
configuration, since `initialize` does not set it.  The fee rate is not part of the
distributor's, since `set_fee_rate` may change it; its council, share and addresses are.

## Main definitions

* `Call.configures`, `config` — for each contract, what a call sets and what is set.

## Main results

* `configures_dispatch` — each of the contracts is configured by `initialize` alone.
* `configured_once` — so it is for the four contracts, in every run.
-/

namespace StellarConduit

open Soroban Contract

variable {Address X : Type}

namespace RelayRegistry

/-- The council and the parameters that a call sets. -/
def Call.configures : Call Address → Option (AdminCouncil Address × I128 × U32)
  | .initializeContract council minStake stakeLockPeriod =>
      some (council, minStake, stakeLockPeriod)
  | _ => none

/-- The council and the parameters of the registry. -/
def config (s : Storage Address) : Option (AdminCouncil Address × I128 × U32) := do
  let council ← s.adminCouncil
  let minStake ← s.minStake
  let stakeLockPeriod ← s.stakeLockPeriod
  some (council, minStake, stakeLockPeriod)

/-- A registry with a council refuses to be initialized. -/
theorem fails_initializeContract {w : State Address X} {council : AdminCouncil Address}
    {minStake : I128} {stakeLockPeriod : U32} (initialized : w.storage.adminCouncil.isSome) :
    Fails (initializeContract council minStake stakeLockPeriod) w (.error .alreadyInitialized)
      w := by
  simp [initializeContract, fails_bind, initialized]

/-- A configured registry has a council. -/
theorem initialized_of_config {s : Storage Address} (configured : (config s).isSome) :
    s.adminCouncil.isSome := by
  cases stored : s.adminCouncil with
  | none => simp [config, stored] at configured
  | some council => rfl

/-- The registry is configured by `initialize` alone. -/
theorem configures_dispatch [DecidableEq Address] :
    Configures (dispatch : Env Address X → _) provide Call.configures config
      .alreadyInitialized where
  sets {_ c} _ _ _ _ given h := by
    cases c with
    | initializeContract council minStake stakeLockPeriod =>
        obtain rfl := Option.some.inj given
        obtain ⟨_, hcall, -⟩ := returns_bind_pure.mp h
        obtain ⟨-, -, -, -, rfl⟩ := returns_initializeContract.mp hcall
        rfl
    | _ => cases given
  refuses {_ c} _ _ given configured := by
    cases c with
    | initializeContract council minStake stakeLockPeriod =>
        exact fails_bind.mpr (Or.inl (fails_initializeContract (initialized_of_config configured)))
    | _ => cases given
  keeps given h := by
    rcases configKept_call h with ⟨council, minStake, stakeLockPeriod, rfl, -⟩ | kept
    · cases given
    · rw [config, kept.adminCouncil, kept.minStake, kept.stakeLockPeriod, config]
  provides p _ := by cases p; rfl

end RelayRegistry

namespace FeeDistributor

/-- The council, the treasury's share and the addresses that a call sets. -/
def Call.configures : Call Address → Option (AdminCouncil Address × U32 × Address × Address)
  | .initializeContract council _ treasuryShareBps treasury token =>
      some (council, treasuryShareBps, treasury, token)
  | _ => none

/-- The council, the treasury's share and the addresses of the distributor. -/
def config (s : Storage Address) : Option (AdminCouncil Address × U32 × Address × Address) := do
  let fees ← s.feeConfig
  let treasury ← s.treasuryAddress
  let token ← s.tokenAddress
  some (fees.council, fees.treasuryShareBps, treasury, token)

/-- A distributor with a fee configuration refuses to be initialized. -/
theorem fails_initializeContract {w : State Address X} {council : AdminCouncil Address}
    {feeRateBps treasuryShareBps : U32} {treasury token : Address}
    (initialized : w.storage.feeConfig.isSome) :
    Fails (initializeContract council feeRateBps treasuryShareBps treasury token) w
      (.error .alreadyInitialized) w := by
  simp [initializeContract, fails_bind, initialized]

/-- A configured distributor has a fee configuration. -/
theorem initialized_of_config {s : Storage Address} (configured : (config s).isSome) :
    s.feeConfig.isSome := by
  cases stored : s.feeConfig with
  | none => simp [config, stored] at configured
  | some fees => rfl

/-- The distributor is configured by `initialize` alone, but for the fee rate. -/
theorem configures_dispatch [DecidableEq Address] :
    Configures (dispatch : Env Address X → _) provide Call.configures config
      .alreadyInitialized where
  sets {_ c} _ _ _ _ given h := by
    cases c with
    | initializeContract council feeRateBps treasuryShareBps treasury token =>
        obtain rfl := Option.some.inj given
        obtain ⟨_, hcall, -⟩ := returns_bind_pure.mp h
        obtain ⟨-, -, -, rfl⟩ := returns_initializeContract.mp hcall
        rfl
    | _ => cases given
  refuses {_ c} _ _ given configured := by
    cases c with
    | initializeContract council feeRateBps treasuryShareBps treasury token =>
        exact fails_bind.mpr (Or.inl (fails_initializeContract (initialized_of_config configured)))
    | _ => cases given
  keeps {_ c} _ _ _ given h := by
    cases c with
    | initializeContract council feeRateBps treasuryShareBps treasury token => cases given
    | calculateFee batchSize | getEarnings a => rw [world_eq_of_reads h trivial]
    | distribute a batchId batchSize =>
        obtain ⟨_, hcall, -⟩ := returns_bind_pure.mp h
        obtain ⟨-, -, _, -, _, -, _, -, _, -, _, -, _, -, _, -, rfl⟩ := returns_distribute.mp hcall
        rfl
    | claim a =>
        obtain ⟨_, hcall, -⟩ := returns_bind_pure.mp h
        obtain ⟨-, -, -, _, -, _, -, _, -, rfl⟩ := returns_claim.mp hcall
        rfl
    | setFeeRate newFeeRateBps =>
        -- The one entry point that writes a part of what `initialize` has set.
        obtain ⟨_, hcall, -⟩ := returns_bind_pure.mp h
        obtain ⟨-, -, fees, stored, rfl⟩ := returns_setFeeRate.mp hcall
        simp [config, stored]
  provides p := p.elim

end FeeDistributor

namespace Treasury

/-- The council and the token that a call sets. -/
def Call.configures : Call Address → Option (AdminCouncil Address × Address)
  | .initializeContract council tokenAddress => some (council, tokenAddress)
  | _ => none

/-- The council and the token of the treasury. -/
def config (s : Storage Address) : Option (AdminCouncil Address × Address) := do
  let council ← s.adminCouncil
  let tokenAddress ← s.tokenAddress
  some (council, tokenAddress)

/-- A treasury with a council refuses to be initialized. -/
theorem fails_initializeContract {w : State Address X} {council : AdminCouncil Address}
    {tokenAddress : Address} (initialized : w.storage.adminCouncil.isSome) :
    Fails (initializeContract council tokenAddress) w (.error .alreadyInitialized) w := by
  simp [initializeContract, fails_bind, initialized]

/-- A configured treasury has a council. -/
theorem initialized_of_config {s : Storage Address} (configured : (config s).isSome) :
    s.adminCouncil.isSome := by
  cases stored : s.adminCouncil with
  | none => simp [config, stored] at configured
  | some council => rfl

/-- The treasury is configured by `initialize` alone. -/
theorem configures_dispatch :
    Configures (dispatch : Env Address X → _) provide Call.configures config
      .alreadyInitialized where
  sets {_ c} _ _ _ _ given h := by
    cases c with
    | initializeContract council tokenAddress =>
        obtain rfl := Option.some.inj given
        obtain ⟨_, hcall, -⟩ := returns_bind_pure.mp h
        obtain ⟨-, -, rfl⟩ := returns_initializeContract.mp hcall
        rfl
    | _ => cases given
  refuses {_ c} _ _ given configured := by
    cases c with
    | initializeContract council tokenAddress =>
        exact fails_bind.mpr (Or.inl (fails_initializeContract (initialized_of_config configured)))
    | _ => cases given
  keeps {_ c} _ _ _ given h := by
    cases c with
    | initializeContract council tokenAddress => cases given
    | getBalance | getHistory entryId | getProgram programId | getTreasuryStats =>
        rw [world_eq_of_reads h trivial]
    | deposit fromAddress amount =>
        obtain ⟨_, hcall, -⟩ := returns_bind_pure.mp h
        -- The calls that write do so in other fields: council and token are those of before.
        obtain ⟨-, -, _, -, _, -, _, -, _, -, _, -, rfl⟩ := returns_deposit.mp hcall
        rfl
    | withdraw toAddress amount memo =>
        obtain ⟨_, hcall, -⟩ := returns_bind_pure.mp h
        obtain ⟨-, -, -, _, -, _, -, _, -, _, -, _, -, rfl⟩ := returns_withdraw.mp hcall
        rfl
    | createProgram name budget =>
        obtain ⟨_, hcall, -⟩ := returns_bind_pure.mp h
        obtain ⟨-, -, -, -, rfl⟩ := returns_createProgram.mp hcall
        rfl
    | updateProgramBudget programId newBudget =>
        obtain ⟨_, hcall, -⟩ := returns_bind_pure.mp h
        obtain ⟨-, program, -, -, rfl⟩ := returns_updateProgramBudget.mp hcall
        rfl
    | deactivateProgram programId =>
        obtain ⟨_, hcall, -⟩ := returns_bind_pure.mp h
        obtain ⟨-, program, -, rfl⟩ := returns_deactivateProgram.mp hcall
        rfl
    | allocate programId amount =>
        obtain ⟨_, hcall, -⟩ := returns_bind_pure.mp h
        obtain ⟨-, -, _, -, -, _, -, -, -, _, -, _, -, _, -, rfl⟩ := returns_allocate.mp hcall
        rfl
  provides p := p.elim

end Treasury

namespace DisputeResolver

/-- The council and the resolution window that a call sets. -/
def Call.configures : Call Address → Option (AdminCouncil Address × U32)
  | .initializeContract council resolutionWindow => some (council, resolutionWindow)
  | _ => none

/-- The council and the resolution window of the resolver. -/
def config (s : Storage Address) : Option (AdminCouncil Address × U32) := do
  let council ← s.adminCouncil
  let resolutionWindow ← s.resolutionWindow
  some (council, resolutionWindow)

/-- A resolver with a council refuses to be initialized. -/
theorem fails_initializeContract {w : State Address X} {council : AdminCouncil Address}
    {resolutionWindow : U32} (initialized : w.storage.adminCouncil.isSome) :
    Fails (initializeContract council resolutionWindow) w (.error .alreadyInitialized) w := by
  simp [initializeContract, fails_bind, initialized]

/-- A configured resolver has a council. -/
theorem initialized_of_config {s : Storage Address} (configured : (config s).isSome) :
    s.adminCouncil.isSome := by
  cases stored : s.adminCouncil with
  | none => simp [config, stored] at configured
  | some council => rfl

/-- The resolver is configured by `initialize` alone. -/
theorem configures_dispatch [DecidableEq Address] (ed25519 : Ed25519) :
    Configures (dispatch ed25519 : Env Address X → _) provide Call.configures config
      .alreadyInitialized where
  sets {_ c} _ _ _ _ given h := by
    cases c with
    | initializeContract council resolutionWindow =>
        obtain rfl := Option.some.inj given
        obtain ⟨_, hcall, -⟩ := returns_bind_pure.mp h
        obtain ⟨-, -, -, rfl⟩ := returns_initializeContract.mp hcall
        rfl
    | _ => cases given
  refuses {_ c} _ _ given configured := by
    cases c with
    | initializeContract council resolutionWindow =>
        exact fails_bind.mpr (Or.inl (fails_initializeContract (initialized_of_config configured)))
    | _ => cases given
  keeps given h := by
    rcases initializes_or_outcome h with ⟨council, resolutionWindow, rfl, -⟩ | outcome
    · cases given
    cases outcome with
    | raiseDispute hcall =>
        obtain ⟨-, -, -, -, _, -, rfl⟩ := returns_raiseDispute.mp hcall
        rfl
    | respond hcall =>
        obtain ⟨-, _, -, -, -, -, rfl⟩ := returns_respond.mp hcall
        rfl
    | resolve hcall =>
        obtain ⟨_, -, -, -, rfl⟩ := resolve_cases hcall
        rfl
    | read => rfl
  provides p _ := by cases p; rfl

end DisputeResolver

/-- **Each contract is configured once.**  In any run from any state, once an `initialize` has
returned, the council and the parameters that it was given stay as they are, and whoever calls
`initialize` again, with whatever arguments, is answered `AlreadyInitialized`. -/
theorem configured_once [DecidableEq Address] (ed25519 : DisputeResolver.Ed25519) :
    ConfiguredOnce (RelayRegistry.machine : Machine (RelayRegistry.State Address X) _ _)
        RelayRegistry.Call.configures RelayRegistry.config .alreadyInitialized ∧
      ConfiguredOnce (FeeDistributor.machine : Machine (FeeDistributor.State Address X) _ _)
        FeeDistributor.Call.configures FeeDistributor.config .alreadyInitialized ∧
      ConfiguredOnce (Treasury.machine : Machine (Treasury.State Address X) _ _)
        Treasury.Call.configures Treasury.config .alreadyInitialized ∧
      ConfiguredOnce
        (DisputeResolver.machine ed25519 : Machine (DisputeResolver.State Address X) _ _)
        DisputeResolver.Call.configures DisputeResolver.config .alreadyInitialized :=
  ⟨RelayRegistry.configures_dispatch.configuredOnce,
    FeeDistributor.configures_dispatch.configuredOnce,
    Treasury.configures_dispatch.configuredOnce,
    (DisputeResolver.configures_dispatch ed25519).configuredOnce⟩

end StellarConduit
