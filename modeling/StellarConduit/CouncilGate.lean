import StellarConduit.RelayRegistry.Invariant
import StellarConduit.Treasury.History
import StellarConduit.FeeDistributor.Earnings
import Mathlib.Data.Finset.Card

/-!
# The council gate of three contracts

Registry, treasury and fee distributor gate their privileged calls by the same
loop over the member list.  The loop counts positions: it asks for the first
`threshold` entries of the list, whoever else has signed and whether or not the
entries differ.  Both ways in which this is not a vote of `threshold` out of all
members are exact conditions on the council.

Asking is `require_auth`, which traps where the signature is missing.  A loop that means to count
the members who have signed therefore never gets past one who has not: it stops at the first
entries of the list, and if all of these have signed it has counted enough.  The order of the
members decides who has a veto, and the members after the first `threshold` are never asked.

A council is checked at `initialize`, for a positive threshold that is not larger than the list.
It is not checked for repetitions.  With the same address twice among the first entries, one
signature counts twice.

The results are stated once for a gate, as a relation between environments and worlds, and then
instantiated by the three contracts: what they share is that the stored council is asked before
anything else is done, which is `StartsWith`.

## Main definitions

* `firstMembers` — the members that the gate asks.
* `Gated` — for each contract, the calls behind the gate.
* `SoundGate` — whoever passes has signed with `threshold` different members.

## Main results

* `gate_passes_iff_firstMembers` — signers of sufficient number pass exactly when
  the first `threshold` members are among them.
* `gate_sound_iff_nodup` — passing implies `threshold` different signers exactly
  when the first `threshold` entries are different.
-/

namespace StellarConduit

open Soroban Contract

/-! ## Approvals -/

section Approvals

variable {Address X : Type}

/-- The entries of the member list that the loop visits. -/
def firstMembers (council : AdminCouncil Address) : List Address :=
  council.members.take council.threshold.val.toNat

/-- A checked council has as many members as its threshold. -/
theorem length_firstMembers {council : AdminCouncil Address} (accepted : ¬ council.Invalid) :
    ((firstMembers council).length : Int) = council.threshold.val := by
  obtain ⟨positive, enough⟩ := AdminCouncil.not_invalid_iff.mp accepted
  rw [firstMembers, List.length_take]
  omega

variable [DecidableEq Address]

/-- The members of the council that have authorised the call. -/
def approvers (env : Env Address X) (council : AdminCouncil Address) : Finset Address :=
  council.members.toFinset.filter fun m => env.authorised m = true

/-- Whoever passes the gate has the approval of `threshold` different members. -/
def SoundGate (council : AdminCouncil Address) (passes : Env Address X → Prop) : Prop :=
  ∀ env, passes env → council.threshold.val ≤ (approvers env council).card

/-- A gate that asks for the first members is sound exactly when these differ. -/
theorem soundGate_iff_nodup {council : AdminCouncil Address} (accepted : ¬ council.Invalid)
    {passes : Env Address X → Prop}
    (gate : ∀ env, passes env ↔ ∀ m ∈ firstMembers council, env.authorised m = true) :
    SoundGate council passes ↔ (firstMembers council).Nodup := by
  have length := length_firstMembers accepted
  constructor
  · -- Let the visited entries, and nobody else, authorise the call.
    intro sound
    have positive := (AdminCouncil.not_invalid_iff.mp accepted).1
    obtain ⟨self, -⟩ := List.exists_mem_of_length_pos (l := firstMembers council) (by omega)
    let env : Env Address X :=
      { currentContract := self
        sequence := 0
        timestamp := 0
        authorised := fun a => decide (a ∈ firstMembers council)
        invokeContract := fun _ _ _ _ => none }
    have visited : approvers env council = (firstMembers council).toFinset := by
      ext a
      simp only [approvers, Finset.mem_filter, List.mem_toFinset, env, decide_eq_true_eq]
      exact and_iff_right_of_imp fun ha => List.mem_of_mem_take ha
    have count := sound env ((gate env).mpr fun m hm => decide_eq_true hm)
    rw [visited, ← length] at count
    have atMost := List.toFinset_card_le (firstMembers council)
    exact Multiset.coe_nodup.mp
      (Multiset.toFinset_card_eq_card_iff_nodup.mp (le_antisymm atMost (by exact_mod_cast count)))
  · intro distinct env hpasses
    have visited : (firstMembers council).toFinset ⊆ approvers env council := by
      intro a ha
      have ha := List.mem_toFinset.mp ha
      simp only [approvers, Finset.mem_filter, List.mem_toFinset]
      exact ⟨List.mem_of_mem_take ha, (gate env).mp hpasses a ha⟩
    have count := Finset.card_le_card visited
    rw [List.toFinset_card_of_nodup distinct] at count
    rw [← length]
    exact_mod_cast count

end Approvals

/-! ## The stored council -/

namespace RelayRegistry

variable {Address X : Type} {env : Env Address X} {w : State Address X}
  {council : AdminCouncil Address}

/-- The calls that need the council. -/
def Gated : Call Address → Prop
  | .slash _ _ | .reinstateNode _ => True
  | _ => False

/-- Every gated call of the registry starts with the gate. -/
theorem gated_startsWith [DecidableEq Address] {c : Call Address} (h : Gated c) :
    StartsWith (requireCouncilAuth env) (dispatch env c) := by
  cases c with
  | slash a reason => exact startsWith_bind ⟨_, rfl⟩ _
  | reinstateNode a => exact startsWith_bind ⟨_, rfl⟩ _
  | _ => exact h.elim

/-- The registry's gate asks the council that it has stored. -/
theorem gate_passes_iff (stored : w.storage.adminCouncil = some council)
    (accepted : ¬ council.Invalid) :
    (∃ w', Returns (requireCouncilAuth env) w () w') ↔
      ∀ m ∈ firstMembers council, env.authorised m = true := by
  simp only [returns_requireCouncilAuth, CouncilPasses, stored, Option.some.injEq,
    exists_eq_left', returns_requireAuthOfCouncil accepted, and_true, exists_eq_right]
  rfl

/-- The stored council is the one given to `initialize`, in every reached state. -/
theorem adminCouncil_run [DecidableEq Address] {minStake : I128} {stakeLockPeriod : U32} {x : X}
    {u : Unit}
    (h : Returns (initializeContract council minStake stakeLockPeriod) (freshState x) u w)
    (as : List (Action Address X (Call Address) (Provision Address))) :
    (machine.run w as).storage.adminCouncil = some council ∧ ¬ council.Invalid :=
  ⟨(invariant_run h as).adminCouncil, (returns_initializeContract_freshState.mp h).2.2.1⟩

end RelayRegistry

namespace Treasury

variable {Address X : Type} {env : Env Address X} {w w' : State Address X}
  {council : AdminCouncil Address}

/-- The calls that need the council. -/
def Gated : Call Address → Prop
  | .withdraw _ _ _ | .createProgram _ _ | .updateProgramBudget _ _ | .deactivateProgram _
  | .allocate _ _ => True
  | _ => False

/-- Every gated call of the treasury starts with the gate. -/
theorem gated_startsWith {c : Call Address} (h : Gated c) :
    StartsWith (requireCouncilAuth env) (dispatch env c) := by
  cases c with
  | withdraw toAddress amount memo => exact startsWith_bind ⟨_, rfl⟩ _
  | createProgram name budget => exact startsWith_bind ⟨_, rfl⟩ _
  | updateProgramBudget id newBudget => exact startsWith_bind ⟨_, rfl⟩ _
  | deactivateProgram id => exact startsWith_bind ⟨_, rfl⟩ _
  | allocate id amount => exact startsWith_bind ⟨_, rfl⟩ _
  | _ => exact h.elim

/-- The treasury's gate asks the council that it has stored. -/
theorem gate_passes_iff (stored : w.storage.adminCouncil = some council)
    (accepted : ¬ council.Invalid) :
    (∃ w', Returns (requireCouncilAuth env) w () w') ↔
      ∀ m ∈ firstMembers council, env.authorised m = true := by
  simp only [returns_requireCouncilAuth, CouncilPasses, stored, Option.some.injEq,
    exists_eq_left', returns_requireAuthOfCouncil accepted, and_true, exists_eq_right]
  rfl

/-- A call that returns leaves a stored council alone. -/
theorem adminCouncil_call {c : Call Address} {v : Value Address}
    (stored : w.storage.adminCouncil = some council) (h : Returns (dispatch env c) w v w') :
    w'.storage.adminCouncil = some council := by
  have initialized : w.storage.adminCouncil.isSome := by rw [stored]; rfl
  rw [(outcome_of_returns initialized h).adminCouncil, stored]

/-- The stored council is the one given to `initialize`, in every reached state. -/
theorem adminCouncil_run {tokenAddress : Address} {x : X} {u : Unit}
    (h : Returns (initializeContract council tokenAddress) (freshState x) u w)
    (as : List (Action Address X (Call Address) Empty)) :
    (machine.run w as).storage.adminCouncil = some council ∧ ¬ council.Invalid := by
  obtain ⟨accepted, rfl⟩ := returns_initializeContract_freshState.mp h
  refine ⟨?_, accepted⟩
  exact machine.run_invariant (fun w => w.storage.adminCouncil = some council)
    (fun w action stored => Deployed.step_storage (fun s => s.adminCouncil = some council)
      (fun _ _ _ _ _ => adminCouncil_call) (fun p => p.elim) w action stored)
    (s := initialState council tokenAddress x) rfl as

end Treasury

namespace FeeDistributor

variable {Address X : Type} {env : Env Address X} {w w' : State Address X}
  {council : AdminCouncil Address}

/-- The calls that need the council. -/
def Gated : Call Address → Prop
  | .setFeeRate _ => True
  | _ => False

/-- The gate of `set_fee_rate`: the council is part of the configuration. -/
def configuredCouncilAuth (env : Env Address X) : Distributor Address X (FeeConfig Address) := do
  let config ← getFeeConfig
  requireCouncilAuth env config.council
  pure config

/-- The gated call of the distributor starts with the gate. -/
theorem gated_startsWith [DecidableEq Address] {c : Call Address} (h : Gated c) :
    StartsWith (configuredCouncilAuth env) (dispatch env c) := by
  cases c with
  | setFeeRate newFeeRateBps =>
      refine startsWith_bind ⟨fun config => do
        rejectIf (newFeeRateBps = 0 ∨ newFeeRateBps > 10000) .invalidFeeRate
        setFeeConfig { config with feeRateBps := newFeeRateBps }
        publish (.setFeeRate newFeeRateBps), ?_⟩ _
      simp only [setFeeRate, configuredCouncilAuth, bind_assoc]
      rfl
  | _ => exact h.elim

/-- The distributor's gate asks the council of its configuration. -/
theorem gate_passes_iff (stored : w.storage.feeConfig.map FeeConfig.council = some council)
    (accepted : ¬ council.Invalid) :
    (∃ config w', Returns (configuredCouncilAuth env) w config w') ↔
      ∀ m ∈ firstMembers council, env.authorised m = true := by
  obtain ⟨config, hconfig, rfl⟩ := Option.map_eq_some_iff.mp stored
  simp only [configuredCouncilAuth, requireCouncilAuth, returns_bind, returns_getFeeConfig, hconfig,
    Option.some.injEq, returns_pure]
  constructor
  · rintro ⟨_, _, _, _, ⟨rfl, rfl⟩, _, _, hauth, -⟩
    exact ((returns_requireAuthOfCouncil accepted).mp hauth).1
  · intro hauth
    exact ⟨config, w, config, w, ⟨rfl, rfl⟩, (), w,
      (returns_requireAuthOfCouncil accepted).mpr ⟨hauth, rfl⟩, rfl, rfl⟩

/-- A call that returns leaves the configured council alone. -/
theorem council_call [DecidableEq Address] {c : Call Address} {v : Value}
    (stored : w.storage.feeConfig.map FeeConfig.council = some council)
    (h : Returns (dispatch env c) w v w') :
    w'.storage.feeConfig.map FeeConfig.council = some council := by
  have configured : w.storage.feeConfig.isSome := by
    rw [← Option.isSome_map (f := FeeConfig.council), stored]
    rfl
  rw [(outcome_of_returns configured h).council, stored]

/-- The configured council is the one given to `initialize`, in every reached
state. -/
theorem council_run [DecidableEq Address] {feeRateBps treasuryShareBps : U32}
    {treasury token : Address} {x : X} {u : Unit}
    (h : Returns (initializeContract council feeRateBps treasuryShareBps treasury token)
      (freshState x) u w)
    (as : List (Action Address X (Call Address) Empty)) :
    (machine.run w as).storage.feeConfig.map FeeConfig.council = some council ∧
      ¬ council.Invalid := by
  obtain ⟨-, accepted, rfl⟩ := returns_initializeContract_freshState.mp h
  refine ⟨?_, accepted⟩
  exact machine.run_invariant
    (fun w => w.storage.feeConfig.map FeeConfig.council = some council)
    (fun w action stored => Deployed.step_storage
      (fun s => s.feeConfig.map FeeConfig.council = some council)
      (fun _ _ _ _ _ => council_call) (fun p => p.elim) w action stored)
    (s := initialState council feeRateBps treasuryShareBps treasury token x) rfl as

end FeeDistributor

/-! ## The gate of the three contracts -/

section Gates

variable {Address X : Type} [DecidableEq Address] {council : AdminCouncil Address}
  {minStake : I128} {stakeLockPeriod feeRateBps treasuryShareBps : U32}
  {tokenAddress treasury token : Address} {x : X} {u : Unit}
  {registry : RelayRegistry.State Address X} {treasuryState : Treasury.State Address X}
  {distributor : FeeDistributor.State Address X}

/-- **Signers pass the gate exactly when the first members are among them.**  Let a
set of addresses authorise a call, and nobody else.  In every reached state of the
three contracts the gate returns if and only if the first `threshold` entries of the
list are in the set; how many other members are does not matter. -/
theorem gate_passes_iff_firstMembers
    (hregistry : Returns (RelayRegistry.initializeContract council minStake stakeLockPeriod)
      (RelayRegistry.freshState x) u registry)
    (htreasury : Returns (Treasury.initializeContract council tokenAddress)
      (Treasury.freshState x) u treasuryState)
    (hdistributor : Returns (FeeDistributor.initializeContract council feeRateBps
      treasuryShareBps treasury token) (FeeDistributor.freshState x) u distributor)
    (as bs cs) {S : Finset Address} {env : Env Address X}
    (signers : ∀ a, env.authorised a = true ↔ a ∈ S) :
    ((∃ w', Returns (RelayRegistry.requireCouncilAuth env)
        (RelayRegistry.machine.run registry as) () w') ↔ ∀ m ∈ firstMembers council, m ∈ S) ∧
      ((∃ w', Returns (Treasury.requireCouncilAuth env)
        (Treasury.machine.run treasuryState bs) () w') ↔ ∀ m ∈ firstMembers council, m ∈ S) ∧
      ((∃ config w', Returns (FeeDistributor.configuredCouncilAuth env)
        (FeeDistributor.machine.run distributor cs) config w') ↔
          ∀ m ∈ firstMembers council, m ∈ S) := by
  obtain ⟨storedR, accepted⟩ := RelayRegistry.adminCouncil_run hregistry as
  obtain ⟨storedT, -⟩ := Treasury.adminCouncil_run htreasury bs
  obtain ⟨storedF, -⟩ := FeeDistributor.council_run hdistributor cs
  simp only [← signers]
  exact ⟨RelayRegistry.gate_passes_iff storedR accepted,
    Treasury.gate_passes_iff storedT accepted, FeeDistributor.gate_passes_iff storedF accepted⟩

/-- **The gate is sound exactly for councils whose first members differ.**  Every
gated call of the three contracts begins with its gate, and in every reached state
passing the gate implies the approval of `threshold` different members, for all
signers, if and only if the first `threshold` entries of the list are different. -/
theorem gate_sound_iff_nodup
    (hregistry : Returns (RelayRegistry.initializeContract council minStake stakeLockPeriod)
      (RelayRegistry.freshState x) u registry)
    (htreasury : Returns (Treasury.initializeContract council tokenAddress)
      (Treasury.freshState x) u treasuryState)
    (hdistributor : Returns (FeeDistributor.initializeContract council feeRateBps
      treasuryShareBps treasury token) (FeeDistributor.freshState x) u distributor)
    (as bs cs) :
    ((∀ (env : Env Address X) c, RelayRegistry.Gated c →
        StartsWith (RelayRegistry.requireCouncilAuth env) (RelayRegistry.dispatch env c)) ∧
      (∀ (env : Env Address X) c, Treasury.Gated c →
        StartsWith (Treasury.requireCouncilAuth env) (Treasury.dispatch env c)) ∧
      ∀ (env : Env Address X) c, FeeDistributor.Gated c →
        StartsWith (FeeDistributor.configuredCouncilAuth env) (FeeDistributor.dispatch env c)) ∧
    (SoundGate council (fun env => ∃ w', Returns (RelayRegistry.requireCouncilAuth env)
        (RelayRegistry.machine.run registry as) () w') ↔ (firstMembers council).Nodup) ∧
      (SoundGate council (fun env => ∃ w', Returns (Treasury.requireCouncilAuth env)
        (Treasury.machine.run treasuryState bs) () w') ↔ (firstMembers council).Nodup) ∧
      (SoundGate council (fun env => ∃ config w',
        Returns (FeeDistributor.configuredCouncilAuth env)
          (FeeDistributor.machine.run distributor cs) config w') ↔
            (firstMembers council).Nodup) := by
  obtain ⟨storedR, accepted⟩ := RelayRegistry.adminCouncil_run hregistry as
  obtain ⟨storedT, -⟩ := Treasury.adminCouncil_run htreasury bs
  obtain ⟨storedF, -⟩ := FeeDistributor.council_run hdistributor cs
  exact ⟨⟨fun _ _ => RelayRegistry.gated_startsWith, fun _ _ => Treasury.gated_startsWith,
      fun _ _ => FeeDistributor.gated_startsWith⟩,
    soundGate_iff_nodup accepted fun _ => RelayRegistry.gate_passes_iff storedR accepted,
    soundGate_iff_nodup accepted fun _ => Treasury.gate_passes_iff storedT accepted,
    soundGate_iff_nodup accepted fun _ => FeeDistributor.gate_passes_iff storedF accepted⟩

end Gates

/-! ## Two small councils -/

/-- A call signed by the addresses of `S`. -/
def signedBy (S : Finset ℕ) : Env ℕ Unit where
  currentContract := 0
  sequence := 0
  timestamp := 0
  authorised := fun a => decide (a ∈ S)
  invokeContract := fun _ _ _ _ => none

/-- On this ledger the addresses of `S` sign, and nobody else. -/
theorem authorised_signedBy (S : Finset ℕ) (a : ℕ) :
    (signedBy S).authorised a = true ↔ a ∈ S := decide_eq_true_iff

/-- Two out of three. -/
def twoOfThree : AdminCouncil ℕ := ⟨[1, 2, 3], 2⟩

/-- A council of one member, entered twice. -/
def doubleMember : AdminCouncil ℕ := ⟨[7, 7], 2⟩

section Samples

variable (council : AdminCouncil ℕ) (accepted : ¬ council.Invalid)

include accepted

theorem sample_registry :
    Returns (RelayRegistry.initializeContract council 100 10) (RelayRegistry.freshState ()) ()
      (RelayRegistry.initialState council 100 10 ()) :=
  RelayRegistry.returns_initializeContract_freshState.mpr ⟨by decide, by decide, accepted, rfl⟩

theorem sample_treasury :
    Returns (Treasury.initializeContract council 9) (Treasury.freshState ()) ()
      (Treasury.initialState council 9 ()) :=
  Treasury.returns_initializeContract_freshState.mpr ⟨accepted, rfl⟩

theorem sample_distributor :
    Returns (FeeDistributor.initializeContract council 50 1000 8 9) (FeeDistributor.freshState ())
      () (FeeDistributor.initialState council 50 1000 8 9 ()) :=
  FeeDistributor.returns_initializeContract_freshState.mpr ⟨by decide, accepted, rfl⟩

end Samples

/-- Members 1 and 2 of three pass. -/
theorem gate_passes_firstTwo :
    ∃ w', Returns (RelayRegistry.requireCouncilAuth (signedBy {1, 2}))
      (RelayRegistry.initialState twoOfThree 100 10 ()) () w' :=
  (gate_passes_iff_firstMembers (sample_registry twoOfThree (by decide))
    (sample_treasury twoOfThree (by decide)) (sample_distributor twoOfThree (by decide)) [] [] []
    (authorised_signedBy {1, 2})).1.mpr (by decide)

/-- The last two of three distinct members sign, and no contract lets them pass. -/
theorem lastTwo_rejected :
    ¬ twoOfThree.Invalid ∧ twoOfThree.members.Nodup ∧
      (∀ a ∈ ({2, 3} : Finset ℕ), a ∈ twoOfThree.members) ∧
      twoOfThree.threshold.val ≤ ({2, 3} : Finset ℕ).card ∧
      (¬ ∃ w', Returns (RelayRegistry.requireCouncilAuth (signedBy {2, 3}))
        (RelayRegistry.initialState twoOfThree 100 10 ()) () w') ∧
      (¬ ∃ w', Returns (Treasury.requireCouncilAuth (signedBy {2, 3}))
        (Treasury.initialState twoOfThree 9 ()) () w') ∧
      ¬ ∃ config w', Returns (FeeDistributor.configuredCouncilAuth (signedBy {2, 3}))
        (FeeDistributor.initialState twoOfThree 50 1000 8 9 ()) config w' := by
  refine ⟨by decide, by decide, by decide, by decide, ?_, ?_, ?_⟩
  · rw [RelayRegistry.gate_passes_iff rfl (by decide : ¬ twoOfThree.Invalid)]
    decide
  · rw [Treasury.gate_passes_iff rfl (by decide : ¬ twoOfThree.Invalid)]
    decide
  · rw [FeeDistributor.gate_passes_iff rfl (by decide : ¬ twoOfThree.Invalid)]
    decide

/-- Three different members make a sound gate. -/
theorem gate_sound_twoOfThree :
    SoundGate twoOfThree (fun env : Env ℕ Unit => ∃ w',
      Returns (RelayRegistry.requireCouncilAuth env)
        (RelayRegistry.initialState twoOfThree 100 10 ()) () w') :=
  (gate_sound_iff_nodup (sample_registry twoOfThree (by decide))
    (sample_treasury twoOfThree (by decide)) (sample_distributor twoOfThree (by decide))
    [] [] []).2.1.mpr (by decide)

/-- One member passes the gate of a council that asks for two.  The gate asks this member twice,
so it takes an authorisation that holds each time: that of a contract which is the direct caller,
or two authorisation entries of the same signer. -/
theorem doubleMember_passes :
    ¬ doubleMember.Invalid ∧ (approvers (signedBy {7}) doubleMember).card = 1 ∧
      doubleMember.threshold.val = 2 ∧
      (∃ w', Returns (RelayRegistry.requireCouncilAuth (signedBy {7}))
        (RelayRegistry.initialState doubleMember 100 10 ()) () w') ∧
      (∃ w', Returns (Treasury.requireCouncilAuth (signedBy {7}))
        (Treasury.initialState doubleMember 9 ()) () w') ∧
      ∃ config w', Returns (FeeDistributor.configuredCouncilAuth (signedBy {7}))
        (FeeDistributor.initialState doubleMember 50 1000 8 9 ()) config w' := by
  refine ⟨by decide, by decide, rfl, ?_, ?_, ?_⟩
  · exact (RelayRegistry.gate_passes_iff rfl (by decide : ¬ doubleMember.Invalid)).mpr (by decide)
  · exact (Treasury.gate_passes_iff rfl (by decide : ¬ doubleMember.Invalid)).mpr (by decide)
  · exact (FeeDistributor.gate_passes_iff rfl (by decide : ¬ doubleMember.Invalid)).mpr (by decide)

end StellarConduit
