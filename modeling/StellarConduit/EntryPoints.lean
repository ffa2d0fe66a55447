import StellarConduit.RelayRegistry.StakeLedger
import StellarConduit.DisputeResolver.Resolution

/-!
# What the entry points leave unset

Two storage records are read with `expect` and written by no entry point: the token
address of the registry and the public keys of the dispute resolver.  Their setters
exist as storage helpers, which the tests call from inside the contract.  In a run
that consists of entry points alone the records are still missing at its end, and the
calls that need them trap.

## Main results

* `stake_traps` — no stake goes through in a registry that is reached by its entry
  points.
* `resolve_traps` — no responded dispute is resolved in a dispute resolver that is
  reached by its entry points.
-/

namespace StellarConduit

open Soroban Contract

/-! ## The registry -/

namespace RelayRegistry

variable {Address X : Type} [DecidableEq Address] {council : AdminCouncil Address}
  {minStake : I128} {stakeLockPeriod : U32} {x : X} {w w' : State Address X} {u : Unit}
  {env : Env Address X}

/-- Without a token address, a stake that passes all checks traps. -/
theorem fails_stake_of_tokenAddress_none {a : Address} {amount : I128} {node : RelayNode Address}
    (missing : w.storage.tokenAddress = none) (authorised : env.authorised a = true)
    (hnode : w.storage.relayNode.get a = some node) (status : node.status ≠ .slashed)
    (positive : 0 < amount.val) {newStake : I128}
    (fits : newStake.val = node.stake.val + amount.val) :
    Fails (stake env a amount) w (.trap (.panic "token address not initialized")) w := by
  simp only [stake, fails_bind, fails_requireAuth, returns_requireAuth, authorised]
  simp [loadNode, getMinStake, getTokenAddress, fails_bind, returns_bind, missing, hnode, status,
    positive]
  exact ⟨newStake, fits⟩

/-- No entry point sets the token address. -/
theorem tokenAddress_run
    (h : Returns (initializeContract council minStake stakeLockPeriod) (freshState x) u w)
    {as : List (Action Address X (Call Address) (Provision Address))}
    (calls : ∀ p, .provision p ∉ as) : (machine.run w as).storage.tokenAddress = none := by
  have start : w.storage.tokenAddress = none := by
    obtain ⟨-, -, -, rfl⟩ := returns_initializeContract_freshState.mp h
    rfl
  refine (Deployed.run_storage_of_calls
    (fun s => Invariant council minStake stakeLockPeriod s ∧ s.tokenAddress = none) ?_
    ⟨invariant_initializeContract h, start⟩ calls).2
  rintro env c w v w' ⟨inv, missing⟩ hcall
  have initialized : w.storage.adminCouncil.isSome := by rw [inv.adminCouncil]; rfl
  exact ⟨invariant_call inv hcall, (outcome_of_returns initialized hcall).tokenAddress.trans missing⟩

/-- **No registry that is reached by its entry points takes a stake.**  Whatever was
called since `initialize`, an authorised stake of a positive amount by a node that is
registered and not slashed traps on the missing token address, if the amount fits. -/
theorem stake_traps
    (h : Returns (initializeContract council minStake stakeLockPeriod) (freshState x) u w)
    {as : List (Action Address X (Call Address) (Provision Address))}
    (calls : ∀ p, .provision p ∉ as) {a : Address} {node : RelayNode Address}
    (hnode : (machine.run w as).storage.relayNode.get a = some node)
    (status : node.status ≠ .slashed) (authorised : env.authorised a = true) {amount : I128}
    (positive : 0 < amount.val) (fits : node.stake.val + amount.val ≤ IntType.max ⟨true, 128⟩) :
    Fails (stake env a amount) (machine.run w as)
      (.trap (.panic "token address not initialized")) (machine.run w as) := by
  have lower := node.stake.min_le
  obtain ⟨newStake, -, hnew⟩ : ∃ c : I128, _ ∧ c.val = node.stake.val + amount.val :=
    MachineInt.exists_checked (by omega) fits
  exact fails_stake_of_tokenAddress_none (tokenAddress_run h calls) authorised hnode status
    positive hnew

/-- Node 1 registers. -/
def registerOne : List (Action ℕ Unit (Call ℕ) (Provision ℕ)) :=
  [.call sampleEnv (.register 1 ⟨HostString.fromStr "eu", 10, 99⟩)]

/-- The registered node stakes 300, three times the minimum, and the call traps. -/
theorem registerOne_stake_reply :
    Returns (initializeContract ⟨[7], 1⟩ 100 10) (freshState ()) () sampleRegistry ∧
      (machine.record (machine.run sampleRegistry registerOne)
          (.call sampleEnv (.stake 1 300))).reply =
        some (.error (.trap (.panic "token address not initialized"))) :=
  ⟨sampleRegistry_initialized, by decide +kernel⟩

/-- The registered node of the sample run cannot stake. -/
theorem stake_traps_registerOne :
    Fails (stake sampleEnv 1 300) (machine.run sampleRegistry registerOne)
      (.trap (.panic "token address not initialized")) (machine.run sampleRegistry registerOne) := by
  have registered : (machine.run sampleRegistry registerOne).storage.relayNode.get 1 =
      some ⟨1, 0, .inactive, ⟨HostString.fromStr "eu", 10, 99⟩, 5, 5⟩ := by decide +kernel
  exact stake_traps sampleRegistry_initialized (by simp [registerOne]) registered nofun rfl
    (by decide) (by decide)

end RelayRegistry

/-! ## The dispute resolver -/

namespace DisputeResolver

variable {Address X : Type} {ed25519 : Ed25519} {council : AdminCouncil Address}
  {resolutionWindow : U32} {x : X} {w w' : State Address X} {u : Unit} {env : Env Address X}

/-- Without the key of its initiator, a responded dispute is not resolved. -/
theorem fails_resolve_of_publicKey_none {id : U64} {dispute : Dispute Address}
    (missing : w.storage.publicKey.get dispute.initiator = none)
    (hdispute : w.storage.dispute.get id = some dispute) (status : dispute.status = .responded)
    (response : dispute.respondentProof.isSome) :
    Fails (resolve ed25519 env id) w
      (.trap (.panic "public key not registered for address")) w := by
  obtain ⟨respondentProof, hproof⟩ := Option.isSome_iff_exists.mp response
  simp [resolve, loadDispute, getPublicKey, fails_bind, returns_bind, hdispute, status, hproof,
    missing]

variable [DecidableEq Address]

/-- A call that returns leaves the public keys alone. -/
theorem publicKey_call {c : Call Address} {v : Value Address}
    (h : Returns (dispatch ed25519 env c) w v w') :
    w'.storage.publicKey = w.storage.publicKey := by
  rcases initializes_or_outcome h with ⟨council, resolutionWindow, -, hcall⟩ | outcome
  · obtain ⟨-, -, -, rfl⟩ := returns_initializeContract.mp hcall
    rfl
  cases outcome with
  | raiseDispute hcall =>
      obtain ⟨-, -, -, -, _, -, rfl⟩ := returns_raiseDispute.mp hcall
      rfl
  | respond hcall =>
      obtain ⟨-, _, -, -, -, -, rfl⟩ := returns_respond.mp hcall
      rfl
  | resolve hcall =>
      obtain ⟨_, -, -, -, rfl⟩ := resolve_cases hcall
      rfl
  | read => rfl

/-- No entry point registers a public key. -/
theorem publicKey_run
    (h : Returns (initializeContract council resolutionWindow) (freshState x) u w)
    {as : List (Action Address X (Call Address) (Provision Address))}
    (calls : ∀ p, .provision p ∉ as) :
    ((machine ed25519).run w as).storage.publicKey = Store.empty := by
  obtain ⟨-, -, rfl⟩ := returns_initializeContract_freshState.mp h
  refine Deployed.run_storage_of_calls
    (fun s : Storage Address => s.publicKey = Store.empty) ?_ rfl calls
  intro env c w v w' missing hcall
  exact (publicKey_call hcall).trans missing

/-- **No dispute resolver that is reached by its entry points resolves a responded
dispute.**  Whatever was called since `initialize`, `resolve` of a responded dispute
traps on the missing public key of its initiator. -/
theorem resolve_traps
    (h : Returns (initializeContract council resolutionWindow) (freshState x) u w)
    {as : List (Action Address X (Call Address) (Provision Address))}
    (calls : ∀ p, .provision p ∉ as) {id : U64} {dispute : Dispute Address}
    (hdispute : ((machine ed25519).run w as).storage.dispute.get id = some dispute)
    (status : dispute.status = .responded) :
    Fails (resolve ed25519 env id) ((machine ed25519).run w as)
      (.trap (.panic "public key not registered for address")) ((machine ed25519).run w as) := by
  have inv : Lifecycle ((machine ed25519).run w as).storage := lifecycle_reached ed25519 h as
  refine fails_resolve_of_publicKey_none ?_ hdispute status
    ((inv.dispute id dispute hdispute).responded status)
  rw [publicKey_run h calls]
  rfl

/-- Both parties submit a signed proof, and nobody has set a key. -/
def answeredWithoutKeys : List (Action ℕ Unit (Call ℕ) (Provision ℕ)) :=
  [.call (sampleEnv 5)
      (.raiseDispute 1 2 (BytesN.fill 32 9) (sampleProof initiatorSignature 20)),
    .call (sampleEnv 6) (.respond 2 1 (sampleProof respondentSignature 15))]

/-- The dispute is responded, and to resolve it traps. -/
theorem answeredWithoutKeys_resolve_reply :
    Returns (initializeContract ⟨[7], 1⟩ 100) (freshState ()) () sampleResolver ∧
      ((machine sampleEd25519).run sampleResolver answeredWithoutKeys).storage.dispute.get 1 =
        some (sampleDispute (sampleProof initiatorSignature 20)
          (some (sampleProof respondentSignature 15)) .responded) ∧
      ((machine sampleEd25519).record
          ((machine sampleEd25519).run sampleResolver answeredWithoutKeys)
          (.call (sampleEnv 200) (.resolve 1))).reply =
        some (.error (.trap (.panic "public key not registered for address"))) :=
  ⟨sampleResolver_initialized, rfl, by decide +kernel⟩

/-- The answered dispute of the sample run cannot be resolved. -/
theorem resolve_traps_answeredWithoutKeys :
    Fails (resolve sampleEd25519 (sampleEnv 200) 1)
      ((machine sampleEd25519).run sampleResolver answeredWithoutKeys)
      (.trap (.panic "public key not registered for address"))
      ((machine sampleEd25519).run sampleResolver answeredWithoutKeys) := by
  have answered :
      ((machine sampleEd25519).run sampleResolver answeredWithoutKeys).storage.dispute.get 1 =
        some (sampleDispute (sampleProof initiatorSignature 20)
          (some (sampleProof respondentSignature 15)) .responded) := rfl
  exact resolve_traps sampleResolver_initialized (by simp [answeredWithoutKeys]) answered rfl

end DisputeResolver

end StellarConduit
