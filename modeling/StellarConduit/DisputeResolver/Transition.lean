import StellarConduit.DisputeResolver.Contract

/-!
# What each resolver entry point does when it returns, and how it fails

One equivalence for each entry point.  `returns_resolve` has two exits: an open
dispute past its deadline, and a responded dispute whose proofs both verify.  The
other two rows of the ruling tree are not among them, because `verifyProof` never
answers `false`: the host traps first.

The two exits share their end, `issueRuling`, so the world after a resolution is the same
function `ruled` of the ruling in both.  The rulings themselves are `defaultRuling`, for the
initiator, and `sequenceRuling`, for the party whose proof has the lower sequence number; ties
go to the initiator.

A second family of lemmas, `fails_`, says how the parts of a resolution can fail, and with
which error or trap.  Failure is of interest for the resolver as it is not for the other
contracts: that a dispute cannot be resolved at all, and what a resolution is answered when a
signature is wrong, are properties of the failing runs.

`Outcome` sums up what a call can do to disputes and rulings.

## Main definitions

* `Verifies`, `BothVerify` — the signature of a proof, and of both proofs of a dispute.
* `defaultRuling`, `sequenceRuling` — the two rulings that are ever made.
* `ruled` — the world after a resolution.
* `Outcome` — what a call does to disputes and rulings.

## Main results

* `returns_raiseDispute`, `returns_respond`, `returns_resolve` — the entry points.
* `outcome_of_returns` — the calls of an initialized resolver have such an outcome.
-/

namespace StellarConduit.DisputeResolver

open Soroban Contract

section

variable {Address X : Type} {env : Env Address X} {w w' : State Address X} {u : Unit}

/-! ## Storage helpers

What each helper returns and leaves, as an equivalence, so that the entry points can be taken
apart without unfolding a helper again.
-/

/-- A lookup of a dispute changes nothing. -/
@[simp] theorem returns_loadDispute {id : U64} {r : Option (Dispute Address)} :
    Returns (loadDispute id) w r w' ↔ r = w.storage.dispute.get id ∧ w' = w :=
  returns_loadStorage

/-- The dispute under the number is made, or replaced. -/
@[simp] theorem returns_setDispute {id : U64} {dispute : Dispute Address} :
    Returns (setDispute id dispute) w u w' ↔
      w' = { w with storage := { w.storage with dispute := w.storage.dispute.set id dispute } } :=
  returns_updateStorage

/-- The counter goes up by one and is the number; at its end it panics. -/
@[simp] theorem returns_getNextDisputeId {r : U64} :
    Returns getNextDisputeId w r w' ↔
      r.val = (w.storage.disputeCount.getD 0).val + 1 ∧
        w' = { w with storage := { w.storage with disputeCount := some r } } := by
  have one : (1 : U64).val = 1 := rfl
  simp [getNextDisputeId, getDisputeCount, returns_bind, one, and_assoc]

/-- A lookup of a ruling changes nothing. -/
@[simp] theorem returns_loadRuling {id : U64} {r : Option (Ruling Address)} :
    Returns (loadRuling id) w r w' ↔ r = w.storage.ruling.get id ∧ w' = w := returns_loadStorage

/-- The ruling on the dispute is made, or replaced. -/
@[simp] theorem returns_setRuling {id : U64} {ruling : Ruling Address} :
    Returns (setRuling id ruling) w u w' ↔
      w' = { w with storage := { w.storage with ruling := w.storage.ruling.set id ruling } } :=
  returns_updateStorage

/-- A window that was never set is zero. -/
@[simp] theorem returns_getResolutionWindow {r : U32} :
    Returns getResolutionWindow w r w' ↔ r = w.storage.resolutionWindow.getD 0 ∧ w' = w :=
  returns_loadStorage

/-- A lookup of a transaction changes nothing. -/
@[simp] theorem returns_getDisputeByTx {txId : BytesN 32} {r : Option U64} :
    Returns (getDisputeByTx txId) w r w' ↔ r = w.storage.txDispute.get txId ∧ w' = w :=
  returns_loadStorage

/-- The transaction is disputed from now on. -/
@[simp] theorem returns_setDisputeByTx {txId : BytesN 32} {id : U64} :
    Returns (setDisputeByTx txId id) w u w' ↔
      w' = { w with storage := { w.storage with txDispute := w.storage.txDispute.set txId id } } :=
  returns_updateStorage

/-- Without a key, the source panics. -/
@[simp] theorem returns_getPublicKey {a : Address} {r : BytesN 32} :
    Returns (getPublicKey a) w r w' ↔ w.storage.publicKey.get a = some r ∧ w' = w := by
  simp [getPublicKey, returns_bind, and_assoc]

/-! ## Configuration and views -/

/-- `initialize` is accepted once, with a council that can be met and a window. -/
theorem returns_initializeContract {council : AdminCouncil Address} {resolutionWindow : U32} :
    Returns (initializeContract council resolutionWindow) w u w' ↔
      w.storage.adminCouncil = none ∧ resolutionWindow ≠ 0 ∧ ¬ council.Invalid ∧
        w' = { w with storage := { w.storage with
          adminCouncil := some council
          resolutionWindow := some resolutionWindow } } := by
  simp [initializeContract, returns_bind, and_assoc]

/-- `get_dispute` returns the dispute under the number. -/
theorem returns_getDispute {id : U64} {r : Dispute Address} :
    Returns (getDispute id) w r w' ↔ w.storage.dispute.get id = some r ∧ w' = w := by
  simp [getDispute, returns_bind, and_assoc]

/-- `get_ruling` returns the ruling under the number. -/
theorem returns_getRuling {id : U64} {r : Ruling Address} :
    Returns (getRuling id) w r w' ↔ w.storage.ruling.get id = some r ∧ w' = w := by
  simp [getRuling, returns_bind, and_assoc]

/-! ## Proofs and rulings

`verify_proof` returns only `true`: the host function fails on a signature that is not valid.  So
the branches of the source for one or two invalid proofs are not reached, and the ruling compares
the sequence numbers alone.
-/

/-- The proof is signed with the key. -/
def Verifies (ed25519 : Ed25519) (publicKey : BytesN 32) (proof : RelayChainProof) : Prop :=
  ed25519 publicKey proof.chainHash.bytes proof.signature = true

/-- `verify_proof` answers `true` or does not answer. -/
@[simp] theorem returns_verifyProof {ed25519 : Ed25519} {publicKey : BytesN 32}
    {proof : RelayChainProof} {b : Bool} :
    Returns (verifyProof ed25519 publicKey proof) w b w' ↔
      Verifies ed25519 publicKey proof ∧ b = true ∧ w' = w := by
  unfold verifyProof ed25519Verify Verifies
  by_cases hvalid : ed25519 publicKey proof.chainHash.bytes proof.signature = true
  · simp [hvalid, returns_bind]
  · simp [hvalid, returns_bind]

/-- The ruling on a dispute without response. -/
def defaultRuling (env : Env Address X) (id : U64) (dispute : Dispute Address) :
    Ruling Address where
  disputeId := id
  winner := dispute.initiator
  loser := dispute.respondent
  reason := HostString.fromStr "Respondent failed to respond within the resolution window"
  resolvedAt := env.timestamp

/-- The ruling between two valid proofs: the lower sequence wins, the initiator on
a tie. -/
def sequenceRuling (env : Env Address X) (id : U64) (dispute : Dispute Address)
    (respondentProof : RelayChainProof) : Ruling Address :=
  if dispute.initiatorProof.sequence ≤ respondentProof.sequence then
    { disputeId := id
      winner := dispute.initiator
      loser := dispute.respondent
      reason := HostString.fromStr "Both proofs valid; initiator has lower or equal sequence"
      resolvedAt := env.timestamp }
  else
    { disputeId := id
      winner := dispute.respondent
      loser := dispute.initiator
      reason := HostString.fromStr "Both proofs valid; respondent has lower sequence"
      resolvedAt := env.timestamp }

/-- The tree, at two valid proofs. -/
theorem returns_decideRuling (env : Env Address X) (id : U64) {dispute : Dispute Address}
    {respondentProof : RelayChainProof} {winner loser : Address} {reason : HostString} :
    Returns (decideRuling dispute respondentProof true true) w (winner, loser, reason) w' ↔
      Ruling.mk id winner loser reason env.timestamp =
          sequenceRuling env id dispute respondentProof ∧ w' = w := by
  simp only [decideRuling, sequenceRuling]
  split <;> simp

/-- The ruling by sequence numbers, whichever of its branches is taken. -/
theorem exists_sequenceRuling (env : Env Address X) (id : U64) (dispute : Dispute Address)
    (respondentProof : RelayChainProof) :
    ∃ winner loser reason, Ruling.mk id winner loser reason env.timestamp =
      sequenceRuling env id dispute respondentProof := by
  unfold sequenceRuling
  split
  · exact ⟨_, _, _, rfl⟩
  · exact ⟨_, _, _, rfl⟩

/-- The world after a ruling. -/
def ruled (w : State Address X) (id : U64) (dispute : Dispute Address) (ruling : Ruling Address) :
    State Address X :=
  { w with
    storage := { w.storage with
      dispute := w.storage.dispute.set id { dispute with status := .resolved }
      ruling := w.storage.ruling.set id ruling }
    events := w.events ++ [.resolve id ruling.winner ruling.loser] }

/-- A ruling is stored and published without a condition. -/
@[simp] theorem returns_issueRuling {id : U64} {dispute : Dispute Address}
    {ruling r : Ruling Address} :
    Returns (issueRuling id dispute ruling) w r w' ↔
      r = ruling ∧ w' = ruled w id dispute ruling := by
  simp [issueRuling, ruled, returns_bind, and_comm]

/-- The proofs of a responded dispute are there, the keys are registered, and
both signatures verify. -/
def BothVerify (ed25519 : Ed25519) (s : Storage Address) (dispute : Dispute Address)
    (respondentProof : RelayChainProof) : Prop :=
  dispute.respondentProof = some respondentProof ∧
    ∃ initiatorKey, s.publicKey.get dispute.initiator = some initiatorKey ∧
    ∃ respondentKey, s.publicKey.get dispute.respondent = some respondentKey ∧
      Verifies ed25519 initiatorKey dispute.initiatorProof ∧
      Verifies ed25519 respondentKey respondentProof

/-- A dispute is resolved by default after its deadline, or by the sequence numbers of two valid
proofs.  Whoever calls, no signature is asked for. -/
theorem returns_resolve {ed25519 : Ed25519} {id : U64} {r : Ruling Address} :
    Returns (resolve ed25519 env id) w r w' ↔
      ∃ dispute, w.storage.dispute.get id = some dispute ∧ w' = ruled w id dispute r ∧
        ((dispute.status = .opened ∧ dispute.resolveBy.val < env.sequence.val ∧
            r = defaultRuling env id dispute) ∨
          (dispute.status = .responded ∧
            ∃ respondentProof, BothVerify ed25519 w.storage dispute respondentProof ∧
              r = sequenceRuling env id dispute respondentProof)) := by
  simp only [resolve, returns_bind, returns_loadDispute, returns_okOr, returns_rejectIf]
  constructor
  · rintro ⟨_, _, ⟨rfl, rfl⟩, dispute, _, ⟨hdispute, rfl⟩, _, _, ⟨-, rfl⟩, h⟩
    refine ⟨dispute, hdispute, ?_⟩
    split at h
    · -- Past the deadline without a response.
      rename_i hopened
      simp only [returns_bind, returns_rejectIf, MachineInt.le_iff_val, MachineInt.cast_u32_u64_val,
        not_le, returns_issueRuling, ↓existsAndEq, and_true, exists_const] at h
      obtain ⟨hlate, rfl, rfl⟩ := h
      exact ⟨rfl, Or.inl ⟨hopened, hlate, rfl⟩⟩
    · -- Both proofs are there, and the host let both verifications return.
      simp only [ne_eq, returns_bind, returns_rejectIf, Decidable.not_not, returns_okOr,
        returns_getPublicKey, returns_verifyProof, returns_issueRuling, Prod.exists, ↓existsAndEq,
        and_true, Bool.exists_bool, Bool.false_eq_true, and_false, false_and, false_or,
        exists_const] at h
      obtain ⟨hresponded, p, hproof, initiatorKey, hinitiator, respondentKey, hrespondent,
        hvalid₁, hvalid₂, winner, loser, reason, _, hdecide, rfl, rfl⟩ := h
      obtain ⟨hruling, rfl⟩ := (returns_decideRuling env id).mp hdecide
      rw [hruling]
      exact ⟨rfl, Or.inr ⟨hresponded, p, ⟨hproof, initiatorKey, hinitiator, respondentKey,
        hrespondent, hvalid₁, hvalid₂⟩, rfl⟩⟩
  · rintro ⟨dispute, hdispute, rfl, ⟨hstatus, hlate, rfl⟩ | ⟨hstatus, p, ⟨hproof, initiatorKey,
      hinitiator, respondentKey, hrespondent, hvalid₁, hvalid₂⟩, rfl⟩⟩
    · refine ⟨_, _, ⟨rfl, rfl⟩, dispute, _, ⟨hdispute, rfl⟩, (), _, ⟨by simp [hstatus], rfl⟩, ?_⟩
      rw [if_pos hstatus]
      simp only [returns_bind, returns_rejectIf, MachineInt.le_iff_val, MachineInt.cast_u32_u64_val,
        not_le, returns_issueRuling, ↓existsAndEq, and_true, exists_const]
      exact ⟨hlate, rfl, rfl⟩
    · refine ⟨_, _, ⟨rfl, rfl⟩, dispute, _, ⟨hdispute, rfl⟩, (), _, ⟨by simp [hstatus], rfl⟩, ?_⟩
      obtain ⟨winner, loser, reason, hruling⟩ := exists_sequenceRuling env id dispute p
      rw [if_neg (by simp [hstatus]), ← hruling]
      simp only [ne_eq, hproof, returns_bind, returns_rejectIf, hstatus, not_true_eq_false,
        not_false_eq_true, true_and, returns_okOr, Option.some.injEq, returns_getPublicKey,
        returns_verifyProof, returns_issueRuling, Ruling.mk.injEq, and_true, Prod.exists,
        ↓existsAndEq, Bool.exists_bool, Bool.false_eq_true, and_false, false_and, false_or,
        exists_eq_left', exists_eq_left, hinitiator, hrespondent, hvalid₂, hvalid₁, exists_const]
      exact ⟨w, (returns_decideRuling env id).mpr ⟨hruling, rfl⟩, rfl⟩

/-! ## How `resolve` fails -/

section Failures

variable {e : Failure ContractError}

/-- A lookup does not fail, whatever it finds. -/
@[simp] theorem fails_loadDispute {id : U64} : ¬ Fails (loadDispute id) w e w' :=
  fails_loadStorage

/-- A missing key is the one way in which the lookup fails. -/
theorem fails_getPublicKey {a : Address} (h : Fails (getPublicKey a) w e w') :
    w.storage.publicKey.get a = none ∧
      e = .trap (.panic "public key not registered for address") := by
  simp only [getPublicKey, fails_bind, fails_loadStorage, returns_loadStorage, fails_expect,
    ↓existsAndEq, and_true, exists_eq_left, false_or] at h
  exact ⟨h.1, h.2.1⟩

/-- An invalid signature is the one way in which the verification fails. -/
theorem fails_verifyProof {ed25519 : Ed25519} {publicKey : BytesN 32} {proof : RelayChainProof}
    (h : Fails (verifyProof ed25519 publicKey proof) w e w') :
    ¬ Verifies ed25519 publicKey proof ∧ e = .trap .hostFunction := by
  unfold verifyProof ed25519Verify at h
  unfold Verifies
  by_cases hvalid : ed25519 publicKey proof.chainHash.bytes proof.signature = true
  · simp [hvalid, fails_bind] at h
  · simp only [hvalid, Bool.false_eq_true, ↓reduceIte, fails_bind, fails_trap, returns_trap,
      fails_pure, and_self, exists_false, or_false] at h
    exact ⟨hvalid, h.1⟩

/-- Between two valid proofs the table does not fail. -/
@[simp] theorem fails_decideRuling {dispute : Dispute Address}
    {respondentProof : RelayChainProof} :
    ¬ Fails (decideRuling dispute respondentProof true true) w e w' := by
  simp only [decideRuling]
  split <;> simp

/-- Storing a ruling does not fail. -/
@[simp] theorem fails_issueRuling {id : U64} {dispute : Dispute Address}
    {ruling : Ruling Address} : ¬ Fails (issueRuling id dispute ruling) w e w' := by
  simp [issueRuling, setDispute, setRuling, fails_bind]

/-- `resolve` answers `NotResponded` only for a dispute that is neither open nor
resolved and either not responded or without its counter-proof. -/
theorem fails_resolve_notResponded {ed25519 : Ed25519} {id : U64}
    (h : Fails (resolve ed25519 env id) w (.error .notResponded) w') :
    ∃ dispute, w.storage.dispute.get id = some dispute ∧ dispute.status ≠ .opened ∧
      dispute.status ≠ .resolved ∧
      (dispute.status ≠ .responded ∨ dispute.respondentProof = none) := by
  simp only [resolve, ne_eq, fails_bind, fails_loadDispute, returns_loadDispute, fails_okOr,
    Failure.error.injEq, reduceCtorEq, false_and, and_false, returns_okOr, fails_rejectIf,
    returns_rejectIf, ↓existsAndEq, and_true, exists_const, false_or, exists_eq_left] at h
  obtain ⟨dispute, hdispute, hresolved, h⟩ := h
  split at h
  · simp [fails_bind] at h
  · rename_i hopened
    refine ⟨dispute, hdispute, hopened, hresolved, ?_⟩
    by_contra hcomplete
    obtain ⟨hstatus, hproof⟩ := not_or.mp hcomplete
    obtain ⟨p, hp⟩ := Option.ne_none_iff_exists'.mp hproof
    -- Everything after the two checks fails by a trap only.
    simp only [hp, fails_bind, fails_rejectIf, not_not.mp hstatus, not_true_eq_false, true_and,
      false_and, returns_rejectIf, not_false_eq_true, fails_okOr, reduceCtorEq, returns_okOr,
      Option.some.injEq, returns_getPublicKey, returns_verifyProof, fails_issueRuling, and_false,
      exists_false, or_false, ↓existsAndEq, and_true, Bool.exists_bool, Bool.false_eq_true,
      false_or, fails_decideRuling, exists_eq_left', exists_eq_left, exists_const] at h
    rcases h with h | ⟨_, -, h | ⟨_, -, h | ⟨-, h⟩⟩⟩
    · cases (fails_getPublicKey h).2
    · cases (fails_getPublicKey h).2
    · cases (fails_verifyProof h).2
    · cases (fails_verifyProof h).2

end Failures

end

section

variable {Address X : Type} [DecidableEq Address]
variable {env : Env Address X} {w w' : State Address X} {u : Unit}

/-! ## Raising and responding -/

/-- A raise is accepted from its initiator, against someone else, over a transaction that is not
disputed; it stores the deadline as a sum that fits. -/
theorem returns_raiseDispute {initiator respondent : Address} {txId : BytesN 32}
    {proof : RelayChainProof} {r : U64} :
    Returns (raiseDispute env initiator respondent txId proof) w r w' ↔
      env.authorised initiator = true ∧ initiator ≠ respondent ∧
        w.storage.txDispute.get txId = none ∧
        r.val = (w.storage.disputeCount.getD 0).val + 1 ∧
        ∃ resolveBy : U32,
          resolveBy.val = env.sequence.val + (w.storage.resolutionWindow.getD 0).val ∧
          w' = { w with
            storage := { w.storage with
              disputeCount := some r
              dispute := w.storage.dispute.set r
                { disputeId := r
                  txId := txId
                  initiator := initiator
                  respondent := respondent
                  initiatorProof := proof
                  respondentProof := none
                  status := .opened
                  raisedAt := env.timestamp
                  resolveBy := resolveBy.cast }
              txDispute := w.storage.txDispute.set txId r }
            events := w.events ++ [.raise initiator r txId] } := by
  simp [raiseDispute, returns_bind, and_assoc]

/-- An answer is accepted from the respondent alone, once, up to the deadline. -/
theorem returns_respond {respondent : Address} {id : U64} {proof : RelayChainProof} :
    Returns (respond env respondent id proof) w u w' ↔
      env.authorised respondent = true ∧ ∃ dispute, w.storage.dispute.get id = some dispute ∧
        dispute.respondent = respondent ∧ dispute.status = .opened ∧
        env.sequence.val ≤ dispute.resolveBy.val ∧
        w' = { w with
          storage := { w.storage with
            dispute := w.storage.dispute.set id
              { dispute with respondentProof := some proof, status := .responded } }
          events := w.events ++ [.respond respondent id] } := by
  simp [respond, returns_bind, and_assoc]

/-! ## Outcomes

Every call that returns is one of these cases; invariants split on them and not on the entry
points.
-/

/-- What a call of an initialized resolver does when it returns: it raises a
dispute, responds to one, resolves one, or only reads. -/
inductive Outcome (ed25519 : Ed25519) (env : Env Address X) (w : State Address X) :
    Call Address → State Address X → Prop where
  | raiseDispute {initiator respondent : Address} {txId : BytesN 32} {proof : RelayChainProof}
      {id : U64} {w' : State Address X}
      (h : Returns (raiseDispute env initiator respondent txId proof) w id w') :
      Outcome ed25519 env w (.raiseDispute initiator respondent txId proof) w'
  | respond {respondent : Address} {id : U64} {proof : RelayChainProof} {w' : State Address X}
      (h : Returns (respond env respondent id proof) w () w') :
      Outcome ed25519 env w (.respond respondent id proof) w'
  | resolve {id : U64} {ruling : Ruling Address} {w' : State Address X}
      (h : Returns (resolve ed25519 env id) w ruling w') : Outcome ed25519 env w (.resolve id) w'
  | read {c : Call Address} : Outcome ed25519 env w c w

/-- What any call does when it returns: it initializes the contract, or does what a call
of an initialized resolver does. -/
theorem initializes_or_outcome {ed25519 : Ed25519} {c : Call Address} {v : Value Address}
    (h : Returns (dispatch ed25519 env c) w v w') :
    (∃ council resolutionWindow, c = .initializeContract council resolutionWindow ∧
        Returns (initializeContract council resolutionWindow) w () w') ∨
      Outcome ed25519 env w c w' := by
  cases c with
  | initializeContract council resolutionWindow =>
      obtain ⟨_, hcall, -⟩ := returns_bind_pure.mp h
      exact Or.inl ⟨council, resolutionWindow, rfl, hcall⟩
  | raiseDispute initiator respondent txId proof =>
      obtain ⟨id, hcall, -⟩ := returns_bind_pure.mp h
      exact Or.inr (.raiseDispute hcall)
  | respond respondent id proof =>
      obtain ⟨_, hcall, -⟩ := returns_bind_pure.mp h
      exact Or.inr (.respond hcall)
  | resolve id =>
      obtain ⟨ruling, hcall, -⟩ := returns_bind_pure.mp h
      exact Or.inr (.resolve hcall)
  | getDispute id =>
      obtain ⟨_, hcall, -⟩ := returns_bind_pure.mp h
      obtain ⟨-, rfl⟩ := returns_getDispute.mp hcall
      exact Or.inr .read
  | getRuling id =>
      obtain ⟨_, hcall, -⟩ := returns_bind_pure.mp h
      obtain ⟨-, rfl⟩ := returns_getRuling.mp hcall
      exact Or.inr .read

/-- By cases on the call; a second `initialize` does not return. -/
theorem outcome_of_returns {ed25519 : Ed25519} {c : Call Address} {v : Value Address}
    (initialized : w.storage.adminCouncil.isSome) (h : Returns (dispatch ed25519 env c) w v w') :
    Outcome ed25519 env w c w' := by
  apply (initializes_or_outcome h).resolve_left
  -- A second `initialize` answers `AlreadyInitialized`.
  rintro ⟨council, resolutionWindow, -, hcall⟩
  obtain ⟨hnone, -⟩ := returns_initializeContract.mp hcall
  rw [hnone] at initialized
  cases initialized

end
end StellarConduit.DisputeResolver
