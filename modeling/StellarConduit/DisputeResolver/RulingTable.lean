import StellarConduit.DisputeResolver.Verdict

/-!
# The documented ruling table

`resolve` decides between two proofs by a table of four rows: which of the two is valid, and
which sequence number is smaller when both are.  `verify_proof` says that it answers `false`
for an invalid signature.  The host function it calls traps instead, so the three rows with
an invalid proof are never reached.

`FollowsTable` is the table as it is documented, for a dispute with its two proofs and the two
registered keys: with one valid proof its party wins, with two the lower sequence number, and
with none the answer is `InvalidProofSignature`.  The theorem compares it with what `resolve`
answers, for every pair of proofs.  In the row of two valid proofs the two agree.  In each of the
other three `resolve` is answered with a trap, where the table has a ruling or an error.

The sample run is one for all rows: the dispute is raised and answered with given proofs, and
the four choices of valid and invalid ones are the four rows.

## Main definitions

* `FollowsTable` — the answer is the one that the table has.

## Main results

* `followsTable_iff` — `resolve` does what the table says exactly when both signatures
  verify.
-/

namespace StellarConduit.DisputeResolver

open Soroban Contract

section Table

variable {Address X : Type}

/-- What `verify_proof` is documented to answer. -/
def validProof (ed25519 : Ed25519) (publicKey : BytesN 32) (proof : RelayChainProof) : Bool :=
  ed25519 publicKey proof.chainHash.bytes proof.signature

/-- The party that the documented table rules for, if it rules at all. -/
def tableWinner (d : Dispute Address) (respondentProof : RelayChainProof) :
    (initiatorValid respondentValid : Bool) → Option Address
  | true, false => some d.initiator
  | false, true => some d.respondent
  | true, true =>
      some (if d.initiatorProof.sequence ≤ respondentProof.sequence then d.initiator
        else d.respondent)
  | false, false => none

variable [DecidableEq Address]

/-- `resolve` does with a responded dispute what the table says: it rules for the party that
the table names, and where it names none it answers `InvalidProofSignature` and leaves the
dispute as it was and without a ruling. -/
def FollowsTable (ed25519 : Ed25519) (env : Env Address X) (w : State Address X) (id : U64)
    (d : Dispute Address) (respondentProof : RelayChainProof)
    (initiatorKey respondentKey : BytesN 32) : Prop :=
  let answer := ((machine ed25519).step w (.call env (.resolve id))).1
  let after := ((machine ed25519).step w (.call env (.resolve id))).2
  match tableWinner d respondentProof (validProof ed25519 initiatorKey d.initiatorProof)
      (validProof ed25519 respondentKey respondentProof) with
  | some winner => ∃ ruling, answer = some (.ok (.ruling ruling)) ∧ ruling.winner = winner
  | none =>
      answer = some (.error (.error .invalidProofSignature)) ∧
        after.storage.dispute.get id = some d ∧ after.storage.ruling.get id = none

variable {ed25519 : Ed25519} {env : Env Address X} {w : State Address X} {id : U64}
  {d : Dispute Address} {p : RelayChainProof} {initiatorKey respondentKey : BytesN 32}

omit [DecidableEq Address] in
/-- An invalid signature traps the call. -/
theorem fails_resolve_hostFunction (hd : w.storage.dispute.get id = some d)
    (hresponded : d.status = .responded) (hp : d.respondentProof = some p)
    (hinitiator : w.storage.publicKey.get d.initiator = some initiatorKey)
    (hrespondent : w.storage.publicKey.get d.respondent = some respondentKey)
    (invalid : ¬ (Verifies ed25519 initiatorKey d.initiatorProof ∧
      Verifies ed25519 respondentKey p)) :
    Fails (resolve ed25519 env id) w (.trap .hostFunction) w := by
  unfold Verifies at invalid
  by_cases first : ed25519 initiatorKey d.initiatorProof.chainHash.bytes
      d.initiatorProof.signature = true
  · -- The first proof verifies, so the second call of the host traps.
    have second : ¬ ed25519 respondentKey p.chainHash.bytes p.signature = true :=
      fun valid => invalid ⟨first, valid⟩
    simp [resolve, loadDispute, getPublicKey, verifyProof, ed25519Verify, fails_bind, returns_bind,
      hd, hresponded, hp, hinitiator, hrespondent, first, second]
  · simp [resolve, loadDispute, getPublicKey, verifyProof, ed25519Verify, fails_bind, returns_bind,
      hd, hresponded, hp, hinitiator, hrespondent, first]

omit [DecidableEq Address] in
/-- Between two valid proofs the code and the table agree. -/
theorem sequenceRuling_winner (env : Env Address X) (id : U64) (d : Dispute Address)
    (p : RelayChainProof) :
    tableWinner d p true true = some (sequenceRuling env id d p).winner := by
  unfold sequenceRuling
  show some (if d.initiatorProof.sequence ≤ p.sequence then d.initiator else d.respondent) = _
  split
  · rfl
  · rfl

/-- The table knows no trap. -/
theorem not_followsTable_of_invalid (hd : w.storage.dispute.get id = some d)
    (hresponded : d.status = .responded) (hp : d.respondentProof = some p)
    (hinitiator : w.storage.publicKey.get d.initiator = some initiatorKey)
    (hrespondent : w.storage.publicKey.get d.respondent = some respondentKey)
    (invalid : ¬ (Verifies ed25519 initiatorKey d.initiatorProof ∧
      Verifies ed25519 respondentKey p)) :
    ((machine ed25519).step w (.call env (.resolve id))).1 = some (.error (.trap .hostFunction)) ∧
      ¬ FollowsTable ed25519 env w id d p initiatorKey respondentKey := by
  have failed : Fails (dispatch ed25519 env (.resolve id)) w (.trap .hostFunction) w :=
    fails_bind.mpr (Or.inl (fails_resolve_hostFunction hd hresponded hp hinitiator hrespondent
      invalid))
  have answered : ((machine ed25519).step w (.call env (.resolve id))).1 =
      some (.error (.trap .hostFunction)) :=
    Deployed.answer_of_fails (dispatch ed25519) provide failed
  refine ⟨answered, fun follows => ?_⟩
  simp only [FollowsTable] at follows
  split at follows
  · obtain ⟨ruling, answer, -⟩ := follows
    cases answered.symm.trans answer
  · cases answered.symm.trans follows.1

/-- **The ruling table is followed exactly when both signatures verify.**  In every state
reached from the deployment on, and for every responded dispute whose parties have
registered keys: `resolve` does what the documented table says if and only if the
signatures of both parties verify.  When one of them does not, the host traps the call. -/
theorem followsTable_iff (ed25519 : Ed25519) (x : X)
    (as : List (Action Address X (Call Address) (Provision Address)))
    (hd : ((machine ed25519).run (freshState x) as).storage.dispute.get id = some d)
    (hresponded : d.status = .responded)
    (hinitiator : ((machine ed25519).run (freshState x) as).storage.publicKey.get d.initiator =
      some initiatorKey)
    (hrespondent : ((machine ed25519).run (freshState x) as).storage.publicKey.get d.respondent =
      some respondentKey) (env : Env Address X) :
    ∃ p, d.respondentProof = some p ∧
      (FollowsTable ed25519 env ((machine ed25519).run (freshState x) as) id d p initiatorKey
          respondentKey ↔
        Verifies ed25519 initiatorKey d.initiatorProof ∧ Verifies ed25519 respondentKey p) := by
  have docket := docket_reached ed25519 x as
  obtain ⟨p, hp⟩ := Option.isSome_iff_exists.mp ((docket.dispute id d hd).responded hresponded)
  refine ⟨p, hp, ?_, ?_⟩
  · intro follows
    by_contra invalid
    exact (not_followsTable_of_invalid hd hresponded hp hinitiator hrespondent invalid).2 follows
  · rintro ⟨hvalid₁, hvalid₂⟩
    have resolved : Returns (resolve ed25519 env id) ((machine ed25519).run (freshState x) as)
        (sequenceRuling env id d p) _ :=
      returns_resolve_responded hd hresponded
        ⟨hp, initiatorKey, hinitiator, respondentKey, hrespondent, hvalid₁, hvalid₂⟩
    have returned : Returns (dispatch ed25519 env (.resolve id))
        ((machine ed25519).run (freshState x) as) (.ruling (sequenceRuling env id d p)) _ :=
      returns_bind_pure.mpr ⟨_, resolved, rfl⟩
    have answered := Deployed.answer_of_returns (dispatch ed25519) provide returned
    have valid₁ : validProof ed25519 initiatorKey d.initiatorProof = true := hvalid₁
    have valid₂ : validProof ed25519 respondentKey p = true := hvalid₂
    simp only [FollowsTable, valid₁, valid₂, sequenceRuling_winner env id]
    exact ⟨_, answered, rfl⟩

end Table

/-- The contract is initialized, and both parties submit a proof. -/
def bothSubmitted (initiatorProof respondentProof : RelayChainProof) :
    List (Action ℕ Unit (Call ℕ) (Provision ℕ)) :=
  .call (sampleEnv 4) (.initializeContract ⟨[7], 1⟩ 100) ::
    answered initiatorProof respondentProof

/-- The dispute of the sample run, with the proofs that it is given. -/
theorem bothSubmitted_dispute (initiatorProof respondentProof : RelayChainProof) :
    ((machine sampleEd25519).run (freshState ())
        (bothSubmitted initiatorProof respondentProof)).storage.dispute.get 1 =
      some (sampleDispute initiatorProof (some respondentProof) .responded) := rfl

/-- Only the initiator's proof is valid, and the initiator does not win: the call traps.
Neither is valid, and the answer is not `InvalidProofSignature`: the call traps too. -/
theorem invalid_proof_traps :
    (validProof sampleEd25519 initiatorKey (sampleProof initiatorSignature 20) = true ∧
      validProof sampleEd25519 respondentKey (zeroProof 10) = false ∧
      ((machine sampleEd25519).step ((machine sampleEd25519).run (freshState ())
          (bothSubmitted (sampleProof initiatorSignature 20) (zeroProof 10)))
        (.call (sampleEnv 7) (.resolve 1))).1 = some (.error (.trap .hostFunction)) ∧
      ¬ FollowsTable sampleEd25519 (sampleEnv 7) ((machine sampleEd25519).run (freshState ())
          (bothSubmitted (sampleProof initiatorSignature 20) (zeroProof 10))) 1
        (sampleDispute (sampleProof initiatorSignature 20) (some (zeroProof 10)) .responded)
        (zeroProof 10) initiatorKey respondentKey) ∧
    validProof sampleEd25519 initiatorKey (zeroProof 10) = false ∧
      validProof sampleEd25519 respondentKey (zeroProof 15) = false ∧
      ((machine sampleEd25519).step ((machine sampleEd25519).run (freshState ())
          (bothSubmitted (zeroProof 10) (zeroProof 15)))
        (.call (sampleEnv 7) (.resolve 1))).1 = some (.error (.trap .hostFunction)) ∧
      ¬ FollowsTable sampleEd25519 (sampleEnv 7) ((machine sampleEd25519).run (freshState ())
          (bothSubmitted (zeroProof 10) (zeroProof 15))) 1
        (sampleDispute (zeroProof 10) (some (zeroProof 15)) .responded)
        (zeroProof 15) initiatorKey respondentKey := by
  have valid : validProof sampleEd25519 initiatorKey
      (sampleProof initiatorSignature 20) = true := by
    show sampleEd25519 initiatorKey (List.replicate 32 8) initiatorSignature = true
    decide +kernel
  have invalid (key : BytesN 32) (known : key = initiatorKey ∨ key = respondentKey)
      (sequence : U64) : validProof sampleEd25519 key (zeroProof sequence) = false := by
    show sampleEd25519 key (List.replicate 32 8) (BytesN.fill 64 0) = false
    rcases known with rfl | rfl
    · decide +kernel
    · decide +kernel
  have onlyInitiator : ¬ (Verifies sampleEd25519 initiatorKey (sampleProof initiatorSignature 20) ∧
      Verifies sampleEd25519 respondentKey (zeroProof 10)) := by
    rintro ⟨-, verifies⟩
    cases verifies.symm.trans (invalid respondentKey (Or.inr rfl) 10)
  have neither : ¬ (Verifies sampleEd25519 initiatorKey (zeroProof 10) ∧
      Verifies sampleEd25519 respondentKey (zeroProof 15)) := by
    rintro ⟨verifies, -⟩
    cases verifies.symm.trans (invalid initiatorKey (Or.inl rfl) 10)
  exact ⟨⟨valid, invalid respondentKey (Or.inr rfl) 10,
      not_followsTable_of_invalid (bothSubmitted_dispute _ _) rfl rfl rfl rfl onlyInitiator⟩,
    invalid initiatorKey (Or.inl rfl) 10, invalid respondentKey (Or.inr rfl) 15,
    not_followsTable_of_invalid (bothSubmitted_dispute _ _) rfl rfl rfl rfl neither⟩

/-- With two valid proofs the table is followed. -/
theorem followsTable_bothSubmitted :
    FollowsTable sampleEd25519 (sampleEnv 7) ((machine sampleEd25519).run (freshState ())
        (bothSubmitted (sampleProof initiatorSignature 20) (sampleProof respondentSignature 15))) 1
      (sampleDispute (sampleProof initiatorSignature 20)
        (some (sampleProof respondentSignature 15)) .responded)
      (sampleProof respondentSignature 15) initiatorKey respondentKey := by
  obtain ⟨-, key₁, hkey₁, key₂, hkey₂, hvalid₁, hvalid₂⟩ := answered_bothVerify 20 15
  obtain rfl : initiatorKey = key₁ := Option.some.inj hkey₁
  obtain rfl : respondentKey = key₂ := Option.some.inj hkey₂
  obtain ⟨p, hp, follows⟩ := followsTable_iff sampleEd25519 () _
    (bothSubmitted_dispute (sampleProof initiatorSignature 20) (sampleProof respondentSignature 15))
    rfl rfl rfl (sampleEnv 7)
  obtain rfl : sampleProof respondentSignature 15 = p := Option.some.inj hp
  exact follows.mpr ⟨hvalid₁, hvalid₂⟩

end StellarConduit.DisputeResolver
