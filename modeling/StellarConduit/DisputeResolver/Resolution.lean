import StellarConduit.DisputeResolver.Lifecycle

/-!
# When a dispute can be resolved, and what decides it

Once the deadline has passed, an open dispute is resolved by default and a
responded one by its two proofs.  What the proofs are good for is settled by the
host's verification of a signature over the chain hash; the sequence number that
breaks the tie between two valid proofs is not part of what is signed.

Nothing else is needed for a resolution: `resolve` asks for no signature and calls no other
contract, so what can stand in its way is the window, a missing key, or a signature that does not
verify.  The last two are for good.  A dispute in which one party has submitted an invalid proof
stays responded, and no call changes the proof.

A proof with another sequence number has the same signature and the same hash, so it is accepted
where the first one is.  Between two valid proofs the sequence numbers alone decide, and each is
whatever its party has written into the call.

## Main results

* `resolve_unstuck` — an open dispute, and one with two valid proofs, can be
  resolved after its deadline; one without a valid proof gets no ruling.
* `sequence_decides` — changing an unsigned sequence number is never rejected, and
  changes winner and loser exactly when it changes the comparison.
-/

namespace StellarConduit.DisputeResolver

open Soroban Contract

section Resolution

variable {Address X : Type} {ed25519 : Ed25519} {env : Env Address X} {w : State Address X}
  {id : U64} {d : Dispute Address}

/-- After its deadline an open dispute is resolved, for the initiator. -/
theorem returns_resolve_opened (hd : w.storage.dispute.get id = some d)
    (hopened : d.status = .opened) (hlate : d.resolveBy.val < env.sequence.val) :
    Returns (resolve ed25519 env id) w (defaultRuling env id d)
      (ruled w id d (defaultRuling env id d)) :=
  returns_resolve.mpr ⟨d, hd, rfl, Or.inl ⟨hopened, hlate, rfl⟩⟩

/-- A responded dispute is resolved when both proofs verify. -/
theorem returns_resolve_responded {p : RelayChainProof}
    (hd : w.storage.dispute.get id = some d) (hresponded : d.status = .responded)
    (both : BothVerify ed25519 w.storage d p) :
    Returns (resolve ed25519 env id) w (sequenceRuling env id d p)
      (ruled w id d (sequenceRuling env id d p)) :=
  returns_resolve.mpr ⟨d, hd, rfl, Or.inr ⟨hresponded, p, both, rfl⟩⟩

/-- A responded dispute one of whose proofs does not verify gets no ruling. -/
theorem not_returns_resolve {p : RelayChainProof} (hd : w.storage.dispute.get id = some d)
    (hresponded : d.status = .responded) (hp : d.respondentProof = some p)
    (invalid : ¬ BothVerify ed25519 w.storage d p) (r : Ruling Address) (w' : State Address X) :
    ¬ Returns (resolve ed25519 env id) w r w' := by
  intro h
  obtain ⟨e, he, -, ⟨hopened, -⟩ | ⟨-, q, both, -⟩⟩ := returns_resolve.mp h
  · obtain rfl : d = e := Option.some.inj (hd.symm.trans he)
    rw [hresponded] at hopened
    cases hopened
  · obtain rfl : d = e := Option.some.inj (hd.symm.trans he)
    obtain rfl : p = q := Option.some.inj (hp.symm.trans both.1)
    exact invalid both

variable [DecidableEq Address] {council : AdminCouncil Address} {resolutionWindow : U32} {x : X}
  {u : Unit}

/-- **No dispute with the proofs it needs is stuck.**  After the deadline, with
both keys registered, `resolve` returns a ruling on every dispute that is open,
and on every responded one whose two signatures verify.  Where neither verifies
it issues none. -/
theorem resolve_unstuck
    (h : Returns (initializeContract council resolutionWindow) (freshState x) u w)
    (as : List (Action Address X (Call Address) (Provision Address)))
    {initiatorKey respondentKey : BytesN 32}
    (hd : ((machine ed25519).run w as).storage.dispute.get id = some d)
    (hunresolved : d.status ≠ .resolved)
    (hinitiator : ((machine ed25519).run w as).storage.publicKey.get d.initiator =
      some initiatorKey)
    (hrespondent : ((machine ed25519).run w as).storage.publicKey.get d.respondent =
      some respondentKey)
    (hlate : d.resolveBy.val < env.sequence.val) :
    ((d.status = .opened ∨ ∃ p, d.respondentProof = some p ∧
          Verifies ed25519 initiatorKey d.initiatorProof ∧ Verifies ed25519 respondentKey p) →
        ∃ ruling w', Returns (resolve ed25519 env id) ((machine ed25519).run w as) ruling w') ∧
      ∀ p, d.respondentProof = some p → ¬ Verifies ed25519 initiatorKey d.initiatorProof →
        ¬ Verifies ed25519 respondentKey p →
          ∀ ruling w',
            ¬ Returns (resolve ed25519 env id) ((machine ed25519).run w as) ruling w' := by
  have hinv := (lifecycle_reached ed25519 h as).dispute id d hd
  have responded (hopened : d.status ≠ .opened) : d.status = .responded := by
    have hexpired := hinv.not_expired
    cases hstatus : d.status <;> simp_all
  constructor
  · intro hproofs
    by_cases hopened : d.status = .opened
    · exact ⟨_, _, returns_resolve_opened hd hopened hlate⟩
    · obtain ⟨p, hp, hvalid₁, hvalid₂⟩ := hproofs.resolve_left hopened
      exact ⟨_, _, returns_resolve_responded hd (responded hopened)
        ⟨hp, initiatorKey, hinitiator, respondentKey, hrespondent, hvalid₁, hvalid₂⟩⟩
  · intro p hp hinvalid _ ruling w'
    have hopened : d.status ≠ .opened := by
      intro hopened
      rw [hinv.opened hopened] at hp
      cases hp
    refine not_returns_resolve hd (responded hopened) hp ?_ ruling w'
    rintro ⟨-, key, hkey, _, -, hvalid, -⟩
    obtain rfl : initiatorKey = key := Option.some.inj (hinitiator.symm.trans hkey)
    exact hinvalid hvalid

end Resolution

/-! ## The sequence numbers -/

section Sequences

variable {Address X : Type}

/-- The dispute with another sequence number in the initiator's proof. -/
def Dispute.withInitiatorSequence (d : Dispute Address) (n : U64) : Dispute Address :=
  { d with initiatorProof := { d.initiatorProof with sequence := n } }

/-- The dispute with another sequence number in the respondent's proof. -/
def Dispute.withRespondentSequence (d : Dispute Address) (n : U64) : Dispute Address :=
  { d with respondentProof := d.respondentProof.map fun p => { p with sequence := n } }

/-- The world in which `id` holds the dispute `d`. -/
def withDispute (w : State Address X) (id : U64) (d : Dispute Address) : State Address X :=
  { w with storage := { w.storage with dispute := w.storage.dispute.set id d } }

/-- Two rulings agree on who won and who lost. -/
def SameOutcome (r r' : Ruling Address) : Prop := r'.winner = r.winner ∧ r'.loser = r.loser

variable {ed25519 : Ed25519} {env : Env Address X} {w : State Address X} {id : U64}
  {d d' : Dispute Address} {p p' : RelayChainProof}

/-- Between different parties, two rulings by sequence agree exactly when the two
comparisons do. -/
theorem sameOutcome_sequenceRuling_iff (hparties : d.initiator ≠ d.respondent)
    (hinitiator : d'.initiator = d.initiator) (hrespondent : d'.respondent = d.respondent) :
    SameOutcome (sequenceRuling env id d p) (sequenceRuling env id d' p') ↔
      (d'.initiatorProof.sequence ≤ p'.sequence ↔ d.initiatorProof.sequence ≤ p.sequence) := by
  unfold SameOutcome sequenceRuling
  by_cases h : d.initiatorProof.sequence ≤ p.sequence <;>
    by_cases h' : d'.initiatorProof.sequence ≤ p'.sequence <;>
      simp only [h, h', if_true, if_false, hinitiator, hrespondent] <;>
        simp [hparties, hparties.symm]

variable [DecidableEq Address] {council : AdminCouncil Address} {resolutionWindow : U32} {x : X}
  {u : Unit}

/-- **The sequence numbers decide, and they are not signed.**  In a responded
dispute whose two signatures verify, replacing the sequence number of either proof
is never rejected, and leaves winner and loser as they were exactly when the
comparison of the two numbers comes out the same. -/
theorem sequence_decides
    (h : Returns (initializeContract council resolutionWindow) (freshState x) u w)
    (as : List (Action Address X (Call Address) (Provision Address)))
    (hd : ((machine ed25519).run w as).storage.dispute.get id = some d)
    (hresponded : d.status = .responded)
    (both : BothVerify ed25519 ((machine ed25519).run w as).storage d p) (env : Env Address X) :
    ∃ ruling w', Returns (resolve ed25519 env id) ((machine ed25519).run w as) ruling w' ∧
      ∀ n : U64,
        (∃ ruling₁ w₁, Returns (resolve ed25519 env id)
            (withDispute ((machine ed25519).run w as) id (d.withInitiatorSequence n)) ruling₁ w₁ ∧
          (SameOutcome ruling ruling₁ ↔
            (n ≤ p.sequence ↔ d.initiatorProof.sequence ≤ p.sequence))) ∧
        ∃ ruling₂ w₂, Returns (resolve ed25519 env id)
            (withDispute ((machine ed25519).run w as) id (d.withRespondentSequence n)) ruling₂ w₂ ∧
          (SameOutcome ruling ruling₂ ↔
            (d.initiatorProof.sequence ≤ n ↔ d.initiatorProof.sequence ≤ p.sequence)) := by
  have hparties := ((lifecycle_reached ed25519 h as).dispute id d hd).parties
  obtain ⟨hp, initiatorKey, hinitiator, respondentKey, hrespondent, hvalid₁, hvalid₂⟩ := both
  refine ⟨_, _, returns_resolve_responded hd hresponded
    ⟨hp, initiatorKey, hinitiator, respondentKey, hrespondent, hvalid₁, hvalid₂⟩, fun n => ⟨?_, ?_⟩⟩
  · -- The signature does not cover the sequence: the same verifications go through.
    refine ⟨_, _, returns_resolve_responded (d := d.withInitiatorSequence n) (p := p)
      (Store.get_set_self _ _ _) hresponded
      ⟨hp, initiatorKey, hinitiator, respondentKey, hrespondent, hvalid₁, hvalid₂⟩, ?_⟩
    exact sameOutcome_sequenceRuling_iff hparties rfl rfl
  · refine ⟨_, _, returns_resolve_responded (d := d.withRespondentSequence n)
      (p := { p with sequence := n }) (Store.get_set_self _ _ _) hresponded
      ⟨by rw [Dispute.withRespondentSequence, hp]; rfl, initiatorKey, hinitiator, respondentKey,
        hrespondent, hvalid₁, hvalid₂⟩, ?_⟩
    exact sameOutcome_sequenceRuling_iff hparties rfl rfl

end Sequences

/-! ## Two parties with real keys -/

/-- The Ed25519 public key of the secret seed `[1; 32]`. -/
def initiatorKey : BytesN 32 :=
  ⟨[138, 136, 227, 221, 116, 9, 241, 149, 253, 82, 219, 45, 60, 186, 93, 114, 202, 103, 9, 191,
    29, 148, 18, 27, 243, 116, 136, 1, 180, 15, 111, 92], rfl⟩

/-- The Ed25519 public key of the secret seed `[2; 32]`. -/
def respondentKey : BytesN 32 :=
  ⟨[129, 57, 119, 14, 168, 125, 23, 95, 86, 163, 84, 102, 195, 76, 126, 204, 203, 141, 138,
    145, 180, 238, 55, 162, 93, 246, 15, 91, 143, 201, 179, 148], rfl⟩

/-- The signature of the message `[8; 32]` under the first seed. -/
def initiatorSignature : BytesN 64 :=
  ⟨[231, 55, 193, 134, 243, 220, 89, 3, 125, 244, 98, 49, 24, 200, 199, 166, 227, 80, 74, 105,
    245, 189, 74, 77, 33, 215, 184, 206, 94, 135, 80, 190, 57, 6, 69, 87, 166, 120, 102, 174,
    78, 247, 218, 41, 136, 186, 231, 235, 76, 127, 42, 6, 33, 131, 175, 104, 102, 254, 230, 82,
    35, 157, 153, 2], rfl⟩

/-- The signature of the message `[8; 32]` under the second seed. -/
def respondentSignature : BytesN 64 :=
  ⟨[20, 109, 181, 214, 37, 17, 2, 143, 28, 234, 137, 152, 143, 241, 202, 133, 140, 118, 231,
    68, 175, 92, 0, 217, 140, 62, 151, 55, 239, 124, 198, 223, 238, 133, 17, 25, 84, 226, 96,
    24, 173, 240, 239, 184, 45, 68, 147, 182, 167, 91, 195, 209, 64, 227, 182, 180, 204, 91,
    247, 61, 171, 170, 136, 2], rfl⟩

/-- Verification for these two keys: the two signatures above are valid for their
key and message, and nothing else is. -/
def sampleEd25519 : Ed25519 := fun publicKey message signature =>
  message == List.replicate 32 8 &&
    (publicKey == initiatorKey && signature == initiatorSignature ||
      publicKey == respondentKey && signature == respondentSignature)

/-- A ledger on which every address authorises. -/
def sampleEnv (sequence : U32) : Env ℕ Unit where
  currentContract := 0
  sequence := sequence
  timestamp := 1000
  authorised := fun _ => true
  invokeContract := fun _ _ _ _ => none

/-- The resolver of a one-member council with a window of a hundred ledgers. -/
def sampleResolver : State ℕ Unit := initialState ⟨[7], 1⟩ 100 ()

/-- The sample resolver is one that has been initialized. -/
theorem sampleResolver_initialized :
    Returns (initializeContract ⟨[7], 1⟩ 100) (freshState ()) () sampleResolver :=
  returns_initializeContract_freshState.mpr ⟨by decide, by decide, rfl⟩

/-- A proof over the chain hash `[8; 32]`. -/
def sampleProof (signature : BytesN 64) (sequence : U64) : RelayChainProof where
  signature := signature
  chainHash := BytesN.fill 32 8
  sequence := sequence

/-- Both keys are registered and the dispute is raised. -/
def raised (initiatorProof : RelayChainProof) :
    List (Action ℕ Unit (Call ℕ) (Provision ℕ)) :=
  [.provision (.setPublicKey 1 initiatorKey), .provision (.setPublicKey 2 respondentKey),
    .call (sampleEnv 5) (.raiseDispute 1 2 (BytesN.fill 32 9) initiatorProof)]

/-- The respondent answers. -/
def answered (initiatorProof respondentProof : RelayChainProof) :
    List (Action ℕ Unit (Call ℕ) (Provision ℕ)) :=
  raised initiatorProof ++ [.call (sampleEnv 6) (.respond 2 1 respondentProof)]

/-- The dispute that these runs store under the key 1. -/
def sampleDispute (initiatorProof : RelayChainProof) (respondentProof : Option RelayChainProof)
    (status : DisputeStatus) : Dispute ℕ where
  disputeId := 1
  txId := BytesN.fill 32 9
  initiator := 1
  respondent := 2
  initiatorProof := initiatorProof
  respondentProof := respondentProof
  status := status
  raisedAt := 1000
  resolveBy := 105

/-- The dispute that is raised has the given proof and no answer. -/
theorem raised_dispute (initiatorProof : RelayChainProof) :
    ((machine sampleEd25519).run sampleResolver (raised initiatorProof)).storage.dispute.get 1 =
      some (sampleDispute initiatorProof none .opened) := rfl

/-- The dispute that is answered has both proofs. -/
theorem answered_dispute (initiatorProof respondentProof : RelayChainProof) :
    ((machine sampleEd25519).run sampleResolver
        (answered initiatorProof respondentProof)).storage.dispute.get 1 =
      some (sampleDispute initiatorProof (some respondentProof) .responded) := rfl

/-- Two signatures that verify. -/
theorem answered_bothVerify (m n : U64) :
    BothVerify sampleEd25519
      ((machine sampleEd25519).run sampleResolver (answered (sampleProof initiatorSignature m)
        (sampleProof respondentSignature n))).storage
      (sampleDispute (sampleProof initiatorSignature m) (some (sampleProof respondentSignature n))
        .responded)
      (sampleProof respondentSignature n) := by
  refine ⟨rfl, initiatorKey, rfl, respondentKey, rfl, ?_, ?_⟩
  · show sampleEd25519 initiatorKey (List.replicate 32 8) initiatorSignature = true
    decide +kernel
  · show sampleEd25519 respondentKey (List.replicate 32 8) respondentSignature = true
    decide +kernel

/-- After its deadline, the open dispute can be resolved. -/
theorem resolve_unstuck_raised :
    ∃ ruling w', Returns (resolve sampleEd25519 (sampleEnv 200) 1)
      ((machine sampleEd25519).run sampleResolver (raised (sampleProof initiatorSignature 20)))
      ruling w' :=
  (resolve_unstuck sampleResolver_initialized _ (raised_dispute _) (by decide)
    rfl rfl (by decide)).1
    (Or.inl rfl)

/-- A proof with a signature of zero bytes. -/
def zeroProof (sequence : U64) : RelayChainProof := sampleProof (BytesN.fill 64 0) sequence

/-- A signature of zeros is not the initiator's. -/
theorem not_verifies_zeroProof (sequence : U64) :
    ¬ Verifies sampleEd25519 initiatorKey (zeroProof sequence) := by
  show ¬ sampleEd25519 initiatorKey (List.replicate 32 8) (BytesN.fill 64 0) = true
  decide +kernel

/-- Both parties have submitted such a proof. -/
def zeroSigned : State ℕ Unit :=
  (machine sampleEd25519).run sampleResolver (answered (zeroProof 10) (zeroProof 15))

/-- Before the answer the dispute would be resolved by default; after it no call at
any time resolves it. -/
theorem stuck_without_valid_proof :
    (∃ ruling w', Returns (resolve sampleEd25519 (sampleEnv 200) 1)
        ((machine sampleEd25519).run sampleResolver (raised (zeroProof 10))) ruling w') ∧
      ∃ d, zeroSigned.storage.dispute.get 1 = some d ∧ d.status ≠ .resolved ∧
        zeroSigned.storage.publicKey.get d.initiator = some initiatorKey ∧
        zeroSigned.storage.publicKey.get d.respondent = some respondentKey ∧
        d.resolveBy.val < (sampleEnv 200).sequence.val ∧
        ∀ env ruling w', ¬ Returns (resolve sampleEd25519 env 1) zeroSigned ruling w' := by
  refine ⟨⟨_, _, returns_resolve_opened (raised_dispute _) rfl (by decide)⟩, _,
    answered_dispute _ _, by decide, rfl, rfl, by decide, fun env ruling w' => ?_⟩
  refine not_returns_resolve (answered_dispute _ _) rfl rfl ?_ ruling w'
  rintro ⟨-, key, hkey, _, -, hvalid, -⟩
  obtain rfl : initiatorKey = key := Option.some.inj hkey
  exact not_verifies_zeroProof 10 hvalid

/-- Both parties have submitted a signed proof, with the numbers 20 and 15. -/
def bothSigned : State ℕ Unit :=
  (machine sampleEd25519).run sampleResolver
    (answered (sampleProof initiatorSignature 20) (sampleProof respondentSignature 15))

/-- The dispute of this state. -/
def bothSignedDispute : Dispute ℕ :=
  sampleDispute (sampleProof initiatorSignature 20) (some (sampleProof respondentSignature 15))
    .responded

/-- A dispute with two valid proofs can be resolved. -/
theorem sequence_decides_bothSigned :
    ∃ ruling w', Returns (resolve sampleEd25519 (sampleEnv 200) 1) bothSigned ruling w' := by
  obtain ⟨ruling, w', hreturns, -⟩ := sequence_decides sampleResolver_initialized _
    (answered_dispute _ _) rfl (answered_bothVerify 20 15) (sampleEnv 200)
  exact ⟨ruling, w', hreturns⟩

/-- The respondent wins with the lower number; put 10 for the initiator's 20, under
the same signature, and the initiator does. -/
theorem unsigned_sequence_wins :
    bothSigned.storage.dispute.get 1 = some bothSignedDispute ∧
      bothSignedDispute.status = .responded ∧
      BothVerify sampleEd25519 bothSigned.storage bothSignedDispute
        (sampleProof respondentSignature 15) ∧
      ∃ ruling w' ruling₁ w₁,
        Returns (resolve sampleEd25519 (sampleEnv 200) 1) bothSigned ruling w' ∧
        Returns (resolve sampleEd25519 (sampleEnv 200) 1)
          (withDispute bothSigned 1 (bothSignedDispute.withInitiatorSequence 10)) ruling₁ w₁ ∧
        ¬ SameOutcome ruling ruling₁ := by
  refine ⟨answered_dispute _ _, rfl, answered_bothVerify 20 15, _, _, _, _,
    returns_resolve_responded (answered_dispute _ _) rfl (answered_bothVerify 20 15),
    returns_resolve_responded (Store.get_set_self _ _ _) rfl (answered_bothVerify 10 15), ?_⟩
  intro hsame
  refine absurd ((sameOutcome_sequenceRuling_iff ?_ ?_ ?_).mp hsame) (by decide +kernel)
  · decide
  · rfl
  · rfl

end StellarConduit.DisputeResolver
