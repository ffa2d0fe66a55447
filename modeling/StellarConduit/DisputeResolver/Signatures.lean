import StellarConduit.DisputeResolver.History
import StellarConduit.DisputeResolver.Verdict
import StellarConduit.EntryPoints

/-!
# What a signature proves

A ruling on a response is issued over two signatures that verify, each under the key
registered for its party; a ruling by default is issued over none.  A signature covers
the chain hash of its proof and nothing of the dispute, so where it verifies once it
verifies in every dispute of the same party.

The signed message is the hash alone.  The sequence number, by which the ruling between two
valid proofs is made, is not part of it, and neither are the number of the dispute and the
transaction.  Whoever has a signed hash can therefore submit it with a sequence number of his
own choice, and again in another dispute.

`Dispute.Submitted a p` says that `p` is the proof of the party `a` as it is stored, and
`Accepted` that its signature verifies under the key that is registered at the moment.  A proof
that was submitted stays, since disputes evolve; a key is registered, and may be replaced, from
outside only.  So that a proof replays is stated of two states, reached by any two runs, in
which the party has the same key.

## Main definitions

* `Dispute.Submitted`, `Submits` — a proof in a dispute, and the call that has brought it there.
* `Accepted` — its signature verifies under the registered key.

## Main results

* `winner_proven` — who wins after a response has submitted a signature that verifies;
  without a response the initiator wins.
* `proof_replays` — a signature accepted in one dispute is accepted in every other, in
  any run.
-/

namespace StellarConduit.DisputeResolver

open Soroban Contract

/-! ## Submitted proofs

The proof of the initiator is stored with the dispute and that of the respondent with the answer,
and neither is rewritten.  Each was handed in by a call that its party has signed.
-/

section Submissions

variable {Address X : Type}

/-- The party has submitted the proof in the dispute. -/
def Dispute.Submitted (d : Dispute Address) (a : Address) (p : RelayChainProof) : Prop :=
  a = d.initiator ∧ p = d.initiatorProof ∨ a = d.respondent ∧ d.respondentProof = some p

/-- The step submitted the proof in the dispute `id` for a party that authorised it. -/
def Submits (id : U64) (a : Address) (p : RelayChainProof) (r : Step Address X) : Prop :=
  ∃ env : Env Address X, env.authorised a = true ∧
    ((∃ respondent txId, r.action = .call env (.raiseDispute a respondent txId p) ∧
        r.reply = some (.ok (.disputeId id))) ∨
      r.action = .call env (.respond a id p) ∧ r.reply = some (.ok .unit))

/-- The proof is signed with the registered key of the party. -/
def Accepted (ed25519 : Ed25519) (s : Storage Address) (a : Address) (p : RelayChainProof) :
    Prop :=
  ∃ key, s.publicKey.get a = some key ∧ Verifies ed25519 key p

/-- The step replaces no registered key. -/
def ReplacesNoKey (r : Step Address X) : Prop :=
  ∀ a key key', r.action = .provision (.setPublicKey a key) →
    r.before.storage.publicKey.get a = some key' → key = key'

/-- A proof that was submitted stays. -/
theorem Dispute.Submitted.evolves {d d' : Dispute Address} {a : Address} {p : RelayChainProof}
    (h : d.Submitted a p) (evolves : Evolves d d') : d'.Submitted a p := by
  rcases h with ⟨rfl, rfl⟩ | ⟨rfl, hp⟩
  · exact Or.inl ⟨evolves.initiator.symm, evolves.initiatorProof.symm⟩
  · exact Or.inr ⟨evolves.respondent.symm, evolves.respondentProof p hp⟩

/-- Acceptance is settled by key, signature and chain hash. -/
theorem accepted_iff_of_same {ed25519 : Ed25519} {s s' : Storage Address} {a : Address}
    {p p' : RelayChainProof} (key : s'.publicKey.get a = s.publicKey.get a)
    (signature : p'.signature = p.signature) (chainHash : p'.chainHash = p.chainHash) :
    Accepted ed25519 s' a p' ↔ Accepted ed25519 s a p := by
  unfold Accepted Verifies
  rw [key, signature, chainHash]

variable {ed25519 : Ed25519} {env : Env Address X} {w : State Address X} {id : U64}
  {d : Dispute Address}

/-- A responded dispute is resolved exactly when both of its proofs are accepted. -/
theorem resolve_iff_accepted (docket : Docket w.storage)
    (hd : w.storage.dispute.get id = some d) (hresponded : d.status = .responded) :
    (∃ ruling w', Returns (resolve ed25519 env id) w ruling w') ↔
      ∀ a p, d.Submitted a p → Accepted ed25519 w.storage a p := by
  obtain ⟨p, hp⟩ := Option.isSome_iff_exists.mp ((docket.dispute id d hd).responded hresponded)
  constructor
  · rintro ⟨ruling, w', h⟩
    by_contra hall
    refine not_returns_resolve hd hresponded hp ?_ ruling w' h
    rintro ⟨-, initiatorKey, hinitiator, respondentKey, hrespondent, hvalid₁, hvalid₂⟩
    refine hall fun a q submitted => ?_
    rcases submitted with ⟨rfl, rfl⟩ | ⟨rfl, hq⟩
    · exact ⟨initiatorKey, hinitiator, hvalid₁⟩
    · obtain rfl := Option.some.inj (hp.symm.trans hq)
      exact ⟨respondentKey, hrespondent, hvalid₂⟩
  · intro hall
    obtain ⟨initiatorKey, hinitiator, hvalid₁⟩ := hall d.initiator _ (Or.inl ⟨rfl, rfl⟩)
    obtain ⟨respondentKey, hrespondent, hvalid₂⟩ := hall d.respondent p (Or.inr ⟨rfl, hp⟩)
    exact ⟨_, _, returns_resolve_responded hd hresponded
      ⟨hp, initiatorKey, hinitiator, respondentKey, hrespondent, hvalid₁, hvalid₂⟩⟩

/-- The winner of a ruling between two proofs has submitted one that is accepted. -/
theorem exists_accepted_winner (env : Env Address X) (id : U64) {s : Storage Address}
    {p : RelayChainProof} (both : BothVerify ed25519 s d p) :
    ∃ q, d.Submitted (sequenceRuling env id d p).winner q ∧
      Accepted ed25519 s (sequenceRuling env id d p).winner q := by
  obtain ⟨hp, initiatorKey, hinitiator, respondentKey, hrespondent, hvalid₁, hvalid₂⟩ := both
  have between : RulesBetween d (sequenceRuling env id d p) := rulesBetween_sequenceRuling id d p
  rcases between with ⟨winner, -⟩ | ⟨winner, -⟩
  · rw [winner]
    exact ⟨d.initiatorProof, Or.inl ⟨rfl, rfl⟩, initiatorKey, hinitiator, hvalid₁⟩
  · rw [winner]
    exact ⟨p, Or.inr ⟨rfl, hp⟩, respondentKey, hrespondent, hvalid₂⟩

end Submissions

/-! ## Who wins

A ruling between two proofs is made only when both verify, so whoever wins has submitted one that
does.  A ruling by default looks at no proof at all, and the sample at the end has an initiator
who wins with a signature of zero bytes.
-/

section Winners

variable {Address X : Type} [DecidableEq Address]

/-- What a party is stored to have submitted it did submit. -/
theorem exists_submits (ed25519 : Ed25519) (x : X)
    (as : List (Action Address X (Call Address) (Provision Address))) {id : U64}
    {d : Dispute Address} {a : Address} {p : RelayChainProof}
    (hd : ((machine ed25519).run (freshState x) as).storage.dispute.get id = some d)
    (submitted : d.Submitted a p) :
    ∃ r ∈ (machine ed25519).trace (freshState x) as, Submits id a p r := by
  rcases submitted with ⟨rfl, rfl⟩ | ⟨rfl, hp⟩
  · obtain ⟨r, hr, env, authorised, action, reply⟩ := raised_in_run ed25519 x as hd
    exact ⟨r, hr, env, authorised, Or.inl ⟨_, _, action, reply⟩⟩
  · obtain ⟨r, hr, env, authorised, action, reply⟩ := answered_in_run ed25519 x as hd hp
    exact ⟨r, hr, env, authorised, Or.inr ⟨action, reply⟩⟩

variable {ed25519 : Ed25519}

/-- A step that replaces no key leaves a registered key in place. -/
theorem publicKey_step {a : Address} {key : BytesN 32} (w : State Address X)
    (action : Action Address X (Call Address) (Provision Address))
    (replaces : ReplacesNoKey ((machine ed25519).record w action))
    (hkey : w.storage.publicKey.get a = some key) :
    ((machine ed25519).step w action).2.storage.publicKey.get a = some key := by
  revert replaces
  refine Deployed.record_rule (dispatch ed25519) provide
    (fun r => ReplacesNoKey r → r.after.storage.publicKey.get a = some key) w action
    ?returned ?failed ?provision ?elsewhere
  case returned =>
    intro env c v w' h _
    rwa [publicKey_call h]
  case failed =>
    intro env c e _
    exact hkey
  case provision =>
    intro p replaces
    obtain ⟨b, key'⟩ := p
    show (w.storage.publicKey.set b key').get a = some key
    rw [Store.get_set]
    split
    · rename_i hab
      rw [hab] at hkey
      exact congrArg some (replaces b key' key rfl hkey)
    · exact hkey
  case elsewhere =>
    intro x _
    exact hkey

/-- What is accepted stays accepted while no key is replaced. -/
theorem accepted_run {w : State Address X}
    {as : List (Action Address X (Call Address) (Provision Address))}
    (keys : ∀ r ∈ (machine ed25519).trace w as, ReplacesNoKey r) {a : Address}
    {p : RelayChainProof} (h : Accepted ed25519 w.storage a p) :
    Accepted ed25519 ((machine ed25519).run w as).storage a p := by
  obtain ⟨key, hkey, hvalid⟩ := h
  have later := (machine ed25519).run_invariant_of
    (fun w => w.storage.publicKey.get a = some key) ReplacesNoKey publicKey_step hkey keys
  exact ⟨key, later, hvalid⟩

/-- A dispute that is resolved by default is answered by no step of the run. -/
theorem not_answers_of_isDefault {x : X}
    {as : List (Action Address X (Call Address) (Provision Address))}
    {hist post : List (Step Address X)} {r r' : Step Address X} {id : U64}
    {ruling : Ruling Address}
    (split : (machine ed25519).trace (freshState x) as = hist ++ r :: post)
    (resolves : Resolves id ruling r) (hdefault : ruling.IsDefault)
    (hr' : r' ∈ (machine ed25519).trace (freshState x) as) : ¬ Answers id r' := by
  intro answers
  rw [split] at hr'
  rcases List.mem_append.mp hr' with earlier | here
  · obtain ⟨hist₁, hist₂, rfl⟩ := List.append_of_mem earlier
    rw [List.append_assoc, List.cons_append] at split
    exact not_isDefault_after_answer split answers
      (List.mem_append_right _ List.mem_cons_self) resolves hdefault
  · rcases List.mem_cons.mp here with rfl | later
    · obtain ⟨_, action, -⟩ := resolves
      obtain ⟨_, _, _, action', -⟩ := answers
      rw [action] at action'
      cases action'
    · exact not_answers_after_ruling split resolves later answers

/-- **Who wins after a response has proven it; without one the initiator wins.**  In
every state reached from the deployment on by steps that replace no key, and for every
stored ruling: when the dispute was answered, the winner submitted in it a proof whose
signature verifies under the winner's registered key; when it was not, the ruling is
the one by default, for the initiator. -/
theorem winner_proven (ed25519 : Ed25519) (x : X)
    (as : List (Action Address X (Call Address) (Provision Address)))
    (keys : ∀ r ∈ (machine ed25519).trace (freshState x) as, ReplacesNoKey r) {id : U64}
    {ruling : Ruling Address}
    (hruling : ((machine ed25519).run (freshState x) as).storage.ruling.get id = some ruling) :
    let records := (machine ed25519).trace (freshState x) as
    let s := ((machine ed25519).run (freshState x) as).storage
    ((∃ r ∈ records, Answers id r) → ∃ p, (∃ r ∈ records, Submits id ruling.winner p r) ∧
        Accepted ed25519 s ruling.winner p) ∧
      ((∀ r ∈ records, ¬ Answers id r) → ruling.IsDefault ∧
        ∃ d, s.dispute.get id = some d ∧ ruling.winner = d.initiator ∧
          ruling.loser = d.respondent) := by
  intro records s
  obtain ⟨hist, r, post, split, resolves⟩ := ruled_in_run ed25519 x as hruling
  have hr : r ∈ records := by
    show r ∈ (machine ed25519).trace (freshState x) as
    rw [split]
    exact List.mem_append_right _ List.mem_cons_self
  obtain ⟨env, hresolve⟩ := resolves_record ((machine ed25519).record_of_mem_trace hr) resolves
  -- The run from the ruling on keeps the dispute and the keys.
  obtain ⟨rest, hrun, htrace⟩ := (machine ed25519).run_of_split split
  have kept := kept_run ed25519 (docket_before ed25519 x as hr) rest
  rw [hrun] at kept
  have keysKept : ∀ r' ∈ (machine ed25519).trace r.before rest, ReplacesNoKey r' := by
    intro r' hr'
    rw [htrace] at hr'
    apply keys r'
    rw [split]
    exact List.mem_append_right _ hr'
  obtain ⟨d, hd, -, hexit⟩ := returns_resolve.mp hresolve
  obtain ⟨d', hd', evolves⟩ := kept.dispute id d hd
  rcases hexit with ⟨-, -, rfl⟩ | ⟨-, p, both, rfl⟩
  · refine ⟨?_, fun _ => ⟨isDefault_defaultRuling, d', hd', evolves.initiator.symm,
      evolves.respondent.symm⟩⟩
    rintro ⟨r', hr', answers⟩
    exact absurd answers (not_answers_of_isDefault split resolves isDefault_defaultRuling hr')
  · constructor
    · intro _
      obtain ⟨q, submitted, accepted⟩ := exists_accepted_winner env id both
      have later := accepted_run keysKept accepted
      rw [hrun] at later
      exact ⟨q, exists_submits ed25519 x as hd' (submitted.evolves evolves), later⟩
    · intro unanswered
      obtain ⟨r', hr', env', -, action, reply⟩ :=
        answered_in_run ed25519 x as hd' (evolves.respondentProof p both.1)
      exact absurd ⟨env', _, _, action, reply⟩ (unanswered r' hr')

end Winners

/-- Both parties submit a signed proof, and the dispute is resolved. -/
def resolvedBoth : List (Action ℕ Unit (Call ℕ) (Provision ℕ)) :=
  answeredBoth ++ [.call (sampleEnv 7) (.resolve 1)]

/-- The respondent of the sample run has the lower sequence number. -/
theorem resolvedBoth_ruling :
    ((machine sampleEd25519).run (freshState ()) resolvedBoth).storage.ruling.get 1 =
      some (sequenceRuling (sampleEnv 7) 1 bothSignedDispute
        (sampleProof respondentSignature 15)) := by
  have resolved : Returns (resolve sampleEd25519 (sampleEnv 7) 1) bothSigned _ _ :=
    returns_resolve_responded (answered_dispute _ _) rfl (answered_bothVerify 20 15)
  have call : Returns (dispatch sampleEd25519 (sampleEnv 7) (.resolve 1)) bothSigned _ _ :=
    returns_bind_pure.mpr ⟨_, resolved, rfl⟩
  have after : (machine sampleEd25519).run (freshState ()) resolvedBoth =
      ((machine sampleEd25519).step bothSigned (.call (sampleEnv 7) (.resolve 1))).2 := rfl
  have step : (machine sampleEd25519).step bothSigned (.call (sampleEnv 7) (.resolve 1)) = _ :=
    Deployed.step_of_returns (dispatch sampleEd25519) provide call
  rw [after, step]
  exact Store.get_set_self _ _ _

/-- The two keys of these runs are registered once. -/
theorem resolvedBoth_replacesNoKey :
    ∀ r ∈ (machine sampleEd25519).trace (freshState ()) resolvedBoth, ReplacesNoKey r := by
  have call (env : Env ℕ Unit) (c : Call ℕ) (w : State ℕ Unit) :
      ReplacesNoKey ((machine sampleEd25519).record w (.call env c)) := by
    intro a key key' action _
    cases action
  have first (w : State ℕ Unit) (a : ℕ) (key : BytesN 32)
      (missing : w.storage.publicKey.get a = none) :
      ReplacesNoKey ((machine sampleEd25519).record w (.provision (.setPublicKey a key))) := by
    intro b key₁ key₂ action found
    cases action
    cases missing.symm.trans found
  exact List.forall_mem_cons.mpr ⟨call _ _ _, List.forall_mem_cons.mpr ⟨first _ _ _ rfl,
    List.forall_mem_cons.mpr ⟨first _ _ _ rfl, List.forall_mem_cons.mpr ⟨call _ _ _,
      List.forall_mem_cons.mpr ⟨call _ _ _, List.forall_mem_cons.mpr ⟨call _ _ _,
        List.forall_mem_nil _⟩⟩⟩⟩⟩⟩

/-- And has submitted a proof that verifies. -/
theorem winner_proven_resolvedBoth :
    ∃ p, (∃ r ∈ (machine sampleEd25519).trace (freshState ()) resolvedBoth, Submits 1 2 p r) ∧
      Accepted sampleEd25519 ((machine sampleEd25519).run (freshState ()) resolvedBoth).storage
        2 p := by
  refine (winner_proven sampleEd25519 () resolvedBoth resolvedBoth_replacesNoKey
    resolvedBoth_ruling).1 ⟨_, (machine sampleEd25519).mem_trace.mpr ⟨.call (sampleEnv 4)
      (.initializeContract ⟨[7], 1⟩ 100) :: raised (sampleProof initiatorSignature 20), _, _, rfl,
      rfl⟩, sampleEnv 6, 2, _, rfl, rfl⟩

/-- Both keys are registered, the initiator raises the dispute with a signature of zero
bytes, and it is resolved after the deadline. -/
def resolvedUnanswered : List (Action ℕ Unit (Call ℕ) (Provision ℕ)) :=
  .call (sampleEnv 4) (.initializeContract ⟨[7], 1⟩ 100) :: raised (zeroProof 10) ++
    [.call (sampleEnv 200) (.resolve 1)]

/-- The initiator wins, and has submitted nothing that verifies. -/
theorem default_without_valid_proof :
    ∃ ruling, ((machine sampleEd25519).run (freshState ())
        resolvedUnanswered).storage.ruling.get 1 = some ruling ∧
      ruling.winner = 1 ∧
      ((machine sampleEd25519).run (freshState ()) resolvedUnanswered).storage.publicKey.get 1 =
        some initiatorKey ∧
      ((machine sampleEd25519).run (freshState ()) resolvedUnanswered).storage.publicKey.get 2 =
        some respondentKey ∧
      ∀ r ∈ (machine sampleEd25519).trace (freshState ()) resolvedUnanswered, ∀ p,
        Submits 1 ruling.winner p r → ¬ Verifies sampleEd25519 initiatorKey p := by
  refine ⟨defaultRuling (sampleEnv 200) 1 (sampleDispute (zeroProof 10) none .opened), rfl, rfl,
    rfl, rfl, fun r hr p submits => ?_⟩
  have only : p = zeroProof 10 := by
    obtain ⟨env, -, ⟨_, _, action, -⟩ | ⟨action, -⟩⟩ := submits
    · have mem := (machine sampleEd25519).action_mem_of_mem_trace hr
      rw [action] at mem
      obtain ⟨-, -, -, -, rfl⟩ : _ ∧ _ ∧ _ ∧ _ ∧ p = zeroProof 10 := by
        simpa [resolvedUnanswered, raised] using mem
      rfl
    · have mem := (machine sampleEd25519).action_mem_of_mem_trace hr
      rw [action] at mem
      simp [resolvedUnanswered, raised] at mem
  rw [only]
  exact not_verifies_zeroProof 10

/-! ## Replayed proofs

A proof is accepted by what is stored of it and of the key; the dispute it stands in does not
enter.  So it is enough that key, signature and chain hash are the same.
-/

section Replays

variable {Address X : Type} [DecidableEq Address]

/-- **A signature is bound to a key, not to a dispute.**  Take two responded disputes,
over whatever transactions, in states reached from the deployment on by any two runs,
and a party of both with one registered key that has submitted the same signature over
the same chain hash in both.  If one dispute can be resolved, its proof stands in the
other as well: that one can be resolved exactly when the proof of its other party is
accepted. -/
theorem proof_replays (ed25519 : Ed25519) (x x' : X)
    (as as' : List (Action Address X (Call Address) (Provision Address))) {id id' : U64}
    {d d' : Dispute Address}
    (hd : ((machine ed25519).run (freshState x) as).storage.dispute.get id = some d)
    (hd' : ((machine ed25519).run (freshState x') as').storage.dispute.get id' = some d')
    (hresponded : d.status = .responded) (hresponded' : d'.status = .responded) {a : Address}
    {p p' : RelayChainProof} (submitted : d.Submitted a p) (submitted' : d'.Submitted a p')
    (signature : p'.signature = p.signature) (chainHash : p'.chainHash = p.chainHash)
    (key : ((machine ed25519).run (freshState x') as').storage.publicKey.get a =
      ((machine ed25519).run (freshState x) as).storage.publicKey.get a)
    {env : Env Address X} {ruling : Ruling Address} {w : State Address X}
    (resolved : Returns (resolve ed25519 env id) ((machine ed25519).run (freshState x) as) ruling w)
    (env' : Env Address X) :
    (∃ ruling' w', Returns (resolve ed25519 env' id')
        ((machine ed25519).run (freshState x') as') ruling' w') ↔
      ∀ b q, b ≠ a → d'.Submitted b q →
        Accepted ed25519 ((machine ed25519).run (freshState x') as').storage b q := by
  have docket' := docket_reached ed25519 x' as'
  have accepted := (resolve_iff_accepted (docket_reached ed25519 x as) hd hresponded).mp
    ⟨ruling, w, resolved⟩ a p submitted
  rw [resolve_iff_accepted docket' hd' hresponded']
  constructor
  · intro all b q _ h
    exact all b q h
  · intro others b q h
    by_cases hb : b = a
    · -- A party submits one proof only in a dispute.
      have only : q = p' := by
        have parties := (docket'.dispute id' d' hd').parties
        subst hb
        rcases h with ⟨hb, rfl⟩ | ⟨hb, hq⟩ <;> rcases submitted' with ⟨hb', rfl⟩ | ⟨hb', hp'⟩
        · rfl
        · exact absurd (hb.symm.trans hb') parties
        · exact absurd (hb'.symm.trans hb) parties
        · exact Option.some.inj (hq.symm.trans hp')
      rw [hb, only]
      exact (accepted_iff_of_same key signature chainHash).mpr accepted
    · exact others b q hb h

end Replays

/-- Both parties submit their proofs of the first dispute again, in a dispute over another
transaction. -/
def answeredTwice : List (Action ℕ Unit (Call ℕ) (Provision ℕ)) :=
  answeredBoth ++
    [.call (sampleEnv 7)
      (.raiseDispute 1 2 (BytesN.fill 32 10) (sampleProof initiatorSignature 20)),
    .call (sampleEnv 8) (.respond 2 2 (sampleProof respondentSignature 15))]

/-- The state with both disputes. -/
def signedTwice : State ℕ Unit := (machine sampleEd25519).run (freshState ()) answeredTwice

/-- The second dispute. -/
def replayedDispute : Dispute ℕ :=
  { bothSignedDispute with disputeId := 2, txId := BytesN.fill 32 10, resolveBy := 107 }

/-- The first dispute of the sample, answered with two proofs. -/
theorem signedTwice_first : signedTwice.storage.dispute.get 1 = some bothSignedDispute := rfl

/-- The second dispute has the same proofs, over another transaction. -/
theorem signedTwice_second : signedTwice.storage.dispute.get 2 = some replayedDispute := rfl

/-- Both disputes of this state have two signatures that verify. -/
theorem signedTwice_bothVerify (d : Dispute ℕ) (initiator : d.initiator = 1)
    (respondent : d.respondent = 2)
    (initiatorProof : d.initiatorProof = sampleProof initiatorSignature 20)
    (respondentProof : d.respondentProof = some (sampleProof respondentSignature 15)) :
    BothVerify sampleEd25519 signedTwice.storage d (sampleProof respondentSignature 15) := by
  obtain ⟨-, key₁, hkey₁, key₂, hkey₂, hvalid₁, hvalid₂⟩ := answered_bothVerify 20 15
  refine ⟨respondentProof, key₁, ?_, key₂, ?_, ?_, hvalid₂⟩
  · rw [initiator]
    exact hkey₁
  · rw [respondent]
    exact hkey₂
  · rw [initiatorProof]
    exact hvalid₁

/-- The second can be resolved if the other party's proof verifies. -/
theorem proof_replays_signedTwice :
    (∃ ruling' w', Returns (resolve sampleEd25519 (sampleEnv 9) 2) signedTwice ruling' w') ↔
      ∀ b q, b ≠ 2 → replayedDispute.Submitted b q →
        Accepted sampleEd25519 signedTwice.storage b q := by
  have resolved : Returns (resolve sampleEd25519 (sampleEnv 9) 1) signedTwice _ _ :=
    returns_resolve_responded signedTwice_first rfl (signedTwice_bothVerify _ rfl rfl rfl rfl)
  exact proof_replays sampleEd25519 () () answeredTwice answeredTwice signedTwice_first
    signedTwice_second rfl rfl (Or.inr ⟨rfl, rfl⟩) (Or.inr ⟨rfl, rfl⟩) rfl rfl rfl resolved
    (sampleEnv 9)

/-- The respondent wins both disputes with one signature over one chain hash. -/
theorem replayed_proof_wins :
    ∃ d d' p, signedTwice.storage.dispute.get 1 = some d ∧
      signedTwice.storage.dispute.get 2 = some d' ∧ d.txId ≠ d'.txId ∧
      d.Submitted 2 p ∧ d'.Submitted 2 p ∧
      (∃ ruling w', Returns (resolve sampleEd25519 (sampleEnv 9) 1) signedTwice ruling w' ∧
        ¬ ruling.IsDefault ∧ ruling.winner = 2) ∧
      ∃ ruling w', Returns (resolve sampleEd25519 (sampleEnv 9) 2) signedTwice ruling w' ∧
        ¬ ruling.IsDefault ∧ ruling.winner = 2 := by
  refine ⟨_, _, sampleProof respondentSignature 15, signedTwice_first, signedTwice_second,
    by decide +kernel, Or.inr ⟨rfl, rfl⟩, Or.inr ⟨rfl, rfl⟩, ⟨_, _, returns_resolve_responded
      signedTwice_first rfl (signedTwice_bothVerify _ rfl rfl rfl rfl),
      not_isDefault_sequenceRuling, ?_⟩, _, _, returns_resolve_responded signedTwice_second rfl
      (signedTwice_bothVerify _ rfl rfl rfl rfl), not_isDefault_sequenceRuling, ?_⟩
  · decide +kernel
  · decide +kernel

end StellarConduit.DisputeResolver
