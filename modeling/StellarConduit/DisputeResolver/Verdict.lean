import StellarConduit.DisputeResolver.Window

/-!
# What a ruling depends on

From the response on, everything that decides a dispute is part of the dispute, and no
call writes it any more: not the parties, not their proofs.  A ruling on it may come at
any ledger and after any other calls, or not at all when a key is missing; when it
comes, it is the same.

## Main results

* `ruling_settled` — the rulings on a responded dispute, in any two continuations of a
  run, agree.
-/

namespace StellarConduit.DisputeResolver

open Soroban Contract

section Verdicts

variable {Address X : Type}

/-- Two rulings agree on who won, who lost, and why. -/
def SameVerdict (r r' : Ruling Address) : Prop := SameOutcome r r' ∧ r'.reason = r.reason

/-- It does not matter which of two rulings is looked at first. -/
theorem SameVerdict.symm {r r' : Ruling Address} (h : SameVerdict r r') : SameVerdict r' r :=
  ⟨⟨h.1.1.symm, h.1.2.symm⟩, h.2.symm⟩

/-- Two rulings that agree with a third agree. -/
theorem SameVerdict.trans {r r' r'' : Ruling Address} (h : SameVerdict r r')
    (h' : SameVerdict r' r'') : SameVerdict r r'' :=
  ⟨⟨h'.1.1.trans h.1.1, h'.1.2.trans h.1.2⟩, h'.2.trans h.2⟩

/-- A ruling between two proofs is the same on every ledger and at every later moment of
the dispute. -/
theorem sameVerdict_sequenceRuling {env env' : Env Address X} {id : U64} {d d' : Dispute Address}
    (h : Evolves d d') (p : RelayChainProof) :
    SameVerdict (sequenceRuling env id d p) (sequenceRuling env' id d' p) := by
  unfold sequenceRuling
  rw [h.initiatorProof, h.initiator, h.respondent]
  split
  · exact ⟨⟨rfl, rfl⟩, rfl⟩
  · exact ⟨⟨rfl, rfl⟩, rfl⟩

variable [DecidableEq Address] {ed25519 : Ed25519} {w : State Address X} {id : U64}
  {d : Dispute Address} {ruling ruling' : Ruling Address}

/-- Whenever a responded dispute is resolved, its two proofs of now decide. -/
theorem sameVerdict_of_resolves (docket : Docket w.storage)
    (hd : w.storage.dispute.get id = some d) (hresponded : d.status = .responded)
    {p : RelayChainProof} (hp : d.respondentProof = some p)
    {as : List (Action Address X (Call Address) (Provision Address))} {r : Step Address X}
    (hr : r ∈ (machine ed25519).trace w as) (resolves : Resolves id ruling r)
    (env : Env Address X) : SameVerdict (sequenceRuling env id d p) ruling := by
  obtain ⟨env', hresolve⟩ := resolves_record ((machine ed25519).record_of_mem_trace hr) resolves
  obtain ⟨pre, action, post, -, rfl⟩ := (machine ed25519).mem_trace.mp hr
  obtain ⟨d', hd', hevolves⟩ := (kept_run ed25519 docket pre).dispute id d hd
  obtain ⟨e, he, -, ⟨hopened, -⟩ | ⟨-, q, both, rfl⟩⟩ := returns_resolve.mp hresolve
  · obtain rfl : d' = e := Option.some.inj (hd'.symm.trans he)
    rw [hevolves.status.opened hopened] at hresponded
    cases hresponded
  · obtain rfl : d' = e := Option.some.inj (hd'.symm.trans he)
    obtain rfl : p = q := Option.some.inj ((hevolves.respondentProof p hp).symm.trans both.1)
    exact sameVerdict_sequenceRuling hevolves p

/-- **A ruling depends neither on its time nor on other calls.**  In every state reached
from the deployment on in which a dispute is responded, two continuations of the run,
of any calls on any ledgers, in each of which the dispute is resolved name the same
winner and the same loser and give the same reason. -/
theorem ruling_settled (ed25519 : Ed25519) (x : X)
    (as : List (Action Address X (Call Address) (Provision Address)))
    (hd : ((machine ed25519).run (freshState x) as).storage.dispute.get id = some d)
    (hresponded : d.status = .responded)
    {bs bs' : List (Action Address X (Call Address) (Provision Address))} {r r' : Step Address X}
    (hr : r ∈ (machine ed25519).trace ((machine ed25519).run (freshState x) as) bs)
    (hr' : r' ∈ (machine ed25519).trace ((machine ed25519).run (freshState x) as) bs')
    (resolves : Resolves id ruling r) (resolves' : Resolves id ruling' r') :
    ruling'.winner = ruling.winner ∧ ruling'.loser = ruling.loser ∧
      ruling'.reason = ruling.reason := by
  have docket := docket_reached ed25519 x as
  obtain ⟨p, hp⟩ := Option.isSome_iff_exists.mp ((docket.dispute id d hd).responded hresponded)
  obtain ⟨env, called⟩ := resolves
  have settled := sameVerdict_of_resolves docket hd hresponded hp hr ⟨env, called⟩ env
  have settled' := sameVerdict_of_resolves docket hd hresponded hp hr' resolves' env
  obtain ⟨⟨winner, loser⟩, reason⟩ := settled.symm.trans settled'
  exact ⟨winner, loser, reason⟩

end Verdicts

/-- The contract is initialized, and both parties submit a signed proof. -/
def answeredBoth : List (Action ℕ Unit (Call ℕ) (Provision ℕ)) :=
  .call (sampleEnv 4) (.initializeContract ⟨[7], 1⟩ 100) ::
    answered (sampleProof initiatorSignature 20) (sampleProof respondentSignature 15)

/-- Resolving the dispute on a given ledger, as it is recorded. -/
theorem bothSigned_resolves (sequence : U32) :
    Resolves 1 (sequenceRuling (sampleEnv sequence) 1 bothSignedDispute
        (sampleProof respondentSignature 15))
      ((machine sampleEd25519).record bothSigned (.call (sampleEnv sequence) (.resolve 1))) := by
  have resolved : Returns (resolve sampleEd25519 (sampleEnv sequence) 1) bothSigned _ _ :=
    returns_resolve_responded (answered_dispute _ _) rfl (answered_bothVerify 20 15)
  have call : Returns (dispatch sampleEd25519 (sampleEnv sequence) (.resolve 1)) bothSigned _ _ :=
    returns_bind_pure.mpr ⟨_, resolved, rfl⟩
  refine ⟨sampleEnv sequence, rfl, ?_⟩
  exact congrArg Record.reply (Deployed.record_of_returns (dispatch sampleEd25519) provide call)

/-- The dispute is resolved on the ledger 7, or on the ledger 200. -/
theorem ruling_settled_bothSigned :
    (sequenceRuling (sampleEnv 200) 1 bothSignedDispute
        (sampleProof respondentSignature 15)).winner =
      (sequenceRuling (sampleEnv 7) 1 bothSignedDispute
        (sampleProof respondentSignature 15)).winner := by
  have early : (machine sampleEd25519).record bothSigned (.call (sampleEnv 7) (.resolve 1)) ∈
      (machine sampleEd25519).trace ((machine sampleEd25519).run (freshState ()) answeredBoth)
        [.call (sampleEnv 7) (.resolve 1)] := List.mem_cons_self
  have late : (machine sampleEd25519).record bothSigned (.call (sampleEnv 200) (.resolve 1)) ∈
      (machine sampleEd25519).trace ((machine sampleEd25519).run (freshState ()) answeredBoth)
        [.call (sampleEnv 200) (.resolve 1)] := List.mem_cons_self
  exact (ruling_settled sampleEd25519 () answeredBoth (answered_dispute _ _) rfl early late
    (bothSigned_resolves 7) (bothSigned_resolves 200)).1

end StellarConduit.DisputeResolver
