import StellarConduit.Protocol.Consent

/-!
# Disputes that nobody answers

Whether an open dispute is answered is in the hands of its respondent alone, and whether it is
resolved in nobody's: `resolve` may be called by anyone.  An accusation that stays unanswered
therefore ends for the initiator, however the calls of everybody else are interleaved.

There are two cases at the end of such a run.  The dispute may still be open, and then whoever
calls `resolve` after the deadline gets the ruling by default.  Or somebody has called it before,
and then it was resolved without an answer.  The second case needs to know that a ruling on a
dispute without an answer is the one by default, whenever it was made, and this is the invariant
`DefaultsRuled` of all reached states.

## Main definitions

* `DefaultsRuled` — a ruling on a dispute without an answer is the one by default.

## Main results

* `default_guaranteed` — what becomes of an open dispute whose respondent signs nothing.
-/

namespace StellarConduit.DisputeResolver

open Soroban Contract

variable {Address X : Type} {ed25519 : Ed25519} {env : Env Address X} {w w' : State Address X}
  {id : U64} {d : Dispute Address}

/-- A ruling on a dispute without an answer is by default, for the initiator. -/
def DefaultsRuled (s : Storage Address) : Prop :=
  ∀ id d r, s.dispute.get id = some d → s.ruling.get id = some r → d.respondentProof = none →
    r.IsDefault ∧ r.winner = d.initiator ∧ r.loser = d.respondent

/-- A resolved dispute is not ruled on again. -/
theorem fails_resolve_resolved (hd : w.storage.dispute.get id = some d)
    (resolved : d.status = .resolved) :
    Fails (resolve ed25519 env id) w (.error .disputeAlreadyResolved) w := by
  simp [resolve, loadDispute, fails_bind, hd, resolved]

/-- An open dispute is not ruled on before its deadline has passed. -/
theorem fails_resolve_early (hd : w.storage.dispute.get id = some d) (opened : d.status = .opened)
    (early : env.sequence.val ≤ d.resolveBy.val) :
    Fails (resolve ed25519 env id) w (.error .resolutionWindowActive) w := by
  simp [resolve, loadDispute, fails_bind, hd, opened, early]

variable [DecidableEq Address]

/-- A dispute that has been ruled on is not answered any more, and a ruling without an answer is
made by the first exit of `resolve`. -/
theorem defaultsRuled_call (docket : Docket w.storage) (defaults : DefaultsRuled w.storage)
    {c : Call Address} {v : Value Address} (h : Returns (dispatch ed25519 env c) w v w') :
    DefaultsRuled w'.storage := by
  rcases initializes_or_outcome h with ⟨council, resolutionWindow, -, hcall⟩ | outcome
  · obtain ⟨-, -, -, rfl⟩ := returns_initializeContract.mp hcall
    exact defaults
  cases outcome with
  | @raiseDispute initiator respondent txId proof id _ hcall =>
      obtain ⟨-, -, -, hid, resolveBy, -, rfl⟩ := returns_raiseDispute.mp hcall
      intro j d r hd hr unanswered
      -- There is no ruling on the dispute that is being raised.
      have old : j ≠ id := by
        rintro rfl
        cases (docket.fresh hid).2.symm.trans hr
      exact defaults j d r ((Store.get_set_of_ne _ _ old).symm.trans hd) hr unanswered
  | @respond respondent id proof _ hcall =>
      obtain ⟨-, d, hd, -, -, -, rfl⟩ := returns_respond.mp hcall
      intro j e r he hr unanswered
      rw [Store.get_set] at he
      split at he
      · obtain rfl := Option.some.inj he
        cases unanswered
      · exact defaults j e r he hr unanswered
  | @resolve id ruling _ hcall =>
      obtain ⟨d, hd, rfl, exits⟩ := returns_resolve.mp hcall
      intro j e r he hr unanswered
      by_cases hj : j = id
      · subst hj
        obtain rfl := Option.some.inj ((Store.get_set_self _ _ _).symm.trans he)
        obtain rfl := Option.some.inj ((Store.get_set_self _ _ _).symm.trans hr)
        rcases exits with ⟨-, -, rfl⟩ | ⟨responded, -⟩
        · exact ⟨isDefault_defaultRuling, rfl, rfl⟩
        · -- A responded dispute has its answer.
          have answered := (docket.dispute j d hd).responded responded
          rw [unanswered] at answered
          cases answered
      · exact defaults j e r ((Store.get_set_of_ne _ _ hj).symm.trans he)
          ((Store.get_set_of_ne _ _ hj).symm.trans hr) unanswered
  | read => exact defaults

/-- So for every step; other steps write no ruling. -/
theorem defaultsRuled_step (w : State Address X)
    (action : Action Address X (Call Address) (Provision Address))
    (inv : Docket w.storage ∧ DefaultsRuled w.storage) :
    Docket ((machine ed25519).step w action).2.storage ∧
      DefaultsRuled ((machine ed25519).step w action).2.storage := by
  refine Deployed.step_storage (fun s => Docket s ∧ DefaultsRuled s)
    (fun env c w v w' inv h => ?_) (fun p s inv => ?_) w action inv
  · exact ⟨docket_call inv.1 h, defaultsRuled_call inv.1 inv.2 h⟩
  · cases p
    exact ⟨docket_provide inv.1, inv.2⟩

/-- The answer to `resolve` on an open dispute. -/
theorem opened_answered (ed25519 : Ed25519) (env : Env Address X)
    (hd : w.storage.dispute.get id = some d) (opened : d.status = .opened) :
    ((machine ed25519).step w (.call env (.resolve id))).1 =
      some (if env.sequence.val ≤ d.resolveBy.val then .error (.error .resolutionWindowActive)
        else .ok (.ruling (defaultRuling env id d))) := by
  split
  · rename_i early
    exact Deployed.answer_of_fails (dispatch ed25519) provide
      (fails_bind.mpr (Or.inl (fails_resolve_early hd opened early)))
  · rename_i late
    exact Deployed.answer_of_returns (dispatch ed25519) provide
      (returns_bind_pure.mpr ⟨_, returns_resolve_opened hd opened (not_le.mp late), rfl⟩)

/-- The answer to `resolve` on a resolved dispute. -/
theorem resolved_answered (ed25519 : Ed25519) (env : Env Address X)
    (hd : w.storage.dispute.get id = some d) (resolved : d.status = .resolved) :
    ((machine ed25519).step w (.call env (.resolve id))).1 =
      some (.error (.error .disputeAlreadyResolved)) :=
  Deployed.answer_of_fails (dispatch ed25519) provide
    (fails_bind.mpr (Or.inl (fails_resolve_resolved hd resolved)))

omit [DecidableEq Address] in
/-- The ruling by default is the same at every later moment of the dispute. -/
theorem defaultRuling_evolves {d' : Dispute Address} (evolves : Evolves d d') :
    defaultRuling env id d' = defaultRuling env id d := by
  rw [defaultRuling, evolves.initiator, evolves.respondent, defaultRuling]

end StellarConduit.DisputeResolver

/-! ## The system

The resolver hears of nothing but its own calls, so what becomes of a dispute depends on who
calls it and when.  A respondent that signs nothing is no caller of `respond`, and everything
else that happens to the dispute is a `resolve`.
-/

namespace StellarConduit.Protocol

open Soroban Contract Machine

variable {Address : Type} [DecidableEq Address] {chain : Chain Address}
  {settings : Settings Address} {s : State Address} {ed25519 : DisputeResolver.Ed25519}

/-- A launched resolver has no rulings. -/
theorem Launched.defaultsRuled (launched : Launched chain settings s) :
    DisputeResolver.DefaultsRuled s.resolver.storage := by
  obtain ⟨u, h⟩ := launched.resolver
  rw [(DisputeResolver.returns_initializeContract_freshState.mp h).2.2]
  intro id d r hd
  cases hd

/-- Every state that a launched system reaches has ruled so. -/
theorem defaultsRuled_run (ed25519 : DisputeResolver.Ed25519) (launched : Launched chain settings s)
    (as : List (Action chain)) :
    DisputeResolver.DefaultsRuled ((machine ed25519 chain).run s as).resolver.storage := by
  refine ((machine ed25519 chain).run_invariant
    (fun s => DisputeResolver.Docket s.resolver.storage ∧
      DisputeResolver.DefaultsRuled s.resolver.storage) (fun s action inv => ?_)
    ⟨launched.inOrder.resolver, launched.defaultsRuled⟩ as).2
  exact (resolver_takes s action).invariant
    (fun w => DisputeResolver.Docket w.storage ∧ DisputeResolver.DefaultsRuled w.storage)
    (fun w action _ => DisputeResolver.defaultsRuled_step w action) inv

/-- An address that signs nothing raises no dispute and answers none. -/
theorem silent_run {a : Address} (inOrder : InOrder settings s) {bs : List (Action chain)}
    (unsigned : ∀ action ∈ bs, ¬ action.SignedBy a) :
    Silent a s.resolver.storage ((machine ed25519 chain).run s bs).resolver.storage := by
  refine ((machine ed25519 chain).run_invariant_of
    (fun t => InOrder settings t ∧ Silent a s.resolver.storage t.resolver.storage)
    (fun r => ¬ r.action.SignedBy a) (fun t action free inv => ?_) ⟨inOrder, .refl a _⟩
    fun r hr => unsigned r.action ((machine ed25519 chain).action_mem_of_mem_trace hr)).2
  exact ⟨inOrder_step t action inv.1, inv.2.trans (silent_step inv.1 free)⟩

/-- **Nobody but the respondent can keep an accusation from succeeding.**  Whatever everybody
else calls after a reached state in which a dispute is open, as long as its respondent signs
nothing: the dispute has by then been ruled on, by default and for its initiator, and this is
final; or there is no ruling, and whoever calls `resolve` is answered that the window is
active up to the deadline, and with the ruling by default afterwards. -/
theorem default_guaranteed (ed25519 : DisputeResolver.Ed25519)
    (launched : Launched chain settings s) (as : List (Action chain)) {id : U64}
    {d : DisputeResolver.Dispute Address}
    (found : ((machine ed25519 chain).run s as).resolver.storage.dispute.get id = some d)
    (opened : d.status = .opened) {bs : List (Action chain)}
    (unsigned : ∀ action ∈ bs, ¬ action.SignedBy d.respondent) (tx : Tx chain) :
    let m := machine ed25519 chain
    let later := m.run (m.run s as) bs
    let answer := (m.step later (.resolver tx (.resolve id))).1
    (∃ r, later.resolver.storage.ruling.get id = some r ∧ r.IsDefault ∧
        r.winner = d.initiator ∧ r.loser = d.respondent ∧
        answer = .resolver (some (.error (.error .disputeAlreadyResolved)))) ∨
      later.resolver.storage.ruling.get id = none ∧
        answer = .resolver (some
          (if tx.sequence.val ≤ d.resolveBy.val then .error (.error .resolutionWindowActive)
            else .ok (.ruling (DisputeResolver.defaultRuling tx.resolverEnv id d)))) := by
  intro m later answer
  have inOrder : InOrder settings (m.run s as) := inOrder_run ed25519 launched as
  have docket : DisputeResolver.Docket later.resolver.storage :=
    (m.run_invariant (InOrder settings) inOrder_step inOrder bs).resolver
  have defaults : DisputeResolver.DefaultsRuled later.resolver.storage := by
    have reached := defaultsRuled_run ed25519 launched (as ++ bs)
    rwa [Machine.run_append] at reached
  -- Whatever the others have called, the dispute is there and has no answer.
  have silent : Silent d.respondent (m.run s as).resolver.storage later.resolver.storage :=
    silent_run inOrder unsigned
  obtain ⟨d', found', evolves⟩ := silent.kept.dispute id d found
  have unanswered : d'.respondentProof = none := by
    rw [silent.answered id d' found' evolves.respondent, found]
    exact (inOrder.resolver.dispute id d found).opened opened
  have inv := docket.dispute id d' found'
  cases status : d'.status with
  | opened =>
      refine Or.inr ⟨?_, ?_⟩
      · rw [← Option.not_isSome_iff_eq_none, inv.ruling_iff, status]
        nofun
      · have answered := DisputeResolver.opened_answered ed25519 tx.resolverEnv found' status
        rw [evolves.resolveBy, DisputeResolver.defaultRuling_evolves evolves] at answered
        exact congrArg Reply.resolver answered
  | responded =>
      have answered := inv.responded status
      rw [unanswered] at answered
      cases answered
  | resolved =>
      obtain ⟨r, ruled⟩ := Option.isSome_iff_exists.mp (inv.ruling_iff.mpr status)
      -- Somebody has resolved it on the way, and could only do so by default.
      obtain ⟨byDefault, winner, loser⟩ := defaults id d' r found' ruled unanswered
      refine Or.inl ⟨r, ruled, byDefault, winner.trans evolves.initiator,
        loser.trans evolves.respondent, ?_⟩
      exact congrArg Reply.resolver
        (DisputeResolver.resolved_answered ed25519 tx.resolverEnv found' status)
  | expired => exact absurd status inv.not_expired

/-- Relay 10 accuses address 20. -/
def accusation : List (Action sampleChain) :=
  [.resolver (sampleTx 5)
    (.raiseDispute 10 20 (BytesN.fill 32 9) (DisputeResolver.zeroProof 15))]

/-- The dispute that is open then. -/
def accused : DisputeResolver.Dispute ℕ where
  disputeId := 1
  txId := BytesN.fill 32 9
  initiator := 10
  respondent := 20
  initiatorProof := DisputeResolver.zeroProof 15
  respondentProof := none
  status := .opened
  raisedAt := 5
  resolveBy := 17280

/-- After the window relay 10 wins, and nothing of what was called in between concerns it. -/
theorem default_guaranteed_accusation :
    let m := machine DisputeResolver.sampleEd25519 sampleChain
    let tx : Tx sampleChain := { sampleTx 90 with sequence := 17281 }
    (m.step (m.run (m.run sampleState accusation) sampleActions) (.resolver tx (.resolve 1))).1 =
      .resolver (some (.ok (.ruling (DisputeResolver.defaultRuling tx.resolverEnv 1 accused)))) := by
  intro m tx
  have unsigned : ∀ action ∈ sampleActions, ¬ action.SignedBy accused.respondent := by
    simp [sampleActions, Action.SignedBy, accused, sampleTx]
  have none : (m.run (m.run sampleState accusation) sampleActions).resolver.storage.ruling.get 1 =
      none := rfl
  have found : (m.run sampleState accusation).resolver.storage.dispute.get 1 = some accused := rfl
  rcases default_guaranteed DisputeResolver.sampleEd25519 sample_launched accusation found rfl
    unsigned tx with ⟨r, ruled, -⟩ | ⟨-, answered⟩
  · rw [none] at ruled
    cases ruled
  · exact answered

end StellarConduit.Protocol
