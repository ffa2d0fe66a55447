import StellarConduit.DisputeResolver.Window

/-!
# Where disputes and rulings come from

A dispute that is stored was raised by a call its initiator authorised, its
counter-proof was submitted by a call its respondent authorised, and a ruling that is
stored was returned by `resolve`.  `Origin` says what one step can do to the dispute
under a key; the step that brought about what is stored at the end of a run is found
from it by `Machine.exists_step_of_run`.

The storage does not say who has signed what.  That a proof counts against a party is fair only
if the party has submitted it, and this is a statement about the past of a state.  So these
results are about runs from the deployment: whatever is stored now, and was not at the start,
has a first step after which it was there.

## Main definitions

* `Origin` — where the dispute that is stored under a key comes from.
* `Resolves` — a step that has ruled on a dispute.

## Main results

* `origin_record` — the origin of a dispute, step by step.
* `raised_in_run`, `answered_in_run`, `ruled_in_run` — the calls that what is stored
  comes from.
-/

namespace StellarConduit.DisputeResolver

open Soroban Contract

section Steps

variable {Address X : Type}

/-- Where the dispute that a step leaves under a key comes from: it was there, it was
there without an answer and the step answered it, or the step raised it. -/
inductive Origin (id : U64) (d' : Dispute Address) (r : Step Address X) : Prop where
  /-- The dispute was there, with the same answer or none. -/
  | kept {d : Dispute Address} (found : r.before.storage.dispute.get id = some d)
      (evolves : Evolves d d') (same : d'.respondentProof = d.respondentProof) : Origin id d' r
  /-- The dispute was there, and its respondent has answered it in this step. -/
  | answered {d : Dispute Address} {env : Env Address X} {p : RelayChainProof}
      (found : r.before.storage.dispute.get id = some d) (evolves : Evolves d d')
      (proof : d'.respondentProof = some p) (authorised : env.authorised d'.respondent = true)
      (action : r.action = .call env (.respond d'.respondent id p))
      (reply : r.reply = some (.ok .unit)) : Origin id d' r
  /-- There was none, and its initiator has raised it in this step. -/
  | raised {env : Env Address X} (absent : r.before.storage.dispute.get id = none)
      (unanswered : d'.respondentProof = none) (authorised : env.authorised d'.initiator = true)
      (action : r.action =
        .call env (.raiseDispute d'.initiator d'.respondent d'.txId d'.initiatorProof))
      (reply : r.reply = some (.ok (.disputeId id))) : Origin id d' r

/-- A dispute under a key of which a step has not written the dispute. -/
theorem Origin.of_same {id : U64} {d' : Dispute Address} {r : Step Address X}
    (h : r.before.storage.dispute.get id = some d') : Origin id d' r :=
  .kept h (Evolves.refl d') rfl

variable [DecidableEq Address] {ed25519 : Ed25519} {env : Env Address X} {w w' : State Address X}
  {id : U64} {d' : Dispute Address} {r : Step Address X}

/-- A call raises a dispute, or answers one, or rules on it, or keeps it. -/
theorem origin_call {c : Call Address} {v : Value Address} (docket : Docket w.storage)
    (h : Returns (dispatch ed25519 env c) w v w') (hd' : w'.storage.dispute.get id = some d') :
    Origin id d' ⟨w, .call env c, some (.ok v), w'⟩ := by
  rcases initializes_or_outcome h with ⟨council, resolutionWindow, -, hcall⟩ | outcome
  · obtain ⟨-, -, -, rfl⟩ := returns_initializeContract.mp hcall
    exact .of_same hd'
  cases outcome with
  | raiseDispute _ =>
      obtain ⟨i, hcall, rfl⟩ := returns_bind_pure.mp h
      obtain ⟨authorised, -, -, hid, resolveBy, -, rfl⟩ := returns_raiseDispute.mp hcall
      by_cases hi : id = i
      · subst hi
        obtain rfl := Option.some.inj ((Store.get_set_self _ _ _).symm.trans hd')
        -- The number is a new one, so there was no dispute under it before.
        exact .raised (docket.fresh hid).1 rfl authorised rfl rfl
      · exact .of_same ((Store.get_set_of_ne _ _ hi).symm.trans hd')
  | @respond _ i _ _ _ =>
      obtain ⟨_, hcall, rfl⟩ := returns_bind_pure.mp h
      obtain ⟨authorised, d, hd, rfl, -, -, rfl⟩ := returns_respond.mp hcall
      by_cases hi : id = i
      · subst hi
        obtain ⟨e, he, evolves⟩ := (kept_call docket h).dispute id d hd
        obtain rfl : d' = e := Option.some.inj (hd'.symm.trans he)
        obtain rfl := Option.some.inj ((Store.get_set_self _ _ _).symm.trans hd')
        exact .answered hd evolves rfl authorised rfl rfl
      · exact .of_same ((Store.get_set_of_ne _ _ hi).symm.trans hd')
  | @resolve i _ _ hcall =>
      obtain ⟨d, hd, -, -, rfl⟩ := resolve_cases hcall
      by_cases hi : id = i
      · subst hi
        obtain ⟨e, he, evolves⟩ := (kept_call docket h).dispute id d hd
        obtain rfl : d' = e := Option.some.inj (hd'.symm.trans he)
        obtain rfl := Option.some.inj ((Store.get_set_self _ _ _).symm.trans hd')
        exact .kept hd evolves rfl
      · exact .of_same ((Store.get_set_of_ne _ _ hi).symm.trans hd')
  | read => exact .of_same hd'

/-- Every dispute that a step leaves behind has an origin. -/
theorem origin_record (docket : Docket r.before.storage)
    (step : (machine ed25519).record r.before r.action = r)
    (hd' : r.after.storage.dispute.get id = some d') : Origin id d' r := by
  revert hd'
  rw [← step]
  refine Deployed.record_rule (dispatch ed25519) provide
    (fun r => r.after.storage.dispute.get id = some d' → Origin id d' r) r.before r.action
    ?returned ?failed ?provision ?elsewhere
  case returned =>
    intro env c v w' h hd'
    exact origin_call docket h hd'
  case failed =>
    intro env c e hd'
    exact .of_same hd'
  case provision =>
    intro p hd'
    cases p
    exact .of_same hd'
  case elsewhere =>
    intro x hd'
    exact .of_same hd'

/-- Rulings are written by `resolve` alone. -/
theorem resolves_call {c : Call Address} {v : Value Address} {ruling : Ruling Address}
    (h : Returns (dispatch ed25519 env c) w v w')
    (before : ¬ w.storage.ruling.get id = some ruling)
    (after : w'.storage.ruling.get id = some ruling) :
    Resolves id ruling ⟨w, .call env c, some (.ok v), w'⟩ := by
  rcases initializes_or_outcome h with ⟨council, resolutionWindow, -, hcall⟩ | outcome
  · obtain ⟨-, -, -, rfl⟩ := returns_initializeContract.mp hcall
    exact absurd after before
  cases outcome with
  | raiseDispute hcall =>
      obtain ⟨-, -, -, -, _, -, rfl⟩ := returns_raiseDispute.mp hcall
      exact absurd after before
  | respond hcall =>
      obtain ⟨-, _, -, -, -, -, rfl⟩ := returns_respond.mp hcall
      exact absurd after before
  | @resolve i _ _ _ =>
      obtain ⟨q, hcall, rfl⟩ := returns_bind_pure.mp h
      obtain ⟨_, -, -, -, rfl⟩ := resolve_cases hcall
      by_cases hi : id = i
      · subst hi
        obtain rfl := Option.some.inj ((Store.get_set_self _ _ _).symm.trans after)
        exact ⟨env, rfl, rfl⟩
      · exact absurd ((Store.get_set_of_ne _ _ hi).symm.trans after) before
  | read => exact absurd after before

/-- A ruling that a step has stored is the one it returned. -/
theorem resolves_of_stored {ruling : Ruling Address}
    (step : (machine ed25519).record r.before r.action = r)
    (before : ¬ r.before.storage.ruling.get id = some ruling)
    (after : r.after.storage.ruling.get id = some ruling) : Resolves id ruling r := by
  revert before after
  rw [← step]
  refine Deployed.record_rule (dispatch ed25519) provide
    (fun r => ¬ r.before.storage.ruling.get id = some ruling →
      r.after.storage.ruling.get id = some ruling → Resolves id ruling r) r.before r.action
    ?returned ?failed ?provision ?elsewhere
  case returned =>
    intro env c v w' h
    exact resolves_call h
  case failed =>
    intro env c e before after
    exact absurd after before
  case provision =>
    intro p before after
    cases p
    exact absurd after before
  case elsewhere =>
    intro x before after
    exact absurd after before

end Steps

section Runs

variable {Address X : Type} [DecidableEq Address] (ed25519 : Ed25519) (x : X)
  (as : List (Action Address X (Call Address) (Provision Address))) {id : U64}

/-- Every recorded step of a run from the deployment on found the docket in order. -/
theorem docket_before {r : Step Address X}
    (hr : r ∈ (machine ed25519).trace (freshState x) as) : Docket r.before.storage :=
  (machine ed25519).trace_invariant (fun w => Docket w.storage) docket_step docket_fresh hr

/-- A stored dispute was raised, as it is, by a call that its initiator authorised. -/
theorem raised_in_run {d : Dispute Address}
    (hd : ((machine ed25519).run (freshState x) as).storage.dispute.get id = some d) :
    ∃ r ∈ (machine ed25519).trace (freshState x) as, ∃ env : Env Address X,
      env.authorised d.initiator = true ∧
        r.action = .call env (.raiseDispute d.initiator d.respondent d.txId d.initiatorProof) ∧
          r.reply = some (.ok (.disputeId id)) := by
  -- The step after which there is first a dispute that evolves into this one.
  obtain ⟨hist, r, post, split, before, d', hd', evolves'⟩ :=
    (machine ed25519).exists_step_of_run
      (fun w => ∃ d', w.storage.dispute.get id = some d' ∧ Evolves d' d)
      (by simp [freshState, Storage.fresh]) ⟨d, hd, Evolves.refl d⟩
  have hr : r ∈ (machine ed25519).trace (freshState x) as := by simp [split]
  refine ⟨r, hr, ?_⟩
  cases origin_record (docket_before ed25519 x as hr) ((machine ed25519).record_of_mem_trace hr)
    hd' with
  | kept found evolves _ => exact absurd ⟨_, found, evolves.trans evolves'⟩ before
  | answered found evolves => exact absurd ⟨_, found, evolves.trans evolves'⟩ before
  | raised _ _ authorised action reply =>
      rw [evolves'.initiator, evolves'.respondent, evolves'.txId, evolves'.initiatorProof]
      exact ⟨_, authorised, action, reply⟩

/-- The counter-proof of a stored dispute was submitted by a call that its respondent
authorised. -/
theorem answered_in_run {d : Dispute Address} {p : RelayChainProof}
    (hd : ((machine ed25519).run (freshState x) as).storage.dispute.get id = some d)
    (hp : d.respondentProof = some p) :
    ∃ r ∈ (machine ed25519).trace (freshState x) as, ∃ env : Env Address X,
      env.authorised d.respondent = true ∧ r.action = .call env (.respond d.respondent id p) ∧
        r.reply = some (.ok .unit) := by
  -- The step after which the dispute first has this answer.
  obtain ⟨hist, r, post, split, before, d', hd', hp', evolves'⟩ :=
    (machine ed25519).exists_step_of_run
      (fun w => ∃ d', w.storage.dispute.get id = some d' ∧ d'.respondentProof = some p ∧
        Evolves d' d)
      (by simp [freshState, Storage.fresh]) ⟨d, hd, hp, Evolves.refl d⟩
  have hr : r ∈ (machine ed25519).trace (freshState x) as := by simp [split]
  refine ⟨r, hr, ?_⟩
  cases origin_record (docket_before ed25519 x as hr) ((machine ed25519).record_of_mem_trace hr)
    hd' with
  | kept found evolves same =>
      exact absurd ⟨_, found, same.symm.trans hp', evolves.trans evolves'⟩ before
  | answered _ _ proof authorised action reply =>
      obtain rfl := Option.some.inj (proof.symm.trans hp')
      rw [evolves'.respondent]
      exact ⟨_, authorised, action, reply⟩
  | raised _ unanswered =>
      rw [unanswered] at hp'
      cases hp'

/-- A stored ruling was returned by a step of the run. -/
theorem ruled_in_run {ruling : Ruling Address}
    (hruling : ((machine ed25519).run (freshState x) as).storage.ruling.get id = some ruling) :
    ∃ hist r post, (machine ed25519).trace (freshState x) as = hist ++ r :: post ∧
      Resolves id ruling r := by
  -- The step after which the ruling is first stored.
  obtain ⟨hist, r, post, split, before, after⟩ := (machine ed25519).exists_step_of_run
    (fun w => w.storage.ruling.get id = some ruling) (by simp [freshState, Storage.fresh]) hruling
  have hr : r ∈ (machine ed25519).trace (freshState x) as := by simp [split]
  exact ⟨hist, r, post, split,
    resolves_of_stored ((machine ed25519).record_of_mem_trace hr) before after⟩

end Runs

end StellarConduit.DisputeResolver
