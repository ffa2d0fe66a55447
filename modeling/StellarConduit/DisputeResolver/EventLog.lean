import StellarConduit.DisputeResolver.Lifecycle
import StellarConduit.Soroban.Replay

/-!
# The resolver as its events tell it

Raising, responding and resolving each publish one event that names the dispute.  An
observer keeps the cases apart: the transaction and the initiator of a case are known
once it is raised, the respondent only when it answers or when a ruling names it.  What
the cases have in common are their numbers and the rule that a transaction has one.

The observer rejects an answer to a case that is not open, and a ruling over other
parties than those of the case.  This holds from the deployment on: a call before
`initialize` announces what it does like any other.

## Main results

* `replays_call` — a call that returns publishes what moved the view.
* `cases_replayed` — the log of every run is accepted, and replays to what it tells of the
  disputes and the rulings, and to the index of transactions.
-/

namespace StellarConduit.DisputeResolver

open Soroban Contract

/-! ## The observer -/

section Observer

variable {Address : Type}

/-- What the events tell of a dispute. -/
structure Case (Address : Type) where
  /-- The transaction. -/
  txId : BytesN 32
  /-- Who has raised it. -/
  initiator : Address
  /-- The respondent, once an event has named it. -/
  respondent : Option Address
  /-- How far it has come. -/
  status : DisputeStatus
  /-- Winner and loser of the ruling. -/
  verdict : Option (Address × Address)
deriving DecidableEq

/-- What an observer of the resolver holds. -/
structure View (Address : Type) where
  /-- How many there are. -/
  count : Int
  /-- The case of a transaction. -/
  index : BytesN 32 → Option U64
  /-- The cases under their numbers. -/
  cases : U64 → Option (Case Address)

/-- The view before the first event. -/
def View.start : View Address where
  count := 0
  index := fun _ => none
  cases := fun _ => none

/-- The dispute that an event names. -/
def Event.disputeId : Event Address → U64
  | .raise _ id _ | .respond _ id | .resolve id _ _ => id

/-- The ruling is between the parties of the case, as far as these are known. -/
def Case.Admits (c : Case Address) (winner loser : Address) : Prop :=
  c.status = .opened ∧ winner = c.initiator ∨
    c.status = .responded ∧ (winner = c.initiator ∧ c.respondent = some loser ∨
      c.respondent = some winner ∧ loser = c.initiator)

variable [DecidableEq Address]

instance (c : Case Address) (winner loser : Address) : Decidable (c.Admits winner loser) :=
  inferInstanceAs (Decidable (_ ∨ _))

/-- How an event that names a case moves it. -/
def caseStep : Indexer (Option (Case Address)) (Event Address) := fun state e =>
  match state, e with
  | none, .raise initiator _ txId =>
      some (some
        { txId := txId
          initiator := initiator
          respondent := none
          status := .opened
          verdict := none })
  | some c, .respond respondent _ =>
      if c.status = .opened then
        some (some { c with respondent := some respondent, status := .responded })
      else none
  | some c, .resolve _ winner loser =>
      if c.Admits winner loser then
        some (some { c with
          respondent := some (if winner = c.initiator then loser else winner)
          status := .resolved
          verdict := some (winner, loser) })
      else none
  | _, _ => none

/-- How an event moves what the cases have in common. -/
def View.enter (v : View Address) : Event Address → Option (View Address)
  | .raise _ id txId =>
      if id.val = v.count + 1 ∧ v.index txId = none then
        some { v with count := id.val, index := Function.update v.index txId (some id) }
      else none
  | .respond _ _ | .resolve _ _ _ => some v

/-- The observer of the resolver. -/
def observer : Indexer (View Address) (Event Address) := fun v e =>
  (v.enter e).bind fun entered =>
    (caseStep (v.cases e.disputeId) e).map fun c =>
      { entered with cases := Function.update v.cases e.disputeId c }

/-- An event moves what the cases have in common, and the case that it names. -/
theorem observer_of_case {v v' : View Address} {e : Event Address} {c : Option (Case Address)}
    (entered : v.enter e = some { v' with cases := v.cases })
    (moved : caseStep (v.cases e.disputeId) e = some c)
    (cases : v'.cases = Function.update v.cases e.disputeId c) : observer v e = some v' := by
  rw [observer, entered, Option.bind_some, moved, Option.map_some, ← cases]

/-- The events that name a case replay it, whatever else the log has. -/
theorem replay_case {v v' : View Address} {events : List (Event Address)}
    (h : observer.replay v events = some v') (id : U64) :
    caseStep.replay (v.cases id) (events.filter fun e => e.disputeId = id) =
      some (v'.cases id) := by
  refine Indexer.replay_project (fun v : View Address => v.cases id) caseStep
    (fun e => e.disputeId = id) (fun v e v' named h => ?_) (fun v e v' other h => ?_) h
  · obtain ⟨entered, -, h⟩ := Option.bind_eq_some_iff.mp h
    obtain ⟨c, moved, rfl⟩ := Option.map_eq_some_iff.mp h
    subst named
    simp only [moved, Function.update_self]
  · obtain ⟨entered, -, h⟩ := Option.bind_eq_some_iff.mp h
    obtain ⟨c, -, rfl⟩ := Option.map_eq_some_iff.mp h
    exact Function.update_of_ne (Ne.symm other) _ _

end Observer

/-! ## The stored records -/

section Calls

variable {Address X : Type}

/-- What the observer is to hold of a dispute and the ruling stored beside it.  The respondent
of an open dispute is stored, and has not been announced. -/
def Dispute.case (d : Dispute Address) (ruling : Option (Ruling Address)) : Case Address where
  txId := d.txId
  initiator := d.initiator
  respondent := if d.status = .opened then none else some d.respondent
  status := d.status
  verdict := ruling.map fun r => (r.winner, r.loser)

/-- What the observer is to hold of the stored records. -/
def view (s : Storage Address) : View Address where
  count := (s.disputeCount.getD 0).val
  index := s.txDispute.get
  cases id := (s.dispute.get id).map fun d => d.case (s.ruling.get id)

/-- A case is seen of its dispute and its ruling. -/
theorem view_cases (s : Storage Address) (id : U64) :
    (view s).cases id = (s.dispute.get id).map fun d => d.case (s.ruling.get id) := rfl

/-- Writing a dispute, and at most its own ruling, moves one case. -/
theorem view_cases_set {s s' : Storage Address} {id : U64} {d : Dispute Address}
    (hdispute : s'.dispute = s.dispute.set id d)
    (hothers : ∀ j, j ≠ id → s'.ruling.get j = s.ruling.get j) :
    (view s').cases =
      Function.update (view s).cases id (some (d.case (s'.ruling.get id))) := by
  funext j
  rw [view_cases, hdispute, Store.get_set, Function.update_apply]
  split
  · rename_i hj
    rw [hj]
    rfl
  · rename_i hj
    rw [hothers j hj, view_cases]

variable [DecidableEq Address] {ed25519 : Ed25519} {env : Env Address X} {w w' : State Address X}

/-- A ruling that `resolve` returns is one that the observer admits, and it names the
respondent. -/
theorem admits_of_resolve {id : U64} {r : Ruling Address} (docket : Docket w.storage)
    (h : Returns (resolve ed25519 env id) w r w') :
    ∃ d, w.storage.dispute.get id = some d ∧
      (d.case (w.storage.ruling.get id)).Admits r.winner r.loser ∧
      (if r.winner = (d.case (w.storage.ruling.get id)).initiator then r.loser else r.winner) =
        d.respondent ∧
      w' = ruled w id d r := by
  obtain ⟨d, hd, hw', ⟨hstatus, -, rfl⟩ | ⟨hstatus, p, -, rfl⟩⟩ := returns_resolve.mp h
  · exact ⟨d, hd, Or.inl ⟨hstatus, rfl⟩, if_pos rfl, hw'⟩
  · have parties := (docket.dispute id d hd).parties
    have answered : (d.case (w.storage.ruling.get id)).respondent = some d.respondent := by
      simp [Dispute.case, hstatus]
    have named : RulesBetween d (sequenceRuling env id d p) := rulesBetween_sequenceRuling id d p
    rcases named with ⟨hwinner, hloser⟩ | ⟨hwinner, hloser⟩
    · refine ⟨d, hd, Or.inr ⟨hstatus, Or.inl ⟨hwinner, ?_⟩⟩, ?_, hw'⟩
      · rw [hloser, answered]
      · exact (if_pos hwinner).trans hloser
    · refine ⟨d, hd, Or.inr ⟨hstatus, Or.inr ⟨?_, hloser⟩⟩, ?_, hw'⟩
      · rw [hwinner, answered]
      · rw [hwinner]
        exact if_neg parties.symm

/-- A call that returns publishes what moved the view. -/
theorem replays_call {c : Call Address} {v : Value Address} (docket : Docket w.storage)
    (h : Returns (dispatch ed25519 env c) w v w') : Replays observer view w w' := by
  rcases initializes_or_outcome h with ⟨council, resolutionWindow, -, hcall⟩ | outcome
  · obtain ⟨-, -, -, rfl⟩ := returns_initializeContract.mp hcall
    exact .silent rfl rfl
  cases outcome with
  | @raiseDispute initiator respondent txId proof id _ hcall =>
      obtain ⟨-, -, hnew, hid, resolveBy, -, rfl⟩ := returns_raiseDispute.mp hcall
      obtain ⟨hnone, hunruled⟩ := docket.fresh hid
      refine .publish rfl (observer_of_case ?_ ?_ (view_cases_set rfl fun _ _ => rfl))
      · have entered : id.val = (view w.storage).count + 1 ∧ (view w.storage).index txId = none :=
          ⟨hid, hnew⟩
        rw [View.enter, if_pos entered]
        simp only [view, Option.getD_some, Option.some.injEq, View.mk.injEq, and_true, true_and]
        funext tx
        rw [Store.get_set, Function.update_apply]
      · rw [Event.disputeId, view_cases, hnone]
        simp [caseStep, Dispute.case, hunruled]
  | @respond respondent id proof _ hcall =>
      obtain ⟨-, d, hd, hrespondent, hstatus, -, rfl⟩ := returns_respond.mp hcall
      refine .publish rfl (observer_of_case rfl ?_ (view_cases_set rfl fun _ _ => rfl))
      rw [Event.disputeId, view_cases, hd]
      simp [caseStep, Dispute.case, hstatus, hrespondent]
  | @resolve id r _ hcall =>
      obtain ⟨d, hd, admits, named, rfl⟩ := admits_of_resolve docket hcall
      refine .publish rfl (observer_of_case rfl ?_
        (view_cases_set rfl fun j hj => Store.get_set_of_ne _ _ hj))
      rw [Event.disputeId, view_cases, hd]
      simp only [Option.map_some, caseStep, if_pos admits, named]
      simp only [Dispute.case, ruled, Store.get_set_self, reduceCtorEq, if_false, Option.map_some]
  | read => exact .refl _ _ _

end Calls

/-! ## Runs -/

section Runs

variable {Address X : Type} [DecidableEq Address]

/-- From any moment of a run to a later one, the new events tell what became of the
disputes. -/
theorem replays_run (ed25519 : Ed25519) {w : State Address X} (docket : Docket w.storage)
    (as : List (Action Address X (Call Address) (Provision Address))) :
    Replays observer view w ((machine ed25519).run w as) :=
  Deployed.replays_run observer view Docket
    (fun _ _ _ _ _ docket h => ⟨docket_call docket h, replays_call docket h⟩)
    (fun p s docket => ⟨docket_provide docket, by cases p; rfl⟩) docket as

/-- **The resolver can be followed from its events.**  From the deployment on, the log of
every run is one that the observer accepts: disputes are announced in the order of their
numbers and never twice over one transaction, an answer finds its dispute open, a ruling on an
answered dispute is between its parties, and one without an answer is for the initiator.
Replaying the log gives the number of disputes and the index of transactions, and of every
dispute the transaction, the initiator, the status and the verdict as they are stored.  The
respondent is known once an event has named it: a raise does not, so of an open dispute the log
tells none.  The events that name a dispute give the same of it. -/
theorem cases_replayed (ed25519 : Ed25519) (x : X)
    (as : List (Action Address X (Call Address) (Provision Address))) :
    let reached := (machine ed25519).run (freshState x) as
    observer.replay View.start reached.events = some (view reached.storage) ∧
      ∀ id, caseStep.replay none (reached.events.filter fun e => e.disputeId = id) =
        some ((reached.storage.dispute.get id).map fun d =>
          d.case (reached.storage.ruling.get id)) := by
  intro reached
  have log : observer.replay View.start reached.events = some (view reached.storage) := by
    have replays : Replays observer view (freshState x) reached :=
      replays_run ed25519 docket_fresh as
    have start : view (freshState x : State Address X).storage = View.start := by
      simp [view, freshState, Storage.fresh, View.start]
      rfl
    rw [← start]
    exact replays.replay rfl
  exact ⟨log, fun id => replay_case log id⟩

end Runs

end StellarConduit.DisputeResolver
