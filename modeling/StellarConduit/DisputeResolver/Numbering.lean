import StellarConduit.DisputeResolver.Resolution

/-!
# The numbers of the disputes

Disputes are counted as they are raised, stored under their numbers, and found again
from their transactions.  That counter, records and index fit together is the docket;
what is left is the order, which is a fact about the run.

A dispute that is raised gets the number of disputes raised so far, itself included, whoever
raises it and whatever is raised or refused in between.  So numbers are consecutive, in the
order of the raises, and none is left out or used twice.  A second raise for a transaction finds
the index entry of the first and is refused, in whatever state the first dispute is by then;
there is no way to dispute a transaction again after a ruling.

## Main definitions

* `raisedBy` — one for a step that raises a dispute.

## Main results

* `disputeCount_run` — the counter counts the disputes that were raised.
* `one_dispute_per_transaction` — the three maps are inverse to each other in every
  state reached from the deployment on.
-/

namespace StellarConduit.DisputeResolver

open Soroban Contract

/-- A recorded step of the resolver. -/
abbrev Step (Address X : Type) : Type :=
  Record (State Address X) (Action Address X (Call Address) (Provision Address))
    (Reply ContractError (Value Address))

section Calls

variable {Address X : Type}

/-- The step raised the dispute `id` on the ledger of `env`. -/
def Raises (id : U64) (env : Env Address X) (r : Step Address X) : Prop :=
  ∃ initiator respondent txId proof,
    r.action = .call env (.raiseDispute initiator respondent txId proof) ∧
      r.reply = some (.ok (.disputeId id))

/-- One for a step that raised a dispute. -/
def raisedBy (r : Step Address X) : Int :=
  match r.action, r.reply with
  | .call _ (.raiseDispute _ _ _ _), some (.ok _) => 1
  | _, _ => 0

variable [DecidableEq Address] {ed25519 : Ed25519} {env : Env Address X} {w w' : State Address X}

/-- A recorded raise is a call of `raise_dispute` that returned. -/
theorem raises_record {id : U64} {r : Step Address X}
    (step : (machine ed25519).record r.before r.action = r) (h : Raises id env r) :
    ∃ initiator respondent txId proof,
      r.action = .call env (.raiseDispute initiator respondent txId proof) ∧
        Returns (raiseDispute env initiator respondent txId proof) r.before id r.after := by
  obtain ⟨initiator, respondent, txId, proof, action, reply⟩ := h
  have call := Deployed.returns_of_reply (dispatch ed25519) provide step action reply
  obtain ⟨_, hraise, hvalue⟩ := returns_bind_pure.mp call
  obtain rfl := Value.disputeId.inj hvalue
  exact ⟨initiator, respondent, txId, proof, action, hraise⟩

/-- A call that returns counts the dispute it raises. -/
theorem disputeCount_call {c : Call Address} {v : Value Address}
    (h : Returns (dispatch ed25519 env c) w v w') :
    (w'.storage.disputeCount.getD 0).val =
      (w.storage.disputeCount.getD 0).val + raisedBy ⟨w, .call env c, some (.ok v), w'⟩ := by
  cases c with
  | initializeContract council resolutionWindow =>
      obtain ⟨_, hcall, -⟩ := returns_bind_pure.mp h
      obtain ⟨-, -, -, rfl⟩ := returns_initializeContract.mp hcall
      exact (add_zero _).symm
  | raiseDispute initiator respondent txId proof =>
      obtain ⟨id, hcall, -⟩ := returns_bind_pure.mp h
      obtain ⟨-, -, -, hid, _, -, rfl⟩ := returns_raiseDispute.mp hcall
      exact hid
  | respond respondent id proof =>
      obtain ⟨_, hcall, -⟩ := returns_bind_pure.mp h
      obtain ⟨-, _, -, -, -, -, rfl⟩ := returns_respond.mp hcall
      exact (add_zero _).symm
  | resolve id =>
      obtain ⟨ruling, hcall, -⟩ := returns_bind_pure.mp h
      obtain ⟨_, -, -, -, rfl⟩ := resolve_cases hcall
      exact (add_zero _).symm
  | getDispute id =>
      obtain ⟨_, hcall, -⟩ := returns_bind_pure.mp h
      obtain ⟨-, rfl⟩ := returns_getDispute.mp hcall
      exact (add_zero _).symm
  | getRuling id =>
      obtain ⟨_, hcall, -⟩ := returns_bind_pure.mp h
      obtain ⟨-, rfl⟩ := returns_getRuling.mp hcall
      exact (add_zero _).symm

/-- A step counts the dispute that it raises, if it does. -/
theorem disputeCount_step (w : State Address X)
    (action : Action Address X (Call Address) (Provision Address)) :
    ((((machine ed25519).step w action).2.storage.disputeCount).getD 0).val =
      (w.storage.disputeCount.getD 0).val + raisedBy ((machine ed25519).record w action) := by
  refine Deployed.record_rule (dispatch ed25519) provide
    (fun r => (r.after.storage.disputeCount.getD 0).val =
      (w.storage.disputeCount.getD 0).val + raisedBy r) w action
    ?returned ?failed ?provision ?elsewhere
  case returned =>
    intro env c v w' h
    exact disputeCount_call h
  case failed =>
    intro env c e
    have none : raisedBy (Record.mk w (.call env c) (some (.error e)) w) = 0 := by
      cases c <;> rfl
    rw [none, add_zero]
  case provision =>
    intro p
    cases p
    exact (add_zero _).symm
  case elsewhere =>
    intro x
    exact (add_zero _).symm

/-- The counter of a run from the deployment on counts the disputes raised in it. -/
theorem disputeCount_run (ed25519 : Ed25519) (x : X)
    (as : List (Action Address X (Call Address) (Provision Address))) :
    (((machine ed25519).run (freshState x) as).storage.disputeCount.getD 0).val =
      Machine.total raisedBy ((machine ed25519).trace (freshState x) as) := by
  have run := (machine ed25519).potential_run (fun _ => True)
    (fun w => (w.storage.disputeCount.getD 0).val) raisedBy (fun _ _ _ => trivial)
    (fun w action _ => disputeCount_step w action) (s := freshState x) trivial as
  have start : (((freshState x : State Address X).storage.disputeCount).getD 0).val = 0 :=
    MachineInt.val_zero
  rwa [start, zero_add] at run

/-- `raise_dispute` answers `DuplicateDispute` for a transaction that the index knows. -/
theorem fails_raiseDispute_duplicate {initiator respondent : Address} {txId : BytesN 32}
    {proof : RelayChainProof} :
    (∃ w', Fails (raiseDispute env initiator respondent txId proof) w
        (.error .duplicateDispute) w') ↔
      env.authorised initiator = true ∧ initiator ≠ respondent ∧
        (w.storage.txDispute.get txId).isSome := by
  simp [raiseDispute, getNextDisputeId, getDisputeCount, getResolutionWindow, setDispute,
    setDisputeByTx, getDisputeByTx, fails_bind, returns_bind, and_assoc]

end Calls

section Runs

variable {Address X : Type} [DecidableEq Address]

/-- **One dispute per transaction.**  In every state reached from the deployment on, the
disputes are those numbered from one to the counter, in the order in which they were
raised, each under its own number; the index takes a transaction to the dispute over
it and to nothing else, so that no two disputes are over one transaction; and
`raise_dispute` answers `DuplicateDispute` exactly for the transactions of these. -/
theorem one_dispute_per_transaction (ed25519 : Ed25519) (x : X)
    (as : List (Action Address X (Call Address) (Provision Address))) :
    let reached := (machine ed25519).run (freshState x) as
    let s := reached.storage
    (∀ id : U64, (s.dispute.get id).isSome ↔
        0 < id.val ∧ id.val ≤ (s.disputeCount.getD 0).val) ∧
      (∀ id d, s.dispute.get id = some d → d.disputeId = id) ∧
      (s.disputeCount.getD 0).val =
        Machine.total raisedBy ((machine ed25519).trace (freshState x) as) ∧
      (∀ hist r post env id, (machine ed25519).trace (freshState x) as = hist ++ r :: post →
        Raises id env r → id.val = Machine.total raisedBy hist + 1) ∧
      (∀ txId id, s.txDispute.get txId = some id ↔
        ∃ d, s.dispute.get id = some d ∧ d.txId = txId) ∧
      (∀ id id' d d', s.dispute.get id = some d → s.dispute.get id' = some d' →
        d.txId = d'.txId → id = id') ∧
      ∀ (env : Env Address X) initiator respondent txId proof,
        env.authorised initiator = true → initiator ≠ respondent →
          ((∃ w', Fails (raiseDispute env initiator respondent txId proof) reached
              (.error .duplicateDispute) w') ↔
            ∃ id d, s.dispute.get id = some d ∧ d.txId = txId) := by
  intro reached s
  have docket : Docket s := docket_reached ed25519 x as
  refine ⟨docket.numbered, fun id d hd => (docket.dispute id d hd).key,
    disputeCount_run ed25519 x as, ?ordered, docket.indexed, ?unique, ?duplicate⟩
  case ordered =>
    intro hist r post env id split raises
    obtain ⟨pre, action, rest, -, rfl, rfl, -⟩ := (machine ed25519).trace_split split
    obtain ⟨initiator, respondent, txId, proof, -, hraise⟩ := raises_record rfl raises
    obtain ⟨-, -, -, hid, -⟩ := returns_raiseDispute.mp hraise
    exact hid.trans (congrArg (· + 1) (disputeCount_run ed25519 x pre))
  case unique =>
    intro id id' d d' hd hd' same
    have first := (docket.indexed d.txId id).mpr ⟨d, hd, rfl⟩
    have second := (docket.indexed d.txId id').mpr ⟨d', hd', same.symm⟩
    exact Option.some.inj (first.symm.trans second)
  case duplicate =>
    intro env initiator respondent txId proof authorised different
    rw [fails_raiseDispute_duplicate, Option.isSome_iff_exists]
    constructor
    · rintro ⟨-, -, id, hid⟩
      exact ⟨id, (docket.indexed txId id).mp hid⟩
    · rintro ⟨id, hd⟩
      exact ⟨authorised, different, id, (docket.indexed txId id).mpr hd⟩

end Runs

end StellarConduit.DisputeResolver
