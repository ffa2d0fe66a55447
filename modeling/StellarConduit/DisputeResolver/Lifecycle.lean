import StellarConduit.Soroban.Numbered
import StellarConduit.DisputeResolver.Transition

/-!
# The life of a dispute

A dispute is raised, may be responded to, and is resolved; its ruling is a record
of its own, written by the two exits of `resolve`, and its transaction has an entry in
an index of its own.  `DisputeInvariant` ties a dispute to the ruling stored under its
key, `Docket` ties the maps and the counter together, `Evolves` says what may happen to
a dispute between two moments, and none of them mentions how the calls work.  They hold
from the deployment on, also of what is called before `initialize`.

The status of a dispute says how far it has come, and its record and its ruling have to agree
with that: an open dispute has no answer, a responded one has one, and there is a ruling exactly
for the resolved ones.  The fourth status of the source, `Expired`, is never set; the invariant
says so, since `resolve` answers it with an error that would otherwise count as a case.

`Evolves` is an order on disputes.  All fields are fixed at the raise but two: an answer is given
once, and the status moves from open to responded, and from either to resolved.  Since it is
transitive, what holds of a step holds between any two moments of a run, and `Kept` says this
of a whole store.

## Main definitions

* `StatusMoves`, `Evolves` — what may happen to a dispute between two moments.
* `DisputeInvariant`, `Docket` — what is stored at one moment.
* `Kept` — what stays of one moment at another.

## Main results

* `docket_step`, `kept_step` — every step keeps the docket, and relates the disputes
  before and after it by `Evolves`.
* `dispute_lifecycle` — the life of every dispute, in every run.
-/

namespace StellarConduit.DisputeResolver

open Soroban Contract

section Disputes

variable {Address : Type}

/-- The status may stay, or move along open, responded, resolved. -/
def StatusMoves (a b : DisputeStatus) : Prop :=
  a = b ∨ a = .opened ∧ b = .responded ∨ a = .opened ∧ b = .resolved ∨
    a = .responded ∧ b = .resolved

instance (a b : DisputeStatus) : Decidable (StatusMoves a b) :=
  inferInstanceAs (Decidable (_ ∨ _))

/-- What may happen to a dispute between two moments. -/
structure Evolves (d d' : Dispute Address) : Prop where
  /-- Its number, -/
  disputeId : d'.disputeId = d.disputeId
  /-- its transaction, -/
  txId : d'.txId = d.txId
  /-- its parties, -/
  initiator : d'.initiator = d.initiator
  respondent : d'.respondent = d.respondent
  /-- the proof that it was raised with, -/
  initiatorProof : d'.initiatorProof = d.initiatorProof
  /-- its date -/
  raisedAt : d'.raisedAt = d.raisedAt
  /-- and its deadline stay. -/
  resolveBy : d'.resolveBy = d.resolveBy
  /-- An answer stays as it was given. -/
  respondentProof : ∀ p, d.respondentProof = some p → d'.respondentProof = some p
  /-- The status moves forward. -/
  status : StatusMoves d.status d'.status

/-- Nothing happens to the dispute. -/
theorem Evolves.refl (d : Dispute Address) : Evolves d d :=
  ⟨rfl, rfl, rfl, rfl, rfl, rfl, rfl, fun _ hp => hp, Or.inl rfl⟩

/-- Two moves forward are one. -/
theorem StatusMoves.trans {a b c : DisputeStatus} (hab : StatusMoves a b)
    (hbc : StatusMoves b c) : StatusMoves a c := by
  unfold StatusMoves at *
  rcases hab with rfl | ⟨rfl, rfl⟩ | ⟨rfl, rfl⟩ | ⟨rfl, rfl⟩
  · exact hbc
  · rcases hbc with rfl | hbc <;> simp_all
  · rcases hbc with rfl | hbc <;> simp_all
  · rcases hbc with rfl | hbc <;> simp_all

/-- What happens first, and what happens then, happen together. -/
theorem Evolves.trans {d d' d'' : Dispute Address} (h : Evolves d d') (h' : Evolves d' d'') :
    Evolves d d'' where
  disputeId := h'.disputeId.trans h.disputeId
  txId := h'.txId.trans h.txId
  initiator := h'.initiator.trans h.initiator
  respondent := h'.respondent.trans h.respondent
  initiatorProof := h'.initiatorProof.trans h.initiatorProof
  raisedAt := h'.raisedAt.trans h.raisedAt
  resolveBy := h'.resolveBy.trans h.resolveBy
  respondentProof p hp := h'.respondentProof p (h.respondentProof p hp)
  status := h.status.trans h'.status

/-- Winner and loser are the two parties of the dispute. -/
def RulesBetween (d : Dispute Address) (r : Ruling Address) : Prop :=
  r.winner = d.initiator ∧ r.loser = d.respondent ∨
    r.winner = d.respondent ∧ r.loser = d.initiator

/-- What holds of a dispute under the key `id`, beside the ruling stored there. -/
structure DisputeInvariant (id : U64) (d : Dispute Address) (ruling : Option (Ruling Address)) :
    Prop where
  /-- It is stored under its number. -/
  key : d.disputeId = id
  /-- It is between two parties. -/
  parties : d.initiator ≠ d.respondent
  /-- No entry point sets this status. -/
  not_expired : d.status ≠ .expired
  /-- An open dispute has no answer. -/
  opened : d.status = .opened → d.respondentProof = none
  /-- A responded one has one. -/
  responded : d.status = .responded → d.respondentProof.isSome
  /-- A ruling is stored for the resolved ones. -/
  ruling_iff : ruling.isSome ↔ d.status = .resolved
  /-- It is between the parties. -/
  ruling_between : ∀ r, ruling = some r → RulesBetween d r

/-- What holds of the storage of an initialized resolver. -/
structure Lifecycle (s : Storage Address) : Prop where
  /-- The resolver has been initialized. -/
  adminCouncil : s.adminCouncil.isSome
  /-- Every dispute is in order with its ruling. -/
  dispute : ∀ id d, s.dispute.get id = some d → DisputeInvariant id d (s.ruling.get id)
  /-- The counter has counted it. -/
  counted : ∀ id d, s.dispute.get id = some d → id.val ≤ (s.disputeCount.getD 0).val
  /-- A ruling is on a dispute. -/
  ruling : ∀ id r, s.ruling.get id = some r → (s.dispute.get id).isSome

/-- Disputes and rulings of one moment, found again at another. -/
structure Kept (s s' : Storage Address) : Prop where
  /-- Every dispute is there, and has evolved. -/
  dispute : ∀ id d, s.dispute.get id = some d → ∃ d', s'.dispute.get id = some d' ∧ Evolves d d'
  /-- Every ruling is there, unchanged. -/
  ruling : ∀ id r, s.ruling.get id = some r → s'.ruling.get id = some r

/-- Everything is there. -/
theorem Kept.refl (s : Storage Address) : Kept s s :=
  ⟨fun _ d hd => ⟨d, hd, Evolves.refl d⟩, fun _ _ hr => hr⟩

/-- What stays twice stays. -/
theorem Kept.trans {s s' s'' : Storage Address} (h : Kept s s') (h' : Kept s' s'') :
    Kept s s'' where
  dispute id d hd := by
    obtain ⟨d', hd', hevolves⟩ := h.dispute id d hd
    obtain ⟨d'', hd'', hevolves'⟩ := h'.dispute id d' hd'
    exact ⟨d'', hd'', hevolves.trans hevolves'⟩
  ruling id r hr := h'.ruling id r (h.ruling id r hr)

/-- What holds of the storage of any resolver: the disputes are numbered without a gap,
every ruling belongs to one of them, and the index of transactions is the inverse of
the disputes' own field. -/
structure Docket (s : Storage Address) : Prop where
  /-- Disputes have the numbers up to the counter. -/
  numbered : Numbered s.dispute (s.disputeCount.getD 0)
  /-- Every dispute is in order with its ruling. -/
  dispute : ∀ id d, s.dispute.get id = some d → DisputeInvariant id d (s.ruling.get id)
  /-- A ruling is on a dispute. -/
  ruling : ∀ id r, s.ruling.get id = some r → (s.dispute.get id).isSome
  /-- The index finds a transaction's dispute, and finds nothing else. -/
  indexed : ∀ txId id, s.txDispute.get txId = some id ↔
    ∃ d, s.dispute.get id = some d ∧ d.txId = txId

/-- The docket of an initialized resolver. -/
theorem Docket.lifecycle {s : Storage Address} (docket : Docket s)
    (initialized : s.adminCouncil.isSome) : Lifecycle s where
  adminCouncil := initialized
  dispute := docket.dispute
  counted id d hd := ((docket.numbered id).mp (Option.isSome_iff_exists.mpr ⟨d, hd⟩)).2
  ruling := docket.ruling

/-- Nothing is stored under the next key. -/
theorem Docket.fresh {s : Storage Address} (docket : Docket s) {id : U64}
    (hid : id.val = (s.disputeCount.getD 0).val + 1) :
    s.dispute.get id = none ∧ s.ruling.get id = none := by
  have hnone := docket.numbered.fresh hid
  refine ⟨hnone, ?_⟩
  by_contra hsome
  obtain ⟨r, hr⟩ := Option.ne_none_iff_exists'.mp hsome
  simpa [hnone] using docket.ruling id r hr

/-- Writing a dispute, and at most its own ruling, keeps what ties the two together. -/
theorem Docket.dispute_set {s s' : Storage Address} (docket : Docket s) {id : U64}
    {d : Dispute Address} (hdispute : s'.dispute = s.dispute.set id d)
    (hothers : ∀ j, j ≠ id → s'.ruling.get j = s.ruling.get j)
    (hd : DisputeInvariant id d (s'.ruling.get id)) :
    (∀ j e, s'.dispute.get j = some e → DisputeInvariant j e (s'.ruling.get j)) ∧
      ∀ j r, s'.ruling.get j = some r → (s'.dispute.get j).isSome := by
  constructor
  · intro j e hj
    rw [hdispute, Store.get_set] at hj
    split at hj
    · rename_i hji
      subst hji
      cases hj
      exact hd
    · rename_i hji
      rw [hothers j hji]
      exact docket.dispute j e hj
  · intro j r hj
    rw [hdispute, Store.get_set]
    split
    · rfl
    · rename_i hji
      rw [hothers j hji] at hj
      exact docket.ruling j r hj

/-- Raising a dispute over a transaction without one keeps the docket. -/
theorem Docket.raise {s s' : Storage Address} (docket : Docket s) {id : U64}
    {d : Dispute Address} (hid : id.val = (s.disputeCount.getD 0).val + 1)
    (hnew : s.txDispute.get d.txId = none) (hcount : s'.disputeCount = some id)
    (hdispute : s'.dispute = s.dispute.set id d)
    (htx : s'.txDispute = s.txDispute.set d.txId id) (hruling : s'.ruling = s.ruling)
    (hd : DisputeInvariant id d none) : Docket s' := by
  obtain ⟨hnone, hunruled⟩ := docket.fresh hid
  obtain ⟨disputes, rulings⟩ := docket.dispute_set hdispute (fun _ _ => by rw [hruling])
    (by rwa [hruling, hunruled])
  refine ⟨?_, disputes, rulings, fun txId j => ?_⟩
  · rw [hdispute, hcount]
    exact docket.numbered.append hid d
  · rw [htx, hdispute, Store.get_set, Store.get_set]
    by_cases htxId : txId = d.txId
    · rw [if_pos htxId, htxId]
      constructor
      · intro hj
        obtain rfl := Option.some.inj hj
        exact ⟨d, if_pos rfl, rfl⟩
      · rintro ⟨e, he, hsame⟩
        by_cases hji : j = id
        · rw [hji]
        · -- No older dispute is over this transaction.
          rw [if_neg hji] at he
          have known := (docket.indexed d.txId j).mpr ⟨e, he, hsame⟩
          rw [hnew] at known
          cases known
    · rw [if_neg htxId, docket.indexed txId j]
      by_cases hji : j = id
      · rw [if_pos hji, hji, hnone]
        apply iff_of_false (by simp)
        rintro ⟨e, he, hsame⟩
        obtain rfl := Option.some.inj he
        exact htxId hsame.symm
      · rw [if_neg hji]

/-- Rewriting a dispute over the same transaction, and at most its own ruling, keeps
the docket. -/
theorem Docket.rewrite {s s' : Storage Address} (docket : Docket s) {id : U64}
    {d d' : Dispute Address} (hd : s.dispute.get id = some d)
    (hdispute : s'.dispute = s.dispute.set id d') (htxId : d'.txId = d.txId)
    (hcount : s'.disputeCount = s.disputeCount) (htx : s'.txDispute = s.txDispute)
    (hothers : ∀ j, j ≠ id → s'.ruling.get j = s.ruling.get j)
    (hd' : DisputeInvariant id d' (s'.ruling.get id)) : Docket s' := by
  obtain ⟨disputes, rulings⟩ := docket.dispute_set hdispute hothers hd'
  refine ⟨?_, disputes, rulings, fun txId j => ?_⟩
  · rw [hdispute, hcount]
    exact docket.numbered.rewrite hd d'
  · rw [htx, docket.indexed txId j, hdispute, Store.get_set]
    by_cases hji : j = id
    · rw [if_pos hji, hji, hd]
      simp [htxId]
    · rw [if_neg hji]

/-- Rewriting one dispute keeps every dispute, when the new record is an evolution
of the old. -/
theorem Kept.update {s s' : Storage Address} {id : U64} {d' : Dispute Address}
    (hdispute : s'.dispute = s.dispute.set id d')
    (hevolves : ∀ d, s.dispute.get id = some d → Evolves d d')
    (hruling : ∀ j r, s.ruling.get j = some r → s'.ruling.get j = some r) : Kept s s' where
  dispute j d hd := by
    rw [hdispute, Store.get_set]
    split
    · rename_i hji
      subst hji
      exact ⟨d', rfl, hevolves d hd⟩
    · exact ⟨d, hd, Evolves.refl d⟩
  ruling := hruling

end Disputes

section Steps

variable {Address X : Type} [DecidableEq Address]
variable {ed25519 : Ed25519} {env : Env Address X} {w w' : State Address X}

/-! ## One step -/

omit [DecidableEq Address] in
/-- A ruling that `resolve` returns rules between the two parties. -/
theorem rulesBetween_sequenceRuling (id : U64) (d : Dispute Address) (p : RelayChainProof) :
    RulesBetween d (sequenceRuling env id d p) := by
  unfold sequenceRuling
  split
  · exact Or.inl ⟨rfl, rfl⟩
  · exact Or.inr ⟨rfl, rfl⟩

omit [DecidableEq Address] in
/-- What `resolve` returned: the dispute was open or responded, and the ruling is
between its parties. -/
theorem resolve_cases {id : U64} {r : Ruling Address}
    (h : Returns (resolve ed25519 env id) w r w') :
    ∃ d, w.storage.dispute.get id = some d ∧ (d.status = .opened ∨ d.status = .responded) ∧
      RulesBetween d r ∧ w' = ruled w id d r := by
  obtain ⟨d, hd, hw', ⟨hstatus, -, rfl⟩ | ⟨hstatus, p, -, rfl⟩⟩ := returns_resolve.mp h
  · exact ⟨d, hd, Or.inl hstatus, Or.inl ⟨rfl, rfl⟩, hw'⟩
  · exact ⟨d, hd, Or.inr hstatus, rulesBetween_sequenceRuling id d p, hw'⟩

/-- A call that returns keeps the docket. -/
theorem docket_call {c : Call Address} {v : Value Address} (docket : Docket w.storage)
    (h : Returns (dispatch ed25519 env c) w v w') : Docket w'.storage := by
  rcases initializes_or_outcome h with ⟨council, resolutionWindow, -, hcall⟩ | outcome
  · obtain ⟨-, -, -, rfl⟩ := returns_initializeContract.mp hcall
    exact ⟨docket.numbered, docket.dispute, docket.ruling, docket.indexed⟩
  cases outcome with
  | raiseDispute hcall =>
      obtain ⟨-, hparties, hnew, hid, resolveBy, -, rfl⟩ := returns_raiseDispute.mp hcall
      refine docket.raise hid hnew rfl rfl rfl rfl ?_
      exact
        { key := rfl
          parties := hparties
          not_expired := by simp
          opened := by simp
          responded := by simp
          ruling_iff := by simp
          ruling_between := by simp }
  | @respond _ id _ _ hcall =>
      obtain ⟨-, d, hd, -, hstatus, -, rfl⟩ := returns_respond.mp hcall
      have hinv := docket.dispute id d hd
      refine docket.rewrite hd rfl rfl rfl rfl (fun _ _ => rfl) ?_
      exact
        { key := hinv.key
          parties := hinv.parties
          not_expired := by simp
          opened := by simp
          responded := by simp
          ruling_iff := by simpa [hstatus] using hinv.ruling_iff
          ruling_between := hinv.ruling_between }
  | @resolve id _ _ hcall =>
      obtain ⟨d, hd, -, hbetween, rfl⟩ := resolve_cases hcall
      have hinv := docket.dispute id d hd
      refine docket.rewrite hd rfl rfl rfl rfl (fun j hj => Store.get_set_of_ne _ _ hj) ?_
      exact
        { key := hinv.key
          parties := hinv.parties
          not_expired := by simp
          opened := by simp
          responded := by simp
          ruling_iff := by simp [ruled]
          ruling_between := by
            simp only [ruled, Store.get_set_self, Option.some.injEq]
            rintro _ rfl
            exact hbetween }
  | read => exact docket

/-- A call that returns keeps every dispute and every ruling. -/
theorem kept_call {c : Call Address} {v : Value Address} (docket : Docket w.storage)
    (h : Returns (dispatch ed25519 env c) w v w') : Kept w.storage w'.storage := by
  rcases initializes_or_outcome h with ⟨council, resolutionWindow, -, hcall⟩ | outcome
  · obtain ⟨-, -, -, rfl⟩ := returns_initializeContract.mp hcall
    exact ⟨fun _ d hd => ⟨d, hd, Evolves.refl d⟩, fun _ _ hr => hr⟩
  cases outcome with
  | raiseDispute hcall =>
      obtain ⟨-, -, -, hid, resolveBy, -, rfl⟩ := returns_raiseDispute.mp hcall
      refine Kept.update rfl (fun d hd => ?_) (fun _ _ hr => hr)
      rw [(docket.fresh hid).1] at hd
      cases hd
  | @respond _ id _ _ hcall =>
      obtain ⟨-, d, hd, -, hstatus, -, rfl⟩ := returns_respond.mp hcall
      refine Kept.update rfl (fun e he => ?_) (fun _ _ hr => hr)
      obtain rfl : d = e := Option.some.inj (hd.symm.trans he)
      refine ⟨rfl, rfl, rfl, rfl, rfl, rfl, rfl, fun p hp => ?_, Or.inr (Or.inl ⟨hstatus, rfl⟩)⟩
      -- An open dispute has no counter-proof that could be replaced.
      rw [(docket.dispute id d hd).opened hstatus] at hp
      cases hp
  | @resolve id _ _ hcall =>
      obtain ⟨d, hd, hstatus, -, rfl⟩ := resolve_cases hcall
      have hinv := docket.dispute id d hd
      refine Kept.update rfl (fun e he => ?_) (fun j q hq => ?_)
      · obtain rfl : d = e := Option.some.inj (hd.symm.trans he)
        refine ⟨rfl, rfl, rfl, rfl, rfl, rfl, rfl, fun _ hp => hp, ?_⟩
        rcases hstatus with hstatus | hstatus
        · exact Or.inr (Or.inr (Or.inl ⟨hstatus, rfl⟩))
        · exact Or.inr (Or.inr (Or.inr ⟨hstatus, rfl⟩))
      · -- No ruling is stored yet for the dispute that is being resolved.
        have hji : j ≠ id := by
          rintro rfl
          have hresolved := hinv.ruling_iff.mp (by simp [hq])
          rcases hstatus with hstatus | hstatus <;> simp [hstatus] at hresolved
        simpa only [ruled, Store.get_set_of_ne _ _ hji] using hq
  | read => exact Kept.refl _

/-- An initialized resolver stays initialized. -/
theorem initialized_call {c : Call Address} {v : Value Address}
    (initialized : w.storage.adminCouncil.isSome) (h : Returns (dispatch ed25519 env c) w v w') :
    w'.storage.adminCouncil.isSome := by
  cases outcome_of_returns initialized h with
  | raiseDispute hcall =>
      obtain ⟨-, -, -, -, _, -, rfl⟩ := returns_raiseDispute.mp hcall
      exact initialized
  | respond hcall =>
      obtain ⟨-, _, -, -, -, -, rfl⟩ := returns_respond.mp hcall
      exact initialized
  | resolve hcall =>
      obtain ⟨_, -, -, -, rfl⟩ := resolve_cases hcall
      exact initialized
  | read => exact initialized

/-- A public key that is stored from outside changes no dispute. -/
theorem docket_provide {s : Storage Address} {p : Provision Address} (docket : Docket s) :
    Docket (provide p s) := by
  cases p
  exact ⟨docket.numbered, docket.dispute, docket.ruling, docket.indexed⟩

/-- Every step keeps the docket. -/
theorem docket_step (w : State Address X)
    (action : Action Address X (Call Address) (Provision Address)) (docket : Docket w.storage) :
    Docket ((machine ed25519).step w action).2.storage :=
  Deployed.step_storage Docket (fun _ _ _ _ _ => docket_call) (fun _ _ => docket_provide) w action
    docket

/-- The council stays. -/
theorem initialized_step (w : State Address X)
    (action : Action Address X (Call Address) (Provision Address))
    (initialized : w.storage.adminCouncil.isSome) :
    ((machine ed25519).step w action).2.storage.adminCouncil.isSome := by
  refine Deployed.step_storage (fun s => s.adminCouncil.isSome)
    (fun _ _ _ _ _ => initialized_call) (fun p s hs => ?_) w action initialized
  cases p
  exact hs

/-- Every step keeps the disputes and the rulings. -/
theorem kept_step (w : State Address X)
    (action : Action Address X (Call Address) (Provision Address)) (docket : Docket w.storage) :
    Kept w.storage ((machine ed25519).step w action).2.storage := by
  refine Deployed.record_rule (dispatch ed25519) provide (fun r => Kept w.storage r.after.storage)
    w action ?returned ?failed ?provision ?elsewhere
  case returned =>
    intro env c v w' h
    exact kept_call docket h
  case failed =>
    intro env c e
    exact Kept.refl _
  case provision =>
    intro p
    cases p
    exact ⟨fun _ d hd => ⟨d, hd, Evolves.refl d⟩, fun _ _ hr => hr⟩
  case elsewhere =>
    intro x
    exact Kept.refl _

end Steps

/-! ## Runs -/

section Runs

variable {Address X : Type} {council : AdminCouncil Address} {resolutionWindow : U32} {x : X}
  {w : State Address X} {u : Unit}

/-- The world of a freshly deployed resolver. -/
def freshState (x : X) : State Address X where
  storage := Storage.fresh
  outside := x
  events := []

/-- The world of a freshly deployed resolver after a successful `initialize`. -/
def initialState (council : AdminCouncil Address) (resolutionWindow : U32) (x : X) :
    State Address X where
  storage := { (Storage.fresh : Storage Address) with
    adminCouncil := some council
    resolutionWindow := some resolutionWindow }
  outside := x
  events := []

/-- `initialize` on a fresh deployment, as one equivalence. -/
theorem returns_initializeContract_freshState :
    Returns (initializeContract council resolutionWindow) (freshState x) u w ↔
      resolutionWindow ≠ 0 ∧ ¬ council.Invalid ∧ w = initialState council resolutionWindow x := by
  rw [returns_initializeContract]
  exact and_iff_right rfl

/-- A fresh deployment has an empty docket. -/
theorem docket_fresh : Docket (Storage.fresh : Storage Address) where
  numbered := Numbered.empty
  dispute := by simp [Storage.fresh]
  ruling := by simp [Storage.fresh]
  indexed := by simp [Storage.fresh]

/-- So has a resolver that has just been initialized. -/
theorem docket_initialState : Docket (initialState council resolutionWindow x).storage :=
  ⟨docket_fresh.numbered, docket_fresh.dispute, docket_fresh.ruling, docket_fresh.indexed⟩

variable [DecidableEq Address] (ed25519 : Ed25519)

/-- Every state of a run from an orderly one is in order. -/
theorem docket_run {w : State Address X} (start : Docket w.storage)
    (as : List (Action Address X (Call Address) (Provision Address))) :
    Docket ((machine ed25519).run w as).storage :=
  (machine ed25519).run_invariant (fun w => Docket w.storage) docket_step start as

/-- The docket is in order in every state reached from the deployment on. -/
theorem docket_reached (x : X)
    (as : List (Action Address X (Call Address) (Provision Address))) :
    Docket ((machine ed25519).run (freshState x) as).storage :=
  docket_run ed25519 docket_fresh as

/-- What was recorded is still there at the end of a run. -/
theorem kept_run {w : State Address X} (start : Docket w.storage)
    (as : List (Action Address X (Call Address) (Provision Address))) :
    Kept w.storage ((machine ed25519).run w as).storage :=
  (machine ed25519).run_related (fun w => Docket w.storage)
    (fun w w' => Kept w.storage w'.storage) (fun _ => Kept.refl _) Kept.trans
    docket_step kept_step start as

/-- The invariant holds in every state reached after initialization. -/
theorem lifecycle_reached
    (h : Returns (initializeContract council resolutionWindow) (freshState x) u w)
    (as : List (Action Address X (Call Address) (Provision Address))) :
    Lifecycle ((machine ed25519).run w as).storage := by
  obtain ⟨-, -, rfl⟩ := returns_initializeContract_freshState.mp h
  exact (docket_run ed25519 docket_initialState as).lifecycle
    ((machine ed25519).run_invariant (fun w => w.storage.adminCouncil.isSome) initialized_step rfl
      as)

/-- **The life of a dispute, in every run.**  A dispute stays under its key with
all it was raised with; its status moves along open, responded, resolved and is
never expired; the counter-proof is absent while it is open, present once it is
responded, and never replaced.  A ruling is stored exactly for a resolved dispute,
never changes, and rules between its two different parties.  `resolve` never
answers `NotResponded`. -/
theorem dispute_lifecycle
    (h : Returns (initializeContract council resolutionWindow) (freshState x) u w)
    (as : List (Action Address X (Call Address) (Provision Address))) :
    let s := ((machine ed25519).run w as).storage
    (∀ bs id d, s.dispute.get id = some d →
        ∃ d', ((machine ed25519).run w (as ++ bs)).storage.dispute.get id = some d' ∧
          Evolves d d') ∧
      (∀ id d, s.dispute.get id = some d →
        d.disputeId = id ∧ d.status ≠ .expired ∧
          (d.status = .opened → d.respondentProof = none) ∧
          (d.status = .responded → d.respondentProof.isSome)) ∧
      (∀ id, (s.ruling.get id).isSome ↔
        ∃ d, s.dispute.get id = some d ∧ d.status = .resolved) ∧
      (∀ bs id r, s.ruling.get id = some r →
        ((machine ed25519).run w (as ++ bs)).storage.ruling.get id = some r) ∧
      (∀ id r, s.ruling.get id = some r → r.winner ≠ r.loser ∧
        ∃ d, s.dispute.get id = some d ∧
          (r.winner = d.initiator ∧ r.loser = d.respondent ∨
            r.winner = d.respondent ∧ r.loser = d.initiator)) ∧
      ∀ env id w', ¬ Fails (resolve ed25519 env id) ((machine ed25519).run w as)
        (.error .notResponded) w' := by
  intro s
  -- The state is covered by one invariant, and what is said of the continuations by `Kept`.
  have inv : Lifecycle s := lifecycle_reached ed25519 h as
  have docket : Docket s := by
    obtain ⟨-, -, rfl⟩ := returns_initializeContract_freshState.mp h
    exact docket_run ed25519 docket_initialState as
  have later (bs : List (Action Address X (Call Address) (Provision Address))) :
      Kept s ((machine ed25519).run w (as ++ bs)).storage := by
    rw [Machine.run_append]
    exact kept_run ed25519 docket bs
  refine ⟨fun bs => (later bs).dispute, fun id d hd => ?_, fun id => ?_, fun bs => (later bs).ruling,
    fun id r hr => ?_, fun env id w' hfails => ?_⟩
  · have hinv := inv.dispute id d hd
    exact ⟨hinv.key, hinv.not_expired, hinv.opened, hinv.responded⟩
  · constructor
    · intro hruling
      obtain ⟨r, hr⟩ := Option.isSome_iff_exists.mp hruling
      obtain ⟨d, hd⟩ := Option.isSome_iff_exists.mp (inv.ruling id r hr)
      exact ⟨d, hd, (inv.dispute id d hd).ruling_iff.mp hruling⟩
    · rintro ⟨d, hd, hresolved⟩
      exact (inv.dispute id d hd).ruling_iff.mpr hresolved
  · obtain ⟨d, hd⟩ := Option.isSome_iff_exists.mp (inv.ruling id r hr)
    have hinv := inv.dispute id d hd
    have hbetween := hinv.ruling_between r hr
    refine ⟨?_, d, hd, hbetween⟩
    rcases hbetween with ⟨hwinner, hloser⟩ | ⟨hwinner, hloser⟩
    · rw [hwinner, hloser]
      exact hinv.parties
    · rw [hwinner, hloser]
      exact hinv.parties.symm
  · obtain ⟨d, hd, hopened, hresolved, hstatus⟩ := fails_resolve_notResponded hfails
    have hinv := inv.dispute id d hd
    have hexpired := hinv.not_expired
    have hresponded := hinv.responded
    cases hd' : d.status <;> simp_all

end Runs

/-- The resolver of a one-member council with a window of a hundred ledgers. -/
theorem dispute_lifecycle_singleMember :
    ∃ w : State ℕ Unit, Returns (initializeContract ⟨[7], 1⟩ 100) (freshState ()) () w ∧
      ∀ ed25519 as env id w', ¬ Fails (resolve ed25519 env id) ((machine ed25519).run w as)
        (.error .notResponded) w' := by
  have h : Returns (initializeContract ⟨[7], 1⟩ 100) (freshState () : State ℕ Unit) ()
      (initialState ⟨[7], 1⟩ 100 ()) :=
    returns_initializeContract_freshState.mpr ⟨by decide, by decide, rfl⟩
  exact ⟨_, h, fun ed25519 as => (dispute_lifecycle ed25519 h as).2.2.2.2.2⟩

end StellarConduit.DisputeResolver
