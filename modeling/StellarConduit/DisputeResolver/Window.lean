import StellarConduit.DisputeResolver.Numbering
import StellarConduit.DisputeResolver.Resolution

/-!
# The window for a response

A dispute is raised with a deadline.  Up to it the respondent may answer, and after it
anyone may have the dispute resolved by default.  `respond` and `resolve` guard the
deadline by opposite comparisons of the same two numbers, so neither ledger belongs to
both and none to neither.  What happens at the deadline is a fact about one state; that
the two outcomes exclude each other for good is one about runs, where the status of a
dispute never returns to open.

The comparisons are exact: an answer is accepted on the ledger of the deadline itself, and a
ruling by default is made on the next at the earliest.  An answered dispute is resolved by its
proofs and never by default, however long nobody calls `resolve`; one that was ruled on by
default is not answered any more.

## Main results

* `response_window` — the window has neither a gap nor an overlap, and its outcome is
  final in every run.
-/

namespace StellarConduit.DisputeResolver

open Soroban Contract

section Calls

variable {Address X : Type}

/-- The ruling was issued for want of a response. -/
def Ruling.IsDefault (ruling : Ruling Address) : Prop :=
  ruling.reason = HostString.fromStr "Respondent failed to respond within the resolution window"

/-- The step answered the dispute `id`. -/
def Answers (id : U64) (r : Step Address X) : Prop :=
  ∃ env respondent proof,
    r.action = .call env (.respond respondent id proof) ∧ r.reply = some (.ok .unit)

/-- The step resolved the dispute `id` by the ruling. -/
def Resolves (id : U64) (ruling : Ruling Address) (r : Step Address X) : Prop :=
  ∃ env, r.action = .call env (.resolve id) ∧ r.reply = some (.ok (.ruling ruling))

variable {ed25519 : Ed25519} {env : Env Address X} {w w' : State Address X} {id : U64}
  {d : Dispute Address} {ruling : Ruling Address}

/-- A ruling by default names the initiator as the winner. -/
theorem isDefault_defaultRuling : (defaultRuling env id d).IsDefault := rfl

/-- A ruling between two proofs says so. -/
theorem not_isDefault_sequenceRuling {p : RelayChainProof} :
    ¬ (sequenceRuling env id d p).IsDefault := by
  unfold sequenceRuling Ruling.IsDefault
  split
  · show ¬ HostString.fromStr "Both proofs valid; initiator has lower or equal sequence" = _
    decide +kernel
  · show ¬ HostString.fromStr "Both proofs valid; respondent has lower sequence" = _
    decide +kernel

/-- The ruling is by default exactly when the dispute was open. -/
theorem isDefault_iff_opened (h : Returns (resolve ed25519 env id) w ruling w')
    (hd : w.storage.dispute.get id = some d) : ruling.IsDefault ↔ d.status = .opened := by
  obtain ⟨e, he, -, hexit⟩ := returns_resolve.mp h
  obtain rfl : d = e := Option.some.inj (hd.symm.trans he)
  rcases hexit with ⟨hopened, -, rfl⟩ | ⟨hresponded, p, -, rfl⟩
  · exact iff_of_true isDefault_defaultRuling hopened
  · exact iff_of_false not_isDefault_sequenceRuling (by simp [hresponded])

/-- An open dispute is resolved after its deadline, and not before. -/
theorem returns_resolve_opened_iff (hd : w.storage.dispute.get id = some d)
    (hopened : d.status = .opened) :
    (∃ ruling w', Returns (resolve ed25519 env id) w ruling w') ↔
      d.resolveBy.val < env.sequence.val := by
  constructor
  · rintro ⟨ruling, w', h⟩
    obtain ⟨e, he, -, ⟨-, hlate, -⟩ | ⟨hresponded, -⟩⟩ := returns_resolve.mp h
    · obtain rfl : d = e := Option.some.inj (hd.symm.trans he)
      exact hlate
    · obtain rfl : d = e := Option.some.inj (hd.symm.trans he)
      rw [hopened] at hresponded
      cases hresponded
  · intro hlate
    exact ⟨_, _, returns_resolve_opened hd hopened hlate⟩

/-- By default the initiator wins. -/
theorem initiator_of_isDefault (h : Returns (resolve ed25519 env id) w ruling w')
    (hd : w.storage.dispute.get id = some d) (hdefault : ruling.IsDefault) :
    ruling.winner = d.initiator ∧ ruling.loser = d.respondent := by
  obtain ⟨e, he, -, ⟨-, -, rfl⟩ | ⟨-, p, -, rfl⟩⟩ := returns_resolve.mp h
  · obtain rfl : d = e := Option.some.inj (hd.symm.trans he)
    exact ⟨rfl, rfl⟩
  · exact absurd hdefault not_isDefault_sequenceRuling

variable [DecidableEq Address]

/-- The respondent may answer an open dispute up to its deadline, and not later. -/
theorem returns_respond_opened_iff (hd : w.storage.dispute.get id = some d)
    (hopened : d.status = .opened) (authorised : env.authorised d.respondent = true)
    (proof : RelayChainProof) :
    (∃ w', Returns (respond env d.respondent id proof) w () w') ↔
      env.sequence.val ≤ d.resolveBy.val := by
  constructor
  · rintro ⟨w', h⟩
    obtain ⟨-, e, he, -, -, hearly, -⟩ := returns_respond.mp h
    obtain rfl : d = e := Option.some.inj (hd.symm.trans he)
    exact hearly
  · intro hearly
    exact ⟨_, returns_respond.mpr ⟨authorised, d, hd, rfl, hopened, hearly, rfl⟩⟩

/-- A recorded answer is a call of `respond` that returned. -/
theorem answers_record {r : Step Address X} (step : (machine ed25519).record r.before r.action = r)
    (h : Answers id r) :
    ∃ env respondent proof, Returns (respond env respondent id proof) r.before () r.after := by
  obtain ⟨env, respondent, proof, action, reply⟩ := h
  have call := Deployed.returns_of_reply (dispatch ed25519) provide step action reply
  obtain ⟨_, hcall, -⟩ := returns_bind_pure.mp call
  exact ⟨env, respondent, proof, hcall⟩

/-- A recorded ruling is what a call of `resolve` returned. -/
theorem resolves_record {r : Step Address X}
    (step : (machine ed25519).record r.before r.action = r) (h : Resolves id ruling r) :
    ∃ env, Returns (resolve ed25519 env id) r.before ruling r.after := by
  obtain ⟨env, action, reply⟩ := h
  have call := Deployed.returns_of_reply (dispatch ed25519) provide step action reply
  obtain ⟨_, hcall, hvalue⟩ := returns_bind_pure.mp call
  obtain rfl := Value.ruling.inj hvalue
  exact ⟨env, hcall⟩

end Calls

section Runs

variable {Address X : Type} [DecidableEq Address] {ed25519 : Ed25519} {x : X}
  {as : List (Action Address X (Call Address) (Provision Address))}
  {hist post : List (Step Address X)} {r r' : Step Address X} {id : U64}

/-- Nothing becomes open. -/
theorem StatusMoves.opened {a b : DisputeStatus} (h : StatusMoves a b) (hb : b = .opened) :
    a = .opened := by
  rcases h with rfl | ⟨ha, -⟩ | ⟨ha, -⟩ | ⟨-, rfl⟩
  · exact hb
  · exact ha
  · exact ha
  · cases hb

/-- Later steps find the disputes that earlier ones left behind. -/
theorem kept_between (split : (machine ed25519).trace (freshState x) as = hist ++ r :: post)
    (later : r' ∈ post) : Kept r.after.storage r'.before.storage :=
  (machine ed25519).trace_related (fun w => Docket w.storage)
    (fun w w' => Kept w.storage w'.storage) (fun _ => Kept.refl _) Kept.trans docket_step kept_step
    docket_fresh split later

/-- A dispute that is open at a later step was left open by the earlier one. -/
theorem opened_between (split : (machine ed25519).trace (freshState x) as = hist ++ r :: post)
    (later : r' ∈ post) {d d' : Dispute Address} (hd : r.after.storage.dispute.get id = some d)
    (hd' : r'.before.storage.dispute.get id = some d') (hopened : d'.status = .opened) :
    d.status = .opened := by
  obtain ⟨e, he, hevolves⟩ := (kept_between split later).dispute id d hd
  obtain rfl : d' = e := Option.some.inj (hd'.symm.trans he)
  exact hevolves.status.opened hopened

/-- The steps of a run from one on are steps of the machine. -/
theorem record_of_split (split : (machine ed25519).trace (freshState x) as = hist ++ r :: post)
    (hr' : r' ∈ r :: post) : (machine ed25519).record r'.before r'.action = r' := by
  have mem : r' ∈ (machine ed25519).trace (freshState x) as := by
    rw [split]
    exact List.mem_append_right _ hr'
  exact (machine ed25519).record_of_mem_trace mem

/-- After a ruling no answer is accepted. -/
theorem not_answers_after_ruling {ruling : Ruling Address}
    (split : (machine ed25519).trace (freshState x) as = hist ++ r :: post)
    (resolves : Resolves id ruling r) (later : r' ∈ post) : ¬ Answers id r' := by
  intro answers
  obtain ⟨env, hresolve⟩ := resolves_record (record_of_split split List.mem_cons_self) resolves
  obtain ⟨env', respondent, proof, hrespond⟩ :=
    answers_record (record_of_split split (List.mem_cons_of_mem _ later)) answers
  obtain ⟨d, hd, hafter, -⟩ := returns_resolve.mp hresolve
  obtain ⟨-, d', hd', -, hopened', -⟩ := returns_respond.mp hrespond
  have left : r.after.storage.dispute.get id = some { d with status := .resolved } := by
    rw [hafter]
    exact Store.get_set_self _ _ _
  cases opened_between split later left hd' hopened'

/-- After an accepted answer no ruling is by default. -/
theorem not_isDefault_after_answer {ruling : Ruling Address}
    (split : (machine ed25519).trace (freshState x) as = hist ++ r :: post)
    (answers : Answers id r) (later : r' ∈ post) (resolves : Resolves id ruling r') :
    ¬ ruling.IsDefault := by
  intro hdefault
  obtain ⟨env, respondent, proof, hrespond⟩ :=
    answers_record (record_of_split split List.mem_cons_self) answers
  obtain ⟨env', hresolve⟩ :=
    resolves_record (record_of_split split (List.mem_cons_of_mem _ later)) resolves
  obtain ⟨-, d, hd, -, -, -, hafter⟩ := returns_respond.mp hrespond
  obtain ⟨d', hd', -⟩ := returns_resolve.mp hresolve
  have left : r.after.storage.dispute.get id =
      some { d with respondentProof := some proof, status := .responded } := by
    rw [hafter]
    exact Store.get_set_self _ _ _
  cases opened_between split later left hd' ((isDefault_iff_opened hresolve hd').mp hdefault)

/-- **The response window has neither a gap nor an overlap.**  In every state reached
from the deployment on, the respondent of an open dispute may answer it exactly up to
the ledger `resolveBy`, and it is resolved, by default and for the initiator, exactly
after it, so that on every ledger one of the two can happen and not the other.  In
every run no answer is accepted after a default ruling, and no default ruling is
issued after an accepted answer. -/
theorem response_window (ed25519 : Ed25519) (x : X)
    (as : List (Action Address X (Call Address) (Provision Address))) :
    let reached := (machine ed25519).run (freshState x) as
    (∀ id d, reached.storage.dispute.get id = some d → d.status = .opened →
      ∀ env : Env Address X,
        (env.authorised d.respondent = true → ∀ proof,
          ((∃ w', Returns (respond env d.respondent id proof) reached () w') ↔
            env.sequence.val ≤ d.resolveBy.val)) ∧
        ((∃ ruling w', Returns (resolve ed25519 env id) reached ruling w') ↔
          d.resolveBy.val < env.sequence.val) ∧
        (∀ ruling w', Returns (resolve ed25519 env id) reached ruling w' →
          ruling.IsDefault ∧ ruling.winner = d.initiator ∧ ruling.loser = d.respondent) ∧
        (env.authorised d.respondent = true → ∀ proof,
          Xor (∃ w', Returns (respond env d.respondent id proof) reached () w')
            (∃ ruling w', Returns (resolve ed25519 env id) reached ruling w'))) ∧
      ∀ hist r post id, (machine ed25519).trace (freshState x) as = hist ++ r :: post →
        (∀ ruling, Resolves id ruling r → ruling.IsDefault → ∀ r' ∈ post, ¬ Answers id r') ∧
          (Answers id r → ∀ r' ∈ post, ∀ ruling, Resolves id ruling r' → ¬ ruling.IsDefault) := by
  intro reached
  constructor
  · intro id d hd hopened env
    refine ⟨fun authorised => returns_respond_opened_iff hd hopened authorised,
      returns_resolve_opened_iff hd hopened, fun ruling w' h => ?_, fun authorised proof => ?_⟩
    · have hdefault := (isDefault_iff_opened h hd).mpr hopened
      exact ⟨hdefault, initiator_of_isDefault h hd hdefault⟩
    · rw [returns_respond_opened_iff hd hopened authorised proof,
        returns_resolve_opened_iff hd hopened, ← not_le]
      exact xor_not_right.mpr Iff.rfl
  · intro hist r post id split
    exact ⟨fun ruling resolves _ r' later => not_answers_after_ruling split resolves later,
      fun answers r' later ruling => not_isDefault_after_answer split answers later⟩

end Runs

end StellarConduit.DisputeResolver
