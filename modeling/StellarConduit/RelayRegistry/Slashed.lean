import StellarConduit.RelayRegistry.Records

/-!
# What a slashed node can still do

The operations of a node meet a slash each in its own way: `stake` and `unstake` look at
the status, `finalize_unstake` finds no lock entry, since a slash takes it and only an
active node gets a new one, and `register` finds the record.  `update_metadata` does
not look, and goes through.

So what is stored of a slashed node is fixed but for its metadata, and the exception has an exact
form: in a run without an accepted reinstatement the calls of the node for itself all fail, and
its records are the same at the end, if and only if no update of its metadata is accepted.  One
direction is an invariant, `SlashedWith`, kept by every step of another kind.  The other is
immediate, an accepted update being a call that does not fail.

## Main definitions

* `SlashedWith` — the node is slashed, with this record and nothing pending.

## Main results

* `slashed_inert_iff` — until it is reinstated, a slashed node changes nothing, in a run
  in which it does not update its metadata, and in no other.
-/

namespace StellarConduit.RelayRegistry

open Soroban Contract

section Slashed

variable {Address : Type}

/-- The node of the five entry points that a node calls for itself. -/
def Call.nodeAddress : Call Address → Option Address
  | .register a _ | .updateMetadata a _ | .stake a _ | .unstake a _ | .finalizeUnstake a => some a
  | _ => none

/-- The node `a` is slashed, with the record `node`, and has no lock entry. -/
structure SlashedWith (s : Storage Address) (a : Address) (node : RelayNode Address) : Prop where
  /-- This is its record. -/
  record : s.relayNode.get a = some node
  /-- It is slashed. -/
  slashed : node.status = .slashed
  /-- Nothing is pending. -/
  entry : s.lockEntry.get a = none

/-- Slashed nodes have no lock entry. -/
def Seized (s : Storage Address) : Prop :=
  ∀ a node, s.relayNode.get a = some node → node.status = .slashed → s.lockEntry.get a = none

variable {X : Type}

/-- The call is one of the node `a` for itself: it names the node, or only the node has
signed it. -/
def OwnCall (a : Address) (env : Env Address X) (c : Call Address) : Prop :=
  ∃ b, c.nodeAddress = some b ∧ (b = a ∨ ∀ b', env.authorised b' = true → b' = a)

/-- The step is an update of its metadata by the node `a` that goes through. -/
def UpdatesMetadata (a : Address) (r : Step Address X) : Prop :=
  ∃ env metadata, r.action = .call env (.updateMetadata a metadata) ∧ env.authorised a = true ∧
    ¬ (metadata.uptimeCommitment > 100 ∨ metadata.region.len > 32)

/-- The step is a reinstatement of the node `a` that goes through. -/
def Reinstates (a : Address) (r : Step Address X) : Prop :=
  ∃ env v, r.action = .call env (.reinstateNode a) ∧ r.reply = some (.ok v)

variable [DecidableEq Address] {env : Env Address X} {w w' : State Address X}

/-- Writing the record of one node, and at most its own lock entry. -/
theorem Seized.update {s s' : Storage Address} (seized : Seized s) {a : Address}
    {node : RelayNode Address} (record : s'.relayNode = s.relayNode.set a node)
    (others : ∀ b, b ≠ a → s'.lockEntry.get b = s.lockEntry.get b)
    (own : node.status = .slashed → s'.lockEntry.get a = none) : Seized s' := by
  intro b n hb hslashed
  rw [record, Store.get_set] at hb
  split at hb
  · rename_i hba
    obtain rfl := Option.some.inj hb
    rw [hba]
    exact own hslashed
  · rename_i hba
    rw [others b hba]
    exact seized b n hb hslashed

/-- A call that returns leaves no slashed node with a lock entry. -/
theorem seized_call {c : Call Address} {v : Value Address} (seized : Seized w.storage)
    (h : Returns (dispatch env c) w v w') : Seized w'.storage := by
  cases writes_of_returns h with
  | configure hcall =>
      obtain ⟨-, -, -, -, rfl⟩ := returns_initializeContract.mp hcall
      exact seized
  | register _ inactive _ record entries =>
      refine seized.update record (fun _ _ => by rw [entries]) fun hslashed => ?_
      rw [inactive] at hslashed
      cases hslashed
  | @rewrite _ a node _ _ _ present _ record others slashed =>
      refine seized.update record others fun hslashed => ?_
      rcases slashed hslashed with none | ⟨before, same⟩
      · exact none
      · exact same.trans (seized a node present before)
  | payout _ nodes entries =>
      intro b node hb hslashed
      rw [nodes] at hb
      rw [entries, Store.get_remove, seized b node hb hslashed, ite_self]
  | view => exact seized

/-- No slashed node has a lock entry, from the deployment on. -/
theorem seized_reached (x : X)
    (as : List (Action Address X (Call Address) (Provision Address))) :
    Seized (machine.run (freshState x) as).storage := by
  have start : Seized (freshState x : State Address X).storage := by
    simp [Seized, freshState, Storage.fresh]
  refine machine.run_invariant (fun w => Seized w.storage) (fun w action => ?_) start as
  refine Deployed.step_storage Seized (fun _ _ _ _ _ => seized_call) (fun p s hs => ?_) w action
  cases p
  exact hs

/-! ## One step

The calls on a slashed node are taken one by one.  Of those that return, one rewrites the
metadata and one is the reinstatement; all others ask for the status, for a lock entry or for an
address without a record, and fail.
-/

/-- Beside an update of its metadata, no call of a slashed node for itself returns. -/
theorem not_returns_ownCall {a : Address} {node : RelayNode Address} {c : Call Address}
    {v : Value Address} (slashed : SlashedWith w.storage a node) (own : OwnCall a env c)
    (other : ∀ metadata, c ≠ .updateMetadata a metadata) : ¬ Returns (dispatch env c) w v w' := by
  intro h
  obtain ⟨b, named, signed⟩ := own
  -- A call that returns has been authorised by the node it names.
  have same (authorised : env.authorised b = true) : b = a :=
    signed.elim id fun alone => alone b authorised
  cases c with
  | register c metadata =>
      obtain rfl := Option.some.inj named
      obtain ⟨_, hcall, -⟩ := returns_bind_pure.mp h
      obtain ⟨authorised, hnone, -⟩ := returns_register.mp hcall
      obtain rfl := same authorised
      rw [slashed.record] at hnone
      cases hnone
  | updateMetadata c metadata =>
      obtain rfl := Option.some.inj named
      obtain ⟨_, hcall, -⟩ := returns_bind_pure.mp h
      obtain ⟨authorised, -⟩ := returns_updateMetadata.mp hcall
      obtain rfl := same authorised
      exact other metadata rfl
  | stake c amount =>
      obtain rfl := Option.some.inj named
      obtain ⟨_, hcall, -⟩ := returns_bind_pure.mp h
      obtain ⟨authorised, n, hn, hstatus, -⟩ := returns_stake.mp hcall
      obtain rfl := same authorised
      obtain rfl := Option.some.inj (slashed.record.symm.trans hn)
      exact hstatus slashed.slashed
  | unstake c amount =>
      obtain rfl := Option.some.inj named
      obtain ⟨_, hcall, -⟩ := returns_bind_pure.mp h
      obtain ⟨authorised, -, n, hn, hactive, -⟩ := returns_unstake.mp hcall
      obtain rfl := same authorised
      obtain rfl := Option.some.inj (slashed.record.symm.trans hn)
      rw [slashed.slashed] at hactive
      cases hactive
  | finalizeUnstake c =>
      obtain rfl := Option.some.inj named
      obtain ⟨_, hcall, -⟩ := returns_bind_pure.mp h
      obtain ⟨authorised, entry, hentry, -⟩ := returns_finalizeUnstake.mp hcall
      obtain rfl := same authorised
      rw [slashed.entry] at hentry
      cases hentry
  | initializeContract council minStake stakeLockPeriod => cases named
  | slash c reason => cases named
  | reinstateNode c => cases named
  | getNode c => cases named
  | isActive c => cases named

/-- A call that returns on the records of a slashed node updates its metadata or
reinstates it. -/
theorem subject_slashed {a : Address} {node : RelayNode Address} {c : Call Address}
    {v : Value Address} (slashed : SlashedWith w.storage a node)
    (h : Returns (dispatch env c) w v w') (subject : c.subject = some a) :
    (∃ metadata, c = .updateMetadata a metadata) ∨ c = .reinstateNode a := by
  -- Five of the calls are the node's own, and of these only an update of the metadata returns.
  have own (named : c.nodeAddress = some a) : ∃ metadata, c = .updateMetadata a metadata := by
    by_contra other
    exact not_returns_ownCall slashed ⟨a, named, Or.inl rfl⟩
      (fun metadata hc => other ⟨metadata, hc⟩) h
  cases c with
  | register b metadata => exact Or.inl (own subject)
  | updateMetadata b metadata => exact Or.inl (own subject)
  | stake b amount => exact Or.inl (own subject)
  | unstake b amount => exact Or.inl (own subject)
  | finalizeUnstake b => exact Or.inl (own subject)
  | slash b reason =>
      obtain rfl := Option.some.inj subject
      obtain ⟨_, hcall, -⟩ := returns_bind_pure.mp h
      obtain ⟨-, n, hn, hstatus, -⟩ := returns_slash.mp hcall
      obtain rfl := Option.some.inj (slashed.record.symm.trans hn)
      exact absurd slashed.slashed hstatus
  | reinstateNode b =>
      obtain rfl := Option.some.inj subject
      exact Or.inr rfl
  | initializeContract council minStake stakeLockPeriod => cases subject
  | getNode b => cases subject
  | isActive b => cases subject

/-- Whoever calls, a slashed node stays slashed until it is reinstated, and its record
stays the same until it updates its metadata. -/
theorem slashed_step {a : Address} {node : RelayNode Address} (w : State Address X)
    (action : Action Address X (Call Address) (Provision Address))
    (slashed : SlashedWith w.storage a node)
    (stays : ¬ Reinstates a (machine.record w action)) :
    ∃ node', SlashedWith (machine.step w action).2.storage a node' ∧
      (¬ UpdatesMetadata a (machine.record w action) → node' = node) := by
  revert stays
  refine Deployed.record_rule dispatch provide
    (fun r => ¬ Reinstates a r → ∃ node', SlashedWith r.after.storage a node' ∧
      (¬ UpdatesMetadata a r → node' = node)) w action ?returned ?failed ?provision ?elsewhere
  case returned =>
    intro env c v w' h stays
    by_cases subject : c.subject = some a
    · rcases subject_slashed slashed h subject with ⟨metadata, rfl⟩ | rfl
      · obtain ⟨_, hcall, -⟩ := returns_bind_pure.mp h
        obtain ⟨authorised, n, hn, valid, rfl⟩ := returns_updateMetadata.mp hcall
        obtain rfl := Option.some.inj (slashed.record.symm.trans hn)
        exact ⟨_, ⟨Store.get_set_self _ _ _, slashed.slashed, slashed.entry⟩,
          fun quiet => absurd ⟨env, metadata, rfl, authorised, valid⟩ quiet⟩
      · exact absurd ⟨env, v, rfl, rfl⟩ stays
    · obtain ⟨record, entry⟩ := untouched_call h subject
      exact ⟨node, ⟨record.trans slashed.record, slashed.slashed, entry.trans slashed.entry⟩,
        fun _ => rfl⟩
  case failed =>
    intro env c e _
    exact ⟨node, slashed, fun _ => rfl⟩
  case provision =>
    intro p _
    cases p
    exact ⟨node, ⟨slashed.record, slashed.slashed, slashed.entry⟩, fun _ => rfl⟩
  case elsewhere =>
    intro x _
    exact ⟨node, slashed, fun _ => rfl⟩

end Slashed

/-! ## Runs

As long as no reinstatement is accepted, the node stays slashed, so the lemma on one step applies
again.
-/

section Runs

variable {Address X : Type} [DecidableEq Address] {a : Address} {node : RelayNode Address}
  {w : State Address X} {as : List (Action Address X (Call Address) (Provision Address))}

/-- A slashed node is slashed as long as nobody reinstates it. -/
theorem slashed_run (slashed : SlashedWith w.storage a node)
    (stays : ∀ r ∈ machine.trace w as, ¬ Reinstates a r) :
    ∃ node', SlashedWith (machine.run w as).storage a node' := by
  refine machine.run_invariant_of (fun w => ∃ node, SlashedWith w.storage a node)
    (fun r => ¬ Reinstates a r) (fun w action allowed inv => ?_) ⟨node, slashed⟩ stays
  obtain ⟨node, slashed⟩ := inv
  obtain ⟨node', slashed', -⟩ := slashed_step w action slashed allowed
  exact ⟨node', slashed'⟩

/-- Its record is the same as long as it does not update its metadata. -/
theorem slashedWith_run (slashed : SlashedWith w.storage a node)
    (stays : ∀ r ∈ machine.trace w as, ¬ Reinstates a r)
    (quiet : ∀ r ∈ machine.trace w as, ¬ UpdatesMetadata a r) :
    SlashedWith (machine.run w as).storage a node := by
  refine machine.run_invariant_of (fun w => SlashedWith w.storage a node)
    (fun r => ¬ Reinstates a r ∧ ¬ UpdatesMetadata a r)
    (fun w action allowed slashed => ?_) slashed (fun r hr => ⟨stays r hr, quiet r hr⟩)
  obtain ⟨node', slashed', same⟩ := slashed_step w action slashed allowed.1
  exact same allowed.2 ▸ slashed'

/-- **A slashed node can do nothing for itself but update its metadata.**  Take any state
reached from the deployment on in which a node is slashed, and any run from there in
which no `reinstate_node` of it returns.  The calls of the node for itself all fail and change
nothing, and its record and its lock entry at the end are those at the start, exactly
when no step of the run is a valid update of its metadata. -/
theorem slashed_inert_iff (x : X)
    (as : List (Action Address X (Call Address) (Provision Address)))
    (hnode : (machine.run (freshState x) as).storage.relayNode.get a = some node)
    (hslashed : node.status = .slashed)
    (bs : List (Action Address X (Call Address) (Provision Address)))
    (stays : ∀ r ∈ machine.trace (machine.run (freshState x) as) bs, ¬ Reinstates a r) :
    let start := machine.run (freshState x) as
    ((∀ r ∈ machine.trace start bs, ∀ env c, r.action = .call env c → OwnCall a env c →
          (∃ e, r.reply = some (.error e)) ∧ r.after = r.before) ∧
        (machine.run start bs).storage.relayNode.get a = some node ∧
        (machine.run start bs).storage.lockEntry.get a = start.storage.lockEntry.get a) ↔
      ∀ r ∈ machine.trace start bs, ¬ UpdatesMetadata a r := by
  intro start
  have entry := seized_reached x as a node hnode hslashed
  have slashed : SlashedWith start.storage a node := ⟨hnode, hslashed, entry⟩
  -- The node is slashed before every step.
  have before {r : Step Address X} (hr : r ∈ machine.trace start bs) :
      ∃ node', SlashedWith r.before.storage a node' := by
    obtain ⟨pre, action, post, split, rfl⟩ := machine.mem_trace.mp hr
    refine slashed_run slashed fun r hr => stays r ?_
    rw [split, Machine.trace_append]
    exact List.mem_append_left _ hr
  constructor
  · rintro ⟨inert, -⟩ r hr ⟨env, metadata, action, authorised, valid⟩
    obtain ⟨node', slashed'⟩ := before hr
    obtain ⟨⟨e, failed⟩, -⟩ := inert r hr env (.updateMetadata a metadata) action
      ⟨a, rfl, Or.inl rfl⟩
    have hcall : Returns (updateMetadata env a metadata) r.before () _ :=
      returns_updateMetadata.mpr ⟨authorised, node', slashed'.record, valid, rfl⟩
    have call : Returns (dispatch env (.updateMetadata a metadata)) r.before .unit _ :=
      returns_bind_pure.mpr ⟨(), hcall, rfl⟩
    have answered := Deployed.reply_of_returns dispatch provide (machine.record_of_mem_trace hr)
      action call
    rw [answered] at failed
    cases failed
  · intro quiet
    have same := slashedWith_run slashed stays quiet
    refine ⟨fun r hr env c action own => ?_, same.record, same.entry.trans entry.symm⟩
    obtain ⟨node', slashed'⟩ := before hr
    rcases Deployed.recorded_call_cases dispatch provide (machine.record_of_mem_trace hr) action
      with ⟨v, h, -⟩ | ⟨e, failed, unchanged⟩
    · refine absurd h (not_returns_ownCall slashed' own fun metadata hc => ?_)
      subst hc
      obtain ⟨_, hcall, -⟩ := returns_bind_pure.mp h
      obtain ⟨authorised, _, -, valid, -⟩ := returns_updateMetadata.mp hcall
      exact quiet r hr ⟨env, metadata, action, authorised, valid⟩
    · exact ⟨⟨e, failed⟩, unchanged⟩

end Runs

/-- Node 1 registers, and the council slashes it. -/
def slashedOne : List (Action ℕ Unit (Call ℕ) (Provision ℕ)) :=
  [.call sampleEnv (.initializeContract ⟨[7], 1⟩ 100 10),
    .call sampleEnv (.register 1 ⟨HostString.fromStr "eu", 10, 99⟩),
    .call sampleEnv (.slash 1 (HostString.fromStr "fraud"))]

/-- The record it is left with. -/
def slashedNode : RelayNode ℕ := ⟨1, 0, .slashed, ⟨HostString.fromStr "eu", 10, 99⟩, 5, 5⟩

/-- The node of the sample run has been slashed. -/
theorem slashedOne_record :
    (machine.run (freshState ()) slashedOne).storage.relayNode.get 1 = some slashedNode := by
  decide +kernel

/-- `sampleEnv`, signed by node 1 alone. -/
def signedByOne : Env ℕ Unit := { sampleEnv with authorised := fun b => b == 1 }

/-- The slashed node tries to stake 300. -/
theorem slashed_inert_slashedOne :
    (machine.run (machine.run (freshState ()) slashedOne)
      [.call signedByOne (.stake 1 300)]).storage.relayNode.get 1 = some slashedNode := by
  refine ((slashed_inert_iff () slashedOne slashedOne_record rfl [.call signedByOne (.stake 1 300)]
    fun r hr => ?_).mpr fun r hr => ?_).2.1
  · rintro ⟨env, v, action, -⟩
    have mem := machine.action_mem_of_mem_trace hr
    rw [action] at mem
    simp at mem
  · rintro ⟨env, metadata, action, -⟩
    have mem := machine.action_mem_of_mem_trace hr
    rw [action] at mem
    simp at mem

/-- It updates its metadata, with nobody's signature but its own. -/
theorem slashedOne_updates_metadata :
    slashedNode.status = .slashed ∧
      (machine.run (freshState ()) slashedOne).storage.relayNode.get 1 = some slashedNode ∧
      (∀ b, signedByOne.authorised b = true → b = 1) ∧
      ∃ w', Returns (updateMetadata signedByOne 1 ⟨HostString.fromStr "us", 20, 50⟩)
          (machine.run (freshState ()) slashedOne) () w' ∧
        w'.storage.relayNode.get 1 =
          some { slashedNode with metadata := ⟨HostString.fromStr "us", 20, 50⟩ } ∧
        { slashedNode with metadata := ⟨HostString.fromStr "us", 20, 50⟩ } ≠ slashedNode := by
  refine ⟨rfl, slashedOne_record, fun b signed => ?_, _, returns_updateMetadata.mpr
    ⟨rfl, slashedNode, slashedOne_record, by decide +kernel, rfl⟩, Store.get_set_self _ _ _,
    by decide +kernel⟩
  exact of_decide_eq_true signed

end StellarConduit.RelayRegistry
