import StellarConduit.DisputeResolver.History

/-!
# What the deadline of a dispute is counted from

The deadline is the ledger of the raise plus the configured window, which `initialize`
does not accept as zero.  `raise_dispute` does not ask whether the contract has been
initialized, and before that the window reads as zero: a dispute raised then is past its
deadline on the next ledger.

Where the configuration comes from is read off the records of the run (`Configured`), as
where a dispute comes from; what the record of a raise says about its dispute is still
true at the end of the run, because deadlines do not move.

The deadline itself is computed in `u32` and stored as a `u64`.  The sum of ledger and window is
formed before the conversion, and traps where it is no `u32`, although the field that it goes to
would hold it.  `Raisable` lists what else a raise needs, so that the exact condition can be
stated for raises that would otherwise be accepted.

## Main definitions

* `Raisable` — what a raise needs to be accepted.
* `Configured` — in a run so far, the window is what an accepted `initialize` has set.

## Main results

* `fullWindow_iff` — the disputes of a run have the window that `initialize` accepted
  exactly when none was raised before it.
* `raise_deadline_iff` — a raise stores the sum of ledger and window exactly when it is a
  `u32`.
-/

namespace StellarConduit.DisputeResolver

open Soroban Contract

/-! ## Raising

A raise asks for a signature, for two different parties and for a transaction that is not
disputed yet, and then computes a number and a deadline, either of which may trap.  It does not
ask for an initialized contract.
-/

section Calls

variable {Address X : Type} [DecidableEq Address]

/-- What `raise_dispute` asks for. -/
structure Raisable (env : Env Address X) (s : Storage Address) (initiator respondent : Address)
    (txId : BytesN 32) : Prop where
  /-- The initiator has signed. -/
  authorised : env.authorised initiator = true
  /-- It accuses somebody else. -/
  parties : initiator ≠ respondent
  /-- The transaction is not disputed yet. -/
  unknown : s.txDispute.get txId = none
  /-- There is another number. -/
  counted : IntType.Contains ⟨false, 64⟩ ((s.disputeCount.getD 0).val + 1)
  /-- The deadline is a `u32`. -/
  deadline : IntType.Contains ⟨false, 32⟩ (env.sequence.val + (s.resolutionWindow.getD 0).val)

variable {ed25519 : Ed25519} {env : Env Address X} {w w' : State Address X}

/-- Such a raise is accepted, whatever its proof. -/
theorem returns_raiseDispute_of_raisable {initiator respondent : Address} {txId : BytesN 32}
    (raisable : Raisable env w.storage initiator respondent txId) (proof : RelayChainProof) :
    ∃ id w', Returns (raiseDispute env initiator respondent txId proof) w id w' := by
  obtain ⟨id, hid⟩ := MachineInt.contains_iff.mp raisable.counted
  obtain ⟨resolveBy, hresolveBy⟩ := MachineInt.contains_iff.mp raisable.deadline
  exact ⟨id, _, returns_raiseDispute.mpr ⟨raisable.authorised, raisable.parties, raisable.unknown,
    hid, resolveBy, hresolveBy, rfl⟩⟩

/-- And no other is. -/
theorem raisable_of_returns {initiator respondent : Address} {txId : BytesN 32}
    {proof : RelayChainProof} {id : U64}
    (h : Returns (raiseDispute env initiator respondent txId proof) w id w') :
    Raisable env w.storage initiator respondent txId := by
  obtain ⟨authorised, parties, unknown, hid, resolveBy, hresolveBy, -⟩ := returns_raiseDispute.mp h
  exact ⟨authorised, parties, unknown, MachineInt.contains_iff.mpr ⟨id, hid⟩,
    MachineInt.contains_iff.mpr ⟨resolveBy, hresolveBy⟩⟩

/-- The step is a raise that goes through before the contract is initialized. -/
def EarlyRaise (r : Step Address X) : Prop :=
  r.before.storage.adminCouncil = none ∧
    ∃ env initiator respondent txId proof,
      r.action = .call env (.raiseDispute initiator respondent txId proof) ∧
        Raisable env r.before.storage initiator respondent txId

/-- The step initialized the contract with the window. -/
def Initializes (resolutionWindow : U32) (r : Step Address X) : Prop :=
  ∃ env council, r.action = .call env (.initializeContract council resolutionWindow) ∧
    r.reply = some (.ok .unit)

/-- The dispute stored by a raise has its deadline at the ledger of the raise plus the
window read then. -/
theorem raises_dispute {id : U64} {r : Step Address X}
    (step : (machine ed25519).record r.before r.action = r) (h : Raises id env r) :
    (∃ initiator respondent txId proof,
        r.action = .call env (.raiseDispute initiator respondent txId proof) ∧
          Raisable env r.before.storage initiator respondent txId) ∧
      ∃ d, r.after.storage.dispute.get id = some d ∧
        d.resolveBy.val =
          env.sequence.val + (r.before.storage.resolutionWindow.getD 0).val := by
  obtain ⟨initiator, respondent, txId, proof, action, hraise⟩ := raises_record step h
  refine ⟨⟨initiator, respondent, txId, proof, action, raisable_of_returns hraise⟩, ?_⟩
  obtain ⟨-, -, -, -, resolveBy, hresolveBy, hafter⟩ := returns_raiseDispute.mp hraise
  rw [hafter]
  exact ⟨_, Store.get_set_self _ _ _, (MachineInt.cast_u32_u64_val resolveBy).trans hresolveBy⟩

/-- Every stored dispute has been raised. -/
theorem exists_raises (ed25519 : Ed25519) (x : X)
    (as : List (Action Address X (Call Address) (Provision Address))) {id : U64}
    {d : Dispute Address}
    (hd : ((machine ed25519).run (freshState x) as).storage.dispute.get id = some d) :
    ∃ env, ∃ r ∈ (machine ed25519).trace (freshState x) as, Raises id env r := by
  obtain ⟨r, hr, env, -, action, reply⟩ := raised_in_run ed25519 x as hd
  exact ⟨env, r, hr, d.initiator, d.respondent, d.txId, d.initiatorProof, action, reply⟩

/-- An early raise raises a dispute. -/
theorem raises_of_earlyRaise {r : Step Address X}
    (step : (machine ed25519).record r.before r.action = r) (early : EarlyRaise r) :
    ∃ env id, Raises id env r := by
  obtain ⟨-, env, initiator, respondent, txId, proof, action, raisable⟩ := early
  obtain ⟨id, w', hraise⟩ := returns_raiseDispute_of_raisable raisable proof
  have call : Returns
      (dispatch ed25519 env (.raiseDispute initiator respondent txId proof)) r.before
      (.disputeId id) w' := returns_bind_pure.mpr ⟨id, hraise, rfl⟩
  exact ⟨env, id, initiator, respondent, txId, proof, action,
    Deployed.reply_of_returns (dispatch ed25519) provide step action call⟩

end Calls

/-! ## The configuration of a run

The window that a raise reads was set by an accepted `initialize` of the same run, or there is
none and it reads as zero.
-/

section Configuration

variable {Address X : Type}

/-- The configuration of the world was accepted by a step of the history, and there is no
window without a council. -/
structure Configured (w : State Address X) (hist : List (Step Address X)) : Prop where
  /-- A council comes with a window, from an `initialize` of the run. -/
  accepted : w.storage.adminCouncil.isSome → ∃ resolutionWindow : U32,
    w.storage.resolutionWindow = some resolutionWindow ∧ 1 ≤ resolutionWindow.val ∧
      ∃ r ∈ hist, Initializes resolutionWindow r
  /-- Without a council there is no window. -/
  missing : w.storage.adminCouncil = none → w.storage.resolutionWindow = none

/-- A deployed resolver has neither. -/
theorem configured_fresh (x : X) : Configured (freshState x : State Address X) [] where
  accepted := by simp [freshState, Storage.fresh]
  missing _ := rfl

/-- A step that keeps the configuration. -/
theorem Configured.extend {w w' : State Address X} {hist : List (Step Address X)}
    (configured : Configured w hist) (r : Step Address X)
    (council : w'.storage.adminCouncil = w.storage.adminCouncil)
    (window : w'.storage.resolutionWindow = w.storage.resolutionWindow) :
    Configured w' (hist ++ [r]) where
  accepted h := by
    rw [council] at h
    obtain ⟨resolutionWindow, stored, positive, r', hr', initializes⟩ := configured.accepted h
    exact ⟨resolutionWindow, window.trans stored, positive, r', List.mem_append_left _ hr',
      initializes⟩
  missing h := by
    rw [council] at h
    exact window.trans (configured.missing h)

variable [DecidableEq Address] {ed25519 : Ed25519} {env : Env Address X} {w w' : State Address X}
  {hist : List (Step Address X)}

/-- `initialize` sets both, and no other call writes either. -/
theorem configured_call {c : Call Address} {v : Value Address} (configured : Configured w hist)
    (h : Returns (dispatch ed25519 env c) w v w') :
    Configured w' (hist ++ [⟨w, .call env c, some (.ok v), w'⟩]) := by
  rcases initializes_or_outcome h with ⟨council, resolutionWindow, rfl, hcall⟩ | outcome
  · obtain ⟨_, -, rfl⟩ := returns_bind_pure.mp h
    obtain ⟨-, nonzero, -, rfl⟩ := returns_initializeContract.mp hcall
    refine ⟨fun _ => ⟨resolutionWindow, rfl, ?_, _,
      List.mem_append_right _ (List.mem_singleton_self _), env, council, rfl, rfl⟩,
      fun missing => by cases missing⟩
    have nonneg := resolutionWindow.u32_bounds.1
    have : resolutionWindow.val ≠ 0 := fun zero =>
      nonzero (MachineInt.ext (zero.trans MachineInt.val_zero.symm))
    omega
  cases outcome with
  | raiseDispute hcall =>
      obtain ⟨-, -, -, -, _, -, rfl⟩ := returns_raiseDispute.mp hcall
      exact configured.extend _ rfl rfl
  | respond hcall =>
      obtain ⟨-, _, -, -, -, -, rfl⟩ := returns_respond.mp hcall
      exact configured.extend _ rfl rfl
  | resolve hcall =>
      obtain ⟨_, -, -, -, rfl⟩ := resolve_cases hcall
      exact configured.extend _ rfl rfl
  | read => exact configured.extend _ rfl rfl

/-- So it is after every step, with the record of the step. -/
theorem configured_step (w : State Address X)
    (action : Action Address X (Call Address) (Provision Address)) (hist : List (Step Address X))
    (configured : Configured w hist) :
    Configured ((machine ed25519).step w action).2
      (hist ++ [(machine ed25519).record w action]) := by
  refine Deployed.record_rule (dispatch ed25519) provide
    (fun r => Configured r.after (hist ++ [r])) w action ?returned ?failed ?provision ?elsewhere
  case returned =>
    intro env c v w' h
    exact configured_call configured h
  case failed =>
    intro env c e
    exact configured.extend _ rfl rfl
  case provision =>
    intro p
    cases p
    exact configured.extend _ rfl rfl
  case elsewhere =>
    intro x
    exact configured.extend _ rfl rfl

/-- And after every run, with its trace. -/
theorem configured_run (ed25519 : Ed25519) (x : X)
    (as : List (Action Address X (Call Address) (Provision Address))) :
    Configured ((machine ed25519).run (freshState x) as)
      ((machine ed25519).trace (freshState x) as) :=
  (machine ed25519).trace_run Configured configured_step (configured_fresh x) as

/-- The dispute that a step of a run raised has at its end the deadline it was raised
with. -/
theorem resolveBy_of_raises {x : X}
    {as : List (Action Address X (Call Address) (Provision Address))} {r : Step Address X}
    (hr : r ∈ (machine ed25519).trace (freshState x) as) {id : U64} (raises : Raises id env r) :
    ∃ d, ((machine ed25519).run (freshState x) as).storage.dispute.get id = some d ∧
      d.resolveBy.val =
        env.sequence.val + (r.before.storage.resolutionWindow.getD 0).val := by
  have step := (machine ed25519).record_of_mem_trace hr
  obtain ⟨-, d, hd, hresolveBy⟩ := raises_dispute step raises
  obtain ⟨pre, action, post, rfl, rfl⟩ := (machine ed25519).mem_trace.mp hr
  have docket : Docket ((machine ed25519).step ((machine ed25519).run (freshState x) pre)
      action).2.storage := docket_step _ action (docket_reached ed25519 x pre)
  obtain ⟨d', hd', hevolves⟩ := (kept_run ed25519 docket post).dispute id d hd
  rw [Machine.run_append]
  exact ⟨d', hd', by rw [hevolves.resolveBy]; exact hresolveBy⟩

end Configuration

/-! ## The whole window

A respondent has the whole window when every ledger up to the deadline accepts an answer, and the
deadline is the ledger of the raise plus the configured window.
-/

section Runs

variable {Address X : Type} [DecidableEq Address]

/-- The dispute has the whole window: it was raised in the run, and whoever raised it,
its deadline is that ledger plus a window of at least one ledger that `initialize`
accepted in the run, and up to it the respondent can answer. -/
def FullWindow (ed25519 : Ed25519) (x : X)
    (as : List (Action Address X (Call Address) (Provision Address))) (id : U64)
    (d : Dispute Address) : Prop :=
  (∃ env, ∃ r ∈ (machine ed25519).trace (freshState x) as, Raises id env r) ∧
    ∀ env, ∀ r ∈ (machine ed25519).trace (freshState x) as, Raises id env r →
      ∃ resolutionWindow : U32,
        (∃ r' ∈ (machine ed25519).trace (freshState x) as, Initializes resolutionWindow r') ∧
        1 ≤ resolutionWindow.val ∧
        d.resolveBy.val = env.sequence.val + resolutionWindow.val ∧
        (d.status = .opened → ∀ (env' : Env Address X) proof,
          env'.authorised d.respondent = true →
            env'.sequence.val ≤ env.sequence.val + resolutionWindow.val →
              ∃ w', Returns (respond env' d.respondent id proof)
                ((machine ed25519).run (freshState x) as) () w')

/-- **The respondent gets the configured window, unless the dispute is raised before
there is one.**  In every run from the deployment on, all stored disputes have the
whole window that `initialize` accepted exactly when no dispute was raised before it. -/
theorem fullWindow_iff (ed25519 : Ed25519) (x : X)
    (as : List (Action Address X (Call Address) (Provision Address))) :
    (∀ id d, ((machine ed25519).run (freshState x) as).storage.dispute.get id = some d →
        FullWindow ed25519 x as id d) ↔
      ∀ r ∈ (machine ed25519).trace (freshState x) as, ¬ EarlyRaise r := by
  constructor
  · intro full r hr early
    obtain ⟨env, id, raises⟩ :=
      raises_of_earlyRaise ((machine ed25519).record_of_mem_trace hr) early
    obtain ⟨d, hd, deadline⟩ := resolveBy_of_raises hr raises
    obtain ⟨window, -, positive, hresolveBy, -⟩ := (full id d hd).2 env r hr raises
    -- Before `initialize` the window reads as zero.
    obtain ⟨pre, action, post, -, rfl⟩ := (machine ed25519).mem_trace.mp hr
    have none := (configured_run ed25519 x pre).missing early.1
    have zero : (((machine ed25519).record ((machine ed25519).run (freshState x) pre)
        action).before.storage.resolutionWindow.getD 0).val = 0 := by
      show (((machine ed25519).run (freshState x) pre).storage.resolutionWindow.getD 0).val = 0
      rw [none]
      exact MachineInt.val_zero
    omega
  · intro late id d hd
    refine ⟨exists_raises ed25519 x as hd, fun env r hr raises => ?_⟩
    obtain ⟨e, he, deadline⟩ := resolveBy_of_raises hr raises
    obtain rfl : d = e := Option.some.inj (hd.symm.trans he)
    obtain ⟨⟨initiator, respondent, txId, proof, action, raisable⟩, -⟩ :=
      raises_dispute ((machine ed25519).record_of_mem_trace hr) raises
    have initialized : r.before.storage.adminCouncil.isSome := by
      rw [Option.isSome_iff_ne_none]
      intro none
      exact late r hr ⟨none, env, initiator, respondent, txId, proof, action, raisable⟩
    obtain ⟨pre, action', post, rfl, rfl⟩ := (machine ed25519).mem_trace.mp hr
    obtain ⟨window, stored, positive, r', hr', initializes⟩ :=
      (configured_run ed25519 x pre).accepted initialized
    have read : ((machine ed25519).run (freshState x) pre).storage.resolutionWindow.getD 0 =
        window := by
      rw [stored]
      rfl
    have hresolveBy : d.resolveBy.val = env.sequence.val + window.val := by
      rw [← read]
      exact deadline
    refine ⟨window, ⟨r', ?_, initializes⟩, positive, hresolveBy,
      fun hopened env' proof authorised intime => ?_⟩
    · rw [Machine.trace_append]
      exact List.mem_append_left _ hr'
    · apply (returns_respond_opened_iff hd hopened authorised proof).mpr
      rwa [hresolveBy]

end Runs

/-- A dispute is raised on the ledger 5, before the contract is initialized. -/
def raisedEarly : List (Action ℕ Unit (Call ℕ) (Provision ℕ)) :=
  [.call (sampleEnv 5)
    (.raiseDispute 1 2 (BytesN.fill 32 9) (sampleProof initiatorSignature 20))]

/-- Its respondent has no window at all: on the next ledger the initiator wins by
default. -/
theorem raisedEarly_no_window :
    ∃ d, ((machine sampleEd25519).run (freshState ()) raisedEarly).storage.dispute.get 1 =
        some d ∧
      d.resolveBy = 5 ∧ ¬ FullWindow sampleEd25519 () raisedEarly 1 d ∧
      ∃ ruling w', Returns (resolve sampleEd25519 (sampleEnv 6) 1)
        ((machine sampleEd25519).run (freshState ()) raisedEarly) ruling w' ∧
          ruling.IsDefault ∧ ruling.winner = 1 := by
  have hd : ((machine sampleEd25519).run (freshState ()) raisedEarly).storage.dispute.get 1 =
      some { sampleDispute (sampleProof initiatorSignature 20) none .opened with resolveBy := 5 } :=
    rfl
  refine ⟨_, hd, rfl, ?_, _, _, returns_resolve_opened hd rfl (by decide), rfl, rfl⟩
  rintro ⟨-, deadline⟩
  obtain ⟨window, -, positive, hresolveBy, -⟩ := deadline (sampleEnv 5) _ List.mem_cons_self
    ⟨1, 2, BytesN.fill 32 9, sampleProof initiatorSignature 20, rfl, rfl⟩
  have five : (5 : U64).val = (5 : U32).val := by decide
  have sum : (5 : U64).val = (5 : U32).val + window.val := hresolveBy
  omega

/-! ## The sum

The exact condition is stated for a raise that has everything else it needs, so that the sum is
all that can stand in its way.
-/

section Sum

variable {Address X : Type} [DecidableEq Address]

/-- **A deadline that fits into 32 bits is exact, and no other is formed.**  In every state
reached from the deployment on after `initialize`, with room for another dispute, let a
party authorise a raise against someone else over a transaction without a dispute.  The
raise goes through, and stores the sum of ledger and window as its deadline, exactly when
the sum is a `u32`. -/
theorem raise_deadline_iff (ed25519 : Ed25519) (x : X)
    (as : List (Action Address X (Call Address) (Provision Address))) {resolutionWindow : U32}
    (configured : ((machine ed25519).run (freshState x) as).storage.resolutionWindow =
      some resolutionWindow)
    (room : (((machine ed25519).run (freshState x) as).storage.disputeCount.getD 0).val <
      IntType.max ⟨false, 64⟩)
    {env : Env Address X} {initiator respondent : Address} {txId : BytesN 32}
    (authorised : env.authorised initiator = true) (parties : initiator ≠ respondent)
    (undisputed : ∀ id d,
      ((machine ed25519).run (freshState x) as).storage.dispute.get id = some d → d.txId ≠ txId)
    (proof : RelayChainProof) :
    let reached := (machine ed25519).run (freshState x) as
    let raise := Action.call env (.raiseDispute initiator respondent txId proof)
    (∃ id d, ((machine ed25519).step reached raise).1 = some (.ok (.disputeId id)) ∧
        ((machine ed25519).step reached raise).2.storage.dispute.get id = some d ∧
        d.resolveBy.val = env.sequence.val + resolutionWindow.val) ↔
      env.sequence.val + resolutionWindow.val ≤ IntType.max ⟨false, 32⟩ := by
  intro reached raise
  have window : reached.storage.resolutionWindow.getD 0 = resolutionWindow := by
    rw [configured]
    rfl
  -- What is assumed is about the stored disputes, what is checked is the index; they agree.
  have unknown : reached.storage.txDispute.get txId = none := by
    by_contra known
    obtain ⟨id, hid⟩ := Option.ne_none_iff_exists'.mp known
    obtain ⟨d, hd, same⟩ := ((docket_reached ed25519 x as).indexed txId id).mp hid
    exact undisputed id d hd same
  constructor
  · rintro ⟨id, d, answered, -, -⟩
    rcases Deployed.step_call_cases (dispatch ed25519) provide env
      (.raiseDispute initiator respondent txId proof) reached with ⟨v, w', h, -⟩ | ⟨e, failed⟩
    · obtain ⟨id', hraise, -⟩ := returns_bind_pure.mp h
      -- An accepted raise had a deadline that fits, whatever else it needed.
      have deadline := (raisable_of_returns hraise).deadline
      rw [window] at deadline
      exact deadline.2
    · cases answered.symm.trans (congrArg Prod.fst failed)
  · intro fits
    have lower := (MachineInt.u64_bounds (reached.storage.disputeCount.getD 0)).1
    have ledger := (MachineInt.u32_bounds env.sequence).1
    have length := (MachineInt.u32_bounds resolutionWindow).1
    have zero : IntType.min ⟨false, 64⟩ = 0 := rfl
    -- Conversely, with a sum that fits nothing is missing.
    have raisable : Raisable env reached.storage initiator respondent txId :=
      { authorised := authorised
        parties := parties
        unknown := unknown
        counted := ⟨by omega, room⟩
        deadline := by
          rw [window]
          exact ⟨add_nonneg ledger length, fits⟩ }
    obtain ⟨id, w', hraise⟩ := returns_raiseDispute_of_raisable raisable proof
    have step : (machine ed25519).step reached raise = (some (.ok (.disputeId id)), w') :=
      Deployed.step_of_returns (dispatch ed25519) provide (returns_bind_pure.mpr ⟨id, hraise, rfl⟩)
    obtain ⟨-, -, -, -, resolveBy, hresolveBy, rfl⟩ := returns_raiseDispute.mp hraise
    rw [step]
    refine ⟨id, _, rfl, Store.get_set_self _ _ _, ?_⟩
    rw [window] at hresolveBy
    exact (MachineInt.cast_u32_u64_val resolveBy).trans hresolveBy

end Sum

/-- The longest window that `initialize` accepts. -/
def longestWindow : List (Action ℕ Unit (Call ℕ) (Provision ℕ)) :=
  [.call (sampleEnv 0) (.initializeContract ⟨[7], 1⟩ 4294967295)]

/-- With it, a raise on any ledger but the very first traps. -/
theorem longestWindow_traps :
    let reached := (machine sampleEd25519).run (freshState ()) longestWindow
    reached.storage.resolutionWindow = some 4294967295 ∧ reached.storage.disputeCount = none ∧
      reached.storage.txDispute.get (BytesN.fill 32 9) = none ∧
      ((machine sampleEd25519).step reached (.call (sampleEnv 1)
        (.raiseDispute 1 2 (BytesN.fill 32 9) (sampleProof initiatorSignature 20)))).1 =
          some (.error (.trap .overflow)) := by
  exact ⟨rfl, rfl, rfl, rfl⟩

/-- On the first ledger the deadline is the last one. -/
theorem raise_deadline_iff_longestWindow :
    ∃ id d, ((machine sampleEd25519).step
        ((machine sampleEd25519).run (freshState ()) longestWindow)
        (.call (sampleEnv 0)
          (.raiseDispute 1 2 (BytesN.fill 32 9) (sampleProof initiatorSignature 20)))).1 =
            some (.ok (.disputeId id)) ∧
      ((machine sampleEd25519).step ((machine sampleEd25519).run (freshState ()) longestWindow)
        (.call (sampleEnv 0) (.raiseDispute 1 2 (BytesN.fill 32 9)
          (sampleProof initiatorSignature 20)))).2.storage.dispute.get id = some d ∧
      d.resolveBy.val = (sampleEnv 0).sequence.val + (4294967295 : U32).val := by
  have configured : ((machine sampleEd25519).run (freshState ())
      longestWindow).storage.resolutionWindow = some 4294967295 := rfl
  have authorised : (sampleEnv 0).authorised 1 = true := rfl
  have undisputed : ∀ id d, ((machine sampleEd25519).run (freshState ())
      longestWindow).storage.dispute.get id = some d → d.txId ≠ BytesN.fill 32 9 := by
    intro id d hd
    cases hd
  exact (raise_deadline_iff sampleEd25519 () longestWindow configured (by decide +kernel)
    authorised (by decide) undisputed (sampleProof initiatorSignature 20)).mpr (by decide)

end StellarConduit.DisputeResolver
