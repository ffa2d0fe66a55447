import StellarConduit.CouncilGate
import StellarConduit.DisputeResolver.History
import StellarConduit.Protocol.Safety
import StellarConduit.Unprivileged

/-!
# What is done in whose name

The entry points that act for an address ask for its signature: its tokens are paid, its node
is moved, its earnings are claimed, its disputes are raised and answered only by transactions
that it has signed.  The one exception is the council of the registry, which slashes and
reinstates.  Others can give an address something, a fee for a batch or an accusation.

What it takes to act for an address is said of the action alone, without looking at the state:
`SignedBy` that its transaction carries the signature, `Disciplines` that it is a call of the
registry's council on the node.  Runs are then restricted by what their actions are, and the
results hold whatever is done in between by everybody else.

Each contract contributes its own invariant about an address that signs nothing.  In the registry
its two records stay as they are; in the distributor what it has claimed stays; in the resolver
it raises and answers no dispute, which is `Silent`.  The call lemmas need the state to be one in
order, so the invariants of the contracts are carried along together, as `InOrder`.

## Main definitions

* `Action.SignedBy`, `Action.Disciplines` — who may act for an address.
* `InOrder` — what each of the contracts maintains, held together along runs of the system.
* `Silent` — between two states of the resolver an address has raised and answered nothing.

## Main results

* `records_run` — the node and the pending unstake of an address that signs nothing.
* `unsigned_kept` — in all four contracts nothing is done in the name of such an address.
-/

namespace StellarConduit.Protocol

open Soroban Contract Machine

variable {Address : Type} {chain : Chain Address}

/-- The transaction of the action is signed by `a`. -/
def Action.SignedBy (a : Address) : Action chain → Prop
  | .distributor tx _ | .treasury tx _ | .transfer tx _ _ _ | .registry tx _ | .resolver tx _ =>
      tx.authorised none a = true
  | .setPublicKey _ _ => False

/-- The registry's council agrees to a slash or a reinstatement of the node `a`. -/
def Action.Disciplines (council : AdminCouncil Address) (a : Address) : Action chain → Prop
  | .registry tx (.slash b _) | .registry tx (.reinstateNode b) =>
      b = a ∧ ∀ m ∈ firstMembers council, tx.authorised none m = true
  | _ => False

/-- The address is none of the contracts that hold tokens. -/
def Chain.Outsider (chain : Chain Address) (a : Address) : Prop :=
  a ≠ chain.distributor ∧ a ≠ chain.treasury ∧ a ≠ chain.registry

/-- Who is no contract is charged by what it signs alone. -/
theorem Chain.Outsider.not_charges {a : Address} (outsider : chain.Outsider a)
    {action : Action chain} (unsigned : ¬ action.SignedBy a) : ¬ action.Charges a := by
  cases action with
  | distributor tx c => exact not_or.mpr ⟨unsigned, outsider.1⟩
  | treasury tx c => exact not_or.mpr ⟨unsigned, outsider.2.1⟩
  | registry tx c => exact not_or.mpr ⟨unsigned, outsider.2.2⟩
  | transfer tx sender recipient amount => exact unsigned
  | resolver tx c => exact id
  | setPublicKey address publicKey => exact id

variable [DecidableEq Address] {settings : Settings Address} {s : State Address}
  {ed25519 : DisputeResolver.Ed25519} {a : Address}

/-! ## The contracts in order -/

/-- The invariants of registry, distributor and resolver. -/
structure InOrder (settings : Settings Address) (s : State Address) : Prop where
  /-- Nodes, stakes and pending unstakes belong together. -/
  registry : RelayRegistry.Invariant settings.registryCouncil settings.minStake
    settings.stakeLockPeriod s.registry.storage
  /-- Earnings and fee entries belong together. -/
  distributor : FeeDistributor.Reconciled s.settlement.storage
  /-- Disputes, rulings and their index belong together. -/
  resolver : DisputeResolver.Docket s.resolver.storage

/-- Each contract keeps its own invariant, in the steps that it takes. -/
theorem inOrder_step (s : State Address) (action : Action chain) (inOrder : InOrder settings s) :
    InOrder settings ((machine ed25519 chain).step s action).2 where
  registry :=
    (registry_takes s action).invariant
      (fun w => RelayRegistry.Invariant settings.registryCouncil settings.minStake
        settings.stakeLockPeriod w.storage)
      (fun w action _ => RelayRegistry.invariant_step w action) inOrder.registry
  distributor :=
    (distributor_takes s action).invariant (fun w => FeeDistributor.Reconciled w.storage)
      (fun w action _ => FeeDistributor.reconciled_step w action) inOrder.distributor
  resolver :=
    (resolver_takes s action).invariant (fun w => DisputeResolver.Docket w.storage)
      (fun w action _ => DisputeResolver.docket_step w action) inOrder.resolver

/-- A launch leaves the contracts in order. -/
theorem Launched.inOrder (launched : Launched chain settings s) : InOrder settings s where
  registry := launched.solvent.wellFormed
  distributor := by
    obtain ⟨u, h⟩ := launched.distributor
    rw [(FeeDistributor.returns_initializeContract_freshState.mp h).2.2]
    exact FeeDistributor.reconciled_initialState
  resolver := by
    obtain ⟨u, h⟩ := launched.resolver
    rw [(DisputeResolver.returns_initializeContract_freshState.mp h).2.2]
    exact DisputeResolver.docket_initialState

/-- The registry's council has passed the checks of `initialize`. -/
theorem Launched.accepted (launched : Launched chain settings s) :
    ¬ settings.registryCouncil.Invalid := by
  obtain ⟨w, u, h, -⟩ := launched.registry
  exact (RelayRegistry.returns_initializeContract_freshState.mp h).2.2.1

/-- Every state that a launched system reaches is in order. -/
theorem inOrder_run (ed25519 : DisputeResolver.Ed25519) (launched : Launched chain settings s)
    (as : List (Action chain)) : InOrder settings ((machine ed25519 chain).run s as) :=
  (machine ed25519 chain).run_invariant (InOrder settings) inOrder_step launched.inOrder as

/-! ## The registry

The calls on a node are its own, which it signs, and the council's two.  A node that signs
nothing and is not disciplined is therefore the node of no call that returns.
-/

/-- A call that returns is on a node that has signed it, or that the council disciplines. -/
theorem subject_ne {tx : Tx chain} {c : RelayRegistry.Call Address}
    {v : RelayRegistry.Value Address} {w : RelayRegistry.State Address (Balances Address)}
    (accepted : ¬ settings.registryCouncil.Invalid) (inOrder : InOrder settings s)
    (unsigned : ¬ (Action.registry tx c).SignedBy a)
    (undisciplined : ¬ (Action.registry tx c).Disciplines settings.registryCouncil a)
    (h : Returns (RelayRegistry.dispatch tx.registryEnv c) s.registryWorld v w) :
    c.subject ≠ some a := by
  intro subject
  by_cases gated : RelayRegistry.Gated c
  · have stored : s.registryWorld.storage.adminCouncil = some settings.registryCouncil :=
      inOrder.registry.adminCouncil
    obtain ⟨_, w'', gate⟩ := (RelayRegistry.gated_startsWith gated).returns h
    have approved := (RelayRegistry.gate_passes_iff stored accepted).mp ⟨w'', gate⟩
    cases c with
    | slash b reason => exact undisciplined ⟨Option.some.inj subject, approved⟩
    | reinstateNode b => exact undisciplined ⟨Option.some.inj subject, approved⟩
    | _ => exact gated
  · exact unsigned (RelayRegistry.authorised_subject gated h subject)

/-- A node that has signed nothing is moved by the council alone. -/
theorem records_step (ed25519 : DisputeResolver.Ed25519)
    (accepted : ¬ settings.registryCouncil.Invalid) (inOrder : InOrder settings s)
    {action : Action chain} (unsigned : ¬ action.SignedBy a)
    (undisciplined : ¬ action.Disciplines settings.registryCouncil a) :
    let after := ((machine ed25519 chain).step s action).2.registry.storage
    after.relayNode.get a = s.registry.storage.relayNode.get a ∧
      after.lockEntry.get a = s.registry.storage.lockEntry.get a := by
  intro after
  cases action with
  | registry tx c =>
      rcases Deployed.step_call_cases RelayRegistry.dispatch RelayRegistry.provide tx.registryEnv c
        s.registryWorld with ⟨v, w, h, hstep⟩ | ⟨e, hstep⟩
      · have left : after = w.storage := congrArg (fun r => r.2.storage) hstep
        rw [left]
        exact RelayRegistry.untouched_call h
          (subject_ne accepted inOrder unsigned undisciplined h)
      · have left : after = s.registry.storage := congrArg (fun r => r.2.storage) hstep
        rw [left]
        exact ⟨rfl, rfl⟩
  | _ => exact ⟨rfl, rfl⟩

/-- Between two states of a run in which the node neither signs nor is disciplined, its two records
are the same. -/
theorem records_run (ed25519 : DisputeResolver.Ed25519) (launched : Launched chain settings s)
    (as : List (Action chain)) {bs : List (Action chain)}
    (unsigned : ∀ action ∈ bs, ¬ action.SignedBy a)
    (undisciplined : ∀ action ∈ bs, ¬ action.Disciplines settings.registryCouncil a) :
    let reached := (machine ed25519 chain).run s as
    let later := (machine ed25519 chain).run reached bs
    later.registry.storage.relayNode.get a = reached.registry.storage.relayNode.get a ∧
      later.registry.storage.lockEntry.get a = reached.registry.storage.lockEntry.get a := by
  intro reached later
  refine ((machine ed25519 chain).run_invariant_of
    (fun t => InOrder settings t ∧
      t.registry.storage.relayNode.get a = reached.registry.storage.relayNode.get a ∧
      t.registry.storage.lockEntry.get a = reached.registry.storage.lockEntry.get a)
    (fun r => ¬ r.action.SignedBy a ∧ ¬ r.action.Disciplines settings.registryCouncil a)
    ?_ ⟨inOrder_run ed25519 launched as, rfl, rfl⟩ fun r hr => ?_).2
  · intro t action free inv
    obtain ⟨inOrder, node, entry⟩ := inv
    have same := records_step ed25519 launched.accepted inOrder free.1 free.2
    exact ⟨inOrder_step t action inOrder, same.1.trans node, same.2.trans entry⟩
  · have mem := (machine ed25519 chain).action_mem_of_mem_trace hr
    exact ⟨unsigned r.action mem, undisciplined r.action mem⟩

/-! ## The distributor

What was claimed is written by `claim` alone, and `claim` asks the relay for its signature.  What
a relay has earned may grow without it.
-/

/-- Earnings are claimed by their relay. -/
theorem totalClaimed_kept (inOrder : InOrder settings s) {action : Action chain}
    (unsigned : ¬ action.SignedBy a) :
    (FeeDistributor.earningsOf ((machine ed25519 chain).step s action).2.settlement.storage
        a).totalClaimed =
      (FeeDistributor.earningsOf s.settlement.storage a).totalClaimed := by
  cases action with
  | distributor tx c =>
      rw [← Machine.record_after]
      rcases record_distributor ed25519 tx c s with ⟨v, t, h, hrecord⟩ | ⟨e, hrecord⟩
      · rw [hrecord]
        have claimed := FeeDistributor.totalClaimed_call inOrder.distributor.feeConfig h a
        refine MachineInt.ext (claimed.trans ?_)
        cases c with
        | claim b =>
            obtain ⟨payout, hcall, rfl⟩ := returns_bind_pure.mp h
            have signed : tx.authorised none b = true := (FeeDistributor.returns_claim.mp hcall).1
            have other : b ≠ a := by
              rintro rfl
              exact unsigned signed
            simp [FeeDistributor.claimedBy, other]
        | _ => exact add_zero _
      · rw [hrecord]
  | transfer tx sender recipient amount =>
      have step : ((machine ed25519 chain).step s
          (.transfer tx sender recipient amount)).2.settlement =
          ((Settlement.machine chain.toChain).step s.settlement
            (.transfer tx.toTx sender recipient amount)).2 := rfl
      rw [step]
      rcases transfer_cases tx sender recipient amount s.settlement with ⟨-, -, after⟩ | same
      · rw [after]
      · rw [same]
  | _ => rfl

/-! ## The resolver

A dispute is made by its initiator and answered by its respondent, and each signs the call.
`resolve` needs no signature, but it writes neither a dispute's parties nor an answer.
-/

/-- Between two moments `a` has raised no dispute and answered none. -/
structure Silent (a : Address) (s s' : DisputeResolver.Storage Address) : Prop where
  /-- What was recorded is still there. -/
  kept : DisputeResolver.Kept s s'
  /-- No dispute is new in which the address is the initiator. -/
  raised : ∀ id d', s'.dispute.get id = some d' → d'.initiator = a → (s.dispute.get id).isSome
  /-- No dispute has an answer of the address that it did not have. -/
  answered : ∀ id d', s'.dispute.get id = some d' → d'.respondent = a →
    d'.respondentProof = (s.dispute.get id).bind DisputeResolver.Dispute.respondentProof

omit [DecidableEq Address] in
/-- Nothing is raised or answered. -/
theorem Silent.refl (a : Address) (s : DisputeResolver.Storage Address) : Silent a s s where
  kept := .refl s
  raised id d' hd' _ := Option.isSome_iff_exists.mpr ⟨d', hd'⟩
  answered id d' hd' _ := by rw [hd']; rfl

omit [DecidableEq Address] in
/-- Twice nothing is nothing. -/
theorem Silent.trans {s s' s'' : DisputeResolver.Storage Address} (first : Silent a s s')
    (second : Silent a s' s'') : Silent a s s'' where
  kept := first.kept.trans second.kept
  raised id d'' hd'' initiator := by
    obtain ⟨d', hd'⟩ := Option.isSome_iff_exists.mp (second.raised id d'' hd'' initiator)
    obtain ⟨e, he, evolves⟩ := second.kept.dispute id d' hd'
    obtain rfl : d'' = e := Option.some.inj (hd''.symm.trans he)
    exact first.raised id d' hd' (evolves.initiator.symm.trans initiator)
  answered id d'' hd'' respondent := by
    rw [second.answered id d'' hd'' respondent]
    cases hd' : s'.dispute.get id with
    | some d' =>
        obtain ⟨e, he, evolves⟩ := second.kept.dispute id d' hd'
        obtain rfl : d'' = e := Option.some.inj (hd''.symm.trans he)
        exact first.answered id d' hd' (evolves.respondent.symm.trans respondent)
    | none =>
        -- What is there before is there afterwards.
        cases hd : s.dispute.get id with
        | none => rfl
        | some d =>
            obtain ⟨e, he, -⟩ := first.kept.dispute id d hd
            rw [hd'] at he
            cases he

/-- The two entry points that write in someone's name ask for the signature. -/
theorem silent_call {env : Env Address Unit} {w w' : DisputeResolver.State Address Unit}
    {c : DisputeResolver.Call Address} {v : DisputeResolver.Value Address}
    (docket : DisputeResolver.Docket w.storage) (unsigned : env.authorised a = false)
    (h : Returns (DisputeResolver.dispatch ed25519 env c) w v w') :
    Silent a w.storage w'.storage where
  kept := DisputeResolver.kept_call docket h
  raised id d' hd' initiator := by
    cases DisputeResolver.origin_call docket h hd' with
    | kept found => exact Option.isSome_iff_exists.mpr ⟨_, found⟩
    | answered found => exact Option.isSome_iff_exists.mpr ⟨_, found⟩
    | raised absent unanswered authorised action =>
        obtain ⟨rfl, -⟩ := Action.call.inj action
        rw [initiator, unsigned] at authorised
        cases authorised
  answered id d' hd' respondent := by
    cases DisputeResolver.origin_call docket h hd' with
    | kept found evolves same =>
        rw [found]
        exact same
    | answered found evolves proof authorised action =>
        obtain ⟨rfl, -⟩ := Action.call.inj action
        rw [respondent, unsigned] at authorised
        cases authorised
    | raised absent unanswered =>
        rw [absent]
        exact unanswered

/-- So for every step of the system, the other contracts not writing here. -/
theorem silent_step (inOrder : InOrder settings s) {action : Action chain}
    (unsigned : ¬ action.SignedBy a) :
    Silent a s.resolver.storage
      ((machine ed25519 chain).step s action).2.resolver.storage := by
  cases action with
  | resolver tx c =>
      rcases Deployed.step_call_cases (DisputeResolver.dispatch ed25519) DisputeResolver.provide
        tx.resolverEnv c s.resolver with ⟨v, w, h, hstep⟩ | ⟨e, hstep⟩
      · have left : ((machine ed25519 chain).step s (.resolver tx c)).2.resolver = w :=
          congrArg Prod.snd hstep
        rw [left]
        exact silent_call inOrder.resolver (Bool.not_eq_true _ ▸ unsigned) h
      · have left : ((machine ed25519 chain).step s (.resolver tx c)).2.resolver = s.resolver :=
          congrArg Prod.snd hstep
        rw [left]
        exact .refl a _
  | setPublicKey address publicKey =>
      have silent := Silent.refl a s.resolver.storage
      exact ⟨⟨silent.kept.dispute, silent.kept.ruling⟩, silent.raised, silent.answered⟩
  | _ => exact .refl a _

/-! ## The system

The four parts are put together: tokens, records, claims and disputes of one address, over any
run in which it signs nothing.
-/

/-- **Nothing is done in the name of an address that has signed nothing.** Whatever everybody else
calls from a reached state on, the address keeps its tokens and has claimed no earnings, raised no
dispute and answered none; and unless the registry's council slashes or reinstates it, its node and
its pending unstake are as they were.  For its tokens this rests on a token that moves them by
transfers only. -/
theorem unsigned_kept (ed25519 : DisputeResolver.Ed25519) (launched : Launched chain settings s)
    (as : List (Action chain)) {bs : List (Action chain)} (outsider : chain.Outsider a)
    (unsigned : ∀ action ∈ bs, ¬ action.SignedBy a) :
    let reached := (machine ed25519 chain).run s as
    let later := (machine ed25519 chain).run reached bs
    reached.tokens a ≤ later.tokens a ∧
      (FeeDistributor.earningsOf later.settlement.storage a).totalClaimed =
        (FeeDistributor.earningsOf reached.settlement.storage a).totalClaimed ∧
      Silent a reached.resolver.storage later.resolver.storage ∧
      ((∀ action ∈ bs, ¬ action.Disciplines settings.registryCouncil a) →
        later.registry.storage.relayNode.get a = reached.registry.storage.relayNode.get a ∧
          later.registry.storage.lockEntry.get a = reached.registry.storage.lockEntry.get a) := by
  intro reached later
  have held := (machine ed25519 chain).run_invariant_of
    (fun t => InOrder settings t ∧ reached.tokens a ≤ t.tokens a ∧
      (FeeDistributor.earningsOf t.settlement.storage a).totalClaimed =
        (FeeDistributor.earningsOf reached.settlement.storage a).totalClaimed ∧
      Silent a reached.resolver.storage t.resolver.storage)
    (fun r => ¬ r.action.SignedBy a)
    (fun t action free inv => ?_) ⟨inOrder_run ed25519 launched as, le_rfl, rfl, .refl a _⟩
    (fun r hr => unsigned r.action ((machine ed25519 chain).action_mem_of_mem_trace hr))
  · exact ⟨held.2.1, held.2.2.1, held.2.2.2, records_run ed25519 launched as unsigned⟩
  · obtain ⟨inOrder, tokens, claimed, silent⟩ := inv
    exact ⟨inOrder_step t action inOrder,
      tokens.trans (tokens_step action (outsider.not_charges free)),
      (totalClaimed_kept inOrder free).trans claimed, silent.trans (silent_step inOrder free)⟩

/-- A transaction that address 30 alone has signed, in which the distributor has authorised the
transfer nested in its deposits. -/
def outsiderTx (now : U64) : Tx sampleChain :=
  { sampleTx now with
    authorised := fun caller a =>
      if a = 1 then caller.isSome
      else if a = 2 ∨ a = 4 then caller = some a
      else caller = some a ∨ a = 30
    invoker := by grind
    unsigned := (sampleTx now).unsigned
    treasury_own := (sampleTx now).treasury_own
    registry_own := (sampleTx now).registry_own }

/-- Address 30 becomes a node, and sees to it that relay 10 is credited another batch. -/
def outsiderActions : List (Action sampleChain) :=
  [.registry (outsiderTx 8) (.register 30 ⟨HostString.fromStr "us", 10, 99⟩),
    .distributor (outsiderTx 9) (.distribute 10 2 10000)]

/-- Address 10 signs none of the sample calls. -/
theorem outsiderActions_unsigned : ∀ action ∈ outsiderActions, ¬ action.SignedBy 10 := by
  simp [outsiderActions, Action.SignedBy, outsiderTx]

/-- None of them is a call of the council on its node. -/
theorem outsiderActions_undisciplined :
    ∀ action ∈ outsiderActions, ¬ action.Disciplines sampleSettings.registryCouncil 10 := by
  simp [outsiderActions, Action.Disciplines]

/-- The pending 50 of relay 10 are as they were. -/
theorem unsigned_kept_outsiderActions :
    (((machine DisputeResolver.sampleEd25519 sampleChain).run
        ((machine DisputeResolver.sampleEd25519 sampleChain).run sampleState sampleActions)
        outsiderActions).registry.storage.lockEntry.get 10) = some ⟨10, 50, 17⟩ := by
  have pending : ((machine DisputeResolver.sampleEd25519 sampleChain).run sampleState
      sampleActions).registry.storage.lockEntry.get 10 = some ⟨10, 50, 17⟩ := by
    decide +kernel
  have outsider : sampleChain.Outsider 10 := by
    simp [Chain.Outsider, sampleChain, Settlement.sampleChain]
  exact ((unsigned_kept DisputeResolver.sampleEd25519 sample_launched sampleActions outsider
    outsiderActions_unsigned).2.2.2 outsiderActions_undisciplined).2.trans pending

end StellarConduit.Protocol
