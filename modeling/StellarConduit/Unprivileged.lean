import StellarConduit.CouncilGate
import StellarConduit.RelayRegistry.Backing
import StellarConduit.Treasury.Holdings

/-!
# Runs without the council

Every privileged call of the three contracts starts with the gate, and the gate starts with
the first member of the council.  In a run in which no member authorises anything none of
these calls gets through, and all that the others can do is to add: to the treasury's
balance, to a relay's earnings, to the records of the node that signed.

For each contract there is a relation between the states before and after a step: `Unspent`
for the treasury, `Unslashed` for the registry, and for the distributor that its configuration
is the same.  A call lemma shows it of every call that returns without the council's approval;
a call that fails rolls back, so the relation only has to be reflexive there.  The step lemma
adds what happens beside the contract's calls.  Other contracts may move tokens, and they can
only add to what the contract holds, since nobody signs for it but the contract itself.  The
run lemma carries along what the call lemma needs to know of the state, that the council is
the one that `initialize` has accepted.

A second `initialize` is among the calls that are possible without the council.  It is refused,
and this is the point at which the runs have to start from an initialized contract.

## Main definitions

* `Unapproved` — no member of the council has authorised the call.
* `Treasury.Unspent`, `RelayRegistry.Unslashed` — what such a step leaves alone.

## Main results

* `unspent_run`, `unslashed_run`, `feeConfig_run` — what a step of such a run leaves alone,
  for each contract.
* `unprivileged_runs` — the three together.
-/

namespace StellarConduit

open Soroban Contract

/-- No member of the council has authorised the call. -/
def Unapproved {Address X : Type} (council : AdminCouncil Address) (env : Env Address X) : Prop :=
  ∀ m ∈ council.members, env.authorised m = false

/-- Whom the gate asks first has not authorised the call. -/
theorem Unapproved.rejected {Address X : Type} {council : AdminCouncil Address}
    {env : Env Address X} (unapproved : Unapproved council env) (accepted : ¬ council.Invalid) :
    ¬ ∀ m ∈ firstMembers council, env.authorised m = true := by
  intro approved
  have length := length_firstMembers accepted
  have positive := (AdminCouncil.not_invalid_iff.mp accepted).1
  obtain ⟨m, hm⟩ := List.exists_mem_of_length_pos (l := firstMembers council) (by omega)
  have signed := approved m hm
  rw [unapproved m (List.mem_of_mem_take hm)] at signed
  cases signed

/-- What starts with the gate does not return. -/
theorem Unapproved.not_returns {Address X ω ε α β : Type} {council : AdminCouncil Address}
    {env : Env Address X} (unapproved : Unapproved council env) (accepted : ¬ council.Invalid)
    {gate : Contract ω ε α} {call : Contract ω ε β} {w w' : ω} {v : β}
    (passes : ∀ a w'', Returns gate w a w'' →
      ∀ m ∈ firstMembers council, env.authorised m = true)
    (starts : StartsWith gate call) : ¬ Returns call w v w' := by
  intro h
  obtain ⟨a, w'', hgate⟩ := starts.returns h
  exact unapproved.rejected accepted (passes a w'' hgate)

/-! ## The treasury

Of the treasury's calls only `deposit` has an effect and no gate.  It asks the payer for a
signature and adds what the payer gives, to the recorded balance and to the tokens.  Everything
else either reads, or starts with the gate, or is a second `initialize`.
-/

namespace Treasury

section Calls

variable {Address X : Type} {env : Env Address X} {w w' : State Address X}
  {council : AdminCouncil Address}

/-- Without the council, no gated call of the treasury returns. -/
theorem not_gated_of_returns (stored : w.storage.adminCouncil = some council)
    (accepted : ¬ council.Invalid) (unapproved : Unapproved council env) {c : Call Address}
    {v : Value Address} (h : Returns (dispatch env c) w v w') : ¬ Gated c := by
  intro gated
  refine unapproved.not_returns accepted (fun _ w'' gate => ?_) (gated_startsWith gated) h
  exact (gate_passes_iff stored accepted).mp ⟨w'', gate⟩

end Calls

variable {Address : Type} [DecidableEq Address] {treasury token : Address}
  {env : Env Address (Balances Address)} {w w' : State Address (Balances Address)}
  {council : AdminCouncil Address}

/-- Nothing has been spent, and nothing planned. -/
structure Unspent (treasury : Address) (w w' : State Address (Balances Address)) : Prop where
  /-- The balance may grow. -/
  balance : (w.storage.balance.getD 0).val ≤ (w'.storage.balance.getD 0).val
  /-- So may the tokens behind it. -/
  held : w.outside treasury ≤ w'.outside treasury
  /-- The programs. -/
  spendingProgram : w'.storage.spendingProgram = w.storage.spendingProgram
  /-- Their number. -/
  programCount : w'.storage.programCount = w.storage.programCount
  /-- The council. -/
  adminCouncil : w'.storage.adminCouncil = w.storage.adminCouncil
  /-- The token. -/
  tokenAddress : w'.storage.tokenAddress = w.storage.tokenAddress

omit [DecidableEq Address] in
/-- Nothing is spent. -/
theorem Unspent.refl (w : State Address (Balances Address)) : Unspent treasury w w :=
  ⟨le_rfl, le_rfl, rfl, rfl, rfl, rfl⟩

/-- A step that no member of the council has authorised, in which the treasury's tokens move
by its own calls and otherwise only grow. -/
def UnprivilegedStep (council : AdminCouncil Address) (treasury token : Address)
    (r : Step Address (Balances Address)) : Prop :=
  TokenStep treasury token (fun held held' => held ≤ held') r ∧
    ∀ env c, r.action = .call env c → Unapproved council env

/-- Of all calls that can still return only `deposit` has an effect. -/
theorem unspent_call (stored : w.storage.adminCouncil = some council)
    (known : w.storage.tokenAddress = some token) (accepted : ¬ council.Invalid)
    (tokens : TokenEnv treasury token env) (unapproved : Unapproved council env)
    {c : Call Address} {v : Value Address} (h : Returns (dispatch env c) w v w') :
    Unspent treasury w w' := by
  -- The gated cases are closed by this fact; a second `initialize` finds the council stored.
  have ungated := not_gated_of_returns stored accepted unapproved h
  cases c with
  | getBalance | getHistory id | getProgram id | getTreasuryStats =>
      obtain rfl := world_eq_of_reads h trivial
      exact .refl _
  | initializeContract council' token' =>
      obtain ⟨_, hcall, -⟩ := returns_bind_pure.mp h
      obtain ⟨hnone, -⟩ := returns_initializeContract.mp hcall
      rw [stored] at hnone
      cases hnone
  | deposit fromAddress amount =>
      obtain ⟨_, hcall, -⟩ := returns_bind_pure.mp h
      obtain ⟨hauth, hamount, newBalance, hbalance, deposited, -, nextId, -, t, ht, b, htransfer,
        rfl⟩ := returns_deposit.mp hcall
      obtain rfl : token = t := Option.some.inj (known.symm.trans ht)
      rw [tokens.current] at htransfer
      have held : b treasury = w.outside treasury + amount.val := by
        rw [tokens.transfer htransfer, Balances.move_of_ne_sender (tokens.ne_holder hauth),
          if_pos rfl]
      refine ⟨?_, ?_, rfl, rfl, rfl, rfl⟩
      · show (w.storage.balance.getD 0).val ≤ newBalance.val
        omega
      · show w.outside treasury ≤ b treasury
        omega
  | withdraw toAddress amount memo => exact absurd trivial ungated
  | createProgram name budget => exact absurd trivial ungated
  | updateProgramBudget id newBudget => exact absurd trivial ungated
  | deactivateProgram id => exact absurd trivial ungated
  | allocate id amount => exact absurd trivial ungated

/-- Beside the treasury's calls, its tokens only grow. -/
theorem unspent_step (w : State Address (Balances Address))
    (action : Action Address (Balances Address) (Call Address) Empty)
    (stored : w.storage.adminCouncil = some council)
    (known : w.storage.tokenAddress = some token) (accepted : ¬ council.Invalid)
    (allowed : UnprivilegedStep council treasury token (machine.record w action)) :
    Unspent treasury w (machine.step w action).2 := by
  revert allowed
  refine Deployed.record_rule dispatch provide
    (fun r => UnprivilegedStep council treasury token r → Unspent treasury w r.after) w action
    ?returned ?failed ?provision ?elsewhere
  case returned =>
    intro env c v w' h allowed
    exact unspent_call stored known accepted allowed.1 (allowed.2 env c rfl) h
  case failed =>
    intro env c e _
    exact .refl w
  case provision =>
    intro p
    exact p.elim
  case elsewhere =>
    intro b allowed
    exact ⟨le_rfl, allowed.1, rfl, rfl, rfl, rfl⟩

/-- No step of a run without the council spends anything. -/
theorem unspent_run {w₀ : State Address (Balances Address)}
    (h : Returns (initializeContract council token) w₀ () w)
    {as : List (Action Address (Balances Address) (Call Address) Empty)}
    (allowed : ∀ r ∈ machine.trace w as, UnprivilegedStep council treasury token r) :
    ∀ r ∈ machine.trace w as, Unspent treasury r.before r.after := by
  obtain ⟨-, accepted, rfl⟩ := returns_initializeContract.mp h
  refine machine.trace_invariant_of
    (fun w => w.storage.adminCouncil = some council ∧ w.storage.tokenAddress = some token)
    (UnprivilegedStep council treasury token) (fun r => Unspent treasury r.before r.after)
    (fun w action allowed inv => ?_) ⟨rfl, rfl⟩ allowed
  have unspent : Unspent treasury w (machine.step w action).2 :=
    unspent_step w action inv.1 inv.2 accepted allowed
  exact ⟨⟨unspent.adminCouncil.trans inv.1, unspent.tokenAddress.trans inv.2⟩, unspent⟩

end Treasury

/-! ## The registry

Apart from `initialize` and the views, the registry's ungated calls are those of a node on
itself, and each begins with the node's own signature.  What they may change are the records of
this node, within the statuses other than `Slashed`, and the node's account at the token.  The
token's address is set by the deployer, outside every entry point, so it is kept as part of an
invariant of its own.
-/

namespace RelayRegistry

section Calls

variable {Address X : Type} {w w' : State Address X}

/-- The node `a` is slashed. -/
def IsSlashed (w : State Address X) (a : Address) : Prop :=
  (w.storage.relayNode.get a).map RelayNode.status = some .slashed

/-- The step is a call on the node `a` that the node has authorised. -/
def SignedBy (a : Address) (r : Step Address X) : Prop :=
  ∃ env c, r.action = .call env c ∧ c.subject = some a ∧ env.authorised a = true

variable [DecidableEq Address] {env : Env Address X} {council : AdminCouncil Address}
  {c : Call Address} {v : Value Address}

/-- Without the council, no gated call of the registry returns. -/
theorem not_gated_of_returns (stored : w.storage.adminCouncil = some council)
    (accepted : ¬ council.Invalid) (unapproved : Unapproved council env)
    (h : Returns (dispatch env c) w v w') : ¬ Gated c := by
  intro gated
  refine unapproved.not_returns accepted (fun _ w'' gate => ?_) (gated_startsWith gated) h
  exact (gate_passes_iff stored accepted).mp ⟨w'', gate⟩

/-- A call on a node that needs no council needs the node. -/
theorem authorised_subject (ungated : ¬ Gated c) (h : Returns (dispatch env c) w v w')
    {a : Address} (subject : c.subject = some a) : env.authorised a = true := by
  cases c with
  | register b metadata =>
      obtain ⟨_, hcall, -⟩ := returns_bind_pure.mp h
      rw [← Option.some.inj subject]
      exact (returns_register.mp hcall).1
  | updateMetadata b metadata =>
      obtain ⟨_, hcall, -⟩ := returns_bind_pure.mp h
      rw [← Option.some.inj subject]
      exact (returns_updateMetadata.mp hcall).1
  | stake b amount =>
      obtain ⟨_, hcall, -⟩ := returns_bind_pure.mp h
      rw [← Option.some.inj subject]
      exact (returns_stake.mp hcall).1
  | unstake b amount =>
      obtain ⟨_, hcall, -⟩ := returns_bind_pure.mp h
      rw [← Option.some.inj subject]
      exact (returns_unstake.mp hcall).1
  | finalizeUnstake b =>
      obtain ⟨_, hcall, -⟩ := returns_bind_pure.mp h
      rw [← Option.some.inj subject]
      exact (returns_finalizeUnstake.mp hcall).1
  | slash b reason => exact absurd trivial ungated
  | reinstateNode b => exact absurd trivial ungated
  | initializeContract council minStake stakeLockPeriod => cases subject
  | getNode b => cases subject
  | isActive b => cases subject

/-- Rewriting a record without entering or leaving `Slashed`. -/
theorem isSlashed_set {nodes : Store Address (RelayNode Address)} {b : Address}
    {node : RelayNode Address}
    (same : node.status = .slashed ↔ (nodes.get b).map RelayNode.status = some .slashed)
    (a : Address) :
    ((nodes.set b node).get a).map RelayNode.status = some .slashed ↔
      (nodes.get a).map RelayNode.status = some .slashed := by
  rw [Store.get_set]
  split
  · rename_i hab
    rw [hab, ← same]
    exact Option.some_inj
  · exact Iff.rfl

/-- Only the council slashes and reinstates. -/
theorem isSlashed_call (ungated : ¬ Gated c) (h : Returns (dispatch env c) w v w')
    (a : Address) : IsSlashed w' a ↔ IsSlashed w a := by
  unfold IsSlashed
  cases ran_of_returns h with
  | initializeContract hcall =>
      obtain ⟨-, -, -, -, rfl⟩ := returns_initializeContract.mp hcall
      exact Iff.rfl
  | register hcall =>
      obtain ⟨-, hnone, -, count, -, rfl⟩ := returns_register.mp hcall
      apply isSlashed_set
      simp [hnone]
  | updateMetadata hcall =>
      obtain ⟨-, node, hnode, -, rfl⟩ := returns_updateMetadata.mp hcall
      apply isSlashed_set
      simp [hnode]
  | stake hcall =>
      obtain ⟨-, node, hnode, status, -, newStake, -, t, -, x, -, rfl⟩ := returns_stake.mp hcall
      apply isSlashed_set
      simp only [RelayNode.staked, hnode, Option.map_some, Option.some.injEq, status, iff_false]
      split
      · intro active
        cases active
      · exact status
  | unstake hcall =>
      obtain ⟨-, -, node, hnode, status, unlockAfter, -, -, newStake, -, rfl, -⟩ :=
        returns_unstake.mp hcall
      apply isSlashed_set
      simp only [RelayNode.unstaked, hnode, Option.map_some, Option.some.injEq, status]
      split <;> simp
  | finalizeUnstake hcall =>
      obtain ⟨-, entry, -, -, t, -, x, -, -, rfl⟩ := returns_finalizeUnstake.mp hcall
      exact Iff.rfl
  | slash => exact absurd trivial ungated
  | reinstateNode => exact absurd trivial ungated
  | getNode => exact Iff.rfl
  | isActive => exact Iff.rfl

/-- An address without a record that signs nothing stays without one. -/
theorem absent_call {a : Address} (unsigned : env.authorised a = false)
    (absent : w.storage.relayNode.get a = none) (h : Returns (dispatch env c) w v w') :
    w'.storage.relayNode.get a = none := by
  by_cases subject : c.subject = some a
  · cases writes_of_returns h with
    | configure => cases subject
    | register =>
        have signed : env.authorised a = true := authorised_subject id h subject
        rw [unsigned] at signed
        cases signed
    | rewrite subject' present =>
        obtain rfl := Option.some.inj (subject'.symm.trans subject)
        rw [absent] at present
        cases present
    | payout _ nodes => rw [nodes, absent]
    | view => exact absent
  · -- A call on another node, or on none, leaves the record of `a` as it was.
    rw [(untouched_call h subject).1, absent]

end Calls

variable {Address : Type} [DecidableEq Address] {registry token : Address}
  {env : Env Address (Balances Address)} {w w' : State Address (Balances Address)}
  {council : AdminCouncil Address}

/-- What a step does that the council has not authorised: it slashes and reinstates no one,
it configures nothing, and it leaves the records of every node that has not signed it, and a
call its account too.  The registry itself is no node. -/
structure Unslashed (registry : Address) (r : Step Address (Balances Address)) : Prop where
  /-- The same nodes are slashed. -/
  slashed : ∀ a, IsSlashed r.after a ↔ IsSlashed r.before a
  /-- The council. -/
  adminCouncil : r.after.storage.adminCouncil = r.before.storage.adminCouncil
  /-- The records of a node, unless it has signed the step. -/
  records : ∀ a, SignedBy a r ∨
    r.after.storage.relayNode.get a = r.before.storage.relayNode.get a ∧
      r.after.storage.lockEntry.get a = r.before.storage.lockEntry.get a
  /-- The tokens of a node, unless it has signed the call. -/
  account : ∀ env c, r.action = .call env c → ∀ a, a ≠ registry →
    SignedBy a r ∨ r.after.outside a = r.before.outside a
  /-- The registry has not become a node of its own. -/
  holder : r.after.storage.relayNode.get registry = none

/-- A step that no member of the council has authorised, in which the registry's tokens move
by its own calls and otherwise only grow. -/
def UnprivilegedStep (council : AdminCouncil Address) (registry token : Address)
    (r : Step Address (Balances Address)) : Prop :=
  CustodyStep registry token r ∧ ∀ env c, r.action = .call env c → Unapproved council env

/-- The registry knows of no other token, and is no node itself. -/
structure Holder (registry token : Address) (w : State Address (Balances Address)) : Prop where
  /-- The token, once it is set. -/
  known : ∀ t, w.storage.tokenAddress = some t → t = token
  /-- The registry has not registered itself. -/
  absent : w.storage.relayNode.get registry = none

/-- The registry never signs for itself, so it is never registered. -/
theorem holder_step (w : State Address (Balances Address))
    (action : Action Address (Balances Address) (Call Address) (Provision Address))
    (allowed : CustodyStep registry token (machine.record w action))
    (holder : Holder registry token w) : Holder registry token (machine.step w action).2 := by
  revert allowed
  refine Deployed.record_rule dispatch provide
    (fun r => CustodyStep registry token r → Holder registry token r.after) w action
    ?returned ?failed ?provision ?elsewhere
  case returned =>
    intro env c v w' h allowed
    have tokens : TokenEnv registry token env := allowed
    refine ⟨?_, absent_call tokens.unsigned holder.absent h⟩
    rw [tokenAddress_call h]
    exact holder.known
  case failed =>
    intro env c e _
    exact holder
  case provision =>
    rintro ⟨t⟩ same
    refine ⟨fun t' ht' => ?_, holder.absent⟩
    exact (Option.some.inj ht').symm.trans same
  case elsewhere =>
    intro b _
    exact ⟨holder.known, holder.absent⟩

/-- Of the calls that return, each is signed by the node that it is on. -/
theorem unslashed_step (w : State Address (Balances Address))
    (action : Action Address (Balances Address) (Call Address) (Provision Address))
    (stored : w.storage.adminCouncil = some council) (accepted : ¬ council.Invalid)
    (holder : Holder registry token w)
    (allowed : UnprivilegedStep council registry token (machine.record w action)) :
    Unslashed registry (machine.record w action) := by
  have after : Holder registry token (machine.step w action).2 :=
    holder_step w action allowed.1 holder
  revert allowed after
  refine Deployed.record_rule dispatch provide
    (fun r => UnprivilegedStep council registry token r → Holder registry token r.after →
      Unslashed registry r) w action
    ?returned ?failed ?provision ?elsewhere
  case returned =>
    intro env c v w' h allowed after
    have ungated := not_gated_of_returns stored accepted (allowed.2 env c rfl) h
    refine ⟨isSlashed_call ungated h, ?_, fun a => ?_, fun env' c' same a other => ?_,
      after.absent⟩
    · exact (adminCouncil_call stored h).trans stored.symm
    · by_cases subject : c.subject = some a
      · exact Or.inl ⟨env, c, rfl, subject, authorised_subject ungated h subject⟩
      · exact Or.inr (untouched_call h subject)
    · obtain ⟨rfl, rfl⟩ := Action.call.inj same
      rcases account_call holder.known allowed.1 h other with kept | ⟨subject, signed⟩
      · exact Or.inr kept
      · exact Or.inl ⟨env, c, rfl, subject, signed⟩
  case failed =>
    intro env c e _ after
    exact ⟨fun _ => Iff.rfl, rfl, fun _ => Or.inr ⟨rfl, rfl⟩, fun _ _ _ _ _ => Or.inr rfl,
      after.absent⟩
  case provision =>
    rintro ⟨t⟩ _ after
    refine ⟨fun _ => Iff.rfl, rfl, fun _ => Or.inr ⟨rfl, rfl⟩, ?_, after.absent⟩
    intro env c same
    cases same
  case elsewhere =>
    intro b _ after
    refine ⟨fun _ => Iff.rfl, rfl, fun _ => Or.inr ⟨rfl, rfl⟩, ?_, after.absent⟩
    intro env c same
    cases same

/-- No step of a run without the council slashes or reinstates a node, or touches one that
has not signed it. -/
theorem unslashed_run {minStake : I128} {stakeLockPeriod : U32} {b : Balances Address}
    {before : List (Action Address (Balances Address) (Call Address) (Provision Address))}
    (custody : ∀ r ∈ machine.trace (freshState b) before, CustodyStep registry token r)
    (h : Returns (initializeContract council minStake stakeLockPeriod)
      (machine.run (freshState b) before) () w)
    {as : List (Action Address (Balances Address) (Call Address) (Provision Address))}
    (allowed : ∀ r ∈ machine.trace w as, UnprivilegedStep council registry token r) :
    ∀ r ∈ machine.trace w as, Unslashed registry r := by
  have start : Holder registry token (freshState b) := by
    refine ⟨?_, rfl⟩
    intro t ht
    cases ht
  have holder : Holder registry token (machine.run (freshState b) before) :=
    machine.run_invariant_of (Holder registry token) (CustodyStep registry token)
      (fun w action allowed holder => holder_step w action allowed holder) start custody
  obtain ⟨-, -, -, accepted, hw⟩ := returns_initializeContract.mp h
  have initialized : w.storage.adminCouncil = some council ∧ Holder registry token w := by
    rw [hw]
    exact ⟨rfl, holder.known, holder.absent⟩
  refine machine.trace_invariant_of
    (fun w => w.storage.adminCouncil = some council ∧ Holder registry token w)
    (UnprivilegedStep council registry token) (Unslashed registry)
    (fun w action allowed inv => ?_) initialized allowed
  have unslashed : Unslashed registry (machine.record w action) :=
    unslashed_step w action inv.1 accepted inv.2 allowed
  exact ⟨⟨unslashed.adminCouncil.trans inv.1, holder_step w action allowed.1 inv.2⟩, unslashed⟩

end RelayRegistry

/-! ## The fee distributor

`set_fee_rate` is the one gated call of the distributor.  What the other calls move are earnings
and fee entries, so here it is enough to look at the configuration, which holds the council too.
-/

namespace FeeDistributor

variable {Address X : Type} {env : Env Address X} {w w' : State Address X}
  {council : AdminCouncil Address}

/-- A recorded step that no member of the council has authorised. -/
def UnprivilegedStep (council : AdminCouncil Address)
    (r : Record (State Address X) (Action Address X (Call Address) Empty)
      (Reply ContractError Value)) : Prop :=
  ∀ env c, r.action = .call env c → Unapproved council env

variable [DecidableEq Address]

/-- Without the council, no gated call of the distributor returns. -/
theorem not_gated_of_returns
    (stored : w.storage.feeConfig.map FeeConfig.council = some council)
    (accepted : ¬ council.Invalid) (unapproved : Unapproved council env) {c : Call Address}
    {v : Value} (h : Returns (dispatch env c) w v w') : ¬ Gated c := by
  intro gated
  refine unapproved.not_returns accepted (fun config w'' gate => ?_) (gated_startsWith gated) h
  exact (gate_passes_iff stored accepted).mp ⟨config, w'', gate⟩

/-- Only `set_fee_rate` rewrites a configuration. -/
theorem feeConfig_call {c : Call Address} {v : Value} (configured : w.storage.feeConfig.isSome)
    (ungated : ¬ Gated c) (h : Returns (dispatch env c) w v w') :
    w'.storage.feeConfig = w.storage.feeConfig := by
  cases c with
  | initializeContract council feeRateBps treasuryShareBps treasury token =>
      obtain ⟨_, hcall, -⟩ := returns_bind_pure.mp h
      obtain ⟨hnone, -⟩ := returns_initializeContract.mp hcall
      rw [hnone] at configured
      cases configured
  | calculateFee batchSize | getEarnings a =>
      obtain rfl := world_eq_of_reads h trivial
      rfl
  | distribute a batchId batchSize =>
      obtain ⟨_, hcall, -⟩ := returns_bind_pure.mp h
      obtain ⟨-, -, config, -, fee, -, share, -, payout, -, earned, -, unclaimed, -, x, -, rfl⟩ :=
        returns_distribute.mp hcall
      rfl
  | claim a =>
      obtain ⟨_, hcall, -⟩ := returns_bind_pure.mp h
      obtain ⟨-, -, -, claimed, -, t, -, x, -, rfl⟩ := returns_claim.mp hcall
      rfl
  | setFeeRate newFeeRateBps => exact absurd trivial ungated

/-- `set_fee_rate` alone writes the configuration after `initialize`, and is gated. -/
theorem feeConfig_step (w : State Address X) (action : Action Address X (Call Address) Empty)
    (stored : w.storage.feeConfig.map FeeConfig.council = some council)
    (accepted : ¬ council.Invalid) (allowed : UnprivilegedStep council (machine.record w action)) :
    (machine.step w action).2.storage.feeConfig = w.storage.feeConfig := by
  revert allowed
  refine Deployed.record_rule dispatch provide
    (fun r => UnprivilegedStep council r → r.after.storage.feeConfig = w.storage.feeConfig) w
    action ?returned ?failed ?provision ?elsewhere
  case returned =>
    intro env c v w' h allowed
    have configured : w.storage.feeConfig.isSome := by
      rw [← Option.isSome_map (f := FeeConfig.council), stored]
      rfl
    exact feeConfig_call configured
      (not_gated_of_returns stored accepted (allowed env c rfl) h) h
  case failed =>
    intro env c e _
    rfl
  case provision =>
    intro p
    exact p.elim
  case elsewhere =>
    intro x _
    rfl

/-- No step of a run without the council changes the fee configuration. -/
theorem feeConfig_run {feeRateBps treasuryShareBps : U32} {treasury token : Address}
    {w₀ : State Address X}
    (h : Returns (initializeContract council feeRateBps treasuryShareBps treasury token) w₀ () w)
    {as : List (Action Address X (Call Address) Empty)}
    (allowed : ∀ r ∈ machine.trace w as, UnprivilegedStep council r) :
    ∀ r ∈ machine.trace w as, r.after.storage.feeConfig = r.before.storage.feeConfig := by
  obtain ⟨-, -, accepted, rfl⟩ := returns_initializeContract.mp h
  refine machine.trace_invariant_of
    (fun w => w.storage.feeConfig.map FeeConfig.council = some council)
    (UnprivilegedStep council) (fun r => r.after.storage.feeConfig = r.before.storage.feeConfig)
    (fun w action allowed stored => ?_) rfl allowed
  have kept : (machine.step w action).2.storage.feeConfig = w.storage.feeConfig :=
    feeConfig_step w action stored accepted allowed
  exact ⟨by rw [kept, stored], kept⟩

end FeeDistributor

/-! ## The three contracts

The runs are independent: each contract has its own council, its own log and its own start.
-/

section Contracts

variable {Address : Type} [DecidableEq Address]

/-- **Nothing privileged happens without the council.**  After the three contracts have been
initialized, let no member of their councils authorise any call.  Then no step lowers the
treasury's recorded balance or its tokens, creates or changes a program, lets a node enter or
leave `Slashed`, or changes the fee configuration or a council.  A node's records change in
a step only when it is a call on the node that the node has authorised, and so does, in a
call, the node's account. -/
theorem unprivileged_runs {treasury registry token : Address}
    {treasuryCouncil registryCouncil feeCouncil : AdminCouncil Address}
    {t₀ t : Treasury.State Address (Balances Address)}
    (htreasury : Returns (Treasury.initializeContract treasuryCouncil token) t₀ () t)
    {ts : List (Action Address (Balances Address) (Treasury.Call Address) Empty)}
    (treasurySteps : ∀ r ∈ Treasury.machine.trace t ts,
      Treasury.UnprivilegedStep treasuryCouncil treasury token r)
    {minStake : I128} {stakeLockPeriod : U32} {b : Balances Address}
    {before rs : List (Action Address (Balances Address) (RelayRegistry.Call Address)
      (RelayRegistry.Provision Address))}
    (custody : ∀ r ∈ RelayRegistry.machine.trace (RelayRegistry.freshState b) before,
      RelayRegistry.CustodyStep registry token r)
    {n : RelayRegistry.State Address (Balances Address)}
    (hregistry : Returns
      (RelayRegistry.initializeContract registryCouncil minStake stakeLockPeriod)
      (RelayRegistry.machine.run (RelayRegistry.freshState b) before) () n)
    (registrySteps : ∀ r ∈ RelayRegistry.machine.trace n rs,
      RelayRegistry.UnprivilegedStep registryCouncil registry token r)
    {feeRateBps treasuryShareBps : U32} {treasuryAddress tokenAddress : Address} {X : Type}
    {f₀ f : FeeDistributor.State Address X}
    (hdistributor : Returns (FeeDistributor.initializeContract feeCouncil feeRateBps
      treasuryShareBps treasuryAddress tokenAddress) f₀ () f)
    {fs : List (Action Address X (FeeDistributor.Call Address) Empty)}
    (distributorSteps : ∀ r ∈ FeeDistributor.machine.trace f fs,
      FeeDistributor.UnprivilegedStep feeCouncil r) :
    (∀ r ∈ Treasury.machine.trace t ts, Treasury.Unspent treasury r.before r.after) ∧
      (∀ r ∈ RelayRegistry.machine.trace n rs, RelayRegistry.Unslashed registry r) ∧
      ∀ r ∈ FeeDistributor.machine.trace f fs,
        r.after.storage.feeConfig = r.before.storage.feeConfig :=
  ⟨Treasury.unspent_run htreasury treasurySteps,
    RelayRegistry.unslashed_run custody hregistry registrySteps,
    FeeDistributor.feeConfig_run hdistributor distributorSteps⟩

end Contracts

/-! ## Three runs without the council -/

/-- A ledger of the contract at address 0 on which everyone signs but the contract and the
council member 7. -/
def absentCouncil : Env ℕ (Balances ℕ) :=
  { tokenLedger 0 5 with authorised := fun a => decide (a ≠ 0 ∧ a ≠ 7) }

/-- Nobody signs as the council's member 7. -/
theorem absentCouncil_unapproved : Unapproved ⟨[7], 1⟩ absentCouncil := by
  intro m hm
  rw [List.mem_singleton.mp hm]
  rfl

/-- The ledger of balances is a token as assumed. -/
theorem absentCouncil_tokenEnv (token : ℕ) : TokenEnv 0 token absentCouncil where
  current := rfl
  unsigned := rfl
  transfer := (tokenLedger_tokenEnv 0 token 5).transfer

/-- In a run of calls on this ledger no member of the council has authorised anything. -/
theorem unapproved_of_calls {S C P R : Type} (m : Machine S (Action ℕ (Balances ℕ) C P) R)
    (s : S) (calls : List C) :
    ∀ r ∈ m.trace s (calls.map (.call absentCouncil)), ∀ env c, r.action = .call env c →
      Unapproved ⟨[7], 1⟩ env := by
  intro r hr env c action
  obtain ⟨c', -, same⟩ := List.mem_map.mp (m.action_mem_of_mem_trace hr)
  obtain ⟨rfl, -⟩ := Action.call.inj (same.trans action)
  exact absentCouncil_unapproved

/-- Address 5 deposits, and tries what it may not do. -/
def depositOnly : List (Treasury.Call ℕ) :=
  [.deposit 5 100, .withdraw 5 60 (HostString.fromStr ""),
    .createProgram (HostString.fromStr "mine") 10, .initializeContract ⟨[5], 1⟩ 9]

/-- Node 1 registers and stakes; a slash, and another council, do not get through. -/
def stakeOnly : List (RelayRegistry.Call ℕ) :=
  [.register 1 ⟨HostString.fromStr "eu", 10, 99⟩, .stake 1 300,
    .slash 1 (HostString.fromStr "fraud"), .initializeContract ⟨[5], 1⟩ 1 1]

/-- A batch is distributed; another rate, and another council, do not get through. -/
def distributeOnly : List (FeeDistributor.Call ℕ) :=
  [.distribute 1 1 100, .setFeeRate 10000, .initializeContract ⟨[5], 1⟩ 1 1 8 9]

/-- The three sample runs, in none of which member 7 signs. -/
theorem unprivileged_runs_absentCouncil :
    (∀ r ∈ Treasury.machine.trace Treasury.sampleTreasury
        (depositOnly.map (.call absentCouncil)), Treasury.Unspent 0 r.before r.after) ∧
      (∀ r ∈ RelayRegistry.machine.trace RelayRegistry.fundedRegistry
        (stakeOnly.map (.call absentCouncil)), RelayRegistry.Unslashed 0 r) ∧
      ∀ r ∈ FeeDistributor.machine.trace
          (FeeDistributor.initialState ⟨[7], 1⟩ 50 1000 8 9 Treasury.sampleTreasury.outside)
          (distributeOnly.map (.call absentCouncil)),
        r.after.storage.feeConfig = r.before.storage.feeConfig := by
  have treasurySteps : ∀ r ∈ Treasury.machine.trace Treasury.sampleTreasury
      (depositOnly.map (.call absentCouncil)),
        Treasury.UnprivilegedStep ⟨[7], 1⟩ 0 9 r := by
    intro r hr
    refine ⟨Deployed.tokenStep_of_calls ?_ r hr, unapproved_of_calls _ _ _ r hr⟩
    intro action haction
    obtain ⟨c, -, rfl⟩ := List.mem_map.mp haction
    exact ⟨absentCouncil, c, rfl, absentCouncil_tokenEnv 9⟩
  have registrySteps : ∀ r ∈ RelayRegistry.machine.trace RelayRegistry.fundedRegistry
      (stakeOnly.map (.call absentCouncil)),
        RelayRegistry.UnprivilegedStep ⟨[7], 1⟩ 0 9 r := by
    intro r hr
    refine ⟨RelayRegistry.custody_of_actions ?_ r hr, unapproved_of_calls _ _ _ r hr⟩
    intro action haction
    obtain ⟨c, -, rfl⟩ := List.mem_map.mp haction
    exact Or.inr ⟨absentCouncil, c, rfl, absentCouncil_tokenEnv 9⟩
  have hregistry : Returns (RelayRegistry.initializeContract ⟨[7], 1⟩ 100 10)
      (RelayRegistry.machine.run
        (RelayRegistry.freshState RelayRegistry.fundedRegistry.outside) []) ()
      RelayRegistry.fundedRegistry := RelayRegistry.fundedRegistry_initialized
  have hdistributor : Returns (FeeDistributor.initializeContract ⟨[7], 1⟩ 50 1000 8 9)
      (FeeDistributor.freshState Treasury.sampleTreasury.outside) ()
      (FeeDistributor.initialState ⟨[7], 1⟩ 50 1000 8 9 Treasury.sampleTreasury.outside) :=
    FeeDistributor.returns_initializeContract_freshState.mpr ⟨by decide, by decide, rfl⟩
  exact unprivileged_runs Treasury.sampleTreasury_initialized treasurySteps
    (List.forall_mem_nil _) hregistry registrySteps hdistributor
    (unapproved_of_calls FeeDistributor.machine _ distributeOnly)

end StellarConduit
