import StellarConduit.Protocol.Consent
import StellarConduit.Soroban.Chronology

/-!
# The order of time

The contracts date what they store by the ledger of the transaction: the treasury its history
by the sequence number, the others by the close time, and the resolver sets its deadlines in
sequence numbers.  Along a run of the system in which the ledger never goes back these dates
are in order.

What is numbered is in the order of its numbers.  That is so for the history of the treasury,
and for the disputes with the times they were raised and with their deadlines; the deadlines
keep the order because the window is the same for all of them.  `Dated`, of `Soroban.Chronology`,
is this order for a store with a counter, together with the fact that nothing in it is later
than the present, and it has a rule for appending at the present and one for rewriting a record
that keeps its date.  What is not numbered has an order of its own dates: a node was registered
before it was last active, a ruling comes after its dispute.

A pending unstake is dated ahead.  It unlocks a lock period after the moment of the `unstake`,
which is between the registration of its node and the node's last activity, and both bounds are
kept since whatever happens to the node later is also its last activity.

The clock is not part of a contract's state.  The invariant therefore has the present as an
argument, `Chronicle settings now s`, and a step has two parts: time passes, which is `later`,
and then a call is made at the present, which is the call lemma of the contract.

## Main definitions

* `Chronicle settings now s` — in all four contracts what is stored is dated in order, and
  nothing is dated after the ledger `now`.

## Main results

* `nodesDated_call`, `disputesDated_call`, `entries_call`, `batches_call` — what a call that
  returns keeps in order, for each of the contracts.
* `chronicle_run` — every state that a launched system reaches has its records in order.
-/

/-! ## The registry

The dates are close times.  A slash and a reinstatement are activities of the node too, although
it has not signed them, since the source writes the time in both.
-/

namespace StellarConduit.RelayRegistry

open Soroban Contract

variable {Address X : Type} {period now now' : Int}

/-- A node was registered before it was last active, and its pending unstake unlocks a lock
period after a moment in between. -/
structure NodeDated (period now : Int) (node : RelayNode Address)
    (entry : Option (StakeEntry Address)) : Prop where
  /-- It was registered before it was last active, -/
  registered : node.registeredAt.val ≤ node.lastActive.val
  /-- which is not later than now. -/
  active : node.lastActive.val ≤ now
  /-- Its pending unstake dates from a moment between the two. -/
  unlocks : ∀ e, entry = some e → node.registeredAt.val + period ≤ e.unlocksAt.val ∧
    e.unlocksAt.val ≤ node.lastActive.val + period

/-- All nodes are dated up to `now`. -/
def NodesDated (period now : Int) (s : Storage Address) : Prop :=
  ∀ a node, s.relayNode.get a = some node → NodeDated period now node (s.lockEntry.get a)

/-- Time passes. -/
theorem NodesDated.later {s : Storage Address} (dated : NodesDated period now s) (le : now ≤ now') :
    NodesDated period now' s := by
  intro a node hnode
  have own := dated a node hnode
  exact ⟨own.registered, own.active.trans le, own.unlocks⟩

/-- A node that is active now, with the entry that was pending. -/
theorem NodeDated.touch {node node' : RelayNode Address} {entry : Option (StakeEntry Address)}
    (own : NodeDated period now node entry) (registeredAt : node'.registeredAt = node.registeredAt)
    (lastActive : node'.lastActive.val = now) : NodeDated period now node' entry where
  registered := by
    have registered := own.registered.trans own.active
    rwa [registeredAt, lastActive]
  active := le_of_eq lastActive
  unlocks e he := by
    obtain ⟨lower, upper⟩ := own.unlocks e he
    have active := own.active
    rw [registeredAt, lastActive]
    exact ⟨lower, by omega⟩

variable [DecidableEq Address]

/-- Writing the record of one node. -/
theorem NodesDated.write {s s' : Storage Address} (dated : NodesDated period now s) {a : Address}
    {node : RelayNode Address} (record : s'.relayNode = s.relayNode.set a node)
    (entries : ∀ b, b ≠ a → s'.lockEntry.get b = s.lockEntry.get b)
    (own : NodeDated period now node (s'.lockEntry.get a)) : NodesDated period now s' := by
  intro b n hb
  rw [record, Store.get_set] at hb
  split at hb
  · rename_i hab
    obtain rfl := Option.some.inj hb
    rw [hab]
    exact own
  · rename_i hab
    rw [entries b hab]
    exact dated b n hb

variable {council : AdminCouncil Address} {minStake : I128} {stakeLockPeriod : U32}
  {env : Env Address X} {w w' : State Address X}

/-- Every call that writes a node's record dates it by now. -/
theorem nodesDated_call (inv : Invariant council minStake stakeLockPeriod w.storage)
    (dated : NodesDated stakeLockPeriod.val env.timestamp.val w.storage) {c : Call Address}
    {v : Value Address} (h : Returns (dispatch env c) w v w') :
    NodesDated stakeLockPeriod.val env.timestamp.val w'.storage := by
  have configured : w.storage.stakeLockPeriod.getD 0 = stakeLockPeriod := by
    rw [inv.stakeLockPeriod]
    rfl
  cases ran_of_returns h with
  | initializeContract hcall =>
      -- A second `initialize` answers `AlreadyInitialized`.
      obtain ⟨hnone, -⟩ := returns_initializeContract.mp hcall
      rw [inv.adminCouncil] at hnone
      cases hnone
  | @register a metadata _ hcall =>
      obtain ⟨-, absent, -, count, -, rfl⟩ := returns_register.mp hcall
      refine dated.write rfl (fun _ _ => rfl) ⟨le_rfl, le_rfl, fun e he => ?_⟩
      have present := (inv.entry a e he).1
      rw [absent] at present
      cases present
  | @updateMetadata a _ _ hcall =>
      obtain ⟨-, node, hnode, -, rfl⟩ := returns_updateMetadata.mp hcall
      have own := dated a node hnode
      exact dated.write rfl (fun _ _ => rfl) ⟨own.registered, own.active, own.unlocks⟩
  | @stake a _ _ hcall =>
      obtain ⟨-, node, hnode, -, -, newStake, -, t, -, x, -, rfl⟩ := returns_stake.mp hcall
      exact dated.write rfl (fun _ _ => rfl) ((dated a node hnode).touch rfl rfl)
  | @unstake a _ _ _ hcall =>
      obtain ⟨-, -, node, hnode, -, unlockAfter, unlocks, -, newStake, -, rfl, -⟩ :=
        returns_unstake.mp hcall
      have own := dated a node hnode
      have registered := own.registered.trans own.active
      refine dated.write rfl (fun b hb => Store.get_set_of_ne _ _ hb)
        ⟨registered, le_rfl, fun e he => ?_⟩
      -- The entry is the one that the call has written.
      obtain rfl := Option.some.inj ((Store.get_set_self _ _ _).symm.trans he)
      rw [configured] at unlocks
      exact ⟨unlocks ▸ add_le_add_left registered _, le_of_eq unlocks⟩
  | @finalizeUnstake a _ _ hcall =>
      obtain ⟨-, entry, -, -, t, -, x, -, -, rfl⟩ := returns_finalizeUnstake.mp hcall
      intro b node hnode
      have own := dated b node hnode
      refine ⟨own.registered, own.active, fun e he => ?_⟩
      by_cases hab : b = a
      · subst hab
        rw [Store.get_remove_self] at he
        cases he
      · rw [Store.get_remove_of_ne _ hab] at he
        exact own.unlocks e he
  | @slash a _ _ hcall =>
      obtain ⟨-, node, hnode, -, slashedAmount, -, rfl⟩ := returns_slash.mp hcall
      have own := dated a node hnode
      refine dated.write rfl (fun b hb => Store.get_remove_of_ne _ hb)
        ⟨own.registered.trans own.active, le_rfl, fun e he => ?_⟩
      rw [Store.get_remove_self] at he
      cases he
  | @reinstateNode a _ hcall =>
      obtain ⟨-, node, hnode, -, rfl⟩ := returns_reinstateNode.mp hcall
      exact dated.write rfl (fun _ _ => rfl) ((dated a node hnode).touch rfl rfl)
  | getNode => exact dated
  | isActive => exact dated

end StellarConduit.RelayRegistry

/-! ## The resolver

Disputes and rulings are dated by close times and deadlines by sequence numbers, so the order has
two clocks and an invariant for each of them.
-/

namespace StellarConduit.DisputeResolver

open Soroban Contract

variable {Address X : Type} {window : U32} {sequence sequence' time time' : Int}

/-- Disputes are raised in the order of their numbers, and so are their deadlines; a ruling
comes after its dispute. -/
structure DisputesDated (window : U32) (sequence time : Int) (s : Storage Address) : Prop where
  /-- There is a council. -/
  initialized : s.adminCouncil.isSome
  /-- The window is the one that was set, for all disputes. -/
  resolutionWindow : s.resolutionWindow = some window
  /-- Disputes are raised in the order of their numbers. -/
  raised : Dated s.dispute (s.disputeCount.getD 0) (fun d => d.raisedAt.val) time
  /-- Their deadlines are in this order too, and at most a window ahead. -/
  deadlines : Dated s.dispute (s.disputeCount.getD 0) (fun d => d.resolveBy.val)
    (sequence + window.val)
  /-- A ruling comes after its dispute, and not later than now. -/
  ruled : ∀ id d r, s.dispute.get id = some d → s.ruling.get id = some r →
    d.raisedAt.val ≤ r.resolvedAt.val ∧ r.resolvedAt.val ≤ time

/-- Time passes. -/
theorem DisputesDated.later {s : Storage Address} (dated : DisputesDated window sequence time s)
    (hsequence : sequence ≤ sequence') (htime : time ≤ time') :
    DisputesDated window sequence' time' s where
  initialized := dated.initialized
  resolutionWindow := dated.resolutionWindow
  raised := dated.raised.later htime
  deadlines := dated.deadlines.later (add_le_add_left hsequence _)
  ruled id d r hd hr := by
    obtain ⟨after, past⟩ := dated.ruled id d r hd hr
    exact ⟨after, past.trans htime⟩

variable {ed25519 : Ed25519} {env : Env Address X} {w w' : State Address X}

/-- Rulings are dated by their ledger. -/
theorem resolvedAt_of_returns {id : U64} {r : Ruling Address}
    (h : Returns (resolve ed25519 env id) w r w') : r.resolvedAt = env.timestamp := by
  obtain ⟨d, -, -, ⟨-, -, rfl⟩ | ⟨-, p, -, rfl⟩⟩ := returns_resolve.mp h
  · rfl
  · unfold sequenceRuling
    split <;> rfl

/-- A raise appends to the order, an answer and a ruling keep the dates of their dispute. -/
theorem disputesDated_call [DecidableEq Address] (docket : Docket w.storage)
    (dated : DisputesDated window env.sequence.val env.timestamp.val w.storage) {c : Call Address}
    {v : Value Address} (h : Returns (dispatch ed25519 env c) w v w') :
    DisputesDated window env.sequence.val env.timestamp.val w'.storage := by
  cases outcome_of_returns dated.initialized h with
  | @raiseDispute initiator respondent txId proof id _ hcall =>
      obtain ⟨-, -, -, hid, resolveBy, hdeadline, rfl⟩ := returns_raiseDispute.mp hcall
      rw [dated.resolutionWindow] at hdeadline
      refine
        { initialized := dated.initialized
          resolutionWindow := dated.resolutionWindow
          raised := dated.raised.append hid rfl
          deadlines := dated.deadlines.append hid ?_
          ruled := fun j d r hd hr => ?_ }
      · rw [MachineInt.cast_u32_u64_val]
        exact hdeadline
      · -- There is no ruling on the dispute that is being raised.
        have old : j ≠ id := by
          rintro rfl
          cases (docket.fresh hid).2.symm.trans hr
        exact dated.ruled j d r ((Store.get_set_of_ne _ _ old).symm.trans hd) hr
  | @respond respondent id proof _ hcall =>
      obtain ⟨-, d, hd, -, -, -, rfl⟩ := returns_respond.mp hcall
      refine
        { initialized := dated.initialized
          resolutionWindow := dated.resolutionWindow
          raised := dated.raised.rewrite hd rfl
          deadlines := dated.deadlines.rewrite hd rfl
          ruled := fun j e r he hr => ?_ }
      rw [Store.get_set] at he
      split at he
      · rename_i hj
        obtain rfl := Option.some.inj he
        exact dated.ruled j d r (hj ▸ hd) hr
      · exact dated.ruled j e r he hr
  | @resolve id ruling _ hcall =>
      have resolvedAt := resolvedAt_of_returns hcall
      obtain ⟨d, hd, -, -, rfl⟩ := resolve_cases hcall
      refine
        { initialized := dated.initialized
          resolutionWindow := dated.resolutionWindow
          raised := dated.raised.rewrite hd rfl
          deadlines := dated.deadlines.rewrite hd rfl
          ruled := fun j e r he hr => ?_ }
      by_cases hj : j = id
      · subst hj
        obtain rfl := Option.some.inj ((Store.get_set_self _ _ _).symm.trans he)
        obtain rfl := Option.some.inj ((Store.get_set_self _ _ _).symm.trans hr)
        rw [resolvedAt]
        exact ⟨dated.raised.past j d hd, le_rfl⟩
      · exact dated.ruled j e r ((Store.get_set_of_ne _ _ hj).symm.trans he)
          ((Store.get_set_of_ne _ _ hj).symm.trans hr)
  | read => exact dated

end StellarConduit.DisputeResolver

/-! ## The treasury

The history is dated by sequence numbers.  Entries are numbered in the order of the calls, so the
order of the numbers is that of the ledgers.
-/

namespace StellarConduit.Treasury

open Soroban Contract

variable {Address X : Type} {env : Env Address X} {w w' : State Address X}

/-- The history of an initialized treasury is in the order of its ledgers. -/
structure EntriesDated (sequence : Int) (s : Storage Address) : Prop where
  /-- There is a council. -/
  initialized : s.adminCouncil.isSome
  /-- Entries are made in the order of their numbers. -/
  entries : Dated s.entry (s.entryCount.getD 0) (fun e => e.ledger.val) sequence

/-- The money calls append an entry of the present ledger, and nothing is rewritten. -/
theorem entries_call (dated : EntriesDated env.sequence.val w.storage) {c : Call Address}
    {v : Value Address} (h : Returns (dispatch env c) w v w') :
    EntriesDated env.sequence.val w'.storage := by
  cases outcome_of_returns dated.initialized h with
  | deposit hcall =>
      obtain ⟨-, -, _, -, _, -, nextId, hnext, _, -, _, -, rfl⟩ := returns_deposit.mp hcall
      exact ⟨dated.initialized, dated.entries.append hnext (MachineInt.cast_u32_u64_val _)⟩
  | withdraw hcall =>
      obtain ⟨-, -, -, _, -, _, -, nextId, hnext, _, -, _, -, rfl⟩ := returns_withdraw.mp hcall
      exact ⟨dated.initialized, dated.entries.append hnext (MachineInt.cast_u32_u64_val _)⟩
  | allocate hcall =>
      obtain ⟨-, -, _, -, -, _, -, -, -, _, -, _, -, nextId, hnext, rfl⟩ :=
        returns_allocate.mp hcall
      exact ⟨dated.initialized, dated.entries.append hnext (MachineInt.cast_u32_u64_val _)⟩
  | other quiet kept =>
      refine ⟨kept.adminCouncil ▸ dated.initialized, ?_⟩
      rw [kept.entry, kept.entryCount]
      exact dated.entries

end StellarConduit.Treasury

/-! ## The distributor

Batches are numbered by whoever distributes them and not by the contract, so there is no order
between them; what is left is that none is settled after the present.
-/

namespace StellarConduit.FeeDistributor

open Soroban Contract

variable {Address X : Type} {env : Env Address X} {w w' : State Address X}

/-- No batch is settled after `time`. -/
def BatchesDated (time : Int) (s : Storage Address) : Prop :=
  ∀ id e, s.feeEntry.get id = some e → e.settledAt.val ≤ time

/-- A distribution settles its batch now. -/
theorem batches_call [DecidableEq Address] (configured : w.storage.feeConfig.isSome)
    (dated : BatchesDated env.timestamp.val w.storage) {c : Call Address} {v : Value}
    (h : Returns (dispatch env c) w v w') : BatchesDated env.timestamp.val w'.storage := by
  cases outcome_of_returns configured h with
  | distribute hcall =>
      obtain ⟨-, -, config, -, fee, -, share, -, payout, -, totalEarned, -, unclaimed, -, x, -,
        rfl⟩ := returns_distribute.mp hcall
      intro id e he
      rw [Store.get_set] at he
      split at he
      · obtain rfl := Option.some.inj he
        exact le_rfl
      · exact dated id e he
  | claim hcall =>
      intro id e he
      rw [(claim_enters hcall).feeEntry] at he
      exact dated id e he
  | other quiet kept =>
      intro id e he
      rw [kept.feeEntry] at he
      exact dated id e he

end StellarConduit.FeeDistributor

/-! ## The system

The contracts hear the same ledger in a step, so the four invariants are kept together, with one
present for all of them.
-/

namespace StellarConduit.Protocol

open Soroban Contract Machine

variable {Address : Type} {chain : Chain Address}

/-- The ledger of an action: its sequence number and its close time. -/
def Action.ledger : Action chain → Option (Int × Int)
  | .distributor tx _ | .treasury tx _ | .transfer tx _ _ _ | .registry tx _ | .resolver tx _ =>
      some (tx.sequence.val, tx.timestamp.val)
  | .setPublicKey _ _ => none

/-- In all four contracts what is stored is dated in order, up to the ledger `now`. -/
structure Chronicle (settings : Settings Address) (now : Int × Int) (s : State Address) :
    Prop where
  /-- The registry. -/
  nodes : RelayRegistry.NodesDated settings.stakeLockPeriod.val now.2 s.registry.storage
  /-- The resolver. -/
  disputes : DisputeResolver.DisputesDated settings.resolutionWindow now.1 now.2
    s.resolver.storage
  /-- The treasury. -/
  entries : Treasury.EntriesDated now.1 s.treasury.storage
  /-- The distributor. -/
  batches : FeeDistributor.BatchesDated now.2 s.settlement.storage

variable {settings : Settings Address} {now now' : Int × Int} {s : State Address}
  {r : Step chain}

/-- Time passes for the four of them. -/
theorem Chronicle.later (le : now ≤ now') (chronicle : Chronicle settings now s) :
    Chronicle settings now' s where
  nodes := chronicle.nodes.later le.2
  disputes := chronicle.disputes.later le.1 le.2
  entries := ⟨chronicle.entries.initialized, chronicle.entries.entries.later le.1⟩
  batches id e he := (chronicle.batches id e he).trans le.2

/-! Whatever a contract hears in a step, it hears in the ledger of the step. -/

theorem ledger_resolverCalls : ∀ call ∈ resolverCalls r,
    r.action.ledger = some (call.1.sequence.val, call.1.timestamp.val) := by
  intro call mem
  unfold resolverCalls at mem
  split at mem
  · rename_i action _
    rw [action, List.mem_singleton.mp mem]
    rfl
  · cases mem

variable [DecidableEq Address] {ed25519 : DisputeResolver.Ed25519}

theorem ledger_registryCalls : ∀ call ∈ registryCalls r,
    r.action.ledger = some (call.1.sequence.val, call.1.timestamp.val) := by
  intro call mem
  unfold registryCalls at mem
  split at mem
  · rename_i action _
    rw [action, List.mem_singleton.mp mem]
    rfl
  · cases mem

theorem ledger_distributorCalls : ∀ call ∈ distributorCalls r,
    r.action.ledger = some (call.1.sequence.val, call.1.timestamp.val) := by
  intro call mem
  unfold distributorCalls at mem
  split at mem
  · rename_i action _
    rw [action, List.mem_singleton.mp mem]
    rfl
  · cases mem

theorem ledger_treasuryCalls : ∀ call ∈ treasuryCalls r,
    r.action.ledger = some (call.1.sequence.val, call.1.timestamp.val) := by
  intro call mem
  unfold treasuryCalls at mem
  split at mem
  · rename_i action _
    rw [action, List.mem_singleton.mp mem]
    rfl
  · rename_i action _
    obtain ⟨share, -, rfl⟩ := List.mem_map.mp mem
    rw [action]
    rfl
  · cases mem

/-- A step at the time of the clock keeps the chronicle. -/
theorem chronicle_step (s : State Address) (action : Action chain)
    (time : ∀ t, action.ledger = some t → t = now) (inOrder : InOrder settings s)
    (chronicle : Chronicle settings now s) :
    Chronicle settings now ((machine ed25519 chain).step s action).2 where
  nodes := by
    refine (takes_storage
      (fun s => RelayRegistry.Invariant settings.registryCouncil settings.minStake
        settings.stakeLockPeriod s ∧ RelayRegistry.NodesDated settings.stakeLockPeriod.val now.2 s)
      (fun env => (env.sequence.val, env.timestamp.val) = now) ?_ ?_
      (registry_takes s action)
      (fun call (mem : call ∈ registryCalls ((machine ed25519 chain).record s action)) =>
        time _ (ledger_registryCalls call mem))
      ⟨inOrder.registry, chronicle.nodes⟩).2
    · -- The call lemma needs the registry to be well formed, so the two invariants go together.
      rintro env c w v w' rfl ⟨inv, dated⟩ h
      exact ⟨RelayRegistry.invariant_call inv h, RelayRegistry.nodesDated_call inv dated h⟩
    · rintro p s ⟨inv, dated⟩
      cases p
      exact ⟨RelayRegistry.invariant_provide inv, dated⟩
  disputes := by
    refine (takes_storage
      (fun s => DisputeResolver.Docket s ∧
        DisputeResolver.DisputesDated settings.resolutionWindow now.1 now.2 s)
      (fun env => (env.sequence.val, env.timestamp.val) = now) ?_ ?_
      (resolver_takes s action)
      (fun call (mem : call ∈ resolverCalls ((machine ed25519 chain).record s action)) =>
        time _ (ledger_resolverCalls call mem))
      ⟨inOrder.resolver, chronicle.disputes⟩).2
    · -- The same for the resolver and its docket.
      rintro env c w v w' rfl ⟨docket, dated⟩ h
      exact ⟨DisputeResolver.docket_call docket h,
        DisputeResolver.disputesDated_call docket dated h⟩
    · rintro p s ⟨docket, dated⟩
      cases p
      exact ⟨DisputeResolver.docket_provide docket, { dated with }⟩
  entries := by
    refine takes_storage (Treasury.EntriesDated now.1)
      (fun env => (env.sequence.val, env.timestamp.val) = now) ?_ (fun p => p.elim)
      (treasury_takes s action)
      (fun call (mem : call ∈ treasuryCalls ((machine ed25519 chain).record s action)) =>
        time _ (ledger_treasuryCalls call mem)) chronicle.entries
    rintro env c w v w' rfl dated h
    exact Treasury.entries_call dated h
  batches := by
    refine (takes_storage
      (fun s => FeeDistributor.Reconciled s ∧ FeeDistributor.BatchesDated now.2 s)
      (fun env => (env.sequence.val, env.timestamp.val) = now) ?_ (fun p => p.elim)
      (distributor_takes s action)
      (fun call (mem : call ∈ distributorCalls ((machine ed25519 chain).record s action)) =>
        time _ (ledger_distributorCalls call mem))
      ⟨inOrder.distributor, chronicle.batches⟩).2
    rintro env c w v w' rfl ⟨books, dated⟩ h
    exact ⟨FeeDistributor.reconciled_call books h,
      FeeDistributor.batches_call books.feeConfig dated h⟩

/-- A launched system has recorded nothing yet. -/
theorem Launched.chronicle (launched : Launched chain settings s) (now : Int × Int) :
    Chronicle settings now s where
  nodes := by
    obtain ⟨w, u, h, hworld⟩ := launched.registry
    obtain ⟨-, -, -, rfl⟩ := RelayRegistry.returns_initializeContract_freshState.mp h
    intro a node hnode
    have stored : s.registryWorld.storage.relayNode.get a = some node := hnode
    rw [hworld] at stored
    cases stored
  disputes := by
    obtain ⟨u, h⟩ := launched.resolver
    rw [(DisputeResolver.returns_initializeContract_freshState.mp h).2.2]
    exact
      { initialized := rfl
        resolutionWindow := rfl
        raised := Dated.empty _ _ _
        deadlines := Dated.empty _ _ _
        ruled := nofun }
  entries := by
    obtain ⟨u, h⟩ := launched.treasury
    rw [(Treasury.returns_initializeContract_freshState.mp h).2]
    exact ⟨rfl, Dated.empty _ _ _⟩
  batches := by
    obtain ⟨u, h⟩ := launched.distributor
    rw [(FeeDistributor.returns_initializeContract_freshState.mp h).2.2]
    intro id e he
    cases he

/-- **The books are kept in the order of time.**  In every run of a launched system in which
neither sequence numbers nor close times go back, the reached state has its records in order:
the treasury's history by the ledgers of its entries; the disputes, in the order of their
numbers, by the times at which they were raised and by their deadlines, with every ruling
after its dispute; every node registered before it was last active, with a pending unstake
that unlocks a lock period after a moment in between; and nothing dated after `now`. -/
theorem chronicle_run (ed25519 : DisputeResolver.Ed25519) (launched : Launched chain settings s)
    {begun : Int × Int} {as : List (Action chain)}
    (chronological : (begun :: as.filterMap Action.ledger).Pairwise (· ≤ ·))
    (upTo : ∀ t ∈ begun :: as.filterMap Action.ledger, t ≤ now) :
    Chronicle settings now ((machine ed25519 chain).run s as) := by
  let Inv (t : Int × Int) (s : State Address) : Prop := InOrder settings s ∧ Chronicle settings t s
  have forward : ∀ {t t' : Int × Int} {s : State Address}, t ≤ t' → Inv t s → Inv t' s := by
    intro t t' s le inv
    exact ⟨inv.1, inv.2.later le⟩
  have step : ∀ (t : Int × Int) (s : State Address) (action : Action chain),
      (∀ t', action.ledger = some t' → t' = t) → Inv t s →
        Inv t ((machine ed25519 chain).step s action).2 := by
    intro t s action time inv
    exact ⟨inOrder_step s action inv.1, chronicle_step s action time inv.1 inv.2⟩
  have start : Inv begun s := ⟨launched.inOrder, launched.chronicle begun⟩
  exact ((machine ed25519 chain).clock_run Action.ledger Inv forward step start chronological
    upTo).2

/-- The calls of relay 10, from time 5 to time 7. -/
theorem chronicle_run_sampleActions :
    Chronicle sampleSettings (0, 7)
      ((machine DisputeResolver.sampleEd25519 sampleChain).run sampleState sampleActions) :=
  have chronological :
      (((0, 5) : Int × Int) :: sampleActions.filterMap Action.ledger).Pairwise (· ≤ ·) := by
    decide
  chronicle_run DisputeResolver.sampleEd25519 sample_launched chronological (by decide)

end StellarConduit.Protocol
