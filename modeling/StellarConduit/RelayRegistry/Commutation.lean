import StellarConduit.Soroban.Coupling
import StellarConduit.RelayRegistry.Backing
import StellarConduit.RelayRegistry.NodeCount

/-!
# Calls on different nodes

A call on one node looks at the records of that node, at the configuration, at whether
there is room for another node, and at whether its token transfer goes through.  Nothing
of this is changed by a call on another node: the counter has room for both, and the
registry's tokens pay what is due to either, because they back everything.  So two calls
on different nodes answer the same in either order, and leave the same.

## How two worlds are compared

The world in which the other call has been made is not the same world, even as far as the one
node is concerned.  The counter of nodes may be one higher, and the balances have moved: the
registry's own balance too, which the call is going to pay from.  `Alike a count moved` says
that two worlds agree on all that a call on the node `a` reads, up to a fixed difference of the
counter and a fixed difference of every balance.

The calls are then related by `Coupled`, a statement about two runs of one computation: from
alike worlds they answer the same, and the worlds after them are alike with the *same*
differences.  It is proved statement by statement along the entry points, each of which reads
only what is alike.  Two statements are sensitive to the differences: `incrementNodeCount`,
which may find no room in one world only, and the transfer, which may find too little in one
world only.  `Ready` is the invariant of a reached state that rules both out.

## Why the assumption on the token is needed

A relay pays its stake from its own balance, which no call on another node touches, so the
token has to decide by that balance and not by others; that is `own`.  The registry pays what
is due from a balance that other calls do touch, but which covers every obligation; that it
then pays is `covered`.

## Main definitions

* `Alike`, `Ready`, `Twins` — two worlds that are the same to a node, up to what others did.
* `SolventToken` — what is assumed of the token.
* `afterCall` — the world after a call.

## Main results

* `coupled_dispatch` — a call on a node answers alike in worlds that differ in what
  others have done.
* `calls_commute` — two calls on different nodes, in either order.
-/

namespace StellarConduit.RelayRegistry

open Soroban Contract

section Worlds

variable {Address : Type} {registry token a : Address} {count : Int} {moved : Balances Address}
  {w₁ w₂ : State Address (Balances Address)}

/-- For the node `a` the world `w₂` is as `w₁`; others have moved the counter by `count`
and the balances by `moved`. -/
structure Alike (a : Address) (count : Int) (moved : Balances Address)
    (w₁ w₂ : State Address (Balances Address)) : Prop where
  /-- The record of the node. -/
  node : w₂.storage.relayNode.get a = w₁.storage.relayNode.get a
  /-- Its pending unstake. -/
  entry : w₂.storage.lockEntry.get a = w₁.storage.lockEntry.get a
  /-- The minimum stake. -/
  minStake : w₂.storage.minStake = w₁.storage.minStake
  /-- The lock period. -/
  stakeLockPeriod : w₂.storage.stakeLockPeriod = w₁.storage.stakeLockPeriod
  /-- The council. -/
  adminCouncil : w₂.storage.adminCouncil = w₁.storage.adminCouncil
  /-- The token. -/
  tokenAddress : w₂.storage.tokenAddress = w₁.storage.tokenAddress
  /-- The counter of nodes, but for what others have registered. -/
  nodeCount : nodeCount w₂ = nodeCount w₁ + count
  /-- The balances, but for what others have moved. -/
  balance : ∀ b, w₂.outside b = w₁.outside b + moved b

/-- There is room for another node, the token is known, and what is due to the node `a`
is there. -/
structure Ready (registry token a : Address) (w : State Address (Balances Address)) : Prop where
  /-- The counter is below the end of `u32`. -/
  room : nodeCount w < IntType.max ⟨false, 32⟩
  /-- The registry has the token that is assumed about, if any. -/
  known : ∀ t, w.storage.tokenAddress = some t → t = token
  /-- What is pending for the node is covered by what the registry has. -/
  payable : ∀ e, w.storage.lockEntry.get a = some e →
    0 < e.amount.val ∧ e.amount.val ≤ w.outside registry

/-- Two worlds that are alike for the node `a`, and ready for it. -/
structure Twins (registry token a : Address) (count : Int) (moved : Balances Address)
    (w₁ w₂ : State Address (Balances Address)) : Prop extends Alike a count moved w₁ w₂ where
  /-- The world without the other call. -/
  ready₁ : Ready registry token a w₁
  /-- The world with it. -/
  ready₂ : Ready registry token a w₂

/-- Everything backed, with room for another node, is ready for any node. -/
theorem Backed.ready {w : State Address (Balances Address)} (inv : Backed registry token w)
    (room : RelayRegistry.nodeCount w < IntType.max ⟨false, 32⟩) (a : Address) :
    Ready registry token a w where
  room := room
  known := inv.tokenAddress
  payable e he := by
    have owed := pendingAmount_le_obligations inv.amounts a
    rw [he] at owed
    exact ⟨inv.amounts.entry a e he, le_trans owed inv.covered⟩

variable [DecidableEq Address]

/-- What is assumed of the token.  A transfer moves exactly its amount or traps; the token pays
whatever the registry has; and whether a transfer of someone else's tokens goes through depends,
of all balances, on the sender's alone.  A token that pays exactly what its sender has is such a
token (`solventToken_of_pays`). -/
structure SolventToken (registry token : Address) (env : Env Address (Balances Address)) : Prop
    extends TokenEnv registry token env where
  /-- What the registry has, it can pay. -/
  covered : Covered registry token env
  /-- The balances of others do not decide about a transfer. -/
  own : ∀ {sender recipient : Address} {amount : I128} {b b' : Balances Address},
    sender ≠ registry → b' sender = b sender →
      ((env.invokeContract token "transfer"
          [.address sender, .address recipient, .i128 amount] b').isSome ↔
        (env.invokeContract token "transfer"
          [.address sender, .address recipient, .i128 amount] b).isSome)

/-- A token that pays exactly when a sender who may pay, `Pays`, has the amount.  The registry
may, and of everyone else it is up to the transaction. -/
theorem solventToken_of_pays {registry token : Address} {env : Env Address (Balances Address)}
    (tokens : TokenEnv registry token env) (Pays : Address → I128 → Prop)
    (holder : ∀ amount : I128, 0 < amount.val → Pays registry amount)
    (pays : ∀ (sender recipient : Address) (amount : I128) (b : Balances Address),
      (env.invokeContract token "transfer"
          [.address sender, .address recipient, .i128 amount] b).isSome ↔
        Pays sender amount ∧ amount.val ≤ b sender) : SolventToken registry token env where
  toTokenEnv := tokens
  covered recipient amount b positive enough :=
    Option.isSome_iff_exists.mp
      ((pays registry recipient amount b).mpr ⟨holder amount positive, enough⟩)
  own _ same := by rw [pays, pays, same]

/-- The ledger of balances pays exactly what its sender has. -/
theorem tokenLedger_solventToken (holder token : Address) (now : U64) :
    SolventToken holder token (tokenLedger holder now) := by
  refine solventToken_of_pays (tokenLedger_tokenEnv holder token now) (fun _ _ => True)
    (fun _ _ => trivial) fun sender recipient amount b => ?_
  simp only [Option.isSome_iff_exists, tokenLedger_transfer, exists_and_left, exists_eq, and_true,
    true_and]

/-! ## What keeps two worlds alike

The same write in both worlds keeps them alike, and so does the same transfer, since it moves the
balances by the same amounts.  Whether a transfer goes through is the one question that needs the
assumptions on the token: for a transfer by the node, that nobody else's balance decides about
it, and for one by the registry, that what is due is there in both worlds.
-/

/-- The same record is written in both worlds. -/
theorem Alike.setNode (alike : Alike a count moved w₁ w₂) (node : RelayNode Address) :
    Alike a count moved
      { w₁ with storage := { w₁.storage with relayNode := w₁.storage.relayNode.set a node } }
      { w₂ with storage := { w₂.storage with relayNode := w₂.storage.relayNode.set a node } } :=
  { alike with
    node := by
      rw [Store.get_set_self, Store.get_set_self] }

/-- The same pending entry is written in both worlds. -/
theorem Alike.setLockEntry (alike : Alike a count moved w₁ w₂) (entry : StakeEntry Address) :
    Alike a count moved
      { w₁ with storage := { w₁.storage with lockEntry := w₁.storage.lockEntry.set a entry } }
      { w₂ with storage := { w₂.storage with lockEntry := w₂.storage.lockEntry.set a entry } } :=
  { alike with
    entry := by
      rw [Store.get_set_self, Store.get_set_self] }

/-- The pending entry is removed in both worlds. -/
theorem Alike.removeLockEntry (alike : Alike a count moved w₁ w₂) :
    Alike a count moved
      { w₁ with storage := { w₁.storage with lockEntry := w₁.storage.lockEntry.remove a } }
      { w₂ with storage := { w₂.storage with lockEntry := w₂.storage.lockEntry.remove a } } :=
  { alike with
    entry := by
      rw [Store.get_remove_self, Store.get_remove_self] }

/-- The same transfer moves the same, whatever the balances. -/
theorem Alike.move (alike : Alike a count moved w₁ w₂) (sender recipient : Address) (amount : Int) :
    Alike a count moved { w₁ with outside := w₁.outside.move sender recipient amount }
      { w₂ with outside := w₂.outside.move sender recipient amount } :=
  { alike with
    balance := fun b => by
      simp only [Balances.move, alike.balance b]
      omega }

omit [DecidableEq Address] in
/-- Events are not compared. -/
theorem Alike.publish (alike : Alike a count moved w₁ w₂) (event : Event Address) :
    Alike a count moved { w₁ with events := w₁.events ++ [event] }
      { w₂ with events := w₂.events ++ [event] } := { alike with }

/-- The same record is written in both worlds. -/
theorem Twins.setNode (twins : Twins registry token a count moved w₁ w₂)
    (node : RelayNode Address) :
    Twins registry token a count moved
      { w₁ with storage := { w₁.storage with relayNode := w₁.storage.relayNode.set a node } }
      { w₂ with storage := { w₂.storage with relayNode := w₂.storage.relayNode.set a node } } where
  toAlike := twins.toAlike.setNode node
  ready₁ := { twins.ready₁ with }
  ready₂ := { twins.ready₂ with }

/-- The transfer of what the node `a` has of its own. -/
theorem Alike.transfer_own (alike : Alike a count moved w₁ w₂)
    {env : Env Address (Balances Address)} (tokens : SolventToken registry token env)
    (other : a ≠ registry) (own : moved a = 0) (recipient : Address) (amount : I128) :
    (∃ x₁ x₂,
        env.invokeContract token "transfer" [.address a, .address recipient, .i128 amount]
            w₁.outside = some x₁ ∧
          env.invokeContract token "transfer" [.address a, .address recipient, .i128 amount]
            w₂.outside = some x₂ ∧
          Alike a count moved { w₁ with outside := x₁ } { w₂ with outside := x₂ }) ∨
      (env.invokeContract token "transfer" [.address a, .address recipient, .i128 amount]
          w₁.outside = none ∧
        env.invokeContract token "transfer" [.address a, .address recipient, .i128 amount]
          w₂.outside = none) := by
  have same : w₂.outside a = w₁.outside a := by rw [alike.balance, own, add_zero]
  have answers : (env.invokeContract token "transfer"
        [.address a, .address recipient, .i128 amount] w₂.outside).isSome ↔
      (env.invokeContract token "transfer"
        [.address a, .address recipient, .i128 amount] w₁.outside).isSome := tokens.own other same
  cases h₁ : env.invokeContract token "transfer" [.address a, .address recipient, .i128 amount]
      w₁.outside with
  | none =>
      rw [h₁, Option.isSome_none, Bool.false_eq_true, iff_false, Bool.not_eq_true,
        Option.isSome_eq_false_iff, Option.isNone_iff_eq_none] at answers
      exact Or.inr ⟨rfl, answers⟩
  | some x₁ =>
      rw [h₁] at answers
      obtain ⟨x₂, h₂⟩ := Option.isSome_iff_exists.mp (answers.mpr rfl)
      refine Or.inl ⟨x₁, x₂, rfl, h₂, ?_⟩
      rw [tokens.transfer h₁, tokens.transfer h₂]
      exact alike.move a recipient amount.val

/-- The transfer of what is due to the node `a`. -/
theorem Alike.transfer_due (alike : Alike a count moved w₁ w₂)
    {env : Env Address (Balances Address)} (tokens : SolventToken registry token env)
    (recipient : Address) {amount : I128} (positive : 0 < amount.val)
    (enough₁ : amount.val ≤ w₁.outside registry) (enough₂ : amount.val ≤ w₂.outside registry) :
    ∃ x₁ x₂,
      env.invokeContract token "transfer" [.address registry, .address recipient, .i128 amount]
          w₁.outside = some x₁ ∧
        env.invokeContract token "transfer" [.address registry, .address recipient, .i128 amount]
          w₂.outside = some x₂ ∧
        Alike a count moved { w₁ with outside := x₁ } { w₂ with outside := x₂ } := by
  obtain ⟨x₁, h₁⟩ := tokens.covered recipient amount w₁.outside positive enough₁
  obtain ⟨x₂, h₂⟩ := tokens.covered recipient amount w₂.outside positive enough₂
  refine ⟨x₁, x₂, h₁, h₂, ?_⟩
  rw [tokens.transfer h₁, tokens.transfer h₂]
  exact alike.move registry recipient amount.val

end Worlds

/-! ## One call

The entry points are gone through with the rules for `Coupled`.  Each statement either reads
something that is alike, writes the same in both worlds, or is one of the two that `Ready` is
about.
-/

section Calls

variable {Address : Type} [DecidableEq Address] {registry token a : Address} {count : Int}
  {moved : Balances Address} {env : Env Address (Balances Address)} {α : Type}

section Gate

omit [DecidableEq Address]

variable {P : State Address (Balances Address) → State Address (Balances Address) → Prop}

/-- The loop over the council looks at no world. -/
theorem coupled_countCouncilAuth {threshold : U32} {members : List Address} {authorized : U32} :
    Coupled P (countCouncilAuth (ε := ContractError) env threshold members authorized) P := by
  induction members generalizing authorized with
  | nil => exact coupled_pure fun _ _ => id
  | cons member rest ih =>
      refine coupled_requireAuth fun _ => coupled_plus fun next => ?_
      split
      · exact coupled_pure fun _ _ => id
      · exact ih

/-- The gate looks at the council alone. -/
theorem coupled_requireCouncilAuth
    (same : ∀ w₁ w₂, P w₁ w₂ → w₁.storage.adminCouncil = w₂.storage.adminCouncil) :
    Coupled P (requireCouncilAuth env) P := by
  unfold requireCouncilAuth getAdminCouncil
  rw [bind_assoc]
  refine coupled_loadStorage same fun stored => coupled_expect fun council _ => ?_
  refine coupled_bind coupled_countCouncilAuth fun authorized => ?_
  split
  · exact coupled_trap
  · exact coupled_pure fun _ _ => id

/-- The token is the same, and is known in what follows. -/
theorem coupled_getTokenAddress {Q : State Address (Balances Address) →
      State Address (Balances Address) → Prop} {f : Address → Registry Address (Balances Address) α}
    (same : ∀ w₁ w₂, P w₁ w₂ → w₁.storage.tokenAddress = w₂.storage.tokenAddress)
    (rest : ∀ t, Coupled (fun w₁ w₂ => w₁.storage.tokenAddress = some t ∧ P w₁ w₂) (f t) Q) :
    Coupled P (getTokenAddress >>= f) Q := by
  unfold getTokenAddress
  rw [bind_assoc]
  refine coupled_loadStorage_eq same fun stored => coupled_expect fun t ht => ?_
  rw [ht]
  exact rest t

end Gate

omit [DecidableEq Address] in
/-- In both worlds there is room for another node. -/
theorem coupled_incrementNodeCount :
    Coupled (Twins registry token a count moved) incrementNodeCount (Alike a count moved) := by
  intro w₁ w₂ twins
  have one {w : State Address (Balances Address)} (ready : Ready registry token a w) :
      ∃ next : U32, next.val = (w.storage.nodeCount.getD 0).val + 1 := by
    have room := ready.room
    have lower := (MachineInt.u32_bounds (w.storage.nodeCount.getD 0)).1
    unfold nodeCount at room
    exact MachineInt.contains_iff.mp ⟨le_trans (IntType.zero_mem _).1 (by omega), by omega⟩
  obtain ⟨next₁, h₁⟩ := one twins.ready₁
  obtain ⟨next₂, h₂⟩ := one twins.ready₂
  refine Or.inl ⟨(), _, _, returns_incrementNodeCount.mpr ⟨next₁, h₁, rfl⟩,
    returns_incrementNodeCount.mpr ⟨next₂, h₂, rfl⟩, { twins.toAlike with nodeCount := ?_ }⟩
  have counts := twins.nodeCount
  simp only [nodeCount, Option.getD_some] at counts ⊢
  omega

/-- A registration counts one node more in both worlds. -/
theorem coupled_register {metadata : NodeMetadata} :
    Coupled (Twins registry token a count moved) (register env a metadata)
      (Alike a count moved) := by
  unfold register loadNode
  refine coupled_requireAuth fun _ => ?_
  refine coupled_loadStorage (fun w₁ w₂ twins => by rw [twins.node]) fun existing => ?_
  refine coupled_rejectIf fun _ => ?_
  refine coupled_rejectIf fun _ => ?_
  refine coupled_bind (coupled_updateStorage fun w₁ w₂ twins => twins.setNode _) fun _ => ?_
  refine coupled_bind coupled_incrementNodeCount fun _ => ?_
  exact coupled_publish fun w₁ w₂ alike => alike.publish _

/-- An update of the metadata reads the record of the node. -/
theorem coupled_updateMetadata {metadata : NodeMetadata} :
    Coupled (Twins registry token a count moved) (updateMetadata env a metadata)
      (Alike a count moved) := by
  unfold updateMetadata loadNode
  refine coupled_requireAuth fun _ => ?_
  refine coupled_loadStorage (fun w₁ w₂ twins => by rw [twins.node]) fun existing => ?_
  refine coupled_okOr fun node _ => ?_
  refine coupled_rejectIf fun _ => ?_
  refine coupled_bind (coupled_updateStorage fun w₁ w₂ twins => twins.setNode _) fun _ => ?_
  exact coupled_publish fun w₁ w₂ twins => twins.toAlike.publish _

/-- A stake is paid from the node's own balance. -/
theorem coupled_stake (tokens : SolventToken registry token env)
    (own : a ≠ registry → moved a = 0) {amount : I128} :
    Coupled (Twins registry token a count moved) (stake env a amount) (Alike a count moved) := by
  unfold stake loadNode getMinStake tokenTransfer
  refine coupled_requireAuth fun authorised => ?_
  refine coupled_loadStorage (fun w₁ w₂ twins => by rw [twins.node]) fun existing => ?_
  refine coupled_okOr fun node _ => ?_
  refine coupled_rejectIf fun _ => ?_
  refine coupled_rejectIf fun _ => ?_
  refine coupled_okOr fun newStake _ => ?_
  refine coupled_loadStorage (fun w₁ w₂ twins => by rw [twins.minStake]) fun minStake => ?_
  refine coupled_getTokenAddress (fun w₁ w₂ twins => by rw [twins.tokenAddress]) fun t => ?_
  refine coupled_bind (R := Alike a count moved) (coupled_callContract ?_) fun _ => ?_
  · rintro w₁ w₂ ⟨ht, twins⟩
    obtain rfl := twins.ready₁.known t ht
    have other : a ≠ registry := (tokens.ne_holder authorised).symm
    exact twins.toAlike.transfer_own tokens other (own other) _ _
  refine coupled_bind (coupled_updateStorage fun w₁ w₂ alike => alike.setNode _) fun _ => ?_
  exact coupled_publish fun w₁ w₂ alike => alike.publish _

/-- Unstaking reads the record of the node, the lock period and the minimum. -/
theorem coupled_unstake {amount : I128} :
    Coupled (Twins registry token a count moved) (unstake env a amount) (Alike a count moved) := by
  unfold unstake loadNode getStakeLockPeriod getMinStake
  refine coupled_requireAuth fun _ => ?_
  refine coupled_rejectIf fun _ => ?_
  refine coupled_loadStorage (fun w₁ w₂ twins => by rw [twins.node]) fun existing => ?_
  refine coupled_okOr fun node _ => ?_
  refine coupled_rejectIf fun _ => ?_
  refine coupled_rejectIf fun _ => ?_
  refine coupled_loadStorage (fun w₁ w₂ twins => by rw [twins.stakeLockPeriod]) fun period => ?_
  refine coupled_okOr fun unlockAfter _ => ?_
  refine coupled_rejectIf fun _ => ?_
  refine coupled_okOr fun newStake _ => ?_
  refine coupled_loadStorage (fun w₁ w₂ twins => by rw [twins.minStake]) fun minStake => ?_
  refine coupled_bind (coupled_updateStorage fun w₁ w₂ twins =>
    twins.toAlike.setLockEntry _) fun _ => ?_
  refine coupled_bind (coupled_updateStorage fun w₁ w₂ alike => alike.setNode _) fun _ => ?_
  refine coupled_bind (coupled_publish fun w₁ w₂ alike => alike.publish _) fun _ => ?_
  exact coupled_pure fun _ _ => id

/-- A payout is made from the registry's balance, which covers it in both worlds. -/
theorem coupled_finalizeUnstake (tokens : SolventToken registry token env) :
    Coupled (Twins registry token a count moved) (finalizeUnstake env a)
      (Alike a count moved) := by
  unfold finalizeUnstake getLockEntry tokenTransfer
  refine coupled_requireAuth fun _ => ?_
  refine coupled_loadStorage_eq (fun w₁ w₂ twins => by rw [twins.entry]) fun existing => ?_
  refine coupled_okOr fun entry hentry => ?_
  refine coupled_rejectIf fun _ => ?_
  -- The entry is gone before it is paid; what is known of its amount goes with it.
  refine coupled_bind (R := fun w₁ w₂ => (0 < entry.amount.val ∧
      entry.amount.val ≤ w₁.outside registry ∧ entry.amount.val ≤ w₂.outside registry) ∧
      (∀ t, w₁.storage.tokenAddress = some t → t = token) ∧ Alike a count moved w₁ w₂)
    (coupled_updateStorage ?_) fun _ => ?_
  · rintro w₁ w₂ ⟨stored, twins⟩
    have due₁ := twins.ready₁.payable entry (stored.trans hentry)
    have due₂ := twins.ready₂.payable entry (twins.entry.trans (stored.trans hentry))
    exact ⟨⟨due₁.1, due₁.2, due₂.2⟩, twins.ready₁.known, twins.toAlike.removeLockEntry⟩
  refine coupled_getTokenAddress (fun w₁ w₂ h => by rw [h.2.2.tokenAddress]) fun t => ?_
  refine coupled_bind (R := Alike a count moved) (coupled_callContract ?_) fun _ => ?_
  · rintro w₁ w₂ ⟨ht, ⟨positive, enough₁, enough₂⟩, known, alike⟩
    obtain rfl := known t ht
    rw [tokens.current]
    exact Or.inl (alike.transfer_due tokens a positive enough₁ enough₂)
  refine coupled_bind (coupled_publish fun w₁ w₂ alike => alike.publish _) fun _ => ?_
  exact coupled_pure fun _ _ => id

/-- A slash takes what the two records of the node say. -/
theorem coupled_slash {reason : HostString} :
    Coupled (Twins registry token a count moved) (slash env a reason) (Alike a count moved) := by
  unfold slash loadNode
  refine coupled_bind (coupled_requireCouncilAuth fun w₁ w₂ twins => ?_) fun _ => ?_
  · rw [twins.adminCouncil]
  refine coupled_loadStorage (fun w₁ w₂ twins => by rw [twins.node]) fun existing => ?_
  refine coupled_okOr fun node _ => ?_
  refine coupled_rejectIf fun _ => ?_
  refine coupled_bind (R := Alike a count moved) ?_ fun slashedAmount => ?_
  · unfold seizeLockEntry getLockEntry
    refine coupled_loadStorage (fun w₁ w₂ twins => by rw [twins.entry]) fun stored => ?_
    cases stored with
    | none => exact coupled_pure fun w₁ w₂ twins => twins.toAlike
    | some entry =>
        refine coupled_okOr fun slashedAmount _ => ?_
        refine coupled_bind (coupled_updateStorage fun w₁ w₂ twins =>
          twins.toAlike.removeLockEntry) fun _ => ?_
        exact coupled_pure fun _ _ => id
  refine coupled_bind (coupled_updateStorage fun w₁ w₂ alike => alike.setNode _) fun _ => ?_
  exact coupled_publish fun w₁ w₂ alike => alike.publish _

/-- A reinstatement reads the record of the node. -/
theorem coupled_reinstateNode :
    Coupled (Twins registry token a count moved) (reinstateNode env a) (Alike a count moved) := by
  unfold reinstateNode loadNode
  refine coupled_bind (coupled_requireCouncilAuth fun w₁ w₂ twins => ?_) fun _ => ?_
  · rw [twins.adminCouncil]
  refine coupled_loadStorage (fun w₁ w₂ twins => by rw [twins.node]) fun existing => ?_
  refine coupled_okOr fun node _ => ?_
  refine coupled_rejectIf fun _ => ?_
  refine coupled_bind (coupled_updateStorage fun w₁ w₂ twins =>
    twins.toAlike.setNode _) fun _ => ?_
  exact coupled_publish fun w₁ w₂ alike => alike.publish _

/-- A call on the node `a` answers alike in worlds that differ in what others have
done, and leaves them different in the same way. -/
theorem coupled_dispatch (tokens : SolventToken registry token env)
    (own : a ≠ registry → moved a = 0) {c : Call Address} (subject : c.subject = some a) :
    Coupled (Twins registry token a count moved) (dispatch env c) (Alike a count moved) := by
  cases c with
  | register b metadata =>
      obtain rfl := Option.some.inj subject
      exact coupled_bind coupled_register fun _ => coupled_pure fun _ _ => id
  | updateMetadata b metadata =>
      obtain rfl := Option.some.inj subject
      exact coupled_bind coupled_updateMetadata fun _ => coupled_pure fun _ _ => id
  | stake b amount =>
      obtain rfl := Option.some.inj subject
      exact coupled_bind (coupled_stake tokens own) fun _ => coupled_pure fun _ _ => id
  | unstake b amount =>
      obtain rfl := Option.some.inj subject
      exact coupled_bind coupled_unstake fun _ => coupled_pure fun _ _ => id
  | finalizeUnstake b =>
      obtain rfl := Option.some.inj subject
      exact coupled_bind (coupled_finalizeUnstake tokens) fun _ => coupled_pure fun _ _ => id
  | slash b reason =>
      obtain rfl := Option.some.inj subject
      exact coupled_bind coupled_slash fun _ => coupled_pure fun _ _ => id
  | reinstateNode b =>
      obtain rfl := Option.some.inj subject
      exact coupled_bind coupled_reinstateNode fun _ => coupled_pure fun _ _ => id
  | initializeContract council minStake stakeLockPeriod => cases subject
  | getNode b => cases subject
  | isActive b => cases subject

end Calls

/-! ## Two calls

A call leaves the world alike for every other node; so the second call answers as it would have
answered first.  Used once in each order, this gives the records of both nodes, and the counter
and the balances are sums that do not depend on the order.
-/

section Pairs

variable {Address : Type} [DecidableEq Address] {registry token : Address}
  {env : Env Address (Balances Address)} {w w' : State Address (Balances Address)}
  {c : Call Address} {a b : Address}

/-- A call on a node counts at most one node more. -/
theorem nodeCount_call {v : Value Address} (subject : c.subject = some b)
    (h : Returns (dispatch env c) w v w') : nodeCount w' ≤ nodeCount w + 1 := by
  unfold nodeCount
  cases writes_of_returns h with
  | configure => cases subject
  | register _ _ _ _ _ count => exact count.le
  | rewrite _ _ _ _ _ _ count =>
      rw [count]
      omega
  | payout _ _ _ count =>
      rw [count]
      omega
  | view => omega

/-- The world after a call. -/
def afterCall (env : Env Address (Balances Address)) (c : Call Address)
    (w : State Address (Balances Address)) : State Address (Balances Address) :=
  (machine.step w (.call env c)).2

/-- What holds of every world that the call returns in, and of the one it was made in when
it fails, holds of the world after it. -/
theorem afterCall_cases (P : State Address (Balances Address) → Prop) (failed : P w)
    (returned : ∀ v w', Returns (dispatch env c) w v w' → P w') : P (afterCall env c w) := by
  unfold afterCall machine
  rcases Deployed.step_call_cases dispatch provide env c w with ⟨v, w', h, step⟩ | ⟨e, step⟩
  · rw [step]
    exact returned v w' h
  · rw [step]
    exact failed

/-- A call on one node leaves the world alike for any other. -/
theorem alike_afterCall (inv : Backed registry token w) (tokens : TokenEnv registry token env)
    (subject : c.subject = some b) (different : a ≠ b) :
    Alike a (nodeCount (afterCall env c w) - nodeCount w)
        (fun x => (afterCall env c w).outside x - w.outside x) w (afterCall env c w) ∧
      (a ≠ registry → (afterCall env c w).outside a - w.outside a = 0) := by
  refine afterCall_cases (fun w' => Alike a (nodeCount w' - nodeCount w)
    (fun x => w'.outside x - w.outside x) w w' ∧
      (a ≠ registry → w'.outside a - w.outside a = 0)) ?_ fun v w' h => ⟨?_, fun other => ?_⟩
  · exact ⟨⟨rfl, rfl, rfl, rfl, rfl, rfl, by omega, fun x => by omega⟩, fun _ => sub_self _⟩
  · have others : c.subject ≠ some a := by
      rw [subject]
      exact fun same => different (Option.some.inj same).symm
    obtain ⟨node, entry⟩ := untouched_call h others
    have config := configKept_of_subject subject h
    exact ⟨node, entry, config.minStake, config.stakeLockPeriod, config.adminCouncil,
      config.tokenAddress, by omega, fun x => by omega⟩
  · rcases account_call inv.tokenAddress tokens h other with same | ⟨named, -⟩
    · rw [same, sub_self]
    · exact absurd (Option.some.inj (named.symm.trans subject)) different

/-- A call on one node answers the same before and after a call on another, and leaves
worlds that are alike for it. -/
theorem call_beside {env' : Env Address (Balances Address)} {c' : Call Address}
    (inv : Backed registry token w) (room : nodeCount w + 2 ≤ IntType.max ⟨false, 32⟩)
    (tokens : SolventToken registry token env) (tokens' : TokenEnv registry token env')
    (subject : c.subject = some a) (subject' : c'.subject = some b) (different : a ≠ b) :
    (machine.step w (.call env c)).1 = (machine.step (afterCall env' c' w) (.call env c)).1 ∧
      Alike a (nodeCount (afterCall env' c' w) - nodeCount w)
        (fun x => (afterCall env' c' w).outside x - w.outside x)
        (afterCall env c w) (afterCall env c (afterCall env' c' w)) := by
  -- The world after the other call is alike for `a`, both worlds are ready, and so the call goes
  -- the same way in both.
  obtain ⟨alike, own⟩ := alike_afterCall inv tokens' subject' different
  have counted : nodeCount (afterCall env' c' w) ≤ nodeCount w + 1 :=
    afterCall_cases (fun w' => nodeCount w' ≤ nodeCount w + 1) (by omega)
      fun v w' h => nodeCount_call subject' h
  have inv' : Backed registry token (afterCall env' c' w) :=
    afterCall_cases _ inv fun v w' h => backed_call inv tokens' h
  have twins : Twins registry token a (nodeCount (afterCall env' c' w) - nodeCount w)
      (fun x => (afterCall env' c' w).outside x - w.outside x) w (afterCall env' c' w) :=
    { alike with
      ready₁ := inv.ready (by omega) a
      ready₂ := inv'.ready (by omega) a }
  obtain ⟨answer, after⟩ :=
    Deployed.coupled_step provide (coupled_dispatch tokens own subject) twins
  refine ⟨answer, ?_⟩
  rcases after with after | ⟨same, same'⟩
  · exact after
  · have here : afterCall env c w = w := same
    have there : afterCall env c (afterCall env' c' w) = afterCall env' c' w := same'
    rw [here, there]
    exact alike

/-- A call leaves the records of every node but its own. -/
theorem untouched_afterCall (env : Env Address (Balances Address))
    (w : State Address (Balances Address)) (other : c.subject ≠ some a) :
    (afterCall env c w).storage.relayNode.get a = w.storage.relayNode.get a ∧
      (afterCall env c w).storage.lockEntry.get a = w.storage.lockEntry.get a :=
  afterCall_cases
    (fun w' => w'.storage.relayNode.get a = w.storage.relayNode.get a ∧
      w'.storage.lockEntry.get a = w.storage.lockEntry.get a)
    ⟨rfl, rfl⟩ fun _ _ h => untouched_call h other

/-- The records of the node of one call do not depend on whether the other call, on another
node, comes before it or after it. -/
theorem records_after_both {env' : Env Address (Balances Address)} {c' : Call Address}
    {count : Int} {moved : Balances Address}
    (beside : Alike a count moved (afterCall env c w) (afterCall env c (afterCall env' c' w)))
    (other : c'.subject ≠ some a) :
    (afterCall env' c' (afterCall env c w)).storage.relayNode.get a =
        (afterCall env c (afterCall env' c' w)).storage.relayNode.get a ∧
      (afterCall env' c' (afterCall env c w)).storage.lockEntry.get a =
        (afterCall env c (afterCall env' c' w)).storage.lockEntry.get a := by
  obtain ⟨node, entry⟩ := untouched_afterCall env' (afterCall env c w) other
  exact ⟨node.trans beside.node.symm, entry.trans beside.entry.symm⟩

/-- **Calls on different nodes commute.**  In every state reached from the deployment on,
with room for two more nodes and tokens that pay what the registry has, two calls on
different nodes answer the same in either order, and leave the same node records, lock
entries, count of nodes and token balances. -/
theorem calls_commute {b : Balances Address} (start : 0 ≤ b registry)
    {as : List (Action Address (Balances Address) (Call Address) (Provision Address))}
    (custody : ∀ r ∈ machine.trace (freshState b) as, CustodyStep registry token r)
    (room : nodeCount (machine.run (freshState b) as) + 2 ≤ IntType.max ⟨false, 32⟩)
    {env₁ env₂ : Env Address (Balances Address)} (tokens₁ : SolventToken registry token env₁)
    (tokens₂ : SolventToken registry token env₂) {c₁ c₂ : Call Address} {a₁ a₂ : Address}
    (subject₁ : c₁.subject = some a₁) (subject₂ : c₂.subject = some a₂) (different : a₁ ≠ a₂) :
    let reached := machine.run (freshState b) as
    let onlyFirst := afterCall env₁ c₁ reached
    let onlySecond := afterCall env₂ c₂ reached
    let firstThenSecond := afterCall env₂ c₂ onlyFirst
    let secondThenFirst := afterCall env₁ c₁ onlySecond
    (machine.step reached (.call env₁ c₁)).1 = (machine.step onlySecond (.call env₁ c₁)).1 ∧
      (machine.step onlyFirst (.call env₂ c₂)).1 = (machine.step reached (.call env₂ c₂)).1 ∧
      firstThenSecond.storage.relayNode = secondThenFirst.storage.relayNode ∧
      firstThenSecond.storage.lockEntry = secondThenFirst.storage.lockEntry ∧
      nodeCount firstThenSecond = nodeCount secondThenFirst ∧
      firstThenSecond.outside = secondThenFirst.outside := by
  intro reached onlyFirst onlySecond firstThenSecond secondThenFirst
  have inv : Backed registry token reached := backed_run start custody
  obtain ⟨answer₁, beside₁⟩ :=
    call_beside inv room tokens₁ tokens₂.toTokenEnv subject₁ subject₂ different
  obtain ⟨answer₂, beside₂⟩ :=
    call_beside inv room tokens₂ tokens₁.toTokenEnv subject₂ subject₁ different.symm
  have other {c : Call Address} {a' x : Address} (subject : c.subject = some a')
      (ne : x ≠ a') : c.subject ≠ some x := by
    rw [subject]
    exact fun same => ne (Option.some.inj same).symm
  have records (x : Address) :
      firstThenSecond.storage.relayNode.get x = secondThenFirst.storage.relayNode.get x ∧
        firstThenSecond.storage.lockEntry.get x = secondThenFirst.storage.lockEntry.get x := by
    by_cases hx₁ : x = a₁
    · rw [hx₁]
      exact records_after_both beside₁ (other subject₂ different)
    · by_cases hx₂ : x = a₂
      · rw [hx₂]
        obtain ⟨node, entry⟩ := records_after_both beside₂ (other subject₁ different.symm)
        exact ⟨node.symm, entry.symm⟩
      · -- Neither call is about `x`.
        have first (w : State Address (Balances Address)) :=
          untouched_afterCall env₁ w (other subject₁ hx₁)
        have second (w : State Address (Balances Address)) :=
          untouched_afterCall env₂ w (other subject₂ hx₂)
        constructor
        · calc firstThenSecond.storage.relayNode.get x
              = onlyFirst.storage.relayNode.get x := (second onlyFirst).1
            _ = reached.storage.relayNode.get x := (first reached).1
            _ = onlySecond.storage.relayNode.get x := (second reached).1.symm
            _ = secondThenFirst.storage.relayNode.get x := (first onlySecond).1.symm
        · calc firstThenSecond.storage.lockEntry.get x
              = onlyFirst.storage.lockEntry.get x := (second onlyFirst).2
            _ = reached.storage.lockEntry.get x := (first reached).2
            _ = onlySecond.storage.lockEntry.get x := (second reached).2.symm
            _ = secondThenFirst.storage.lockEntry.get x := (first onlySecond).2.symm
  refine ⟨answer₁, answer₂.symm, Store.ext fun x => (records x).1, Store.ext fun x => (records x).2,
    ?_, funext fun x => ?_⟩
  · -- Each call adds to the count what it adds alone.
    have count₁ : nodeCount secondThenFirst =
        nodeCount onlyFirst + (nodeCount onlySecond - nodeCount reached) := beside₁.nodeCount
    have count₂ : nodeCount firstThenSecond =
        nodeCount onlySecond + (nodeCount onlyFirst - nodeCount reached) := beside₂.nodeCount
    omega
  · have balance₁ : secondThenFirst.outside x =
        onlyFirst.outside x + (onlySecond.outside x - reached.outside x) := beside₁.balance x
    have balance₂ : firstThenSecond.outside x =
        onlySecond.outside x + (onlyFirst.outside x - reached.outside x) := beside₂.balance x
    omega

end Pairs

/-- Node 1 is paid what it unstaked while node 2 registers, in either order. -/
theorem calls_commute_pendingUnstake :
    let reached := machine.run (freshState fundedRegistry.outside) pendingUnstake
    let payout := Call.finalizeUnstake 1
    let arrival := Call.register 2 ⟨HostString.fromStr "us", 5, 90⟩
    (afterCall (tokenLedger 0 20) arrival (afterCall (tokenLedger 0 20) payout reached)).outside =
      (afterCall (tokenLedger 0 20) payout
        (afterCall (tokenLedger 0 20) arrival reached)).outside := by
  have start : (0 : Int) ≤ fundedRegistry.outside 0 := le_refl 0
  have room : nodeCount (machine.run (freshState fundedRegistry.outside) pendingUnstake) + 2 ≤
      IntType.max ⟨false, 32⟩ := by
    decide +kernel
  have tokens : SolventToken 0 9 (tokenLedger 0 20) := tokenLedger_solventToken 0 9 20
  exact (calls_commute start pendingUnstake_custody room tokens tokens rfl rfl
    (by decide : 1 ≠ 2)).2.2.2.2.2

end StellarConduit.RelayRegistry
