import StellarConduit.RelayRegistry.Transition
import StellarConduit.Soroban.Expiry

/-!
# The relay registry and the lifetimes of its entries

The entry points of `relay-registry/src` with their calls to `extend_ttl`.  The node records
and the pending unstakes are entries of their own, one of each for a node, and each with its
last ledger.  The council, the minimum stake, the lock period, the token and the number of
nodes belong to the instance.

Each entry point extends the instance and goes on as its counterpart in
`RelayRegistry.Contract`, with `loadNode`, `setNode` and the three accesses to a pending unstake
replaced by those of this module.  The keys that a call reaches for are known from the call:
the node that it names.  So one set, `uses`, is both the footprint of a call and what it uses
for sure.

A pending unstake is the entry for which this matters.  It is stake that has left the node's
record and has not been paid out, it is stored nowhere else, and nothing has to happen to it
between `unstake` and `finalize_unstake`.  A node that comes back too late, or whose lock
period is longer than the network keeps an entry, finds `finalize_unstake` failing until
someone pays for the entry's restoration, and so does the council with `slash`.

## Main definitions

* `LedgerEntry` — what has a lifetime; `uses` — the entries that a call uses.
* `Ttl.contract` — the registry as a contract with lifetimes.

## Main results

* `carries_dispatch` — a call does what it does without lifetimes, or an entry that it uses has
  expired.
* `pending_expires` — a pending unstake that is left alone for longer than `longest` ledgers
  is neither paid out nor replaced nor seized, until someone restores its entry.
-/

namespace StellarConduit.RelayRegistry

open Soroban Contract

/-- What has a lifetime: the instance and the persistent entries. -/
inductive LedgerEntry (Address : Type) where
  | contractInstance
  | relayNode (address : Address)
  | lockEntry (address : Address)
deriving DecidableEq

instance {Address : Type} : Entries (Storage Address) (LedgerEntry Address) where
  has s
    | .contractInstance => true
    | .relayNode address => (s.relayNode.get address).isSome
    | .lockEntry address => (s.lockEntry.get address).isSome

namespace Ttl

/-- Bump by ~30 days. -/
def ledgerBumpAmount : U32 := 518400

/-- Bump if remaining life is less than ~15 days. -/
def ledgerBumpThreshold : U32 := 259200

/-- What the contract asks of the network. -/
def rent (network : Network) : Rent where
  toNetwork := network
  threshold := ledgerBumpThreshold
  amount := ledgerBumpAmount
  threshold_le := by decide

/-- What the registry sees of the chain, lifetimes included. -/
abbrev State (Address X : Type) : Type :=
  World (Living (Storage Address) (LedgerEntry Address)) X (Event Address)

/-- A computation of the registry with lifetimes. -/
abbrev Registry (Address X α : Type) : Type := Contract (State Address X) ContractError α

section Code

variable {Address X : Type} [DecidableEq Address] (network : Network) (env : Env Address X)

/-! ## Storage helpers

Node records and lock entries are persistent entries of their own, extended whenever they are
read or written.  The configuration, the address of the token and the count of nodes are part of
the instance.
-/

/-- `storage::extend_instance_ttl`. -/
def extendInstanceTtl : Registry Address X Unit :=
  extendTtl env .contractInstance (rent network)

/-- `storage::get_node`. -/
def loadNode (address : Address) : Registry Address X (Option (RelayNode Address)) :=
  loadEntry env (.relayNode address) (rent network) fun s => s.relayNode.get address

/-- `storage::set_node`. -/
def setNode (address : Address) (node : RelayNode Address) : Registry Address X Unit :=
  saveEntry env (.relayNode address) (rent network) fun s =>
    { s with relayNode := s.relayNode.set address node }

/-- `storage::get_lock_entry`. -/
def getLockEntry (address : Address) : Registry Address X (Option (StakeEntry Address)) :=
  loadEntry env (.lockEntry address) (rent network) fun s => s.lockEntry.get address

/-- `storage::set_lock_entry`. -/
def setLockEntry (address : Address) (entry : StakeEntry Address) : Registry Address X Unit :=
  saveEntry env (.lockEntry address) (rent network) fun s =>
    { s with lockEntry := s.lockEntry.set address entry }

omit network in
/-- `storage::remove_lock_entry`. -/
def removeLockEntry (address : Address) : Registry Address X Unit :=
  removeEntry env (.lockEntry address) fun s =>
    { s with lockEntry := s.lockEntry.remove address }

/-! ## Entry points

The bodies are those of the contract without lifetimes, with the extension of the instance in
front and the helpers above in the place of theirs.
-/

/-- `initialize`. -/
def initializeContract (council : AdminCouncil Address) (minStake : I128) (stakeLockPeriod : U32) :
    Registry Address X Unit := do
  extendInstanceTtl network env
  lifted (RelayRegistry.initializeContract council minStake stakeLockPeriod)

/-- `register`: the record that must not be there is looked up, then made. -/
def register (nodeAddress : Address) (metadata : NodeMetadata) : Registry Address X Unit := do
  extendInstanceTtl network env
  requireAuth env nodeAddress
  let existing ← loadNode network env nodeAddress
  rejectIf (existing.isSome = true) .alreadyRegistered
  rejectIf (metadata.uptimeCommitment > 100) .invalidMetadata
  let timestamp := env.timestamp
  setNode network env nodeAddress
    { address := nodeAddress
      stake := 0
      status := .inactive
      metadata := metadata
      registeredAt := timestamp
      lastActive := timestamp }
  lifted incrementNodeCount
  publish (.register nodeAddress metadata)

/-- `update_metadata`: the record is found, and written again. -/
def updateMetadata (nodeAddress : Address) (newMetadata : NodeMetadata) :
    Registry Address X Unit := do
  extendInstanceTtl network env
  requireAuth env nodeAddress
  let node ← okOr (← loadNode network env nodeAddress) .notRegistered
  rejectIf (newMetadata.uptimeCommitment > 100 ∨ newMetadata.region.len > 32) .invalidMetadata
  setNode network env nodeAddress { node with metadata := newMetadata }
  publish (.updateMetadata nodeAddress)

/-- `stake`: the record is written after the token has been called. -/
def stake (nodeAddress : Address) (amount : I128) : Registry Address X Unit := do
  extendInstanceTtl network env
  requireAuth env nodeAddress
  let node ← okOr (← loadNode network env nodeAddress) .notRegistered
  rejectIf (node.status = .slashed) .nodeSlashed
  rejectIf (amount ≤ 0) .insufficientStake
  let newStake ← okOr (node.stake.checkedAdd amount) .overflow
  let minStake ← lifted getMinStake
  let status := if newStake ≥ minStake then NodeStatus.active else node.status
  let token ← lifted getTokenAddress
  tokenTransfer env token nodeAddress env.currentContract amount
  setNode network env nodeAddress
    { node with status := status, lastActive := env.timestamp, stake := newStake }
  publish (.stake nodeAddress amount)

/-- `unstake`: the pending entry is written blindly, so one that is still there is replaced, and
one that has expired fails the call. -/
def unstake (nodeAddress : Address) (amount : I128) :
    Registry Address X (RelayNode Address) := do
  extendInstanceTtl network env
  requireAuth env nodeAddress
  rejectIf (amount ≤ 0) .insufficientStake
  let node ← okOr (← loadNode network env nodeAddress) .notRegistered
  rejectIf (node.status = .slashed) .nodeSlashed
  rejectIf (node.status ≠ .active) .nodeNotActive
  let currentTime := env.timestamp
  let unlockAfter ← okOr (currentTime.checkedAdd (← lifted getStakeLockPeriod).cast) .overflow
  rejectIf (amount > node.stake) .insufficientStake
  let newStake ← okOr (node.stake.checkedSub amount) .overflow
  let minStake ← lifted getMinStake
  let status := if newStake < minStake then NodeStatus.inactive else node.status
  let node := { node with stake := newStake, status := status, lastActive := env.timestamp }
  setLockEntry network env nodeAddress
    { address := nodeAddress, amount := amount, unlocksAt := unlockAfter }
  setNode network env nodeAddress node
  publish (.unstake nodeAddress amount unlockAfter)
  pure node

/-- `finalize_unstake`: the one entry point on a node that leaves its record alone. -/
def finalizeUnstake (nodeAddress : Address) : Registry Address X I128 := do
  extendInstanceTtl network env
  requireAuth env nodeAddress
  let entry ← okOr (← getLockEntry network env nodeAddress) .noPendingUnstake
  let currentTime := env.timestamp
  rejectIf (currentTime < entry.unlocksAt) .lockPeriodActive
  removeLockEntry env nodeAddress
  let token ← lifted getTokenAddress
  tokenTransfer env token env.currentContract nodeAddress entry.amount
  publish (.finalizeUnstake nodeAddress entry.amount)
  pure entry.amount

/-- The `if let Some(lock_entry)` block of `slash`. -/
def seizeLockEntry (nodeAddress : Address) (stake : I128) : Registry Address X I128 := do
  match ← getLockEntry network env nodeAddress with
  | some lockEntry => do
      let slashedAmount ← okOr (stake.checkedAdd lockEntry.amount) .overflow
      removeLockEntry env nodeAddress
      pure slashedAmount
  | none => pure stake

/-- `slash`: the record and the pending unstake are both used, whether or not there is one. -/
def slash (nodeAddress : Address) (_reason : HostString) : Registry Address X Unit := do
  extendInstanceTtl network env
  lifted (requireCouncilAuth env)
  let node ← okOr (← loadNode network env nodeAddress) .notRegistered
  rejectIf (node.status = .slashed) .nodeSlashed
  let slashedAmount ← seizeLockEntry network env nodeAddress node.stake
  setNode network env nodeAddress
    { node with stake := 0, status := .slashed, lastActive := env.timestamp }
  publish (.slash nodeAddress slashedAmount)

/-- `reinstate_node`: the record is found, and written again. -/
def reinstateNode (nodeAddress : Address) : Registry Address X Unit := do
  extendInstanceTtl network env
  lifted (requireCouncilAuth env)
  let node ← okOr (← loadNode network env nodeAddress) .notRegistered
  rejectIf (node.status ≠ .slashed) .nodeNotSlashed
  setNode network env nodeAddress { node with status := .inactive, lastActive := env.timestamp }
  publish (.reinstateNode nodeAddress)

/-- `get_node`: reading a record extends it too. -/
def getNode (address : Address) : Registry Address X (RelayNode Address) := do
  extendInstanceTtl network env
  okOr (← loadNode network env address) .notRegistered

/-- `is_active`: a node without a record is not active; one whose record has expired gets no
answer. -/
def isActive (address : Address) : Registry Address X Bool := do
  extendInstanceTtl network env
  let node ← loadNode network env address
  pure (decide (node.map RelayNode.status = some .active))

/-- Run the entry point a call names. -/
def dispatch : Call Address → Registry Address X (Value Address)
  | .initializeContract council minStake stakeLockPeriod => do
      initializeContract network env council minStake stakeLockPeriod
      pure .unit
  | .register nodeAddress metadata => do
      register network env nodeAddress metadata
      pure .unit
  | .updateMetadata nodeAddress newMetadata => do
      updateMetadata network env nodeAddress newMetadata
      pure .unit
  | .stake nodeAddress amount => do
      stake network env nodeAddress amount
      pure .unit
  | .unstake nodeAddress amount => do
      let node ← unstake network env nodeAddress amount
      pure (.node node)
  | .finalizeUnstake nodeAddress => do
      let amount ← finalizeUnstake network env nodeAddress
      pure (.amount amount)
  | .slash nodeAddress reason => do
      slash network env nodeAddress reason
      pure .unit
  | .reinstateNode nodeAddress => do
      reinstateNode network env nodeAddress
      pure .unit
  | .getNode address => do
      let node ← getNode network env address
      pure (.node node)
  | .isActive address => do
      let b ← isActive network env address
      pure (.bool b)

end Code

/-! ## The entry points carry those without lifetimes

What a call may use is the instance and the entries of the node that it names.  So two nodes
never share an entry of their own, and a call on one extends none of another's.
-/

section Carries

variable {Address X : Type} [DecidableEq Address] {network : Network} {env : Env Address X}
  {F : Set (LedgerEntry Address)} {nodeAddress : Address}

omit [DecidableEq Address] in
/-- What does not touch the two stores makes or removes no entry. -/
theorem carries_unkeyed {α : Type} {x : RelayRegistry.Registry Address X α}
    (keeps : ∀ w a w', Returns x w a w' →
      w'.storage.relayNode = w.storage.relayNode ∧ w'.storage.lockEntry = w.storage.lockEntry) :
    Carries (rent network) env F ∅ (lifted x) x := by
  refine carries_lifted fun w a w' h k => ?_
  obtain ⟨relayNode, lockEntry⟩ := keeps w a w' h
  cases k with
  | contractInstance => rfl
  | relayNode address => simp only [Entries.has, relayNode]
  | lockEntry address => simp only [Entries.has, lockEntry]

/-- An entry point is the extension of the instance, and then its body. -/
theorem carries_body {α : Type} {y' : Registry Address X α}
    {y : RelayRegistry.Registry Address X α} {T : Set (LedgerEntry Address)}
    (mem : .contractInstance ∈ F) (body : Carries (rent network) env F T y' y) :
    Carries (rent network) env F ({.contractInstance} ∪ T)
      (extendInstanceTtl network env >>= fun _ => y') y :=
  carries_entryPoint mem (fun _ => rfl) body

/-- Reading a node's record uses it. -/
theorem carries_loadNode (mem : .relayNode nodeAddress ∈ F) :
    Carries (rent network) env F {.relayNode nodeAddress} (loadNode network env nodeAddress)
      (RelayRegistry.loadNode (X := X) nodeAddress) :=
  carries_loadEntry mem fun _ => rfl

/-- Reading a pending unstake uses it. -/
theorem carries_getLockEntry (mem : .lockEntry nodeAddress ∈ F) :
    Carries (rent network) env F {.lockEntry nodeAddress} (getLockEntry network env nodeAddress)
      (RelayRegistry.getLockEntry (X := X) nodeAddress) :=
  carries_loadEntry mem fun _ => rfl

/-- Writing a node's record makes no other entry. -/
theorem carries_setNode {node : RelayNode Address} (mem : .relayNode nodeAddress ∈ F) :
    Carries (rent network) env F {.relayNode nodeAddress} (setNode network env nodeAddress node)
      (RelayRegistry.setNode (X := X) nodeAddress node) := by
  refine carries_saveEntry mem (fun s => ?_) fun s k hk => ?_
  · simp [Entries.has]
  · cases k with
    | contractInstance => rfl
    | relayNode a =>
        have other : a ≠ nodeAddress := fun same => hk (congrArg LedgerEntry.relayNode same)
        simp only [Entries.has, Store.get_set_of_ne _ _ other]
    | lockEntry a => rfl

/-- Writing a pending unstake makes no other entry. -/
theorem carries_setLockEntry {entry : StakeEntry Address} (mem : .lockEntry nodeAddress ∈ F) :
    Carries (rent network) env F {.lockEntry nodeAddress}
      (setLockEntry network env nodeAddress entry)
      (RelayRegistry.setLockEntry (X := X) nodeAddress entry) := by
  refine carries_saveEntry mem (fun s => ?_) fun s k hk => ?_
  · simp [Entries.has]
  · cases k with
    | contractInstance => rfl
    | relayNode a => rfl
    | lockEntry a =>
        have other : a ≠ nodeAddress := fun same => hk (congrArg LedgerEntry.lockEntry same)
        simp only [Entries.has, Store.get_set_of_ne _ _ other]

/-- Removing a pending unstake removes no other entry. -/
theorem carries_removeLockEntry (mem : .lockEntry nodeAddress ∈ F) :
    Carries (rent network) env F {.lockEntry nodeAddress} (removeLockEntry env nodeAddress)
      (RelayRegistry.removeLockEntry (X := X) nodeAddress) := by
  refine carries_removeEntry mem (fun s => ?_) fun s k hk => ?_
  · simp [Entries.has]
  · cases k with
    | contractInstance => rfl
    | relayNode a => rfl
    | lockEntry a =>
        have other : a ≠ nodeAddress := fun same => hk (congrArg LedgerEntry.lockEntry same)
        simp only [Entries.has, Store.get_remove_of_ne _ other]

omit [DecidableEq Address] in
/-- The minimum stake belongs to the instance. -/
theorem carries_getMinStake :
    Carries (rent network) env F ∅ (lifted (getMinStake : RelayRegistry.Registry Address X I128))
      getMinStake := carries_unkeyed fun w a w' h => by
  obtain ⟨-, rfl⟩ := returns_getMinStake.mp h
  exact ⟨rfl, rfl⟩

omit [DecidableEq Address] in
/-- So does the token. -/
theorem carries_getTokenAddress :
    Carries (rent network) env F ∅
      (lifted (getTokenAddress : RelayRegistry.Registry Address X Address))
      getTokenAddress := carries_unkeyed fun w a w' h => by
  obtain ⟨-, rfl⟩ := returns_getTokenAddress.mp h
  exact ⟨rfl, rfl⟩

omit [DecidableEq Address] in
/-- The council's signatures are checked without reading an entry. -/
theorem carries_requireCouncilAuth :
    Carries (rent network) env F ∅ (lifted (requireCouncilAuth env)) (requireCouncilAuth env) :=
  carries_unkeyed fun w a w' h => by
    obtain ⟨-, rfl⟩ := returns_requireCouncilAuth.mp h
    exact ⟨rfl, rfl⟩

/-- A registration uses the record of the node, the count being part of the instance. -/
theorem carries_register {metadata : NodeMetadata} (inst : .contractInstance ∈ F)
    (node : .relayNode nodeAddress ∈ F) :
    Carries (rent network) env F {.contractInstance, .relayNode nodeAddress}
      (register network env nodeAddress metadata)
      (RelayRegistry.register env nodeAddress metadata) := by
  -- The count belongs to the instance.
  have count : Carries (rent network) env F ∅
      (lifted (incrementNodeCount : RelayRegistry.Registry Address X Unit)) incrementNodeCount :=
    carries_unkeyed fun w a w' h => by
      obtain ⟨next, -, rfl⟩ := returns_incrementNodeCount.mp h
      exact ⟨rfl, rfl⟩
  refine (carries_body inst
    (carries_bind carries_requireAuth fun _ =>
      carries_bind (carries_loadNode node) fun _ =>
      carries_bind carries_rejectIf fun _ =>
      carries_bind carries_rejectIf fun _ =>
      carries_bind (carries_setNode node) fun _ =>
      carries_bind count fun _ => carries_publish)).mono ?_
  rintro k (rfl | rfl) <;> simp

/-- An update of the metadata uses the record of the node. -/
theorem carries_updateMetadata {newMetadata : NodeMetadata} (inst : .contractInstance ∈ F)
    (node : .relayNode nodeAddress ∈ F) :
    Carries (rent network) env F {.contractInstance, .relayNode nodeAddress}
      (updateMetadata network env nodeAddress newMetadata)
      (RelayRegistry.updateMetadata env nodeAddress newMetadata) := by
  refine (carries_body inst
    (carries_bind carries_requireAuth fun _ =>
      carries_bind (carries_loadNode node) fun _ =>
      carries_bind carries_okOr fun _ =>
      carries_bind carries_rejectIf fun _ =>
      carries_bind (carries_setNode node) fun _ => carries_publish)).mono ?_
  rintro k (rfl | rfl) <;> simp

/-- Staking uses the record of the node. -/
theorem carries_stake {amount : I128} (inst : .contractInstance ∈ F)
    (node : .relayNode nodeAddress ∈ F) :
    Carries (rent network) env F {.contractInstance, .relayNode nodeAddress}
      (stake network env nodeAddress amount) (RelayRegistry.stake env nodeAddress amount) := by
  refine (carries_body inst
    (carries_bind carries_requireAuth fun _ =>
      carries_bind (carries_loadNode node) fun _ =>
      carries_bind carries_okOr fun _ =>
      carries_bind carries_rejectIf fun _ =>
      carries_bind carries_rejectIf fun _ =>
      carries_bind carries_okOr fun _ =>
      carries_bind carries_getMinStake fun _ =>
      carries_bind carries_getTokenAddress fun _ =>
      carries_bind carries_callContract fun _ =>
      carries_bind (carries_setNode node) fun _ => carries_publish)).mono ?_
  rintro k (rfl | rfl) <;> simp

/-- Unstaking uses the record of the node and its pending unstake. -/
theorem carries_unstake {amount : I128} (inst : .contractInstance ∈ F)
    (node : .relayNode nodeAddress ∈ F) (entry : .lockEntry nodeAddress ∈ F) :
    Carries (rent network) env F
      {.contractInstance, .relayNode nodeAddress, .lockEntry nodeAddress}
      (unstake network env nodeAddress amount) (RelayRegistry.unstake env nodeAddress amount) := by
  -- The lock period belongs to the instance.
  have period : Carries (rent network) env F ∅
      (lifted (getStakeLockPeriod : RelayRegistry.Registry Address X U32)) getStakeLockPeriod :=
    carries_unkeyed fun w a w' h => by
      obtain ⟨-, rfl⟩ := returns_getStakeLockPeriod.mp h
      exact ⟨rfl, rfl⟩
  refine (carries_body inst
    (carries_bind carries_requireAuth fun _ =>
      carries_bind carries_rejectIf fun _ =>
      carries_bind (carries_loadNode node) fun _ =>
      carries_bind carries_okOr fun _ =>
      carries_bind carries_rejectIf fun _ =>
      carries_bind carries_rejectIf fun _ =>
      carries_bind period fun _ =>
      carries_bind carries_okOr fun _ =>
      carries_bind carries_rejectIf fun _ =>
      carries_bind carries_okOr fun _ =>
      carries_bind carries_getMinStake fun _ =>
      carries_bind (carries_setLockEntry entry) fun _ =>
      carries_bind (carries_setNode node) fun _ =>
      carries_bind carries_publish fun _ => carries_pure)).mono ?_
  rintro k (rfl | rfl | rfl) <;> simp

/-- The payout uses the pending unstake. -/
theorem carries_finalizeUnstake (inst : .contractInstance ∈ F)
    (entry : .lockEntry nodeAddress ∈ F) :
    Carries (rent network) env F {.contractInstance, .lockEntry nodeAddress}
      (finalizeUnstake network env nodeAddress)
      (RelayRegistry.finalizeUnstake env nodeAddress) := by
  refine (carries_body inst
    (carries_bind carries_requireAuth fun _ =>
      carries_bind (carries_getLockEntry entry) fun _ =>
      carries_bind carries_okOr fun _ =>
      carries_bind carries_rejectIf fun _ =>
      carries_bind (carries_removeLockEntry entry) fun _ =>
      carries_bind carries_getTokenAddress fun _ =>
      carries_bind carries_callContract fun _ =>
      carries_bind carries_publish fun _ => carries_pure)).mono ?_
  rintro k (rfl | rfl) <;> simp

/-- The pending unstake is looked at on both branches, and removed on one. -/
theorem carries_seizeLockEntry {stake : I128} (entry : .lockEntry nodeAddress ∈ F) :
    Carries (rent network) env F {.lockEntry nodeAddress}
      (seizeLockEntry network env nodeAddress stake)
      (RelayRegistry.seizeLockEntry (X := X) nodeAddress stake) := by
  -- The lookup is the use that is certain; whether the entry is removed depends on what it
  -- finds.
  refine (carries_bind (carries_getLockEntry entry) fun pending =>
    (?_ : Carries _ _ F ∅ _ _)).mono Set.subset_union_left
  cases pending with
  | none => exact carries_pure
  | some lockEntry =>
      exact (carries_bind carries_okOr fun _ =>
        carries_bind (carries_removeLockEntry entry) fun _ => carries_pure).mono
          (Set.empty_subset _)

/-- Slashing uses the record of the node and its pending unstake. -/
theorem carries_slash {reason : HostString} (inst : .contractInstance ∈ F)
    (node : .relayNode nodeAddress ∈ F) (entry : .lockEntry nodeAddress ∈ F) :
    Carries (rent network) env F
      {.contractInstance, .relayNode nodeAddress, .lockEntry nodeAddress}
      (slash network env nodeAddress reason) (RelayRegistry.slash env nodeAddress reason) := by
  refine (carries_body inst
    (carries_bind carries_requireCouncilAuth fun _ =>
      carries_bind (carries_loadNode node) fun _ =>
      carries_bind carries_okOr fun _ =>
      carries_bind carries_rejectIf fun _ =>
      carries_bind (carries_seizeLockEntry entry) fun _ =>
      carries_bind (carries_setNode node) fun _ => carries_publish)).mono ?_
  rintro k (rfl | rfl | rfl) <;> simp

/-- Reinstating a node uses its record. -/
theorem carries_reinstateNode (inst : .contractInstance ∈ F)
    (node : .relayNode nodeAddress ∈ F) :
    Carries (rent network) env F {.contractInstance, .relayNode nodeAddress}
      (reinstateNode network env nodeAddress) (RelayRegistry.reinstateNode env nodeAddress) := by
  refine (carries_body inst
    (carries_bind carries_requireCouncilAuth fun _ =>
      carries_bind (carries_loadNode node) fun _ =>
      carries_bind carries_okOr fun _ =>
      carries_bind carries_rejectIf fun _ =>
      carries_bind (carries_setNode node) fun _ => carries_publish)).mono ?_
  rintro k (rfl | rfl) <;> simp

/-- The entries that a call uses. -/
def uses : Call Address → Set (LedgerEntry Address)
  | .initializeContract .. => {.contractInstance}
  | .register nodeAddress _ => {.contractInstance, .relayNode nodeAddress}
  | .updateMetadata nodeAddress _ => {.contractInstance, .relayNode nodeAddress}
  | .stake nodeAddress _ => {.contractInstance, .relayNode nodeAddress}
  | .unstake nodeAddress _ => {.contractInstance, .relayNode nodeAddress, .lockEntry nodeAddress}
  | .finalizeUnstake nodeAddress => {.contractInstance, .lockEntry nodeAddress}
  | .slash nodeAddress _ => {.contractInstance, .relayNode nodeAddress, .lockEntry nodeAddress}
  | .reinstateNode nodeAddress => {.contractInstance, .relayNode nodeAddress}
  | .getNode address => {.contractInstance, .relayNode address}
  | .isActive address => {.contractInstance, .relayNode address}

/-- **A call does what it does without lifetimes**, or fails because an entry of the node that it
names has expired. -/
theorem carries_dispatch (c : Call Address) :
    Carries (rent network) env (uses c) (uses c) (dispatch network env c)
      (RelayRegistry.dispatch env c) := by
  cases c with
  | initializeContract council minStake stakeLockPeriod =>
      refine (carries_bind (carries_body (by simp [uses]) (carries_unkeyed fun w a w' h => ?_))
        fun _ => carries_pure).mono (by simp [uses])
      obtain ⟨-, -, -, -, rfl⟩ := returns_initializeContract.mp h
      exact ⟨rfl, rfl⟩
  | register nodeAddress metadata =>
      exact (carries_bind (carries_register (by simp [uses]) (by simp [uses]))
        fun _ => carries_pure).mono Set.subset_union_left
  | updateMetadata nodeAddress newMetadata =>
      exact (carries_bind (carries_updateMetadata (by simp [uses]) (by simp [uses]))
        fun _ => carries_pure).mono Set.subset_union_left
  | stake nodeAddress amount =>
      exact (carries_bind (carries_stake (by simp [uses]) (by simp [uses]))
        fun _ => carries_pure).mono Set.subset_union_left
  | unstake nodeAddress amount =>
      exact (carries_bind (carries_unstake (by simp [uses]) (by simp [uses]) (by simp [uses]))
        fun _ => carries_pure).mono Set.subset_union_left
  | finalizeUnstake nodeAddress =>
      exact (carries_bind (carries_finalizeUnstake (by simp [uses]) (by simp [uses]))
        fun _ => carries_pure).mono Set.subset_union_left
  | slash nodeAddress reason =>
      exact (carries_bind (carries_slash (by simp [uses]) (by simp [uses]) (by simp [uses]))
        fun _ => carries_pure).mono Set.subset_union_left
  | reinstateNode nodeAddress =>
      exact (carries_bind (carries_reinstateNode (by simp [uses]) (by simp [uses]))
        fun _ => carries_pure).mono Set.subset_union_left
  | getNode address =>
      refine (carries_bind (carries_body (by simp [uses])
        (carries_bind (carries_loadNode (by simp [uses])) fun _ => carries_okOr))
        fun _ => carries_pure).mono ?_
      rintro k (rfl | rfl) <;> simp
  | isActive address =>
      refine (carries_bind (carries_body (by simp [uses])
        (carries_bind (carries_loadNode (by simp [uses])) fun _ => carries_pure))
        fun _ => carries_pure).mono ?_
      rintro k (rfl | rfl) <;> simp

end Carries

/-- The relay registry with lifetimes. -/
def contract (Address X : Type) [DecidableEq Address] (network : Network) :
    LivingContract Address (Storage Address) (LedgerEntry Address) X (Event Address)
      ContractError (Value Address) (Call Address) (Provision Address) where
  rent := rent network
  dispatch := dispatch network
  plainDispatch := RelayRegistry.dispatch
  plainProvide := provide
  provides := fun _ => none
  footprint := uses
  uses := uses
  carries := fun _ => carries_dispatch
  provides_has := fun _ _ _ none => absurd none (by simp)
  provides_frame := by
    rintro ⟨tokenAddress⟩ s k -
    cases k <;> rfl

/-! ## Runs

A pending unstake that nobody uses is granted no ledger any more.  The last one that it can have
been granted is `longest` ledgers after its last use, unless somebody has paid for more, and
whatever the run has done with other nodes.
-/

/-- The registry on the ledger of its deployment. -/
def freshState {Address X : Type} (network : Network) (deployedAt : U32) (x : X) :
    State Address X where
  storage :=
    { storage := Storage.fresh
      liveUntil := fun _ => deployedAt.val + (network.minTtl - 1) }
  outside := x
  events := []

/-- After `longest` ledgers in which nobody has used a node's pending unstake or paid for it,
every call that needs it fails: `finalize_unstake` and `unstake` by the node, and `slash` by
the council. -/
theorem pending_expires {Address X : Type} [DecidableEq Address] {network : Network}
    {env : Env Address X} {c : Call Address} {deployedAt : U32} {x : X} (nodeAddress : Address)
    {as : List (Action Address X (Call Address) (Upkeep (Provision Address) (LedgerEntry Address)))}
    (usesEntry : .lockEntry nodeAddress ∈ uses c)
    (deployed : deployedAt.val + (rent network).longest < env.sequence.val)
    (idle : ∀ env' c', .call env' c' ∈ as → .lockEntry nodeAddress ∈ uses c' →
      env'.sequence.val + (rent network).longest < env.sequence.val)
    (unpaid : ∀ paidUntil, .provision (.prolong paidUntil) ∈ as →
      paidUntil (.lockEntry nodeAddress) < env.sequence.val) :
    let w := (contract Address X network).machine.run (freshState network deployedAt x) as
    (w.storage.storage.lockEntry.get nodeAddress).isSome = true →
      ∃ e, ((contract Address X network).machine.step w (.call env c)).1 = some (.error e) := by
  have granted : (network.minTtl : Int) - 1 ≤ (rent network).longest := le_max_right _ _
  -- The entry was there at the end of the run, so it was made in it: what is left to show is
  -- that nothing granted it a ledger as late as this one.
  refine (contract Address X network).expired_when_idle usesEntry ?_
    (fun action taken mayUse now seq => ?_) unpaid
  · change deployedAt.val + ((network.minTtl : Int) - 1) < env.sequence.val
    omega
  · cases action with
    | call env' c' =>
        obtain rfl : env'.sequence.val = now := Option.some.inj seq
        exact idle env' c' taken mayUse
    | provision u =>
        cases u with
        | provide sequence p => cases mayUse
        | prolong paidUntil => exact mayUse.elim
    | elsewhere x => exact mayUse.elim

/-- Node 10 stakes and takes its stake out again, on ledgers 10 to 13. -/
def sampleActions :
    List (Action ℕ Unit (Call ℕ) (Upkeep (Provision ℕ) (LedgerEntry ℕ))) :=
  [.provision (.provide 0 (.setTokenAddress 9)),
    .call (openEnv 1 10 50) (.initializeContract ⟨[7], 1⟩ 100 60),
    .call (openEnv 1 11 55) (.register 10 ⟨HostString.fromStr "eu", 1, 99⟩),
    .call (openEnv 1 12 60) (.stake 10 100),
    .call (openEnv 1 13 65) (.unstake 10 100)]

/-- Half a million ledgers later the lock period of a minute is over and the entry is gone. -/
theorem pending_expires_idleNode :
    let w := (contract ℕ Unit Network.sample).machine.run (freshState Network.sample 0 ())
      sampleActions
    ∃ e, ((contract ℕ Unit Network.sample).machine.step w
      (.call (openEnv 1 518414 3000000) (.finalizeUnstake 10))).1 = some (.error e) := by
  refine pending_expires 10 (by simp [uses]) (by decide) ?_ ?_ rfl
  · intro env' c' mem usesEntry
    simp only [sampleActions, List.mem_cons, Action.call.injEq, reduceCtorEq, List.not_mem_nil,
      or_false, false_or] at mem
    rcases mem with ⟨rfl, rfl⟩ | ⟨rfl, rfl⟩ | ⟨rfl, rfl⟩ | ⟨rfl, rfl⟩ <;> decide
  · intro paidUntil mem
    simp [sampleActions] at mem

end Ttl
end StellarConduit.RelayRegistry
