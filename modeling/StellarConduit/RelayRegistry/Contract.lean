import StellarConduit.Council
import StellarConduit.Soroban.Bytes
import StellarConduit.Soroban.Run

/-!
# The relay registry contract

Registration of relay nodes, their stake, the lock period of withdrawals, and
slashing, as `relay-registry/src` has them.

An entry point is the source's body in `do`-notation, statement by statement: a `?` on a
checked operation is `okOr`, a guard with an early `return Err` is `rejectIf`, a call of the
token is `tokenTransfer`.  The order of the statements is that of the source, which matters where
one of them traps and where the token is called.  Fields of `Storage` are the keys of the source;
a value that was never written reads as the default of its helper.

## Main definitions

* `RelayNode`, `StakeEntry`, `NodeMetadata`, `NodeStatus` — the records.
* `Storage` — one field per `DataKey`.
* `initializeContract`, `register`, `updateMetadata`, `stake`, `unstake`,
  `finalizeUnstake`, `slash`, `reinstateNode`, `getNode`, `isActive` — the entry
  points.
* `machine` — the deployed contract.

The times to live of the records are left out here; `RelayRegistry.Lifetime` has
the same calls with them.  The address of the staking token has no entry point that
sets it; `Provision.setTokenAddress` is `storage::set_token_address` called by
whoever deploys the contract.
-/

namespace StellarConduit.RelayRegistry

open Soroban Contract

/-- Error codes returned by the relay registry. -/
inductive ContractError where
  | alreadyRegistered
  | notRegistered
  | insufficientStake
  | nodeNotActive
  | nodeSlashed
  | stakeLocked
  | unauthorizedSlash
  | invalidMetadata
  | overflow
  | alreadyInitialized
  | invalidAmount
  | insufficientApprovals
  | invalidCouncilConfig
  | noPendingUnstake
  | lockPeriodActive
  | nodeNotSlashed
deriving DecidableEq, Repr

/-- The operational status of a relay node. -/
inductive NodeStatus where
  /-- Node can participate in the relay network. -/
  | active
  /-- Node cannot participate in the relay network. -/
  | inactive
  /-- Node has been slashed due to misbehavior. -/
  | slashed
deriving DecidableEq, Repr

/-- Metadata describing a relay node. -/
structure NodeMetadata where
  /-- Geographic region where the node is located. -/
  region : HostString
  /-- Maximum number of transactions per batch. -/
  capacity : U32
  /-- Uptime commitment percentage. -/
  uptimeCommitment : U32
deriving DecidableEq

/-- A registered relay node. -/
structure RelayNode (Address : Type) where
  /-- The account address of the node. -/
  address : Address
  /-- Tokens staked by the node. -/
  stake : I128
  status : NodeStatus
  metadata : NodeMetadata
  /-- Ledger timestamp of the registration. -/
  registeredAt : U64
  /-- Ledger timestamp of the last recorded activity. -/
  lastActive : U64
deriving DecidableEq

/-- A pending unstake, subject to the lock period. -/
structure StakeEntry (Address : Type) where
  /-- Who has unstaked. -/
  address : Address
  /-- The tokens unbonded. -/
  amount : I128
  /-- Documented as a ledger number; `unstake` stores a timestamp. -/
  unlocksAt : U64
deriving DecidableEq

/-- The contract's storage, one field per key. -/
structure Storage (Address : Type) where
  relayNode : Store Address (RelayNode Address)
  nodeCount : Option U32
  minStake : Option I128
  stakeLockPeriod : Option U32
  adminCouncil : Option (AdminCouncil Address)
  tokenAddress : Option Address
  lockEntry : Store Address (StakeEntry Address)

/-- The storage of a freshly deployed contract. -/
def Storage.fresh {Address : Type} : Storage Address where
  relayNode := Store.empty
  nodeCount := none
  minStake := none
  stakeLockPeriod := none
  adminCouncil := none
  tokenAddress := none
  lockEntry := Store.empty

/-- The published events. -/
inductive Event (Address : Type) where
  | register (nodeAddress : Address) (metadata : NodeMetadata)
  | updateMetadata (nodeAddress : Address)
  | stake (nodeAddress : Address) (amount : I128)
  | unstake (nodeAddress : Address) (amount : I128) (unlockAfter : U64)
  | finalizeUnstake (nodeAddress : Address) (amount : I128)
  | slash (nodeAddress : Address) (slashedAmount : I128)
  | reinstateNode (nodeAddress : Address)
deriving DecidableEq

/-- What the registry sees of the chain. -/
abbrev State (Address X : Type) : Type := World (Storage Address) X (Event Address)

/-- A computation of the registry. -/
abbrev Registry (Address X α : Type) : Type := Contract (State Address X) ContractError α

section Code

variable {Address X : Type} [DecidableEq Address]

/-! ## Storage helpers -/

/-- `storage::get_node`. -/
def loadNode (address : Address) : Registry Address X (Option (RelayNode Address)) :=
  loadStorage fun s => s.relayNode.get address

/-- `storage::set_node`. -/
def setNode (address : Address) (node : RelayNode Address) : Registry Address X Unit :=
  updateStorage fun s => { s with relayNode := s.relayNode.set address node }

/-- `storage::get_node_count`. -/
def getNodeCount : Registry Address X U32 := loadStorage fun s => s.nodeCount.getD 0

/-- `storage::set_node_count`. -/
def setNodeCount (count : U32) : Registry Address X Unit :=
  updateStorage fun s => { s with nodeCount := some count }

/-- `storage::increment_node_count`. -/
def incrementNodeCount : Registry Address X Unit := do
  let next ← expect ((← getNodeCount).checkedAdd 1) "node count overflow"
  setNodeCount next

/-- `storage::get_min_stake`. -/
def getMinStake : Registry Address X I128 := loadStorage fun s => s.minStake.getD 0

/-- `storage::get_stake_lock_period`. -/
def getStakeLockPeriod : Registry Address X U32 := loadStorage fun s => s.stakeLockPeriod.getD 0

/-- `storage::get_admin_council`. -/
def getAdminCouncil : Registry Address X (AdminCouncil Address) := do
  expect (← loadStorage fun s => s.adminCouncil) "admin council not initialized"

/-- `storage::get_token_address`. -/
def getTokenAddress : Registry Address X Address := do
  expect (← loadStorage fun s => s.tokenAddress) "token address not initialized"

/-- `storage::get_lock_entry`. -/
def getLockEntry (address : Address) : Registry Address X (Option (StakeEntry Address)) :=
  loadStorage fun s => s.lockEntry.get address

/-- `storage::set_lock_entry`. -/
def setLockEntry (address : Address) (entry : StakeEntry Address) : Registry Address X Unit :=
  updateStorage fun s => { s with lockEntry := s.lockEntry.set address entry }

/-- `storage::remove_lock_entry`. -/
def removeLockEntry (address : Address) : Registry Address X Unit :=
  updateStorage fun s => { s with lockEntry := s.lockEntry.remove address }

/-! ## Entry points -/

/-- `require_council_auth`. -/
def requireCouncilAuth (env : Env Address X) : Registry Address X Unit := do
  let council ← getAdminCouncil
  requireAuthOfCouncil env council

/-- `initialize`. -/
def initializeContract (council : AdminCouncil Address) (minStake : I128) (stakeLockPeriod : U32) :
    Registry Address X Unit := do
  let has ← loadStorage fun s => s.adminCouncil.isSome
  rejectIf (has = true) .alreadyInitialized
  rejectIf (minStake ≤ 0) .invalidAmount
  rejectIf (stakeLockPeriod = 0) .invalidAmount
  rejectIf council.Invalid .invalidCouncilConfig
  updateStorage fun s => { s with adminCouncil := some council }
  updateStorage fun s => { s with minStake := some minStake }
  updateStorage fun s => { s with stakeLockPeriod := some stakeLockPeriod }
  setNodeCount 0

/-- `register`. -/
def register (env : Env Address X) (nodeAddress : Address) (metadata : NodeMetadata) :
    Registry Address X Unit := do
  requireAuth env nodeAddress
  let existing ← loadNode nodeAddress
  rejectIf (existing.isSome = true) .alreadyRegistered
  -- Only `update_metadata` looks at the length of the region.
  rejectIf (metadata.uptimeCommitment > 100) .invalidMetadata
  let timestamp := env.timestamp
  setNode nodeAddress
    { address := nodeAddress
      stake := 0
      status := .inactive
      metadata := metadata
      registeredAt := timestamp
      lastActive := timestamp }
  incrementNodeCount
  publish (.register nodeAddress metadata)

/-- `update_metadata`. -/
def updateMetadata (env : Env Address X) (nodeAddress : Address) (newMetadata : NodeMetadata) :
    Registry Address X Unit := do
  requireAuth env nodeAddress
  let node ← okOr (← loadNode nodeAddress) .notRegistered
  rejectIf (newMetadata.uptimeCommitment > 100 ∨ newMetadata.region.len > 32) .invalidMetadata
  setNode nodeAddress { node with metadata := newMetadata }
  publish (.updateMetadata nodeAddress)

/-- `stake`. -/
def stake (env : Env Address X) (nodeAddress : Address) (amount : I128) :
    Registry Address X Unit := do
  requireAuth env nodeAddress
  let node ← okOr (← loadNode nodeAddress) .notRegistered
  rejectIf (node.status = .slashed) .nodeSlashed
  rejectIf (amount ≤ 0) .insufficientStake
  let newStake ← okOr (node.stake.checkedAdd amount) .overflow
  let minStake ← getMinStake
  let status := if newStake ≥ minStake then NodeStatus.active else node.status
  -- The tokens move before the node is written.
  let token ← getTokenAddress
  tokenTransfer env token nodeAddress env.currentContract amount
  setNode nodeAddress
    { node with status := status, lastActive := env.timestamp, stake := newStake }
  publish (.stake nodeAddress amount)

/-- `unstake`. -/
def unstake (env : Env Address X) (nodeAddress : Address) (amount : I128) :
    Registry Address X (RelayNode Address) := do
  requireAuth env nodeAddress
  rejectIf (amount ≤ 0) .insufficientStake
  let node ← okOr (← loadNode nodeAddress) .notRegistered
  rejectIf (node.status = .slashed) .nodeSlashed
  rejectIf (node.status ≠ .active) .nodeNotActive
  let currentTime := env.timestamp
  let unlockAfter ← okOr (currentTime.checkedAdd (← getStakeLockPeriod).cast) .overflow
  rejectIf (amount > node.stake) .insufficientStake
  let newStake ← okOr (node.stake.checkedSub amount) .overflow
  let minStake ← getMinStake
  let status := if newStake < minStake then NodeStatus.inactive else node.status
  let node := { node with stake := newStake, status := status, lastActive := env.timestamp }
  -- The entry replaces whatever is pending under this key.
  setLockEntry nodeAddress { address := nodeAddress, amount := amount, unlocksAt := unlockAfter }
  setNode nodeAddress node
  publish (.unstake nodeAddress amount unlockAfter)
  pure node

/-- `finalize_unstake`. -/
def finalizeUnstake (env : Env Address X) (nodeAddress : Address) : Registry Address X I128 := do
  requireAuth env nodeAddress
  let entry ← okOr (← getLockEntry nodeAddress) .noPendingUnstake
  let currentTime := env.timestamp
  rejectIf (currentTime < entry.unlocksAt) .lockPeriodActive
  removeLockEntry nodeAddress
  let token ← getTokenAddress
  tokenTransfer env token env.currentContract nodeAddress entry.amount
  publish (.finalizeUnstake nodeAddress entry.amount)
  pure entry.amount

/-- The `if let Some(lock_entry)` block of `slash`: the slashed amount, with any
pending unstake seized on top of `stake`. -/
def seizeLockEntry (nodeAddress : Address) (stake : I128) : Registry Address X I128 := do
  match ← getLockEntry nodeAddress with
  | some lockEntry => do
      let slashedAmount ← okOr (stake.checkedAdd lockEntry.amount) .overflow
      removeLockEntry nodeAddress
      pure slashedAmount
  | none => pure stake

/-- `slash`: the reason is not stored, and not published. -/
def slash (env : Env Address X) (nodeAddress : Address) (_reason : HostString) :
    Registry Address X Unit := do
  requireCouncilAuth env
  let node ← okOr (← loadNode nodeAddress) .notRegistered
  rejectIf (node.status = .slashed) .nodeSlashed
  let slashedAmount ← seizeLockEntry nodeAddress node.stake
  -- No tokens move: the source leaves the transfer of the slashed stake as a TODO.
  setNode nodeAddress { node with stake := 0, status := .slashed, lastActive := env.timestamp }
  publish (.slash nodeAddress slashedAmount)

/-- `reinstate_node`. -/
def reinstateNode (env : Env Address X) (nodeAddress : Address) : Registry Address X Unit := do
  requireCouncilAuth env
  let node ← okOr (← loadNode nodeAddress) .notRegistered
  rejectIf (node.status ≠ .slashed) .nodeNotSlashed
  setNode nodeAddress { node with status := .inactive, lastActive := env.timestamp }
  publish (.reinstateNode nodeAddress)

/-- `get_node`. -/
def getNode (address : Address) : Registry Address X (RelayNode Address) := do
  okOr (← loadNode address) .notRegistered

/-- `is_active`. -/
def isActive (address : Address) : Registry Address X Bool := do
  let node ← loadNode address
  pure (decide (node.map RelayNode.status = some .active))

end Code

/-! ## The deployed contract -/

/-- The entry points with their arguments. -/
inductive Call (Address : Type) where
  | initializeContract (council : AdminCouncil Address) (minStake : I128) (stakeLockPeriod : U32)
  | register (nodeAddress : Address) (metadata : NodeMetadata)
  | updateMetadata (nodeAddress : Address) (newMetadata : NodeMetadata)
  | stake (nodeAddress : Address) (amount : I128)
  | unstake (nodeAddress : Address) (amount : I128)
  | finalizeUnstake (nodeAddress : Address)
  | slash (nodeAddress : Address) (reason : HostString)
  | reinstateNode (nodeAddress : Address)
  | getNode (address : Address)
  | isActive (address : Address)
deriving DecidableEq

/-- What an entry point returns. -/
inductive Value (Address : Type) where
  | unit
  | node (node : RelayNode Address)
  | amount (amount : I128)
  | bool (b : Bool)
deriving DecidableEq

/-- Storage set outside the entry points. -/
inductive Provision (Address : Type) where
  | setTokenAddress (tokenAddress : Address)
deriving DecidableEq

section Deployment

variable {Address X : Type} [DecidableEq Address]

/-- Run the entry point a call names. -/
def dispatch (env : Env Address X) : Call Address → Registry Address X (Value Address)
  | .initializeContract council minStake stakeLockPeriod => do
      initializeContract council minStake stakeLockPeriod
      pure .unit
  | .register nodeAddress metadata => do
      register env nodeAddress metadata
      pure .unit
  | .updateMetadata nodeAddress newMetadata => do
      updateMetadata env nodeAddress newMetadata
      pure .unit
  | .stake nodeAddress amount => do
      stake env nodeAddress amount
      pure .unit
  | .unstake nodeAddress amount => do
      let node ← unstake env nodeAddress amount
      pure (.node node)
  | .finalizeUnstake nodeAddress => do
      let amount ← finalizeUnstake env nodeAddress
      pure (.amount amount)
  | .slash nodeAddress reason => do
      slash env nodeAddress reason
      pure .unit
  | .reinstateNode nodeAddress => do
      reinstateNode env nodeAddress
      pure .unit
  | .getNode address => do
      let node ← getNode address
      pure (.node node)
  | .isActive address => do
      let b ← isActive address
      pure (.bool b)

/-- The effect of a provision. -/
def provide : Provision Address → Storage Address → Storage Address
  | .setTokenAddress tokenAddress, s => { s with tokenAddress := some tokenAddress }

/-- The deployed relay registry. -/
def machine : Machine (State Address X) (Action Address X (Call Address) (Provision Address))
    (Reply ContractError (Value Address)) :=
  deployed dispatch provide

end Deployment
end StellarConduit.RelayRegistry
