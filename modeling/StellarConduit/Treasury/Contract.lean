import StellarConduit.Council
import StellarConduit.Soroban.Bytes
import StellarConduit.Soroban.Run

/-!
# The treasury contract

Deposits, council-gated withdrawals, spending programs with budgets, and the
history of all money calls, as `treasury/src` has them.

A storage key is a field of `Storage`: an optional value for a key without arguments, a `Store`
for one with an argument.  A value that was never written reads as what the source's helper
returns for it, a zero or a panic.  An entry point is the source's body in `do`-notation, with
the same statements in the same order, so that it writes before it fails where the source does.
`checked_add(…).ok_or(…)?` is `okOr (a.checkedAdd b) …`, a plain `+` is `plus`, which traps on
overflow, and an `if … { return Err(…) }` is `rejectIf`.

Calls that extend the lifetime of entries are left out here; they are in `Treasury.Lifetime`.

## Main definitions

* `TreasuryEntry`, `EntryKind`, `SpendingProgram`, `TreasuryStats` — the records.
* `Storage` — one field per `DataKey` that an entry point uses.
* `deposit`, `withdraw`, `allocate` — the calls that move the recorded balance;
  each rewrites the balance, the statistics and the history by hand.
* `createProgram`, `updateProgramBudget`, `deactivateProgram` — the programs.
* `machine` — the deployed contract.

`allocate` moves the recorded balance and no tokens: the source leaves the
transfer to a program's recipient as a TODO.
-/

namespace StellarConduit.Treasury

open Soroban Contract

/-- Error codes returned by the treasury. -/
inductive ContractError where
  | insufficientBalance
  | unauthorized
  | invalidAmount
  | programNotFound
  | allocationExceeded
  | invalidRecipient
  | tokenTransferFailed
  | historyOverflow
  | overflow
  | alreadyInitialized
  /-- Spending program is not currently active. -/
  | programInactive
  /-- Allocation would exceed program budget. -/
  | programOverBudget
  /-- Not enough council members authorized this action. -/
  | insufficientApprovals
  /-- Council config is invalid. -/
  | invalidCouncilConfig
  /-- Program name length is out of bounds. -/
  | invalidProgramName
deriving DecidableEq, Repr

/-- Kind of treasury transaction entry. -/
inductive EntryKind where
  | deposit
  | withdrawal
  | allocation
deriving DecidableEq, Repr

/-- A record of a single treasury transaction. -/
structure TreasuryEntry (Address : Type) where
  /-- Type of transaction. -/
  kind : EntryKind
  /-- Token amount of the transaction. -/
  amount : I128
  /-- Address that initiated the transaction. -/
  actor : Address
  /-- Recipient address for withdrawals. -/
  recipient : Option Address
  /-- Human-readable reason or memo. -/
  memo : HostString
  /-- Ledger number when the entry occurred. -/
  ledger : U64
deriving DecidableEq

/-- A spending program with budget tracking. -/
structure SpendingProgram where
  /-- Unique program ID. -/
  programId : U64
  /-- Total budget allocated to this program. -/
  budget : I128
  /-- Amount already spent from this program. -/
  spent : I128
  /-- Whether the program is currently active. -/
  active : Bool
  /-- Human-readable name. -/
  name : HostString
deriving DecidableEq

/-- Aggregate statistics for the treasury. -/
structure TreasuryStats where
  currentBalance : I128
  lifetimeDeposited : I128
  lifetimeWithdrawn : I128
  lifetimeAllocated : I128
deriving DecidableEq

/-- What `storage::get_stats` answers before the first money call. -/
def TreasuryStats.zero : TreasuryStats where
  currentBalance := 0
  lifetimeDeposited := 0
  lifetimeWithdrawn := 0
  lifetimeAllocated := 0

/-- The contract's storage, one field per key. -/
structure Storage (Address : Type) where
  balance : Option I128
  entryCount : Option U64
  entry : Store U64 (TreasuryEntry Address)
  programCount : Option U64
  spendingProgram : Store U64 SpendingProgram
  adminCouncil : Option (AdminCouncil Address)
  tokenAddress : Option Address
  stats : Option TreasuryStats

/-- The storage of a freshly deployed contract. -/
def Storage.fresh {Address : Type} : Storage Address where
  balance := none
  entryCount := none
  entry := Store.empty
  programCount := none
  spendingProgram := Store.empty
  adminCouncil := none
  tokenAddress := none
  stats := none

/-- The published events. -/
inductive Event (Address : Type) where
  | deposit (fromAddress : Address) (amount : I128)
  | withdraw (toAddress : Address) (amount : I128) (memo : HostString)
  | createProgram (programId : U64) (name : HostString) (budget : I128)
  | updateBudget (programId : U64) (newBudget : I128)
  | deactivateProgram (programId : U64)
  | allocate (programId : U64) (amount : I128)
deriving DecidableEq

/-- What the treasury sees of the chain. -/
abbrev State (Address X : Type) : Type := World (Storage Address) X (Event Address)

/-- A computation of the treasury. -/
abbrev Computation (Address X α : Type) : Type := Contract (State Address X) ContractError α

section Code

variable {Address X : Type}

/-! ## Storage helpers -/

/-- `storage::get_balance`. -/
def loadBalance : Computation Address X I128 := loadStorage fun s => s.balance.getD 0

/-- `storage::set_balance`. -/
def setBalance (balance : I128) : Computation Address X Unit :=
  updateStorage fun s => { s with balance := some balance }

/-- `storage::get_stats`. -/
def getStats : Computation Address X TreasuryStats :=
  loadStorage fun s => s.stats.getD TreasuryStats.zero

/-- `storage::set_stats`. -/
def setStats (stats : TreasuryStats) : Computation Address X Unit :=
  updateStorage fun s => { s with stats := some stats }

/-- `storage::get_entry`. -/
def getEntry (entryId : U64) : Computation Address X (Option (TreasuryEntry Address)) :=
  loadStorage fun s => s.entry.get entryId

/-- `storage::get_entry_count`. -/
def getEntryCount : Computation Address X U64 := loadStorage fun s => s.entryCount.getD 0

/-- `storage::set_entry`: append an entry and increment the counter. -/
def setEntry (entry : TreasuryEntry Address) : Computation Address X Unit := do
  let count ← getEntryCount
  -- Plain `+`: ids start at one, and a full counter traps.
  let nextId ← plus count 1
  updateStorage fun s => { s with entry := s.entry.set nextId entry }
  updateStorage fun s => { s with entryCount := some nextId }

/-- `storage::get_spending_program`. -/
def getSpendingProgram (programId : U64) : Computation Address X (Option SpendingProgram) :=
  loadStorage fun s => s.spendingProgram.get programId

/-- `storage::set_spending_program`. -/
def setSpendingProgram (programId : U64) (program : SpendingProgram) : Computation Address X Unit :=
  updateStorage fun s => { s with spendingProgram := s.spendingProgram.set programId program }

/-- `storage::get_program_count`. -/
def getProgramCount : Computation Address X U64 := loadStorage fun s => s.programCount.getD 0

/-- `storage::increment_program_count`. -/
def incrementProgramCount : Computation Address X U64 := do
  let count ← getProgramCount
  let nextId ← expect (count.checkedAdd 1) "program count overflow"
  updateStorage fun s => { s with programCount := some nextId }
  pure nextId

/-- `storage::get_admin_council`. -/
def getAdminCouncil : Computation Address X (AdminCouncil Address) := do
  expect (← loadStorage fun s => s.adminCouncil) "admin council not initialized"

/-- `storage::get_token_address`. -/
def getTokenAddress : Computation Address X Address := do
  expect (← loadStorage fun s => s.tokenAddress) "token address not initialized"

/-! ## Entry points -/

/-- `require_council_auth`. -/
def requireCouncilAuth (env : Env Address X) : Computation Address X Unit := do
  let council ← getAdminCouncil
  requireAuthOfCouncil env council

/-- `get_balance`. -/
def getBalance : Computation Address X I128 := loadBalance

/-- `get_history`: the error for a missing entry is that for a missing program. -/
def getHistory (entryId : U64) : Computation Address X (TreasuryEntry Address) := do
  okOr (← getEntry entryId) .programNotFound

/-- `initialize`. -/
def initializeContract (council : AdminCouncil Address) (tokenAddress : Address) :
    Computation Address X Unit := do
  let has ← loadStorage fun s => s.adminCouncil.isSome
  rejectIf (has = true) .alreadyInitialized
  rejectIf council.Invalid .invalidCouncilConfig
  updateStorage fun s => { s with adminCouncil := some council }
  updateStorage fun s => { s with tokenAddress := some tokenAddress }
  setBalance 0

/-- `deposit`: the books are written before the tokens are moved. -/
def deposit (env : Env Address X) (fromAddress : Address) (amount : I128) :
    Computation Address X Unit := do
  requireAuth env fromAddress
  rejectIf (amount ≤ 0) .invalidAmount
  let balance ← loadBalance
  let newBalance ← okOr (balance.checkedAdd amount) .overflow
  -- The books are written before the tokens move; a transfer that traps undoes them.
  setBalance newBalance
  let stats ← getStats
  let lifetimeDeposited ← okOr (stats.lifetimeDeposited.checkedAdd amount) .overflow
  setStats { stats with lifetimeDeposited := lifetimeDeposited }
  setEntry
    { kind := .deposit
      amount := amount
      actor := fromAddress
      recipient := none
      memo := HostString.fromStr "deposit"
      ledger := env.sequence.cast }
  let token ← getTokenAddress
  tokenTransfer env token fromAddress env.currentContract amount
  publish (.deposit fromAddress amount)

/-- `withdraw`. -/
def withdraw (env : Env Address X) (toAddress : Address) (amount : I128) (memo : HostString) :
    Computation Address X Unit := do
  requireCouncilAuth env
  rejectIf (amount ≤ 0) .invalidAmount
  let balance ← loadBalance
  rejectIf (balance < amount) .insufficientBalance
  let newBalance ← okOr (balance.checkedSub amount) .overflow
  setBalance newBalance
  let stats ← getStats
  let lifetimeWithdrawn ← okOr (stats.lifetimeWithdrawn.checkedAdd amount) .overflow
  setStats { stats with lifetimeWithdrawn := lifetimeWithdrawn }
  setEntry
    { kind := .withdrawal
      amount := amount
      actor := env.currentContract
      recipient := some toAddress
      memo := memo
      ledger := env.sequence.cast }
  let token ← getTokenAddress
  tokenTransfer env token env.currentContract toAddress amount
  publish (.withdraw toAddress amount memo)

/-- `create_program`. -/
def createProgram (env : Env Address X) (name : HostString) (budget : I128) :
    Computation Address X U64 := do
  requireCouncilAuth env
  rejectIf (budget ≤ 0) .invalidAmount
  rejectIf (name.len < 3 ∨ name.len > 64) .invalidProgramName
  let programId ← incrementProgramCount
  setSpendingProgram programId
    { programId := programId
      budget := budget
      spent := 0
      active := true
      name := name }
  publish (.createProgram programId name budget)
  pure programId

/-- `update_program_budget`: the new budget may be what has been spent, not less. -/
def updateProgramBudget (env : Env Address X) (programId : U64) (newBudget : I128) :
    Computation Address X Unit := do
  requireCouncilAuth env
  let program ← okOr (← getSpendingProgram programId) .programNotFound
  rejectIf (newBudget < program.spent) .invalidAmount
  setSpendingProgram programId { program with budget := newBudget }
  publish (.updateBudget programId newBudget)

/-- `deactivate_program`: there is no entry point for the way back. -/
def deactivateProgram (env : Env Address X) (programId : U64) : Computation Address X Unit := do
  requireCouncilAuth env
  let program ← okOr (← getSpendingProgram programId) .programNotFound
  setSpendingProgram programId { program with active := false }
  publish (.deactivateProgram programId)

/-- `get_program`. -/
def getProgram (programId : U64) : Computation Address X SpendingProgram := do
  okOr (← getSpendingProgram programId) .programNotFound

/-- `allocate`. -/
def allocate (env : Env Address X) (programId : U64) (amount : I128) :
    Computation Address X Unit := do
  requireCouncilAuth env
  rejectIf (amount ≤ 0) .invalidAmount
  let program ← okOr (← getSpendingProgram programId) .programNotFound
  rejectIf (program.active = false) .programInactive
  let newSpent ← okOr (program.spent.checkedAdd amount) .overflow
  rejectIf (newSpent > program.budget) .programOverBudget
  let balance ← loadBalance
  rejectIf (balance < amount) .insufficientBalance
  setSpendingProgram programId { program with spent := newSpent }
  let newBalance ← okOr (balance.checkedSub amount) .overflow
  setBalance newBalance
  let stats ← getStats
  let lifetimeAllocated ← okOr (stats.lifetimeAllocated.checkedAdd amount) .overflow
  setStats { stats with lifetimeAllocated := lifetimeAllocated }
  setEntry
    { kind := .allocation
      amount := amount
      actor := env.currentContract
      recipient := none
      memo := HostString.fromStr "allocation"
      ledger := env.sequence.cast }
  -- No tokens move: a program has no recipient address.
  publish (.allocate programId amount)

/-- `get_treasury_stats`. -/
def getTreasuryStats : Computation Address X TreasuryStats := do
  let stats ← getStats
  let balance ← loadBalance
  pure { stats with currentBalance := balance }

end Code

/-! ## The deployed contract -/

/-- The entry points with their arguments. -/
inductive Call (Address : Type) where
  | getBalance
  | getHistory (entryId : U64)
  | initializeContract (council : AdminCouncil Address) (tokenAddress : Address)
  | deposit (fromAddress : Address) (amount : I128)
  | withdraw (toAddress : Address) (amount : I128) (memo : HostString)
  | createProgram (name : HostString) (budget : I128)
  | updateProgramBudget (programId : U64) (newBudget : I128)
  | deactivateProgram (programId : U64)
  | getProgram (programId : U64)
  | allocate (programId : U64) (amount : I128)
  | getTreasuryStats
deriving DecidableEq

/-- What an entry point returns. -/
inductive Value (Address : Type) where
  | unit
  | amount (amount : I128)
  | entry (entry : TreasuryEntry Address)
  | programId (programId : U64)
  | program (program : SpendingProgram)
  | stats (stats : TreasuryStats)
deriving DecidableEq

section Deployment

variable {Address X : Type}

/-- Run the entry point a call names. -/
def dispatch (env : Env Address X) : Call Address → Computation Address X (Value Address)
  | .getBalance => do
      let balance ← getBalance
      pure (.amount balance)
  | .getHistory entryId => do
      let entry ← getHistory entryId
      pure (.entry entry)
  | .initializeContract council tokenAddress => do
      initializeContract council tokenAddress
      pure .unit
  | .deposit fromAddress amount => do
      deposit env fromAddress amount
      pure .unit
  | .withdraw toAddress amount memo => do
      withdraw env toAddress amount memo
      pure .unit
  | .createProgram name budget => do
      let programId ← createProgram env name budget
      pure (.programId programId)
  | .updateProgramBudget programId newBudget => do
      updateProgramBudget env programId newBudget
      pure .unit
  | .deactivateProgram programId => do
      deactivateProgram env programId
      pure .unit
  | .getProgram programId => do
      let program ← getProgram programId
      pure (.program program)
  | .allocate programId amount => do
      allocate env programId amount
      pure .unit
  | .getTreasuryStats => do
      let stats ← getTreasuryStats
      pure (.stats stats)

/-- All storage is set by entry points. -/
def provide : Empty → Storage Address → Storage Address := nofun

/-- The deployed treasury. -/
def machine : Machine (State Address X) (Action Address X (Call Address) Empty)
    (Reply ContractError (Value Address)) :=
  deployed dispatch provide

end Deployment
end StellarConduit.Treasury
