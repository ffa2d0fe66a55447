import StellarConduit.Council
import StellarConduit.Soroban.Run

/-!
# The fee distributor contract

The fee of a settled batch, its split between relay and treasury, and the
earnings that relays claim, as `fee-distributor/src` has them.

An entry point is the source's body in `do`-notation, statement by statement, with the checked
operations of the source in its order: the fee is a product and then a quotient, each with its
own `Overflow`.  `distribute` writes its books before it calls the treasury, and publishes after
it; a failing call undoes the books.

## Main definitions

* `FeeEntry`, `EarningsRecord`, `FeeConfig` — the records.
* `Storage` — one field per `DataKey`.
* `calculateFee`, `distribute`, `claim`, `setFeeRate`, `getEarnings` — the entry
  points.
* `machine` — the deployed contract.

`distribute` pays the treasury through two calls into other contracts, a token
transfer and the treasury's `deposit`.  What these do is the environment's
`invokeContract`; here they are only made, in this order and with these
arguments.
-/

namespace StellarConduit.FeeDistributor

open Soroban Contract

/-- Error codes returned by the fee distributor. -/
inductive ContractError where
  | batchAlreadyDistributed
  | batchNotFound
  | nothingToClaim
  | invalidFeeRate
  | unauthorized
  | invalidBatchSize
  | treasuryTransferFailed
  | overflow
  | alreadyInitialized
  | insufficientApprovals
  | invalidCouncilConfig
deriving DecidableEq, Repr

/-- A record of a single fee distribution. -/
structure FeeEntry (Address : Type) where
  /-- Unique identifier of the settled transaction batch. -/
  batchId : U64
  /-- The relay node that settled the batch. -/
  relayAddress : Address
  /-- Total fee distributed for this batch. -/
  amount : I128
  /-- Portion of the fee sent to the protocol treasury. -/
  treasuryShare : I128
  /-- Ledger timestamp when the distribution occurred. -/
  settledAt : U64
deriving DecidableEq

/-- Cumulative earnings of one relay node. -/
structure EarningsRecord where
  /-- Lifetime total fees earned by the relay. -/
  totalEarned : I128
  /-- Lifetime total fees already claimed and paid out. -/
  totalClaimed : I128
  /-- Current claimable balance. -/
  unclaimed : I128
deriving DecidableEq

/-- What `storage::get_earnings` answers for a relay without earnings. -/
def EarningsRecord.zero : EarningsRecord where
  totalEarned := 0
  totalClaimed := 0
  unclaimed := 0

/-- The protocol fee configuration. -/
structure FeeConfig (Address : Type) where
  /-- Fee rate in basis points. -/
  feeRateBps : U32
  /-- Treasury's share of each distribution in basis points. -/
  treasuryShareBps : U32
  /-- Council authorized to update fee config. -/
  council : AdminCouncil Address
deriving DecidableEq

/-- The contract's storage, one field per key. -/
structure Storage (Address : Type) where
  earnings : Store Address EarningsRecord
  feeEntry : Store U64 (FeeEntry Address)
  feeConfig : Option (FeeConfig Address)
  treasuryAddress : Option Address
  tokenAddress : Option Address

/-- The storage of a freshly deployed contract. -/
def Storage.fresh {Address : Type} : Storage Address where
  earnings := Store.empty
  feeEntry := Store.empty
  feeConfig := none
  treasuryAddress := none
  tokenAddress := none

/-- The published events. -/
inductive Event (Address : Type) where
  | distribute (relayAddress : Address) (batchId : U64) (relayPayout treasuryShare : I128)
  | claim (relayAddress : Address) (payout : I128)
  | setFeeRate (newFeeRateBps : U32)
deriving DecidableEq

/-- What the distributor sees of the chain. -/
abbrev State (Address X : Type) : Type := World (Storage Address) X (Event Address)

/-- A computation of the distributor. -/
abbrev Distributor (Address X α : Type) : Type := Contract (State Address X) ContractError α

section Code

variable {Address X : Type}

/-! ## Storage helpers -/

/-- `storage::get_earnings`. -/
def loadEarnings (address : Address) : Distributor Address X EarningsRecord :=
  loadStorage fun s => (s.earnings.get address).getD EarningsRecord.zero

/-- `storage::set_earnings`. -/
def setEarnings [DecidableEq Address] (address : Address) (record : EarningsRecord) :
    Distributor Address X Unit :=
  updateStorage fun s => { s with earnings := s.earnings.set address record }

/-- `storage::get_fee_entry`. -/
def getFeeEntry (batchId : U64) : Distributor Address X (Option (FeeEntry Address)) :=
  loadStorage fun s => s.feeEntry.get batchId

/-- `storage::set_fee_entry`. -/
def setFeeEntry (batchId : U64) (entry : FeeEntry Address) : Distributor Address X Unit :=
  updateStorage fun s => { s with feeEntry := s.feeEntry.set batchId entry }

/-- `storage::get_fee_config`. -/
def getFeeConfig : Distributor Address X (FeeConfig Address) := do
  expect (← loadStorage fun s => s.feeConfig) "fee config not initialized"

/-- `storage::set_fee_config`. -/
def setFeeConfig (config : FeeConfig Address) : Distributor Address X Unit :=
  updateStorage fun s => { s with feeConfig := some config }

/-- `storage::get_treasury_address`. -/
def getTreasuryAddress : Distributor Address X Address := do
  expect (← loadStorage fun s => s.treasuryAddress) "treasury address not initialized"

/-- `storage::get_token_address`. -/
def getTokenAddress : Distributor Address X Address := do
  expect (← loadStorage fun s => s.tokenAddress) "token address not initialized"

/-! ## Entry points -/

/-- `require_council_auth`, with the council of the configuration. -/
def requireCouncilAuth (env : Env Address X) (council : AdminCouncil Address) :
    Distributor Address X Unit :=
  requireAuthOfCouncil env council

/-- `initialize`. -/
def initializeContract (council : AdminCouncil Address) (feeRateBps treasuryShareBps : U32)
    (treasury token : Address) : Distributor Address X Unit := do
  let has ← loadStorage fun s => s.feeConfig.isSome
  rejectIf (has = true) .alreadyInitialized
  rejectIf (feeRateBps = 0 ∨ feeRateBps > 10000) .invalidFeeRate
  rejectIf council.Invalid .invalidCouncilConfig
  setFeeConfig
    { feeRateBps := feeRateBps, treasuryShareBps := treasuryShareBps, council := council }
  updateStorage fun s => { s with treasuryAddress := some treasury }
  updateStorage fun s => { s with tokenAddress := some token }

/-- `calculate_fee`. -/
def calculateFee (batchSize : U32) : Distributor Address X I128 := do
  rejectIf (batchSize = 0) .invalidBatchSize
  let config ← getFeeConfig
  let total ← okOr ((batchSize.cast : I128).checkedMul config.feeRateBps.cast) .overflow
  okOr (total.checkedDiv 10000) .overflow

/-- The `if treasury_share > 0` block of `distribute`. -/
def payTreasury (env : Env Address X) (treasuryShare : I128) : Distributor Address X Unit :=
  if treasuryShare > 0 then do
    let treasuryAddr ← getTreasuryAddress
    let tokenAddr ← getTokenAddress
    tokenTransfer env tokenAddr env.currentContract treasuryAddr treasuryShare
    -- `deposit` transfers the amount from its caller by itself.
    callContract env treasuryAddr "deposit" [.address env.currentContract, .i128 treasuryShare]
  else pure ()

/-- `distribute`. -/
def distribute [DecidableEq Address] (env : Env Address X) (relayAddress : Address)
    (batchId : U64) (batchSize : U32) : Distributor Address X Unit := do
  let existing ← getFeeEntry batchId
  rejectIf (existing.isSome = true) .batchAlreadyDistributed
  let fee ← calculateFee batchSize
  let config ← getFeeConfig
  let scaled ← okOr (fee.checkedMul config.treasuryShareBps.cast) .overflow
  let treasuryShare ← okOr (scaled.checkedDiv 10000) .overflow
  let relayPayout ← okOr (fee.checkedSub treasuryShare) .overflow
  let record ← loadEarnings relayAddress
  let totalEarned ← okOr (record.totalEarned.checkedAdd relayPayout) .overflow
  let unclaimed ← okOr (record.unclaimed.checkedAdd relayPayout) .overflow
  setEarnings relayAddress { record with totalEarned := totalEarned, unclaimed := unclaimed }
  setFeeEntry batchId
    { batchId := batchId
      relayAddress := relayAddress
      amount := fee
      treasuryShare := treasuryShare
      settledAt := env.timestamp }
  payTreasury env treasuryShare
  publish (.distribute relayAddress batchId relayPayout treasuryShare)

/-- `claim`. -/
def claim [DecidableEq Address] (env : Env Address X) (relayAddress : Address) :
    Distributor Address X I128 := do
  requireAuth env relayAddress
  let record ← loadEarnings relayAddress
  rejectIf (record.unclaimed = 0) .nothingToClaim
  let payout := record.unclaimed
  let totalClaimed ← okOr (record.totalClaimed.checkedAdd payout) .overflow
  -- Record and event come first; a transfer that traps undoes both.
  setEarnings relayAddress { record with totalClaimed := totalClaimed, unclaimed := 0 }
  publish (.claim relayAddress payout)
  let tokenAddr ← getTokenAddress
  tokenTransfer env tokenAddr env.currentContract relayAddress payout
  pure payout

/-- `get_earnings`. -/
def getEarnings (relayAddress : Address) : Distributor Address X EarningsRecord :=
  loadEarnings relayAddress

/-- `set_fee_rate`. -/
def setFeeRate (env : Env Address X) (newFeeRateBps : U32) : Distributor Address X Unit := do
  let config ← getFeeConfig
  requireCouncilAuth env config.council
  rejectIf (newFeeRateBps = 0 ∨ newFeeRateBps > 10000) .invalidFeeRate
  setFeeConfig { config with feeRateBps := newFeeRateBps }
  publish (.setFeeRate newFeeRateBps)

end Code

/-! ## The deployed contract -/

/-- The entry points with their arguments. -/
inductive Call (Address : Type) where
  | initializeContract (council : AdminCouncil Address) (feeRateBps treasuryShareBps : U32)
      (treasury token : Address)
  | calculateFee (batchSize : U32)
  | distribute (relayAddress : Address) (batchId : U64) (batchSize : U32)
  | claim (relayAddress : Address)
  | getEarnings (relayAddress : Address)
  | setFeeRate (newFeeRateBps : U32)
deriving DecidableEq

/-- What an entry point returns. -/
inductive Value where
  | unit
  | amount (amount : I128)
  | earnings (record : EarningsRecord)
deriving DecidableEq

section Deployment

variable {Address X : Type} [DecidableEq Address]

/-- Run the entry point a call names. -/
def dispatch (env : Env Address X) : Call Address → Distributor Address X Value
  | .initializeContract council feeRateBps treasuryShareBps treasury token => do
      initializeContract council feeRateBps treasuryShareBps treasury token
      pure .unit
  | .calculateFee batchSize => do
      let fee ← calculateFee batchSize
      pure (.amount fee)
  | .distribute relayAddress batchId batchSize => do
      distribute env relayAddress batchId batchSize
      pure .unit
  | .claim relayAddress => do
      let payout ← claim env relayAddress
      pure (.amount payout)
  | .getEarnings relayAddress => do
      let record ← getEarnings relayAddress
      pure (.earnings record)
  | .setFeeRate newFeeRateBps => do
      setFeeRate env newFeeRateBps
      pure .unit

/-- All storage is set by entry points. -/
def provide : Empty → Storage Address → Storage Address := nofun

/-- The deployed fee distributor. -/
def machine : Machine (State Address X) (Action Address X (Call Address) Empty)
    (Reply ContractError Value) :=
  deployed dispatch provide

end Deployment
end StellarConduit.FeeDistributor
