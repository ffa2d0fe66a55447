import StellarConduit.FeeDistributor.Bounds
import StellarConduit.Soroban.Expiry

/-!
# The fee distributor and the lifetimes of its entries

The entry points of `fee-distributor/src` with their calls to `extend_ttl`: each extends the
instance first, and the storage helpers extend every earnings record and fee entry that they
read or write.  The entry points of `machine` are these without lifetimes, and `contract`
puts the two together.

An earnings record is what a relay is owed.  It is written when a batch is distributed and when
the relay claims, and between the two it lasts as long as the last of these calls has extended
it.  A fee entry is written once for a batch and read again only by an attempt to distribute
the batch a second time.  If it has expired by then, the attempt fails, so the network's rule
that expired entries are not readable does not let a batch be paid twice.

Which entries a call reaches for is known from the call: the relay and the batch that it names.
So `uses` is both the footprint of a call and what it uses for sure.

## Main definitions

* `LedgerEntry` — what has a lifetime; `uses` — the entries that a call uses.
* `Ttl.contract` — the distributor as a contract with lifetimes.

## Main results

* `carries_dispatch` — a call does what it does without lifetimes, or an entry that it uses has
  expired.
* `earnings_kept` — for `kept` ledgers after a call on a relay's earnings, calls on them are
  answered as if nothing expired.
-/

namespace StellarConduit.FeeDistributor

open Soroban Contract

/-- What has a lifetime: the instance, with the configuration, and the persistent entries. -/
inductive LedgerEntry (Address : Type) where
  | contractInstance
  | earnings (address : Address)
  | feeEntry (batchId : U64)
deriving DecidableEq

instance {Address : Type} : Entries (Storage Address) (LedgerEntry Address) where
  has s
    | .contractInstance => true
    | .earnings address => (s.earnings.get address).isSome
    | .feeEntry batchId => (s.feeEntry.get batchId).isSome

namespace Ttl

/-- Bump by ~30 days. -/
def ledgerBumpAmount : U32 := 518400

/-- Bump if remaining life is less than ~15 days. -/
def ledgerBumpThreshold : U32 := 259200

/-- What the contract asks of the network. -/
def rent (network : Network) : Rent where
  toNetwork := network
  threshold := ledgerBumpThreshold
  amount := ledgerBumpAmount
  threshold_le := by decide

/-- What the distributor sees of the chain, lifetimes included. -/
abbrev State (Address X : Type) : Type :=
  World (Living (Storage Address) (LedgerEntry Address)) X (Event Address)

/-- A computation of the distributor with lifetimes. -/
abbrev Distributor (Address X α : Type) : Type := Contract (State Address X) ContractError α

section Code

variable {Address X : Type} [DecidableEq Address] (network : Network) (env : Env Address X)

/-! ## Storage helpers

Earnings and fee entries are persistent entries of their own, by relay and by batch.  The
configuration and the two addresses are part of the instance.
-/

/-- `storage::extend_instance_ttl`. -/
def extendInstanceTtl : Distributor Address X Unit :=
  extendTtl env .contractInstance (rent network)

/-- `storage::get_earnings`. -/
def loadEarnings (address : Address) : Distributor Address X EarningsRecord := do
  let record ← loadEntry env (.earnings address) (rent network) fun s => s.earnings.get address
  pure (record.getD EarningsRecord.zero)

/-- `storage::set_earnings`. -/
def setEarnings (address : Address) (record : EarningsRecord) : Distributor Address X Unit :=
  saveEntry env (.earnings address) (rent network) fun s =>
    { s with earnings := s.earnings.set address record }

/-- `storage::get_fee_entry`. -/
def getFeeEntry (batchId : U64) : Distributor Address X (Option (FeeEntry Address)) :=
  loadEntry env (.feeEntry batchId) (rent network) fun s => s.feeEntry.get batchId

/-- `storage::set_fee_entry`. -/
def setFeeEntry (batchId : U64) (entry : FeeEntry Address) : Distributor Address X Unit :=
  saveEntry env (.feeEntry batchId) (rent network) fun s =>
    { s with feeEntry := s.feeEntry.set batchId entry }

/-! ## Entry points

The bodies are those of the contract without lifetimes, with the extension of the instance in
front and the helpers above in the place of theirs.
-/

/-- `initialize`. -/
def initializeContract (council : AdminCouncil Address) (feeRateBps treasuryShareBps : U32)
    (treasury token : Address) : Distributor Address X Unit := do
  extendInstanceTtl network env
  -- The configuration belongs to the instance.
  lifted (FeeDistributor.initializeContract council feeRateBps treasuryShareBps treasury token)

/-- `calculate_fee`: the configuration belongs to the instance, which is all it reads. -/
def calculateFee (batchSize : U32) : Distributor Address X I128 := do
  extendInstanceTtl network env
  lifted (FeeDistributor.calculateFee batchSize)

/-- `distribute`: the entry of the batch and the record of the relay are used on the one path that
is accepted. -/
def distribute (relayAddress : Address) (batchId : U64) (batchSize : U32) :
    Distributor Address X Unit := do
  extendInstanceTtl network env
  let existing ← getFeeEntry network env batchId
  rejectIf (existing.isSome = true) .batchAlreadyDistributed
  let fee ← calculateFee network env batchSize
  let config ← lifted getFeeConfig
  let scaled ← okOr (fee.checkedMul config.treasuryShareBps.cast) .overflow
  let treasuryShare ← okOr (scaled.checkedDiv 10000) .overflow
  let relayPayout ← okOr (fee.checkedSub treasuryShare) .overflow
  let record ← loadEarnings network env relayAddress
  let totalEarned ← okOr (record.totalEarned.checkedAdd relayPayout) .overflow
  let unclaimed ← okOr (record.unclaimed.checkedAdd relayPayout) .overflow
  setEarnings network env relayAddress
    { record with totalEarned := totalEarned, unclaimed := unclaimed }
  setFeeEntry network env batchId
    { batchId := batchId
      relayAddress := relayAddress
      amount := fee
      treasuryShare := treasuryShare
      settledAt := env.timestamp }
  lifted (payTreasury env treasuryShare)
  publish (.distribute relayAddress batchId relayPayout treasuryShare)

/-- `claim`: the record is written before the token is called. -/
def claim (relayAddress : Address) : Distributor Address X I128 := do
  extendInstanceTtl network env
  requireAuth env relayAddress
  let record ← loadEarnings network env relayAddress
  rejectIf (record.unclaimed = 0) .nothingToClaim
  let payout := record.unclaimed
  let totalClaimed ← okOr (record.totalClaimed.checkedAdd payout) .overflow
  setEarnings network env relayAddress { record with totalClaimed := totalClaimed, unclaimed := 0 }
  publish (.claim relayAddress payout)
  let tokenAddr ← lifted getTokenAddress
  tokenTransfer env tokenAddr env.currentContract relayAddress payout
  pure payout

/-- `get_earnings`: reading a record extends it too. -/
def getEarnings (relayAddress : Address) : Distributor Address X EarningsRecord := do
  extendInstanceTtl network env
  loadEarnings network env relayAddress

/-- `set_fee_rate`: the configuration belongs to the instance. -/
def setFeeRate (newFeeRateBps : U32) : Distributor Address X Unit := do
  extendInstanceTtl network env
  lifted (FeeDistributor.setFeeRate env newFeeRateBps)

/-- Run the entry point a call names. -/
def dispatch : Call Address → Distributor Address X Value
  | .initializeContract council feeRateBps treasuryShareBps treasury token => do
      initializeContract network env council feeRateBps treasuryShareBps treasury token
      pure .unit
  | .calculateFee batchSize => do
      let fee ← calculateFee network env batchSize
      pure (.amount fee)
  | .distribute relayAddress batchId batchSize => do
      distribute network env relayAddress batchId batchSize
      pure .unit
  | .claim relayAddress => do
      let payout ← claim network env relayAddress
      pure (.amount payout)
  | .getEarnings relayAddress => do
      let record ← getEarnings network env relayAddress
      pure (.earnings record)
  | .setFeeRate newFeeRateBps => do
      setFeeRate network env newFeeRateBps
      pure .unit

end Code

/-! ## The entry points carry those without lifetimes

`distribute` uses the fee entry of its batch and the earnings of its relay, `claim` and
`get_earnings` the earnings alone, and all calls use the instance.  Reading earnings that are not
there makes no entry: zero is answered and nothing is extended.
-/

section Carries

variable {Address X : Type} [DecidableEq Address] {network : Network} {env : Env Address X}
  {F : Set (LedgerEntry Address)}

omit [DecidableEq Address] in
/-- What does not touch the two stores makes or removes no entry. -/
theorem carries_unkeyed {α : Type} {x : FeeDistributor.Distributor Address X α}
    (keeps : ∀ w a w', Returns x w a w' →
      w'.storage.earnings = w.storage.earnings ∧ w'.storage.feeEntry = w.storage.feeEntry) :
    Carries (rent network) env F ∅ (lifted x) x := by
  refine carries_lifted fun w a w' h k => ?_
  obtain ⟨earnings, feeEntry⟩ := keeps w a w' h
  cases k with
  | contractInstance => rfl
  | earnings address => simp only [Entries.has, earnings]
  | feeEntry batchId => simp only [Entries.has, feeEntry]

/-- An entry point is the extension of the instance, and then its body. -/
theorem carries_body {α : Type} {y' : Distributor Address X α}
    {y : FeeDistributor.Distributor Address X α} {T : Set (LedgerEntry Address)}
    (mem : .contractInstance ∈ F) (body : Carries (rent network) env F T y' y) :
    Carries (rent network) env F ({.contractInstance} ∪ T)
      (extendInstanceTtl network env >>= fun _ => y') y :=
  carries_entryPoint mem (fun _ => rfl) body

/-- Reading a relay's record uses it, also where there is none and zeros are read. -/
theorem carries_loadEarnings {address : Address} (mem : .earnings address ∈ F) :
    Carries (rent network) env F {.earnings address} (loadEarnings network env address)
      (FeeDistributor.loadEarnings (X := X) address) := by
  have load : Carries (rent network) env F ({.earnings address} ∪ ∅)
      (loadEarnings network env address)
      (do
        let record ← loadStorage fun s => s.earnings.get address
        pure (record.getD EarningsRecord.zero) :
        FeeDistributor.Distributor Address X EarningsRecord) :=
    carries_bind (carries_loadEntry mem fun _ => rfl) fun _ => carries_pure
  exact load.mono Set.subset_union_left

/-- Writing a relay's record makes no other entry. -/
theorem carries_setEarnings {address : Address} {record : EarningsRecord}
    (mem : .earnings address ∈ F) :
    Carries (rent network) env F {.earnings address} (setEarnings network env address record)
      (FeeDistributor.setEarnings (X := X) address record) := by
  refine carries_saveEntry mem (fun s => ?_) fun s k hk => ?_
  · simp [Entries.has]
  · cases k with
    | contractInstance => rfl
    | earnings a =>
        have other : a ≠ address := fun same => hk (congrArg LedgerEntry.earnings same)
        simp only [Entries.has, Store.get_set_of_ne _ _ other]
    | feeEntry batchId => rfl

/-- Looking up a batch uses its entry. -/
theorem carries_getFeeEntry {batchId : U64} (mem : .feeEntry batchId ∈ F) :
    Carries (rent network) env F {.feeEntry batchId} (getFeeEntry network env batchId)
      (FeeDistributor.getFeeEntry (X := X) batchId) :=
  carries_loadEntry mem fun _ => rfl

/-- Writing the entry of a batch makes no other entry. -/
theorem carries_setFeeEntry {batchId : U64} {entry : FeeEntry Address}
    (mem : .feeEntry batchId ∈ F) :
    Carries (rent network) env F {.feeEntry batchId} (setFeeEntry network env batchId entry)
      (FeeDistributor.setFeeEntry (X := X) batchId entry) := by
  refine carries_saveEntry mem (fun s => ?_) fun s k hk => ?_
  · simp [Entries.has]
  · cases k with
    | contractInstance => rfl
    | earnings address => rfl
    | feeEntry id =>
        have other : id ≠ batchId := fun same => hk (congrArg LedgerEntry.feeEntry same)
        simp only [Entries.has, Store.get_set_of_ne _ _ other]

/-- The fee is computed from the instance. -/
theorem carries_calculateFee {batchSize : U32} (mem : .contractInstance ∈ F) :
    Carries (rent network) env F {.contractInstance} (calculateFee network env batchSize)
      (FeeDistributor.calculateFee (X := X) batchSize) := by
  refine (carries_body mem (carries_unkeyed fun w a w' h => ?_)).mono Set.subset_union_left
  obtain ⟨-, config, -, -, rfl⟩ := returns_calculateFee.mp h
  exact ⟨rfl, rfl⟩

/-- A distribution uses the entry of the batch and the record of the relay. -/
theorem carries_distribute {relayAddress : Address} {batchId : U64} {batchSize : U32}
    (inst : .contractInstance ∈ F) (entry : .feeEntry batchId ∈ F)
    (record : .earnings relayAddress ∈ F) :
    Carries (rent network) env F {.contractInstance, .feeEntry batchId, .earnings relayAddress}
      (distribute network env relayAddress batchId batchSize)
      (FeeDistributor.distribute env relayAddress batchId batchSize) := by
  have config : Carries (rent network) env F ∅
      (lifted (getFeeConfig : FeeDistributor.Distributor Address X (FeeConfig Address)))
      getFeeConfig := carries_unkeyed fun w a w' h => by
    obtain ⟨-, rfl⟩ := returns_getFeeConfig.mp h
    exact ⟨rfl, rfl⟩
  have pays (share : I128) : Carries (rent network) env F ∅ (lifted (payTreasury env share))
      (payTreasury env share) := carries_unkeyed fun w a w' h => by
    obtain ⟨x, -, rfl⟩ := returns_payTreasury.mp h
    exact ⟨rfl, rfl⟩
  refine (carries_body inst
    (carries_bind (carries_getFeeEntry entry) fun _ =>
      carries_bind carries_rejectIf fun _ =>
      carries_bind (carries_calculateFee inst) fun _ =>
      carries_bind config fun _ =>
      carries_bind carries_okOr fun _ =>
      carries_bind carries_okOr fun _ =>
      carries_bind carries_okOr fun _ =>
      carries_bind (carries_loadEarnings record) fun _ =>
      carries_bind carries_okOr fun _ =>
      carries_bind carries_okOr fun _ =>
      carries_bind (carries_setEarnings record) fun _ =>
      carries_bind (carries_setFeeEntry entry) fun _ =>
      carries_bind (pays _) fun _ => carries_publish)).mono ?_
  rintro k (rfl | rfl | rfl) <;> simp

/-- A claim uses the record of the relay. -/
theorem carries_claim {relayAddress : Address} (inst : .contractInstance ∈ F)
    (record : .earnings relayAddress ∈ F) :
    Carries (rent network) env F {.contractInstance, .earnings relayAddress}
      (claim network env relayAddress) (FeeDistributor.claim env relayAddress) := by
  have token : Carries (rent network) env F ∅
      (lifted (getTokenAddress : FeeDistributor.Distributor Address X Address))
      getTokenAddress := carries_unkeyed fun w a w' h => by
    obtain ⟨-, rfl⟩ := returns_getTokenAddress.mp h
    exact ⟨rfl, rfl⟩
  refine (carries_body inst
    (carries_bind carries_requireAuth fun _ =>
      carries_bind (carries_loadEarnings record) fun _ =>
      carries_bind carries_rejectIf fun _ =>
      carries_bind carries_okOr fun _ =>
      carries_bind (carries_setEarnings record) fun _ =>
      carries_bind carries_publish fun _ =>
      carries_bind token fun _ =>
      carries_bind carries_callContract fun _ => carries_pure)).mono ?_
  rintro k (rfl | rfl) <;> simp

/-- The entries that a call uses. -/
def uses : Call Address → Set (LedgerEntry Address)
  | .initializeContract .. => {.contractInstance}
  | .calculateFee _ => {.contractInstance}
  | .distribute relayAddress batchId _ =>
      {.contractInstance, .feeEntry batchId, .earnings relayAddress}
  | .claim relayAddress => {.contractInstance, .earnings relayAddress}
  | .getEarnings relayAddress => {.contractInstance, .earnings relayAddress}
  | .setFeeRate _ => {.contractInstance}

/-- **A call does what it does without lifetimes**, or fails because the batch or the relay that it
names has an expired entry. -/
theorem carries_dispatch (c : Call Address) :
    Carries (rent network) env (uses c) (uses c) (dispatch network env c)
      (FeeDistributor.dispatch env c) := by
  cases c with
  | initializeContract council feeRateBps treasuryShareBps treasury token =>
      refine (carries_bind (carries_body (by simp [uses]) (carries_lifted fun w a w' h k => ?_))
        fun _ => carries_pure).mono (by simp [uses])
      obtain ⟨-, -, -, rfl⟩ := FeeDistributor.returns_initializeContract.mp h
      cases k <;> rfl
  | calculateFee batchSize =>
      exact (carries_bind (carries_calculateFee (by simp [uses])) fun _ =>
        carries_pure).mono Set.subset_union_left
  | distribute relayAddress batchId batchSize =>
      exact (carries_bind (carries_distribute (by simp [uses]) (by simp [uses]) (by simp [uses]))
        fun _ => carries_pure).mono Set.subset_union_left
  | claim relayAddress =>
      exact (carries_bind (carries_claim (by simp [uses]) (by simp [uses]))
        fun _ => carries_pure).mono Set.subset_union_left
  | getEarnings relayAddress =>
      refine (carries_bind (carries_body (by simp [uses]) (carries_loadEarnings (by simp [uses])))
        fun _ => carries_pure).mono ?_
      rintro k (rfl | rfl) <;> simp
  | setFeeRate newFeeRateBps =>
      refine (carries_bind (carries_body (by simp [uses]) (carries_lifted fun w a w' h k => ?_))
        fun _ => carries_pure).mono (by simp [uses])
      obtain ⟨-, -, config, -, rfl⟩ := returns_setFeeRate.mp h
      cases k <;> rfl

end Carries

/-- The fee distributor with lifetimes. -/
def contract (Address X : Type) [DecidableEq Address] (network : Network) :
    LivingContract Address (Storage Address) (LedgerEntry Address) X (Event Address)
      ContractError Value (Call Address) Empty where
  rent := rent network
  dispatch := dispatch network
  plainDispatch := FeeDistributor.dispatch
  plainProvide := provide
  provides := Empty.elim
  footprint := uses
  uses := uses
  carries := fun _ => carries_dispatch
  provides_has := fun p => p.elim
  provides_frame := fun p => p.elim

/-! ## Runs

A call that was answered has used its entries, and leaves them alive for `kept` ledgers.  A later
call on the same relay that comes within these ledgers finds what it needs.
-/

/-- The distributor on the ledger of its deployment. -/
def freshState {Address X : Type} (network : Network) (deployedAt : U32) (x : X) :
    State Address X where
  storage :=
    { storage := Storage.fresh
      liveUntil := fun _ => deployedAt.val + (network.minTtl - 1) }
  outside := x
  events := []

/-- Every call uses the instance. -/
theorem contractInstance_mem_uses {Address : Type} (c : Call Address) :
    .contractInstance ∈ uses c := by
  cases c <;> simp [uses]

section Runs

variable {Address X : Type} [DecidableEq Address] {network : Network} {env : Env Address X}
  {relayAddress : Address} {c : Call Address}
  {as : List (Action Address X (Call Address) (Upkeep Empty (LedgerEntry Address)))}

/-- For `kept` ledgers after a call on a relay's earnings, calls on them are answered as if
nothing expired. -/
theorem earnings_kept {v : State Address X} {env' : Env Address X} {c' : Call Address} {a : Value}
    {r : Record (State Address X)
      (Action Address X (Call Address) (Upkeep Empty (LedgerEntry Address)))
      (Reply ContractError Value)}
    (order : LivingContract.Chronological as)
    (mem : r ∈ (contract Address X network).machine.trace v as)
    (action : r.action = .call env' c') (reply : r.reply = some (.ok a))
    (usesEarnings : .earnings relayAddress ∈ uses c')
    (onEarnings : uses c ⊆ {.contractInstance, .earnings relayAddress})
    (within : env.sequence.val ≤ env'.sequence.val + (rent network).kept)
    (fits : env.sequence.val + 518400 ≤ 4294967295) :
    let w := (contract Address X network).machine.run v as
    ((contract Address X network).machine.step w (.call env c)).1 =
        (FeeDistributor.machine.step w.erase (.call env c)).1 ∧
      ((contract Address X network).machine.step w (.call env c)).2.erase =
        (FeeDistributor.machine.step w.erase (.call env c)).2 := by
  refine (contract Address X network).alive_of_recent_use order
    (fun k hk _ => ⟨r, mem, _, ?_, within⟩) fits
  refine (contract Address X network).usedAt_of_mem_uses mem action reply ?_
  rcases onEarnings hk with rfl | rfl
  · exact contractInstance_mem_uses c'
  · exact usesEarnings

/-- A distributor that is initialised and pays relay 10 for a batch on ledger 90. -/
def sampleActions : List (Action ℕ Unit (Call ℕ) (Upkeep Empty (LedgerEntry ℕ))) :=
  [.call (openEnv 1 10 5) (.initializeContract ⟨[7], 1⟩ 50 1000 8 9),
    .call (openEnv 1 90 6) (.distribute 10 1 1000)]

/-- The record that is written on ledger 90 can be claimed on ledger 259290. -/
theorem earnings_kept_laterClaim :
    let w := (contract ℕ Unit Network.sample).machine.run (freshState Network.sample 0 ())
      sampleActions
    ((contract ℕ Unit Network.sample).machine.step w (.call (openEnv 1 259290 7) (.claim 10))).1 =
        (FeeDistributor.machine.step w.erase (.call (openEnv 1 259290 7) (.claim 10))).1 ∧
      ((contract ℕ Unit Network.sample).machine.step w
          (.call (openEnv 1 259290 7) (.claim 10))).2.erase =
        (FeeDistributor.machine.step w.erase (.call (openEnv 1 259290 7) (.claim 10))).2 := by
  have paid : .earnings 10 ∈ uses (.distribute 10 1 1000 : Call ℕ) := by simp [uses]
  exact earnings_kept (by decide) (List.mem_cons_of_mem _ List.mem_cons_self) rfl rfl paid
    (by simp [uses]) (by decide) (by decide)

end Runs
end Ttl
end StellarConduit.FeeDistributor
