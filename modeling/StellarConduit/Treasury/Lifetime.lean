import StellarConduit.Treasury.Transition
import StellarConduit.Soroban.Expiry

/-!
# The treasury and the lifetimes of its entries

The entry points of `treasury/src` with their calls to `extend_ttl`.  The history entries and
the spending programs are entries of their own, each with its last ledger; the balance, the
counters, the statistics and the configuration belong to the instance and live and expire with
it.

Every entry point begins by extending the instance.  The storage helpers do the rest: a
`get_…` extends what it finds, a `set_…` extends what it has written.  Nothing else of an entry
point is about lifetimes, so each is its counterpart in `Treasury.Contract` with the accesses to
entries replaced, and all that does not touch an entry is `lifted` as it stands.

A history entry is written once and afterwards only read, so one that nobody asks for expires,
and with it `get_history` for its number.  The balance and the programs do not depend on it.

## Main definitions

* `Ttl.footprint`, `Ttl.uses` — the entries that a call may use, and those that it uses for
  sure.  They differ where a call makes an entry under a number that it finds out.
* `Ttl.contract` — the treasury as a contract with lifetimes.

## Main results

* `Ttl.carries_dispatch` — a call does what it does without lifetimes, or an entry of its
  footprint has expired.
-/

namespace StellarConduit.Treasury

open Soroban Contract

/-- What has a lifetime: the instance, and the persistent entries under their keys. -/
inductive LedgerEntry where
  | contractInstance
  | entry (entryId : U64)
  | spendingProgram (programId : U64)
deriving DecidableEq

instance {Address : Type} : Entries (Storage Address) LedgerEntry where
  has s
    | .contractInstance => true
    | .entry entryId => (s.entry.get entryId).isSome
    | .spendingProgram programId => (s.spendingProgram.get programId).isSome

namespace Ttl

/-- Bump by ~30 days. -/
def ledgerBumpAmount : U32 := 518400

/-- Bump if remaining life is less than ~15 days. -/
def ledgerBumpThreshold : U32 := 259200

/-- What the contract asks of the network. -/
def rent (network : Network) : Rent where
  toNetwork := network
  threshold := ledgerBumpThreshold
  amount := ledgerBumpAmount
  threshold_le := by decide

/-- What the treasury sees of the chain, lifetimes included. -/
abbrev State (Address X : Type) : Type :=
  World (Living (Storage Address) LedgerEntry) X (Event Address)

/-- A computation of the treasury with lifetimes. -/
abbrev Computation (Address X α : Type) : Type := Contract (State Address X) ContractError α

section Code

variable {Address X : Type} (network : Network) (env : Env Address X)

/-! ## Storage helpers

History entries and programs are persistent entries of their own, and each helper extends what it
reads or writes.  The balance, the statistics, the counters, the council and the token are part
of the instance; the helpers for them are those of the contract without lifetimes, lifted.
-/

/-- `storage::extend_instance_ttl`. -/
def extendInstanceTtl : Computation Address X Unit :=
  extendTtl env .contractInstance (rent network)

/-- `storage::get_entry`: extends the entry that it finds. -/
def getEntry (entryId : U64) : Computation Address X (Option (TreasuryEntry Address)) :=
  loadEntry env (.entry entryId) (rent network) fun s => s.entry.get entryId

/-- `storage::set_entry`: the entry is written under the next number and extended; the counter is
part of the instance. -/
def setEntry (entry : TreasuryEntry Address) : Computation Address X Unit := do
  let count ← lifted getEntryCount
  let nextId ← plus count 1
  saveEntry env (.entry nextId) (rent network) fun s =>
    { s with entry := s.entry.set nextId entry }
  lifted (updateStorage fun s => { s with entryCount := some nextId })

/-- `storage::get_spending_program`: extends the program that it finds. -/
def getSpendingProgram (programId : U64) : Computation Address X (Option SpendingProgram) :=
  loadEntry env (.spendingProgram programId) (rent network) fun s =>
    s.spendingProgram.get programId

/-- `storage::set_spending_program`: writes and extends. -/
def setSpendingProgram (programId : U64) (program : SpendingProgram) :
    Computation Address X Unit :=
  saveEntry env (.spendingProgram programId) (rent network) fun s =>
    { s with spendingProgram := s.spendingProgram.set programId program }

/-! ## Entry points

The bodies are those of the contract without lifetimes, statement by statement, with the
extension of the instance in front and the helpers above in the place of theirs.  A step that
reads or writes neither a history entry nor a program is `lifted` as it is.
-/

/-- `get_balance`: the instance is extended, and the balance read. -/
def getBalance : Computation Address X I128 := do
  extendInstanceTtl network env
  lifted Treasury.getBalance

/-- `get_history`: a missing entry is answered with `ProgramNotFound`, as in the source; one that
has expired fails the whole invocation. -/
def getHistory (entryId : U64) : Computation Address X (TreasuryEntry Address) := do
  extendInstanceTtl network env
  okOr (← getEntry network env entryId) .programNotFound

/-- `initialize`. -/
def initializeContract (council : AdminCouncil Address) (tokenAddress : Address) :
    Computation Address X Unit := do
  extendInstanceTtl network env
  lifted (Treasury.initializeContract council tokenAddress)

/-- `deposit`, with the history entry as the one that is made. -/
def deposit (fromAddress : Address) (amount : I128) : Computation Address X Unit := do
  extendInstanceTtl network env
  requireAuth env fromAddress
  rejectIf (amount ≤ 0) .invalidAmount
  let balance ← lifted loadBalance
  let newBalance ← okOr (balance.checkedAdd amount) .overflow
  lifted (setBalance newBalance)
  let stats ← lifted getStats
  let lifetimeDeposited ← okOr (stats.lifetimeDeposited.checkedAdd amount) .overflow
  lifted (setStats { stats with lifetimeDeposited := lifetimeDeposited })
  setEntry network env
    { kind := .deposit
      amount := amount
      actor := fromAddress
      recipient := none
      memo := HostString.fromStr "deposit"
      ledger := env.sequence.cast }
  let token ← lifted getTokenAddress
  tokenTransfer env token fromAddress env.currentContract amount
  publish (.deposit fromAddress amount)

/-- `withdraw`, with the history entry as the one that is made. -/
def withdraw (toAddress : Address) (amount : I128) (memo : HostString) :
    Computation Address X Unit := do
  extendInstanceTtl network env
  lifted (requireCouncilAuth env)
  rejectIf (amount ≤ 0) .invalidAmount
  let balance ← lifted loadBalance
  rejectIf (balance < amount) .insufficientBalance
  let newBalance ← okOr (balance.checkedSub amount) .overflow
  lifted (setBalance newBalance)
  let stats ← lifted getStats
  let lifetimeWithdrawn ← okOr (stats.lifetimeWithdrawn.checkedAdd amount) .overflow
  lifted (setStats { stats with lifetimeWithdrawn := lifetimeWithdrawn })
  setEntry network env
    { kind := .withdrawal
      amount := amount
      actor := env.currentContract
      recipient := some toAddress
      memo := memo
      ledger := env.sequence.cast }
  let token ← lifted getTokenAddress
  tokenTransfer env token env.currentContract toAddress amount
  publish (.withdraw toAddress amount memo)

/-- `create_program`, with the program as the entry that is made. -/
def createProgram (name : HostString) (budget : I128) : Computation Address X U64 := do
  extendInstanceTtl network env
  lifted (requireCouncilAuth env)
  rejectIf (budget ≤ 0) .invalidAmount
  rejectIf (name.len < 3 ∨ name.len > 64) .invalidProgramName
  let programId ← lifted incrementProgramCount
  setSpendingProgram network env programId
    { programId := programId
      budget := budget
      spent := 0
      active := true
      name := name }
  publish (.createProgram programId name budget)
  pure programId

/-- `update_program_budget`: the program is found, and written again. -/
def updateProgramBudget (programId : U64) (newBudget : I128) : Computation Address X Unit := do
  extendInstanceTtl network env
  lifted (requireCouncilAuth env)
  let program ← okOr (← getSpendingProgram network env programId) .programNotFound
  rejectIf (newBudget < program.spent) .invalidAmount
  setSpendingProgram network env programId { program with budget := newBudget }
  publish (.updateBudget programId newBudget)

/-- `deactivate_program`: the program is found, and written again. -/
def deactivateProgram (programId : U64) : Computation Address X Unit := do
  extendInstanceTtl network env
  lifted (requireCouncilAuth env)
  let program ← okOr (← getSpendingProgram network env programId) .programNotFound
  setSpendingProgram network env programId { program with active := false }
  publish (.deactivateProgram programId)

/-- `get_program`. -/
def getProgram (programId : U64) : Computation Address X SpendingProgram := do
  extendInstanceTtl network env
  okOr (← getSpendingProgram network env programId) .programNotFound

/-- `allocate`: the program is found and written again, and a history entry made. -/
def allocate (programId : U64) (amount : I128) : Computation Address X Unit := do
  extendInstanceTtl network env
  lifted (requireCouncilAuth env)
  rejectIf (amount ≤ 0) .invalidAmount
  let program ← okOr (← getSpendingProgram network env programId) .programNotFound
  rejectIf (program.active = false) .programInactive
  let newSpent ← okOr (program.spent.checkedAdd amount) .overflow
  rejectIf (newSpent > program.budget) .programOverBudget
  let balance ← lifted loadBalance
  rejectIf (balance < amount) .insufficientBalance
  setSpendingProgram network env programId { program with spent := newSpent }
  let newBalance ← okOr (balance.checkedSub amount) .overflow
  lifted (setBalance newBalance)
  let stats ← lifted getStats
  let lifetimeAllocated ← okOr (stats.lifetimeAllocated.checkedAdd amount) .overflow
  lifted (setStats { stats with lifetimeAllocated := lifetimeAllocated })
  setEntry network env
    { kind := .allocation
      amount := amount
      actor := env.currentContract
      recipient := none
      memo := HostString.fromStr "allocation"
      ledger := env.sequence.cast }
  publish (.allocate programId amount)

/-- `get_treasury_stats`. -/
def getTreasuryStats : Computation Address X TreasuryStats := do
  extendInstanceTtl network env
  lifted Treasury.getTreasuryStats

/-- Run the entry point a call names. -/
def dispatch : Call Address → Computation Address X (Value Address)
  | .getBalance => do
      let balance ← getBalance network env
      pure (.amount balance)
  | .getHistory entryId => do
      let entry ← getHistory network env entryId
      pure (.entry entry)
  | .initializeContract council tokenAddress => do
      initializeContract network env council tokenAddress
      pure .unit
  | .deposit fromAddress amount => do
      deposit network env fromAddress amount
      pure .unit
  | .withdraw toAddress amount memo => do
      withdraw network env toAddress amount memo
      pure .unit
  | .createProgram name budget => do
      let programId ← createProgram network env name budget
      pure (.programId programId)
  | .updateProgramBudget programId newBudget => do
      updateProgramBudget network env programId newBudget
      pure .unit
  | .deactivateProgram programId => do
      deactivateProgram network env programId
      pure .unit
  | .getProgram programId => do
      let program ← getProgram network env programId
      pure (.program program)
  | .allocate programId amount => do
      allocate network env programId amount
      pure .unit
  | .getTreasuryStats => do
      let stats ← getTreasuryStats network env
      pure (.stats stats)

end Code

/-! ## The entry points carry those without lifetimes

One rule for each helper.  An entry point is then a chain of `carries_bind`, with a footprint
that its arguments decide, apart from the number that a new history entry or a new program gets:
that number is read from a counter, so all entries of the kind are in the footprint, and none of
them is known to be used.
-/

section Carries

variable {Address X : Type} {network : Network} {env : Env Address X} {F : Set LedgerEntry}
  {programId : U64}

/-- What does not touch the two stores makes or removes no entry. -/
theorem carries_unkeyed {α : Type} {x : Treasury.Computation Address X α}
    (keeps : ∀ w a w', Returns x w a w' →
      w'.storage.entry = w.storage.entry ∧
        w'.storage.spendingProgram = w.storage.spendingProgram) :
    Carries (rent network) env F ∅ (lifted x) x := by
  refine carries_lifted fun w a w' h k => ?_
  obtain ⟨entry, spendingProgram⟩ := keeps w a w' h
  cases k with
  | contractInstance => rfl
  | entry entryId => simp only [Entries.has, entry]
  | spendingProgram programId => simp only [Entries.has, spendingProgram]

/-- What only reads makes or removes no entry. -/
theorem carries_reads {α : Type} {x : Treasury.Computation Address X α}
    (reads : ∀ w a w', Returns x w a w' → w' = w) : Carries (rent network) env F ∅ (lifted x) x :=
  carries_unkeyed fun w a w' h => by
    rw [reads w a w' h]
    exact ⟨rfl, rfl⟩

/-- An entry point is the extension of the instance, and then its body. -/
theorem carries_body {α : Type} {y' : Computation Address X α}
    {y : Treasury.Computation Address X α} {T : Set LedgerEntry}
    (mem : .contractInstance ∈ F) (body : Carries (rent network) env F T y' y) :
    Carries (rent network) env F ({.contractInstance} ∪ T)
      (extendInstanceTtl network env >>= fun _ => y') y :=
  carries_entryPoint mem (fun _ => rfl) body

/-- A history entry gets a number that only the call finds out, so all history entries are in the
footprint, and none is known to be used. -/
theorem carries_setEntry {entry : TreasuryEntry Address} (mem : ∀ id, .entry id ∈ F) :
    Carries (rent network) env F ∅ (setEntry network env entry)
      (Treasury.setEntry (X := X) entry) := by
  have count : Carries (rent network) env F ∅
      (lifted (getEntryCount : Treasury.Computation Address X U64)) getEntryCount :=
    carries_reads fun w a w' h => (returns_loadStorage.mp h).2
  have save (id : U64) : Carries (rent network) env F {.entry id}
      (saveEntry env (.entry id) (rent network) fun s => { s with entry := s.entry.set id entry })
      (updateStorage fun s => { s with entry := s.entry.set id entry } :
        Treasury.Computation Address X Unit) := by
    refine carries_saveEntry (mem id) (fun s => ?_) fun s k hk => ?_
    · simp [Entries.has]
    · cases k with
      | contractInstance => rfl
      | entry j =>
          have other : j ≠ id := fun same => hk (congrArg LedgerEntry.entry same)
          simp only [Entries.has, Store.get_set_of_ne _ _ other]
      | spendingProgram j => rfl
  -- The number is read from the counter, so the footprint has to hold whatever it is.
  refine (carries_bind count fun _ => carries_bind carries_plus fun id =>
    (?_ : Carries _ _ F ∅ _ _)).mono (Set.empty_subset _)
  refine (carries_bind (save id) fun _ => carries_unkeyed fun w a w' h => ?_).mono
    (Set.empty_subset _)
  rw [returns_updateStorage.mp h]
  exact ⟨rfl, rfl⟩

/-- Reading a program uses its entry. -/
theorem carries_getSpendingProgram (mem : .spendingProgram programId ∈ F) :
    Carries (rent network) env F {.spendingProgram programId}
      (getSpendingProgram network env programId)
      (Treasury.getSpendingProgram programId :
        Treasury.Computation Address X (Option SpendingProgram)) :=
  carries_loadEntry mem fun _ => rfl

/-- Writing a program uses its entry, and leaves the others alone. -/
theorem carries_setSpendingProgram {program : SpendingProgram}
    (mem : .spendingProgram programId ∈ F) :
    Carries (rent network) env F {.spendingProgram programId}
      (setSpendingProgram network env programId program)
      (Treasury.setSpendingProgram programId program : Treasury.Computation Address X Unit) := by
  refine carries_saveEntry mem (fun s => ?_) fun s k hk => ?_
  · simp [Entries.has]
  · cases k with
    | contractInstance => rfl
    | entry j => rfl
    | spendingProgram j =>
        have other : j ≠ programId := fun same => hk (congrArg LedgerEntry.spendingProgram same)
        simp only [Entries.has, Store.get_set_of_ne _ _ other]

/-- The balance belongs to the instance. -/
theorem carries_loadBalance :
    Carries (rent network) env F ∅ (lifted (loadBalance : Treasury.Computation Address X I128))
      loadBalance :=
  carries_reads fun _ _ _ h => (returns_loadBalance.mp h).2

/-- So it does when it is written. -/
theorem carries_setBalance {balance : I128} :
    Carries (rent network) env F ∅
      (lifted (setBalance balance : Treasury.Computation Address X Unit)) (setBalance balance) :=
  carries_unkeyed fun w a w' h => by
    rw [returns_setBalance.mp h]
    exact ⟨rfl, rfl⟩

/-- The statistics belong to the instance. -/
theorem carries_getStats :
    Carries (rent network) env F ∅
      (lifted (getStats : Treasury.Computation Address X TreasuryStats)) getStats :=
  carries_reads fun _ _ _ h => (returns_getStats.mp h).2

/-- So they do when they are written. -/
theorem carries_setStats {stats : TreasuryStats} :
    Carries (rent network) env F ∅ (lifted (setStats stats : Treasury.Computation Address X Unit))
      (setStats stats) :=
  carries_unkeyed fun w a w' h => by
    rw [returns_setStats.mp h]
    exact ⟨rfl, rfl⟩

/-- The address of the token belongs to the instance. -/
theorem carries_getTokenAddress :
    Carries (rent network) env F ∅
      (lifted (getTokenAddress : Treasury.Computation Address X Address)) getTokenAddress :=
  carries_reads fun _ _ _ h => (returns_getTokenAddress.mp h).2

/-- The council gate reads the council, which belongs to the instance, and asks the host. -/
theorem carries_requireCouncilAuth :
    Carries (rent network) env F ∅ (lifted (requireCouncilAuth env)) (requireCouncilAuth env) :=
  carries_reads fun _ _ _ h => (returns_requireCouncilAuth.mp h).2

/-- A deposit uses the instance, and makes one history entry. -/
theorem carries_deposit {fromAddress : Address} {amount : I128} (inst : .contractInstance ∈ F)
    (entries : ∀ id, .entry id ∈ F) :
    Carries (rent network) env F {.contractInstance} (deposit network env fromAddress amount)
      (Treasury.deposit env fromAddress amount) :=
  (carries_body inst
    (carries_bind carries_requireAuth fun _ =>
      carries_bind carries_rejectIf fun _ =>
      carries_bind carries_loadBalance fun _ =>
      carries_bind carries_okOr fun _ =>
      carries_bind carries_setBalance fun _ =>
      carries_bind carries_getStats fun _ =>
      carries_bind carries_okOr fun _ =>
      carries_bind carries_setStats fun _ =>
      carries_bind (carries_setEntry entries) fun _ =>
      carries_bind carries_getTokenAddress fun _ =>
      carries_bind carries_callContract fun _ => carries_publish)).mono Set.subset_union_left

/-- A withdrawal uses the instance, and makes one history entry. -/
theorem carries_withdraw {toAddress : Address} {amount : I128} {memo : HostString}
    (inst : .contractInstance ∈ F) (entries : ∀ id, .entry id ∈ F) :
    Carries (rent network) env F {.contractInstance} (withdraw network env toAddress amount memo)
      (Treasury.withdraw env toAddress amount memo) :=
  (carries_body inst
    (carries_bind carries_requireCouncilAuth fun _ =>
      carries_bind carries_rejectIf fun _ =>
      carries_bind carries_loadBalance fun _ =>
      carries_bind carries_rejectIf fun _ =>
      carries_bind carries_okOr fun _ =>
      carries_bind carries_setBalance fun _ =>
      carries_bind carries_getStats fun _ =>
      carries_bind carries_okOr fun _ =>
      carries_bind carries_setStats fun _ =>
      carries_bind (carries_setEntry entries) fun _ =>
      carries_bind carries_getTokenAddress fun _ =>
      carries_bind carries_callContract fun _ => carries_publish)).mono Set.subset_union_left

/-- Creating a program uses the instance, and makes one program. -/
theorem carries_createProgram {name : HostString} {budget : I128} (inst : .contractInstance ∈ F)
    (programs : ∀ id, .spendingProgram id ∈ F) :
    Carries (rent network) env F {.contractInstance} (createProgram network env name budget)
      (Treasury.createProgram env name budget) := by
  -- The counter belongs to the instance. The program has the number that it gives, so it is in
  -- the footprint as one of all programs.
  have number : Carries (rent network) env F ∅
      (lifted (incrementProgramCount : Treasury.Computation Address X U64)) incrementProgramCount :=
    carries_unkeyed fun w a w' h => by
      obtain ⟨-, rfl⟩ := returns_incrementProgramCount.mp h
      exact ⟨rfl, rfl⟩
  exact (carries_body inst
    (carries_bind carries_requireCouncilAuth fun _ =>
      carries_bind carries_rejectIf fun _ =>
      carries_bind carries_rejectIf fun _ =>
      carries_bind number fun id =>
      ((carries_bind (carries_setSpendingProgram (programs id)) fun _ =>
        carries_bind carries_publish fun _ => carries_pure).mono
          (Set.empty_subset _) : Carries _ _ F ∅ _ _))).mono Set.subset_union_left

/-- A change of a budget uses the instance and the program. -/
theorem carries_updateProgramBudget {newBudget : I128} (inst : .contractInstance ∈ F)
    (program : .spendingProgram programId ∈ F) :
    Carries (rent network) env F {.contractInstance, .spendingProgram programId}
      (updateProgramBudget network env programId newBudget)
      (Treasury.updateProgramBudget env programId newBudget) := by
  refine (carries_body inst
    (carries_bind carries_requireCouncilAuth fun _ =>
      carries_bind (carries_getSpendingProgram program) fun _ =>
      carries_bind carries_okOr fun _ =>
      carries_bind carries_rejectIf fun _ =>
      carries_bind (carries_setSpendingProgram program) fun _ => carries_publish)).mono ?_
  rintro k (rfl | rfl) <;> simp

/-- A deactivation uses the instance and the program. -/
theorem carries_deactivateProgram (inst : .contractInstance ∈ F)
    (program : .spendingProgram programId ∈ F) :
    Carries (rent network) env F {.contractInstance, .spendingProgram programId}
      (deactivateProgram network env programId) (Treasury.deactivateProgram env programId) := by
  refine (carries_body inst
    (carries_bind carries_requireCouncilAuth fun _ =>
      carries_bind (carries_getSpendingProgram program) fun _ =>
      carries_bind carries_okOr fun _ =>
      carries_bind (carries_setSpendingProgram program) fun _ => carries_publish)).mono ?_
  rintro k (rfl | rfl) <;> simp

/-- An allocation uses the instance and the program, and makes one history entry. -/
theorem carries_allocate {amount : I128} (inst : .contractInstance ∈ F)
    (entries : ∀ id, .entry id ∈ F) (program : .spendingProgram programId ∈ F) :
    Carries (rent network) env F {.contractInstance, .spendingProgram programId}
      (allocate network env programId amount) (Treasury.allocate env programId amount) := by
  refine (carries_body inst
    (carries_bind carries_requireCouncilAuth fun _ =>
      carries_bind carries_rejectIf fun _ =>
      carries_bind (carries_getSpendingProgram program) fun _ =>
      carries_bind carries_okOr fun _ =>
      carries_bind carries_rejectIf fun _ =>
      carries_bind carries_okOr fun _ =>
      carries_bind carries_rejectIf fun _ =>
      carries_bind carries_loadBalance fun _ =>
      carries_bind carries_rejectIf fun _ =>
      carries_bind (carries_setSpendingProgram program) fun _ =>
      carries_bind carries_okOr fun _ =>
      carries_bind carries_setBalance fun _ =>
      carries_bind carries_getStats fun _ =>
      carries_bind carries_okOr fun _ =>
      carries_bind carries_setStats fun _ =>
      carries_bind (carries_setEntry entries) fun _ => carries_publish)).mono ?_
  rintro k (rfl | rfl) <;> simp

/-- The entries that a call may use.  Those that it makes have numbers that it finds out. -/
def footprint : Call Address → Set LedgerEntry
  | .getBalance => {.contractInstance}
  | .getHistory entryId => {.contractInstance, .entry entryId}
  | .initializeContract .. => {.contractInstance}
  | .deposit .. => {.contractInstance} ∪ Set.range .entry
  | .withdraw .. => {.contractInstance} ∪ Set.range .entry
  | .createProgram .. => {.contractInstance} ∪ Set.range .spendingProgram
  | .updateProgramBudget programId _ => {.contractInstance, .spendingProgram programId}
  | .deactivateProgram programId => {.contractInstance, .spendingProgram programId}
  | .getProgram programId => {.contractInstance, .spendingProgram programId}
  | .allocate programId _ => {.contractInstance, .spendingProgram programId} ∪ Set.range .entry
  | .getTreasuryStats => {.contractInstance}

/-- The entries that a call uses for sure. -/
def uses : Call Address → Set LedgerEntry
  | .getHistory entryId => {.contractInstance, .entry entryId}
  | .updateProgramBudget programId _ => {.contractInstance, .spendingProgram programId}
  | .deactivateProgram programId => {.contractInstance, .spendingProgram programId}
  | .getProgram programId => {.contractInstance, .spendingProgram programId}
  | .allocate programId _ => {.contractInstance, .spendingProgram programId}
  | _ => {.contractInstance}

/-- Every call, with what it may use and what it does use. -/
theorem carries_dispatch (c : Call Address) :
    Carries (rent network) env (footprint c) (uses c) (dispatch network env c)
      (Treasury.dispatch env c) := by
  -- Every entry point extends the instance first.
  have inst : LedgerEntry.contractInstance ∈ footprint c := by
    cases c <;> simp [footprint]
  cases c with
  | getBalance =>
      exact (carries_bind (carries_body inst carries_loadBalance) fun _ => carries_pure).mono
        (by simp [uses])
  | getHistory entryId =>
      refine (carries_bind (carries_body inst
        (carries_bind (carries_loadEntry (by simp [footprint]) fun _ => rfl) fun _ =>
          carries_okOr)) fun _ => carries_pure).mono ?_
      rintro k (rfl | rfl) <;> simp
  | initializeContract council tokenAddress =>
      refine (carries_bind (carries_body inst (carries_unkeyed fun w a w' h => ?_))
        fun _ => carries_pure).mono (by simp [uses])
      obtain ⟨-, -, rfl⟩ := returns_initializeContract.mp h
      exact ⟨rfl, rfl⟩
  | deposit fromAddress amount =>
      exact (carries_bind (carries_deposit inst (by simp [footprint])) fun _ => carries_pure).mono
        Set.subset_union_left
  | withdraw toAddress amount memo =>
      exact (carries_bind (carries_withdraw inst (by simp [footprint])) fun _ => carries_pure).mono
        Set.subset_union_left
  | createProgram name budget =>
      exact (carries_bind (carries_createProgram inst (by simp [footprint]))
        fun _ => carries_pure).mono Set.subset_union_left
  | updateProgramBudget programId newBudget =>
      exact (carries_bind (carries_updateProgramBudget inst (by simp [footprint]))
        fun _ => carries_pure).mono Set.subset_union_left
  | deactivateProgram programId =>
      exact (carries_bind (carries_deactivateProgram inst (by simp [footprint]))
        fun _ => carries_pure).mono Set.subset_union_left
  | getProgram programId =>
      refine (carries_bind (carries_body inst
        (carries_bind (carries_getSpendingProgram (by simp [footprint])) fun _ =>
          carries_okOr)) fun _ => carries_pure).mono ?_
      rintro k (rfl | rfl) <;> simp
  | allocate programId amount =>
      exact (carries_bind (carries_allocate inst (by simp [footprint]) (by simp [footprint]))
        fun _ => carries_pure).mono Set.subset_union_left
  | getTreasuryStats =>
      refine (carries_bind (carries_body inst (carries_reads fun w a w' h => ?_))
        fun _ => carries_pure).mono (by simp [uses])
      exact (returns_getTreasuryStats.mp h).2

end Carries

/-- The treasury with lifetimes.  It has no records that are set from outside its entry points. -/
def contract (Address X : Type) (network : Network) :
    LivingContract Address (Storage Address) LedgerEntry X (Event Address) ContractError
      (Value Address) (Call Address) Empty where
  rent := rent network
  dispatch := dispatch network
  plainDispatch := Treasury.dispatch
  plainProvide := provide
  provides := Empty.elim
  footprint := footprint
  uses := uses
  carries := fun _ => carries_dispatch
  provides_has := fun p => p.elim
  provides_frame := fun p => p.elim

end Ttl
end StellarConduit.Treasury
