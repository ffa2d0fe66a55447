import StellarConduit.Treasury.Contract

/-!
# What each treasury entry point does when it returns

One equivalence for each entry point, `returns_` and its name: the call returns this value in
that world if and only if these conditions hold of the world before, and then the world after
is this one.  It says all that there is to say about a call that succeeds, so the later modules
rewrite with it and never unfold an entry point.  The storage helpers come first, with one
equivalence each for the simplifier; an entry point's own is then what `simp` makes of its body.

Machine integers are read through `val` in these statements.  A checked operation returns the
value that has the right `val` if there is one, so what the source checks for overflow shows as
the existence of such a value: `newBalance.val = balance.val + amount.val`.

The three money calls rewrite the same four records: balance, statistics, counter and entry
map.  `Outcome` sums up what a call can do, for the proofs that are about these four records
only.

## Main definitions

* `CouncilPasses` — the stored council lets the call through.
* `depositEntry`, `withdrawalEntry`, `allocationEntry` — the history entries that are made.
* `Reads`, `Posts` — the calls that only read, and those that append to the history.
* `Outcome` — what a call does to the books when it returns.

## Main results

* `returns_deposit`, `returns_withdraw`, `returns_allocate`, … — the entry points.
* `outcome_of_returns` — the calls of an initialized treasury have such an outcome.
-/

namespace StellarConduit.Treasury

open Soroban Contract

variable {Address X : Type} {env : Env Address X} {w w' : State Address X} {u : Unit}

/-! ## Storage helpers -/

/-- A balance that was never written is zero. -/
@[simp] theorem returns_loadBalance {r : I128} :
    Returns loadBalance w r w' ↔ r = w.storage.balance.getD 0 ∧ w' = w := returns_loadStorage

/-- The balance is replaced, and nothing else. -/
@[simp] theorem returns_setBalance {balance : I128} :
    Returns (setBalance balance) w u w' ↔
      w' = { w with storage := { w.storage with balance := some balance } } :=
  returns_updateStorage

/-- Statistics that were never written are zeros. -/
@[simp] theorem returns_getStats {r : TreasuryStats} :
    Returns getStats w r w' ↔ r = w.storage.stats.getD TreasuryStats.zero ∧ w' = w :=
  returns_loadStorage

/-- The statistics are replaced, and nothing else. -/
@[simp] theorem returns_setStats {stats : TreasuryStats} :
    Returns (setStats stats) w u w' ↔
      w' = { w with storage := { w.storage with stats := some stats } } :=
  returns_updateStorage

/-- A lookup in the history changes nothing. -/
@[simp] theorem returns_getEntry {id : U64} {r : Option (TreasuryEntry Address)} :
    Returns (getEntry id) w r w' ↔ r = w.storage.entry.get id ∧ w' = w := returns_loadStorage

/-- A lookup of a program changes nothing. -/
@[simp] theorem returns_getSpendingProgram {id : U64} {r : Option SpendingProgram} :
    Returns (getSpendingProgram id) w r w' ↔ r = w.storage.spendingProgram.get id ∧ w' = w :=
  returns_loadStorage

/-- The program under the number is replaced, or made. -/
@[simp] theorem returns_setSpendingProgram {id : U64} {program : SpendingProgram} :
    Returns (setSpendingProgram id program) w u w' ↔
      w' = { w with storage := { w.storage with
        spendingProgram := w.storage.spendingProgram.set id program } } :=
  returns_updateStorage

/-- Without a token, the source panics. -/
@[simp] theorem returns_getTokenAddress {r : Address} :
    Returns getTokenAddress w r w' ↔ w.storage.tokenAddress = some r ∧ w' = w := by
  simp [getTokenAddress, returns_bind, and_assoc]

/-- Without a council, the source panics. -/
@[simp] theorem returns_getAdminCouncil {r : AdminCouncil Address} :
    Returns getAdminCouncil w r w' ↔ w.storage.adminCouncil = some r ∧ w' = w := by
  simp [getAdminCouncil, returns_bind, and_assoc]

/-- The entry goes under the next number, if there is one. -/
@[simp] theorem returns_setEntry {entry : TreasuryEntry Address} :
    Returns (setEntry entry) w u w' ↔
      ∃ nextId : U64, nextId.val = (w.storage.entryCount.getD 0).val + 1 ∧
        w' = { w with storage := { w.storage with
          entry := w.storage.entry.set nextId entry
          entryCount := some nextId } } := by
  have one : (1 : U64).val = 1 := rfl
  simp [setEntry, getEntryCount, returns_bind, one, and_assoc]

/-- The next number is stored and returned, if there is one. -/
@[simp] theorem returns_incrementProgramCount {r : U64} :
    Returns incrementProgramCount w r w' ↔
      r.val = (w.storage.programCount.getD 0).val + 1 ∧
        w' = { w with storage := { w.storage with programCount := some r } } := by
  have one : (1 : U64).val = 1 := rfl
  simp [incrementProgramCount, getProgramCount, returns_bind, one, and_assoc]

/-! ## Configuration and views -/

/-- `initialize` returns once, and for an acceptable council. It sets the balance to zero whatever
the treasury may hold. -/
theorem returns_initializeContract {council : AdminCouncil Address} {tokenAddress : Address} :
    Returns (initializeContract council tokenAddress) w u w' ↔
      w.storage.adminCouncil = none ∧ ¬ council.Invalid ∧
        w' = { w with storage := { w.storage with
          adminCouncil := some council
          tokenAddress := some tokenAddress
          balance := some 0 } } := by
  simp [initializeContract, returns_bind, and_assoc]

/-- The gate passes in the world `w`: the stored council lets the call through. -/
def CouncilPasses (env : Env Address X) (w : State Address X) : Prop :=
  ∃ council, w.storage.adminCouncil = some council ∧
    Returns (requireAuthOfCouncil (ε := ContractError) env council) w () w

/-- The gate has no effect when it passes. -/
@[simp] theorem returns_requireCouncilAuth :
    Returns (requireCouncilAuth env) w u w' ↔ CouncilPasses env w ∧ w' = w := by
  simp only [requireCouncilAuth, CouncilPasses, returns_bind, returns_getAdminCouncil]
  constructor
  · rintro ⟨council, _, ⟨hcouncil, rfl⟩, h⟩
    obtain rfl := requireAuthOfCouncil_world h
    exact ⟨⟨council, hcouncil, h⟩, rfl⟩
  · rintro ⟨⟨council, hcouncil, h⟩, rfl⟩
    exact ⟨council, w', ⟨hcouncil, rfl⟩, h⟩

/-- `get_balance` reads the stored balance, not the token's. -/
theorem returns_getBalance {r : I128} :
    Returns getBalance w r w' ↔ r = w.storage.balance.getD 0 ∧ w' = w := returns_loadBalance

/-- `get_history` returns the entry under the number. -/
theorem returns_getHistory {id : U64} {r : TreasuryEntry Address} :
    Returns (getHistory id) w r w' ↔ w.storage.entry.get id = some r ∧ w' = w := by
  simp [getHistory, returns_bind, and_assoc]

/-- `get_program` returns the program under the number. -/
theorem returns_getProgram {id : U64} {r : SpendingProgram} :
    Returns (getProgram id) w r w' ↔ w.storage.spendingProgram.get id = some r ∧ w' = w := by
  simp [getProgram, returns_bind, and_assoc]

/-- `get_treasury_stats` fills in the balance of the moment. -/
theorem returns_getTreasuryStats {r : TreasuryStats} :
    Returns getTreasuryStats w r w' ↔
      r = { w.storage.stats.getD TreasuryStats.zero with
        currentBalance := w.storage.balance.getD 0 } ∧ w' = w := by
  simp [getTreasuryStats, returns_bind, and_assoc]

/-! ## Programs -/

/-- `create_program` makes an active program with nothing spent, under the next number. -/
theorem returns_createProgram {name : HostString} {budget : I128} {r : U64} :
    Returns (createProgram env name budget) w r w' ↔
      CouncilPasses env w ∧ 0 < budget.val ∧ ¬ (name.len < 3 ∨ name.len > 64) ∧
        r.val = (w.storage.programCount.getD 0).val + 1 ∧
        w' = { w with
          storage := { w.storage with
            programCount := some r
            spendingProgram := w.storage.spendingProgram.set r
              { programId := r, budget := budget, spent := 0, active := true, name := name } }
          events := w.events ++ [.createProgram r name budget] } := by
  simp [createProgram, returns_bind, and_assoc]

/-- `update_program_budget` keeps the budget at what has been spent, or above. -/
theorem returns_updateProgramBudget {id : U64} {newBudget : I128} :
    Returns (updateProgramBudget env id newBudget) w u w' ↔
      CouncilPasses env w ∧ ∃ program, w.storage.spendingProgram.get id = some program ∧
        program.spent.val ≤ newBudget.val ∧
        w' = { w with
          storage := { w.storage with
            spendingProgram := w.storage.spendingProgram.set id
              { program with budget := newBudget } }
          events := w.events ++ [.updateBudget id newBudget] } := by
  simp [updateProgramBudget, returns_bind, and_assoc]

/-- `deactivate_program` accepts a program that is inactive already. -/
theorem returns_deactivateProgram {id : U64} :
    Returns (deactivateProgram env id) w u w' ↔
      CouncilPasses env w ∧ ∃ program, w.storage.spendingProgram.get id = some program ∧
        w' = { w with
          storage := { w.storage with
            spendingProgram := w.storage.spendingProgram.set id { program with active := false } }
          events := w.events ++ [.deactivateProgram id] } := by
  simp [deactivateProgram, returns_bind, and_assoc]

/-! ## Money calls -/

/-- The history entry of a deposit. -/
def depositEntry (env : Env Address X) (fromAddress : Address) (amount : I128) :
    TreasuryEntry Address where
  kind := .deposit
  amount := amount
  actor := fromAddress
  recipient := none
  memo := HostString.fromStr "deposit"
  ledger := env.sequence.cast

/-- The history entry of a withdrawal. -/
def withdrawalEntry (env : Env Address X) (toAddress : Address) (amount : I128)
    (memo : HostString) : TreasuryEntry Address where
  kind := .withdrawal
  amount := amount
  actor := env.currentContract
  recipient := some toAddress
  memo := memo
  ledger := env.sequence.cast

/-- The history entry of an allocation. -/
def allocationEntry (env : Env Address X) (amount : I128) : TreasuryEntry Address where
  kind := .allocation
  amount := amount
  actor := env.currentContract
  recipient := none
  memo := HostString.fromStr "allocation"
  ledger := env.sequence.cast

/-- `deposit` returns if whoever pays has signed and the token moves the amount; balance, lifetime
total and history then grow together. -/
theorem returns_deposit {fromAddress : Address} {amount : I128} :
    Returns (deposit env fromAddress amount) w u w' ↔
      env.authorised fromAddress = true ∧ 0 < amount.val ∧
        ∃ newBalance : I128, newBalance.val = (w.storage.balance.getD 0).val + amount.val ∧
        ∃ deposited : I128, deposited.val =
          (w.storage.stats.getD TreasuryStats.zero).lifetimeDeposited.val + amount.val ∧
        ∃ nextId : U64, nextId.val = (w.storage.entryCount.getD 0).val + 1 ∧
        ∃ token, w.storage.tokenAddress = some token ∧
        ∃ x, env.invokeContract token "transfer"
            [.address fromAddress, .address env.currentContract, .i128 amount] w.outside =
              some x ∧
          w' =
            { storage := { w.storage with
                balance := some newBalance
                stats := some { w.storage.stats.getD TreasuryStats.zero with
                  lifetimeDeposited := deposited }
                entry := w.storage.entry.set nextId (depositEntry env fromAddress amount)
                entryCount := some nextId }
              outside := x
              events := w.events ++ [.deposit fromAddress amount] } := by
  simp [deposit, tokenTransfer, depositEntry, returns_bind, and_assoc]

/-- `withdraw` returns if the council passes and the token moves an amount that the balance
covers. -/
theorem returns_withdraw {toAddress : Address} {amount : I128} {memo : HostString} :
    Returns (withdraw env toAddress amount memo) w u w' ↔
      CouncilPasses env w ∧ 0 < amount.val ∧ amount.val ≤ (w.storage.balance.getD 0).val ∧
        ∃ newBalance : I128, newBalance.val = (w.storage.balance.getD 0).val - amount.val ∧
        ∃ withdrawn : I128, withdrawn.val =
          (w.storage.stats.getD TreasuryStats.zero).lifetimeWithdrawn.val + amount.val ∧
        ∃ nextId : U64, nextId.val = (w.storage.entryCount.getD 0).val + 1 ∧
        ∃ token, w.storage.tokenAddress = some token ∧
        ∃ x, env.invokeContract token "transfer"
            [.address env.currentContract, .address toAddress, .i128 amount] w.outside =
              some x ∧
          w' =
            { storage := { w.storage with
                balance := some newBalance
                stats := some { w.storage.stats.getD TreasuryStats.zero with
                  lifetimeWithdrawn := withdrawn }
                entry := w.storage.entry.set nextId (withdrawalEntry env toAddress amount memo)
                entryCount := some nextId }
              outside := x
              events := w.events ++ [.withdraw toAddress amount memo] } := by
  simp [withdraw, tokenTransfer, withdrawalEntry, returns_bind, and_assoc]

/-- `allocate` returns if the council passes, the program is active and its budget allows for the
amount. No token moves. -/
theorem returns_allocate {id : U64} {amount : I128} :
    Returns (allocate env id amount) w u w' ↔
      CouncilPasses env w ∧ 0 < amount.val ∧
        ∃ program, w.storage.spendingProgram.get id = some program ∧ program.active = true ∧
        ∃ newSpent : I128, newSpent.val = program.spent.val + amount.val ∧
        newSpent.val ≤ program.budget.val ∧
        amount.val ≤ (w.storage.balance.getD 0).val ∧
        ∃ newBalance : I128, newBalance.val = (w.storage.balance.getD 0).val - amount.val ∧
        ∃ allocated : I128, allocated.val =
          (w.storage.stats.getD TreasuryStats.zero).lifetimeAllocated.val + amount.val ∧
        ∃ nextId : U64, nextId.val = (w.storage.entryCount.getD 0).val + 1 ∧
          w' = { w with
            storage := { w.storage with
              spendingProgram := w.storage.spendingProgram.set id { program with spent := newSpent }
              balance := some newBalance
              stats := some { w.storage.stats.getD TreasuryStats.zero with
                lifetimeAllocated := allocated }
              entry := w.storage.entry.set nextId (allocationEntry env amount)
              entryCount := some nextId }
            events := w.events ++ [.allocate id amount] } := by
  simp [allocate, allocationEntry, returns_bind, and_assoc]

/-! ## Outcomes -/

/-- The calls that only read. -/
def Reads : Call Address → Prop
  | .getBalance | .getHistory _ | .getProgram _ | .getTreasuryStats => True
  | _ => False

/-- A call that only reads leaves the world as it was. -/
theorem world_eq_of_reads {c : Call Address} {v : Value Address}
    (h : Returns (dispatch env c) w v w') (reads : Reads c) : w' = w := by
  cases c with
  | getBalance =>
      obtain ⟨_, hcall, -⟩ := returns_bind_pure.mp h
      exact (returns_getBalance.mp hcall).2
  | getHistory entryId =>
      obtain ⟨_, hcall, -⟩ := returns_bind_pure.mp h
      exact (returns_getHistory.mp hcall).2
  | getProgram programId =>
      obtain ⟨_, hcall, -⟩ := returns_bind_pure.mp h
      exact (returns_getProgram.mp hcall).2
  | getTreasuryStats =>
      obtain ⟨_, hcall, -⟩ := returns_bind_pure.mp h
      exact (returns_getTreasuryStats.mp hcall).2
  | _ => exact reads.elim

/-- The calls that post to the history. -/
def Posts : Call Address → Prop
  | .deposit _ _ | .withdraw _ _ _ | .allocate _ _ => True
  | _ => False

/-- History, balance and statistics, council, token and the other contracts are
as they were. -/
structure BooksKept (w w' : State Address X) : Prop where
  /-- The balance. -/
  balance : w'.storage.balance = w.storage.balance
  /-- The lifetime totals. -/
  stats : w'.storage.stats = w.storage.stats
  /-- The number of history entries. -/
  entryCount : w'.storage.entryCount = w.storage.entryCount
  /-- The history. -/
  entry : w'.storage.entry = w.storage.entry
  /-- The council. -/
  adminCouncil : w'.storage.adminCouncil = w.storage.adminCouncil
  /-- The token. -/
  tokenAddress : w'.storage.tokenAddress = w.storage.tokenAddress
  /-- No other contract has been called. -/
  outside : w'.outside = w.outside

/-- Nothing is done to the books. -/
theorem BooksKept.refl (w : State Address X) : BooksKept w w := ⟨rfl, rfl, rfl, rfl, rfl, rfl, rfl⟩

/-- What a call of an initialized treasury does when it returns: it posts to the
history, or it keeps the books. -/
inductive Outcome (env : Env Address X) (w : State Address X) :
    Call Address → State Address X → Prop where
  /-- Tokens have come in. -/
  | deposit {fromAddress : Address} {amount : I128} {w' : State Address X}
      (h : Returns (deposit env fromAddress amount) w () w') :
      Outcome env w (.deposit fromAddress amount) w'
  /-- Tokens have gone out. -/
  | withdraw {toAddress : Address} {amount : I128} {memo : HostString} {w' : State Address X}
      (h : Returns (withdraw env toAddress amount memo) w () w') :
      Outcome env w (.withdraw toAddress amount memo) w'
  /-- A program has been given a part of the balance. -/
  | allocate {id : U64} {amount : I128} {w' : State Address X}
      (h : Returns (allocate env id amount) w () w') : Outcome env w (.allocate id amount) w'
  /-- Programs may have changed, or nothing has. -/
  | other {c : Call Address} {w' : State Address X} (quiet : ¬ Posts c) (kept : BooksKept w w') :
      Outcome env w c w'

/-- By cases on the call; only the first `initialize` has no such outcome. -/
theorem outcome_of_returns {c : Call Address} {v : Value Address}
    (initialized : w.storage.adminCouncil.isSome) (h : Returns (dispatch env c) w v w') :
    Outcome env w c w' := by
  cases c with
  | getBalance | getHistory entryId | getProgram programId | getTreasuryStats =>
      obtain rfl := world_eq_of_reads h trivial
      exact .other id (.refl _)
  | initializeContract council tokenAddress =>
      -- A second `initialize` answers `AlreadyInitialized`.
      obtain ⟨_, hcall, -⟩ := returns_bind_pure.mp h
      obtain ⟨hnone, -⟩ := returns_initializeContract.mp hcall
      rw [hnone] at initialized
      cases initialized
  | deposit fromAddress amount =>
      obtain ⟨_, hcall, -⟩ := returns_bind_pure.mp h
      exact .deposit hcall
  | withdraw toAddress amount memo =>
      obtain ⟨_, hcall, -⟩ := returns_bind_pure.mp h
      exact .withdraw hcall
  | createProgram name budget =>
      obtain ⟨_, hcall, -⟩ := returns_bind_pure.mp h
      obtain ⟨-, -, -, -, rfl⟩ := returns_createProgram.mp hcall
      exact .other id ⟨rfl, rfl, rfl, rfl, rfl, rfl, rfl⟩
  | updateProgramBudget programId newBudget =>
      obtain ⟨_, hcall, -⟩ := returns_bind_pure.mp h
      obtain ⟨-, program, -, -, rfl⟩ := returns_updateProgramBudget.mp hcall
      exact .other id ⟨rfl, rfl, rfl, rfl, rfl, rfl, rfl⟩
  | deactivateProgram programId =>
      obtain ⟨_, hcall, -⟩ := returns_bind_pure.mp h
      obtain ⟨-, program, -, rfl⟩ := returns_deactivateProgram.mp hcall
      exact .other id ⟨rfl, rfl, rfl, rfl, rfl, rfl, rfl⟩
  | allocate programId amount =>
      obtain ⟨_, hcall, -⟩ := returns_bind_pure.mp h
      exact .allocate hcall

/-- A call that returns leaves the council alone. -/
theorem Outcome.adminCouncil {c : Call Address} (h : Outcome env w c w') :
    w'.storage.adminCouncil = w.storage.adminCouncil := by
  cases h with
  | deposit h =>
      obtain ⟨-, -, _, -, _, -, _, -, _, -, _, -, rfl⟩ := returns_deposit.mp h
      rfl
  | withdraw h =>
      obtain ⟨-, -, -, _, -, _, -, _, -, _, -, _, -, rfl⟩ := returns_withdraw.mp h
      rfl
  | allocate h =>
      obtain ⟨-, -, _, -, -, _, -, -, -, _, -, _, -, _, -, rfl⟩ := returns_allocate.mp h
      rfl
  | other quiet kept => exact kept.adminCouncil

end StellarConduit.Treasury
