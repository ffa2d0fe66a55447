import StellarConduit.Soroban.Avoidance
import StellarConduit.Treasury.Holdings

/-!
# What a withdrawal is answered

`withdraw` has four ways to fail behind its gate: two checks of its own, the checked
arithmetic of the books, the plain `+` of the history counter, and the transfer.  The
books are the sums over a log that never overdraws, so what the balance covers fits the
statistics; the treasury holds at least its balance, so the transfer goes through.  What
is left are the two checks and, after `u64::MAX` entries, the counter.

The first of these arguments is `Room`.  Withdrawn and allocated totals and the balance add up
to what was deposited, which is a stored `i128`; so a total and an amount that the balance covers
have a sum below it.  The same argument serves `allocate`, except for the amount that is spent of
a program: programs have budgets that are not bounded by deposits, and there the overflow stays
possible.

The answer is then a function `withdrawAnswer` of three numbers, the balance, the counter and
the amount.  That a withdrawal is answered so is one theorem, and what the answer can and cannot
be is read off the function by cases.

The last section reaches the full counter.  No finite list of calls written down here would do;
the run is a deposit of one token after another, `deposits n`, and by induction on `n` the state
after it has `n` entries and everything that the next deposit needs.

## Main definitions

* `Room` — the equation between the totals.
* `withdrawAnswer` — the answer of a withdrawal.

## Main results

* `withdraw_answered` — the answer, read off the balance, the counter and the amount.
* `avoids_allocate` — `allocate` overflows only by what is spent of its program.
* `withdraw_by_the_books` — both, in every reached state.
-/

namespace StellarConduit.Treasury

open Soroban Contract

/-! ## Room in the books

A withdrawal adds its amount to a statistic with `checked_add`.  The sum is an `i128` whenever
the balance covers the amount, since what was withdrawn and what is still there were deposited,
and the total of all deposits is a stored `i128`.
-/

section Books

variable {Address : Type} {s : Storage Address} {log : AuditLog Address}

/-- The amounts of a log are positive. -/
theorem AuditLog.sumOf_nonneg (log : AuditLog Address) (kind : EntryKind) :
    0 ≤ sumOf kind log.entries := by
  apply List.sum_nonneg
  intro amount hamount
  obtain ⟨e, he, rfl⟩ := List.mem_map.mp hamount
  exact (log.positive e (List.mem_filter.mp he).1).le

/-- What was withdrawn and what was allocated was deposited before, and the balance is
the rest. -/
structure Room (s : Storage Address) : Prop where
  /-- The balance is not negative, -/
  balance_nonneg : 0 ≤ (s.balance.getD 0).val
  /-- nor is what was withdrawn, -/
  withdrawn_nonneg : 0 ≤ (s.stats.getD TreasuryStats.zero).lifetimeWithdrawn.val
  /-- nor what was allocated. -/
  allocated_nonneg : 0 ≤ (s.stats.getD TreasuryStats.zero).lifetimeAllocated.val
  /-- Together they are what was deposited. -/
  deposited : (s.balance.getD 0).val + (s.stats.getD TreasuryStats.zero).lifetimeWithdrawn.val +
      (s.stats.getD TreasuryStats.zero).lifetimeAllocated.val =
    (s.stats.getD TreasuryStats.zero).lifetimeDeposited.val

/-- Books that represent a log have room. -/
theorem Represents.room (rep : Represents s log) : Room s where
  balance_nonneg := rep.nonneg
  withdrawn_nonneg := by
    rw [rep.withdrawn]
    exact log.sumOf_nonneg .withdrawal
  allocated_nonneg := by
    rw [rep.allocated]
    exact log.sumOf_nonneg .allocation
  deposited := by
    rw [rep.balance, rep.withdrawn, rep.allocated, rep.deposited, balanceOf]
    omega

/-- A total that leaves room for the balance below all that was deposited has room for
what the balance covers. -/
theorem Room.fits {total : Int} {amount : I128} (nonneg : 0 ≤ total)
    (below : total + (s.balance.getD 0).val ≤
      (s.stats.getD TreasuryStats.zero).lifetimeDeposited.val)
    (positive : 0 < amount.val) (covered : amount.val ≤ (s.balance.getD 0).val) :
    ∃ c : I128, c.val = total + amount.val := by
  have largest := (s.stats.getD TreasuryStats.zero).lifetimeDeposited.le_max
  have lowest := (IntType.zero_mem ⟨true, 128⟩).1
  exact MachineInt.contains_iff.mp ⟨by omega, by omega⟩

/-- What the balance covers can be added to the withdrawn total. -/
theorem Room.newWithdrawn (room : Room s) {amount : I128} (positive : 0 < amount.val)
    (covered : amount.val ≤ (s.balance.getD 0).val) :
    ∃ c : I128, c.val = (s.stats.getD TreasuryStats.zero).lifetimeWithdrawn.val + amount.val := by
  have allocated := room.allocated_nonneg
  have deposited := room.deposited
  exact Room.fits room.withdrawn_nonneg (by omega) positive covered

/-- What the balance covers can be added to the allocated total. -/
theorem Room.newAllocated (room : Room s) {amount : I128} (positive : 0 < amount.val)
    (covered : amount.val ≤ (s.balance.getD 0).val) :
    ∃ c : I128, c.val = (s.stats.getD TreasuryStats.zero).lifetimeAllocated.val + amount.val := by
  have withdrawn := room.withdrawn_nonneg
  have deposited := room.deposited
  exact Room.fits room.allocated_nonneg (by omega) positive covered

end Books

/-- What a balance covers can be taken off it. -/
theorem exists_newBalance {balance amount : I128} (positive : 0 < amount.val)
    (covered : amount.val ≤ balance.val) : ∃ c : I128, c.val = balance.val - amount.val := by
  have largest := balance.le_max
  have lowest := (IntType.zero_mem ⟨true, 128⟩).1
  exact MachineInt.contains_iff.mp ⟨by omega, by omega⟩

/-! ## One withdrawal

Behind the gate the answer is decided in the order of the source: the amount, the balance, the
counter of the history.  What is left after them is the token, which is assumed to pay what the
treasury has.
-/

section Withdraw

variable {Address X : Type} {env : Env Address X} {w : State Address X} {toAddress : Address}
  {amount : I128} {memo : HostString}

/-- The largest number of entries. -/
def fullHistory : Int := IntType.max ⟨false, 64⟩

/-- The first check. -/
theorem fails_withdraw_invalidAmount (council : CouncilPasses env w) (short : amount.val ≤ 0) :
    Fails (withdraw env toAddress amount memo) w (.error .invalidAmount) w := by
  simp [withdraw, fails_bind, council, short]

/-- The second check. -/
theorem fails_withdraw_insufficientBalance (council : CouncilPasses env w)
    (positive : 0 < amount.val) (uncovered : (w.storage.balance.getD 0).val < amount.val) :
    Fails (withdraw env toAddress amount memo) w (.error .insufficientBalance) w := by
  simp [withdraw, fails_bind, council, not_le.mpr positive, uncovered]

/-- With a full history the counter traps. -/
theorem fails_withdraw_overflow (room : Room w.storage) (council : CouncilPasses env w)
    (positive : 0 < amount.val) (covered : amount.val ≤ (w.storage.balance.getD 0).val)
    (full : fullHistory ≤ (w.storage.entryCount.getD 0).val) :
    ∃ w', Fails (withdraw env toAddress amount memo) w (.trap .overflow) w' := by
  obtain ⟨newBalance, hbalance⟩ := exists_newBalance positive covered
  obtain ⟨withdrawn, hwithdrawn⟩ := room.newWithdrawn positive covered
  have counter : (w.storage.entryCount.getD 0).checkedAdd 1 = none := by
    apply MachineInt.checkedAdd_eq_none
    exact Int.lt_add_one_of_le full
  rw [← MachineInt.checkedSub_eq_some_iff] at hbalance
  rw [← MachineInt.checkedAdd_eq_some_iff] at hwithdrawn
  simp [withdraw, fails_bind, council, not_le.mpr positive, covered, hbalance, hwithdrawn,
    setEntry, getEntryCount, counter, exists_or, -MachineInt.checkedSub_eq_some_iff,
    -MachineInt.checkedAdd_eq_some_iff]

/-- A withdrawal that the balance covers goes through while the history has room and the
token pays. -/
theorem withdraw_returns (room : Room w.storage) (council : CouncilPasses env w)
    (positive : 0 < amount.val) (covered : amount.val ≤ (w.storage.balance.getD 0).val)
    (free : (w.storage.entryCount.getD 0).val < fullHistory) {token : Address}
    (stored : w.storage.tokenAddress = some token)
    (pays : ∃ x, env.invokeContract token "transfer"
      [.address env.currentContract, .address toAddress, .i128 amount] w.outside = some x) :
    ∃ w', Returns (withdraw env toAddress amount memo) w () w' := by
  obtain ⟨newBalance, hbalance⟩ := exists_newBalance positive covered
  obtain ⟨withdrawn, hwithdrawn⟩ := room.newWithdrawn positive covered
  obtain ⟨nextId, hnext⟩ : ∃ c : U64, c.val = (w.storage.entryCount.getD 0).val + 1 := by
    have least := (MachineInt.u64_bounds (w.storage.entryCount.getD 0)).1
    have lowest := (IntType.zero_mem ⟨false, 64⟩).1
    unfold fullHistory at free
    exact MachineInt.contains_iff.mp ⟨by omega, by omega⟩
  obtain ⟨x, htransfer⟩ := pays
  exact ⟨_, returns_withdraw.mpr ⟨council, positive, covered, newBalance, hbalance, withdrawn,
    hwithdrawn, nextId, hnext, token, stored, x, htransfer, rfl⟩⟩

/-- The answer to an approved withdrawal: the two checks, then the counter. -/
def withdrawAnswer (balance : I128) (entryCount : U64) (amount : I128) :
    Reply ContractError (Value Address) :=
  if amount.val ≤ 0 then some (.error (.error .invalidAmount))
  else if balance.val < amount.val then some (.error (.error .insufficientBalance))
  else if entryCount.val < fullHistory then some (.ok .unit)
  else some (.error (.trap .overflow))

section Answers

variable {balance : I128} {entryCount : U64}

/-- When a withdrawal goes through. -/
theorem withdrawAnswer_ok_iff :
    (withdrawAnswer balance entryCount amount : Reply ContractError (Value Address)) =
        some (.ok .unit) ↔
      0 < amount.val ∧ amount.val ≤ balance.val ∧ entryCount.val < fullHistory := by
  unfold withdrawAnswer
  split_ifs <;> simp <;> omega

/-- When its amount is refused. -/
theorem withdrawAnswer_invalidAmount_iff :
    (withdrawAnswer balance entryCount amount : Reply ContractError (Value Address)) =
        some (.error (.error .invalidAmount)) ↔ amount.val ≤ 0 := by
  unfold withdrawAnswer
  split_ifs <;> simp <;> omega

/-- When the balance does not cover it. -/
theorem withdrawAnswer_insufficientBalance_iff :
    (withdrawAnswer balance entryCount amount : Reply ContractError (Value Address)) =
        some (.error (.error .insufficientBalance)) ↔
      0 < amount.val ∧ balance.val < amount.val := by
  unfold withdrawAnswer
  split_ifs <;> simp <;> omega

/-- The counter is the last to fail. -/
theorem withdrawAnswer_counter_iff :
    (withdrawAnswer balance entryCount amount : Reply ContractError (Value Address)) =
        some (.error (.trap .overflow)) ↔
      0 < amount.val ∧ amount.val ≤ balance.val ∧ fullHistory ≤ entryCount.val := by
  unfold withdrawAnswer
  split_ifs <;> simp <;> omega

/-- The checked arithmetic never fails. -/
theorem withdrawAnswer_ne_overflow :
    (withdrawAnswer balance entryCount amount : Reply ContractError (Value Address)) ≠
      some (.error (.error .overflow)) := by
  unfold withdrawAnswer
  split_ifs <;> simp

/-- The transfer never fails. -/
theorem withdrawAnswer_ne_crossCall :
    (withdrawAnswer balance entryCount amount : Reply ContractError (Value Address)) ≠
      some (.error (.trap .crossCall)) := by
  unfold withdrawAnswer
  split_ifs <;> simp

end Answers

/-- The answer to a withdrawal is read off the balance, the counter and the amount. -/
theorem withdraw_answered (room : Room w.storage) (council : CouncilPasses env w) {token : Address}
    (stored : w.storage.tokenAddress = some token)
    (pays : 0 < amount.val → amount.val ≤ (w.storage.balance.getD 0).val →
      ∃ x, env.invokeContract token "transfer"
        [.address env.currentContract, .address toAddress, .i128 amount] w.outside = some x) :
    (machine.step w (.call env (.withdraw toAddress amount memo))).1 =
      withdrawAnswer (w.storage.balance.getD 0) (w.storage.entryCount.getD 0) amount := by
  have answer_of_fails {failure : Failure ContractError} {w' : State Address X}
      (h : Fails (withdraw env toAddress amount memo) w failure w') :
      (machine.step w (.call env (.withdraw toAddress amount memo))).1 =
        some (.error failure) :=
    Deployed.answer_of_fails dispatch provide (fails_bind.mpr (Or.inl h))
  unfold withdrawAnswer
  split
  · rename_i short
    exact answer_of_fails (fails_withdraw_invalidAmount council short)
  rename_i positive
  rw [not_le] at positive
  split
  · rename_i uncovered
    exact answer_of_fails (fails_withdraw_insufficientBalance council positive uncovered)
  rename_i covered
  rw [not_lt] at covered
  split
  · rename_i free
    -- There is room in the statistics and in the history, and the token pays.
    obtain ⟨w', h⟩ := withdraw_returns room council positive covered free stored
      (pays positive covered)
    have returned : Returns (dispatch env (.withdraw toAddress amount memo)) w .unit w' :=
      returns_bind_pure.mpr ⟨(), h, rfl⟩
    exact Deployed.answer_of_returns dispatch provide returned
  · rename_i full
    obtain ⟨w', h⟩ := fails_withdraw_overflow room council positive covered (not_lt.mp full)
    exact answer_of_fails h

end Withdraw

/-! ## One allocation

`allocate` is gone through with the rules of `Avoids`.  The one sum that may fail to be an `i128`
is what the program has spent with the amount on top, since budgets are not bounded by deposits.
-/

section Allocate

variable {Address X : Type} {env : Env Address X} {w : State Address X} {e : ContractError}

/-- The loop over the members traps, and returns no error. -/
theorem avoids_countCouncilAuth {threshold : U32} {members : List Address} {authorized : U32} :
    Avoids e (countCouncilAuth env threshold members authorized) w := by
  induction members generalizing authorized with
  | nil => exact avoids_pure
  | cons member rest ih =>
      refine avoids_requireAuth (avoids_plus fun authorized => ?_)
      split
      · exact avoids_pure
      · exact ih

/-- The gate traps, and returns no error. -/
theorem avoids_requireCouncilAuth : Avoids e (requireCouncilAuth env) w := by
  unfold requireCouncilAuth getAdminCouncil requireAuthOfCouncil
  rw [bind_assoc]
  refine avoids_loadStorage (avoids_expect fun council _ => ?_)
  refine avoids_bind avoids_countCouncilAuth fun authorized w' _ => ?_
  split
  · exact avoids_trap
  · exact avoids_pure

/-- Appending to the history answers no error; a full counter is a trap. -/
theorem avoids_setEntry {entry : TreasuryEntry Address} :
    Avoids e (setEntry entry : Computation Address X Unit) w := by
  unfold setEntry getEntryCount
  refine avoids_loadStorage (avoids_plus fun nextId => avoids_updateStorage ?_)
  exact avoids_last (avoids_updateStorage avoids_pure)

/-- What is spent of the program leaves the range of an `i128`. -/
def SpentOverflows (env : Env Address X) (w : State Address X) (id : U64) (amount : I128) : Prop :=
  CouncilPasses env w ∧ 0 < amount.val ∧
    ∃ program, w.storage.spendingProgram.get id = some program ∧ program.active = true ∧
      IntType.max ⟨true, 128⟩ < program.spent.val + amount.val

variable {id : U64} {amount : I128}

/-- What `allocate` does after its checks: the late ones succeed, since the books have room
for what the balance covers. -/
theorem avoids_spend {e : ContractError} (room : Room w.storage) (positive : 0 < amount.val)
    (covered : amount.val ≤ (w.storage.balance.getD 0).val) {program : SpendingProgram}
    {entry : TreasuryEntry Address} {event : Event Address} :
    Avoids e (do
      setSpendingProgram id program
      let newBalance ← okOr ((w.storage.balance.getD 0).checkedSub amount) .overflow
      setBalance newBalance
      let stats ← getStats
      let lifetimeAllocated ← okOr (stats.lifetimeAllocated.checkedAdd amount) .overflow
      setStats { stats with lifetimeAllocated := lifetimeAllocated }
      setEntry entry
      publish event : Computation Address X Unit) w := by
  unfold setSpendingProgram setBalance getStats setStats
  obtain ⟨newBalance, hbalance⟩ := exists_newBalance positive covered
  obtain ⟨allocated, hallocated⟩ := room.newAllocated positive covered
  refine avoids_updateStorage ?_
  refine avoids_okOr_some ⟨newBalance, MachineInt.checkedSub_eq_some_iff.mpr hbalance⟩ fun _ _ => ?_
  refine avoids_updateStorage (avoids_loadStorage ?_)
  refine avoids_okOr_some ⟨allocated, MachineInt.checkedAdd_eq_some_iff.mpr hallocated⟩
    fun _ _ => avoids_updateStorage ?_
  refine avoids_bind avoids_setEntry fun _ w' _ => ?_
  exact avoids_last (avoids_publish avoids_pure)

/-- The one sum of `allocate` that the balance does not bound is the program's. -/
theorem avoids_allocate (room : Room w.storage) (fits : ¬ SpentOverflows env w id amount) :
    Avoids .overflow (allocate env id amount) w := by
  unfold allocate getSpendingProgram loadBalance
  refine avoids_bind avoids_requireCouncilAuth fun _ w' passed => ?_
  obtain ⟨council, rfl⟩ := returns_requireCouncilAuth.mp passed
  refine avoids_rejectIf (by decide) fun positive => ?_
  have positive : 0 < amount.val := by simpa using positive
  refine avoids_loadStorage (avoids_okOr (by decide) fun program hprogram => ?_)
  refine avoids_rejectIf (by decide) fun active => ?_
  have spent : ∃ c, program.spent.checkedAdd amount = some c := by
    have small : program.spent.val + amount.val ≤ IntType.max ⟨true, 128⟩ := by
      by_contra large
      exact fits ⟨council, positive, program, hprogram, by simpa using active, not_le.mp large⟩
    exact MachineInt.exists_checkedAdd positive.le small
  refine avoids_okOr_some spent fun newSpent _ => ?_
  refine avoids_rejectIf (by decide) fun _ => avoids_loadStorage ?_
  refine avoids_rejectIf (by decide) fun uncovered => ?_
  have covered : amount.val ≤ (w'.storage.balance.getD 0).val := by simpa using uncovered
  exact avoids_spend room positive covered

/-- `allocate` answers `Overflow` exactly when what is spent of the program overflows. -/
theorem allocate_overflow_iff (room : Room w.storage) :
    (machine.step w (.call env (.allocate id amount))).1 = some (.error (.error .overflow)) ↔
      SpentOverflows env w id amount := by
  constructor
  · intro answered
    by_contra fits
    refine Deployed.reply_ne_of_avoids ?_ answered
    exact avoids_bind (avoids_allocate room fits) fun _ _ _ => avoids_pure
  · rintro ⟨council, positive, program, hprogram, active, large⟩
    have none : program.spent.checkedAdd amount = none := MachineInt.checkedAdd_eq_none large
    have failed : Fails (allocate env id amount) w (.error .overflow) w := by
      simp [allocate, fails_bind, council, not_le.mpr positive, hprogram, active, none]
    exact Deployed.answer_of_fails dispatch provide (fails_bind.mpr (Or.inl failed))

end Allocate

/-! ## The tokens behind the balance

The recorded balance is never more than what the treasury holds: a deposit adds its amount to
both, a withdrawal takes it from both, and an allocation lowers the record alone.  So a
withdrawal that the books allow is not refused for want of tokens.
-/

section Tokens

variable {Address : Type} [DecidableEq Address] {treasury token : Address}
  {env : Env Address (Balances Address)} {w w' : State Address (Balances Address)}

/-- The treasury holds what its balance says, and maybe more. -/
structure Backed (treasury token : Address) (w : State Address (Balances Address)) : Prop where
  initialized : Initialized token w.storage
  held : 0 ≤ unbooked treasury w

omit [DecidableEq Address] in
/-- What a call allocates is not negative. -/
theorem allocated_nonneg {c : Call Address} {v : Value Address}
    (h : Returns (dispatch env c) w v w') :
    0 ≤ allocated ⟨w, .call env c, some (.ok v), w'⟩ := by
  cases c with
  | allocate id amount =>
      obtain ⟨_, hcall, -⟩ := returns_bind_pure.mp h
      obtain ⟨-, positive, -⟩ := returns_allocate.mp hcall
      exact positive.le
  | _ => exact le_rfl

/-- A call that returns keeps the balance backed. -/
theorem backed_call (tokens : TokenEnv treasury token env) (backed : Backed treasury token w)
    {c : Call Address} {v : Value Address} (h : Returns (dispatch env c) w v w') :
    Backed treasury token w' := by
  have held := backed.held
  by_cases own : ∃ amount memo, c = .withdraw treasury amount memo
  · -- A withdrawal to the treasury itself: the balance falls, and no tokens leave.
    obtain ⟨amount, memo, rfl⟩ := own
    obtain ⟨_, hcall, -⟩ := returns_bind_pure.mp h
    obtain ⟨-, positive, -, newBalance, hbalance, _, -, _, -, t, ht, b, htransfer, rfl⟩ :=
      returns_withdraw.mp hcall
    obtain rfl : token = t := Option.some.inj (backed.initialized.tokenAddress.symm.trans ht)
    rw [tokens.current] at htransfer
    refine ⟨⟨backed.initialized.adminCouncil, backed.initialized.tokenAddress⟩, ?_⟩
    rw [unbooked] at held ⊢
    simp only [tokens.transfer htransfer, Balances.move, if_true, Option.getD_some, hbalance]
    omega
  · have recipient : ∀ toAddress amount memo, c = .withdraw toAddress amount memo →
        toAddress ≠ treasury := by
      rintro toAddress amount memo rfl rfl
      exact own ⟨amount, memo, rfl⟩
    obtain ⟨initialized, moved⟩ := unbooked_call backed.initialized tokens recipient h
    have nonneg := allocated_nonneg h
    exact ⟨initialized, by omega⟩

/-- The balance is backed at every moment of a run in which nobody else spends the
treasury's tokens. -/
theorem backed_run {council : AdminCouncil Address} {b : Balances Address} {u : Unit}
    (h : Returns (initializeContract council token) (freshState b) u w) (start : 0 ≤ b treasury)
    {as : List (Action Address (Balances Address) (Call Address) Empty)}
    (allowed : ∀ r ∈ machine.trace w as,
      TokenStep treasury token (fun held held' => held ≤ held') r) :
    Backed treasury token (machine.run w as) := by
  obtain ⟨-, rfl⟩ := returns_initializeContract_freshState.mp h
  refine Deployed.run_tokens (Backed treasury token)
    (fun env c w v w' tokens backed h => backed_call tokens backed h)
    (fun w b' grows backed => ?_) ⟨⟨rfl, rfl⟩, ?_⟩ allowed
  · have held := backed.held
    refine ⟨backed.initialized, ?_⟩
    unfold unbooked at held ⊢
    show 0 ≤ b' treasury - (w.storage.balance.getD 0).val
    omega
  · simpa [unbooked, initialState] using start

/-- The transfer of what a backed balance covers goes through. -/
theorem Backed.pays (backed : Backed treasury token w) (tokens : TokenEnv treasury token env)
    (covers : Covered treasury token env) {amount : I128} (positive : 0 < amount.val)
    (covered : amount.val ≤ (w.storage.balance.getD 0).val) (toAddress : Address) :
    ∃ b, env.invokeContract token "transfer"
      [.address env.currentContract, .address toAddress, .i128 amount] w.outside = some b := by
  have held := backed.held
  unfold unbooked at held
  rw [tokens.current]
  exact covers toAddress amount w.outside positive (by omega)

/-! ## Every reached state

The lemmas on one call assume an accepted council, a stored token and books in order.  All three
hold after `initialize` and are kept by every step.
-/

/-- **A withdrawal succeeds when the books allow it.**  In every reached state in which the
council approves it, `withdraw` answers `InvalidAmount` exactly for an amount that is not
positive, `InsufficientBalance` exactly for one above the balance, and otherwise
succeeds, unless the history is full, and then its counter traps.  It answers no
`Overflow` and its transfer goes through, since the treasury holds its balance.
`allocate` answers `Overflow` only for what is spent of its program. -/
theorem withdraw_by_the_books {council : AdminCouncil Address} {b : Balances Address} {u : Unit}
    (h : Returns (initializeContract council token) (freshState b) u w) (start : 0 ≤ b treasury)
    {as : List (Action Address (Balances Address) (Call Address) Empty)}
    (allowed : ∀ r ∈ machine.trace w as,
      TokenStep treasury token (fun held held' => held ≤ held') r)
    (tokens : TokenEnv treasury token env) (covers : Covered treasury token env)
    (approved : CouncilPasses env (machine.run w as)) (toAddress : Address) (amount : I128)
    (memo : HostString) :
    let reached := machine.run w as
    let answer := (machine.step reached (.call env (.withdraw toAddress amount memo))).1
    ∃ balance : I128, Returns getBalance reached balance reached ∧
      (answer = some (.ok .unit) ↔
        0 < amount.val ∧ amount.val ≤ balance.val ∧
          (reached.storage.entryCount.getD 0).val < fullHistory) ∧
      (answer = some (.error (.error .invalidAmount)) ↔ amount.val ≤ 0) ∧
      (answer = some (.error (.error .insufficientBalance)) ↔ balance.val < amount.val) ∧
      (answer = some (.error (.trap .overflow)) ↔
        0 < amount.val ∧ amount.val ≤ balance.val ∧
          (reached.storage.entryCount.getD 0).val = fullHistory) ∧
      answer ≠ some (.error (.error .overflow)) ∧
      answer ≠ some (.error (.trap .crossCall)) ∧
      balance.val ≤ reached.outside treasury ∧
      ∀ (env' : Env Address (Balances Address)) id amount',
        (machine.step reached (.call env' (.allocate id amount'))).1 =
            some (.error (.error .overflow)) ↔
          SpentOverflows env' reached id amount' := by
  intro reached answer
  obtain ⟨log, -, rep⟩ := represents_run h as
  have room : Room reached.storage := rep.room
  have backed : Backed treasury token reached := backed_run h start allowed
  have answered : answer = withdrawAnswer (reached.storage.balance.getD 0)
      (reached.storage.entryCount.getD 0) amount :=
    withdraw_answered room approved backed.initialized.tokenAddress fun positive covered =>
      backed.pays tokens covers positive covered toAddress
  have held := backed.held
  unfold unbooked at held
  have nonneg := room.balance_nonneg
  have most : (reached.storage.entryCount.getD 0).val ≤ fullHistory :=
    (reached.storage.entryCount.getD 0).le_max
  rw [answered]
  refine ⟨_, returns_getBalance.mpr ⟨rfl, rfl⟩, withdrawAnswer_ok_iff,
    withdrawAnswer_invalidAmount_iff, ?_, ?_, withdrawAnswer_ne_overflow,
    withdrawAnswer_ne_crossCall, by omega, fun _ _ _ => allocate_overflow_iff room⟩
  · -- The balance is not negative, and what exceeds it is positive.
    rw [withdrawAnswer_insufficientBalance_iff]
    omega
  · rw [withdrawAnswer_counter_iff]
    omega

end Tokens

/-- With a balance of 60 and tokens for 100, a withdrawal of 80 is refused. -/
theorem withdraw_by_the_books_depositAndAllocate :
    (machine.step (machine.run sampleTreasury depositAndAllocate)
      (.call (tokenLedger 0 5) (.withdraw 5 80 (HostString.fromStr "grant")))).1 =
        some (.error (.error .insufficientBalance)) := by
  have steps : ∀ r ∈ machine.trace sampleTreasury depositAndAllocate,
      TokenStep 0 9 (fun held held' => held ≤ held') r := by
    refine Deployed.tokenStep_of_calls fun action hmem => ?_
    revert action
    simp [depositAndAllocate, tokenLedger_tokenEnv]
  have approved : CouncilPasses (tokenLedger 0 5)
      (machine.run sampleTreasury depositAndAllocate) :=
    ⟨⟨[7], 1⟩, by decide +kernel, (returns_requireAuthOfCouncil (by decide)).mpr ⟨by decide, rfl⟩⟩
  obtain ⟨balance, hbalance, -, -, refused, -⟩ :=
    withdraw_by_the_books sampleTreasury_initialized le_rfl steps (tokenLedger_tokenEnv 0 9 5)
      (tokenLedger_covered 0 9 5) approved 5 80 (HostString.fromStr "grant")
  obtain ⟨rfl, -⟩ := returns_getBalance.mp hbalance
  exact refused.mpr (by decide +kernel)

/-! ## A full history

The counter of the history is a `u64` that `set_entry` moves on with a plain addition.  A run of
2^64 - 1 deposits leaves it full, and the withdrawal after it traps although the balance covers
the amount.  The run is not evaluated: what it does to the counter and to the balance is shown by
induction on its length.
-/

/-- The treasury at address 0, with its token at address 9, when address 5 has 2^64
tokens. -/
def richDepositor : State ℕ (Balances ℕ) :=
  initialState ⟨[7], 1⟩ 9 fun a => if a = 5 then 18446744073709551616 else 0

/-- The start of the run is an initialized treasury. -/
theorem richDepositor_initialized :
    Returns (initializeContract ⟨[7], 1⟩ 9) (freshState richDepositor.outside) ()
      richDepositor :=
  returns_initializeContract_freshState.mpr ⟨by decide, rfl⟩

/-- Address 5 deposits 1, over and over. -/
def deposits (n : ℕ) : List (Action ℕ (Balances ℕ) (Call ℕ) Empty) :=
  List.replicate n (.call (tokenLedger 0 5) (.deposit 5 1))

/-- The treasury after `n` deposits of 1. -/
structure Deposited (n : ℕ) (w : State ℕ (Balances ℕ)) : Prop where
  adminCouncil : w.storage.adminCouncil = some ⟨[7], 1⟩
  tokenAddress : w.storage.tokenAddress = some 9
  entryCount : (w.storage.entryCount.getD 0).val = n
  balance : (w.storage.balance.getD 0).val = n
  lifetimeDeposited : (w.storage.stats.getD TreasuryStats.zero).lifetimeDeposited.val = n
  depositor : w.outside 5 = 18446744073709551616 - n

variable {n : ℕ} {w w' : State ℕ (Balances ℕ)}

/-- The next deposit goes through while the counter has room. -/
theorem Deposited.accepts (h : Deposited n w) (free : n < 18446744073709551615) :
    ∃ w', Returns (deposit (tokenLedger 0 5) 5 1) w () w' := by
  have one : (1 : I128).val = 1 := rfl
  obtain ⟨total, htotal⟩ : ∃ c : I128, c.val = (n : Int) + 1 := by
    have large : (18446744073709551616 : Int) ≤ IntType.max ⟨true, 128⟩ := by decide
    have lowest := (IntType.zero_mem ⟨true, 128⟩).1
    exact MachineInt.contains_iff.mp ⟨by omega, by omega⟩
  obtain ⟨nextId, hnext⟩ : ∃ c : U64, c.val = (n : Int) + 1 := by
    have small : (18446744073709551615 : Int) ≤ IntType.max ⟨false, 64⟩ := by decide
    have least := (IntType.zero_mem ⟨false, 64⟩).1
    exact MachineInt.contains_iff.mp ⟨by omega, by omega⟩
  have enough : (1 : I128).val ≤ w.outside 5 := by
    rw [one, h.depositor]
    omega
  exact ⟨_, returns_deposit.mpr ⟨rfl, by decide, total, by rw [h.balance, htotal, one],
    total, by rw [h.lifetimeDeposited, htotal, one], nextId, by rw [h.entryCount, hnext], 9,
    h.tokenAddress, _, tokenLedger_transfer.mpr ⟨enough, rfl⟩, rfl⟩⟩

/-- One more deposit. -/
theorem Deposited.next (h : Deposited n w)
    (hcall : Returns (deposit (tokenLedger 0 5) 5 1) w () w') : Deposited (n + 1) w' := by
  have one : (1 : I128).val = 1 := rfl
  obtain ⟨-, -, newBalance, hbalance, deposited, hdeposited, nextId, hnext, token, htoken, b,
    htransfer, rfl⟩ := returns_deposit.mp hcall
  obtain rfl : 9 = token := Option.some.inj (h.tokenAddress.symm.trans htoken)
  obtain ⟨-, rfl⟩ := tokenLedger_transfer.mp htransfer
  rw [h.balance, one] at hbalance
  rw [h.lifetimeDeposited, one] at hdeposited
  rw [h.entryCount] at hnext
  refine ⟨h.adminCouncil, h.tokenAddress, hnext, hbalance, hdeposited, ?_⟩
  show w.outside.move 5 0 1 5 = _
  rw [Balances.move_sender (by decide), h.depositor]
  push_cast
  omega

/-- While the counter has room, the next deposit is accepted. -/
theorem deposited_step (h : Deposited n w) (free : n < 18446744073709551615) :
    Deposited (n + 1) (machine.step w (.call (tokenLedger 0 5) (.deposit 5 1))).2 := by
  obtain ⟨w', hcall⟩ := h.accepts free
  have returned : Returns (dispatch (tokenLedger 0 5) (.deposit 5 1)) w .unit w' :=
    returns_bind_pure.mpr ⟨(), hcall, rfl⟩
  have step : (machine.step w (.call (tokenLedger 0 5) (.deposit 5 1))).2 = w' :=
    congrArg Prod.snd (Deployed.step_of_returns dispatch provide returned)
  rw [step]
  exact h.next hcall

/-- After `n` deposits there are `n` entries, for every `n` up to the full counter. -/
theorem deposited_run (free : n ≤ 18446744073709551615) :
    Deposited n (machine.run richDepositor (deposits n)) := by
  induction n with
  | zero => exact ⟨rfl, rfl, rfl, rfl, rfl, rfl⟩
  | succ n ih =>
      rw [deposits, List.replicate_succ', Machine.run_append]
      exact deposited_step (ih (by omega)) (by omega)

/-- Everyone signs on this ledger, the council too. -/
theorem Deposited.approved (h : Deposited n w) : CouncilPasses (tokenLedger 0 5) w :=
  ⟨_, h.adminCouncil, (returns_requireAuthOfCouncil (by decide)).mpr ⟨by decide, rfl⟩⟩

/-- With a full history a withdrawal of 1 traps. -/
theorem Deposited.withdraw_traps (h : Deposited n w) (full : fullHistory ≤ n)
    (room : Room w.storage) (backed : Backed 0 9 w) :
    (machine.step w (.call (tokenLedger 0 5) (.withdraw 5 1 (HostString.fromStr "grant")))).1 =
      some (.error (.trap .overflow)) := by
  have positive : 0 < (1 : I128).val := by decide
  have covered : (1 : I128).val ≤ (w.storage.balance.getD 0).val := by
    have one : (1 : I128).val = 1 := rfl
    have large : 1 ≤ fullHistory := by decide
    rw [h.balance, one]
    omega
  have counter : fullHistory ≤ (w.storage.entryCount.getD 0).val := by
    rw [h.entryCount]
    exact full
  calc (machine.step w
        (.call (tokenLedger 0 5) (.withdraw 5 1 (HostString.fromStr "grant")))).1
      = withdrawAnswer (w.storage.balance.getD 0) (w.storage.entryCount.getD 0) 1 :=
        withdraw_answered room h.approved h.tokenAddress fun positive covered =>
          backed.pays (tokenLedger_tokenEnv 0 9 5) (tokenLedger_covered 0 9 5) positive covered 5
    _ = some (.error (.trap .overflow)) :=
        withdrawAnswer_counter_iff.mpr ⟨positive, covered, counter⟩

/-- Tokens move by the treasury's own calls in these runs. -/
theorem deposits_tokenSteps (n : ℕ) :
    ∀ r ∈ machine.trace richDepositor (deposits n),
      TokenStep 0 9 (fun held held' => held ≤ held') r := by
  refine Deployed.tokenStep_of_calls fun action hmem => ?_
  exact ⟨_, _, (List.mem_replicate.mp hmem).2, tokenLedger_tokenEnv 0 9 5⟩

/-- After `u64::MAX` deposits a withdrawal of 1 traps, with a balance of `u64::MAX`. -/
theorem fullHistory_traps :
    let reached := machine.run richDepositor (deposits 18446744073709551615)
    Returns (initializeContract ⟨[7], 1⟩ 9) (freshState richDepositor.outside) ()
        richDepositor ∧
      (∀ r ∈ machine.trace richDepositor (deposits 18446744073709551615),
        TokenStep 0 9 (fun held held' => held ≤ held') r) ∧
      TokenEnv 0 9 (tokenLedger 0 5) ∧ Covered 0 9 (tokenLedger 0 5) ∧
      CouncilPasses (tokenLedger 0 5) reached ∧
      (∃ balance : I128, Returns getBalance reached balance reached ∧
        balance.val = 18446744073709551615) ∧
      (machine.step reached
        (.call (tokenLedger 0 5) (.withdraw 5 1 (HostString.fromStr "grant")))).1 =
          some (.error (.trap .overflow)) := by
  intro reached
  have deposited : Deposited 18446744073709551615 reached :=
    deposited_run (Nat.le_refl 18446744073709551615)
  have steps := deposits_tokenSteps 18446744073709551615
  obtain ⟨log, -, rep⟩ := represents_run richDepositor_initialized
    (deposits 18446744073709551615)
  have backed : Backed 0 9 reached := backed_run richDepositor_initialized le_rfl steps
  exact ⟨richDepositor_initialized, steps, tokenLedger_tokenEnv 0 9 5, tokenLedger_covered 0 9 5,
    deposited.approved, ⟨_, returns_getBalance.mpr ⟨rfl, rfl⟩, deposited.balance⟩,
    deposited.withdraw_traps (by decide) rep.room backed⟩

end StellarConduit.Treasury
