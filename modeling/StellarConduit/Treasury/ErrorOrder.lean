import StellarConduit.Treasury.Withdrawals

/-!
# Errors and effects

A call that returns `Err` is undone by the host.  Here it is looked at before: which of
its own writes has the call made when it returns the error?  The programs are written
after the last check.  `withdraw` and `allocate` write the balance and then still do
checked arithmetic on the statistics, but the books have room for what the balance
covers, and these late checks cannot fail.  `deposit` has the same order, and there the
late check can fail: what was deposited so far may be more than the balance, when
something was withdrawn since.

The statement is `ErrsOnly (Unwritten w)`: whatever error the computation returns, it returns in
a world whose storage is that of `w`.  For most entry points this is read off the order of the
statements.  For `withdraw` and `allocate` it needs the invariant `Room` of the reached states,
which shows that what follows the first write returns no error at all.

For `deposit` the exception is stated as exactly as the rule: its error is late if and only if
the new balance is an `i128` and the new lifetime total is not.  That this can happen is shown by
a run, in which a balance is filled up, withdrawn, and filled up again.

## Main definitions

* `Unwritten` — an error is returned before anything was written.
* `OverflowsLate` — the deposit whose error comes after a write.

## Main results

* `errors_before_effects` — no error of a reached state comes after a write, but one of
  `deposit`.
* `lateDeposit_writesBalance` — a run to that error.
-/

namespace StellarConduit.Treasury

open Soroban Contract

section Calls

variable {Address X β : Type} {env : Env Address X} {w : State Address X}

/-- The error is returned with the storage as it was in `w`. -/
def Unwritten (w : State Address X) (_ : ContractError) (w' : State Address X) : Prop :=
  w'.storage = w.storage

/-- Where nothing has happened yet, nothing is written. -/
theorem unwritten_self (e : ContractError) : Unwritten w e w := rfl

/-- The gate traps, and returns no error. -/
theorem errsOnly_requireCouncilAuth {Q : ContractError → State Address X → Prop}
    {f : Unit → Computation Address X β} (rest : ErrsOnly Q (f ()) w) :
    ErrsOnly Q (requireCouncilAuth env >>= f) w := by
  refine errsOnly_bind (errsOnly_of_avoids fun _ => avoids_requireCouncilAuth) fun _ w' passed => ?_
  obtain ⟨-, rfl⟩ := returns_requireCouncilAuth.mp passed
  exact rest

/-! ## After the statistics -/

variable {e : ContractError}

/-- What `deposit` and `withdraw` do after the statistics are written. -/
theorem avoids_settle {entry : TreasuryEntry Address} {sender recipient : Address} {amount : I128}
    {event : Event Address} :
    Avoids e (do
      setEntry entry
      let token ← getTokenAddress
      tokenTransfer env token sender recipient amount
      publish event : Computation Address X Unit) w := by
  refine avoids_bind avoids_setEntry fun _ w' _ => ?_
  unfold getTokenAddress tokenTransfer
  rw [bind_assoc]
  refine avoids_loadStorage (avoids_expect fun token _ => avoids_callContract fun x => ?_)
  exact avoids_last (avoids_publish avoids_pure)

/-- A full counter is a panic. -/
theorem avoids_incrementProgramCount :
    Avoids e (incrementProgramCount : Computation Address X U64) w := by
  unfold incrementProgramCount getProgramCount
  exact avoids_loadStorage (avoids_expect fun nextId _ => avoids_updateStorage avoids_pure)

/-! ## Views, and calls that check first -/

/-- Reading the balance returns no error. -/
theorem errsOnly_getBalance : ErrsOnly (Unwritten w) getBalance w := by
  unfold getBalance loadBalance
  exact errsOnly_of_avoids fun e => avoids_last (avoids_loadStorage avoids_pure)

/-- Reading the statistics returns no error. -/
theorem errsOnly_getTreasuryStats : ErrsOnly (Unwritten w) getTreasuryStats w := by
  unfold getTreasuryStats getStats loadBalance
  exact errsOnly_of_avoids fun e => avoids_loadStorage (avoids_loadStorage avoids_pure)

/-- A missing entry is an error in the world as it was. -/
theorem errsOnly_getHistory {entryId : U64} :
    ErrsOnly (Unwritten w) (getHistory entryId) w := by
  unfold getHistory getEntry
  refine errsOnly_loadStorage (errsOnly_last ?_)
  exact errsOnly_okOr (fun _ => unwritten_self _) fun entry _ => errsOnly_pure

/-- So is a missing program. -/
theorem errsOnly_getProgram {id : U64} : ErrsOnly (Unwritten w) (getProgram id) w := by
  unfold getProgram getSpendingProgram
  refine errsOnly_loadStorage (errsOnly_last ?_)
  exact errsOnly_okOr (fun _ => unwritten_self _) fun program _ => errsOnly_pure

/-- Both checks come first. -/
theorem errsOnly_initializeContract {council : AdminCouncil Address} {tokenAddress : Address} :
    ErrsOnly (Unwritten w) (initializeContract council tokenAddress) w := by
  unfold initializeContract setBalance
  refine errsOnly_loadStorage (errsOnly_rejectIf (fun _ => unwritten_self _) fun _ => ?_)
  refine errsOnly_rejectIf (fun _ => unwritten_self _) fun _ => errsOnly_of_avoids fun e => ?_
  exact avoids_updateStorage (avoids_updateStorage (avoids_last (avoids_updateStorage avoids_pure)))

/-- So do the checks of budget and name. -/
theorem errsOnly_createProgram {name : HostString} {budget : I128} :
    ErrsOnly (Unwritten w) (createProgram env name budget) w := by
  unfold createProgram setSpendingProgram
  refine errsOnly_requireCouncilAuth (errsOnly_rejectIf (fun _ => unwritten_self _) fun _ => ?_)
  refine errsOnly_rejectIf (fun _ => unwritten_self _) fun _ => errsOnly_of_avoids fun e => ?_
  refine avoids_bind avoids_incrementProgramCount fun programId w' _ => ?_
  exact avoids_updateStorage (avoids_publish avoids_pure)

/-- And those of program and budget. -/
theorem errsOnly_updateProgramBudget {id : U64} {newBudget : I128} :
    ErrsOnly (Unwritten w) (updateProgramBudget env id newBudget) w := by
  unfold updateProgramBudget getSpendingProgram setSpendingProgram
  refine errsOnly_requireCouncilAuth (errsOnly_loadStorage ?_)
  refine errsOnly_okOr (fun _ => unwritten_self _) fun program _ => ?_
  refine errsOnly_rejectIf (fun _ => unwritten_self _) fun _ => errsOnly_of_avoids fun e => ?_
  exact avoids_updateStorage (avoids_last (avoids_publish avoids_pure))

/-- And that of the program. -/
theorem errsOnly_deactivateProgram {id : U64} :
    ErrsOnly (Unwritten w) (deactivateProgram env id) w := by
  unfold deactivateProgram getSpendingProgram setSpendingProgram
  refine errsOnly_requireCouncilAuth (errsOnly_loadStorage ?_)
  refine errsOnly_okOr (fun _ => unwritten_self _) fun program _ => errsOnly_of_avoids fun e => ?_
  exact avoids_updateStorage (avoids_last (avoids_publish avoids_pure))

/-! ## Calls with a late check that cannot fail -/

/-- The total of withdrawals has room for what the balance covers. -/
theorem errsOnly_withdraw (room : Room w.storage) {toAddress : Address} {amount : I128}
    {memo : HostString} : ErrsOnly (Unwritten w) (withdraw env toAddress amount memo) w := by
  unfold withdraw loadBalance setBalance getStats setStats
  refine errsOnly_requireCouncilAuth (errsOnly_rejectIf (fun _ => unwritten_self _) fun short => ?_)
  refine errsOnly_loadStorage (errsOnly_rejectIf (fun _ => unwritten_self _) fun uncovered => ?_)
  refine errsOnly_okOr (fun _ => unwritten_self _) fun newBalance _ => errsOnly_of_avoids fun e => ?_
  have positive : 0 < amount.val := by simpa using short
  have covered : amount.val ≤ (w.storage.balance.getD 0).val := by simpa using uncovered
  obtain ⟨withdrawn, hwithdrawn⟩ := room.newWithdrawn positive covered
  refine avoids_updateStorage (avoids_loadStorage ?_)
  exact avoids_okOr_some ⟨withdrawn, MachineInt.checkedAdd_eq_some_iff.mpr hwithdrawn⟩
    fun _ _ => avoids_updateStorage avoids_settle

/-- The total of allocations has room for what the balance covers. -/
theorem errsOnly_allocate (room : Room w.storage) {id : U64} {amount : I128} :
    ErrsOnly (Unwritten w) (allocate env id amount) w := by
  unfold allocate getSpendingProgram loadBalance
  refine errsOnly_requireCouncilAuth (errsOnly_rejectIf (fun _ => unwritten_self _) fun short => ?_)
  refine errsOnly_loadStorage (errsOnly_okOr (fun _ => unwritten_self _) fun program _ => ?_)
  refine errsOnly_rejectIf (fun _ => unwritten_self _) fun _ => ?_
  refine errsOnly_okOr (fun _ => unwritten_self _) fun newSpent _ => ?_
  refine errsOnly_rejectIf (fun _ => unwritten_self _) fun _ => errsOnly_loadStorage ?_
  refine errsOnly_rejectIf (fun _ => unwritten_self _) fun uncovered => ?_
  refine errsOnly_of_avoids fun e => ?_
  have positive : 0 < amount.val := by simpa using short
  have covered : amount.val ≤ (w.storage.balance.getD 0).val := by simpa using uncovered
  exact avoids_spend room positive covered

/-! ## The call with a late check that can fail -/

/-- A deposit that fits on the balance, but not on all that was deposited so far. -/
def OverflowsLate (s : Storage Address) : Call Address → Prop
  | .deposit _ amount =>
      (s.balance.getD 0).val + amount.val ≤ IntType.max ⟨true, 128⟩ ∧
        IntType.max ⟨true, 128⟩ <
          (s.stats.getD TreasuryStats.zero).lifetimeDeposited.val + amount.val
  | _ => False

/-- The balance has been raised by the amount, and nothing else has been written. -/
def BalanceRaised (s : Storage Address) (amount : I128) (s' : Storage Address) : Prop :=
  ∃ newBalance : I128, newBalance.val = (s.balance.getD 0).val + amount.val ∧
    s' = { s with balance := some newBalance }

variable {fromAddress : Address} {amount : I128}

/-- What takes a total beyond the largest is positive. -/
theorem OverflowsLate.positive {s : Storage Address}
    (late : OverflowsLate s (.deposit fromAddress amount)) : 0 < amount.val := by
  have largest := (s.stats.getD TreasuryStats.zero).lifetimeDeposited.le_max
  have beyond := late.2
  omega

/-- The balance has room for a deposit that overflows late. -/
theorem OverflowsLate.exists_newBalance {s : Storage Address}
    (late : OverflowsLate s (.deposit fromAddress amount)) :
    ∃ newBalance, (s.balance.getD 0).checkedAdd amount = some newBalance :=
  MachineInt.exists_checkedAdd late.positive.le late.1

/-- The lifetime total has no room for it. -/
theorem OverflowsLate.deposited_eq_none {s : Storage Address}
    (late : OverflowsLate s (.deposit fromAddress amount)) :
    (s.stats.getD TreasuryStats.zero).lifetimeDeposited.checkedAdd amount = none :=
  MachineInt.checkedAdd_eq_none late.2

/-- A raised balance is another balance. -/
theorem BalanceRaised.ne {s s' : Storage Address} (raised : BalanceRaised s amount s')
    (positive : 0 < amount.val) : s' ≠ s := by
  rintro rfl
  obtain ⟨newBalance, hbalance, same⟩ := raised
  have stored : s'.balance = some newBalance := congrArg Storage.balance same
  rw [stored, Option.getD_some] at hbalance
  omega

/-- Without the overflow the late check succeeds. -/
theorem errsOnly_deposit (fits : ¬ OverflowsLate w.storage (.deposit fromAddress amount)) :
    ErrsOnly (Unwritten w) (deposit env fromAddress amount) w := by
  unfold deposit loadBalance setBalance getStats setStats
  refine errsOnly_requireAuth (errsOnly_rejectIf (fun _ => unwritten_self _) fun short => ?_)
  refine errsOnly_loadStorage ?_
  refine errsOnly_okOr (fun _ => unwritten_self _) fun newBalance hbalance => ?_
  refine errsOnly_of_avoids fun e => avoids_updateStorage (avoids_loadStorage ?_)
  have deposited : ∃ c, (w.storage.stats.getD TreasuryStats.zero).lifetimeDeposited.checkedAdd
      amount = some c := by
    rw [MachineInt.checkedAdd_eq_some_iff] at hbalance
    have positive : 0 < amount.val := by simpa using short
    have small : (w.storage.balance.getD 0).val + amount.val ≤ IntType.max ⟨true, 128⟩ := by
      rw [← hbalance]
      exact newBalance.le_max
    exact MachineInt.exists_checkedAdd positive.le (not_lt.mp fun beyond => fits ⟨small, beyond⟩)
  exact avoids_okOr_some deposited fun _ _ => avoids_updateStorage avoids_settle

/-- With it the balance is written before the error is returned, and nothing else is. -/
theorem errsOnly_deposit_of_late (late : OverflowsLate w.storage (.deposit fromAddress amount)) :
    ErrsOnly (fun e w' => e = .overflow ∧ BalanceRaised w.storage amount w'.storage)
      (deposit env fromAddress amount) w := by
  unfold deposit loadBalance setBalance getStats setStats
  refine errsOnly_requireAuth (errsOnly_rejectIf (fun short => ?_) fun _ => ?_)
  · exact absurd late.positive (by simpa using short)
  obtain ⟨newBalance, hbalance⟩ := late.exists_newBalance
  refine errsOnly_loadStorage (errsOnly_okOr (fun none => ?_) fun newBalance hbalance => ?_)
  · rw [none] at hbalance
    cases hbalance
  rw [MachineInt.checkedAdd_eq_some_iff] at hbalance
  refine errsOnly_updateStorage (errsOnly_loadStorage ?_)
  refine errsOnly_okOr (fun _ => ⟨rfl, newBalance, hbalance, rfl⟩) ?_
  intro deposited hdeposited
  have overflows : (w.storage.stats.getD TreasuryStats.zero).lifetimeDeposited.checkedAdd amount =
      none := late.deposited_eq_none
  exact absurd (hdeposited.symm.trans overflows) (Option.some_ne_none deposited)

/-- The late check fails. -/
theorem fails_deposit_of_late (authorised : env.authorised fromAddress = true)
    (late : OverflowsLate w.storage (.deposit fromAddress amount)) :
    ∃ w', Fails (deposit env fromAddress amount) w (.error .overflow) w' ∧
      BalanceRaised w.storage amount w'.storage := by
  obtain ⟨newBalance, hbalance⟩ := late.exists_newBalance
  refine ⟨{ w with storage := { w.storage with balance := some newBalance } }, ?_, newBalance,
    MachineInt.checkedAdd_eq_some_iff.mp hbalance, rfl⟩
  simp [deposit, fails_bind, authorised, not_le.mpr late.positive, hbalance,
    late.deposited_eq_none, -MachineInt.checkedAdd_eq_some_iff]

end Calls

/-! ## Every reached state -/

section Reached

variable {Address X : Type} {env : Env Address X} {w w' : State Address X}

/-- The treasury has not been initialized and nothing is stored, or its records are those
of a log. -/
def FreshOrLogged (s : Storage Address) : Prop :=
  s = Storage.fresh ∨ ∃ log, Represents s log

/-- The books have room before `initialize`, and after it. -/
theorem FreshOrLogged.room {s : Storage Address} (h : FreshOrLogged s) : Room s := by
  rcases h with rfl | ⟨log, rep⟩
  · constructor <;> simp [Storage.fresh, TreasuryStats.zero]
  · exact rep.room

/-- Before `initialize` a call that returns is that, or it has only read. -/
theorem freshOrLogged_of_fresh (fresh : w.storage = Storage.fresh) {c : Call Address}
    {v : Value Address} (h : Returns (dispatch env c) w v w') : FreshOrLogged w'.storage := by
  -- Without a stored council no gate passes, and without a token no deposit can be made.
  have noCouncil : ¬ CouncilPasses env w := by
    rintro ⟨council, stored, -⟩
    rw [fresh] at stored
    cases stored
  cases c with
  | getBalance | getHistory entryId | getProgram programId | getTreasuryStats =>
      obtain rfl := world_eq_of_reads h trivial
      exact Or.inl fresh
  | initializeContract council tokenAddress =>
      obtain ⟨_, hcall, -⟩ := returns_bind_pure.mp h
      obtain ⟨-, valid, rfl⟩ := returns_initializeContract.mp hcall
      have start : Represents (initialState council tokenAddress w.outside).storage
          AuditLog.empty :=
        represents_initializeContract (u := ())
          (returns_initializeContract_freshState.mpr ⟨valid, rfl⟩)
      refine Or.inr ⟨AuditLog.empty, ?_⟩
      rw [fresh]
      exact start
  | deposit fromAddress amount =>
      obtain ⟨_, hcall, -⟩ := returns_bind_pure.mp h
      obtain ⟨-, -, -, -, -, -, -, -, token, stored, -⟩ := returns_deposit.mp hcall
      rw [fresh] at stored
      cases stored
  | withdraw toAddress amount memo =>
      obtain ⟨_, hcall, -⟩ := returns_bind_pure.mp h
      exact absurd (returns_withdraw.mp hcall).1 noCouncil
  | createProgram name budget =>
      obtain ⟨_, hcall, -⟩ := returns_bind_pure.mp h
      exact absurd (returns_createProgram.mp hcall).1 noCouncil
  | updateProgramBudget programId newBudget =>
      obtain ⟨_, hcall, -⟩ := returns_bind_pure.mp h
      exact absurd (returns_updateProgramBudget.mp hcall).1 noCouncil
  | deactivateProgram programId =>
      obtain ⟨_, hcall, -⟩ := returns_bind_pure.mp h
      exact absurd (returns_deactivateProgram.mp hcall).1 noCouncil
  | allocate programId amount =>
      obtain ⟨_, hcall, -⟩ := returns_bind_pure.mp h
      exact absurd (returns_allocate.mp hcall).1 noCouncil

/-- Before `initialize` no call can write to the books. -/
theorem freshOrLogged_call {c : Call Address} {v : Value Address}
    (start : FreshOrLogged w.storage) (h : Returns (dispatch env c) w v w') :
    FreshOrLogged w'.storage := by
  rcases start with fresh | ⟨log, rep⟩
  · exact freshOrLogged_of_fresh fresh h
  · obtain ⟨log', -, rep'⟩ := represents_call rep h
    exact Or.inr ⟨log', rep'⟩

/-- There is room in the books wherever a run from the deployment leads. -/
theorem room_run (x : X) (as : List (Action Address X (Call Address) Empty)) :
    Room (machine.run (freshState x) as).storage := by
  refine FreshOrLogged.room ?_
  exact machine.run_invariant (fun w => FreshOrLogged w.storage)
    (Deployed.step_storage FreshOrLogged (fun _ _ _ _ _ => freshOrLogged_call) fun p => p.elim)
    (Or.inl rfl) as

/-- An error of a call that does not overflow late comes before its writes. -/
theorem errsOnly_dispatch (room : Room w.storage) {c : Call Address}
    (early : ¬ OverflowsLate w.storage c) : ErrsOnly (Unwritten w) (dispatch env c) w := by
  cases c with
  | getBalance => exact errsOnly_bind_pure errsOnly_getBalance
  | getHistory entryId => exact errsOnly_bind_pure errsOnly_getHistory
  | initializeContract council tokenAddress => exact errsOnly_bind_pure errsOnly_initializeContract
  | deposit fromAddress amount => exact errsOnly_bind_pure (errsOnly_deposit early)
  | withdraw toAddress amount memo => exact errsOnly_bind_pure (errsOnly_withdraw room)
  | createProgram name budget => exact errsOnly_bind_pure errsOnly_createProgram
  | updateProgramBudget programId newBudget =>
      exact errsOnly_bind_pure errsOnly_updateProgramBudget
  | deactivateProgram programId => exact errsOnly_bind_pure errsOnly_deactivateProgram
  | getProgram programId => exact errsOnly_bind_pure errsOnly_getProgram
  | allocate programId amount => exact errsOnly_bind_pure (errsOnly_allocate room)
  | getTreasuryStats => exact errsOnly_bind_pure errsOnly_getTreasuryStats

/-- **Treasury errors come before effects, but for one.**  In every state reached from the
deployment, a call that returns `Err` has written nothing, with one exception: a deposit
that fits on the balance and takes what was deposited so far out of range.  It returns
`Overflow` with the balance written, and nothing else. -/
theorem errors_before_effects (x : X) (as : List (Action Address X (Call Address) Empty))
    {c : Call Address} {e : ContractError}
    (failed : Fails (dispatch env c) (machine.run (freshState x) as) (.error e) w') :
    let s := (machine.run (freshState x) as).storage
    (w'.storage = s ↔ ¬ OverflowsLate s c) ∧
      ∀ fromAddress amount, c = .deposit fromAddress amount → OverflowsLate s c →
        e = .overflow ∧ BalanceRaised s amount w'.storage := by
  intro s
  have raised : ∀ fromAddress amount, c = .deposit fromAddress amount → OverflowsLate s c →
      e = .overflow ∧ BalanceRaised s amount w'.storage := by
    rintro fromAddress amount rfl late
    exact errsOnly_bind_pure (errsOnly_deposit_of_late late) e w' failed
  refine ⟨⟨fun unwritten late => ?_, fun early => ?_⟩, raised⟩
  · cases c with
    | deposit fromAddress amount =>
        obtain ⟨-, written⟩ := raised fromAddress amount rfl late
        exact written.ne late.positive unwritten
    | _ => exact late
  · exact errsOnly_dispatch (room_run x as) early e w' failed

end Reached

/-! ## A late error -/

/-- A fresh deployment at address 0, when address 5 has as many tokens as an `i128` can
count. -/
def largestDepositor : State ℕ (Balances ℕ) :=
  freshState fun a => if a = 5 then 170141183460469231731687303715884105727 else 0

/-- Address 5 deposits all its tokens, and is paid them back. -/
def depositAndReturn : List (Action ℕ (Balances ℕ) (Call ℕ) Empty) :=
  [.call (tokenLedger 0 5) (.initializeContract ⟨[7], 1⟩ 9),
    .call (tokenLedger 0 5) (.deposit 5 170141183460469231731687303715884105727),
    .call (tokenLedger 0 5) (.withdraw 5 170141183460469231731687303715884105727
      (HostString.fromStr "refund"))]

/-- With an empty balance, a deposit of 1 returns `Overflow` and leaves a balance of 1 to be
undone. -/
theorem lateDeposit_writesBalance :
    let reached := machine.run largestDepositor depositAndReturn
    reached.storage.balance = some 0 ∧
      ∃ w', Fails (dispatch (tokenLedger 0 5) (.deposit 5 1)) reached (.error .overflow) w' ∧
        w'.storage.balance = some 1 := by
  intro reached
  have empty : reached.storage.balance = some 0 := by decide +kernel
  have late : OverflowsLate reached.storage (.deposit 5 1) :=
    ⟨by decide +kernel, by decide +kernel⟩
  have authorised : (tokenLedger 0 5).authorised 5 = true := rfl
  obtain ⟨w', failed, newBalance, hbalance, written⟩ := fails_deposit_of_late authorised late
  refine ⟨empty, w', fails_bind.mpr (Or.inl failed), ?_⟩
  rw [written]
  have one : newBalance = 1 := by
    apply MachineInt.ext
    rw [hbalance, empty]
    decide
  rw [one]

/-- In the same state a withdrawal of 1 is refused, with nothing written. -/
theorem errors_before_effects_emptyTreasury :
    ∃ w', Fails (dispatch (tokenLedger 0 5) (.withdraw 5 1 (HostString.fromStr "grant")))
        (machine.run largestDepositor depositAndReturn) (.error .insufficientBalance) w' ∧
      w'.storage = (machine.run largestDepositor depositAndReturn).storage := by
  have approved : CouncilPasses (tokenLedger 0 5)
      (machine.run largestDepositor depositAndReturn) :=
    ⟨⟨[7], 1⟩, by decide +kernel, (returns_requireAuthOfCouncil (by decide)).mpr ⟨by decide, rfl⟩⟩
  have failed : Fails (dispatch (tokenLedger 0 5) (.withdraw 5 1 (HostString.fromStr "grant")))
      (machine.run largestDepositor depositAndReturn) (.error .insufficientBalance)
      (machine.run largestDepositor depositAndReturn) :=
    fails_bind.mpr (Or.inl (fails_withdraw_insufficientBalance approved (by decide)
      (by decide +kernel)))
  exact ⟨_, failed, (errors_before_effects _ depositAndReturn failed).1.mpr id⟩

end StellarConduit.Treasury
