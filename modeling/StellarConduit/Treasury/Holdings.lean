import StellarConduit.Soroban.Custody
import StellarConduit.Treasury.History

/-!
# The balance and the tokens

The treasury keeps its balance as a number of its own, beside the tokens it holds.
`deposit` and `withdraw` change both alike; `allocate` lowers the number and moves no
tokens, because a program has no address to send them to.  What has been allocated is
still held, and no call can spend it any more.

The sources describe the balance as the treasury's current token balance, and `get_balance`
returns it as such.  Whether it is depends on one entry point.  `unbooked` is the difference of
the tokens and the balance; a deposit and a withdrawal leave it alone, an allocation raises it by
its amount, which is positive, and nothing lowers it.  So over a run it is the sum of what was
allocated, and it is zero at every moment exactly if there was no allocation.

This is for a run in which tokens reach the treasury by its own calls only.  Somebody may send it
tokens directly, and these are held beside the balance as well.

## Main definitions

* `AllocateAccepted`, `Allocates` — an allocation goes through.
* `unbooked` — what is held beyond the balance.
* `BalanceHeld` — the balance is what is held.

## Main results

* `unbooked_step` — a step moves what is held beyond the balance by what it allocates.
* `balance_eq_held_iff` — the balance is what is held, at every moment of a run, exactly
  when no allocation goes through.
-/

namespace StellarConduit.Treasury

open Soroban Contract

section Allocations

variable {Address X : Type} {env : Env Address X} {w w' : State Address X}

/-- The state and the arguments at which `allocate` goes through. -/
structure AllocateAccepted (env : Env Address X) (w : State Address X) (id : U64)
    (amount : I128) : Prop where
  /-- The council approves. -/
  council : CouncilPasses env w
  /-- The amount is positive, -/
  positive : 0 < amount.val
  /-- within the budget of an active program, -/
  program : ∃ program, w.storage.spendingProgram.get id = some program ∧ program.active = true ∧
    program.spent.val + amount.val ≤ program.budget.val
  /-- and covered by the balance. -/
  covered : amount.val ≤ (w.storage.balance.getD 0).val
  /-- The lifetime total has room for it, -/
  allocated : IntType.Contains ⟨true, 128⟩
    ((w.storage.stats.getD TreasuryStats.zero).lifetimeAllocated.val + amount.val)
  /-- and the history for its entry. -/
  nextId : IntType.Contains ⟨false, 64⟩ ((w.storage.entryCount.getD 0).val + 1)

/-- These are the conditions under which `allocate` returns. -/
theorem allocate_returns_iff {id : U64} {amount : I128} :
    (∃ w', Returns (allocate env id amount) w () w') ↔ AllocateAccepted env w id amount := by
  constructor
  · rintro ⟨w', h⟩
    obtain ⟨hcouncil, hpos, program, hprogram, hactive, newSpent, hspent, hbudget, hcovered,
      newBalance, -, allocated, hallocated, nextId, hnext, -⟩ := returns_allocate.mp h
    exact
      { council := hcouncil
        positive := hpos
        program := ⟨program, hprogram, hactive, hspent ▸ hbudget⟩
        covered := hcovered
        allocated := MachineInt.contains_iff.mpr ⟨allocated, hallocated⟩
        nextId := MachineInt.contains_iff.mpr ⟨nextId, hnext⟩ }
  · intro accepted
    obtain ⟨program, hprogram, hactive, hbudget⟩ := accepted.program
    obtain ⟨allocated, hallocated⟩ := MachineInt.contains_iff.mp accepted.allocated
    obtain ⟨nextId, hnext⟩ := MachineInt.contains_iff.mp accepted.nextId
    have positive := accepted.positive
    have covered := accepted.covered
    -- What is spent stays below the budget, and what is left is not negative.
    have budget := program.budget.le_max
    have spent := program.spent.min_le
    have balance := (w.storage.balance.getD 0).le_max
    have lowest := (IntType.zero_mem ⟨true, 128⟩).1
    obtain ⟨newSpent, hspent⟩ : ∃ c : I128, c.val = program.spent.val + amount.val :=
      MachineInt.contains_iff.mp ⟨by omega, by omega⟩
    obtain ⟨newBalance, hbalance⟩ :
        ∃ c : I128, c.val = (w.storage.balance.getD 0).val - amount.val :=
      MachineInt.contains_iff.mp ⟨by omega, by omega⟩
    exact ⟨_, returns_allocate.mpr ⟨accepted.council, positive, program, hprogram, hactive, newSpent,
      hspent, hspent ▸ hbudget, covered, newBalance, hbalance, allocated, hallocated, nextId, hnext,
      rfl⟩⟩

/-- The amount of a successful `allocate`. -/
def allocated (r : Record (State Address X) (Action Address X (Call Address) Empty)
    (Reply ContractError (Value Address))) : Int :=
  match r.action, r.reply with
  | .call _ (.allocate _ amount), some (.ok _) => amount.val
  | _, _ => 0

/-- The action is an `allocate` that goes through. -/
def Allocates (w : State Address X) : Action Address X (Call Address) Empty → Prop
  | .call env (.allocate id amount) => AllocateAccepted env w id amount
  | _ => False

/-- A step allocates nothing exactly if it is no accepted allocation. -/
theorem allocated_eq_zero_iff (w : State Address X)
    (action : Action Address X (Call Address) Empty) :
    allocated (machine.record w action) = 0 ↔ ¬ Allocates w action := by
  cases action with
  | call env c =>
      cases c with
      | allocate id amount =>
          rcases record_call_cases env (.allocate id amount) w with
            ⟨v, w', h, hrecord⟩ | ⟨e, hrecord⟩
          · obtain ⟨_, hcall, -⟩ := returns_bind_pure.mp h
            have accepted := allocate_returns_iff.mp ⟨w', hcall⟩
            rw [hrecord]
            exact iff_of_false accepted.positive.ne' (not_not.mpr accepted)
          · have rejected : ¬ AllocateAccepted env w id amount := by
              intro accepted
              obtain ⟨w', hcall⟩ := allocate_returns_iff.mpr accepted
              have returned := Deployed.record_of_returns dispatch provide
                (c := .allocate id amount) (returns_bind_pure.mpr ⟨(), hcall, rfl⟩)
              have hreply := congrArg Record.reply (returned.symm.trans hrecord)
              simp at hreply
            rw [hrecord]
            exact iff_of_true rfl rejected
      | _ => exact iff_of_true rfl id
  | provision p => exact p.elim
  | elsewhere x => exact iff_of_true rfl id

end Allocations

section Holdings

variable {Address : Type} [DecidableEq Address] {treasury token : Address}
  {env : Env Address (Balances Address)} {w w' : State Address (Balances Address)}

/-- What the treasury holds beyond its balance. -/
def unbooked (treasury : Address) (w : State Address (Balances Address)) : Int :=
  w.outside treasury - (w.storage.balance.getD 0).val

/-- The treasury is initialized, and knows its token. -/
structure Initialized (token : Address) (s : Storage Address) : Prop where
  /-- There is a council. -/
  adminCouncil : s.adminCouncil.isSome
  /-- The token is known. -/
  tokenAddress : s.tokenAddress = some token

/-- A step in which the treasury's tokens move through its entry points only, and not
from the treasury to itself. -/
def TreasuryStep (treasury token : Address)
    (r : Record (State Address (Balances Address))
      (Action Address (Balances Address) (Call Address) Empty)
      (Reply ContractError (Value Address))) : Prop :=
  TokenStep treasury token (fun held held' => held' = held) r ∧
    ∀ env toAddress amount memo, r.action = .call env (.withdraw toAddress amount memo) →
      toAddress ≠ treasury

/-! ## One step -/

/-- A call that returns moves what is unbooked by what it allocates. -/
theorem unbooked_call (inv : Initialized token w.storage) (tokens : TokenEnv treasury token env)
    {c : Call Address} {v : Value Address}
    (recipient : ∀ toAddress amount memo, c = .withdraw toAddress amount memo →
      toAddress ≠ treasury)
    (h : Returns (dispatch env c) w v w') :
    Initialized token w'.storage ∧ unbooked treasury w' =
      unbooked treasury w + allocated ⟨w, .call env c, some (.ok v), w'⟩ := by
  cases outcome_of_returns inv.adminCouncil h with
  | @deposit fromAddress amount _ hcall =>
      obtain ⟨hauth, -, newBalance, hbalance, deposited, -, nextId, -, t, ht, b, htransfer, hw'⟩ :=
        returns_deposit.mp hcall
      obtain rfl : token = t := Option.some.inj (inv.tokenAddress.symm.trans ht)
      rw [tokens.current] at htransfer
      have outside : w'.outside = w.outside.move fromAddress treasury amount.val := by
        rw [hw']
        exact tokens.transfer htransfer
      have held : w'.outside treasury = w.outside treasury + amount.val := by
        rw [outside, Balances.move_of_ne_sender (tokens.ne_holder hauth), if_pos rfl]
      have booked : (w'.storage.balance.getD 0).val =
          (w.storage.balance.getD 0).val + amount.val := by rw [hw']; exact hbalance
      refine ⟨by rw [hw']; exact ⟨inv.adminCouncil, inv.tokenAddress⟩, ?_⟩
      rw [unbooked, unbooked, held, booked]
      simp only [allocated]
      omega
  | @withdraw toAddress amount memo _ hcall =>
      obtain ⟨-, -, -, newBalance, hbalance, withdrawn, -, nextId, -, t, ht, b, htransfer, hw'⟩ :=
        returns_withdraw.mp hcall
      obtain rfl : token = t := Option.some.inj (inv.tokenAddress.symm.trans ht)
      rw [tokens.current] at htransfer
      have other : treasury ≠ toAddress := (recipient toAddress amount memo rfl).symm
      have outside : w'.outside = w.outside.move treasury toAddress amount.val := by
        rw [hw']
        exact tokens.transfer htransfer
      have held : w'.outside treasury = w.outside treasury - amount.val := by
        rw [outside, Balances.move_sender other]
      have booked : (w'.storage.balance.getD 0).val =
          (w.storage.balance.getD 0).val - amount.val := by rw [hw']; exact hbalance
      refine ⟨by rw [hw']; exact ⟨inv.adminCouncil, inv.tokenAddress⟩, ?_⟩
      rw [unbooked, unbooked, held, booked]
      simp only [allocated]
      omega
  | @allocate id amount _ hcall =>
      obtain ⟨-, -, _, -, -, _, -, -, -, newBalance, hbalance, _, -, _, -, rfl⟩ :=
        returns_allocate.mp hcall
      refine ⟨⟨inv.adminCouncil, inv.tokenAddress⟩, ?_⟩
      -- No tokens move, and the balance falls by the amount.
      simp only [unbooked, allocated, Option.getD_some, hbalance]
      omega
  | other quiet kept =>
      have none : allocated ⟨w, .call env c, some (.ok v), w'⟩ = 0 := by
        cases c <;> first | rfl | exact absurd trivial quiet
      refine ⟨⟨kept.adminCouncil ▸ inv.adminCouncil, kept.tokenAddress ▸ inv.tokenAddress⟩, ?_⟩
      rw [none, add_zero, unbooked, unbooked, kept.outside, kept.balance]

/-- A step moves what is unbooked by what it allocates. -/
theorem unbooked_step (w : State Address (Balances Address))
    (action : Action Address (Balances Address) (Call Address) Empty)
    (allowed : TreasuryStep treasury token (machine.record w action))
    (inv : Initialized token w.storage) :
    Initialized token (machine.step w action).2.storage ∧
      unbooked treasury (machine.step w action).2 =
        unbooked treasury w + allocated (machine.record w action) := by
  revert allowed
  refine Deployed.record_rule dispatch provide
    (fun r => TreasuryStep treasury token r → Initialized token r.after.storage ∧
      unbooked treasury r.after = unbooked treasury w + allocated r) w action
    ?returned ?failed ?provision ?elsewhere
  case returned =>
    intro env c v w' h allowed
    have recipient : ∀ toAddress amount memo, c = .withdraw toAddress amount memo →
        toAddress ≠ treasury := by
      rintro toAddress amount memo rfl
      exact allowed.2 env toAddress amount memo rfl
    exact unbooked_call inv allowed.1 recipient h
  case failed =>
    intro env c e _
    exact ⟨inv, by simp [allocated]⟩
  case provision =>
    intro p
    exact p.elim
  case elsewhere =>
    intro b allowed
    have same : b treasury = w.outside treasury := allowed.1
    exact ⟨inv, by simp [unbooked, allocated, same]⟩

/-! ## Runs -/

variable {council : AdminCouncil Address} {b : Balances Address} {u : Unit}

/-- The balance that `get_balance` answers is what the treasury holds. -/
def BalanceHeld (treasury : Address) (w : State Address (Balances Address)) : Prop :=
  ∃ balance, Returns getBalance w balance w ∧ balance.val = w.outside treasury

omit [DecidableEq Address] in
/-- The balance is what is held if nothing is held beyond it. -/
theorem balanceHeld_iff : BalanceHeld treasury w ↔ unbooked treasury w = 0 := by
  constructor
  · rintro ⟨balance, hreturns, hbalance⟩
    obtain ⟨rfl, -⟩ := returns_getBalance.mp hreturns
    rw [unbooked]
    omega
  · intro h
    rw [unbooked] at h
    exact ⟨_, returns_getBalance.mpr ⟨rfl, rfl⟩, by omega⟩

/-- Along a run, what is held beyond the balance is what has been allocated. -/
theorem unbooked_run
    (h : Returns (initializeContract council token) (freshState b) u w) (start : b treasury = 0)
    {as : List (Action Address (Balances Address) (Call Address) Empty)}
    (allowed : ∀ r ∈ machine.trace w as, TreasuryStep treasury token r) :
    unbooked treasury (machine.run w as) = Machine.total allocated (machine.trace w as) := by
  obtain ⟨-, rfl⟩ := returns_initializeContract_freshState.mp h
  have zero : unbooked treasury (initialState council token b) = 0 := by
    simp [unbooked, initialState, start]
  have run := machine.potential_run_of (fun w => Initialized token w.storage)
    (TreasuryStep treasury token) (unbooked treasury) allocated
    (fun w action allowed inv => (unbooked_step w action allowed inv).1)
    (fun w action allowed inv => (unbooked_step w action allowed inv).2)
    (show Initialized token (initialState council token b).storage from ⟨rfl, rfl⟩) allowed
  rw [run, zero, zero_add]

/-- **The treasury's balance is what it holds exactly as long as nothing is
allocated.**  In a run in which its tokens move through its entry points only,
`get_balance` agrees with the treasury's token balance at every moment if and only if no
`allocate` goes through. -/
theorem balance_eq_held_iff
    (h : Returns (initializeContract council token) (freshState b) u w) (start : b treasury = 0)
    {as : List (Action Address (Balances Address) (Call Address) Empty)}
    (allowed : ∀ r ∈ machine.trace w as, TreasuryStep treasury token r) :
    (∀ pre, pre <+: as → BalanceHeld treasury (machine.run w pre)) ↔
      ∀ r ∈ machine.trace w as, ¬ Allocates r.before r.action := by
  have allowedUpTo (pre : List (Action Address (Balances Address) (Call Address) Empty))
      (hpre : pre <+: as) : ∀ r ∈ machine.trace w pre, TreasuryStep treasury token r := by
    obtain ⟨post, rfl⟩ := hpre
    intro r hr
    apply allowed r
    rw [Machine.trace_append]
    exact List.mem_append_left _ hr
  calc (∀ pre, pre <+: as → BalanceHeld treasury (machine.run w pre))
      ↔ ∀ pre, pre <+: as → Machine.total allocated (machine.trace w pre) = 0 := by
        refine forall₂_congr fun pre hpre => ?_
        rw [balanceHeld_iff, unbooked_run h start (allowedUpTo pre hpre)]
    _ ↔ ∀ r ∈ machine.trace w as, allocated r = 0 :=
        machine.sum_prefixes_eq_zero_iff allocated w as
    _ ↔ ∀ r ∈ machine.trace w as, ¬ Allocates r.before r.action := by
        refine forall₂_congr fun r hr => ?_
        obtain ⟨pre, action, post, -, rfl⟩ := machine.mem_trace.mp hr
        exact allocated_eq_zero_iff (machine.run w pre) action

end Holdings

/-! ## One allocation -/

/-- The treasury at address 0, with its token at address 9, before anyone but address 5
has tokens. -/
def sampleTreasury : State ℕ (Balances ℕ) :=
  initialState ⟨[7], 1⟩ 9 fun a => if a = 5 then 1000 else 0

/-- The sample treasury is one that has been initialized. -/
theorem sampleTreasury_initialized :
    Returns (initializeContract ⟨[7], 1⟩ 9) (freshState sampleTreasury.outside) ()
      sampleTreasury :=
  returns_initializeContract_freshState.mpr ⟨by decide, rfl⟩

/-- Address 5 deposits 100, and 40 of these are allocated to a program. -/
def depositAndAllocate : List (Action ℕ (Balances ℕ) (Call ℕ) Empty) :=
  [.call (tokenLedger 0 5) (.deposit 5 100),
    .call (tokenLedger 0 5) (.createProgram (HostString.fromStr "grants") 80),
    .call (tokenLedger 0 5) (.allocate 1 40)]

/-- Tokens move by the treasury's calls in the sample run. -/
theorem depositAndAllocate_treasurySteps :
    ∀ r ∈ machine.trace sampleTreasury depositAndAllocate, TreasuryStep 0 9 r := by
  intro r hr
  have calls : ∀ action ∈ depositAndAllocate, ∃ env c, action = .call env c ∧
      TokenEnv 0 9 env := by
    simp [depositAndAllocate, tokenLedger_tokenEnv]
  refine ⟨Deployed.tokenStep_of_calls calls r hr, fun env toAddress amount memo hr' => ?_⟩
  have mem := machine.action_mem_of_mem_trace hr
  rw [hr'] at mem
  simp [depositAndAllocate] at mem

/-- The balance is 60, and the treasury holds 100. -/
theorem depositAndAllocate_unbooked :
    Returns (initializeContract ⟨[7], 1⟩ 9) (freshState sampleTreasury.outside) ()
        sampleTreasury ∧
      (∀ r ∈ machine.trace sampleTreasury depositAndAllocate, TreasuryStep 0 9 r) ∧
      (machine.run sampleTreasury depositAndAllocate).outside 0 = 100 ∧
      ((machine.run sampleTreasury depositAndAllocate).storage.balance.getD 0).val = 60 :=
  ⟨sampleTreasury_initialized, depositAndAllocate_treasurySteps, by decide +kernel⟩

/-- The sample run allocates, so at its end they differ. -/
theorem balance_eq_held_iff_depositAndAllocate :
    (∀ pre, pre <+: depositAndAllocate → BalanceHeld 0 (machine.run sampleTreasury pre)) ↔
      ∀ r ∈ machine.trace sampleTreasury depositAndAllocate, ¬ Allocates r.before r.action :=
  balance_eq_held_iff sampleTreasury_initialized rfl depositAndAllocate_treasurySteps

end StellarConduit.Treasury
