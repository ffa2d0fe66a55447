import StellarConduit.Soroban.Numbered
import StellarConduit.Treasury.History

/-!
# Spending programs

A program is one record with its budget and what has been spent of it, rewritten as a
whole by `allocate`, `update_program_budget` and `deactivate_program`; what has been
allocated in all is a number of its own, in the statistics.  `ProgramEffect` says what
a call may do to the two, and the facts about programs follow from it alone.

There are three effects.  A call keeps all programs, or it makes one under the next number, or it
rewrites one by a move.  A move keeps the number and the name, spends more or the same, never
beyond the budget if it was within it before, and does nothing to what is spent of a program that
is retired.  No move makes an inactive program active, so to be retired is for good: the entry
points offer no way back, and `update_program_budget` accepts an inactive program without
reviving it.

The total over all programs changes in every case by what the lifetime total of allocations
changes, so the two are equal from the beginning on.

## Main definitions

* `ProgramInvariant`, `Programs` — what is stored at one moment.
* `ProgramMoves`, `ProgramsKept` — what may happen to programs between two moments.
* `ProgramEffect` — what one call does.

## Main results

* `programEffect_call` — every call has such an effect.
* `programs_withinBudget` — the programs in every reachable state.
-/

namespace StellarConduit.Treasury

open Soroban Contract

section Programs

variable {Address : Type}

/-- What holds of a program under the key `id`. -/
structure ProgramInvariant (id : U64) (p : SpendingProgram) : Prop where
  /-- It is stored under its number. -/
  key : p.programId = id
  /-- Its name has a checked length. -/
  name : 3 ≤ p.name.len ∧ p.name.len ≤ 64
  /-- What is spent is not negative, -/
  spent_nonneg : 0 ≤ p.spent.val
  /-- and within the budget. -/
  spent_le : p.spent.val ≤ p.budget.val

/-- What has been spent of all programs. -/
def spentTotal (s : Storage Address) : Int := s.spendingProgram.sum fun _ p => p.spent.val

/-- What has been allocated in all, by the statistics. -/
def allocatedTotal (s : Storage Address) : Int :=
  (s.stats.getD TreasuryStats.zero).lifetimeAllocated.val

/-- The programs of the treasury: numbered without a gap, each within its budget, and
together what was allocated. -/
structure Programs (s : Storage Address) : Prop where
  /-- Programs have the numbers up to the counter. -/
  numbered : Numbered s.spendingProgram (s.programCount.getD 0)
  /-- Every program is in order. -/
  program : ∀ id p, s.spendingProgram.get id = some p → ProgramInvariant id p
  /-- What is spent of all programs is what was allocated. -/
  total : spentTotal s = allocatedTotal s

/-- What a call may do to a stored program: spending only grows and stays within the
budget, and of an inactive program nothing is spent any more. -/
structure ProgramMoves (p p' : SpendingProgram) : Prop where
  /-- Its number -/
  programId : p'.programId = p.programId
  /-- and its name stay. -/
  name : p'.name = p.name
  /-- Nothing that was spent comes back. -/
  spent_le : p.spent.val ≤ p'.spent.val
  /-- It stays within its budget, which may change. -/
  within : p.spent.val ≤ p.budget.val → p'.spent.val ≤ p'.budget.val
  /-- Once inactive, it stays inactive and is spent of no more. -/
  retired : p.active = false → p'.active = false ∧ p'.spent = p.spent

/-- Nothing happens to the program. -/
theorem ProgramMoves.refl (p : SpendingProgram) : ProgramMoves p p :=
  ⟨rfl, rfl, le_refl _, id, fun inactive => ⟨inactive, rfl⟩⟩

/-- Two moves are one. -/
theorem ProgramMoves.trans {p p' p'' : SpendingProgram} (h : ProgramMoves p p')
    (h' : ProgramMoves p' p'') : ProgramMoves p p'' where
  programId := h'.programId.trans h.programId
  name := h'.name.trans h.name
  spent_le := le_trans h.spent_le h'.spent_le
  within := fun within => h'.within (h.within within)
  retired := by
    intro inactive
    obtain ⟨inactive', spent'⟩ := h.retired inactive
    obtain ⟨inactive'', spent''⟩ := h'.retired inactive'
    exact ⟨inactive'', spent''.trans spent'⟩

/-- What a call does to the programs and to what has been allocated. -/
inductive ProgramEffect (s s' : Storage Address) : Prop where
  /-- No program is concerned. -/
  | kept (programs : s'.spendingProgram = s.spendingProgram)
      (count : s'.programCount = s.programCount)
      (allocated : allocatedTotal s' = allocatedTotal s)
  /-- A program is made, with nothing spent. -/
  | created (r : U64) (p : SpendingProgram) (hr : r.val = (s.programCount.getD 0).val + 1)
      (new : ProgramInvariant r p) (unspent : p.spent.val = 0)
      (programs : s'.spendingProgram = s.spendingProgram.set r p)
      (count : s'.programCount = some r) (allocated : allocatedTotal s' = allocatedTotal s)
  /-- A program moves, and the total of allocations with it. -/
  | rewritten (id : U64) (p p' : SpendingProgram) (hp : s.spendingProgram.get id = some p)
      (moves : ProgramMoves p p') (programs : s'.spendingProgram = s.spendingProgram.set id p')
      (count : s'.programCount = s.programCount)
      (allocated : allocatedTotal s' + p.spent.val = allocatedTotal s + p'.spent.val)

/-- The programs of one moment, found again at another. -/
def ProgramsKept (s s' : Storage Address) : Prop :=
  ∀ id p, s.spendingProgram.get id = some p →
    ∃ p', s'.spendingProgram.get id = some p' ∧ ProgramMoves p p'

/-- All programs are there. -/
theorem ProgramsKept.refl (s : Storage Address) : ProgramsKept s s :=
  fun _ p hp => ⟨p, hp, .refl p⟩

/-- What stays twice stays. -/
theorem ProgramsKept.trans {s s' s'' : Storage Address} (h : ProgramsKept s s')
    (h' : ProgramsKept s' s'') : ProgramsKept s s'' := by
  intro id p hp
  obtain ⟨p', hp', moves⟩ := h id p hp
  obtain ⟨p'', hp'', moves'⟩ := h' id p' hp'
  exact ⟨p'', hp'', moves.trans moves'⟩

variable {s s' : Storage Address}

/-- An effect keeps every program. -/
theorem ProgramEffect.programsKept (h : ProgramEffect s s') (inv : Programs s) :
    ProgramsKept s s' := by
  intro j q hq
  cases h with
  | kept programs =>
      rw [programs]
      exact ⟨q, hq, .refl q⟩
  | created r p hr new unspent programs =>
      have other : j ≠ r := by
        rintro rfl
        rw [inv.numbered.fresh hr] at hq
        cases hq
      rw [programs, Store.get_set_of_ne _ _ other]
      exact ⟨q, hq, .refl q⟩
  | rewritten id p p' hp moves programs =>
      rw [programs, Store.get_set]
      split
      · rename_i hj
        subst hj
        obtain rfl : p = q := Option.some.inj (hp.symm.trans hq)
        exact ⟨p', rfl, moves⟩
      · exact ⟨q, hq, .refl q⟩

/-- A program that moves stays well formed under its key. -/
theorem ProgramInvariant.moves {id : U64} {p p' : SpendingProgram} (inv : ProgramInvariant id p)
    (moves : ProgramMoves p p') : ProgramInvariant id p' where
  key := moves.programId.trans inv.key
  name := by
    rw [moves.name]
    exact inv.name
  spent_nonneg := le_trans inv.spent_nonneg moves.spent_le
  spent_le := moves.within inv.spent_le

/-- An effect keeps the programs in order. -/
theorem ProgramEffect.programs (h : ProgramEffect s s') (inv : Programs s) : Programs s' := by
  cases h with
  | kept programs count allocated =>
      exact
        { numbered := by
            rw [programs, count]
            exact inv.numbered
          program := by
            rw [programs]
            exact inv.program
          total := by
            rw [allocated, ← inv.total, spentTotal, spentTotal, programs] }
  | created r p hr new unspent programs count allocated =>
      have hnone := inv.numbered.fresh hr
      refine ⟨?_, fun j q hq => ?_, ?_⟩
      · rw [programs, count]
        exact inv.numbered.append hr p
      · rw [programs, Store.get_set] at hq
        split at hq
        · rename_i hj
          subst hj
          cases hq
          exact new
        · exact inv.program j q hq
      · rw [allocated, ← inv.total, spentTotal, spentTotal, programs,
          Store.sum_set_of_none _ _ hnone, unspent, add_zero]
  | rewritten id p p' hp moves programs count allocated =>
      refine ⟨?_, fun j q hq => ?_, ?_⟩
      · rw [programs, count]
        exact inv.numbered.rewrite hp p'
      · rw [programs, Store.get_set] at hq
        split at hq
        · rename_i hj
          subst hj
          cases hq
          exact (inv.program j p hp).moves moves
        · exact inv.program j q hq
      · -- The total changes as the one program does.
        have sum := Store.sum_set s.spendingProgram (fun _ p => p.spent.val) id p'
        rw [Store.term_of_get _ hp] at sum
        have total := inv.total
        simp only [spentTotal, programs] at total ⊢
        omega

end Programs

/-! ## What the calls do -/

section Calls

variable {Address X : Type} {env : Env Address X} {w w' : State Address X}

/-- Every call that returns has such an effect on the programs. -/
theorem programEffect_call {c : Call Address} {v : Value Address} (inv : Programs w.storage)
    (h : Returns (dispatch env c) w v w') : ProgramEffect w.storage w'.storage := by
  cases c with
  | getBalance | getHistory entryId | getProgram programId | getTreasuryStats =>
      obtain rfl := world_eq_of_reads h trivial
      exact .kept rfl rfl rfl
  | initializeContract council tokenAddress =>
      obtain ⟨_, hcall, -⟩ := returns_bind_pure.mp h
      obtain ⟨-, -, rfl⟩ := returns_initializeContract.mp hcall
      exact .kept rfl rfl rfl
  | deposit fromAddress amount =>
      obtain ⟨_, hcall, -⟩ := returns_bind_pure.mp h
      obtain ⟨-, -, _, -, _, -, _, -, _, -, _, -, rfl⟩ := returns_deposit.mp hcall
      exact .kept rfl rfl rfl
  | withdraw toAddress amount memo =>
      obtain ⟨_, hcall, -⟩ := returns_bind_pure.mp h
      obtain ⟨-, -, -, _, -, _, -, _, -, _, -, _, -, rfl⟩ := returns_withdraw.mp hcall
      exact .kept rfl rfl rfl
  | createProgram name budget =>
      obtain ⟨r, hcall, -⟩ := returns_bind_pure.mp h
      obtain ⟨-, hbudget, hname, hr, rfl⟩ := returns_createProgram.mp hcall
      have zero : (0 : I128).val = 0 := MachineInt.val_zero
      refine .created r _ hr ⟨rfl, ?_, le_of_eq zero.symm, ?_⟩ zero rfl rfl rfl
      · simp only
        omega
      · rw [zero]
        exact le_of_lt hbudget
  | updateProgramBudget programId newBudget =>
      obtain ⟨_, hcall, -⟩ := returns_bind_pure.mp h
      obtain ⟨-, program, hprogram, hspent, rfl⟩ := returns_updateProgramBudget.mp hcall
      exact .rewritten programId program { program with budget := newBudget } hprogram
        ⟨rfl, rfl, le_refl _, fun _ => hspent, fun inactive => ⟨inactive, rfl⟩⟩ rfl rfl rfl
  | deactivateProgram programId =>
      obtain ⟨_, hcall, -⟩ := returns_bind_pure.mp h
      obtain ⟨-, program, hprogram, rfl⟩ := returns_deactivateProgram.mp hcall
      exact .rewritten programId program { program with active := false } hprogram
        ⟨rfl, rfl, le_refl _, fun within => within, fun _ => ⟨rfl, rfl⟩⟩ rfl rfl rfl
  | allocate programId amount =>
      obtain ⟨_, hcall, -⟩ := returns_bind_pure.mp h
      obtain ⟨-, hamount, program, hprogram, hactive, newSpent, hspent, hbudget, -, _, -,
        allocated, hallocated, _, -, rfl⟩ := returns_allocate.mp hcall
      refine .rewritten programId program { program with spent := newSpent } hprogram
        ⟨rfl, rfl, ?_, fun _ => hbudget, ?_⟩ rfl rfl ?_
      · simp only
        omega
      · -- An inactive program is not allocated to.
        intro inactive
        rw [hactive] at inactive
        cases inactive
      · simp only [allocatedTotal, Option.getD_some]
        omega

/-- Every step keeps the programs in order. -/
theorem programs_step (w : State Address X) (action : Action Address X (Call Address) Empty)
    (inv : Programs w.storage) : Programs (machine.step w action).2.storage :=
  Deployed.step_storage Programs
    (fun _ _ _ _ _ inv h => (programEffect_call inv h).programs inv) (fun p => p.elim) w action inv

/-- Every step keeps the programs. -/
theorem programsKept_step (w : State Address X) (action : Action Address X (Call Address) Empty)
    (inv : Programs w.storage) : ProgramsKept w.storage (machine.step w action).2.storage := by
  refine Deployed.record_rule dispatch provide (fun r => ProgramsKept w.storage r.after.storage)
    w action ?returned ?failed ?provision ?elsewhere
  case returned =>
    intro env c v w' h
    exact (programEffect_call inv h).programsKept inv
  case failed =>
    intro env c e
    exact .refl _
  case provision =>
    intro p
    exact p.elim
  case elsewhere =>
    intro x
    exact .refl _

end Calls

/-! ## Runs -/

section Runs

variable {Address X : Type} {council : AdminCouncil Address} {tokenAddress : Address} {x : X}
  {w : State Address X} {u : Unit}

/-- A treasury starts without programs. -/
theorem programs_initializeContract
    (h : Returns (initializeContract council tokenAddress) (freshState x) u w) :
    Programs w.storage := by
  obtain ⟨-, rfl⟩ := returns_initializeContract_freshState.mp h
  exact
    { numbered := Numbered.empty
      program := by simp [initialState, Storage.fresh]
      total := by
        simp [spentTotal, allocatedTotal, initialState, Storage.fresh, TreasuryStats.zero] }

/-- In every state of a run the programs are in order. -/
theorem programs_run
    (h : Returns (initializeContract council tokenAddress) (freshState x) u w)
    (as : List (Action Address X (Call Address) Empty)) : Programs (machine.run w as).storage :=
  machine.run_invariant (fun w => Programs w.storage) programs_step (programs_initializeContract h)
    as

/-- Between any two states of a run the programs are kept. -/
theorem programsKept_run {w : State Address X} (start : Programs w.storage)
    (as : List (Action Address X (Call Address) Empty)) :
    ProgramsKept w.storage (machine.run w as).storage :=
  machine.run_related (fun w => Programs w.storage)
    (fun w w' => ProgramsKept w.storage w'.storage) (fun _ => .refl _) ProgramsKept.trans
    programs_step programsKept_step start as

/-- A `deactivate_program` that returned left the program inactive, and wherever the run has led
since, it still is, and no more has been spent of it. -/
theorem deactivated_run {w : State Address X} (start : Programs w.storage)
    {as : List (Action Address X (Call Address) Empty)} {r : Step Address X}
    (mem : r ∈ machine.trace w as) {env : Env Address X} {id : U64} {v : Value Address}
    (action : r.action = .call env (.deactivateProgram id)) (reply : r.reply = some (.ok v)) :
    ∃ p p', r.before.storage.spendingProgram.get id = some p ∧
      (machine.run w as).storage.spendingProgram.get id = some p' ∧
      p'.active = false ∧ p'.spent = p.spent := by
  have h : Returns (dispatch env (.deactivateProgram id)) r.before v r.after :=
    Deployed.returns_of_reply dispatch provide (machine.record_of_mem_trace mem) action reply
  obtain ⟨_, hcall, -⟩ := returns_bind_pure.mp h
  obtain ⟨-, p, hp, hafter⟩ := returns_deactivateProgram.mp hcall
  have left : r.after.storage.spendingProgram.get id = some { p with active := false } := by
    rw [hafter]
    exact Store.get_set_self _ _ _
  obtain ⟨pre, a, post, rfl, rfl⟩ := machine.mem_trace.mp mem
  have inv : Programs (machine.run w pre).storage :=
    machine.run_invariant (fun w => Programs w.storage) programs_step start pre
  obtain ⟨p', hp', moves⟩ := programsKept_run (programs_step _ a inv) post id _ left
  rw [Machine.run_append]
  exact ⟨p, p', hp, hp', moves.retired rfl⟩

/-- **Spending programs stay within budget.**  In every reachable state the programs
are those numbered from one to the counter, each under its own id and with a name of 3
to 64 bytes; what is spent of a program is between zero and its budget, and all that is
spent is all that was allocated.  A program that is inactive stays so, and nothing more
is spent of it; and a program is inactive from the moment on at which a
`deactivate_program` of it has returned. -/
theorem programs_withinBudget
    (h : Returns (initializeContract council tokenAddress) (freshState x) u w)
    (as : List (Action Address X (Call Address) Empty)) :
    let s := (machine.run w as).storage
    (∀ id : U64, (s.spendingProgram.get id).isSome ↔
        0 < id.val ∧ id.val ≤ (s.programCount.getD 0).val) ∧
      (∀ id p, s.spendingProgram.get id = some p →
        p.programId = id ∧ (3 ≤ p.name.len ∧ p.name.len ≤ 64) ∧
          0 ≤ p.spent.val ∧ p.spent.val ≤ p.budget.val) ∧
      (s.spendingProgram.sum fun _ p => p.spent.val) =
        (s.stats.getD TreasuryStats.zero).lifetimeAllocated.val ∧
      (∀ bs id p, s.spendingProgram.get id = some p → p.active = false →
        ∃ p', (machine.run w (as ++ bs)).storage.spendingProgram.get id = some p' ∧
          p'.active = false ∧ p'.spent = p.spent) ∧
      ∀ r ∈ machine.trace w as, ∀ env id v,
        r.action = .call env (.deactivateProgram id) → r.reply = some (.ok v) →
          ∃ p p', r.before.storage.spendingProgram.get id = some p ∧
            s.spendingProgram.get id = some p' ∧ p'.active = false ∧ p'.spent = p.spent := by
  intro s
  have inv : Programs s := programs_run h as
  refine ⟨inv.numbered, fun id p hp => ?_, inv.total, fun bs id p hp inactive => ?_,
    fun r mem env id v => deactivated_run (programs_initializeContract h) mem⟩
  · have hinv := inv.program id p hp
    exact ⟨hinv.key, hinv.name, hinv.spent_nonneg, hinv.spent_le⟩
  · obtain ⟨p', hp', moves⟩ := programsKept_run inv bs id p hp
    rw [Machine.run_append]
    exact ⟨p', hp', moves.retired inactive⟩

end Runs

/-- The treasury of a one-member council, on a chain of its own. -/
theorem programs_withinBudget_singleMember :
    ∃ w : State ℕ Unit, Returns (initializeContract ⟨[7], 1⟩ 9) (freshState ()) () w ∧
      ∀ as, spentTotal (machine.run w as).storage = allocatedTotal (machine.run w as).storage := by
  have h : Returns (initializeContract ⟨[7], 1⟩ 9) (freshState () : State ℕ Unit) ()
      (initialState ⟨[7], 1⟩ 9 ()) :=
    returns_initializeContract_freshState.mpr ⟨by decide, rfl⟩
  exact ⟨_, h, fun as => (programs_withinBudget h as).2.2.1⟩

end StellarConduit.Treasury
