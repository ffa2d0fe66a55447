import StellarConduit.Soroban.Replay
import StellarConduit.Treasury.Programs

/-!
# The treasury as its events tell it

Every call of the treasury that changes anything publishes one event.  An observer keeps
the books, a handful of totals, and the programs, each apart from the others; an
allocation is the one event that moves both.  The observer rejects a withdrawal or an
allocation that the balance does not cover, and an allocation beyond the budget of its
program.

The observer is a machine of its own: a `View` as state, an event as input, and a rejection
where the event cannot follow.  It has no access to the storage.  That it accepts the events of
every run and ends with the view of the reached state says two things at once: the events leave
nothing out, and none of them announces what has not happened.  It also can tell the account of
one program from those events alone that name it, which is a projection of the log.

The history that the contract stores is a second account of the same money calls.  It
says the same as the events, movement for movement.

## Main definitions

* `Books`, `View` — what the observer keeps.
* `Movement` — a money call as the history and as an event tell it.

## Main results

* `replays_call` — a call that returns publishes what moved the view.
* `movements_step` — a step enters into the history what it announces.
* `books_replayed` — books, programs and history of every run, from its events.
-/

namespace StellarConduit.Treasury

open Soroban Contract

/-! ## The observer

The observer checks what it is told: a withdrawal or an allocation that its balance does not
cover is rejected, and so is an allocation beyond the budget of a program.
-/

/-- What the events tell of the treasury as a whole. -/
structure Books where
  /-- What can be spent. -/
  balance : Int
  /-- What has come in. -/
  deposited : Int
  /-- What has gone out. -/
  withdrawn : Int
  /-- What programs were given. -/
  allocated : Int
  /-- How many programs there are. -/
  programCount : Int
deriving DecidableEq

/-- The books before the first event. -/
def Books.start : Books where
  balance := 0
  deposited := 0
  withdrawn := 0
  allocated := 0
  programCount := 0

/-- What an observer of the treasury holds. -/
structure View where
  /-- The totals. -/
  books : Books
  /-- The programs, by their numbers. -/
  programs : U64 → Option SpendingProgram

/-- The view before the first event. -/
def View.start : View where
  books := Books.start
  programs := fun _ => none

section Observer

variable {Address : Type}

/-- The program that an event names. -/
def Event.program : Event Address → Option U64
  | .deposit _ _ | .withdraw _ _ _ => none
  | .createProgram id _ _ | .updateBudget id _ | .deactivateProgram id | .allocate id _ => some id

/-- How an event moves the books. -/
def Books.step : Indexer Books (Event Address) := fun books e =>
  match e with
  | .deposit _ amount =>
      if 0 < amount.val then
        some { books with
          balance := books.balance + amount.val
          deposited := books.deposited + amount.val }
      else none
  | .withdraw _ amount _ =>
      if 0 < amount.val ∧ amount.val ≤ books.balance then
        some { books with
          balance := books.balance - amount.val
          withdrawn := books.withdrawn + amount.val }
      else none
  | .allocate _ amount =>
      if 0 < amount.val ∧ amount.val ≤ books.balance then
        some { books with
          balance := books.balance - amount.val
          allocated := books.allocated + amount.val }
      else none
  | .createProgram id _ _ =>
      if id.val = books.programCount + 1 then some { books with programCount := id.val } else none
  | .updateBudget _ _ | .deactivateProgram _ => some books

/-- How an event that names a program moves it. -/
def programStep : Indexer (Option SpendingProgram) (Event Address) := fun program e =>
  match program, e with
  | none, .createProgram id name budget =>
      if 0 < budget.val ∧ ¬ (name.len < 3 ∨ name.len > 64) then
        some (some { programId := id, budget := budget, spent := 0, active := true, name := name })
      else none
  | some p, .updateBudget _ newBudget =>
      if p.spent.val ≤ newBudget.val then some (some { p with budget := newBudget }) else none
  | some p, .deactivateProgram _ => some (some { p with active := false })
  | some p, .allocate _ amount => (p.spent.checkedAdd amount).bind fun newSpent =>
      if p.active = true ∧ newSpent.val ≤ p.budget.val then
        some (some { p with spent := newSpent })
      else none
  | _, _ => none

/-- The observer of the treasury. -/
def observer : Indexer View (Event Address) := fun v e =>
  (v.books.step e).bind fun books =>
    match e.program with
    | none => some { v with books := books }
    | some id => (programStep (v.programs id) e).map fun p =>
        { books := books, programs := Function.update v.programs id p }

/-- An event that names no program moves the books alone. -/
theorem observer_of_books {v v' : View} {e : Event Address} (other : e.program = none)
    (books : v.books.step e = some v'.books) (programs : v'.programs = v.programs) :
    observer v e = some v' := by
  rw [observer, books, Option.bind_some, other, ← programs]

/-- An event that names a program moves it and the books. -/
theorem observer_of_program {v v' : View} {e : Event Address} {id : U64}
    {p : Option SpendingProgram} (named : e.program = some id)
    (books : v.books.step e = some v'.books) (moved : programStep (v.programs id) e = some p)
    (programs : v'.programs = Function.update v.programs id p) : observer v e = some v' := by
  rw [observer, books, Option.bind_some, named]
  simp only [moved, Option.map_some, ← programs]

/-- The events that name a program replay it, whatever else the log has. -/
theorem replay_program {v v' : View} {events : List (Event Address)}
    (h : observer.replay v events = some v') (id : U64) :
    programStep.replay (v.programs id) (events.filter fun e => e.program = some id) =
      some (v'.programs id) := by
  refine Indexer.replay_project (fun v : View => v.programs id) programStep
    (fun e => e.program = some id) (fun v e v' named h => ?_) (fun v e v' other h => ?_) h
  · obtain ⟨books, -, h⟩ := Option.bind_eq_some_iff.mp h
    rw [named] at h
    obtain ⟨p, moved, rfl⟩ := Option.map_eq_some_iff.mp h
    simp only [moved, Function.update_self]
  · obtain ⟨books, -, h⟩ := Option.bind_eq_some_iff.mp h
    split at h
    · cases h
      rfl
    · rename_i j named
      obtain ⟨p, -, rfl⟩ := Option.map_eq_some_iff.mp h
      have apart : id ≠ j := by
        rintro rfl
        exact other named
      exact Function.update_of_ne apart _ _

end Observer

/-! ## The stored records

One lemma for all calls: what a call that returns publishes takes the view of the storage before
it to the view of the storage after it.
-/

section Calls

variable {Address X : Type} {env : Env Address X} {w w' : State Address X}

/-- What the observer is to hold of the stored records. -/
def view (s : Storage Address) : View where
  books :=
    { balance := (s.balance.getD 0).val
      deposited := (s.stats.getD TreasuryStats.zero).lifetimeDeposited.val
      withdrawn := (s.stats.getD TreasuryStats.zero).lifetimeWithdrawn.val
      allocated := (s.stats.getD TreasuryStats.zero).lifetimeAllocated.val
      programCount := (s.programCount.getD 0).val }
  programs := s.spendingProgram.get

/-- The view of a program is its record. -/
theorem view_programs (s : Storage Address) (id : U64) :
    (view s).programs id = s.spendingProgram.get id := rfl

/-- A call that returns publishes what moved the view. -/
theorem replays_call {c : Call Address} {v : Value Address}
    (initialized : w.storage.adminCouncil.isSome)
    (numbered : Numbered w.storage.spendingProgram (w.storage.programCount.getD 0))
    (h : Returns (dispatch env c) w v w') : Replays observer view w w' := by
  cases c with
  | getBalance | getHistory entryId | getProgram programId | getTreasuryStats =>
      obtain rfl := world_eq_of_reads h trivial
      exact .refl _ _ _
  | initializeContract council tokenAddress =>
      -- A second `initialize` answers `AlreadyInitialized`.
      obtain ⟨_, hcall, -⟩ := returns_bind_pure.mp h
      obtain ⟨hnone, -⟩ := returns_initializeContract.mp hcall
      rw [hnone] at initialized
      cases initialized
  | deposit fromAddress amount =>
      obtain ⟨_, hcall, -⟩ := returns_bind_pure.mp h
      obtain ⟨-, hamount, newBalance, hbalance, deposited, hdeposited, nextId, -, token, -, x, -,
        rfl⟩ := returns_deposit.mp hcall
      refine .publish rfl (observer_of_books rfl ?_ rfl)
      simp [Books.step, view, hamount, hbalance, hdeposited]
  | withdraw toAddress amount memo =>
      obtain ⟨_, hcall, -⟩ := returns_bind_pure.mp h
      obtain ⟨-, hamount, hcovered, newBalance, hbalance, withdrawn, hwithdrawn, nextId, -, token,
        -, x, -, rfl⟩ := returns_withdraw.mp hcall
      refine .publish rfl (observer_of_books rfl ?_ rfl)
      simp [Books.step, view, hamount, hcovered, hbalance, hwithdrawn]
  | createProgram name budget =>
      obtain ⟨id, hcall, -⟩ := returns_bind_pure.mp h
      obtain ⟨-, hbudget, hname, hid, rfl⟩ := returns_createProgram.mp hcall
      have fresh : w.storage.spendingProgram.get id = none := numbered.fresh hid
      refine .publish rfl (observer_of_program rfl ?_ ?_ rfl)
      · simp [Books.step, view, hid]
      · rw [view_programs, fresh]
        exact if_pos ⟨hbudget, hname⟩
  | updateProgramBudget programId newBudget =>
      obtain ⟨_, hcall, -⟩ := returns_bind_pure.mp h
      obtain ⟨-, program, hprogram, hspent, rfl⟩ := returns_updateProgramBudget.mp hcall
      refine .publish rfl (observer_of_program rfl rfl ?_ rfl)
      rw [view_programs, hprogram]
      exact if_pos hspent
  | deactivateProgram programId =>
      obtain ⟨_, hcall, -⟩ := returns_bind_pure.mp h
      obtain ⟨-, program, hprogram, rfl⟩ := returns_deactivateProgram.mp hcall
      refine .publish rfl (observer_of_program rfl rfl ?_ rfl)
      rw [view_programs, hprogram]
      rfl
  | allocate programId amount =>
      obtain ⟨_, hcall, -⟩ := returns_bind_pure.mp h
      obtain ⟨-, hamount, program, hprogram, hactive, newSpent, hspent, hbudget, hcovered,
        newBalance, hbalance, allocated, hallocated, nextId, -, rfl⟩ := returns_allocate.mp hcall
      refine .publish rfl (observer_of_program rfl ?_ ?_ rfl)
      · simp [Books.step, view, hamount, hcovered, hbalance, hallocated]
      · have sum : program.spent.checkedAdd amount = some newSpent :=
          MachineInt.checkedAdd_eq_some_iff.mpr hspent
        simp only [view_programs, programStep, hprogram, sum, Option.bind_some, hactive, hbudget,
          and_self, if_true]

end Calls

/-! ## The history

The history and the events are two accounts of the same money calls.  Each is read as a list of
movements, and the two lists are the same.
-/

section Movements

variable {Address X : Type}

/-- A movement of money, as the history and the events both tell it. -/
structure Movement (Address : Type) where
  /-- Deposit, withdrawal or allocation. -/
  kind : EntryKind
  /-- The tokens that it is about. -/
  amount : I128
  /-- Who deposited, or who was paid. -/
  party : Option Address
  /-- What was written beside it. -/
  memo : HostString
deriving DecidableEq

/-- The movement that a history entry records. -/
def TreasuryEntry.movement (e : TreasuryEntry Address) : Movement Address where
  kind := e.kind
  amount := e.amount
  party := if e.kind = .deposit then some e.actor else e.recipient
  memo := e.memo

/-- The movement that an event announces. -/
def Event.movement : Event Address → Option (Movement Address)
  | .deposit fromAddress amount =>
      some ⟨.deposit, amount, some fromAddress, HostString.fromStr "deposit"⟩
  | .withdraw toAddress amount memo => some ⟨.withdrawal, amount, some toAddress, memo⟩
  | .allocate _ amount => some ⟨.allocation, amount, none, HostString.fromStr "allocation"⟩
  | .createProgram _ _ _ | .updateBudget _ _ | .deactivateProgram _ => none

/-- The history has the movements that were announced. -/
def MovementsAgree (w : State Address X) (log : List (TreasuryEntry Address)) : Prop :=
  log.map TreasuryEntry.movement = w.events.filterMap Event.movement

variable {env : Env Address X} {w w' : State Address X} {log : List (TreasuryEntry Address)}

/-- The entries and the events that a step adds have the same movements. -/
theorem MovementsAgree.append (agree : MovementsAgree w log)
    {entries : List (TreasuryEntry Address)} {published : List (Event Address)}
    (events : w'.events = w.events ++ published)
    (same : entries.map TreasuryEntry.movement = published.filterMap Event.movement) :
    MovementsAgree w' (log ++ entries) := by
  rw [MovementsAgree, List.map_append, agree, same, events, List.filterMap_append]

/-- A call that returns enters into the history what it announces. -/
theorem movements_call {c : Call Address} {v : Value Address} (agree : MovementsAgree w log)
    (h : Returns (dispatch env c) w v w') :
    MovementsAgree w' (log ++ logged ⟨w, .call env c, some (.ok v), w'⟩) := by
  cases c with
  | getBalance | getHistory entryId | getProgram programId | getTreasuryStats =>
      obtain rfl := world_eq_of_reads h trivial
      exact agree.append (List.append_nil _).symm rfl
  | initializeContract council tokenAddress =>
      obtain ⟨_, hcall, -⟩ := returns_bind_pure.mp h
      obtain ⟨-, -, rfl⟩ := returns_initializeContract.mp hcall
      exact agree.append (List.append_nil _).symm rfl
  | deposit fromAddress amount =>
      obtain ⟨_, hcall, -⟩ := returns_bind_pure.mp h
      obtain ⟨-, -, _, -, _, -, _, -, _, -, _, -, rfl⟩ := returns_deposit.mp hcall
      exact agree.append rfl rfl
  | withdraw toAddress amount memo =>
      obtain ⟨_, hcall, -⟩ := returns_bind_pure.mp h
      obtain ⟨-, -, -, _, -, _, -, _, -, _, -, _, -, rfl⟩ := returns_withdraw.mp hcall
      exact agree.append rfl rfl
  | createProgram name budget =>
      obtain ⟨id, hcall, -⟩ := returns_bind_pure.mp h
      obtain ⟨-, -, -, -, rfl⟩ := returns_createProgram.mp hcall
      exact agree.append rfl rfl
  | updateProgramBudget programId newBudget =>
      obtain ⟨_, hcall, -⟩ := returns_bind_pure.mp h
      obtain ⟨-, program, -, -, rfl⟩ := returns_updateProgramBudget.mp hcall
      exact agree.append rfl rfl
  | deactivateProgram programId =>
      obtain ⟨_, hcall, -⟩ := returns_bind_pure.mp h
      obtain ⟨-, program, -, rfl⟩ := returns_deactivateProgram.mp hcall
      exact agree.append rfl rfl
  | allocate programId amount =>
      obtain ⟨_, hcall, -⟩ := returns_bind_pure.mp h
      obtain ⟨-, -, _, -, -, _, -, -, -, _, -, _, -, _, -, rfl⟩ := returns_allocate.mp hcall
      exact agree.append rfl rfl

/-- A step enters into the history what it announces. -/
theorem movements_step (w : State Address X) (action : Action Address X (Call Address) Empty)
    (log : List (TreasuryEntry Address)) (agree : MovementsAgree w log) :
    MovementsAgree (machine.step w action).2 (log ++ logged (machine.record w action)) := by
  have quiet : MovementsAgree w (log ++ []) := agree.append (List.append_nil _).symm rfl
  refine Deployed.record_rule dispatch provide
    (fun r => MovementsAgree r.after (log ++ logged r)) w action
    ?returned ?failed ?provision ?elsewhere
  case returned =>
    intro env c v w' h
    exact movements_call agree h
  case failed =>
    intro env c e
    exact agree.append (List.append_nil _).symm (by simp [logged])
  case provision =>
    intro p
    exact p.elim
  case elsewhere =>
    intro x
    exact agree.append (List.append_nil _).symm (by simp [logged])

end Movements

/-! ## Runs

Both sides start empty, and a call that fails publishes nothing and stores nothing.
-/

section Runs

variable {Address X : Type} {council : AdminCouncil Address} {tokenAddress : Address} {x : X}
  {w : State Address X} {u : Unit}

/-- From any moment of a run to a later one, the new events tell what became of the books. -/
theorem replays_run (initialized : w.storage.adminCouncil.isSome) (programs : Programs w.storage)
    (as : List (Action Address X (Call Address) Empty)) :
    Replays observer view w (machine.run w as) := by
  refine Deployed.replays_run observer view (fun s => s.adminCouncil.isSome ∧ Programs s)
    (fun env c w v w' inv h => ⟨⟨?_, ?_⟩, replays_call inv.1 inv.2.numbered h⟩) (fun p => p.elim)
    ⟨initialized, programs⟩ as
  · rw [(outcome_of_returns inv.1 h).adminCouncil]
    exact inv.1
  · exact (programEffect_call inv.2 h).programs inv.2

/-- The history of a run has the movements that the run announced. -/
theorem movements_run
    (h : Returns (initializeContract council tokenAddress) (freshState x) u w)
    (as : List (Action Address X (Call Address) Empty)) :
    MovementsAgree (machine.run w as) (runLog w as) := by
  obtain ⟨-, rfl⟩ := returns_initializeContract_freshState.mp h
  have start : MovementsAgree (initialState council tokenAddress x) [] := rfl
  exact machine.log_run MovementsAgree logged movements_step start as

/-- **The treasury can be followed from its events.**  The log of every run is one that the
observer accepts, so every announced payment was covered and every allocation within its
program's budget; replaying it gives balance, totals and programs as they are stored, and
the events that name a program give this program.  The stored history is the list of the
announced movements, one entry each, in their order. -/
theorem books_replayed
    (h : Returns (initializeContract council tokenAddress) (freshState x) u w)
    (as : List (Action Address X (Call Address) Empty)) :
    let reached := machine.run w as
    observer.replay View.start reached.events = some (view reached.storage) ∧
      (∀ id, programStep.replay none (reached.events.filter fun e => e.program = some id) =
        some (reached.storage.spendingProgram.get id)) ∧
      ∀ id : U64, (reached.storage.entry.get id).map TreasuryEntry.movement =
        if 0 < id.val then (reached.events.filterMap Event.movement)[(id.val - 1).toNat]?
        else none := by
  intro reached
  have log : observer.replay View.start reached.events = some (view reached.storage) := by
    have programs := programs_initializeContract h
    obtain ⟨-, rfl⟩ := returns_initializeContract_freshState.mp h
    have replays : Replays observer view _ reached := replays_run rfl programs as
    have start : view (initialState council tokenAddress x).storage = View.start := by
      simp [view, initialState, View.start, Books.start, Storage.fresh, TreasuryStats.zero]
      rfl
    rw [← start]
    exact replays.replay rfl
  refine ⟨log, fun id => replay_program log id, fun id => ?_⟩
  obtain ⟨audit, hlog, rep⟩ := represents_run h as
  have movements : (runLog w as).map TreasuryEntry.movement =
      reached.events.filterMap Event.movement := movements_run h as
  rw [rep.records.get, hlog, ← movements]
  split
  · rw [List.getElem?_map]
  · rfl

end Runs

/-- The treasury of a one-member council, on a chain of its own. -/
theorem books_replayed_singleMember :
    ∃ w : State ℕ Unit, Returns (initializeContract ⟨[7], 1⟩ 9) (freshState ()) () w ∧
      ∀ as, observer.replay View.start (machine.run w as).events =
        some (view (machine.run w as).storage) := by
  have h : Returns (initializeContract ⟨[7], 1⟩ 9) (freshState () : State ℕ Unit) ()
      (initialState ⟨[7], 1⟩ 9 ()) :=
    returns_initializeContract_freshState.mpr ⟨by decide, rfl⟩
  exact ⟨_, h, fun as => (books_replayed h as).1⟩

end StellarConduit.Treasury
