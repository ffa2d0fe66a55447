import StellarConduit.Soroban.Numbered
import StellarConduit.Treasury.Transition

/-!
# The history as an audit log

Balance, statistics, counter and entries are four records that each money call
rewrites by hand.  Over them stands the abstract treasury: a log of entries, from
which everything else is computed.  `AuditLog` is such a log with the proof that
every entry is positive and that the log never overdraws, and `Represents` says
when the stored records are those of a log.

The stored entries do not say how much was there when they were made.  The abstract treasury
recomputes it: `balanceOf` is what deposits, withdrawals and allocations of a log leave, and a log
is solvent if this is not negative for any of its prefixes.  That the storage represents a log
therefore says more than that the totals are sums; it says that the balance was right at the
time of every entry.

A call that returns appends at most one entry, which is the one of its own arguments and ledger,
and a call that fails appends none.  So the log of a run is the list of its accepted money calls
in their order, and a longer run has a longer log.

## Main definitions

* `sumOf`, `balanceOf` — totals and balance of a log.
* `AuditLog` — a log that never overdraws.
* `Represents` — the stored records are those of a log.
* `runLog` — the log of a run.

## Main results

* `represents_call` — a call that returns appends what it must log, and the
  records follow.
* `represents_run` — the storage reached by a run represents the log of the calls
  that returned, in their order.
* `history_auditLog` — what this says about the entry points.
-/

namespace StellarConduit.Treasury

open Soroban Contract

/-! ## Audit logs -/

section AuditLogs

variable {Address : Type}

/-- The sum of the entries of one kind. -/
def sumOf (kind : EntryKind) (log : List (TreasuryEntry Address)) : Int :=
  ((log.filter fun e => e.kind = kind).map fun e => e.amount.val).sum

/-- The balance that a log leaves. -/
def balanceOf (log : List (TreasuryEntry Address)) : Int :=
  sumOf .deposit log - sumOf .withdrawal log - sumOf .allocation log

/-- Nothing has been moved at the start. -/
@[simp] theorem sumOf_nil (kind : EntryKind) :
    sumOf kind ([] : List (TreasuryEntry Address)) = 0 := rfl

/-- An entry adds its amount to the total of its kind. -/
theorem sumOf_concat (kind : EntryKind) (log : List (TreasuryEntry Address))
    (e : TreasuryEntry Address) :
    sumOf kind (log ++ [e]) = sumOf kind log + if e.kind = kind then e.amount.val else 0 := by
  unfold sumOf
  by_cases h : e.kind = kind <;> simp [h]

/-- What an entry adds to the balance. -/
def signedAmount (e : TreasuryEntry Address) : Int :=
  match e.kind with
  | .deposit => e.amount.val
  | .withdrawal | .allocation => - e.amount.val

/-- An entry adds its amount to the balance, or takes it off. -/
theorem balanceOf_concat (log : List (TreasuryEntry Address)) (e : TreasuryEntry Address) :
    balanceOf (log ++ [e]) = balanceOf log + signedAmount e := by
  simp only [balanceOf, sumOf_concat, signedAmount]
  cases e.kind <;> simp <;> omega

/-- A log of positive entries that never overdraws. -/
structure AuditLog (Address : Type) where
  /-- The entries, in the order they were made. -/
  entries : List (TreasuryEntry Address)
  /-- Each is about a positive amount. -/
  positive : ∀ e ∈ entries, 0 < e.amount.val
  /-- At no time was more taken than there was. -/
  solvent : ∀ pre, pre <+: entries → 0 ≤ balanceOf pre

namespace AuditLog

/-- The log of a treasury without history. -/
def empty : AuditLog Address where
  entries := []
  positive := by simp
  solvent := by
    intro pre hpre
    rw [List.prefix_nil.mp hpre]
    exact le_refl 0

/-- Append an entry that the balance covers. -/
def append (log : AuditLog Address) (e : TreasuryEntry Address) (positive : 0 < e.amount.val)
    (covered : 0 ≤ balanceOf log.entries + signedAmount e) : AuditLog Address where
  entries := log.entries ++ [e]
  positive := by
    intro e' he'
    rcases List.mem_append.mp he' with he' | he'
    · exact log.positive e' he'
    · rw [List.mem_singleton.mp he']
      exact positive
  solvent := by
    intro pre hpre
    rcases List.prefix_concat_iff.mp hpre with rfl | hpre
    · rw [balanceOf_concat]
      exact covered
    · exact log.solvent pre hpre

end AuditLog

/-- The stored records are those of the log. -/
structure Represents (s : Storage Address) (log : AuditLog Address) : Prop where
  /-- There is a council. -/
  adminCouncil : s.adminCouncil.isSome
  /-- The history holds the entries under their numbers. -/
  records : Records s.entry (s.entryCount.getD 0) log.entries
  /-- The total of deposits, -/
  deposited :
    (s.stats.getD TreasuryStats.zero).lifetimeDeposited.val = sumOf .deposit log.entries
  /-- of withdrawals -/
  withdrawn :
    (s.stats.getD TreasuryStats.zero).lifetimeWithdrawn.val = sumOf .withdrawal log.entries
  /-- and of allocations, -/
  allocated :
    (s.stats.getD TreasuryStats.zero).lifetimeAllocated.val = sumOf .allocation log.entries
  /-- and the balance are those of the log. -/
  balance : (s.balance.getD 0).val = balanceOf log.entries

/-- Rewriting the four records for a new entry, each by its share of the entry,
represents the log with the entry appended. -/
theorem Represents.post {s : Storage Address} {log : AuditLog Address} (rep : Represents s log)
    {e : TreasuryEntry Address} (positive : 0 < e.amount.val)
    (covered : 0 ≤ (s.balance.getD 0).val + signedAmount e) {nextId : U64}
    (hnext : nextId.val = (s.entryCount.getD 0).val + 1) {balance : I128}
    (hbalance : balance.val = (s.balance.getD 0).val + signedAmount e) {stats : TreasuryStats}
    (hdeposited : stats.lifetimeDeposited.val =
      (s.stats.getD TreasuryStats.zero).lifetimeDeposited.val +
        if e.kind = .deposit then e.amount.val else 0)
    (hwithdrawn : stats.lifetimeWithdrawn.val =
      (s.stats.getD TreasuryStats.zero).lifetimeWithdrawn.val +
        if e.kind = .withdrawal then e.amount.val else 0)
    (hallocated : stats.lifetimeAllocated.val =
      (s.stats.getD TreasuryStats.zero).lifetimeAllocated.val +
        if e.kind = .allocation then e.amount.val else 0)
    (programs : Store U64 SpendingProgram) :
    ∃ log', log'.entries = log.entries ++ [e] ∧
      Represents
        { s with
          balance := some balance
          stats := some stats
          entry := s.entry.set nextId e
          entryCount := some nextId
          spendingProgram := programs } log' := by
  rw [rep.balance] at covered hbalance
  refine ⟨log.append e positive covered, rfl, ?_⟩
  exact
    { adminCouncil := rep.adminCouncil
      records := rep.records.append hnext e
      deposited := hdeposited.trans (by rw [rep.deposited]; exact (sumOf_concat _ _ _).symm)
      withdrawn := hwithdrawn.trans (by rw [rep.withdrawn]; exact (sumOf_concat _ _ _).symm)
      allocated := hallocated.trans (by rw [rep.allocated]; exact (sumOf_concat _ _ _).symm)
      balance := hbalance.trans (balanceOf_concat _ _).symm }

/-- A represented balance is not negative. -/
theorem Represents.nonneg {s : Storage Address} {log : AuditLog Address}
    (rep : Represents s log) : 0 ≤ (s.balance.getD 0).val := by
  rw [rep.balance]
  exact log.solvent log.entries (List.prefix_refl _)

end AuditLogs

/-! ## One step -/

/-- A recorded step of the treasury. -/
abbrev Step (Address X : Type) : Type :=
  Record (State Address X) (Action Address X (Call Address) Empty)
    (Reply ContractError (Value Address))

section Steps

variable {Address X : Type}

/-- What a recorded step adds to the history: one entry for a deposit, withdrawal
or allocation that returned. -/
def logged (r : Step Address X) : List (TreasuryEntry Address) :=
  match r.action, r.reply with
  | .call env (.deposit fromAddress amount), some (.ok _) => [depositEntry env fromAddress amount]
  | .call env (.withdraw toAddress amount memo), some (.ok _) =>
      [withdrawalEntry env toAddress amount memo]
  | .call env (.allocate _ amount), some (.ok _) => [allocationEntry env amount]
  | _, _ => []

variable {env : Env Address X} {w w' : State Address X} {s : Storage Address}
  {log : AuditLog Address}

/-- Unchanged books represent the same log. -/
theorem Represents.congr (rep : Represents w.storage log) (kept : BooksKept w w') :
    Represents w'.storage log where
  adminCouncil := kept.adminCouncil ▸ rep.adminCouncil
  records := by
    rw [kept.entry, kept.entryCount]
    exact rep.records
  deposited := kept.stats ▸ rep.deposited
  withdrawn := kept.stats ▸ rep.withdrawn
  allocated := kept.stats ▸ rep.allocated
  balance := kept.balance ▸ rep.balance

/-- A call that returns extends the represented log by what it logs. -/
theorem represents_call {c : Call Address} {v : Value Address} (rep : Represents w.storage log)
    (h : Returns (dispatch env c) w v w') :
    ∃ log', log'.entries = log.entries ++ logged ⟨w, .call env c, some (.ok v), w'⟩ ∧
      Represents w'.storage log' := by
  cases outcome_of_returns rep.adminCouncil h with
  | @deposit fromAddress amount _ hcall =>
      obtain ⟨-, hamount, newBalance, hbalance, deposited, hdeposited, nextId, hnext, token, -, x,
        -, rfl⟩ := returns_deposit.mp hcall
      refine rep.post (e := depositEntry env fromAddress amount) hamount ?_ hnext ?_ ?_ ?_ ?_ _ <;>
        simp [depositEntry, signedAmount, hbalance, hdeposited]
      -- Adding to a balance that is not negative overdraws nothing.
      have := rep.nonneg
      omega
  | @withdraw toAddress amount memo _ hcall =>
      obtain ⟨-, hamount, hcovered, newBalance, hbalance, withdrawn, hwithdrawn, nextId, hnext,
        token, -, x, -, rfl⟩ := returns_withdraw.mp hcall
      refine rep.post (e := withdrawalEntry env toAddress amount memo) hamount ?_ hnext ?_ ?_ ?_
        ?_ _ <;> simp [withdrawalEntry, signedAmount, hbalance, hwithdrawn]
      · exact hcovered
      · omega
  | @allocate id amount _ hcall =>
      obtain ⟨-, hamount, program, -, -, newSpent, -, -, hcovered, newBalance, hbalance, allocated,
        hallocated, nextId, hnext, rfl⟩ := returns_allocate.mp hcall
      refine rep.post (e := allocationEntry env amount) hamount ?_ hnext ?_ ?_ ?_ ?_ _ <;>
        simp [allocationEntry, signedAmount, hbalance, hallocated]
      · exact hcovered
      · omega
  | other quiet kept =>
      have hlogged : logged ⟨w, .call env c, some (.ok v), w'⟩ = [] := by
        cases c <;> first | rfl | exact absurd trivial quiet
      refine ⟨log, ?_, rep.congr kept⟩
      rw [hlogged, List.append_nil]

/-- The record of a call of the treasury. -/
theorem record_call_cases (env : Env Address X) (c : Call Address) (w : State Address X) :
    (∃ v w', Returns (dispatch env c) w v w' ∧
        machine.record w (.call env c) = ⟨w, .call env c, some (.ok v), w'⟩) ∨
      ∃ e, machine.record w (.call env c) = ⟨w, .call env c, some (.error e), w⟩ :=
  Deployed.record_call_cases dispatch provide env c w

/-- Every step extends the represented log by what its record logs. -/
theorem represents_step (w : State Address X) (action : Action Address X (Call Address) Empty)
    (entries : List (TreasuryEntry Address))
    (h : ∃ log : AuditLog Address, log.entries = entries ∧ Represents w.storage log) :
    ∃ log : AuditLog Address, log.entries = entries ++ logged (machine.record w action) ∧
      Represents (machine.step w action).2.storage log := by
  obtain ⟨log, rfl, rep⟩ := h
  refine Deployed.record_rule dispatch provide
    (fun r => ∃ log' : AuditLog Address, log'.entries = log.entries ++ logged r ∧
      Represents r.after.storage log') w action
    ?returned ?failed ?provision ?elsewhere
  case returned =>
    intro env c v w' h
    exact represents_call rep h
  case failed =>
    intro env c e
    exact ⟨log, by simp [logged], rep⟩
  case provision =>
    intro p
    exact p.elim
  case elsewhere =>
    intro x
    exact ⟨log, by simp [logged], rep⟩

end Steps

/-! ## Runs -/

section Runs

variable {Address X : Type} {council : AdminCouncil Address} {tokenAddress : Address} {x : X}
  {w : State Address X} {u : Unit}

/-- The world of a freshly deployed treasury. -/
def freshState (x : X) : State Address X where
  storage := Storage.fresh
  outside := x
  events := []

/-- The world of a freshly deployed treasury after a successful `initialize`. -/
def initialState (council : AdminCouncil Address) (tokenAddress : Address) (x : X) :
    State Address X where
  storage := { (Storage.fresh : Storage Address) with
    adminCouncil := some council
    tokenAddress := some tokenAddress
    balance := some 0 }
  outside := x
  events := []

/-- `initialize` on a fresh deployment, as one equivalence. -/
theorem returns_initializeContract_freshState :
    Returns (initializeContract council tokenAddress) (freshState x) u w ↔
      ¬ council.Invalid ∧ w = initialState council tokenAddress x := by
  rw [returns_initializeContract]
  exact and_iff_right rfl

/-- Initialization represents the empty log. -/
theorem represents_initializeContract
    (h : Returns (initializeContract council tokenAddress) (freshState x) u w) :
    Represents w.storage AuditLog.empty := by
  obtain ⟨-, rfl⟩ := returns_initializeContract_freshState.mp h
  exact
    { adminCouncil := rfl
      records := Records.empty
      deposited := by simp [initialState, Storage.fresh, TreasuryStats.zero, AuditLog.empty]
      withdrawn := by simp [initialState, Storage.fresh, TreasuryStats.zero, AuditLog.empty]
      allocated := by simp [initialState, Storage.fresh, TreasuryStats.zero, AuditLog.empty]
      balance := by simp [initialState, AuditLog.empty, balanceOf] }

/-- The log of a run: what its calls logged, in their order. -/
def runLog (w : State Address X) (as : List (Action Address X (Call Address) Empty)) :
    List (TreasuryEntry Address) :=
  (machine.trace w as).flatMap logged

/-- A run that goes on adds to its log. -/
theorem runLog_prefix (w : State Address X)
    (as bs : List (Action Address X (Call Address) Empty)) :
    runLog w as <+: runLog w (as ++ bs) := by
  rw [runLog, runLog, Machine.trace_append, List.flatMap_append]
  exact List.prefix_append _ _

/-- The storage a run leads to represents the log of the run. -/
theorem represents_run
    (h : Returns (initializeContract council tokenAddress) (freshState x) u w)
    (as : List (Action Address X (Call Address) Empty)) :
    ∃ log : AuditLog Address, log.entries = runLog w as ∧
      Represents (machine.run w as).storage log :=
  machine.log_run
    (fun (w : State Address X) entries =>
      ∃ log : AuditLog Address, log.entries = entries ∧ Represents w.storage log)
    logged represents_step ⟨AuditLog.empty, rfl, represents_initializeContract h⟩ as

/-- **The history is a complete append-only audit log.**  The stored entries are
exactly the log of the calls that returned, numbered from one to the counter; an
entry once stored is never changed; every entry is positive; the books are the
sums over the log, and the balance is not negative after any prefix of it. -/
theorem history_auditLog
    (h : Returns (initializeContract council tokenAddress) (freshState x) u w)
    (as : List (Action Address X (Call Address) Empty)) :
    let s := (machine.run w as).storage
    ((runLog w as).length = (s.entryCount.getD 0).val ∧
        ∀ id : U64, s.entry.get id =
          if 0 < id.val then (runLog w as)[(id.val - 1).toNat]? else none) ∧
      (∀ bs id e, s.entry.get id = some e →
        (machine.run w (as ++ bs)).storage.entry.get id = some e) ∧
      (∀ e ∈ runLog w as, 0 < e.amount.val) ∧
      (∃ stats, Returns getTreasuryStats (machine.run w as) stats (machine.run w as) ∧
        stats.lifetimeDeposited.val = sumOf .deposit (runLog w as) ∧
        stats.lifetimeWithdrawn.val = sumOf .withdrawal (runLog w as) ∧
        stats.lifetimeAllocated.val = sumOf .allocation (runLog w as) ∧
        Returns getBalance (machine.run w as) stats.currentBalance (machine.run w as) ∧
        stats.currentBalance.val = stats.lifetimeDeposited.val - stats.lifetimeWithdrawn.val
          - stats.lifetimeAllocated.val) ∧
      ∀ pre, pre <+: runLog w as → 0 ≤ balanceOf pre := by
  intro s
  obtain ⟨log, hlog, rep⟩ := represents_run h as
  have records := rep.records
  rw [hlog] at records
  refine ⟨⟨records.length, records.get⟩, fun bs id e he => ?_, hlog ▸ log.positive,
    ⟨_, returns_getTreasuryStats.mpr ⟨rfl, rfl⟩, hlog ▸ rep.deposited, hlog ▸ rep.withdrawn,
      hlog ▸ rep.allocated, returns_getBalance.mpr ⟨rfl, rfl⟩, ?_⟩, hlog ▸ log.solvent⟩
  · obtain ⟨log', hlog', rep'⟩ := represents_run h (as ++ bs)
    have grown : runLog w as <+: log'.entries := hlog' ▸ runLog_prefix w as bs
    exact records.get_of_prefix rep'.records grown he
  · have deposited := rep.deposited
    have withdrawn := rep.withdrawn
    have allocated := rep.allocated
    have balance := rep.balance
    unfold balanceOf at balance
    simp only
    omega

end Runs

/-- The treasury of a one-member council, on a chain of its own. -/
theorem history_auditLog_singleMember :
    ∃ w : State ℕ Unit, Returns (initializeContract ⟨[7], 1⟩ 9) (freshState ()) () w ∧
      ∀ as, ∀ e ∈ runLog w as, 0 < e.amount.val := by
  have h : Returns (initializeContract ⟨[7], 1⟩ 9) (freshState () : State ℕ Unit) ()
      (initialState ⟨[7], 1⟩ 9 ()) :=
    returns_initializeContract_freshState.mpr ⟨by decide, rfl⟩
  exact ⟨_, h, fun as => (history_auditLog h as).2.2.1⟩

end StellarConduit.Treasury
