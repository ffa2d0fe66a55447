import StellarConduit.FeeDistributor.Transition

/-!
# Earnings and fee entries

A relay's earnings are a running record; the fee entries are a map keyed by
batch.  `distribute` writes both, `claim` only the record, and `set_fee_rate`
neither.  The record is at all times what the map says it should be.

The invariant `Reconciled` has two equations for every relay.  What it has earned in total is
what it has claimed and what it has not; and it is the sum, over the fee entries in its name, of
the fee without the treasury's share.  The first is about the record alone and the second about
the record and the map, and a distribution moves both sides of both by its payout.

The entry points enter many fields at once, so what one of them does to the books is stated
first, as `DistributionEntered` and `ClaimEntered`: for every relay, what its record was before
and is after.  The proofs about the invariant, about the claimed totals and about the entries of
a batch are read off these two, and nothing else about the entry points is needed.

The sums over runs are counted in steps: `claimedBy` is what a step pays to a relay and
`distributions` whether it distributes a batch.  A counter of the storage that changes in every
step by such a number is, at the end, its start and their sum.

## Main definitions

* `earningsOf`, `creditedTo` — a relay's record, and what the fee entries have left to it.
* `claimedBy`, `distributions` — what a step pays to a relay, and whether it distributes a batch.

## Main results

* `Reconciled` — the invariant that ties a relay's record to the fee entries.
* `earnings_reconciled` — the account of a relay, and of a batch, in every run.
-/

namespace StellarConduit.FeeDistributor

open Soroban Contract

/-- A recorded step of the distributor. -/
abbrev Step (Address X : Type) : Type :=
  Record (State Address X) (Action Address X (Call Address) Empty) (Reply ContractError Value)

section Steps

variable {Address X : Type} [DecidableEq Address]

/-- The record that `get_earnings` answers. -/
def earningsOf (s : Storage Address) (a : Address) : EarningsRecord :=
  (s.earnings.get a).getD EarningsRecord.zero

/-- What the fee entries of `a` have left to it, after the treasury's share. -/
def creditedTo (a : Address) (s : Storage Address) : Int :=
  s.feeEntry.sum fun _ e => if e.relayAddress = a then e.amount.val - e.treasuryShare.val else 0

/-- The payout of a successful claim by `a`. -/
def claimedBy (a : Address) (r : Step Address X) : Int :=
  match r.action, r.reply with
  | .call _ (.claim b), some (.ok (.amount payout)) => if b = a then payout.val else 0
  | _, _ => 0

/-- One for a successful distribution of the batch. -/
def distributions (batchId : U64) (r : Step Address X) : ℕ :=
  match r.action, r.reply with
  | .call _ (.distribute _ b _), some (.ok _) => if b = batchId then 1 else 0
  | _, _ => 0

/-- One for a batch with a fee entry. -/
def recorded (batchId : U64) (s : Storage Address) : ℕ :=
  if (s.feeEntry.get batchId).isSome then 1 else 0

/-- What holds of the storage of an initialized distributor. -/
structure Reconciled (s : Storage Address) : Prop where
  /-- There is a configuration. -/
  feeConfig : s.feeConfig.isSome
  /-- What was earned has been claimed, or can be. -/
  split : ∀ a, (earningsOf s a).totalEarned.val =
    (earningsOf s a).totalClaimed.val + (earningsOf s a).unclaimed.val
  /-- What was earned is what the fee entries say. -/
  credited : ∀ a, (earningsOf s a).totalEarned.val = creditedTo a s

variable {env : Env Address X} {w w' : State Address X} {s : Storage Address}

/-! ## One step

A distribution adds its payout to what the relay has earned and to what it may claim; a claim
moves all that may be claimed to what has been claimed.  Both write the record of one relay, so
the proofs begin with the question whether the relay is that one.
-/

/-- Writing the record of one relay. -/
theorem earningsOf_set (a b : Address) (record : EarningsRecord) {entries config treasury token} :
    earningsOf (Storage.mk (s.earnings.set a record) entries config treasury token) b =
      if b = a then record else earningsOf s b := by
  unfold earningsOf
  rw [Store.get_set]
  split <;> rfl

/-- What a distribution that returns enters into the books. -/
structure DistributionEntered (w w' : State Address X) (a : Address) (batchId : U64)
    (batchSize : U32) (config : FeeConfig Address) (e : FeeEntry Address) : Prop where
  /-- The configuration that the fee is computed with, -/
  configured : w.storage.feeConfig = some config
  /-- which stays. -/
  configKept : w'.storage.feeConfig = w.storage.feeConfig
  /-- The batch had no entry, -/
  fresh : w.storage.feeEntry.get batchId = none
  /-- and has this one. -/
  feeEntry : w'.storage.feeEntry = w.storage.feeEntry.set batchId e
  /-- It names the relay of the call. -/
  relayAddress : e.relayAddress = a
  /-- It holds the fee. -/
  amount : e.amount.val = feeOf batchSize config.feeRateBps
  /-- It holds the treasury's part of it. -/
  treasuryShare : e.treasuryShare.val =
    shareOf (feeOf batchSize config.feeRateBps) config.treasuryShareBps
  /-- The relay has earned the rest, and nobody else anything. -/
  totalEarned : ∀ b, (earningsOf w'.storage b).totalEarned.val =
    (earningsOf w.storage b).totalEarned.val +
      if b = a then e.amount.val - e.treasuryShare.val else 0
  /-- Nothing has been claimed. -/
  totalClaimed : ∀ b, (earningsOf w'.storage b).totalClaimed = (earningsOf w.storage b).totalClaimed
  /-- What the relay has earned it can claim. -/
  unclaimed : ∀ b, (earningsOf w'.storage b).unclaimed.val =
    (earningsOf w.storage b).unclaimed.val + if b = a then e.amount.val - e.treasuryShare.val else 0

/-- The entry of the batch is stored. -/
theorem DistributionEntered.stored {a : Address} {batchId : U64} {batchSize : U32}
    {config : FeeConfig Address} {e : FeeEntry Address}
    (entered : DistributionEntered w w' a batchId batchSize config e) :
    w'.storage.feeEntry.get batchId = some e := by
  rw [entered.feeEntry]
  exact Store.get_set_self _ _ _

/-- What a distribution does to the books. -/
theorem distribute_enters {a : Address} {batchId : U64} {batchSize : U32}
    (h : Returns (distribute env a batchId batchSize) w () w') :
    ∃ config e, DistributionEntered w w' a batchId batchSize config e := by
  obtain ⟨hnone, -, config, hconfig, fee, hfee, share, hshare, payout, hpayout, totalEarned, htotal,
    unclaimed, hunclaimed, x, -, rfl⟩ := returns_distribute.mp h
  refine ⟨config, ⟨batchId, a, fee, share, env.timestamp⟩,
    { configured := hconfig
      configKept := rfl
      fresh := hnone
      feeEntry := rfl
      relayAddress := rfl
      amount := hfee
      treasuryShare := hfee ▸ hshare
      totalEarned := fun b => ?_
      totalClaimed := fun b => ?_
      unclaimed := fun b => ?_ }⟩
  · rw [earningsOf_set]
    split
    · rename_i hb
      rw [hb, ← hpayout]
      exact htotal
    · exact (add_zero _).symm
  · rw [earningsOf_set]
    split
    · rename_i hb
      rw [hb]
      rfl
    · rfl
  · rw [earningsOf_set]
    split
    · rename_i hb
      rw [hb, ← hpayout]
      exact hunclaimed
    · exact (add_zero _).symm

/-- What a claim that returns enters into the books. -/
structure ClaimEntered (w w' : State Address X) (a : Address) (payout : I128) : Prop where
  /-- All that could be claimed is paid. -/
  payout_eq : payout = (earningsOf w.storage a).unclaimed
  /-- The configuration stays. -/
  configKept : w'.storage.feeConfig = w.storage.feeConfig
  /-- So do the fee entries. -/
  feeEntry : w'.storage.feeEntry = w.storage.feeEntry
  /-- Nothing has been earned. -/
  totalEarned : ∀ b, (earningsOf w'.storage b).totalEarned = (earningsOf w.storage b).totalEarned
  /-- The relay has claimed the payout. -/
  totalClaimed : ∀ b, (earningsOf w'.storage b).totalClaimed.val =
    (earningsOf w.storage b).totalClaimed.val + if b = a then payout.val else 0
  /-- Nothing is left to it; the others have what they had. -/
  unclaimed : ∀ b, (earningsOf w'.storage b).unclaimed =
    if b = a then 0 else (earningsOf w.storage b).unclaimed

/-- What a claim does to the books. -/
theorem claim_enters {a : Address} {payout : I128} (h : Returns (claim env a) w payout w') :
    ClaimEntered w w' a payout := by
  obtain ⟨-, -, rfl, totalClaimed, htotal, token, -, x, -, rfl⟩ := returns_claim.mp h
  refine
    { payout_eq := rfl
      configKept := rfl
      feeEntry := rfl
      totalEarned := fun b => ?_
      totalClaimed := fun b => ?_
      unclaimed := fun b => ?_ }
  · rw [earningsOf_set]
    split
    · rename_i hb
      rw [hb]
      rfl
    · rfl
  · rw [earningsOf_set]
    split
    · rename_i hb
      rw [hb]
      exact htotal
    · exact (add_zero _).symm
  · rw [earningsOf_set]
    split <;> rfl

/-- Kept books are reconciled alike. -/
theorem Reconciled.congr (books : Reconciled w.storage) (kept : BooksKept w w')
    (configured : w'.storage.feeConfig.isSome) : Reconciled w'.storage where
  feeConfig := configured
  split a := by
    rw [earningsOf, kept.earnings]
    exact books.split a
  credited a := by
    rw [earningsOf, creditedTo, kept.earnings, kept.feeEntry]
    exact books.credited a

/-- A call that returns keeps the account. -/
theorem reconciled_call {c : Call Address} {v : Value} (books : Reconciled w.storage)
    (h : Returns (dispatch env c) w v w') : Reconciled w'.storage := by
  have outcome := outcome_of_returns books.feeConfig h
  have configured := outcome.configured books.feeConfig
  cases outcome with
  | @distribute a batchId _ _ _ hcall =>
      obtain ⟨config, e, entered⟩ := distribute_enters hcall
      refine ⟨configured, fun b => ?_, fun b => ?_⟩
      · have split := books.split b
        rw [entered.totalEarned, entered.totalClaimed, entered.unclaimed]
        omega
      · -- The new entry credits the payout to its relay and nothing to the others.
        rw [entered.totalEarned, creditedTo, entered.feeEntry,
          Store.sum_set_of_none _ _ entered.fresh, entered.relayAddress, books.credited b]
        simp only [creditedTo, eq_comm]
  | @claim a payout _ hcall =>
      have entered := claim_enters hcall
      refine ⟨configured, fun b => ?_, fun b => ?_⟩
      · have split := books.split b
        rw [entered.totalEarned, entered.totalClaimed, entered.unclaimed]
        by_cases hb : b = a
        · simp only [hb, if_true, entered.payout_eq, MachineInt.val_zero]
          rw [hb] at split
          omega
        · simp only [hb, if_false]
          omega
      · rw [entered.totalEarned, creditedTo, entered.feeEntry]
        exact books.credited b
  | other quiet kept => exact books.congr kept configured

/-- The claimed total of a relay grows by the payout of its claims. -/
theorem totalClaimed_call {c : Call Address} {v : Value} (configured : w.storage.feeConfig.isSome)
    (h : Returns (dispatch env c) w v w') (a : Address) :
    (earningsOf w'.storage a).totalClaimed.val =
      (earningsOf w.storage a).totalClaimed.val +
        claimedBy a ⟨w, .call env c, some (.ok v), w'⟩ := by
  cases outcome_of_returns configured h with
  | distribute hcall =>
      obtain ⟨config, e, entered⟩ := distribute_enters hcall
      rw [entered.totalClaimed]
      exact (add_zero _).symm
  | claim hcall =>
      rw [(claim_enters hcall).totalClaimed]
      simp only [claimedBy, eq_comm]
  | other quiet kept =>
      have none : claimedBy a ⟨w, .call env c, some (.ok v), w'⟩ = 0 := by
        cases c <;> first | rfl | exact absurd trivial quiet
      rw [none, earningsOf, kept.earnings, add_zero]
      rfl

/-- A fee entry is written once, by the one distribution of its batch. -/
theorem distributions_call {c : Call Address} {v : Value} (configured : w.storage.feeConfig.isSome)
    (h : Returns (dispatch env c) w v w') (batchId : U64) :
    recorded batchId w'.storage =
      recorded batchId w.storage + distributions batchId ⟨w, .call env c, some (.ok v), w'⟩ := by
  cases outcome_of_returns configured h with
  | @distribute _ id _ _ _ hcall =>
      obtain ⟨config, e, entered⟩ := distribute_enters hcall
      rw [recorded, entered.feeEntry]
      by_cases hid : batchId = id
      · subst hid
        simp [recorded, distributions, entered.fresh]
      · simp [recorded, distributions, Store.get_set_of_ne _ _ hid, Ne.symm hid]
  | claim hcall =>
      rw [recorded, (claim_enters hcall).feeEntry]
      rfl
  | other quiet kept =>
      have none : distributions batchId ⟨w, .call env c, some (.ok v), w'⟩ = 0 := by
        cases c <;> first | rfl | exact absurd trivial quiet
      rw [none, recorded, kept.feeEntry, add_zero]
      rfl

/-- A fee entry, once stored, stays. -/
theorem feeEntry_call {c : Call Address} {v : Value} (configured : w.storage.feeConfig.isSome)
    (h : Returns (dispatch env c) w v w') {batchId : U64} {e : FeeEntry Address}
    (he : w.storage.feeEntry.get batchId = some e) : w'.storage.feeEntry.get batchId = some e := by
  cases outcome_of_returns configured h with
  | @distribute _ id _ _ _ hcall =>
      obtain ⟨config, e', entered⟩ := distribute_enters hcall
      have hid : batchId ≠ id := by
        rintro rfl
        rw [entered.fresh] at he
        cases he
      rw [entered.feeEntry, Store.get_set_of_ne _ _ hid]
      exact he
  | claim hcall =>
      rw [(claim_enters hcall).feeEntry]
      exact he
  | other quiet kept =>
      rw [kept.feeEntry]
      exact he

/-- A failing call rolls back, and the other contracts do not write here. -/
theorem reconciled_step (w : State Address X) (action : Action Address X (Call Address) Empty)
    (books : Reconciled w.storage) : Reconciled (machine.step w action).2.storage :=
  Deployed.step_storage Reconciled (fun _ _ _ _ _ => reconciled_call) (fun p => p.elim) w action
    books

/-- So for every step, a failing one paying nothing. -/
theorem totalClaimed_step (a : Address) (w : State Address X)
    (action : Action Address X (Call Address) Empty) (books : Reconciled w.storage) :
    (earningsOf (machine.step w action).2.storage a).totalClaimed.val =
      (earningsOf w.storage a).totalClaimed.val + claimedBy a (machine.record w action) := by
  refine Deployed.record_rule dispatch provide
    (fun r => (earningsOf r.after.storage a).totalClaimed.val =
      (earningsOf w.storage a).totalClaimed.val + claimedBy a r) w action
    ?returned ?failed ?provision ?elsewhere
  case returned =>
    intro env c v w' h
    exact totalClaimed_call books.feeConfig h a
  case failed =>
    intro env c e
    simp [claimedBy]
  case provision =>
    intro p
    exact p.elim
  case elsewhere =>
    intro x
    simp [claimedBy]

/-- So for every step, a failing one distributing nothing. -/
theorem distributions_step (batchId : U64) (w : State Address X)
    (action : Action Address X (Call Address) Empty) (books : Reconciled w.storage) :
    recorded batchId (machine.step w action).2.storage =
      recorded batchId w.storage + distributions batchId (machine.record w action) := by
  refine Deployed.record_rule dispatch provide
    (fun r => recorded batchId r.after.storage =
      recorded batchId w.storage + distributions batchId r) w action
    ?returned ?failed ?provision ?elsewhere
  case returned =>
    intro env c v w' h
    exact distributions_call books.feeConfig h batchId
  case failed =>
    intro env c e
    simp [distributions]
  case provision =>
    intro p
    exact p.elim
  case elsewhere =>
    intro x
    simp [distributions]

/-- The fee entries of one state are kept in another. -/
def EntriesKept (w w' : State Address X) : Prop :=
  ∀ batchId e, w.storage.feeEntry.get batchId = some e →
    w'.storage.feeEntry.get batchId = some e

/-- No step removes or rewrites a fee entry. -/
theorem entriesKept_step (w : State Address X) (action : Action Address X (Call Address) Empty)
    (books : Reconciled w.storage) : EntriesKept w (machine.step w action).2 := by
  refine Deployed.record_rule dispatch provide (fun r => EntriesKept w r.after) w action
    ?returned ?failed ?provision ?elsewhere
  case returned =>
    intro env c v w' h batchId e he
    exact feeEntry_call books.feeConfig h he
  case failed =>
    intro env c _ batchId e he
    exact he
  case provision =>
    intro p
    exact p.elim
  case elsewhere =>
    intro x batchId e he
    exact he

end Steps

/-! ## Runs

`initialize` starts the account at zero, and the step lemmas carry it along every run.
-/

section Runs

variable {Address X : Type} {council : AdminCouncil Address} {feeRateBps treasuryShareBps : U32}
  {treasury token : Address} {x : X} {w : State Address X} {u : Unit}

/-- The world of a freshly deployed distributor. -/
def freshState (x : X) : State Address X where
  storage := Storage.fresh
  outside := x
  events := []

/-- The world of a freshly deployed distributor after a successful `initialize`. -/
def initialState (council : AdminCouncil Address) (feeRateBps treasuryShareBps : U32)
    (treasury token : Address) (x : X) : State Address X where
  storage := { (Storage.fresh : Storage Address) with
    feeConfig := some
      { feeRateBps := feeRateBps, treasuryShareBps := treasuryShareBps, council := council }
    treasuryAddress := some treasury
    tokenAddress := some token }
  outside := x
  events := []

/-- `initialize` on a fresh deployment, as one equivalence. -/
theorem returns_initializeContract_freshState :
    Returns (initializeContract council feeRateBps treasuryShareBps treasury token)
        (freshState x) u w ↔
      ¬ (feeRateBps = 0 ∨ feeRateBps > 10000) ∧ ¬ council.Invalid ∧
        w = initialState council feeRateBps treasuryShareBps treasury token x := by
  rw [returns_initializeContract]
  exact and_iff_right rfl

variable [DecidableEq Address]

/-- Initialization starts the account. -/
theorem reconciled_initialState :
    Reconciled (initialState council feeRateBps treasuryShareBps treasury token x).storage where
  feeConfig := rfl
  split a := by simp [initialState, Storage.fresh, earningsOf, EarningsRecord.zero]
  credited a := by simp [initialState, Storage.fresh, earningsOf, EarningsRecord.zero, creditedTo]

/-- The books of every run from reconciled books are reconciled. -/
theorem reconciled_run {w : State Address X} (start : Reconciled w.storage)
    (as : List (Action Address X (Call Address) Empty)) : Reconciled (machine.run w as).storage :=
  machine.run_invariant (fun w => Reconciled w.storage) reconciled_step start as

/-- The fee entries are kept in every run. -/
theorem entriesKept_run {w : State Address X} (start : Reconciled w.storage)
    (as : List (Action Address X (Call Address) Empty)) : EntriesKept w (machine.run w as) :=
  machine.run_related (fun w => Reconciled w.storage) EntriesKept (fun _ _ _ he => he)
    (fun hab hbc id e he => hbc id e (hab id e he)) reconciled_step entriesKept_step start as

/-- A distribution that succeeded has left its entry, with the fee at the rate it
found, in every later state. -/
theorem distributed_entry {w : State Address X} (books : Reconciled w.storage)
    {env : Env Address X} {a : Address} {batchId : U64} {batchSize : U32} {v : Value}
    (hreply : (machine.record w (.call env (.distribute a batchId batchSize))).reply =
      some (.ok v))
    (as : List (Action Address X (Call Address) Empty)) :
    ∃ config e, w.storage.feeConfig = some config ∧
      (machine.run w (.call env (.distribute a batchId batchSize) :: as)).storage.feeEntry.get
        batchId = some e ∧ e.relayAddress = a ∧
      e.amount.val = feeOf batchSize config.feeRateBps := by
  have kept := entriesKept_run
    (reconciled_step w (.call env (.distribute a batchId batchSize)) books) as
  have call := Deployed.returns_of_reply dispatch provide rfl rfl hreply
  obtain ⟨_, hcall, -⟩ := returns_bind_pure.mp call
  obtain ⟨-, -, config, hconfig, fee, hfee, share, -, payout, -, totalEarned, -, unclaimed, -, x,
    -, hafter⟩ := returns_distribute.mp hcall
  refine ⟨config, ⟨batchId, a, fee, share, env.timestamp⟩, hconfig, kept batchId _ ?_, rfl, hfee⟩
  rw [← Machine.record_after, hafter]
  exact Store.get_set_self _ _ _

/-- **Earnings are reconciled in every run.**  A relay's total earnings are what
it claimed and what it has not claimed, and are what the fee entries credit to
it; its claimed total is the sum of the payouts of its claims.  Every batch is
distributed at most once, its entry is never changed, and the amount of the entry
is the fee at the rate in force when it was distributed. -/
theorem earnings_reconciled
    (h : Returns (initializeContract council feeRateBps treasuryShareBps treasury token)
      (freshState x) u w)
    (as : List (Action Address X (Call Address) Empty)) :
    (∀ a, ∃ record, Returns (getEarnings a) (machine.run w as) record (machine.run w as) ∧
        record.totalEarned.val = record.totalClaimed.val + record.unclaimed.val ∧
        record.totalEarned.val = (machine.run w as).storage.feeEntry.sum
          (fun _ e => if e.relayAddress = a then e.amount.val - e.treasuryShare.val else 0) ∧
        record.totalClaimed.val = Machine.total (claimedBy a) (machine.trace w as)) ∧
      (∀ batchId, Machine.total (distributions batchId) (machine.trace w as) ≤ 1) ∧
      (∀ bs batchId e, (machine.run w as).storage.feeEntry.get batchId = some e →
        (machine.run w (as ++ bs)).storage.feeEntry.get batchId = some e) ∧
      ∀ r ∈ machine.trace w as, ∀ env a batchId batchSize v,
        r.action = .call env (.distribute a batchId batchSize) → r.reply = some (.ok v) →
          ∃ config e, r.before.storage.feeConfig = some config ∧
            (machine.run w as).storage.feeEntry.get batchId = some e ∧ e.relayAddress = a ∧
            e.amount.val = feeOf batchSize config.feeRateBps := by
  obtain ⟨-, -, rfl⟩ := returns_initializeContract_freshState.mp h
  have start : Reconciled
      (initialState council feeRateBps treasuryShareBps treasury token x).storage :=
    reconciled_initialState
  have books := reconciled_run start as
  refine ⟨fun a => ⟨_, returns_getEarnings.mpr ⟨rfl, rfl⟩, books.split a, books.credited a, ?_⟩,
    fun batchId => ?_, fun bs batchId e he => ?_, ?_⟩
  · have claimed := machine.potential_run (fun w => Reconciled w.storage)
      (fun w => (earningsOf w.storage a).totalClaimed.val) (claimedBy a) reconciled_step
      (totalClaimed_step a) start as
    simpa [initialState, Storage.fresh, earningsOf, EarningsRecord.zero] using claimed
  · have count := machine.potential_run (fun w => Reconciled w.storage)
      (fun w => recorded batchId w.storage) (distributions batchId) reconciled_step
      (distributions_step batchId) start as
    have none : recorded batchId
        (initialState council feeRateBps treasuryShareBps treasury token x).storage = 0 := rfl
    rw [none, zero_add] at count
    rw [← count, recorded]
    split <;> simp
  · rw [Machine.run_append]
    exact entriesKept_run books bs batchId e he
  · intro r hr env a batchId batchSize v haction hreply
    obtain ⟨pre, action, post, rfl, rfl⟩ := machine.mem_trace.mp hr
    obtain rfl : action = .call env (.distribute a batchId batchSize) := haction
    rw [Machine.run_append]
    exact distributed_entry (reconciled_run start pre) hreply post

end Runs

/-- The distributor of a one-member council: a fee of half a percent, of which a
tenth goes to the treasury. -/
theorem earnings_reconciled_singleMember :
    ∃ w : State ℕ Unit,
      Returns (initializeContract ⟨[7], 1⟩ 50 1000 8 9) (freshState ()) () w ∧
        ∀ as batchId, Machine.total (distributions batchId) (machine.trace w as) ≤ 1 := by
  have h : Returns (initializeContract ⟨[7], 1⟩ 50 1000 8 9) (freshState () : State ℕ Unit) ()
      (initialState ⟨[7], 1⟩ 50 1000 8 9 ()) :=
    returns_initializeContract_freshState.mpr ⟨by decide, by decide, rfl⟩
  exact ⟨_, h, fun as => (earnings_reconciled h as).2.1⟩

end StellarConduit.FeeDistributor
