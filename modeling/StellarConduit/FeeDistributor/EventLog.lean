import StellarConduit.FeeDistributor.Bounds
import StellarConduit.FeeDistributor.SelfCredit
import StellarConduit.Soroban.Replay

/-!
# The distributor as its events tell it

A distribution announces the relay, the batch, the payout and the treasury's share; a
claim the relay and what it was paid.  An observer who knows the treasury's fraction can
keep all accounts and all fee entries from these, apart from the times of settlement,
and can audit the log while doing so: a batch is announced once, the share is the
fraction of the fee, and a claim takes all that was unclaimed.

The observer is a machine with a `View` as its state.  It reads one event after another and
rejects a log that cannot be the log of a distributor.  The payout and the share of an event add
up to the fee, and from the fee and the fraction the observer computes the share again; so a
distributor that paid a relay less than its part would be found out by the first event that says
so.  The rate itself is not needed for this, but it is announced when it changes, and kept.

What a log makes of an account does not depend on its order: the totals are sums over
the events, and a fee entry is its one announcement.  Two runs of two different distributors
with the same fraction, in which the same distributions are announced, have therefore settled
the same, whatever their other calls were.

## Main definitions

* `Account`, `Settled`, `View` — what the observer keeps.
* `observer` — the machine.

## Main results

* `accounts_replayed` — the log of every run is accepted, and replays to the accounts, the
  fee entries and the rate as they are stored, apart from the times of settlement.
* `order_independent` — runs that announced the same distributions, in whatever order and
  between whatever claims, have settled the same.
-/

namespace StellarConduit.FeeDistributor

open Soroban Contract

/-- What the events tell of a relay. -/
structure Account where
  /-- All that the relay has earned, -/
  totalEarned : Int
  /-- what it has claimed of it, -/
  totalClaimed : Int
  /-- and what is left. -/
  unclaimed : Int
deriving DecidableEq

/-- What the events tell of a batch. -/
structure Settled (Address : Type) where
  /-- Whose batch it was, -/
  relayAddress : Address
  /-- the fee, -/
  amount : Int
  /-- and the treasury's part of it. -/
  treasuryShare : Int
deriving DecidableEq

/-- What an observer of the distributor holds. -/
structure View (Address : Type) where
  /-- The accounts of the relays. -/
  accounts : Address → Account
  /-- The batches that were distributed. -/
  entries : U64 → Option (Settled Address)
  /-- The rate in force. -/
  feeRateBps : U32

/-- The account of a relay of which no event has told. -/
def Account.zero : Account where
  totalEarned := 0
  totalClaimed := 0
  unclaimed := 0

/-- The view before the first event. -/
def View.start {Address : Type} (feeRateBps : U32) : View Address where
  accounts := fun _ => Account.zero
  entries := fun _ => none
  feeRateBps := feeRateBps

/-- The account after a payout was earned. -/
def Account.earn (account : Account) (payout : Int) : Account :=
  { account with
    totalEarned := account.totalEarned + payout
    unclaimed := account.unclaimed + payout }

/-- The account after all that was unclaimed has been paid. -/
def Account.pay (account : Account) : Account :=
  { account with
    totalClaimed := account.totalClaimed + account.unclaimed
    unclaimed := 0 }

variable {Address X : Type} [DecidableEq Address]

/-- The observer of a distributor that gives this fraction of the fees to the treasury. -/
def observer (treasuryShareBps : U32) : Indexer (View Address) (Event Address) := fun v e =>
  match e with
  | .distribute a batchId payout share =>
      if v.entries batchId = none ∧
          share.val = shareOf (payout.val + share.val) treasuryShareBps then
        some { v with
          accounts := Function.update v.accounts a ((v.accounts a).earn payout.val)
          entries := Function.update v.entries batchId
            (some
              { relayAddress := a
                amount := payout.val + share.val
                treasuryShare := share.val }) }
      else none
  | .claim a payout =>
      if payout.val ≠ 0 ∧ payout.val = (v.accounts a).unclaimed then
        some { v with accounts := Function.update v.accounts a (v.accounts a).pay }
      else none
  | .setFeeRate newFeeRateBps =>
      if 0 < newFeeRateBps.val ∧ newFeeRateBps.val ≤ 10000 then
        some { v with feeRateBps := newFeeRateBps }
      else none

/-! ## What a log says -/

section Logs

/-- What an event lets a relay earn. -/
def Event.earnedBy (a : Address) : Event Address → Int
  | .distribute b _ payout _ => if b = a then payout.val else 0
  | _ => 0

/-- What an event pays a relay. -/
def Event.paidTo (a : Address) : Event Address → Int
  | .claim b payout => if b = a then payout.val else 0
  | _ => 0

/-- The event announces a distribution. -/
def Event.Distributes : Event Address → Prop
  | .distribute _ _ _ _ => True
  | _ => False

instance (e : Event Address) : Decidable e.Distributes := by
  cases e with
  | distribute a batchId payout share => exact .isTrue trivial
  | claim a payout => exact .isFalse id
  | setFeeRate rate => exact .isFalse id

/-- The distributions that a log announces. -/
def announced (events : List (Event Address)) : List (Event Address) :=
  events.filter fun e => e.Distributes

/-- The event announces this settlement of the batch. -/
def Event.Settles (batchId : U64) (t : Settled Address) (e : Event Address) : Prop :=
  ∃ payout share, e = .distribute t.relayAddress batchId payout share ∧
    t.amount = payout.val + share.val ∧ t.treasuryShare = share.val

variable {treasuryShareBps : U32} {v v' : View Address} {e : Event Address}
  {events : List (Event Address)}

omit [DecidableEq Address] in
/-- What announces a settlement is a distribution. -/
theorem Event.Settles.distributes {batchId : U64} {t : Settled Address}
    (h : e.Settles batchId t) : e.Distributes := by
  obtain ⟨payout, share, rfl, -⟩ := h
  trivial

/-- An event adds to the totals of a relay what it lets the relay earn and what it pays it. -/
theorem observer_account (h : observer treasuryShareBps v e = some v') (a : Address) :
    (v'.accounts a).totalEarned = (v.accounts a).totalEarned + e.earnedBy a ∧
      (v'.accounts a).totalClaimed = (v.accounts a).totalClaimed + e.paidTo a := by
  cases e with
  | distribute b batchId payout share =>
      obtain ⟨-, ⟨⟩⟩ := Option.ite_none_right_eq_some.mp h
      by_cases hb : a = b
      · subst hb
        simp [Account.earn, Event.earnedBy, Event.paidTo]
      · simp [Function.update_of_ne hb, Event.earnedBy, Event.paidTo, Ne.symm hb]
  | claim b payout =>
      obtain ⟨⟨-, hpayout⟩, ⟨⟩⟩ := Option.ite_none_right_eq_some.mp h
      by_cases hb : a = b
      · subst hb
        simp [Account.pay, Event.earnedBy, Event.paidTo, hpayout]
      · simp [Function.update_of_ne hb, Event.earnedBy, Event.paidTo, Ne.symm hb]
  | setFeeRate newFeeRateBps =>
      obtain ⟨-, ⟨⟩⟩ := Option.ite_none_right_eq_some.mp h
      simp [Event.earnedBy, Event.paidTo]

/-- An event brings about the settlements it announces, and takes none back. -/
theorem observer_entry (h : observer treasuryShareBps v e = some v') (batchId : U64)
    (t : Settled Address) :
    v'.entries batchId = some t ↔ v.entries batchId = some t ∨ e.Settles batchId t := by
  cases e with
  | distribute a id payout share =>
      obtain ⟨⟨fresh, -⟩, ⟨⟩⟩ := Option.ite_none_right_eq_some.mp h
      by_cases hid : batchId = id
      · subst hid
        simp only [Function.update_self, Option.some.injEq, fresh, reduceCtorEq, false_or]
        constructor
        · rintro rfl
          exact ⟨payout, share, rfl, rfl, rfl⟩
        · rintro ⟨_, _, announced, hamount, hshare⟩
          cases announced
          rw [← hamount, ← hshare]
      · simp only [Function.update_of_ne hid]
        refine (or_iff_left ?_).symm
        rintro ⟨_, _, announced, -⟩
        cases announced
        exact hid rfl
  | claim a payout =>
      obtain ⟨-, ⟨⟩⟩ := Option.ite_none_right_eq_some.mp h
      simp [Event.Settles]
  | setFeeRate newFeeRateBps =>
      obtain ⟨-, ⟨⟩⟩ := Option.ite_none_right_eq_some.mp h
      simp [Event.Settles]

/-- What a log lets a relay earn is announced by its distributions. -/
theorem sum_earnedBy (a : Address) (events : List (Event Address)) :
    (events.map (Event.earnedBy a)).sum =
      ((announced events).map (Event.earnedBy a)).sum := by
  have others : ((events.filter fun e => ¬ e.Distributes).map (Event.earnedBy a)).sum = 0 := by
    refine List.sum_eq_zero fun x hx => ?_
    obtain ⟨e, he, rfl⟩ := List.mem_map.mp hx
    obtain ⟨-, other⟩ := List.mem_filter.mp he
    cases e with
    | distribute b id payout share => simp [Event.Distributes] at other
    | claim b payout => rfl
    | setFeeRate rate => rfl
  rw [← List.sum_map_filter_add_sum_map_filter_not (fun e : Event Address => e.Distributes),
    others, add_zero, announced]

/-- The totals that a log leaves a relay are the sums over the log. -/
theorem replay_account {feeRateBps : U32}
    (h : (observer treasuryShareBps).replay (View.start feeRateBps) events = some v)
    (a : Address) :
    (v.accounts a).totalEarned = (events.map (Event.earnedBy a)).sum ∧
      (v.accounts a).totalClaimed = (events.map (Event.paidTo a)).sum := by
  have earned := Indexer.replay_potential (fun v : View Address => (v.accounts a).totalEarned)
    (Event.earnedBy a) (fun v e v' h => (observer_account h a).1) h
  have claimed := Indexer.replay_potential (fun v : View Address => (v.accounts a).totalClaimed)
    (Event.paidTo a) (fun v e v' h => (observer_account h a).2) h
  exact ⟨earned.trans (zero_add _), claimed.trans (zero_add _)⟩

/-- The fee entry that a log leaves a batch is the one that a distribution announced. -/
theorem replay_entry {feeRateBps : U32}
    (h : (observer treasuryShareBps).replay (View.start feeRateBps) events = some v)
    (batchId : U64) (t : Settled Address) :
    v.entries batchId = some t ↔ ∃ e ∈ announced events, e.Settles batchId t := by
  have grown := Indexer.replay_grows (fun v : View Address => v.entries batchId = some t)
    (Event.Settles batchId t) (fun v e v' h => observer_entry h batchId t) h
  rw [grown]
  constructor
  · rintro (started | ⟨e, he, settles⟩)
    · cases started
    · exact ⟨e, List.mem_filter.mpr ⟨he, decide_eq_true settles.distributes⟩, settles⟩
  · rintro ⟨e, he, settles⟩
    exact Or.inr ⟨e, (List.mem_filter.mp he).1, settles⟩

end Logs

/-! ## The stored records -/

/-- What the observer is to hold of an earnings record. -/
def EarningsRecord.account (record : EarningsRecord) : Account where
  totalEarned := record.totalEarned.val
  totalClaimed := record.totalClaimed.val
  unclaimed := record.unclaimed.val

/-- What the observer is to hold of a fee entry. -/
def FeeEntry.settled {Address : Type} (e : FeeEntry Address) : Settled Address where
  relayAddress := e.relayAddress
  amount := e.amount.val
  treasuryShare := e.treasuryShare.val

/-- What the observer is to hold of the stored records. -/
def view (s : Storage Address) : View Address where
  accounts a := (earningsOf s a).account
  entries := s.feeEntry.view FeeEntry.settled
  feeRateBps := (s.feeConfig.map FeeConfig.feeRateBps).getD 0

section Calls

variable {treasuryShareBps : U32} {env : Env Address X} {w w' : State Address X}

/-- Writing one earnings record moves one account. -/
theorem account_earningsOf_set {s : Storage Address} (a : Address) (record : EarningsRecord)
    {entries config treasury token} :
    (fun b => (earningsOf (Storage.mk (s.earnings.set a record) entries config treasury token)
        b).account) =
      Function.update (fun b => (earningsOf s b).account) a record.account := by
  funext b
  rw [earningsOf_set, Function.update_apply, apply_ite EarningsRecord.account]

/-- A call that returns publishes what moved the view. -/
theorem replays_call {c : Call Address} {v : Value}
    (configured : Configured treasuryShareBps w.storage) (h : Returns (dispatch env c) w v w') :
    Replays (observer treasuryShareBps) view w w' := by
  cases c with
  | initializeContract council feeRateBps treasuryShareBps treasury token =>
      -- A second `initialize` answers `AlreadyInitialized`.
      obtain ⟨_, hcall, -⟩ := returns_bind_pure.mp h
      obtain ⟨hnone, -⟩ := returns_initializeContract.mp hcall
      have stored := configured.isSome
      rw [hnone] at stored
      cases stored
  | calculateFee batchSize | getEarnings a =>
      obtain rfl := world_eq_of_reads h trivial
      exact .refl _ _ _
  | distribute a batchId batchSize =>
      obtain ⟨_, hcall, -⟩ := returns_bind_pure.mp h
      obtain ⟨config, hconfig, hbps, -⟩ := configured
      obtain ⟨fresh, -, config', hconfig', fee, -, share, hshare, payout, hpayout, totalEarned,
        htotal, unclaimed, hunclaimed, x, -, rfl⟩ := returns_distribute.mp hcall
      obtain rfl : config = config' := Option.some.inj (hconfig.symm.trans hconfig')
      refine .publish rfl ?_
      have whole : payout.val + share.val = fee.val := by omega
      have entry : w.storage.feeEntry.view FeeEntry.settled batchId = none :=
        Store.view_of_get_none fresh
      rw [observer, whole, if_pos ⟨entry, hbps ▸ hshare⟩, view, view, account_earningsOf_set,
        Store.view_set, Option.some.injEq]
      simp only [Account.earn, EarningsRecord.account, earningsOf, FeeEntry.settled, htotal,
        hunclaimed]
  | claim a =>
      obtain ⟨payout, hcall, rfl⟩ := returns_bind_pure.mp h
      obtain ⟨-, hne, rfl, totalClaimed, htotal, token, -, x, -, rfl⟩ := returns_claim.mp hcall
      refine .publish rfl ?_
      have nonzero : ((w.storage.earnings.get a).getD EarningsRecord.zero).unclaimed.val ≠ 0 :=
        fun zero => hne (MachineInt.ext (zero.trans MachineInt.val_zero.symm))
      rw [observer, if_pos ⟨nonzero, rfl⟩, view, view, account_earningsOf_set, Option.some.injEq]
      simp only [Account.pay, EarningsRecord.account, earningsOf, htotal, MachineInt.val_zero]
  | setFeeRate newFeeRateBps =>
      obtain ⟨_, hcall, -⟩ := returns_bind_pure.mp h
      obtain ⟨-, accepted, config, hconfig, rfl⟩ := returns_setFeeRate.mp hcall
      refine .publish rfl ?_
      rw [observer, if_pos (rate_bounds accepted)]
      rfl

end Calls

/-! ## Runs -/

section Runs

variable {council : AdminCouncil Address} {feeRateBps treasuryShareBps : U32}
  {treasury token : Address} {x : X} {w : State Address X} {u : Unit}

/-- From any moment of a run to a later one, the new events tell what became of the books. -/
theorem replays_run (configured : Configured treasuryShareBps w.storage)
    (as : List (Action Address X (Call Address) Empty)) :
    Replays (observer treasuryShareBps) view w (machine.run w as) :=
  Deployed.replays_run (observer treasuryShareBps) view (Configured treasuryShareBps)
    (fun _ _ _ _ _ configured h => ⟨configured_call configured h, replays_call configured h⟩)
    (fun p => p.elim) configured as

/-- **The distributor can be followed from its events.**  The log of every run is one that
the observer accepts, so no batch is announced twice, every announced share is the
configured fraction of its fee, and every claim takes all that was unclaimed; replaying it
gives the accounts and the fee rate as they are stored, and the fee entries apart from
`settled_at`, which is the close time of the ledger and in no event.  Hence a relay's totals are
the sums of the announced payouts and claims. -/
theorem accounts_replayed
    (h : Returns (initializeContract council feeRateBps treasuryShareBps treasury token)
      (freshState x) u w)
    (as : List (Action Address X (Call Address) Empty)) :
    let reached := machine.run w as
    (observer treasuryShareBps).replay (View.start feeRateBps) reached.events =
        some (view reached.storage) ∧
      ∀ a, (earningsOf reached.storage a).totalEarned.val =
          (reached.events.map (Event.earnedBy a)).sum ∧
        (earningsOf reached.storage a).totalClaimed.val =
          (reached.events.map (Event.paidTo a)).sum := by
  intro reached
  have log : (observer treasuryShareBps).replay (View.start feeRateBps) reached.events =
      some (view reached.storage) := by
    have replays : Replays (observer treasuryShareBps) view w reached :=
      replays_run (configured_initializeContract h) as
    obtain ⟨-, -, rfl⟩ := returns_initializeContract_freshState.mp h
    exact replays.replay rfl
  exact ⟨log, replay_account log⟩

/-- The books are reconciled wherever a run leads. -/
theorem reconciled_reached
    (h : Returns (initializeContract council feeRateBps treasuryShareBps treasury token)
      (freshState x) u w)
    (as : List (Action Address X (Call Address) Empty)) :
    Reconciled (machine.run w as).storage := by
  obtain ⟨-, -, rfl⟩ := returns_initializeContract_freshState.mp h
  exact reconciled_run reconciled_initialState as

/-- **Neither the order of settlements nor the times of claims matter.**  Two runs of
distributors with the same fraction for the treasury, in which the same distributions were
announced in whatever order, whatever claims came in between, have left every batch the same
relay, fee and share; every relay has earned the same, and what it has been paid and what it
may still claim have the same total. -/
theorem order_independent {council' : AdminCouncil Address} {feeRateBps' : U32}
    {treasury' token' : Address} {x' : X} {w' : State Address X} {u' : Unit}
    (h : Returns (initializeContract council feeRateBps treasuryShareBps treasury token)
      (freshState x) u w)
    (h' : Returns (initializeContract council' feeRateBps' treasuryShareBps treasury' token')
      (freshState x') u' w')
    (as bs : List (Action Address X (Call Address) Empty))
    (same : (announced (machine.run w as).events).Perm (announced (machine.run w' bs).events)) :
    let s := (machine.run w as).storage
    let s' := (machine.run w' bs).storage
    (∀ batchId, (s.feeEntry.get batchId).map FeeEntry.settled =
        (s'.feeEntry.get batchId).map FeeEntry.settled) ∧
      ∀ a, (earningsOf s a).totalEarned = (earningsOf s' a).totalEarned ∧
        (earningsOf s a).totalClaimed.val + (earningsOf s a).unclaimed.val =
          (earningsOf s' a).totalClaimed.val + (earningsOf s' a).unclaimed.val := by
  intro s s'
  obtain ⟨log, totals⟩ := accounts_replayed h as
  obtain ⟨log', totals'⟩ := accounts_replayed h' bs
  have entries (batchId : U64) : (s.feeEntry.get batchId).map FeeEntry.settled =
      (s'.feeEntry.get batchId).map FeeEntry.settled := by
    refine Option.ext fun t => ?_
    calc (s.feeEntry.get batchId).map FeeEntry.settled = some t
        ↔ ∃ e ∈ announced (machine.run w as).events, e.Settles batchId t :=
          replay_entry log batchId t
      _ ↔ ∃ e ∈ announced (machine.run w' bs).events, e.Settles batchId t := by
          simp only [same.mem_iff]
      _ ↔ (s'.feeEntry.get batchId).map FeeEntry.settled = some t :=
          (replay_entry log' batchId t).symm
  have earned (a : Address) :
      (earningsOf s a).totalEarned.val = (earningsOf s' a).totalEarned.val := by
    rw [(totals a).1, (totals' a).1, sum_earnedBy a (machine.run w as).events,
      sum_earnedBy a (machine.run w' bs).events]
    exact (same.map _).sum_eq
  refine ⟨entries, fun a => ⟨MachineInt.ext (earned a), ?_⟩⟩
  rw [← (reconciled_reached h as).split a, ← (reconciled_reached h' bs).split a, earned a]

end Runs

/-- So it is for the logs of the sample distributor. -/
theorem accounts_replayed_sample :
    ∃ w : State ℕ Unit, Returns (initializeContract ⟨[7], 1⟩ 50 1000 8 9) (freshState ()) () w ∧
      ∀ as, (observer 1000).replay (View.start 50) (machine.run w as).events =
        some (view (machine.run w as).storage) :=
  ⟨sampleDistributor, sampleDistributor_initialized, fun as =>
    (accounts_replayed sampleDistributor_initialized as).1⟩

/-- Two batches of two relays, and then a claim of the first. -/
def claimLast : List (Action ℕ Unit (Call ℕ) Empty) :=
  [.call (openEnv 1 0 5) (.distribute 10 1 1000), .call (openEnv 1 0 5) (.distribute 11 2 2000),
    .call (openEnv 1 0 6) (.claim 10)]

/-- The same batches the other way round, and the other relay claims in between. -/
def claimBetween : List (Action ℕ Unit (Call ℕ) Empty) :=
  [.call (openEnv 1 0 5) (.distribute 11 2 2000), .call (openEnv 1 0 6) (.claim 11),
    .call (openEnv 1 0 7) (.distribute 10 1 1000)]

/-- A claim between two batches or after them. -/
theorem order_independent_twoBatches :
    (earningsOf (machine.run sampleDistributor claimLast).storage 10).totalEarned =
      (earningsOf (machine.run sampleDistributor claimBetween).storage 10).totalEarned :=
  ((order_independent sampleDistributor_initialized sampleDistributor_initialized claimLast
    claimBetween (by decide)).2 10).1

end StellarConduit.FeeDistributor
