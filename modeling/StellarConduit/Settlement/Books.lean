import StellarConduit.Settlement.Conservation
import StellarConduit.Soroban.Matching

/-!
# The distributor's books and the treasury's

A distribution leaves a record in two contracts: the fee entry of the batch in the
distributor, and the deposit in the history of the treasury.  Nothing else makes a
record of either kind that would have to be found in the other contract: nobody signs a
deposit for the distributor, and a fee entry is written once.

The correspondence is `Matched`, of the library: a function from batches to numbers of history
entries that is one to one between the batches with a positive share and the deposits by the
distributor, and under which the amounts agree.  A distribution with a positive share adds a
record on both sides and extends the function by the new pair; one without adds a fee entry that
does not count; a deposit by somebody else, a withdrawal and an allocation add entries to the
history that do not count.

A batch and its history entry have nothing in common by which one could be found from the other:
the entry has no batch number and the fee entry no entry number.  So the function is not computed
from the state but kept by the invariant.

## Main definitions

* `Charged`, `DepositBy`, `PaysFor` — the records that count, and when two of them agree.
* `Booked` — the two books are in step.

## Main results

* `booked_step` — every step keeps the two books in step.
* `books_agree` — in every run, the fee entries with a positive treasury share and the
  distributor's deposits correspond one to one, and have the same total.
-/

namespace StellarConduit.Settlement

open Soroban Contract

section Books

variable {Address : Type}

/-- The treasury is owed a share of the fee. -/
def Charged (e : FeeDistributor.FeeEntry Address) : Prop := 0 < e.treasuryShare.val

/-- The history entry is a deposit by `a`. -/
def DepositBy (a : Address) (e : Treasury.TreasuryEntry Address) : Prop :=
  e.kind = .deposit ∧ e.actor = a

instance [DecidableEq Address] (a : Address) (e : Treasury.TreasuryEntry Address) :
    Decidable (DepositBy a e) :=
  inferInstanceAs (Decidable (_ ∧ _))

/-- The deposit is of the share that the fee entry names. -/
def PaysFor (e : FeeDistributor.FeeEntry Address) (d : Treasury.TreasuryEntry Address) : Prop :=
  d.amount = e.treasuryShare

/-- The total that `a` has deposited, by the treasury's history. -/
def depositedBy [DecidableEq Address] (a : Address) (t : Treasury.Storage Address) : Int :=
  t.entry.sum fun _ e => if DepositBy a e then e.amount.val else 0

/-- The treasury has appended `e` to its history. -/
def Appends (t t' : Treasury.Storage Address) (e : Treasury.TreasuryEntry Address) : Prop :=
  ∃ nextId : U64, nextId.val = (t.entryCount.getD 0).val + 1 ∧
    t'.entry = t.entry.set nextId e ∧ t'.entryCount = some nextId

/-- The two books agree: history entries are numbered, shares are not negative, and
the charged fee entries correspond to the deposits of the distributor. -/
structure Booked (chain : Chain Address) (s : State Address) : Prop where
  /-- The history is numbered. -/
  numbered : Numbered s.outside.storage.entry (s.outside.storage.entryCount.getD 0)
  /-- No share is negative. -/
  nonneg : ∀ batchId e, s.storage.feeEntry.get batchId = some e → 0 ≤ e.treasuryShare.val
  /-- Shares and deposits correspond. -/
  matched : ∃ φ, Matched φ s.storage.feeEntry s.outside.storage.entry Charged
    (DepositBy chain.distributor) PaysFor

variable {chain : Chain Address} {s s' : State Address}

/-- What the books consist of is all that matters to them. -/
theorem Booked.congr (booked : Booked chain s)
    (feeEntry : s'.storage.feeEntry = s.storage.feeEntry)
    (entry : s'.outside.storage.entry = s.outside.storage.entry)
    (entryCount : s'.outside.storage.entryCount = s.outside.storage.entryCount) :
    Booked chain s' where
  numbered := by
    rw [entry, entryCount]
    exact booked.numbered
  nonneg := by
    rw [feeEntry]
    exact booked.nonneg
  matched := by
    rw [feeEntry, entry]
    exact booked.matched

/-- A history entry that is no deposit of the distributor keeps the books. -/
theorem Booked.append (booked : Booked chain s) {e : Treasury.TreasuryEntry Address}
    (feeEntry : s'.storage.feeEntry = s.storage.feeEntry)
    (appends : Appends s.outside.storage s'.outside.storage e)
    (other : ¬ DepositBy chain.distributor e) : Booked chain s' := by
  obtain ⟨nextId, hnext, hentry, hcount⟩ := appends
  obtain ⟨φ, matched⟩ := booked.matched
  refine ⟨?_, ?_, φ, ?_⟩
  · rw [hentry, hcount]
    exact booked.numbered.append hnext e
  · rw [feeEntry]
    exact booked.nonneg
  · rw [feeEntry, hentry]
    exact matched.append_right (booked.numbered.fresh hnext) other

/-- A fee entry without a share for the treasury keeps the books. -/
theorem Booked.enter (booked : Booked chain s) {batchId : U64}
    {e : FeeDistributor.FeeEntry Address} (fresh : s.storage.feeEntry.get batchId = none)
    (share : e.treasuryShare.val = 0)
    (feeEntry : s'.storage.feeEntry = s.storage.feeEntry.set batchId e)
    (outside : s'.outside = s.outside) : Booked chain s' := by
  obtain ⟨φ, matched⟩ := booked.matched
  refine ⟨?_, fun j d hd => ?_, φ, ?_⟩
  · rw [outside]
    exact booked.numbered
  · rw [feeEntry, Store.get_set] at hd
    split at hd
    · obtain rfl := Option.some.inj hd
      exact le_of_eq share.symm
    · exact booked.nonneg j d hd
  · rw [feeEntry, outside]
    apply matched.append_left fresh
    rw [Charged, share]
    exact lt_irrefl 0

/-- A fee entry with a share for the treasury keeps the books, when the treasury has
entered the deposit of this share. -/
theorem Booked.enter_deposit (booked : Booked chain s) {batchId : U64}
    {e : FeeDistributor.FeeEntry Address} {d : Treasury.TreasuryEntry Address}
    (fresh : s.storage.feeEntry.get batchId = none) (charged : Charged e)
    (feeEntry : s'.storage.feeEntry = s.storage.feeEntry.set batchId e)
    (appends : Appends s.outside.storage s'.outside.storage d)
    (deposit : DepositBy chain.distributor d) (pays : PaysFor e d) : Booked chain s' := by
  obtain ⟨nextId, hnext, hentry, hcount⟩ := appends
  obtain ⟨φ, matched⟩ := booked.matched
  refine ⟨?_, fun j c hc => ?_, Function.update φ batchId nextId, ?_⟩
  · rw [hentry, hcount]
    exact booked.numbered.append hnext d
  · rw [feeEntry, Store.get_set] at hc
    split at hc
    · obtain rfl := Option.some.inj hc
      exact le_of_lt charged
    · exact booked.nonneg j c hc
  · rw [feeEntry, hentry]
    exact matched.append fresh (booked.numbered.fresh hnext) charged deposit pays

/-- In step, the two books have the same total. -/
theorem Booked.treasuryShares_eq [DecidableEq Address] (booked : Booked chain s) :
    treasuryShares s = depositedBy chain.distributor s.outside.storage := by
  obtain ⟨φ, matched⟩ := booked.matched
  refine matched.sum_eq (fun batchId e he uncharged => ?_) (fun id d _ other => if_neg other)
    (fun batchId e d _ deposit pays => ?_)
  · have nonneg := booked.nonneg batchId e he
    unfold Charged at uncharged
    omega
  · have amount : d.amount = e.treasuryShare := pays
    rw [if_pos deposit, amount]

end Books

/-! ## One step -/

section Steps

variable {Address : Type} [DecidableEq Address] {chain : Chain Address} {s s' : State Address}
  {tx : Tx chain}

omit [DecidableEq Address] in
/-- The distributor's entry in the history is its deposit. -/
theorem depositBy_depositEntry (env : Env Address (Balances Address)) (a : Address)
    (amount : I128) : DepositBy a (Treasury.depositEntry env a amount) := ⟨rfl, rfl⟩

omit [DecidableEq Address] in
/-- A deposit that returns appends its entry. -/
theorem deposit_appends {X : Type} {env : Env Address X} {w w' : Treasury.State Address X}
    {fromAddress : Address} {amount : I128}
    (h : Returns (Treasury.deposit env fromAddress amount) w () w') :
    Appends w.storage w'.storage (Treasury.depositEntry env fromAddress amount) := by
  obtain ⟨-, -, _, -, _, -, nextId, hnext, _, -, _, -, rfl⟩ := Treasury.returns_deposit.mp h
  exact ⟨nextId, hnext, rfl, rfl⟩

/-- A call of the treasury at the root keeps its history, or appends an entry that is
no deposit of the distributor. -/
theorem treasury_entries {c : Treasury.Call Address} {v : Treasury.Value Address}
    {t t' : Treasury.State Address (Balances Address)}
    (initialized : t.storage.adminCouncil.isSome)
    (h : Returns (Treasury.dispatch (tx.treasuryEnv none) c) t v t') :
    (t'.storage.entry = t.storage.entry ∧ t'.storage.entryCount = t.storage.entryCount) ∨
      ∃ e, Appends t.storage t'.storage e ∧ ¬ DepositBy chain.distributor e := by
  cases Treasury.outcome_of_returns initialized h with
  | @deposit fromAddress amount _ hcall =>
      refine Or.inr ⟨_, deposit_appends hcall, ?_⟩
      -- The depositor signed the root of the transaction.
      obtain ⟨hauth, -⟩ := Treasury.returns_deposit.mp hcall
      rintro ⟨-, hactor⟩
      exact ne_distributor_of_authorised hauth hactor.symm
  | withdraw hcall =>
      obtain ⟨-, -, -, _, -, _, -, nextId, hnext, _, -, _, -, rfl⟩ :=
        Treasury.returns_withdraw.mp hcall
      refine Or.inr ⟨_, ⟨nextId, hnext, rfl, rfl⟩, ?_⟩
      rintro ⟨hkind, -⟩
      cases hkind
  | allocate hcall =>
      obtain ⟨-, -, _, -, -, _, -, -, -, _, -, _, -, nextId, hnext, rfl⟩ :=
        Treasury.returns_allocate.mp hcall
      refine Or.inr ⟨_, ⟨nextId, hnext, rfl, rfl⟩, ?_⟩
      rintro ⟨hkind, -⟩
      cases hkind
  | other quiet kept => exact Or.inl ⟨kept.entry, kept.entryCount⟩

/-- A call of the distributor that returns keeps the books in step. -/
theorem booked_distributor (wired : Wired chain s) (booked : Booked chain s)
    {c : FeeDistributor.Call Address} {v : FeeDistributor.Value}
    (h : Returns (FeeDistributor.dispatch tx.distributorEnv c) s v s') : Booked chain s' := by
  cases FeeDistributor.outcome_of_returns wired.feeConfig h with
  | distribute hcall =>
      obtain ⟨fresh, -, config, -, fee, hfee, share, hshare, payout, -, totalEarned, -, unclaimed,
        -, t, hpays, rfl⟩ := FeeDistributor.returns_distribute.mp hcall
      have nonneg : 0 ≤ share.val := by
        rw [hshare, hfee]
        exact FeeDistributor.shareOf_nonneg _ _ _
      by_cases positive : 0 < share.val
      · obtain ⟨-, hdeposit⟩ := (paysTreasury_iff wired positive).mp hpays
        -- The transfer before the deposit left the treasury's storage alone.
        have appends := deposit_appends hdeposit
        rw [withBalances_storage] at appends
        refine booked.enter_deposit fresh ?_ rfl appends (depositBy_depositEntry _ _ _) rfl
        exact positive
      · rw [FeeDistributor.PaysTreasury, if_neg positive] at hpays
        subst hpays
        exact booked.enter fresh (le_antisymm (not_lt.mp positive) nonneg) rfl rfl
  | claim hcall =>
      obtain ⟨-, -, -, totalClaimed, -, token, htoken, t, htransfer, rfl⟩ :=
        FeeDistributor.returns_claim.mp hcall
      obtain rfl : chain.token = token := Option.some.inj (wired.tokenAddress.symm.trans htoken)
      obtain ⟨-, rfl⟩ := Tx.distributorEnv_transfer.mp htransfer
      exact booked.congr rfl rfl rfl
  | other quiet kept =>
      refine booked.congr kept.feeEntry ?_ ?_
      · rw [kept.outside]
      · rw [kept.outside]

/-- A call of the treasury that returns keeps the books in step. -/
theorem booked_treasury (wired : Wired chain s) (booked : Booked chain s)
    {c : Treasury.Call Address} {v : Treasury.Value Address}
    {t : Treasury.State Address (Balances Address)}
    (h : Returns (Treasury.dispatch (tx.treasuryEnv none) c) s.outside v t) :
    Booked chain { s with outside := t } := by
  rcases treasury_entries wired.adminCouncil h with ⟨hentry, hcount⟩ | ⟨e, appends, other⟩
  · exact booked.congr rfl hentry hcount
  · exact booked.append rfl appends other

/-- Every step keeps the wiring, and the books in step. -/
theorem booked_step (s : State Address) (action : Action chain)
    (inv : Wired chain s ∧ Booked chain s) :
    Wired chain ((machine chain).step s action).2 ∧
      Booked chain ((machine chain).step s action).2 := by
  refine step_invariant (fun s => Wired chain s ∧ Booked chain s) ?distributor ?treasury ?transfer
    s action inv
  case distributor =>
    intro tx c v s s' inv h
    exact ⟨inv.1.distributor_call h, booked_distributor inv.1 inv.2 h⟩
  case treasury =>
    intro tx c v s t inv h
    exact ⟨inv.1.treasury_call h, booked_treasury inv.1 inv.2 h⟩
  case transfer =>
    intro s b inv
    exact ⟨{ inv.1 with }, inv.2.congr rfl rfl rfl⟩

end Steps

/-! ## Runs -/

section Runs

variable {Address : Type} {chain : Chain Address} {council treasuryCouncil : AdminCouncil Address}
  {feeRateBps treasuryShareBps : U32} {b : Balances Address}
  {t : Treasury.State Address (Balances Address)} {s : State Address} {u u' : Unit}

/-- Two contracts that have just been initialized have empty books. -/
theorem booked_initializeContract
    (h : Returns (FeeDistributor.initializeContract council feeRateBps treasuryShareBps
      chain.treasury chain.token) (FeeDistributor.freshState t) u s)
    (ht : Returns (Treasury.initializeContract treasuryCouncil chain.token)
      (Treasury.freshState b) u' t) : Booked chain s := by
  obtain ⟨-, -, rfl⟩ := FeeDistributor.returns_initializeContract_freshState.mp h
  obtain ⟨-, rfl⟩ := Treasury.returns_initializeContract_freshState.mp ht
  exact
    { numbered := Numbered.empty
      nonneg := by simp [FeeDistributor.initialState, FeeDistributor.Storage.fresh]
      matched := ⟨id, Matched.empty id⟩ }

variable [DecidableEq Address]

/-- **The distributor's books and the treasury's agree.**  In every run of both
contracts, the fee entries in which the treasury has a positive share correspond one to
one to the deposits of the distributor in the treasury's history, each of exactly this
share; the shares of all fee entries and the distributor's deposits have the same
total. -/
theorem books_agree
    (h : Returns (FeeDistributor.initializeContract council feeRateBps treasuryShareBps
      chain.treasury chain.token) (FeeDistributor.freshState t) u s)
    (ht : Returns (Treasury.initializeContract treasuryCouncil chain.token)
      (Treasury.freshState b) u' t) (as : List (Action chain)) :
    let reached := (machine chain).run s as
    treasuryShares reached = depositedBy chain.distributor reached.outside.storage ∧
      ∃ φ : U64 → U64, Matched φ reached.storage.feeEntry reached.outside.storage.entry
        (fun e => 0 < e.treasuryShare.val)
        (fun d => d.kind = .deposit ∧ d.actor = chain.distributor)
        (fun e d => d.amount = e.treasuryShare) := by
  intro reached
  have initialized : t.storage.adminCouncil.isSome ∧ t.storage.tokenAddress = some chain.token := by
    obtain ⟨-, rfl⟩ := Treasury.returns_initializeContract_freshState.mp ht
    exact ⟨rfl, rfl⟩
  have booked : Booked chain reached :=
    ((machine chain).run_invariant (fun s => Wired chain s ∧ Booked chain s) booked_step
      ⟨wired_initializeContract h initialized.1 initialized.2, booked_initializeContract h ht⟩ as).2
  exact ⟨booked.treasuryShares_eq, booked.matched⟩

end Runs

/-- One batch with a share of 5 for the treasury, and one whose share is rounded to
zero. -/
def twoDistributions : List (Action sampleChain) :=
  [.distributor sampleTx (.distribute 10 1 10000), .distributor sampleTx (.distribute 11 2 1000)]

/-- The sample treasury is one that has been initialized. -/
theorem sampleTreasury_initialized :
    Returns (Treasury.initializeContract ⟨[7], 1⟩ sampleChain.token)
      (Treasury.freshState sampleTreasury.outside) () sampleTreasury :=
  Treasury.returns_initializeContract_freshState.mpr ⟨by decide, rfl⟩

/-- After two distributions the totals are the same. -/
theorem books_agree_twoDistributions :
    treasuryShares ((machine sampleChain).run sampleSystem twoDistributions) =
      depositedBy 1 ((machine sampleChain).run sampleSystem twoDistributions).outside.storage :=
  (books_agree sampleSystem_initialized sampleTreasury_initialized twoDistributions).1

end StellarConduit.Settlement
