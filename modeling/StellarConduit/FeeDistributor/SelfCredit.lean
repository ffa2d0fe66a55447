import StellarConduit.FeeDistributor.Earnings

/-!
# Credits and claims

`claim` asks the relay for its authorisation, `distribute` asks nobody: whoever calls
it names the relay and the size of the batch.  What a relay is paid in a run is
therefore bounded by what it had at the start and what the run's distributions credit
to it, and by nothing less.

The bound is one of a budget.  `claimable` is what a relay could claim now; a step raises it by
what it credits and lowers it by what it pays out, and it is never negative.  Payouts may be
negative where the treasury's share is more than the fee, and then a credit counts as nothing
rather than as a loss, so that the bound holds for every configuration.

The credits themselves have no bound.  A batch is a number that nobody has used, of a size that
the caller chooses, and no registration is asked for; `selfCredit` is such a call, made by an
outsider for itself, with the claim that follows.

## Main definitions

* `claimable`, `creditedBy` — what a relay could claim, and what a step credits to it.

## Main results

* `claimed_le_unclaimed_add_credited` — the bound, for every relay, from every reached
  state and along every run.
* `selfCredit_pays` — one outsider alone, with nothing unclaimed, is paid.
-/

namespace StellarConduit.FeeDistributor

open Soroban Contract

section Credits

variable {Address X : Type} [DecidableEq Address] {env : Env Address X} {w w' : State Address X}

/-- What a successful distribution credits to `a`: what the treasury's share leaves of
the fee, at the configuration it finds. -/
def creditedBy (a : Address) (r : Step Address X) : Int :=
  match r.action, r.reply, r.before.storage.feeConfig with
  | .call _ (.distribute b _ batchSize), some (.ok _), some config =>
      if b = a then
        max (feeOf batchSize config.feeRateBps -
          shareOf (feeOf batchSize config.feeRateBps) config.treasuryShareBps) 0
      else 0
  | _, _, _ => 0

/-- What `a` may claim. -/
def claimable (a : Address) (s : Storage Address) : Int := max (earningsOf s a).unclaimed.val 0

omit [DecidableEq Address] in
/-- A debt does not count. -/
theorem claimable_nonneg (a : Address) (s : Storage Address) : 0 ≤ claimable a s := le_max_right _ _

/-- A call that returns pays out of what may be claimed, or adds its credit to it. -/
theorem claimable_call {c : Call Address} {v : Value} (configured : w.storage.feeConfig.isSome)
    (h : Returns (dispatch env c) w v w') (a : Address) :
    claimable a w'.storage + claimedBy a ⟨w, .call env c, some (.ok v), w'⟩ ≤
      claimable a w.storage + creditedBy a ⟨w, .call env c, some (.ok v), w'⟩ := by
  cases outcome_of_returns configured h with
  | @distribute b batchId batchSize _ _ hcall =>
      obtain ⟨config, e, entered⟩ := distribute_enters hcall
      have unclaimed := entered.unclaimed a
      -- A negative payout is no credit: it only lowers what may be claimed.
      have credit : creditedBy a ⟨w, .call env (.distribute b batchId batchSize), some (.ok v), w'⟩ =
          if a = b then max (e.amount.val - e.treasuryShare.val) 0 else 0 := by
        simp only [creditedBy, entered.configured, entered.amount, entered.treasuryShare, eq_comm]
      rw [credit]
      simp only [claimable, claimedBy, unclaimed]
      by_cases hb : a = b
      · simp only [hb, if_true]
        omega
      · simp only [hb, if_false]
        omega
  | @claim b payout _ hcall =>
      have entered := claim_enters hcall
      have unclaimed := entered.unclaimed a
      have paid : claimedBy a ⟨w, .call env (.claim b), some (.ok (.amount payout)), w'⟩ =
          if a = b then payout.val else 0 := by simp only [claimedBy, eq_comm]
      have credit :
          creditedBy a ⟨w, .call env (.claim b), some (.ok (.amount payout)), w'⟩ = 0 := rfl
      rw [paid, credit]
      simp only [claimable, unclaimed]
      by_cases hb : a = b
      · subst hb
        simp only [if_true, entered.payout_eq, MachineInt.val_zero]
        omega
      · simp only [hb, if_false]
        omega
  | other quiet kept =>
      have paid : claimedBy a ⟨w, .call env c, some (.ok v), w'⟩ = 0 := by
        cases c <;> first | rfl | exact absurd trivial quiet
      have credit : creditedBy a ⟨w, .call env c, some (.ok v), w'⟩ = 0 := by
        cases c <;> first | rfl | exact absurd trivial quiet
      rw [paid, credit, claimable, claimable, earningsOf, earningsOf, kept.earnings]

/-- A step pays out no more than it credits and what there was. -/
theorem claimable_step (a : Address) (w : State Address X)
    (action : Action Address X (Call Address) Empty) (books : Reconciled w.storage) :
    claimable a (machine.step w action).2.storage + claimedBy a (machine.record w action) ≤
      claimable a w.storage + creditedBy a (machine.record w action) := by
  refine Deployed.record_rule dispatch provide
    (fun r => claimable a r.after.storage + claimedBy a r ≤ claimable a w.storage + creditedBy a r)
    w action ?returned ?failed ?provision ?elsewhere
  case returned =>
    intro env c v w' h
    exact claimable_call books.feeConfig h a
  case failed =>
    intro env c e
    simp [claimedBy, creditedBy]
  case provision =>
    intro p
    exact p.elim
  case elsewhere =>
    intro x
    simp [claimedBy, creditedBy]

variable {council : AdminCouncil Address} {feeRateBps treasuryShareBps : U32}
  {treasury token : Address} {x : X} {u : Unit}

/-- **What a relay is paid was unclaimed or is credited.**  From every reached state and
along every run, whoever authorises its calls: what `claim` pays to `a` is at most what
`a` had not claimed at the start, and what the distributions of the run credit to it. -/
theorem claimed_le_unclaimed_add_credited
    (h : Returns (initializeContract council feeRateBps treasuryShareBps treasury token)
      (freshState x) u w)
    (as bs : List (Action Address X (Call Address) Empty)) (a : Address) :
    Machine.total (claimedBy a) (machine.trace (machine.run w as) bs) ≤
      max (earningsOf (machine.run w as).storage a).unclaimed.val 0 +
        Machine.total (creditedBy a) (machine.trace (machine.run w as) bs) := by
  obtain ⟨-, -, rfl⟩ := returns_initializeContract_freshState.mp h
  have books : Reconciled (machine.run
      (initialState council feeRateBps treasuryShareBps treasury token x) as).storage :=
    reconciled_run reconciled_initialState as
  have budget := machine.budget_run (fun w => Reconciled w.storage)
    (fun w => claimable a w.storage) (claimedBy a) (creditedBy a) reconciled_step
    (claimable_step a) books bs
  have rest := claimable_nonneg a (machine.run (machine.run
    (initialState council feeRateBps treasuryShareBps treasury token x) as) bs).storage
  show _ ≤ claimable a (machine.run _ as).storage + _
  omega

end Credits

/-! ## An outsider -/

/-- The distributor of a one-member council: a fee of half a percent, of which a tenth
goes to the treasury. -/
def sampleDistributor : State ℕ Unit := initialState ⟨[7], 1⟩ 50 1000 8 9 ()

/-- The sample distributor is one that has been initialized. -/
theorem sampleDistributor_initialized :
    Returns (initializeContract ⟨[7], 1⟩ 50 1000 8 9) (freshState ()) () sampleDistributor :=
  returns_initializeContract_freshState.mpr ⟨by decide, by decide, rfl⟩

/-- A ledger on which address 10 authorises, and nobody else. -/
def outsiderEnv : Env ℕ Unit := { openEnv 1 0 5 with authorised := fun a => a == 10 }

/-- Address 10 distributes a batch of 1800 to itself and claims. -/
def selfCredit : List (Action ℕ Unit (Call ℕ) Empty) :=
  [.call outsiderEnv (.distribute 10 1 1800), .call outsiderEnv (.claim 10)]

/-- It is no member of the council, every call is authorised by it alone, and it is paid
9 with nothing unclaimed at the start. -/
theorem selfCredit_pays :
    Returns (initializeContract ⟨[7], 1⟩ 50 1000 8 9) (freshState ()) () sampleDistributor ∧
      10 ∉ [7] ∧
      (∀ action ∈ selfCredit, ∃ env c, action = .call env c ∧
        ∀ a, env.authorised a = true ↔ a = 10) ∧
      (earningsOf sampleDistributor.storage 10).unclaimed.val = 0 ∧
      Machine.total (claimedBy 10) (machine.trace sampleDistributor selfCredit) = 9 := by
  refine ⟨sampleDistributor_initialized, by decide, ?_, rfl, by decide +kernel⟩
  simp [selfCredit, outsiderEnv]

/-- The bound, for the outsider's run. -/
theorem claimed_le_unclaimed_add_credited_selfCredit :
    Machine.total (claimedBy 10) (machine.trace (machine.run sampleDistributor []) selfCredit) ≤
      max (earningsOf (machine.run sampleDistributor []).storage 10).unclaimed.val 0 +
        Machine.total (creditedBy 10)
          (machine.trace (machine.run sampleDistributor []) selfCredit) :=
  claimed_le_unclaimed_add_credited sampleDistributor_initialized [] selfCredit 10

end StellarConduit.FeeDistributor
