import StellarConduit.FeeDistributor.Bounds
import StellarConduit.Soroban.Proportion

/-!
# Splitting a batch

A fee is a proportion of its batch rounded down, and a payout is what the treasury's
share, rounded down as well, leaves of the fee.  A relay that cuts a batch into pieces
loses by the first rounding and gains by the second: its payouts may add up to more than
the payout of the whole batch, by less than one unit for every piece.

The arithmetic is that of `proportion` and `rest`, of the library: a proportion of a sum is at
least the sum of the proportions and less than that and one for every summand, and the rest
behaves the other way round.  The payout is a rest of a proportion, and the two bounds do not
cancel.  What splitting can gain is one unit less than the number of pieces, in the smallest unit
of the token, and two halves of a batch may gain one.

That a list of pieces earns what its payouts add up to is a statement about runs.  A piece is a
call of `distribute` for one relay with a number of its own, and as long as each of them is
accepted the relay's total goes up by the payout of each.

## Main definitions

* `payoutOf` — the payout of a batch of a size.
* `Piece`, `splitting` — the pieces, and the calls that distribute them.

## Main results

* `totalEarned_splitting` — the payouts of the pieces, added up.
* `splitting_gains` — what splitting gains at most.
* `halves_gain` — two halves that earn more than the whole.
-/

namespace StellarConduit.FeeDistributor

open Soroban Contract

/-! ## The payout of a batch -/

/-- What a batch leaves to its relay. -/
def payoutOf {Address : Type} (config : FeeConfig Address) (batchSize : U32) : Int :=
  feeOf batchSize config.feeRateBps -
    shareOf (feeOf batchSize config.feeRateBps) config.treasuryShareBps

section Payouts

variable {Address : Type} {config : FeeConfig Address} {batchSize : U32}

/-- The fee is a proportion of the batch. -/
theorem feeOf_eq_proportion (batchSize feeRateBps : U32) :
    feeOf batchSize feeRateBps = proportion feeRateBps.val 10000 batchSize.val := rfl

/-- The payout is the rest of the fee. -/
theorem payoutOf_eq_rest :
    payoutOf config batchSize =
      rest config.treasuryShareBps.val 10000
        (proportion config.feeRateBps.val 10000 batchSize.val) := rfl

/-- A payout is at most the fee. -/
theorem payoutOf_le_fee :
    payoutOf config batchSize ≤ proportion config.feeRateBps.val 10000 batchSize.val := by
  have share : 0 ≤ shareOf (feeOf batchSize config.feeRateBps) config.treasuryShareBps :=
    shareOf_nonneg batchSize config.feeRateBps config.treasuryShareBps
  rw [← feeOf_eq_proportion]
  unfold payoutOf
  omega

/-- The payouts of some batches are what the treasury leaves of the fees. -/
theorem map_payoutOf (sizes : List U32) :
    sizes.map (payoutOf config) =
      ((sizes.map MachineInt.val).map (proportion config.feeRateBps.val 10000)).map
        (rest config.treasuryShareBps.val 10000) := by
  rw [List.map_map, List.map_map]
  rfl

/-- The fees of the pieces are at most the fee of the whole. -/
theorem sum_payoutOf_le_fee (sizes : List U32) :
    (sizes.map (payoutOf config)).sum ≤
      proportion config.feeRateBps.val 10000 (sizes.map MachineInt.val).sum := by
  have fees : ((sizes.map MachineInt.val).map (proportion config.feeRateBps.val 10000)).sum ≤
      proportion config.feeRateBps.val 10000 (sizes.map MachineInt.val).sum :=
    sum_proportion_le (by decide) _
  refine le_trans ?_ fees
  rw [List.map_map]
  exact List.sum_le_sum fun size _ => payoutOf_le_fee

/-- The payouts of the pieces exceed the payout of the whole by less than one unit a
piece. -/
theorem sum_payoutOf_lt (share : config.treasuryShareBps.val ≤ 10000) {sizes : List U32}
    (nonempty : sizes ≠ []) {whole : U32} (sum : whole.val = (sizes.map MachineInt.val).sum) :
    (sizes.map (payoutOf config)).sum < payoutOf config whole + sizes.length := by
  rw [map_payoutOf]
  let fees := (sizes.map MachineInt.val).map (proportion config.feeRateBps.val 10000)
  -- The second rounding, over the fees of the pieces.
  have shares : (fees.map (rest config.treasuryShareBps.val 10000)).sum <
      rest config.treasuryShareBps.val 10000 fees.sum + fees.length :=
    sum_rest_lt (by decide) (by simpa [fees] using nonempty)
  rw [List.length_map, List.length_map] at shares
  -- The first, and what the treasury leaves of a fee grows with it.
  have feesLe : fees.sum ≤ proportion config.feeRateBps.val 10000 whole.val := by
    rw [sum]
    exact sum_proportion_le (by decide) _
  have grows : rest config.treasuryShareBps.val 10000 fees.sum ≤ payoutOf config whole :=
    rest_le_rest (by decide) share feesLe
  exact shares.trans_le (Int.add_le_add_right grows _)

/-- A treasury that takes nothing, or everything, leaves no second rounding. -/
theorem sum_payoutOf_le
    (share : config.treasuryShareBps.val = 0 ∨ config.treasuryShareBps.val = 10000)
    {sizes : List U32} {whole : U32} (sum : whole.val = (sizes.map MachineInt.val).sum) :
    (sizes.map (payoutOf config)).sum ≤ payoutOf config whole := by
  cases share with
  | inl none =>
      have kept : payoutOf config whole =
          proportion config.feeRateBps.val 10000 whole.val := by
        rw [payoutOf_eq_rest, none]
        simp [rest, proportion]
      rw [kept, sum]
      exact sum_payoutOf_le_fee sizes
  | inr all =>
      have taken : ∀ size, payoutOf config size = 0 := by
        intro size
        rw [payoutOf_eq_rest, all]
        simp [rest, proportion]
      have nothing : (sizes.map (payoutOf config)).sum = 0 := by
        apply List.sum_eq_zero
        intro payout hpayout
        obtain ⟨size, -, rfl⟩ := List.mem_map.mp hpayout
        exact taken size
      rw [nothing, taken]

end Payouts

/-! ## Distributing the pieces -/

section Splitting

variable {Address X : Type} [DecidableEq Address]

/-- A piece of a batch, and the ledger on which it is distributed. -/
structure Piece (Address X : Type) where
  /-- The transaction that distributes it, -/
  env : Env Address X
  /-- its own number -/
  batchId : U64
  /-- and its size. -/
  batchSize : U32

/-- Distribute the pieces to `a`, one after the other. -/
def splitting (a : Address) (pieces : List (Piece Address X)) :
    List (Action Address X (Call Address) Empty) :=
  pieces.map fun piece => .call piece.env (.distribute a piece.batchId piece.batchSize)

/-- The step has returned. -/
def Accepted (r : Step Address X) : Prop := ∃ v, r.reply = some (.ok v)

/-- What the actions add to the total earnings of `a`. -/
def earnedIn (a : Address) (w : State Address X)
    (actions : List (Action Address X (Call Address) Empty)) : Int :=
  (earningsOf (machine.run w actions).storage a).totalEarned.val -
    (earningsOf w.storage a).totalEarned.val

/-- What is earned in the first call, and in the others. -/
theorem earnedIn_cons (a : Address) (w : State Address X)
    (action : Action Address X (Call Address) Empty)
    (actions : List (Action Address X (Call Address) Empty)) :
    earnedIn a w (action :: actions) =
      (earningsOf (machine.step w action).2.storage a).totalEarned.val -
        (earningsOf w.storage a).totalEarned.val +
          earnedIn a (machine.step w action).2 actions := by
  unfold earnedIn
  rw [Machine.run]
  abel

/-- A distribution that is accepted credits its payout, and keeps the configuration. -/
theorem totalEarned_distribute {w : State Address X} {config : FeeConfig Address}
    (hconfig : w.storage.feeConfig = some config) {env : Env Address X} {a : Address}
    {batchId : U64} {batchSize : U32}
    (accepted : Accepted (machine.record w (.call env (.distribute a batchId batchSize)))) :
    let w' := (machine.step w (.call env (.distribute a batchId batchSize))).2
    w'.storage.feeConfig = some config ∧
      (earningsOf w'.storage a).totalEarned.val =
        (earningsOf w.storage a).totalEarned.val + payoutOf config batchSize := by
  intro w'
  obtain ⟨v, hreply⟩ := accepted
  have call := Deployed.returns_of_reply dispatch provide rfl rfl hreply
  obtain ⟨_, hcall, -⟩ := returns_bind_pure.mp call
  obtain ⟨config', e, entered⟩ := distribute_enters hcall
  obtain rfl : config' = config := Option.some.inj (entered.configured.symm.trans hconfig)
  refine ⟨entered.configKept.trans hconfig, ?_⟩
  have credited := entered.totalEarned a
  rw [if_pos rfl, entered.amount, entered.treasuryShare] at credited
  exact credited

/-- The pieces credit their payouts. -/
theorem earnedIn_splitting {w : State Address X} {config : FeeConfig Address}
    (hconfig : w.storage.feeConfig = some config) (a : Address) {pieces : List (Piece Address X)}
    (accepted : ∀ r ∈ machine.trace w (splitting a pieces), Accepted r) :
    earnedIn a w (splitting a pieces) =
      ((pieces.map Piece.batchSize).map (payoutOf config)).sum := by
  induction pieces generalizing w with
  | nil => exact sub_self _
  | cons piece pieces ih =>
      obtain ⟨first, others⟩ := List.forall_mem_cons.mp accepted
      obtain ⟨configKept, credited⟩ := totalEarned_distribute hconfig first
      have later := ih configKept others
      rw [List.map_cons, List.map_cons, List.sum_cons]
      show earnedIn a w (_ :: splitting a pieces) = _
      rw [earnedIn_cons, credited, add_sub_cancel_left]
      exact congrArg (_ + ·) later

variable {council : AdminCouncil Address} {feeRateBps treasuryShareBps : U32}
  {treasury token : Address} {x : X} {w : State Address X} {u : Unit}

/-- **Splitting gains less than one unit a piece.**  At every accepted configuration whose
treasury share is at most the whole, and from every reached state: the pieces of a batch,
distributed one by one, earn their relay no more than the fee of the whole batch, and
less than one unit a piece above the payout of the whole batch.  When the treasury
takes nothing or everything they earn no more than the whole batch does. -/
theorem splitting_gains
    (h : Returns (initializeContract council feeRateBps treasuryShareBps treasury token)
      (freshState x) u w) (share : treasuryShareBps.val ≤ 10000)
    (as : List (Action Address X (Call Address) Empty)) (a : Address)
    (whole : Piece Address X) (pieces : List (Piece Address X))
    (sum : whole.batchSize.val = (pieces.map fun piece => piece.batchSize.val).sum)
    (wholeAccepted : ∀ r ∈ machine.trace (machine.run w as) (splitting a [whole]), Accepted r)
    (piecesAccepted : ∀ r ∈ machine.trace (machine.run w as) (splitting a pieces), Accepted r) :
    let earned := earnedIn a (machine.run w as)
    earned (splitting a pieces) < earned (splitting a [whole]) + pieces.length ∧
      (∃ config, (machine.run w as).storage.feeConfig = some config ∧
        earned (splitting a pieces) ≤ feeOf whole.batchSize config.feeRateBps) ∧
      (treasuryShareBps.val = 0 ∨ treasuryShareBps.val = 10000 →
        earned (splitting a pieces) ≤ earned (splitting a [whole])) := by
  intro earned
  obtain ⟨⟨config, hconfig, hshare, -⟩, -⟩ := withinRange_run h as
  have wholeEarned : earned (splitting a [whole]) = payoutOf config whole.batchSize := by
    simpa using earnedIn_splitting hconfig a wholeAccepted
  have piecesEarned : earned (splitting a pieces) =
      ((pieces.map Piece.batchSize).map (payoutOf config)).sum :=
    earnedIn_splitting hconfig a piecesAccepted
  have sizes : whole.batchSize.val =
      ((pieces.map Piece.batchSize).map MachineInt.val).sum := by
    rw [sum, List.map_map]
    rfl
  -- A batch that is accepted is not empty, and no sum of no sizes.
  have nonempty : pieces.map Piece.batchSize ≠ [] := by
    intro none
    rw [none] at sizes
    obtain ⟨v, hreply⟩ := wholeAccepted _ List.mem_cons_self
    have call := Deployed.returns_of_reply dispatch provide rfl rfl hreply
    obtain ⟨_, hcall, -⟩ := returns_bind_pure.mp call
    obtain ⟨-, positive, -⟩ := returns_distribute.mp hcall
    exact positive (MachineInt.ext sizes)
  rw [wholeEarned, piecesEarned]
  rw [← hshare] at share ⊢
  refine ⟨?_, ⟨config, hconfig, ?_⟩, fun noRounding => sum_payoutOf_le noRounding sizes⟩
  · simpa using sum_payoutOf_lt share nonempty sizes
  · rw [feeOf_eq_proportion, sizes]
    exact sum_payoutOf_le_fee _

end Splitting

/-! ## Two halves -/

/-- A fee of half the batch, of which half goes to the treasury. -/
def halvingDistributor : State ℕ Unit := initialState ⟨[7], 1⟩ 5000 5000 8 9 ()

/-- The sample distributor is one that has been initialized. -/
theorem halvingDistributor_initialized :
    Returns (initializeContract ⟨[7], 1⟩ 5000 5000 8 9) (freshState ()) () halvingDistributor :=
  returns_initializeContract_freshState.mpr ⟨by decide, by decide, rfl⟩

/-- A batch of four. -/
def wholeBatch : Piece ℕ Unit := ⟨openEnv 1 0 5, 1, 4⟩

/-- The same batch in two halves. -/
def halves : List (Piece ℕ Unit) := [⟨openEnv 1 0 5, 1, 2⟩, ⟨openEnv 1 0 5, 2, 2⟩]

/-- The whole batch is accepted. -/
theorem wholeBatch_accepted :
    ∀ r ∈ machine.trace halvingDistributor (splitting 3 [wholeBatch]), Accepted r := by
  intro r hr
  obtain rfl := List.mem_singleton.mp hr
  exact ⟨.unit, by decide +kernel⟩

/-- So are its halves. -/
theorem halves_accepted :
    ∀ r ∈ machine.trace halvingDistributor (splitting 3 halves), Accepted r := by
  refine List.forall_mem_cons.mpr ⟨⟨.unit, by decide +kernel⟩, ?_⟩
  exact List.forall_mem_cons.mpr ⟨⟨.unit, by decide +kernel⟩, List.forall_mem_nil _⟩

/-- The whole batch pays its relay one unit, of a fee of two; the halves have a fee of one
each, of which the treasury's share is rounded to nothing. -/
theorem halves_gain :
    Returns (initializeContract ⟨[7], 1⟩ 5000 5000 8 9) (freshState ()) () halvingDistributor ∧
      wholeBatch.batchSize.val = (halves.map fun piece => piece.batchSize.val).sum ∧
      (∀ r ∈ machine.trace halvingDistributor (splitting 3 [wholeBatch]), Accepted r) ∧
      (∀ r ∈ machine.trace halvingDistributor (splitting 3 halves), Accepted r) ∧
      earnedIn 3 halvingDistributor (splitting 3 [wholeBatch]) = 1 ∧
      earnedIn 3 halvingDistributor (splitting 3 halves) = 2 :=
  ⟨halvingDistributor_initialized, by decide, wholeBatch_accepted, halves_accepted,
    by decide +kernel, by decide +kernel⟩

/-- Two pieces gain less than two units. -/
theorem splitting_gains_halves :
    earnedIn 3 halvingDistributor (splitting 3 halves) <
      earnedIn 3 halvingDistributor (splitting 3 [wholeBatch]) + 2 :=
  (splitting_gains halvingDistributor_initialized (by decide) [] 3 wholeBatch halves (by decide)
    wholeBatch_accepted halves_accepted).1

end StellarConduit.FeeDistributor
