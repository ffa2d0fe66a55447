import StellarConduit.RelayRegistry.Payouts

/-!
# The unit of the lock period

The lock period is documented as a number of ledgers, and `unstake` adds it to the
close time of the ledger, which is counted in seconds.  A ledger has both clocks, and
they need not run at one speed; what follows says for which evolutions of the ledger
the period in seconds stands for the period in ledgers.

## Main results

* `honoured_iff` — the lock period is honoured in ledgers, by every run on an
  evolution of the ledger, exactly when on that evolution as many seconds never pass
  within fewer ledgers.
* `sameLedger_not_honoured` — a payout in the ledger sequence of its unstake.
-/

namespace StellarConduit.RelayRegistry

open Soroban Contract Machine

/-- The two clocks of a ledger. -/
structure Ledger where
  /-- Its number, -/
  sequence : U32
  /-- and its close time. -/
  timestamp : U64

section Ledgers

variable {Address X : Type}

/-- The ledger on which an invocation runs. -/
def ledgerOf (env : Env Address X) : Ledger := ⟨env.sequence, env.timestamp⟩

/-- The ledgers on which the calls of a run are made, in order. -/
def ledgers (as : List (Action Address X (Call Address) (Provision Address))) : List Ledger :=
  as.filterMap fun
    | .call env _ => some (ledgerOf env)
    | _ => none

/-- In these steps, a payout to `n` comes at least `stakeLockPeriod` ledgers after the
`unstake` that created the entry. -/
def Honoured (n : Address) (stakeLockPeriod : U32) (records : List (Step Address X)) : Prop :=
  ∀ hist r post env v, records = hist ++ r :: post →
    r.action = .call env (.finalizeUnstake n) → r.reply = some (.ok v) →
      ∀ u amount env', IsLast (TouchesEntry n) u hist → Unstakes n amount env' u →
        env'.sequence.val + stakeLockPeriod.val ≤ env.sequence.val

/-- From the ledger `l` to the ledger `l'`, the lock period does not pass in seconds
without passing in ledgers. -/
def PeriodPasses (stakeLockPeriod : U32) (l l' : Ledger) : Prop :=
  l.timestamp.val + stakeLockPeriod.val ≤ l'.timestamp.val →
    l.sequence.val + stakeLockPeriod.val ≤ l'.sequence.val

/-- The ledgers of a run after a run. -/
theorem ledgers_append (as bs : List (Action Address X (Call Address) (Provision Address))) :
    ledgers (as ++ bs) = ledgers as ++ ledgers bs := List.filterMap_append

/-- A call is made on a ledger of its run. -/
theorem ledgerOf_mem_ledgers {as : List (Action Address X (Call Address) (Provision Address))}
    {env : Env Address X} {c : Call Address} (h : .call env c ∈ as) : ledgerOf env ∈ ledgers as :=
  List.mem_filterMap.mpr ⟨_, h, rfl⟩

variable [DecidableEq Address] {council : AdminCouncil Address} {minStake : I128}
  {stakeLockPeriod : U32} {x : X} {w : State Address X} {u : Unit}

/-! ## When the condition is met -/

/-- On ledgers on which the period passes in both units, the period is honoured. -/
theorem honoured_of_periodPasses
    (h : Returns (initializeContract council minStake stakeLockPeriod) (freshState x) u w)
    {as : List (Action Address X (Call Address) (Provision Address))}
    (passes : (ledgers as).Pairwise (PeriodPasses stakeLockPeriod)) (n : Address) :
    Honoured n stakeLockPeriod (machine.trace w as) := by
  intro hist r post env v split action reply unstaked amount env' last hunstaked
  obtain ⟨pre, a, rest, rfl, rfl, rfl, -⟩ := machine.trace_split split
  obtain ⟨_, -, hcall⟩ := finalizeUnstake_record action reply
  obtain ⟨-, entry, hentry, matured, -⟩ := returns_finalizeUnstake.mp hcall
  -- The entry that is found was written by the unstake in question.
  obtain ⟨unstaked', last', env'', hunstaked', unlocks⟩ := traced_run h pre n entry hentry
  obtain rfl := last.unique last'
  obtain ⟨rfl, -⟩ := Action.call.inj (hunstaked.1.symm.trans hunstaked'.1)
  obtain rfl : a = .call env (.finalizeUnstake n) := action
  have mem : Action.call env' (.unstake n amount) ∈ pre := by
    obtain ⟨_, earlier, later, hist, -⟩ := last
    rw [← hunstaked.1]
    refine machine.action_mem_of_mem_trace (s := w) ?_
    rw [hist]
    exact List.mem_append_right _ List.mem_cons_self
  rw [ledgers_append, List.pairwise_append] at passes
  have pair : PeriodPasses stakeLockPeriod (ledgerOf env') (ledgerOf env) :=
    passes.2.2 _ (ledgerOf_mem_ledgers mem) _ (ledgerOf_mem_ledgers List.mem_cons_self)
  exact pair (unlocks ▸ matured)

/-! ## When it is not -/

/-- An invocation on the ledger `l` that everyone has signed. -/
def openLedger (n : Address) (l : Ledger) : Env Address X := openEnv n l.sequence l.timestamp

/-- Node `n` registers and stakes the minimum. -/
def registerAndStake (n : Address) (minStake : I128) (l : Ledger) :
    List (Action Address X (Call Address) (Provision Address)) :=
  [.provision (.setTokenAddress n),
    .call (openLedger n l) (.register n ⟨HostString.fromStr "", 0, 0⟩),
    .call (openLedger n l) (.stake n minStake)]

/-- A fresh node that stakes the minimum is active with it. -/
theorem run_registerAndStake
    (h : Returns (initializeContract council minStake stakeLockPeriod) (freshState x) u w)
    (n : Address) (l : Ledger) :
    ∃ node, (machine.run w (registerAndStake n minStake l)).storage.relayNode.get n = some node ∧
      node.status = .active ∧ node.stake = minStake ∧
      (machine.run w (registerAndStake n minStake l)).storage.tokenAddress = some n := by
  obtain ⟨hpos, -, -, rfl⟩ := returns_initializeContract_freshState.mp h
  let w₀ := (machine.step (initialState council minStake stakeLockPeriod x)
    (.provision (.setTokenAddress n))).2
  obtain ⟨node, w₁, registered, hnode, hstatus, hstake, hmin, htoken⟩ : ∃ node w₁,
      Returns (dispatch (openLedger n l) (.register n ⟨HostString.fromStr "", 0, 0⟩)) w₀ .unit w₁ ∧
        w₁.storage.relayNode.get n = some node ∧ node.status = .inactive ∧ node.stake = 0 ∧
        w₁.storage.minStake = some minStake ∧ w₁.storage.tokenAddress = some n :=
    ⟨_, _, returns_bind_pure.mpr
        ⟨(), returns_register.mpr ⟨rfl, rfl, by decide, 1, rfl, rfl⟩, rfl⟩,
      Store.get_set_self _ _ _, rfl, rfl, rfl, rfl⟩
  have newStake : minStake.val = node.stake.val + minStake.val := by
    rw [hstake, MachineInt.val_zero, zero_add]
  obtain ⟨w₂, staked, hnode', htoken'⟩ : ∃ w₂,
      Returns (dispatch (openLedger n l) (.stake n minStake)) w₁ .unit w₂ ∧
        w₂.storage.relayNode.get n =
          some (node.staked (w₁.storage.minStake.getD 0) minStake l.timestamp) ∧
        w₂.storage.tokenAddress = some n :=
    ⟨_, returns_bind_pure.mpr ⟨(), returns_stake.mpr ⟨rfl, node, hnode, by simp [hstatus], hpos,
        minStake, newStake, n, htoken, _, rfl, rfl⟩, rfl⟩, Store.get_set_self _ _ _, htoken⟩
  have run : machine.run (initialState council minStake stakeLockPeriod x)
      (registerAndStake n minStake l) = w₂ := by
    show ((machine.step (machine.step w₀ _).2 _).2) = w₂
    rw [machine, Deployed.step_of_returns dispatch provide registered,
      Deployed.step_of_returns dispatch provide staked]
  rw [run]
  refine ⟨_, hnode', ?_, rfl, htoken'⟩
  rw [hmin]
  simp [RelayNode.staked, MachineInt.le_iff_val]

/-- On two ledgers between which the period passes in seconds only, an unstake on the
first is paid on the second. -/
theorem not_honoured_of_not_periodPasses
    (h : Returns (initializeContract council minStake stakeLockPeriod) (freshState x) u w)
    (n : Address) {l l' : Ledger} (short : ¬ PeriodPasses stakeLockPeriod l l') :
    ¬ Honoured n stakeLockPeriod (machine.trace w
      (registerAndStake n minStake l ++
        [.call (openLedger n l) (.unstake n minStake),
          .call (openLedger n l') (.finalizeUnstake n)])) := by
  obtain ⟨seconds, few⟩ := Classical.not_imp.mp short
  obtain ⟨node, hnode, hactive, hstake, htoken⟩ := run_registerAndStake h n l
  have inv := invariant_run h (registerAndStake n minStake l)
  have period := inv.stakeLockPeriod
  have hpos := inv.minStake_pos
  have inTime := l'.timestamp.le_max
  generalize hw₁ : machine.run w (registerAndStake n minStake l) = w₁ at *
  -- The node unstakes all of its stake on the ledger `l`; the unlock time fits, since `l'` is
  -- later.
  have accepted : UnstakeAccepted (openLedger n l) w₁ n minStake :=
    { authorised := rfl
      positive := hpos
      enough := ⟨node, hnode, hactive, by rw [hstake]⟩
      unlocks := by
        rw [period]
        exact seconds.trans inTime }
  obtain ⟨r, w₂, unstaked⟩ := unstake_returns_iff.mpr accepted
  obtain ⟨-, -, _, -, -, unlockAfter, unlocks, -, _, -, hw₂, -⟩ := returns_unstake.mp unstaked
  have hentry : w₂.storage.lockEntry.get n = some ⟨n, minStake, unlockAfter⟩ := by
    rw [hw₂]
    exact Store.get_set_self _ _ _
  -- In seconds the period has passed on `l'`, and seconds are all that the source looks at.
  have matured : unlockAfter.val ≤ l'.timestamp.val := by
    rw [unlocks, period]
    exact seconds
  have htoken : w₂.storage.tokenAddress = some n := by
    rw [hw₂]
    exact htoken
  have first : machine.record w₁ (.call (openLedger n l) (.unstake n minStake)) =
      ⟨w₁, _, some (.ok (.node r)), w₂⟩ :=
    Deployed.record_of_returns dispatch provide (returns_bind_pure.mpr ⟨r, unstaked, rfl⟩)
  have second : ∃ w₃, machine.record w₂ (.call (openLedger n l') (.finalizeUnstake n)) =
      ⟨w₂, _, some (.ok (.amount minStake)), w₃⟩ :=
    ⟨_, Deployed.record_of_returns dispatch provide (returns_bind_pure.mpr
      ⟨minStake, returns_finalizeUnstake.mpr
        ⟨rfl, _, hentry, matured, n, htoken, _, rfl, rfl, rfl⟩, rfl⟩)⟩
  obtain ⟨w₃, second⟩ := second
  intro honoured
  -- The payout on `l'` is in the trace, and its last unstake is the one on `l`.
  refine few (honoured (machine.trace w (registerAndStake n minStake l) ++
    [⟨w₁, .call (openLedger n l) (.unstake n minStake), some (.ok (.node r)), w₂⟩])
    ⟨w₂, .call (openLedger n l') (.finalizeUnstake n), some (.ok (.amount minStake)), w₃⟩ []
    (openLedger n l') _ ?_ rfl rfl _ minStake (openLedger n l)
    (isLast_append_self ⟨_, _, _, rfl, rfl, rfl⟩ _) ⟨rfl, _, rfl⟩)
  have step : (machine.step w₁ (.call (openLedger n l) (.unstake n minStake))).2 = w₂ :=
    congrArg Record.after first
  rw [Machine.trace_append, hw₁, List.append_assoc, trace, step, trace, trace_nil, first, second]
  rfl

/-- **The lock period is honoured in ledgers exactly when seconds do not outrun
them.**  `R` says which ledger may come after which.  Every run on ledgers of that
order honours the lock period of `n` in ledgers if and only if, between two such
ledgers, the period passes in seconds only when it also passes in ledgers. -/
theorem honoured_iff
    (h : Returns (initializeContract council minStake stakeLockPeriod) (freshState x) u w)
    {R : Ledger → Ledger → Prop} (refl : ∀ l, R l l) (n : Address) :
    (∀ as : List (Action Address X (Call Address) (Provision Address)), (ledgers as).Pairwise R →
        Honoured n stakeLockPeriod (machine.trace w as)) ↔
      ∀ l l', R l l' → PeriodPasses stakeLockPeriod l l' := by
  constructor
  · intro honoured l l' follows
    by_contra short
    refine not_honoured_of_not_periodPasses h n short (honoured _ ?_)
    -- Three calls on `l`, and one on `l'`.
    show [l, l, l, l'].Pairwise R
    simp [refl l, follows]
  · intro passes as follows
    exact honoured_of_periodPasses h (follows.imp fun r => passes _ _ r) n

end Ledgers

/-! ## A payout in the ledger of its unstake -/

/-- Node 1 stakes the minimum and unstakes it, and is paid while the ledger sequence
stands still and its time goes on by ten. -/
def sameLedger : List (Action ℕ Unit (Call ℕ) (Provision ℕ)) :=
  registerAndStake 1 100 ⟨0, 5⟩ ++
    [.call (openLedger 1 ⟨0, 5⟩) (.unstake 1 100),
      .call (openLedger 1 ⟨0, 15⟩) (.finalizeUnstake 1)]

/-- Neither clock runs backwards. -/
def Follows (l l' : Ledger) : Prop :=
  l.sequence.val ≤ l'.sequence.val ∧ l.timestamp.val ≤ l'.timestamp.val

instance : DecidableRel Follows := fun l l' =>
  inferInstanceAs
    (Decidable (l.sequence.val ≤ l'.sequence.val ∧ l.timestamp.val ≤ l'.timestamp.val))

/-- Neither clock runs backwards, and the lock period of ten ledgers is over within
one. -/
theorem sameLedger_not_honoured :
    Returns (initializeContract ⟨[7], 1⟩ 100 10) (freshState ()) () sampleRegistry ∧
      (ledgers sameLedger).Pairwise Follows ∧
      ¬ Honoured 1 10 (machine.trace sampleRegistry sameLedger) :=
  ⟨sampleRegistry_initialized, by decide,
    not_honoured_of_not_periodPasses sampleRegistry_initialized 1 fun passes =>
      absurd (passes (by decide)) (by decide)⟩

/-- The equivalence for ledgers of which only this much is known, that neither clock
runs backwards. -/
theorem honoured_iff_follows :
    (∀ as : List (Action ℕ Unit (Call ℕ) (Provision ℕ)), (ledgers as).Pairwise Follows →
        Honoured 1 10 (machine.trace sampleRegistry as)) ↔
      ∀ l l', Follows l l' → PeriodPasses 10 l l' :=
  honoured_iff sampleRegistry_initialized (fun _ => ⟨le_rfl, le_rfl⟩) 1

end StellarConduit.RelayRegistry
