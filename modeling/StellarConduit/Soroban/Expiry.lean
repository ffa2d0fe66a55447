import StellarConduit.Soroban.Lifetime
import StellarConduit.Soroban.Part

/-!
# Runs of a contract whose entries expire

`Upkeep` is what can happen to the storage of a contract outside its entry points.
`LivingContract` bundles what a contract has to show: its entry points with lifetimes carry
those without (`Carries`), for a footprint and the used entries of each call; its `machine`
runs with lifetimes, and its `plainMachine` without.

Three kinds of results follow from the bundle.  The first is a refinement.  A call of the living
contract returns what the plain one returns, or fails; so a living run is, but for the calls that
have failed, a run of the plain contract, and whatever is proved of all plain runs holds of it
when lifetimes are erased.

The second is about entries in use.  A call leaves each entry that it has used with `rent.kept`
ledgers to live.  If time only goes forward the entry has not expired within this span, whatever
else is called, and a call whose entries are all live is answered as without lifetimes.

The third is about entries out of use.  No call and nobody's payment grants an entry a ledger
beyond what is known; so one that has not been touched for longer than `rent.longest`, and for
which nobody has paid, has expired, and fails every call that uses it.

## Main definitions

* `Upkeep` — storage that is provided, and lifetimes that are paid for.
* `LivingContract` — a contract with lifetimes, together with the one without.
* `Chronological` — the ledgers of a run do not go back.

## Main results

* `plain_run` — every run is a run without lifetimes of some of the same actions, with the
  same values returned: what holds in all plain runs holds in all living ones.
* `step_plain` — a call whose entries are live is answered as without lifetimes.
* `alive_after_use`, `alive_of_recent_use` — an entry in use is live for `rent.kept` ledgers.
* `expired_when_idle` — an entry out of use for longer than `rent.longest` fails every call
  that uses it.
-/

namespace Soroban

/-- What happens to the storage of a contract outside its entry points. -/
inductive Upkeep (P κ : Type) where
  /-- A record is set, on a ledger. -/
  | provide (sequence : U32) (p : P)
  /-- Entries are extended or restored; anyone may pay for that. -/
  | prolong (paidUntil : κ → Int)

/-- A contract with lifetimes. -/
structure LivingContract (Address σ κ X η ε ρ C P : Type) [Entries σ κ] where
  /-- What the contract asks of the network. -/
  rent : Rent
  /-- Its entry points with lifetimes, -/
  dispatch : Env Address X → C → Contract (World (Living σ κ) X η) ε ρ
  /-- and without. -/
  plainDispatch : Env Address X → C → Contract (World σ X η) ε ρ
  /-- What is provided from outside. -/
  plainProvide : P → σ → σ
  /-- The entry that a provision sets, when it sets one. -/
  provides : P → Option κ
  /-- The entries that a call may use. -/
  footprint : C → Set κ
  /-- The entries that a call has used when it returns. -/
  uses : C → Set κ
  /-- The entry points do the same, or an entry has expired. -/
  carries : ∀ env c,
    Carries rent env (footprint c) (uses c) (dispatch env c) (plainDispatch env c)
  /-- What a provision sets is there. -/
  provides_has : ∀ p s k, provides p = some k → Entries.has (plainProvide p s) k = true
  /-- It makes and removes nothing else. -/
  provides_frame : ∀ p s k, provides p ≠ some k →
    Entries.has (plainProvide p s) k = Entries.has s k

namespace LivingContract

variable {Address σ κ X η ε ρ C P : Type} [Entries σ κ] [DecidableEq κ]
  (contract : LivingContract Address σ κ X η ε ρ C P)

/-- The effect of an upkeep. -/
def tend : Upkeep P κ → Living σ κ → Living σ κ
  | .provide sequence p, s =>
      match contract.provides p with
      | none => { s with storage := contract.plainProvide p s.storage }
      | some k =>
          if s.Lapsed sequence.val k then s
          else (s.put contract.rent sequence.val k (contract.plainProvide p)).extend contract.rent
            sequence.val k
  | .prolong paidUntil, s => { s with liveUntil := fun k => max (s.liveUntil k) (paidUntil k) }

/-- The machine with lifetimes. -/
def machine : Machine (World (Living σ κ) X η) (Action Address X C (Upkeep P κ)) (Reply ε ρ) :=
  deployed contract.dispatch contract.tend

omit [DecidableEq κ] in
/-- The machine without. -/
def plainMachine : Machine (World σ X η) (Action Address X C P) (Reply ε ρ) :=
  deployed contract.plainDispatch contract.plainProvide

end LivingContract

namespace Action

variable {Address X C P κ : Type}

/-- The action without lifetimes. -/
def plain : Action Address X C (Upkeep P κ) → Option (Action Address X C P)
  | .call env c => some (.call env c)
  | .provision (.provide _ p) => some (.provision p)
  | .provision (.prolong _) => none
  | .elsewhere x => some (.elsewhere x)

/-- The ledger on which an action takes place, where that matters. -/
def sequence : Action Address X C (Upkeep P κ) → Option Int
  | .call env _ => some env.sequence.val
  | .provision (.provide sequence _) => some sequence.val
  | .provision (.prolong _) => none
  | .elsewhere _ => none

end Action

namespace LivingContract

open Contract Machine

variable {Address σ κ X η ε ρ C P : Type} [Entries σ κ] [DecidableEq κ]
  {contract : LivingContract Address σ κ X η ε ρ C P} {v : World (Living σ κ) X η}

/-! ## Refinement -/

/-- What an upkeep does to the records, it does without lifetimes, or it does nothing. -/
theorem storage_tend (u : Upkeep P κ) (s : Living σ κ) :
    (∃ sequence p, u = .provide sequence p ∧
        (contract.tend u s).storage = contract.plainProvide p s.storage) ∨
      (contract.tend u s).storage = s.storage := by
  cases u with
  | prolong paidUntil => exact Or.inr rfl
  | provide sequence p =>
      cases entry : contract.provides p with
      | none => exact Or.inl ⟨sequence, p, rfl, by simp only [tend, entry]⟩
      | some k =>
          by_cases lapsed : s.Lapsed sequence.val k
          · exact Or.inr (by simp only [tend, entry, if_pos lapsed])
          · refine Or.inl ⟨sequence, p, rfl, ?_⟩
            simp only [tend, entry, if_neg lapsed]
            rfl

/-- One step is a step without lifetimes, or none. -/
theorem plain_step (contract : LivingContract Address σ κ X η ε ρ C P)
    (v : World (Living σ κ) X η) (action : Action Address X C (Upkeep P κ)) :
    ∃ bs, bs.Sublist action.plain.toList ∧
      contract.plainMachine.run v.erase bs = (contract.machine.step v action).2.erase ∧
      (contract.plainMachine.trace v.erase bs).flatMap answered =
        answered (contract.machine.record v action) := by
  cases action with
  | call env c =>
      rcases Deployed.record_call_cases contract.dispatch contract.tend env c v with
        ⟨a, v', h, hrecord⟩ | ⟨e, hrecord⟩
      · have plain := Deployed.record_of_returns contract.plainDispatch contract.plainProvide
          ((contract.carries env c).returns h).1
        refine ⟨[.call env c], List.Sublist.refl _, ?_, ?_⟩
        · exact (congrArg Record.after plain).trans
            (congrArg (fun r => World.erase r.after) hrecord).symm
        · refine (List.flatMap_singleton answered _).trans ?_
          rw [show contract.plainMachine.record v.erase (.call env c) = _ from plain,
            show contract.machine.record v (.call env c) = _ from hrecord]
          rfl
      · refine ⟨[], List.nil_sublist _, ?_, ?_⟩
        · exact (congrArg (fun r => World.erase r.after) hrecord).symm
        · rw [show contract.machine.record v (.call env c) = _ from hrecord]
          rfl
  | provision u =>
      rcases contract.storage_tend u v.storage with ⟨sequence, p, rfl, storage⟩ | storage
      · refine ⟨[.provision p], List.Sublist.refl _, ?_, rfl⟩
        exact World.ext storage.symm rfl rfl
      · refine ⟨[], List.nil_sublist _, ?_, rfl⟩
        exact World.ext storage.symm rfl rfl
  | elsewhere x => exact ⟨[.elsewhere x], List.Sublist.refl _, rfl, rfl⟩

/-- A run is a run without lifetimes of some of its actions; those that are left out had no
effect and returned no value. -/
def RunsPlainly (contract : LivingContract Address σ κ X η ε ρ C P) (v : World (Living σ κ) X η)
    (as : List (Action Address X C (Upkeep P κ))) : Prop :=
  ∃ bs, bs.Sublist (as.filterMap Action.plain) ∧
    contract.plainMachine.run v.erase bs = (contract.machine.run v as).erase ∧
    (contract.plainMachine.trace v.erase bs).flatMap answered =
      (contract.machine.trace v as).flatMap answered

/-- **Lifetimes add nothing that a contract could do.** By induction on the run, a failing call
being left out. -/
theorem plain_run (contract : LivingContract Address σ κ X η ε ρ C P)
    (v : World (Living σ κ) X η) (as : List (Action Address X C (Upkeep P κ))) :
    contract.RunsPlainly v as := by
  induction as generalizing v with
  | nil => exact ⟨[], List.Sublist.refl _, rfl, rfl⟩
  | cons action as ih =>
      obtain ⟨bs, sub, run, same⟩ := plain_step contract v action
      obtain ⟨cs, sub', run', same'⟩ := ih (contract.machine.step v action).2
      refine ⟨bs ++ cs, ?_, ?_, ?_⟩
      · rw [← List.singleton_append, List.filterMap_append]
        refine List.Sublist.append ?_ sub'
        cases h : action.plain <;> simpa [h] using sub
      · rw [run_append, run]
        exact run'
      · rw [trace_append, run, List.flatMap_append, same, same']
        rfl

/-- A call that is not hindered is answered as without lifetimes. -/
theorem step_plain {env : Env Address X} {c : C}
    (free : ¬ Living.Hindered contract.rent env.sequence.val (contract.footprint c) v.storage) :
    (contract.machine.step v (.call env c)).1 =
        (contract.plainMachine.step v.erase (.call env c)).1 ∧
      (contract.machine.step v (.call env c)).2.erase =
        (contract.plainMachine.step v.erase (.call env c)).2 := by
  unfold machine plainMachine
  rcases returns_or_fails (contract.dispatch env c) v with ⟨a, v', h⟩ | ⟨e, v', h⟩
  · rw [Deployed.step_of_returns _ _ h,
      Deployed.step_of_returns _ _ ((contract.carries env c).returns h).1]
    exact ⟨rfl, rfl⟩
  · rcases (contract.carries env c).fails h with ⟨w, plain⟩ | hindered
    · rw [Deployed.step_of_fails _ _ h, Deployed.step_of_fails _ _ plain]
      exact ⟨rfl, rfl⟩
    · exact absurd hindered free

/-! ## The life of one entry -/

omit [DecidableEq κ] in
/-- The action may use the entry under `k`. -/
def MayUse (contract : LivingContract Address σ κ X η ε ρ C P) (k : κ) :
    Action Address X C (Upkeep P κ) → Prop
  | .call _ c => k ∈ contract.footprint c
  | .provision (.provide _ p) => contract.provides p = some k
  | .provision (.prolong _) => False
  | .elsewhere _ => False

omit [DecidableEq κ] in
/-- On the ledger `now`, a call that returned has used the entry under `k`. -/
def UsedAt (contract : LivingContract Address σ κ X η ε ρ C P) (k : κ) (now : Int)
    (r : Record (World (Living σ κ) X η) (Action Address X C (Upkeep P κ)) (Reply ε ρ)) : Prop :=
  (∃ env c a, r.action = .call env c ∧ r.reply = some (.ok a) ∧ env.sequence.val = now) ∧
    Living.Used contract.rent now k r.before.storage r.after.storage

/-- The ledgers of a run's actions do not go back. -/
def Chronological (as : List (Action Address X C (Upkeep P κ))) : Prop :=
  (as.filterMap Action.sequence).Pairwise (· ≤ ·)

instance (as : List (Action Address X C (Upkeep P κ))) : Decidable (Chronological as) :=
  inferInstanceAs (Decidable (List.Pairwise _ _))

variable (contract)

/-- A call that returned has used the entries that it is said to use. -/
theorem usedAt_of_mem_uses {as : List (Action Address X C (Upkeep P κ))} {env : Env Address X}
    {c : C} {a : ρ} {k : κ}
    {r : Record (World (Living σ κ) X η) (Action Address X C (Upkeep P κ)) (Reply ε ρ)}
    (mem : r ∈ contract.machine.trace v as) (action : r.action = .call env c)
    (reply : r.reply = some (.ok a)) (uses : k ∈ contract.uses c) :
    contract.UsedAt k env.sequence.val r := by
  have h : Returns (contract.dispatch env c) r.before a r.after :=
    Deployed.returns_of_reply contract.dispatch contract.tend
      (contract.machine.record_of_mem_trace mem) action reply
  exact ⟨⟨env, c, a, action, reply, rfl⟩, ((contract.carries env c).returns h).2.used k uses⟩

/-- A provision uses the entry that it sets, and no other. -/
theorem entry_tend (k : κ) (sequence : U32) (p : P) (s : Living σ κ) :
    Living.Left k s (contract.tend (.provide sequence p) s) ∨
      contract.provides p = some k ∧
        Living.Used contract.rent sequence.val k s (contract.tend (.provide sequence p) s) := by
  cases entry : contract.provides p with
  | none =>
      left
      simp only [tend, entry]
      exact ⟨contract.provides_frame p _ k (by simp [entry]), rfl⟩
  | some j =>
      by_cases lapsed : s.Lapsed sequence.val j
      · left
        simp only [tend, entry, if_pos lapsed]
        exact Living.Left.refl
      · simp only [tend, entry, if_neg lapsed]
        by_cases hk : k = j
        · subst hk
          exact Or.inr ⟨rfl, Living.used_saved lapsed⟩
        · refine Or.inl ⟨contract.provides_frame p _ k ?_, ?_⟩
          · rw [entry]
            exact fun same => hk (Option.some.inj same).symm
          · exact (Living.liveUntil_extend_of_ne _ hk).trans (Living.liveUntil_put_of_ne _ hk)

/-- What a step does to one entry: nothing; it uses it; or someone pays for it. -/
theorem entry_step (k : κ) (v : World (Living σ κ) X η)
    (action : Action Address X C (Upkeep P κ)) :
    Living.Left k v.storage (contract.machine.step v action).2.storage ∨
      (∃ now, action.sequence = some now ∧ contract.MayUse k action ∧
        Living.Used contract.rent now k v.storage
          (contract.machine.step v action).2.storage) ∨
      ∃ paidUntil, action = .provision (.prolong paidUntil) ∧
        (contract.machine.step v action).2.storage.storage = v.storage.storage ∧
        (contract.machine.step v action).2.storage.liveUntil k =
          max (v.storage.liveUntil k) (paidUntil k) := by
  cases action with
  | call env c =>
      unfold machine
      rcases Deployed.step_call_cases contract.dispatch contract.tend env c v with
        ⟨a, v', h, hstep⟩ | ⟨e, hstep⟩
      · rw [hstep]
        rcases ((contract.carries env c).returns h).2.left_or_used k with left | ⟨mem, used⟩
        · exact Or.inl left
        · exact Or.inr (Or.inl ⟨_, rfl, mem, used⟩)
      · rw [hstep]
        exact Or.inl Living.Left.refl
  | provision u =>
      cases u with
      | provide sequence p =>
          rcases contract.entry_tend k sequence p v.storage with left | ⟨sets, used⟩
          · exact Or.inl left
          · exact Or.inr (Or.inl ⟨_, rfl, sets, used⟩)
      | prolong paidUntil => exact Or.inr (Or.inr ⟨paidUntil, rfl, rfl, rfl⟩)
  | elsewhere x => exact Or.inl Living.Left.refl

/-- An entry that lives up to a ledger lives at least as long while the run is not yet past
it by more than what a use grants. -/
theorem alive_run {k : κ} {t : Int} {as : List (Action Address X C (Upkeep P κ))}
    (start : Entries.has v.storage.storage k = true →
      t + contract.rent.kept ≤ v.storage.liveUntil k)
    (later : ∀ action ∈ as, ∀ now, action.sequence = some now → t ≤ now) :
    Entries.has (contract.machine.run v as).storage.storage k = true →
      t + contract.rent.kept ≤ (contract.machine.run v as).storage.liveUntil k := by
  refine contract.machine.run_invariant_of
    (fun v => Entries.has v.storage.storage k = true →
      t + contract.rent.kept ≤ v.storage.liveUntil k)
    (fun r => ∀ now, r.action.sequence = some now → t ≤ now) (fun v action order alive => ?_)
    start fun r mem => later r.action (action_mem_of_mem_trace _ mem)
  rcases contract.entry_step k v action with
    left | ⟨now, seq, -, used⟩ | ⟨paidUntil, -, same, paid⟩
  · rw [left.1, left.2]
    exact alive
  · intro stored
    have kept := used.kept stored
    have passed : t ≤ now := order now seq
    omega
  · rw [same, paid]
    intro stored
    exact (alive stored).trans (le_max_left _ _)

/-- An entry that a step on ledger `t` leaves live for `rent.kept` ledgers from there, or leaves
absent, is live for that long whenever it is stored afterwards: who makes it later grants it at
least as much. -/
theorem alive_after {k : κ} {t : Int} {as : List (Action Address X C (Upkeep P κ))}
    (order : Chronological as)
    {r : Record (World (Living σ κ) X η) (Action Address X C (Upkeep P κ)) (Reply ε ρ)}
    (mem : r ∈ contract.machine.trace v as) (seq : r.action.sequence = some t)
    (start : Entries.has r.after.storage.storage k = true →
      t + contract.rent.kept ≤ r.after.storage.liveUntil k)
    (stored : Entries.has (contract.machine.run v as).storage.storage k = true) :
    t + contract.rent.kept ≤ (contract.machine.run v as).storage.liveUntil k := by
  obtain ⟨pre, action, post, rfl, rfl⟩ := contract.machine.mem_trace.mp mem
  have rest : contract.machine.run v (pre ++ action :: post) =
      contract.machine.run (contract.machine.step (contract.machine.run v pre) action).2 post :=
    run_append ..
  rw [rest] at stored ⊢
  refine contract.alive_run start (fun later hlater now seq' => ?_) stored
  have after : (action :: post).filterMap Action.sequence =
      t :: post.filterMap Action.sequence := List.filterMap_cons_some seq
  rw [Chronological, List.filterMap_append, List.pairwise_append, after,
    List.pairwise_cons] at order
  exact order.2.1.1 now (List.mem_filterMap.mpr ⟨later, hlater, seq'⟩)

/-- An entry that a call has used lives for `rent.kept` ledgers from there, as long as it
is there. -/
theorem alive_after_use {k : κ} {t : Int} {as : List (Action Address X C (Upkeep P κ))}
    (order : Chronological as)
    {r : Record (World (Living σ κ) X η) (Action Address X C (Upkeep P κ)) (Reply ε ρ)}
    (mem : r ∈ contract.machine.trace v as) (used : contract.UsedAt k t r)
    (stored : Entries.has (contract.machine.run v as).storage.storage k = true) :
    t + contract.rent.kept ≤ (contract.machine.run v as).storage.liveUntil k := by
  obtain ⟨⟨env, c, a, action, -, now⟩, used⟩ := used
  refine contract.alive_after order mem ?_ used.kept stored
  rw [action]
  exact congrArg some now

/-- A call on live entries is answered as without lifetimes. -/
theorem step_of_alive {env : Env Address X} {c : C}
    (alive : ∀ k ∈ contract.footprint c, Entries.has v.storage.storage k = true →
      env.sequence.val ≤ v.storage.liveUntil k)
    (fits : env.sequence.val + contract.rent.amount.val ≤ IntType.max ⟨false, 32⟩) :
    (contract.machine.step v (.call env c)).1 =
        (contract.plainMachine.step v.erase (.call env c)).1 ∧
      (contract.machine.step v (.call env c)).2.erase =
        (contract.plainMachine.step v.erase (.call env c)).2 := by
  refine step_plain ?_
  rintro (⟨k, mem, stored, expired⟩ | late)
  · exact absurd expired (not_lt.mpr (alive k mem stored))
  · omega

/-- A call whose entries have all been in use within the last `rent.kept` ledgers is answered
as without lifetimes. -/
theorem alive_of_recent_use {as : List (Action Address X C (Upkeep P κ))} {env : Env Address X}
    {c : C} (order : Chronological as)
    (recent : ∀ k ∈ contract.footprint c,
      Entries.has (contract.machine.run v as).storage.storage k = true →
        ∃ r ∈ contract.machine.trace v as, ∃ t, contract.UsedAt k t r ∧
          env.sequence.val ≤ t + contract.rent.kept)
    (fits : env.sequence.val + contract.rent.amount.val ≤ IntType.max ⟨false, 32⟩) :
    (contract.machine.step (contract.machine.run v as) (.call env c)).1 =
        (contract.plainMachine.step (contract.machine.run v as).erase (.call env c)).1 ∧
      (contract.machine.step (contract.machine.run v as) (.call env c)).2.erase =
        (contract.plainMachine.step (contract.machine.run v as).erase (.call env c)).2 := by
  refine contract.step_of_alive (fun k mem stored => ?_) fits
  obtain ⟨r, hr, t, used, within⟩ := recent k mem stored
  exact within.trans (contract.alive_after_use order hr used stored)

/-- An entry that nothing has used or paid for during the last `rent.longest` ledgers fails
every call that uses it. -/
theorem expired_when_idle {k : κ} {as : List (Action Address X C (Upkeep P κ))}
    {env : Env Address X} {c : C} (mem : k ∈ contract.uses c)
    (start : v.storage.liveUntil k < env.sequence.val)
    (idle : ∀ action ∈ as, contract.MayUse k action → ∀ now, action.sequence = some now →
      now + contract.rent.longest < env.sequence.val)
    (unpaid : ∀ paidUntil, .provision (.prolong paidUntil) ∈ as →
      paidUntil k < env.sequence.val)
    (stored : Entries.has (contract.machine.run v as).storage.storage k = true) :
    ∃ e, (contract.machine.step (contract.machine.run v as) (.call env c)).1 =
      some (.error e) := by
  have expired : (contract.machine.run v as).storage.liveUntil k < env.sequence.val := by
    refine contract.machine.run_invariant_of
      (fun v => v.storage.liveUntil k < env.sequence.val)
      (fun r => r.action ∈ as) (fun v action taken bound => ?_)
      start fun r mem => action_mem_of_mem_trace _ mem
    rcases contract.entry_step k v action with
      left | ⟨now, seq, mayUse, used⟩ | ⟨paidUntil, rfl, -, paid⟩
    · rw [left.2]
      exact bound
    · have within := used.within
      have idle := idle action taken mayUse now seq
      omega
    · rw [paid]
      exact max_lt bound (unpaid paidUntil taken)
  rcases Deployed.step_call_cases contract.dispatch contract.tend env c
    (contract.machine.run v as) with ⟨a, v', h, -⟩ | ⟨e, hstep⟩
  · exact absurd ⟨stored, expired⟩ (((contract.carries env c).returns h).2.used k mem).live
  · exact ⟨e, congrArg Prod.fst hstep⟩

end LivingContract
end Soroban
