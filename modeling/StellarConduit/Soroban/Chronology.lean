import StellarConduit.Soroban.Part

/-!
# Runs in the order of time

A ledger has a number and a close time, and neither goes back.  What a contract stores under
ascending keys, dated by the ledger of the call that stores it, is then in the order of time.

The machines of this development have no clock; the ledger is an argument of each call.  A run is
in order if the ledgers of its actions ascend, and an invariant that mentions the time is a
family of invariants, one for each moment, in which the moment may be put forward.  `clock_run`
is the induction: between two actions the clock is put forward, and an action is taken at the
time of the clock.

## Main definitions

* `Dated store count date now` — records under the keys up to `count` carry ascending dates, and
  none lies after `now`.

## Main results

* `clock_run` — the rule for runs in the order of time: an invariant with a clock, which may be
  put forward, holds at the end of the run.
* `takes_storage` — what the calls heard of a contract preserve holds where it is taken.
-/

namespace Soroban

/-! ## Dated records -/

section Dated

variable {V : Type} {store : Store U64 V} {count nextId id : U64} {date : V → Int} {now now' : Int}
  {v v' : V}

/-- Records under the keys up to `count`, with dates that ascend with the keys up to `now`. -/
structure Dated (store : Store U64 V) (count : U64) (date : V → Int) (now : Int) : Prop where
  /-- Keys are counted. -/
  counted : ∀ id v, store.get id = some v → id.val ≤ count.val
  /-- No record is dated after `now`. -/
  past : ∀ id v, store.get id = some v → date v ≤ now
  /-- Later keys have later dates, or the same. -/
  ordered : ∀ id id' v v', store.get id = some v → store.get id' = some v' → id.val ≤ id'.val →
    date v ≤ date v'

namespace Dated

/-- Nothing is stored, and nothing out of order. -/
theorem empty (count : U64) (date : V → Int) (now : Int) :
    Dated (Store.empty : Store U64 V) count date now where
  counted := by simp
  past := by simp
  ordered := by simp

/-- The clock may be put forward. -/
theorem later (h : Dated store count date now) (le : now ≤ now') : Dated store count date now' where
  counted := h.counted
  past id v hv := (h.past id v hv).trans le
  ordered := h.ordered

/-- A record of now, under the next key. -/
theorem append (h : Dated store count date now) (hnext : nextId.val = count.val + 1)
    (hdate : date v = now) : Dated (store.set nextId v) nextId date now where
  counted id u hu := by
    rw [Store.get_set] at hu
    split at hu
    · rename_i hid
      exact le_of_eq (congrArg MachineInt.val hid)
    · have counted := h.counted id u hu
      omega
  past id u hu := by
    rw [Store.get_set] at hu
    split at hu
    · obtain rfl := Option.some.inj hu
      exact le_of_eq hdate
    · exact h.past id u hu
  ordered id id' u u' hu hu' le := by
    rw [Store.get_set] at hu hu'
    split at hu <;> split at hu'
    · obtain rfl := Option.some.inj hu
      obtain rfl := Option.some.inj hu'
      exact le_rfl
    · -- Nothing is stored above the next key.
      rename_i hid _
      have counted := h.counted id' u' hu'
      rw [hid] at le
      omega
    · obtain rfl := Option.some.inj hu'
      exact hdate ▸ h.past id u hu
    · exact h.ordered id id' u u' hu hu' le

/-- Rewriting a record without changing its date. -/
theorem rewrite (h : Dated store count date now) (hv : store.get id = some v)
    (same : date v' = date v) : Dated (store.set id v') count date now := by
  -- Each record found afterwards stands for one of the same date found before.
  have found {j : U64} {u : V} (hu : (store.set id v').get j = some u) :
      ∃ u₀, store.get j = some u₀ ∧ date u = date u₀ := by
    rw [Store.get_set] at hu
    split at hu
    · rename_i hj
      obtain rfl := Option.some.inj hu
      exact ⟨v, hj ▸ hv, same⟩
    · exact ⟨u, hu, rfl⟩
  refine ⟨fun j u hu => ?_, fun j u hu => ?_, fun j j' u u' hu hu' le => ?_⟩
  · obtain ⟨u₀, hu₀, -⟩ := found hu
    exact h.counted j u₀ hu₀
  · obtain ⟨u₀, hu₀, hdate⟩ := found hu
    exact hdate ▸ h.past j u₀ hu₀
  · obtain ⟨u₀, hu₀, hdate⟩ := found hu
    obtain ⟨u₁, hu₁, hdate'⟩ := found hu'
    rw [hdate, hdate']
    exact h.ordered j j' u₀ u₁ hu₀ hu₁ le

end Dated
end Dated

/-! ## Runs -/

namespace Machine

variable {S A R T : Type} [Preorder T] (m : Machine S A R) {now t : T} {s : S} {as : List A}

/-- An invariant with a clock: it stays when the clock is put forward, and a step at the time of
the clock keeps it. -/
theorem clock_run (time : A → Option T) (Inv : T → S → Prop)
    (hlater : ∀ {t t' s}, t ≤ t' → Inv t s → Inv t' s)
    (hstep : ∀ t s a, (∀ t', time a = some t' → t' = t) → Inv t s → Inv t (m.step s a).2)
    (start : Inv t s) (chronological : (t :: as.filterMap time).Pairwise (· ≤ ·))
    (upTo : ∀ t' ∈ t :: as.filterMap time, t' ≤ now) : Inv now (m.run s as) := by
  induction as generalizing s t with
  | nil => exact hlater (upTo t (List.mem_cons_self ..)) start
  | cons a as ih =>
      cases ha : time a with
      | none =>
          rw [List.filterMap_cons_none ha] at chronological upTo
          exact ih (hstep t s a (by rw [ha]; nofun) start) chronological upTo
      | some t' =>
          rw [List.filterMap_cons_some ha] at chronological upTo
          obtain ⟨after, rest⟩ := List.pairwise_cons.mp chronological
          have forward : Inv t' s := hlater (after t' (List.mem_cons_self ..)) start
          refine ih (hstep t' s a (fun u hu => ?_) forward) rest fun u hu => ?_
          · exact (Option.some.inj (ha.symm.trans hu)).symm
          · exact upTo u (List.mem_cons_of_mem _ hu)

end Machine

/-- What the calls that are heard of a contract preserve holds where the contract is taken. -/
theorem takes_storage {Address σ X η ε ρ C P : Type}
    {dispatch : Env Address X → C → Contract (World σ X η) ε ρ} {provide : P → σ → σ}
    (Inv : σ → Prop) (Good : Env Address X → Prop)
    (hcall : ∀ env c w v w', Good env → Inv w.storage → Contract.Returns (dispatch env c) w v w' →
      Inv w'.storage)
    (hprovide : ∀ p s, Inv s → Inv (provide p s))
    {Allowed : Record (World σ X η) (Action Address X C P) (Reply ε ρ) → Prop}
    {w w' : World σ X η} {heard : List (Env Address X × C × ρ)}
    (takes : (deployed dispatch provide).Takes Allowed Machine.answered w heard w')
    (good : ∀ call ∈ heard, Good call.1) (start : Inv w.storage) : Inv w'.storage := by
  obtain ⟨as, rfl, -, rfl⟩ := takes
  refine (deployed dispatch provide).run_invariant_of (fun w => Inv w.storage)
    (fun r => ∀ call ∈ Machine.answered r, Good call.1) (fun w a => ?_) start
    fun r hr call hcall => ?_
  · refine Deployed.record_rule dispatch provide
      (fun r => (∀ call ∈ Machine.answered r, Good call.1) → Inv w.storage → Inv r.after.storage)
      w a ?returned ?failed ?provision ?elsewhere
    case returned =>
      intro env c v w' h good inv
      exact hcall env c w v w' (good (env, c, v) (List.mem_singleton_self _)) inv h
    case failed =>
      intro env c e _ inv
      exact inv
    case provision =>
      intro p _ inv
      exact hprovide p w.storage inv
    case elsewhere =>
      intro x _ inv
      exact inv
  · exact good call (List.mem_flatMap.mpr ⟨r, hr, hcall⟩)

end Soroban
