import StellarConduit.Soroban.Run

/-!
# Entries that expire

The network keeps an entry only until a ledger that is written beside it.  An access to an
entry whose ledger has passed fails the whole invocation; `extend_ttl` moves the ledger on.
A contract with its calls to `extend_ttl` is a computation over `Living σ κ`, its storage
with the last ledger of every entry; the same contract without them is one over `σ`.

Lifetimes do not change what a contract computes.  They decide whether it gets to compute it:
a computation with lifetimes returns what the one without returns, or it fails, and then for
one of two reasons.  An entry that it reaches for has expired, or the last ledger that it asks
for is beyond the largest `u32`.  That is `Carries`, the relation that this module is about.

The relation also says what becomes of the lifetimes.  An entry is left as it was, or it was
live and is kept alive for at least `rent.kept` ledgers; which of the two is known from two
sets, the footprint `F` of entries that may be used and the set `T` of those that are used for
sure.  Two sets are needed, since a computation finds out some keys only as it runs.

## Main definitions

* `Network` — what the network grants and allows; `Rent` — with what a contract asks for.
* `loadEntry`, `saveEntry`, `removeEntry`, `extendTtl` — access to an entry.
* `Carries rent env F T x' x` — the computation `x'` does what `x` does, unless it fails for
  an entry of `F` that has expired.  It leaves all other entries alone, and each entry of `T`
  with `rent.kept` ledgers to live.

## Main results

`Carries` has one rule for each primitive, from `carries_bind` to `carries_removeEntry`, so a
living contract function is related to the plain one statement by statement.
-/

namespace Soroban

/-- The lifetimes that the network grants and allows, in ledgers. -/
structure Network where
  /-- What a new entry is granted. -/
  minTtl : ℕ
  /-- What no entry is granted more than. -/
  maxTtl : ℕ
  minTtl_pos : 0 < minTtl
  maxTtl_pos : 0 < maxTtl

/-- A network whose new entries live for a hundred ledgers, and no entry for over a million. -/
def Network.sample : Network where
  minTtl := 100
  maxTtl := 1000000
  minTtl_pos := by decide
  maxTtl_pos := by decide

/-- The network, and what a contract passes to `extend_ttl`: where at most `threshold`
ledgers remain, it asks for `amount`. -/
structure Rent extends Network where
  /-- The lifetime up to which an entry is extended. -/
  threshold : U32
  /-- The lifetime that is then asked for. -/
  amount : U32
  threshold_le : threshold ≤ amount

namespace Rent

variable (rent : Rent)

/-- The last ledger after `extend_ttl` on the ledger `now`. -/
def extended (now liveUntil : Int) : Int :=
  if liveUntil - now ≤ rent.threshold.val then
    max liveUntil (now + min rent.amount.val (rent.maxTtl - 1))
  else liveUntil

/-- The ledgers that an entry has to live after `extend_ttl`, at the least. -/
def kept : Int := min rent.threshold.val (rent.maxTtl - 1)

/-- The ledgers that an access leaves an entry at most, unless it had more. -/
def longest : Int := max rent.amount.val (rent.minTtl - 1)

/-- An entry that has just been extended is live. -/
theorem kept_nonneg : 0 ≤ rent.kept := by
  have pos := rent.maxTtl_pos
  have range := rent.threshold.u32_bounds
  unfold kept
  omega

/-- `extend_ttl` leaves an entry at least `kept` ledgers. -/
theorem kept_le_extended (now liveUntil : Int) : now + rent.kept ≤ rent.extended now liveUntil := by
  have asked := rent.threshold_le
  simp only [MachineInt.le_iff_val] at asked
  unfold extended kept
  split <;> omega

/-- `extend_ttl` grants at most `longest` ledgers from now. -/
theorem extended_le (now liveUntil : Int) :
    rent.extended now liveUntil ≤ max liveUntil (now + rent.longest) := by
  unfold extended longest
  split <;> omega

end Rent

/-- Storage with entries of its own, each under a key. -/
class Entries (σ : Type) (κ : outParam Type) where
  /-- Whether there is an entry under the key. -/
  has : σ → κ → Bool

/-- Storage with the last ledger of each of its entries. -/
@[ext]
structure Living (σ κ : Type) where
  storage : σ
  /-- The last ledger of the entry under a key. -/
  liveUntil : κ → Int

namespace Living

variable {σ κ : Type} [Entries σ κ] {now : Int} {k : κ} {s s' s'' : Living σ κ}

/-- The entry under `k` has expired before the ledger `now`. -/
def Lapsed (s : Living σ κ) (now : Int) (k : κ) : Prop :=
  Entries.has s.storage k = true ∧ s.liveUntil k < now

instance : Decidable (s.Lapsed now k) := inferInstanceAs (Decidable (_ ∧ _))

/-- `extend_ttl` needs an entry that is live, and a ledger to name as its last. -/
def Extendable (rent : Rent) (now : Int) (k : κ) (s : Living σ κ) : Prop :=
  Entries.has s.storage k = true ∧ ¬ s.Lapsed now k ∧
    now + rent.amount.val ≤ IntType.max ⟨false, 32⟩

instance {rent : Rent} : Decidable (s.Extendable rent now k) :=
  inferInstanceAs (Decidable (_ ∧ _ ∧ _))

omit [Entries σ κ] in
/-- The effect of `extend_ttl`. -/
def extend [DecidableEq κ] (rent : Rent) (now : Int) (k : κ) (s : Living σ κ) : Living σ κ :=
  { s with liveUntil := Function.update s.liveUntil k (rent.extended now (s.liveUntil k)) }

/-- The effect of `set`: a new entry gets the least lifetime. -/
def put [DecidableEq κ] (rent : Rent) (now : Int) (k : κ) (write : σ → σ) (s : Living σ κ) :
    Living σ κ where
  storage := write s.storage
  liveUntil :=
    if Entries.has s.storage k then s.liveUntil
    else Function.update s.liveUntil k (now + (rent.minTtl - 1))

omit [Entries σ κ] in
/-- An extension moves the last ledger of its entry. -/
theorem liveUntil_extend_self [DecidableEq κ] (rent : Rent) :
    (s.extend rent now k).liveUntil k = rent.extended now (s.liveUntil k) :=
  Function.update_self ..

omit [Entries σ κ] in
/-- It moves the last ledger of no other entry. -/
theorem liveUntil_extend_of_ne [DecidableEq κ] (rent : Rent) {j : κ} (h : j ≠ k) :
    (s.extend rent now k).liveUntil j = s.liveUntil j :=
  Function.update_of_ne h ..

/-- Writing one entry grants nothing to another. -/
theorem liveUntil_put_of_ne [DecidableEq κ] (rent : Rent) {write : σ → σ} {j : κ} (h : j ≠ k) :
    (s.put rent now k write).liveUntil j = s.liveUntil j := by
  unfold put
  split
  · rfl
  · exact Function.update_of_ne h ..

/-- An entry that is written lives on, or lives from now. -/
theorem liveUntil_put_self [DecidableEq κ] (rent : Rent) {write : σ → σ}
    (live : ¬ s.Lapsed now k) :
    now ≤ (s.put rent now k write).liveUntil k ∧
      (s.put rent now k write).liveUntil k ≤ max (s.liveUntil k) (now + (rent.minTtl - 1)) := by
  have pos := rent.minTtl_pos
  unfold put
  split
  · rename_i stored
    have alive : ¬ s.liveUntil k < now := fun expired => live ⟨stored, expired⟩
    exact ⟨not_lt.mp alive, le_max_left _ _⟩
  · simp only [Function.update_self]
    omega

/-- The entry under `k` is neither made, extended nor removed. -/
def Left (k : κ) (s s' : Living σ κ) : Prop :=
  Entries.has s'.storage k = Entries.has s.storage k ∧ s'.liveUntil k = s.liveUntil k

/-- The entry under `k` was live when it was used, and if there still is one, it has been
kept alive. -/
structure Used (rent : Rent) (now : Int) (k : κ) (s s' : Living σ κ) : Prop where
  /-- It had not expired. -/
  live : ¬ s.Lapsed now k
  /-- It is granted at least `kept` ledgers. -/
  kept : Entries.has s'.storage k = true → now + rent.kept ≤ s'.liveUntil k
  /-- It is granted at most `longest` ledgers from now. -/
  within : s'.liveUntil k ≤ max (s.liveUntil k) (now + rent.longest)

/-- Only entries of `F` are used, and those of `T` are. -/
structure Aged (rent : Rent) (now : Int) (F T : Set κ) (s s' : Living σ κ) : Prop where
  /-- Every entry is left alone, or it is one of `F` and used. -/
  left_or_used : ∀ k, Left k s s' ∨ k ∈ F ∧ Used rent now k s s'
  /-- The entries of `T` are used. -/
  used : ∀ k ∈ T, Used rent now k s s'

/-- What is left alone has expired as it had before. -/
theorem Left.lapsed_iff (h : Left k s s') : s'.Lapsed now k ↔ s.Lapsed now k := by
  unfold Lapsed
  rw [h.1, h.2]

/-- Nothing is done to an entry. -/
theorem Left.refl : Left k s s := ⟨rfl, rfl⟩

/-- What is left alone twice is left alone. -/
theorem Left.trans (h : Left k s s') (h' : Left k s' s'') : Left k s s'' :=
  ⟨h'.1.trans h.1, h'.2.trans h.2⟩

variable {rent : Rent} {F T T' : Set κ}

/-- An entry that is live may be extended. -/
theorem used_extend [DecidableEq κ] (live : ¬ s.Lapsed now k) :
    Used rent now k s (s.extend rent now k) where
  live := live
  kept := by
    intro _
    rw [liveUntil_extend_self]
    exact rent.kept_le_extended _ _
  within := by
    rw [liveUntil_extend_self]
    exact rent.extended_le _ _

/-- An entry that is live, or not there, may be written and extended. -/
theorem used_saved [DecidableEq κ] {write : σ → σ} (live : ¬ s.Lapsed now k) :
    Used rent now k s ((s.put rent now k write).extend rent now k) where
  live := live
  kept := by
    intro _
    rw [liveUntil_extend_self]
    exact rent.kept_le_extended _ _
  within := by
    rw [liveUntil_extend_self]
    have written : (s.put rent now k write).liveUntil k ≤
        max (s.liveUntil k) (now + (rent.minTtl - 1)) := (liveUntil_put_self rent live).2
    have extended := rent.extended_le now ((s.put rent now k write).liveUntil k)
    have granted : (rent.minTtl : Int) - 1 ≤ rent.longest := le_max_right _ _
    omega

/-- What has been used has not expired afterwards. -/
theorem Used.not_lapsed (h : Used rent now k s s') : ¬ s'.Lapsed now k := by
  rintro ⟨stored, expired⟩
  have alive := h.kept stored
  have nonneg := rent.kept_nonneg
  omega

/-- A use that nothing follows is a use. -/
theorem Used.then_left (h : Used rent now k s s') (h' : Left k s' s'') : Used rent now k s s'' where
  live := h.live
  kept := by
    rw [h'.1, h'.2]
    exact h.kept
  within := by
    rw [h'.2]
    exact h.within

/-- A use that nothing precedes is a use. -/
theorem Left.then_used (h : Left k s s') (h' : Used rent now k s' s'') : Used rent now k s s'' where
  live := h.lapsed_iff.not.mp h'.live
  kept := h'.kept
  within := by
    rw [← h.2]
    exact h'.within

/-- Two uses are one: it is live before the first, and has what the second grants it. -/
theorem Used.trans (h : Used rent now k s s') (h' : Used rent now k s' s'') :
    Used rent now k s s'' where
  live := h.live
  kept := h'.kept
  within := by
    have first := h.within
    have second := h'.within
    omega

/-- Of two computations in sequence, an entry is used if one of them uses it. -/
theorem Aged.trans (h : Aged rent now F T s s') (h' : Aged rent now F T' s' s'') :
    Aged rent now F (T ∪ T') s s'' where
  left_or_used := fun k => by
    rcases h.left_or_used k with left | ⟨mem, used⟩ <;>
      rcases h'.left_or_used k with left' | ⟨mem', used'⟩
    · exact Or.inl (left.trans left')
    · exact Or.inr ⟨mem', left.then_used used'⟩
    · exact Or.inr ⟨mem, used.then_left left'⟩
    · exact Or.inr ⟨mem, used.trans used'⟩
  used := by
    rintro k (mem | mem)
    · rcases h'.left_or_used k with left' | ⟨-, used'⟩
      · exact (h.used k mem).then_left left'
      · exact (h.used k mem).trans used'
    · rcases h.left_or_used k with left | ⟨-, used⟩
      · exact left.then_used (h'.used k mem)
      · exact used.trans (h'.used k mem)

/-- Fewer entries may be known to be used. -/
theorem Aged.mono (h : Aged rent now F T s s') (fewer : T' ⊆ T) : Aged rent now F T' s s' where
  left_or_used := h.left_or_used
  used := fun k mem => h.used k (fewer mem)

/-- What has expired after a computation had expired before it. -/
theorem Aged.lapsed (h : Aged rent now F T s s') (lapsed : s'.Lapsed now k) : s.Lapsed now k := by
  rcases h.left_or_used k with left | ⟨-, used⟩
  · exact left.lapsed_iff.mp lapsed
  · exact absurd lapsed used.not_lapsed

/-- A computation that uses the entries of `F` can fail for one that has expired, or
because the ledgers come to their end. -/
def Hindered (rent : Rent) (now : Int) (F : Set κ) (s : Living σ κ) : Prop :=
  (∃ k ∈ F, s.Lapsed now k) ∨ IntType.max ⟨false, 32⟩ < now + rent.amount.val

/-- What hinders a computation after another had hindered it before: the first one expires
nothing. -/
theorem Aged.hindered (h : Aged rent now F T s s') (hindered : Hindered rent now F s') :
    Hindered rent now F s := by
  rcases hindered with ⟨k, mem, lapsed⟩ | late
  · exact Or.inl ⟨k, mem, h.lapsed lapsed⟩
  · exact Or.inr late

end Living

/-! ## Access to entries

`get_…`, `set_…` and `remove_…` of the storage modules are each a few accesses of the host, and
the host lets an invocation reach only live entries.  An entry that is read is extended only if
it is there; one that is written always is.
-/

namespace World

variable {σ κ X η : Type}

/-- The world without the lifetimes. -/
@[simps]
def erase (v : World (Living σ κ) X η) : World σ X η where
  storage := v.storage.storage
  outside := v.outside
  events := v.events

/-- The world `v` after a computation that knows of no lifetimes has left `w`. -/
@[simps]
def overlay (v : World (Living σ κ) X η) (w : World σ X η) : World (Living σ κ) X η where
  storage := { v.storage with storage := w.storage }
  outside := w.outside
  events := w.events

end World

section Access

variable {σ κ X η ε Address V : Type}

/-- A computation on records that are no entries of their own. -/
def lifted {α : Type} (x : Contract (World σ X η) ε α) :
    Contract (World (Living σ κ) X η) ε α :=
  fun v => ((x v.erase).1, v.overlay (x v.erase).2)

variable [Entries σ κ] (env : Env Address X) (k : κ)

/-- The host lets an invocation reach only live entries. -/
def reach : Contract (World (Living σ κ) X η) ε Unit := fun v =>
  if v.storage.Lapsed env.sequence.val k then (.error (.trap .hostFunction), v) else (.ok (), v)

variable [DecidableEq κ] (rent : Rent)

/-- `extend_ttl`. -/
def extendTtl : Contract (World (Living σ κ) X η) ε Unit := fun v =>
  if v.storage.Extendable rent env.sequence.val k then
    (.ok (), { v with storage := v.storage.extend rent env.sequence.val k })
  else (.error (.trap .hostFunction), v)

/-- `set`. -/
def putEntry (write : σ → σ) : Contract (World (Living σ κ) X η) ε Unit := do
  reach env k
  updateStorage fun s => s.put rent env.sequence.val k write

/-- The storage helpers `get_…`: an entry that is there is kept alive. -/
def loadEntry (load : σ → Option V) : Contract (World (Living σ κ) X η) ε (Option V) := do
  reach env k
  let entry ← lifted (loadStorage load)
  if entry.isSome then do
    extendTtl env k rent
    pure entry
  else pure entry

/-- The storage helpers `set_…`. -/
def saveEntry (write : σ → σ) : Contract (World (Living σ κ) X η) ε Unit := do
  putEntry env k rent write
  extendTtl env k rent

omit [DecidableEq κ] in
/-- The storage helpers `remove_…`. -/
def removeEntry (write : σ → σ) : Contract (World (Living σ κ) X η) ε Unit := do
  reach env k
  lifted (updateStorage write)

end Access

open Contract

section Rules

variable {σ κ X η ε Address V : Type} {v v' : World (Living σ κ) X η} {e : Failure ε} {u : Unit}

/-- A lifted computation returns what the plain one returns, with all lifetimes kept. -/
@[simp] theorem returns_lifted {α : Type} {x : Contract (World σ X η) ε α} {a : α} :
    Returns (lifted x : Contract (World (Living σ κ) X η) ε α) v a v' ↔
      ∃ w, Returns x v.erase a w ∧ v' = v.overlay w := by
  simp only [Returns, lifted, Prod.mk.injEq]
  rcases x v.erase with ⟨r, w⟩
  simp [eq_comm, and_assoc]

/-- A lifted computation fails as the plain one does. -/
@[simp] theorem fails_lifted {α : Type} {x : Contract (World σ X η) ε α} :
    Fails (lifted x : Contract (World (Living σ κ) X η) ε α) v e v' ↔
      ∃ w, Fails x v.erase e w ∧ v' = v.overlay w := by
  simp only [Fails, lifted, Prod.mk.injEq]
  rcases x v.erase with ⟨r, w⟩
  simp [eq_comm, and_assoc]

variable [Entries σ κ] {env : Env Address X} {k : κ}

/-- An entry is reached when it has not expired. -/
@[simp] theorem returns_reach :
    Returns (reach env k : Contract (World (Living σ κ) X η) ε Unit) v u v' ↔
      ¬ v.storage.Lapsed env.sequence.val k ∧ v' = v := by
  unfold Returns reach
  split <;> simp_all [eq_comm]

/-- Otherwise the host traps. -/
@[simp] theorem fails_reach :
    Fails (reach env k : Contract (World (Living σ κ) X η) ε Unit) v e v' ↔
      v.storage.Lapsed env.sequence.val k ∧ e = .trap .hostFunction ∧ v' = v := by
  unfold Fails reach
  split <;> simp_all [eq_comm]

variable [DecidableEq κ] {rent : Rent}

/-- `extend_ttl` returns on an entry that is there and live, when the ledger asked for is a
`u32`. -/
@[simp] theorem returns_extendTtl :
    Returns (extendTtl env k rent : Contract (World (Living σ κ) X η) ε Unit) v u v' ↔
      v.storage.Extendable rent env.sequence.val k ∧
        v' = { v with storage := v.storage.extend rent env.sequence.val k } := by
  unfold Returns extendTtl
  split <;> simp_all [eq_comm]

/-- Otherwise the host traps. -/
@[simp] theorem fails_extendTtl :
    Fails (extendTtl env k rent : Contract (World (Living σ κ) X η) ε Unit) v e v' ↔
      ¬ v.storage.Extendable rent env.sequence.val k ∧ e = .trap .hostFunction ∧ v' = v := by
  unfold Fails extendTtl
  split <;> simp_all [eq_comm]

end Rules

/-! ## Computations with and without lifetimes

A computation with lifetimes is compared to the one without on the same storage.  What the first
returns the second returns, and what it fails with is an error of the second, or an entry of the
footprint has expired.
-/

section Carries

variable {σ κ X η ε Address α β : Type} [Entries σ κ]

/-- What the living computation returns, the plain one returns; it uses entries of `F` only,
and those of `T`.  What it fails with, the plain one fails with, or it was hindered. -/
structure Carries (rent : Rent) (env : Env Address X) (F T : Set κ)
    (x' : Contract (World (Living σ κ) X η) ε α) (x : Contract (World σ X η) ε α) : Prop where
  /-- What is returned is returned without lifetimes, and the entries have aged. -/
  returns : ∀ {v : World (Living σ κ) X η} {a : α} {v' : World (Living σ κ) X η},
    Returns x' v a v' → Returns x v.erase a v'.erase ∧
      Living.Aged rent env.sequence.val F T v.storage v'.storage
  /-- A failure is one without lifetimes, or the computation was hindered. -/
  fails : ∀ {v : World (Living σ κ) X η} {e : Failure ε} {v' : World (Living σ κ) X η},
    Fails x' v e v' → (∃ w, Fails x v.erase e w) ∨
      Living.Hindered rent env.sequence.val F v.storage

variable {rent : Rent} {env : Env Address X} {F T T' : Set κ}
  {x' : Contract (World (Living σ κ) X η) ε α} {x : Contract (World σ X η) ε α}
  {f' : α → Contract (World (Living σ κ) X η) ε β} {f : α → Contract (World σ X η) ε β}

/-- Fewer entries may be known to be used. -/
theorem Carries.mono (h : Carries rent env F T x' x) (fewer : T' ⊆ T) :
    Carries rent env F T' x' x where
  returns := fun hx => ⟨(h.returns hx).1, (h.returns hx).2.mono fewer⟩
  fails := h.fails

/-- The rule for sequences: what either part uses is used. -/
theorem carries_bind (hx : Carries rent env F T x' x)
    (hf : ∀ a, Carries rent env F T' (f' a) (f a)) :
    Carries rent env F (T ∪ T') (x' >>= f') (x >>= f) where
  returns := by
    intro v b v'' h
    obtain ⟨a, v', h₁, h₂⟩ := returns_bind.mp h
    obtain ⟨plain₁, aged₁⟩ := hx.returns h₁
    obtain ⟨plain₂, aged₂⟩ := (hf a).returns h₂
    exact ⟨returns_bind.mpr ⟨a, v'.erase, plain₁, plain₂⟩, aged₁.trans aged₂⟩
  fails := by
    intro v e v'' h
    rcases fails_bind.mp h with h | ⟨a, v', h₁, h₂⟩
    · rcases hx.fails h with ⟨w, plain⟩ | hindered
      · exact Or.inl ⟨w, fails_bind.mpr (Or.inl plain)⟩
      · exact Or.inr hindered
    · obtain ⟨plain₁, aged₁⟩ := hx.returns h₁
      rcases (hf a).fails h₂ with ⟨w, plain₂⟩ | hindered
      · exact Or.inl ⟨w, fails_bind.mpr (Or.inr ⟨a, v'.erase, plain₁, plain₂⟩)⟩
      · exact Or.inr (aged₁.hindered hindered)

/-- Records that are no entries have no lifetimes. -/
theorem carries_lifted
    (keeps : ∀ w a w', Returns x w a w' →
      ∀ k, Entries.has w'.storage k = Entries.has w.storage k) :
    Carries rent env F ∅ (lifted x) x where
  returns := by
    intro v a v' h
    obtain ⟨w, hx, rfl⟩ := returns_lifted.mp h
    exact ⟨hx, fun k => Or.inl ⟨keeps _ _ _ hx k, rfl⟩, fun k none => none.elim⟩
  fails := by
    intro v e v' h
    obtain ⟨w, hx, rfl⟩ := fails_lifted.mp h
    exact Or.inl ⟨w, hx⟩

/-- A statement that does not look at the storage. -/
theorem carries_of_eq_lifted (same : x' = lifted x)
    (keeps : ∀ w a w', Returns x w a w' → w'.storage = w.storage) :
    Carries rent env F ∅ x' x := by
  rw [same]
  refine carries_lifted fun w a w' h k => ?_
  rw [keeps w a w' h]

/-- The rule for `Ok`. -/
theorem carries_pure {a : α} :
    Carries rent env F ∅ (pure a : Contract (World (Living σ κ) X η) ε α) (pure a) :=
  carries_of_eq_lifted rfl fun w b w' h => by rw [(returns_pure.mp h).2]

/-- The rule for a `ContractError`. -/
theorem carries_err {e : ε} :
    Carries rent env F ∅ (err e : Contract (World (Living σ κ) X η) ε α) (err e) :=
  carries_of_eq_lifted rfl fun _ _ _ h => (returns_err h).elim

/-- The rule for a panic. -/
theorem carries_trap {t : Trap} :
    Carries rent env F ∅ (trap t : Contract (World (Living σ κ) X η) ε α) (trap t) :=
  carries_of_eq_lifted rfl fun _ _ _ h => (returns_trap h).elim

/-- The rule for a check. -/
theorem carries_rejectIf {c : Prop} [Decidable c] {e : ε} :
    Carries rent env F ∅ (rejectIf c e : Contract (World (Living σ κ) X η) ε Unit)
      (rejectIf c e) := by
  unfold rejectIf
  split
  · exact carries_err
  · exact carries_pure

/-- The rule for `ok_or`. -/
theorem carries_okOr {o : Option α} {e : ε} :
    Carries rent env F ∅ (okOr o e : Contract (World (Living σ κ) X η) ε α) (okOr o e) := by
  cases o with
  | none => exact carries_err
  | some a => exact carries_pure

/-- The rule for `expect`. -/
theorem carries_expect {o : Option α} {message : String} :
    Carries rent env F ∅ (expect o message : Contract (World (Living σ κ) X η) ε α)
      (expect o message) := by
  cases o with
  | none => exact carries_trap
  | some a => exact carries_pure

/-- The rule for an addition that traps on overflow. -/
theorem carries_plus {t : IntType} {m n : MachineInt t} :
    Carries rent env F ∅ (plus m n : Contract (World (Living σ κ) X η) ε (MachineInt t))
      (plus m n) := by
  unfold plus
  cases m.checkedAdd n with
  | none => exact carries_trap
  | some r => exact carries_pure

/-- The rule for `require_auth`. -/
theorem carries_requireAuth {a : Address} :
    Carries rent env F ∅ (requireAuth env a : Contract (World (Living σ κ) X η) ε Unit)
      (requireAuth env a) := by
  unfold requireAuth
  split
  · exact carries_pure
  · exact carries_trap

/-- The rule for an event. -/
theorem carries_publish {event : η} :
    Carries rent env F ∅ (publish event : Contract (World (Living σ κ) X η) ε Unit)
      (publish event) :=
  carries_of_eq_lifted rfl fun w u w' h => by rw [returns_publish.mp h]

/-- The rule for a call of another contract, which has its entries elsewhere. -/
theorem carries_callContract {contract : Address} {function : String}
    {args : List (Val Address)} :
    Carries rent env F ∅
      (callContract env contract function args : Contract (World (Living σ κ) X η) ε Unit)
      (callContract env contract function args) := by
  refine carries_of_eq_lifted (funext fun v => ?_) fun w u w' h => ?_
  · simp only [callContract, lifted, World.erase]
    cases env.invokeContract contract function args v.outside <;> rfl
  · obtain ⟨_, -, rfl⟩ := returns_callContract.mp h
    rfl

variable [DecidableEq κ] {k : κ} {V : Type}

/-- The rule for `extend_ttl` on an entry that is always there; it has no counterpart
without lifetimes. -/
theorem carries_extendTtl (mem : k ∈ F) (always : ∀ s : σ, Entries.has s k = true) :
    Carries rent env F {k} (extendTtl env k rent : Contract (World (Living σ κ) X η) ε Unit)
      (pure ()) where
  returns := by
    intro v u v' h
    obtain ⟨⟨-, live, -⟩, rfl⟩ := returns_extendTtl.mp h
    refine ⟨returns_pure.mpr ⟨rfl, rfl⟩, fun j => ?_, ?_⟩
    · by_cases hj : j = k
      · subst hj
        exact Or.inr ⟨mem, Living.used_extend live⟩
      · exact Or.inl ⟨rfl, Living.liveUntil_extend_of_ne rent hj⟩
    · rintro j rfl
      exact Living.used_extend live
  fails := by
    intro v e v' h
    right
    by_cases lapsed : v.storage.Lapsed env.sequence.val k
    · exact Or.inl ⟨k, mem, lapsed⟩
    · exact Or.inr (not_le.mp fun fits => (fails_extendTtl.mp h).1 ⟨always _, lapsed, fits⟩)

/-- The rule for an entry point, which extends the instance first. -/
theorem carries_entryPoint {y' : Contract (World (Living σ κ) X η) ε α}
    {y : Contract (World σ X η) ε α} (mem : k ∈ F) (always : ∀ s : σ, Entries.has s k = true)
    (body : Carries rent env F T y' y) :
    Carries rent env F ({k} ∪ T) (extendTtl env k rent >>= fun _ => y') y :=
  carries_bind (f := fun _ => y) (carries_extendTtl mem always) fun _ => body

/-- The rule for `get_…`; `load` reads the entry. -/
theorem carries_loadEntry {load : σ → Option V} (mem : k ∈ F)
    (reads : ∀ s, (load s).isSome = Entries.has s k) :
    Carries rent env F {k}
      (loadEntry env k rent load : Contract (World (Living σ κ) X η) ε (Option V))
      (loadStorage load) where
  returns := by
    intro v a v' h
    obtain ⟨_, v₁, hreach, afterReach⟩ := returns_bind.mp h
    obtain ⟨live, rfl⟩ := returns_reach.mp hreach
    obtain ⟨entry, v₂, hlifted, afterLoad⟩ := returns_bind.mp afterReach
    obtain ⟨w, hload, rfl⟩ := returns_lifted.mp hlifted
    obtain ⟨rfl, rfl⟩ := returns_loadStorage.mp hload
    split at afterLoad
    · -- The entry is there: it is kept alive.
      obtain ⟨_, v₃, hextend, hpure⟩ := returns_bind.mp afterLoad
      obtain ⟨rfl, rfl⟩ := returns_pure.mp hpure
      obtain ⟨-, rfl⟩ := returns_extendTtl.mp hextend
      refine ⟨returns_loadStorage.mpr ⟨rfl, rfl⟩, fun j => ?_, ?_⟩
      · by_cases hj : j = k
        · subst hj
          exact Or.inr ⟨mem, Living.used_extend live⟩
        · exact Or.inl ⟨rfl, Living.liveUntil_extend_of_ne rent hj⟩
      · rintro j rfl
        exact Living.used_extend live
    · rename_i absent
      obtain ⟨rfl, rfl⟩ := returns_pure.mp afterLoad
      refine ⟨returns_loadStorage.mpr ⟨rfl, rfl⟩, fun j => Or.inl ⟨rfl, rfl⟩, ?_⟩
      rintro j rfl
      rw [reads] at absent
      exact ⟨live, fun stored => absurd stored absent, le_max_left _ _⟩
  fails := by
    intro v e v' h
    right
    rcases fails_bind.mp h with hreach | ⟨_, v₁, hreach, afterReach⟩
    · exact Or.inl ⟨k, mem, (fails_reach.mp hreach).1⟩
    · obtain ⟨live, rfl⟩ := returns_reach.mp hreach
      rcases fails_bind.mp afterReach with hlifted | ⟨entry, v₂, hlifted, afterLoad⟩
      · obtain ⟨w, hload, -⟩ := fails_lifted.mp hlifted
        exact (fails_loadStorage hload).elim
      · obtain ⟨w, hload, rfl⟩ := returns_lifted.mp hlifted
        obtain ⟨rfl, rfl⟩ := returns_loadStorage.mp hload
        split at afterLoad
        · rename_i stored
          rcases fails_bind.mp afterLoad with hextend | ⟨_, v₃, -, hpure⟩
          · refine Or.inr (not_le.mp fun fits => (fails_extendTtl.mp hextend).1 ?_)
            exact ⟨(reads _).symm.trans stored, live, fits⟩
          · exact (fails_pure hpure).elim
        · exact (fails_pure afterLoad).elim

/-- The rule for `set_…`; `write` writes the entry. -/
theorem carries_saveEntry {write : σ → σ} (mem : k ∈ F)
    (writes : ∀ s, Entries.has (write s) k = true)
    (frame : ∀ s j, j ≠ k → Entries.has (write s) j = Entries.has s j) :
    Carries rent env F {k}
      (saveEntry env k rent write : Contract (World (Living σ κ) X η) ε Unit)
      (updateStorage write) where
  returns := by
    intro v u v' h
    obtain ⟨_, v₁, hput, hextend⟩ := returns_bind.mp h
    obtain ⟨_, v₂, hreach, hupdate⟩ := returns_bind.mp hput
    obtain ⟨live, rfl⟩ := returns_reach.mp hreach
    obtain rfl := returns_updateStorage.mp hupdate
    obtain ⟨-, rfl⟩ := returns_extendTtl.mp hextend
    refine ⟨returns_updateStorage.mpr rfl, fun j => ?_, ?_⟩
    · by_cases hj : j = k
      · subst hj
        exact Or.inr ⟨mem, Living.used_saved live⟩
      · refine Or.inl ⟨frame _ j hj, ?_⟩
        exact (Living.liveUntil_extend_of_ne rent hj).trans (Living.liveUntil_put_of_ne rent hj)
    · rintro j rfl
      exact Living.used_saved live
  fails := by
    intro v e v' h
    right
    rcases fails_bind.mp h with hput | ⟨_, v₁, hput, hextend⟩
    · rcases fails_bind.mp hput with hreach | ⟨_, v₂, -, hupdate⟩
      · exact Or.inl ⟨k, mem, (fails_reach.mp hreach).1⟩
      · exact (fails_updateStorage hupdate).elim
    · obtain ⟨_, v₂, hreach, hupdate⟩ := returns_bind.mp hput
      obtain ⟨live, rfl⟩ := returns_reach.mp hreach
      obtain rfl := returns_updateStorage.mp hupdate
      refine Or.inr (not_le.mp fun fits => (fails_extendTtl.mp hextend).1 ?_)
      refine ⟨writes _, fun lapsed => ?_, fits⟩
      exact absurd lapsed.2 (not_lt.mpr (Living.liveUntil_put_self rent live).1)

omit [DecidableEq κ] in
/-- The rule for `remove_…`; `write` removes the entry. -/
theorem carries_removeEntry {write : σ → σ} (mem : k ∈ F)
    (removes : ∀ s, Entries.has (write s) k = false)
    (frame : ∀ s j, j ≠ k → Entries.has (write s) j = Entries.has s j) :
    Carries rent env F {k}
      (removeEntry env k write : Contract (World (Living σ κ) X η) ε Unit)
      (updateStorage write) where
  returns := by
    intro v u v' h
    obtain ⟨_, v₁, hreach, hlifted⟩ := returns_bind.mp h
    obtain ⟨live, rfl⟩ := returns_reach.mp hreach
    obtain ⟨w, hupdate, rfl⟩ := returns_lifted.mp hlifted
    obtain rfl := returns_updateStorage.mp hupdate
    have gone : Living.Used rent env.sequence.val k v₁.storage
        (v₁.overlay { v₁.erase with storage := write v₁.erase.storage }).storage :=
      ⟨live, fun stored => absurd (stored.symm.trans (removes _)) (by decide), le_max_left _ _⟩
    refine ⟨returns_updateStorage.mpr rfl, fun j => ?_, ?_⟩
    · by_cases hj : j = k
      · subst hj
        exact Or.inr ⟨mem, gone⟩
      · exact Or.inl ⟨frame _ j hj, rfl⟩
    · rintro j rfl
      exact gone
  fails := by
    intro v e v' h
    right
    rcases fails_bind.mp h with hreach | ⟨_, v₁, -, hlifted⟩
    · exact Or.inl ⟨k, mem, (fails_reach.mp hreach).1⟩
    · obtain ⟨w, hupdate, -⟩ := fails_lifted.mp hlifted
      exact (fails_updateStorage hupdate).elim

end Carries

end Soroban
