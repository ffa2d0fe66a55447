import StellarConduit.Soroban.Run
import StellarConduit.Soroban.Store

/-!
# Replaying the published events

An observer of the chain does not read a contract's storage; it sees the events that
the contract publishes and keeps a view of its own.  `Indexer V η` is how such an
observer takes in one event: the view it has then, or `none` when the event cannot
follow on the view it had.  `replay` is the whole log.

## Main definitions

* `Indexer.replay` — the view after a log, if the log is one the observer accepts.
* `Indexer.replay_project` — the part of a view that some of the events concern is
  replayed from these events alone.
* `Indexer.keyed` — a view for each key, in which an event acts on the view at its key;
  `replay_keyed` replays the keys apart from one another.
* `Replays` — from one world to another the events have grown, and the view of the
  storage has moved as the new events say.

`Deployed.replays_run` is the run rule: if every call that returns publishes what moved
the view, so does every run, and the log of a contract that had published nothing
replays to the view of its storage.
-/

namespace Soroban

variable {V L η : Type}

/-- What an observer makes of an event; `none` when the event cannot follow. -/
abbrev Indexer (V η : Type) : Type := V → η → Option V

namespace Indexer

/-- The view after a log of events. -/
def replay (index : Indexer V η) (v : V) (events : List η) : Option V := events.foldlM index v

variable {index : Indexer V η} {v v' v'' : V} {events later : List η}

/-- A log without events is accepted, and changes nothing. -/
@[simp] theorem replay_nil : index.replay v [] = some v := rfl

/-- The first event, and then the others. -/
theorem replay_cons {e : η} :
    index.replay v (e :: events) = some v'' ↔
      ∃ v', index v e = some v' ∧ index.replay v' events = some v'' := by
  rw [replay, List.foldlM_cons]
  exact Option.bind_eq_some_iff

/-- A log of one event is that event. -/
@[simp] theorem replay_singleton {e : η} : index.replay v [e] = index v e := by
  simp [replay]

/-- A log is replayed piece by piece. -/
theorem replay_append (first : index.replay v events = some v') :
    index.replay v (events ++ later) = index.replay v' later := by
  unfold replay at *
  rw [List.foldlM_append, first]
  rfl

/-- A quantity that every event changes by an amount of its own is changed by a log by the
sum of these amounts. -/
theorem replay_potential {M : Type} [AddCommMonoid M] (φ : V → M) (amount : η → M)
    (step : ∀ v e v', index v e = some v' → φ v' = φ v + amount e)
    (h : index.replay v events = some v') : φ v' = φ v + (events.map amount).sum := by
  induction events generalizing v with
  | nil =>
      obtain rfl := Option.some.inj h
      simp
  | cons e events ih =>
      obtain ⟨next, first, rest⟩ := replay_cons.mp h
      rw [ih rest, step v e next first, List.map_cons, List.sum_cons, add_assoc]

/-- A fact that some events bring about and none takes away holds after a log when it held
before or the log has such an event. -/
theorem replay_grows (Q : V → Prop) (brings : η → Prop)
    (step : ∀ v e v', index v e = some v' → (Q v' ↔ Q v ∨ brings e))
    (h : index.replay v events = some v') : Q v' ↔ Q v ∨ ∃ e ∈ events, brings e := by
  induction events generalizing v with
  | nil =>
      obtain rfl := Option.some.inj h
      simp
  | cons e events ih =>
      obtain ⟨next, first, rest⟩ := replay_cons.mp h
      rw [ih rest, step v e next first, or_assoc, List.exists_mem_cons_iff]

/-- The projection rule: where the events that concern a part of the view act on this
part alone, and the others leave it as it is, the part is replayed from the events that
concern it, in their order. -/
theorem replay_project (part : V → L) (own : Indexer L η) (concerns : η → Prop)
    [DecidablePred concerns]
    (inside : ∀ v e v', concerns e → index v e = some v' → own (part v) e = some (part v'))
    (outside : ∀ v e v', ¬ concerns e → index v e = some v' → part v' = part v)
    (h : index.replay v events = some v') :
    own.replay (part v) (events.filter fun e => concerns e) = some (part v') := by
  induction events generalizing v with
  | nil =>
      obtain rfl := Option.some.inj h
      rfl
  | cons e events ih =>
      obtain ⟨next, first, rest⟩ := replay_cons.mp h
      by_cases concerned : concerns e
      · rw [List.filter_cons_of_pos (by simpa using concerned)]
        exact replay_cons.mpr ⟨part next, inside v e next concerned first, ih rest⟩
      · rw [List.filter_cons_of_neg (by simpa using concerned),
          ← outside v e next concerned first]
        exact ih rest

/-! ### Views apart from one another -/

section Keyed

variable {K : Type} [DecidableEq K] {key : η → K} {own : Indexer L η} {u u' : K → L}

/-- A view for each key: an event acts on the view at its key. -/
def keyed (key : η → K) (own : Indexer L η) : Indexer (K → L) η := fun u e =>
  (own (u (key e)) e).map (Function.update u (key e))

/-- An event that moves the view at its key and no other. -/
theorem keyed_of_own {e : η} (moved : own (u (key e)) e = some (u' (key e)))
    (kept : ∀ k, k ≠ key e → u' k = u k) : keyed key own u e = some u' := by
  rw [keyed, moved, Option.map_some, Option.some.injEq, Function.update_eq_iff]
  exact ⟨rfl, fun k hk => (kept k hk).symm⟩

/-- The views at different keys are replayed apart: a log is accepted exactly when the
events of every key are, and leads every key where its own events lead it. -/
theorem replay_keyed :
    (keyed key own).replay u events = some u' ↔
      ∀ k, own.replay (u k) (events.filter fun e => key e = k) = some (u' k) := by
  induction events generalizing u with
  | nil => simp [funext_iff]
  | cons e events ih =>
      have others {l : L} (k : K) (hk : k ≠ key e) : Function.update u (key e) l k = u k :=
        Function.update_of_ne hk l u
      constructor
      · intro h k
        obtain ⟨next, first, rest⟩ := replay_cons.mp h
        obtain ⟨l, moved, rfl⟩ := Option.map_eq_some_iff.mp first
        -- The first event moves the view at its own key, and is filtered out at every other.
        have here := ih.mp rest k
        by_cases hk : key e = k
        · subst hk
          rw [Function.update_self] at here
          rw [List.filter_cons_of_pos (by simp)]
          exact replay_cons.mpr ⟨l, moved, here⟩
        · rw [others k (Ne.symm hk)] at here
          rw [List.filter_cons_of_neg (by simpa using hk)]
          exact here
      · intro h
        have here := h (key e)
        rw [List.filter_cons_of_pos (by simp)] at here
        obtain ⟨l, moved, rest⟩ := replay_cons.mp here
        -- The event is accepted at its key, so it is accepted; the rest is the hypothesis for
        -- the others.
        refine replay_cons.mpr ⟨_, Option.map_eq_some_iff.mpr ⟨l, moved, rfl⟩, ih.mpr fun k => ?_⟩
        by_cases hk : key e = k
        · subst hk
          rw [Function.update_self]
          exact rest
        · have there := h k
          rw [List.filter_cons_of_neg (by simpa using hk)] at there
          rw [others k (Ne.symm hk)]
          exact there

end Keyed

end Indexer

/-! ## Stores seen by an observer -/

namespace Store

variable {K W : Type} {f : V → W}

/-- The records of a store, each seen through `f`. -/
def view (s : Store K V) (f : V → W) : K → Option W := fun k => (s.get k).map f

/-- Nothing is seen of an empty store. -/
@[simp] theorem view_empty : (empty : Store K V).view f = fun _ => none := rfl

/-- Without a record there is nothing to see. -/
theorem view_of_get_none {s : Store K V} {k : K} (h : s.get k = none) : s.view f k = none := by
  rw [view, h]
  rfl

variable [DecidableEq K]

/-- A record that is written is seen under its key. -/
@[simp] theorem view_set (s : Store K V) (k : K) (v : V) :
    (s.set k v).view f = Function.update (s.view f) k (some (f v)) := by
  funext j
  rw [view, get_set, Function.update_apply]
  split
  · rfl
  · rfl

end Store

/-! ## Contracts and their events -/

section Replays

variable {σ X : Type} {index : Indexer V η} {view : σ → V} {w w' w'' : World σ X η}

/-- The events have grown, and the view of the storage has moved as the new ones say. -/
def Replays (index : Indexer V η) (view : σ → V) (w w' : World σ X η) : Prop :=
  ∃ published, w'.events = w.events ++ published ∧
    index.replay (view w.storage) published = some (view w'.storage)

/-- Nothing is published, and nothing moves. -/
theorem Replays.refl (index : Indexer V η) (view : σ → V) (w : World σ X η) :
    Replays index view w w :=
  ⟨[], (List.append_nil _).symm, rfl⟩

/-- What is published first and then is replayed first and then. -/
theorem Replays.trans (first : Replays index view w w') (second : Replays index view w' w'') :
    Replays index view w w'' := by
  obtain ⟨published, hevents, hview⟩ := first
  obtain ⟨later, hlater, hview'⟩ := second
  refine ⟨published ++ later, ?_, ?_⟩
  · rw [hlater, hevents, List.append_assoc]
  · rw [Indexer.replay_append hview, hview']

/-- One event, and the view it leads to. -/
theorem Replays.publish {e : η} (events : w'.events = w.events ++ [e])
    (moved : index (view w.storage) e = some (view w'.storage)) : Replays index view w w' :=
  ⟨[e], events, by rw [Indexer.replay_singleton, moved]⟩

/-- No event, and the view that was. -/
theorem Replays.silent (events : w'.events = w.events)
    (kept : view w'.storage = view w.storage) : Replays index view w w' :=
  ⟨[], by rw [events, List.append_nil], by rw [kept]; rfl⟩

/-- The log of a contract that had published nothing replays to the view of its storage. -/
theorem Replays.replay (h : Replays index view w w') (quiet : w.events = []) :
    index.replay (view w.storage) w'.events = some (view w'.storage) := by
  obtain ⟨published, hevents, hview⟩ := h
  rw [hevents, quiet, List.nil_append]
  exact hview

end Replays

namespace Deployed

variable {Address σ X ε ρ C P : Type}
  {dispatch : Env Address X → C → Contract (World σ X η) ε ρ} {provide : P → σ → σ}

/-- The run rule: where every call that returns publishes what moved the view, and a
provision is not seen, every run does. -/
theorem replays_run (index : Indexer V η) (view : σ → V) (Inv : σ → Prop)
    (hcall : ∀ env c w a w', Inv w.storage → Contract.Returns (dispatch env c) w a w' →
      Inv w'.storage ∧ Replays index view w w')
    (hprovide : ∀ p s, Inv s → Inv (provide p s) ∧ view (provide p s) = view s)
    {w : World σ X η} (start : Inv w.storage) (as : List (Action Address X C P)) :
    Replays index view w ((deployed dispatch provide).run w as) := by
  have inv : ∀ w action, Inv w.storage →
      Inv ((deployed dispatch provide).step w action).2.storage :=
    step_storage Inv (fun env c w a w' hw h => (hcall env c w a w' hw h).1)
      fun p s hs => (hprovide p s hs).1
  refine (deployed dispatch provide).run_related (fun w => Inv w.storage) (Replays index view)
    (Replays.refl index view) Replays.trans inv (fun w action hw => ?_) start as
  refine record_rule dispatch provide (fun r => Replays index view w r.after) w action
    ?returned ?failed ?provision ?elsewhere
  case returned =>
    intro env c a w' h
    exact (hcall env c w a w' hw h).2
  case failed =>
    intro env c e
    exact Replays.refl index view w
  case provision =>
    intro p
    exact Replays.silent rfl (hprovide p w.storage hw).2
  case elsewhere =>
    intro x
    exact Replays.silent rfl rfl

end Deployed
end Soroban
