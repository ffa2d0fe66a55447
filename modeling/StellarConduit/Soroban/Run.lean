import StellarConduit.Soroban.Contract
import Mathlib.Algebra.BigOperators.Group.List.Basic
import Mathlib.Tactic.Abel

/-!
# Runs of a deployed contract

`Machine` is a deterministic, total step function: an action either has its
effect or, when it fails, leaves the state alone.  A run is a list of actions,
`trace` records what each of them found, answered and left behind, and the
facts about a run are obtained from facts about a step by these rules:

* `run_invariant` / `trace_invariant` — what every step preserves holds in every
  state reached, and in the state before every recorded step;
* `run_related` — a preorder respected by every step relates any two moments of
  a run;
* `exists_step_of_run` — what a run brings about, one of its steps does;
* `log_run` — if the state of every step matches a log that the step extends, so
  does the state a run leads to; `trace_run` when the log is the trace;
* `potential_run` — if a step changes a quantity by an amount read off its
  record, a run changes it by the sum of these amounts over the trace;
* `budget_run` — if no step spends more than it gains and what is in stock, neither
  does a run.

`run_invariant`, `trace_invariant` and `potential_run` also come in a form for runs in
which only certain steps are taken (`run_invariant_of`, `trace_invariant_of`,
`potential_run_of`).

`sum_prefixes_eq_zero_iff` turns a statement about every moment of a run into
one about every step: the accumulated amount is zero at every moment exactly when
each step contributes zero.

`deployed` is the machine of one contract on a chain where its entry points are
called, the rest of the chain moves on by itself, and whoever deployed the
contract may set a storage record outside the entry points.  `record_rule` proves a
fact about every step of it from the calls that return and the other three kinds of
step, `run_allowed` an invariant of runs, and `recorded_call_cases` says what a recorded
call did.
-/

namespace Soroban

/-- A deterministic machine over states `S`, actions `A` and replies `R`. -/
structure Machine (S A R : Type) where
  /-- An action is answered, and leads to the next state. -/
  step : S → A → R × S

/-- One step of a run, as an observer records it. -/
structure Record (S A R : Type) where
  /-- The state that the action has met, -/
  before : S
  /-- the action, -/
  action : A
  /-- the answer -/
  reply : R
  /-- and the state that it has left. -/
  after : S

namespace Machine

variable {S A R M : Type} (m : Machine S A R)

/-- The record of the step from `s` by `a`. -/
def record (s : S) (a : A) : Record S A R where
  before := s
  action := a
  reply := (m.step s a).1
  after := (m.step s a).2

/-- The state after a recorded step is the one that the step leads to. -/
theorem record_after (s : S) (a : A) : (m.record s a).after = (m.step s a).2 := rfl

/-- The state a list of actions leads to. -/
def run : S → List A → S
  | s, [] => s
  | s, a :: as => run (m.step s a).2 as

/-- The records of a run, in order. -/
def trace : S → List A → List (Record S A R)
  | _, [] => []
  | s, a :: as => m.record s a :: trace (m.step s a).2 as

/-- A run of no actions stays where it is. -/
@[simp] theorem run_nil (s : S) : m.run s [] = s := rfl

/-- And records nothing. -/
@[simp] theorem trace_nil (s : S) : m.trace s [] = [] := rfl

/-- A run after a run. -/
theorem run_append (s : S) (as bs : List A) : m.run s (as ++ bs) = m.run (m.run s as) bs := by
  induction as generalizing s with
  | nil => rfl
  | cons a as ih => exact ih _

/-- The records of a run after a run. -/
theorem trace_append (s : S) (as bs : List A) :
    m.trace s (as ++ bs) = m.trace s as ++ m.trace (m.run s as) bs := by
  induction as generalizing s with
  | nil => rfl
  | cons a as ih => exact congrArg (m.record s a :: ·) (ih _)

/-- The recorded steps are the steps taken at the moments of the run. -/
theorem mem_trace {s : S} {as : List A} {r : Record S A R} :
    r ∈ m.trace s as ↔
      ∃ pre a post, as = pre ++ a :: post ∧ r = m.record (m.run s pre) a := by
  constructor
  · intro h
    induction as generalizing s with
    | nil => cases h
    | cons a as ih =>
        rcases List.mem_cons.mp h with rfl | h
        · exact ⟨[], a, as, rfl, rfl⟩
        · obtain ⟨pre, b, post, rfl, hr⟩ := ih h
          exact ⟨a :: pre, b, post, rfl, hr⟩
  · rintro ⟨pre, a, post, rfl, rfl⟩
    rw [trace_append]
    exact List.mem_append_right _ List.mem_cons_self

/-- A recorded step is the step from the state it found. -/
theorem record_of_mem_trace {s : S} {as : List A} {r : Record S A R} (h : r ∈ m.trace s as) :
    m.record r.before r.action = r := by
  obtain ⟨pre, a, post, -, rfl⟩ := m.mem_trace.mp h
  rfl

/-- What is recorded was done. -/
theorem action_mem_of_mem_trace {s : S} {as : List A} {r : Record S A R}
    (h : r ∈ m.trace s as) : r.action ∈ as := by
  obtain ⟨pre, a, post, rfl, rfl⟩ := m.mem_trace.mp h
  exact List.mem_append_right _ List.mem_cons_self

/-- Where a trace splits, so does the run it records. -/
theorem trace_split {s : S} {as : List A} {hist post : List (Record S A R)} {r : Record S A R}
    (h : m.trace s as = hist ++ r :: post) :
    ∃ pre a rest, as = pre ++ a :: rest ∧ hist = m.trace s pre ∧ r = m.record (m.run s pre) a ∧
      post = m.trace r.after rest := by
  induction as generalizing s hist with
  | nil =>
      rw [trace_nil] at h
      exact absurd h.symm (by simp)
  | cons a as ih =>
      cases hist with
      | nil =>
          obtain ⟨rfl, rfl⟩ := List.cons.inj h
          exact ⟨[], a, as, rfl, rfl, rfl, rfl⟩
      | cons r' hist =>
          obtain ⟨rfl, tail⟩ := List.cons.inj h
          obtain ⟨pre, b, rest, rfl, rfl, hr, hpost⟩ := ih tail
          exact ⟨a :: pre, b, rest, rfl, rfl, hr, hpost⟩

/-- The run from where a recorded step starts. -/
theorem run_of_split {s : S} {as : List A} {hist post : List (Record S A R)} {r : Record S A R}
    (split : m.trace s as = hist ++ r :: post) :
    ∃ rest, m.run r.before rest = m.run s as ∧ m.trace r.before rest = r :: post := by
  obtain ⟨pre, a, rest, rfl, -, rfl, rfl⟩ := m.trace_split split
  exact ⟨a :: rest, (m.run_append s pre (a :: rest)).symm, rfl⟩

/-- What does not hold at the start of a run and does at its end was brought about by one
of its steps. -/
theorem exists_step_of_run (P : S → Prop) {s : S} {as : List A} (start : ¬ P s)
    (reached : P (m.run s as)) :
    ∃ hist r post, m.trace s as = hist ++ r :: post ∧ ¬ P r.before ∧ P r.after := by
  induction as generalizing s with
  | nil => exact absurd reached start
  | cons a as ih =>
      by_cases first : P (m.step s a).2
      · exact ⟨[], m.record s a, _, rfl, start, first⟩
      · obtain ⟨hist, r, post, split, before, after⟩ := ih first reached
        exact ⟨m.record s a :: hist, r, post, congrArg (m.record s a :: ·) split, before, after⟩

/-! ## Invariants -/

/-- What every allowed step preserves holds wherever a run of allowed steps
leads. -/
theorem run_invariant_of (Inv : S → Prop) (Allowed : Record S A R → Prop)
    (hstep : ∀ s a, Allowed (m.record s a) → Inv s → Inv (m.step s a).2)
    {s : S} (hs : Inv s) {as : List A} (allowed : ∀ r ∈ m.trace s as, Allowed r) :
    Inv (m.run s as) := by
  induction as generalizing s with
  | nil => exact hs
  | cons a as ih =>
      obtain ⟨first, rest⟩ := List.forall_mem_cons.mp allowed
      exact ih (hstep s a first hs) rest

/-- What holds of every allowed step from where the invariant holds is true of every
recorded step of a run of allowed steps. -/
theorem trace_invariant_of (Inv : S → Prop) (Allowed Q : Record S A R → Prop)
    (hstep : ∀ s a, Allowed (m.record s a) → Inv s →
      Inv (m.step s a).2 ∧ Q (m.record s a))
    {s : S} (hs : Inv s) {as : List A} (allowed : ∀ r ∈ m.trace s as, Allowed r) :
    ∀ r ∈ m.trace s as, Q r := by
  induction as generalizing s with
  | nil => exact List.forall_mem_nil Q
  | cons a as ih =>
      obtain ⟨first, rest⟩ := List.forall_mem_cons.mp allowed
      obtain ⟨inv, holds⟩ := hstep s a first hs
      exact List.forall_mem_cons.mpr ⟨holds, ih inv rest⟩

/-- What every step preserves holds wherever a run leads. -/
theorem run_invariant (Inv : S → Prop) (hstep : ∀ s a, Inv s → Inv (m.step s a).2)
    {s : S} (hs : Inv s) (as : List A) : Inv (m.run s as) :=
  m.run_invariant_of Inv (fun _ => True) (fun s a _ => hstep s a) hs fun _ _ => trivial

/-- What every step preserves holds before every recorded step. -/
theorem trace_invariant (Inv : S → Prop) (hstep : ∀ s a, Inv s → Inv (m.step s a).2)
    {s : S} (hs : Inv s) {as : List A} {r : Record S A R} (hr : r ∈ m.trace s as) :
    Inv r.before := by
  obtain ⟨pre, a, post, -, rfl⟩ := m.mem_trace.mp hr
  exact m.run_invariant Inv hstep hs pre

/-- A preorder respected by every step, under an invariant, relates the start of
a run to its end. -/
theorem run_related (Inv : S → Prop) (Rel : S → S → Prop) (hrefl : ∀ s, Rel s s)
    (htrans : ∀ {a b c}, Rel a b → Rel b c → Rel a c)
    (hinv : ∀ s a, Inv s → Inv (m.step s a).2) (hstep : ∀ s a, Inv s → Rel s (m.step s a).2)
    {s : S} (hs : Inv s) (as : List A) : Rel s (m.run s as) := by
  induction as generalizing s with
  | nil => exact hrefl s
  | cons a as ih => exact htrans (hstep s a hs) (ih (hinv s a hs))

/-- The same preorder relates what an earlier step of a run left behind to what a later
one finds. -/
theorem trace_related (Inv : S → Prop) (Rel : S → S → Prop) (hrefl : ∀ s, Rel s s)
    (htrans : ∀ {a b c}, Rel a b → Rel b c → Rel a c)
    (hinv : ∀ s a, Inv s → Inv (m.step s a).2) (hstep : ∀ s a, Inv s → Rel s (m.step s a).2)
    {s : S} (hs : Inv s) {as : List A} {hist post : List (Record S A R)} {r r' : Record S A R}
    (split : m.trace s as = hist ++ r :: post) (later : r' ∈ post) : Rel r.after r'.before := by
  obtain ⟨pre, a, rest, -, -, rfl, rfl⟩ := m.trace_split split
  obtain ⟨between, b, _, -, rfl⟩ := m.mem_trace.mp later
  have reached : Inv (m.run s pre) := m.run_invariant Inv hinv hs pre
  exact m.run_related Inv Rel hrefl htrans hinv hstep (hinv _ a reached) between

/-- The simulation rule for logs: if every step extends a log that matches the
state by what its record logs, then so does a run. -/
theorem log_run {E : Type} (Matches : S → List E → Prop) (logged : Record S A R → List E)
    (hstep : ∀ s a log, Matches s log → Matches (m.step s a).2 (log ++ logged (m.record s a)))
    {s : S} {log : List E} (hs : Matches s log) (as : List A) :
    Matches (m.run s as) (log ++ (m.trace s as).flatMap logged) := by
  induction as generalizing s log with
  | nil => simpa using hs
  | cons a as ih =>
      rw [trace, List.flatMap_cons, ← List.append_assoc]
      exact ih (hstep s a log hs)

/-- `log_run` for the log that is the trace itself. -/
theorem trace_run (Matches : S → List (Record S A R) → Prop)
    (hstep : ∀ s a hist, Matches s hist → Matches (m.step s a).2 (hist ++ [m.record s a]))
    {s : S} (hs : Matches s []) (as : List A) : Matches (m.run s as) (m.trace s as) := by
  have run := m.log_run Matches (fun r => [r]) hstep hs as
  rwa [List.nil_append, List.flatMap_singleton'] at run

/-- `e` is the last entry of the log with the property `p`. -/
def IsLast {E : Type} (p : E → Prop) (e : E) (log : List E) : Prop :=
  p e ∧ ∃ earlier later, log = earlier ++ e :: later ∧ ∀ e' ∈ later, ¬ p e'

/-- What has just happened has happened last. -/
theorem isLast_append_self {E : Type} {p : E → Prop} {e : E} (h : p e) (log : List E) :
    IsLast p e (log ++ [e]) :=
  ⟨h, log, [], rfl, List.forall_mem_nil _⟩

/-- An entry without the property leaves the last entry with it the last. -/
theorem IsLast.append {E : Type} {p : E → Prop} {e e' : E} {log : List E} (h : IsLast p e log)
    (he' : ¬ p e') : IsLast p e (log ++ [e']) := by
  obtain ⟨he, earlier, later, rfl, none⟩ := h
  refine ⟨he, earlier, later ++ [e'], by simp, ?_⟩
  rintro f hf
  rcases List.mem_append.mp hf with hf | hf
  · exact none f hf
  · rwa [List.mem_singleton.mp hf]

/-- One thing has happened last. -/
theorem IsLast.unique {E : Type} {p : E → Prop} {e f : E} {log : List E} (he : IsLast p e log)
    (hf : IsLast p f log) : e = f := by
  obtain ⟨he, earlier, later, rfl, noneAfter⟩ := he
  obtain ⟨hf, earlier', later', split, noneAfter'⟩ := hf
  rcases List.append_eq_append_iff.mp split with ⟨_ | ⟨g, gs⟩, -, h⟩ | ⟨_ | ⟨g, gs⟩, -, h⟩
  · exact (List.cons.inj h).1
  · -- `f` would come after `e`.
    obtain ⟨-, rfl⟩ := List.cons.inj h
    exact absurd hf (noneAfter f (by simp))
  · exact (List.cons.inj h).1.symm
  · obtain ⟨-, rfl⟩ := List.cons.inj h
    exact absurd he (noneAfter' e (by simp))

/-! ## Amounts accumulated along a run -/

section Amounts

variable [AddCommMonoid M]

/-- The total of an amount over a list of records. -/
def total (amount : Record S A R → M) (records : List (Record S A R)) : M :=
  (records.map amount).sum

/-- Nothing comes of no steps. -/
@[simp] theorem total_nil (amount : Record S A R → M) : total amount [] = 0 := rfl

/-- The first step counts, and then the others do. -/
@[simp] theorem total_cons (amount : Record S A R → M) (r : Record S A R)
    (records : List (Record S A R)) :
    total amount (r :: records) = amount r + total amount records := by
  simp [total]

/-- The total of a difference. -/
theorem total_sub {G : Type} [AddCommGroup G] (f g : Record S A R → G)
    (records : List (Record S A R)) :
    total (fun r => f r - g r) records = total f records - total g records := by
  induction records with
  | nil => simp
  | cons r records ih =>
      simp only [total_cons, ih]
      abel

/-- The telescoping rule: a quantity that every allowed step changes by an amount
of its record changes by the total of these amounts along a run of allowed
steps. -/
theorem potential_run_of (Inv : S → Prop) (Allowed : Record S A R → Prop) (φ : S → M)
    (amount : Record S A R → M)
    (hinv : ∀ s a, Allowed (m.record s a) → Inv s → Inv (m.step s a).2)
    (hstep : ∀ s a, Allowed (m.record s a) → Inv s →
      φ (m.step s a).2 = φ s + amount (m.record s a))
    {s : S} (hs : Inv s) {as : List A} (allowed : ∀ r ∈ m.trace s as, Allowed r) :
    φ (m.run s as) = φ s + total amount (m.trace s as) := by
  induction as generalizing s with
  | nil => simp
  | cons a as ih =>
      obtain ⟨first, rest⟩ := List.forall_mem_cons.mp allowed
      calc φ (m.run (m.step s a).2 as)
          = φ (m.step s a).2 + total amount (m.trace (m.step s a).2 as) :=
            ih (hinv s a first hs) rest
        _ = φ s + total amount (m.trace s (a :: as)) := by
            rw [hstep s a first hs, trace, total_cons, add_assoc]

/-- The telescoping rule for all runs. -/
theorem potential_run (Inv : S → Prop) (φ : S → M) (amount : Record S A R → M)
    (hinv : ∀ s a, Inv s → Inv (m.step s a).2)
    (hstep : ∀ s a, Inv s → φ (m.step s a).2 = φ s + amount (m.record s a))
    {s : S} (hs : Inv s) (as : List A) :
    φ (m.run s as) = φ s + total amount (m.trace s as) :=
  m.potential_run_of Inv (fun _ => True) φ amount (fun s a _ => hinv s a) (fun s a _ => hstep s a)
    hs fun _ _ => trivial

/-- The budget rule: if every step spends at most what it gains and takes out of
the stock `φ`, so does a run. -/
theorem budget_run (Inv : S → Prop) (φ : S → Int) (spent gained : Record S A R → Int)
    (hinv : ∀ s a, Inv s → Inv (m.step s a).2)
    (hstep : ∀ s a, Inv s →
      φ (m.step s a).2 + spent (m.record s a) ≤ φ s + gained (m.record s a))
    {s : S} (hs : Inv s) (as : List A) :
    φ (m.run s as) + total spent (m.trace s as) ≤ φ s + total gained (m.trace s as) := by
  induction as generalizing s with
  | nil => simp
  | cons a as ih =>
      have first := hstep s a hs
      have rest := ih (hinv s a hs)
      simp only [run, trace, total_cons]
      omega

/-- An accumulated amount is zero at every moment of a run exactly when every
step contributes zero. -/
theorem sum_prefixes_eq_zero_iff (amount : Record S A R → M) (s : S) (as : List A) :
    (∀ pre, pre <+: as → total amount (m.trace s pre) = 0) ↔
      ∀ r ∈ m.trace s as, amount r = 0 := by
  constructor
  · intro h
    induction as generalizing s with
    | nil => simp
    | cons a as ih =>
        -- The prefix of one action isolates the first amount; the later ones follow.
        have first : amount (m.record s a) = 0 := by
          simpa [trace] using h [a] (by simp)
        have rest : ∀ r ∈ m.trace (m.step s a).2 as, amount r = 0 := by
          refine ih _ fun pre hpre => ?_
          have := h (a :: pre) (List.cons_prefix_cons.mpr ⟨rfl, hpre⟩)
          simpa [trace, first] using this
        intro r hr
        rcases List.mem_cons.mp hr with rfl | hr
        · exact first
        · exact rest r hr
  · rintro h pre ⟨post, rfl⟩
    rw [trace_append] at h
    refine List.sum_eq_zero fun x hx => ?_
    obtain ⟨r, hr, rfl⟩ := List.mem_map.mp hx
    exact h r (List.mem_append_left _ hr)

end Amounts
end Machine

/-! ## The machine of one contract -/

/-- What can happen to a deployed contract. -/
inductive Action (Address X C P : Type) where
  /-- An entry point is called. -/
  | call (env : Env Address X) (c : C)
  /-- A storage record is set outside the entry points, by deployment tooling. -/
  | provision (p : P)
  /-- The rest of the chain moves on. -/
  | elsewhere (x : X)

/-- The answer to an action: that of the entry point, when one was called. -/
abbrev Reply (ε ρ : Type) : Type := Option (Except (Failure ε) ρ)

variable {Address σ X η ε ρ C P : Type}

/-- The machine of a contract with entry points `dispatch`. -/
def deployed (dispatch : Env Address X → C → Contract (World σ X η) ε ρ)
    (provide : P → σ → σ) :
    Machine (World σ X η) (Action Address X C P) (Reply ε ρ) where
  step w
    | .call env c => ((Contract.invoke (dispatch env c) w).map some id)
    | .provision p => (none, { w with storage := provide p w.storage })
    | .elsewhere x => (none, { w with outside := x })

namespace Deployed

variable (dispatch : Env Address X → C → Contract (World σ X η) ε ρ) (provide : P → σ → σ)

/-- A call that returns. -/
theorem step_of_returns {env : Env Address X} {c : C} {w w' : World σ X η} {a : ρ}
    (h : Contract.Returns (dispatch env c) w a w') :
    (deployed dispatch provide).step w (.call env c) = (some (.ok a), w') := by
  simp [deployed, Contract.invoke_of_returns h]

/-- A call that fails changes nothing. -/
theorem step_of_fails {env : Env Address X} {c : C} {w w' : World σ X η} {e : Failure ε}
    (h : Contract.Fails (dispatch env c) w e w') :
    (deployed dispatch provide).step w (.call env c) = (some (.error e), w) := by
  simp [deployed, Contract.invoke_of_fails h]

/-- A call that returns is answered with its value. -/
theorem answer_of_returns {env : Env Address X} {c : C} {w w' : World σ X η} {a : ρ}
    (h : Contract.Returns (dispatch env c) w a w') :
    ((deployed dispatch provide).step w (.call env c)).1 = some (.ok a) := by
  rw [step_of_returns dispatch provide h]

/-- A call that fails is answered with its failure. -/
theorem answer_of_fails {env : Env Address X} {c : C} {w w' : World σ X η} {e : Failure ε}
    (h : Contract.Fails (dispatch env c) w e w') :
    ((deployed dispatch provide).step w (.call env c)).1 = some (.error e) := by
  rw [step_of_fails dispatch provide h]

/-- What a call can do: return, as the entry point does, or nothing. -/
theorem step_call_cases (env : Env Address X) (c : C) (w : World σ X η) :
    (∃ a w', Contract.Returns (dispatch env c) w a w' ∧
        (deployed dispatch provide).step w (.call env c) = (some (.ok a), w')) ∨
      ∃ e, (deployed dispatch provide).step w (.call env c) = (some (.error e), w) := by
  rcases Contract.returns_or_fails (dispatch env c) w with ⟨a, w', h⟩ | ⟨e, w', h⟩
  · exact Or.inl ⟨a, w', h, step_of_returns dispatch provide h⟩
  · exact Or.inr ⟨e, step_of_fails dispatch provide h⟩

/-- The record of a call that returns. -/
theorem record_of_returns {env : Env Address X} {c : C} {w w' : World σ X η} {a : ρ}
    (h : Contract.Returns (dispatch env c) w a w') :
    (deployed dispatch provide).record w (.call env c) =
      ⟨w, .call env c, some (.ok a), w'⟩ := by
  simp only [Machine.record, step_of_returns dispatch provide h]

/-- The record of a call: of one that returned, or of one that changed nothing. -/
theorem record_call_cases (env : Env Address X) (c : C) (w : World σ X η) :
    (∃ a w', Contract.Returns (dispatch env c) w a w' ∧
        (deployed dispatch provide).record w (.call env c) =
          ⟨w, .call env c, some (.ok a), w'⟩) ∨
      ∃ e, (deployed dispatch provide).record w (.call env c) =
        ⟨w, .call env c, some (.error e), w⟩ := by
  rcases step_call_cases dispatch provide env c w with
    ⟨a, w', h, -⟩ | ⟨e, hstep⟩
  · exact Or.inl ⟨a, w', h, record_of_returns dispatch provide h⟩
  · exact Or.inr ⟨e, by simp only [Machine.record, hstep]⟩

section Calls

variable {r : Record (World σ X η) (Action Address X C P) (Reply ε ρ)} {env : Env Address X} {c : C}
  (step : (deployed dispatch provide).record r.before r.action = r)
  (action : r.action = .call env c)

include step action

/-- A recorded call returned what it answered, or it failed and changed nothing. -/
theorem recorded_call_cases :
    (∃ a, Contract.Returns (dispatch env c) r.before a r.after ∧ r.reply = some (.ok a)) ∨
      ∃ e, r.reply = some (.error e) ∧ r.after = r.before := by
  rw [action] at step
  rcases record_call_cases dispatch provide env c r.before with
    ⟨a, w', h, hrecord⟩ | ⟨e, hrecord⟩
  · rw [← step, hrecord]
    exact Or.inl ⟨a, h, rfl⟩
  · rw [← step, hrecord]
    exact Or.inr ⟨e, rfl, rfl⟩

/-- A call that was answered with a value returned it. -/
theorem returns_of_reply {a : ρ} (reply : r.reply = some (.ok a)) :
    Contract.Returns (dispatch env c) r.before a r.after := by
  rcases recorded_call_cases dispatch provide step action with ⟨b, h, answer⟩ | ⟨e, answer, -⟩
  · rw [reply] at answer
    simp only [Option.some.injEq, Except.ok.injEq] at answer
    rw [answer]
    exact h
  · rw [reply] at answer
    cases answer

/-- A call that can return was answered with the value. -/
theorem reply_of_returns {a : ρ} {w' : World σ X η}
    (h : Contract.Returns (dispatch env c) r.before a w') : r.reply = some (.ok a) := by
  rw [action] at step
  exact congrArg Record.reply (step.symm.trans (record_of_returns dispatch provide h))

end Calls

/-- The step rule: what holds of the record of a call that returns, of a call that
fails, of a provision and of what happens elsewhere holds of the record of every
step. -/
theorem record_rule (Q : Record (World σ X η) (Action Address X C P) (Reply ε ρ) → Prop)
    (w : World σ X η) (action : Action Address X C P)
    (returned : ∀ env c a w', Contract.Returns (dispatch env c) w a w' →
      Q ⟨w, .call env c, some (.ok a), w'⟩)
    (failed : ∀ env c e, Q ⟨w, .call env c, some (.error e), w⟩)
    (provision : ∀ p, Q ⟨w, .provision p, none, { w with storage := provide p w.storage }⟩)
    (elsewhere : ∀ x, Q ⟨w, .elsewhere x, none, { w with outside := x }⟩) :
    Q ((deployed dispatch provide).record w action) := by
  cases action with
  | call env c =>
      rcases record_call_cases dispatch provide env c w with ⟨a, w', h, hrecord⟩ | ⟨e, hrecord⟩
      · rw [hrecord]
        exact returned env c a w' h
      · rw [hrecord]
        exact failed env c e
  | provision p => exact provision p
  | elsewhere x => exact elsewhere x

variable {dispatch provide}

/-- A property of the storage is preserved by every step if it is preserved by
every call that returns and by every provision. -/
theorem step_storage (Inv : σ → Prop)
    (hcall : ∀ env c w a w', Inv w.storage → Contract.Returns (dispatch env c) w a w' →
      Inv w'.storage)
    (hprovide : ∀ p s, Inv s → Inv (provide p s))
    (w : World σ X η) (action : Action Address X C P) (hw : Inv w.storage) :
    Inv ((deployed dispatch provide).step w action).2.storage := by
  refine record_rule dispatch provide (fun r => Inv r.after.storage) w action ?returned ?failed
    ?provision ?elsewhere
  case returned =>
    intro env c a w' h
    exact hcall env c w a w' hw h
  case failed =>
    intro env c e
    exact hw
  case provision =>
    intro p
    exact hprovide p _ hw
  case elsewhere =>
    intro x
    exact hw

/-- What every allowed call that returns, every allowed provision and every allowed change
elsewhere preserves holds wherever a run of allowed steps leads. -/
theorem run_allowed (Inv : World σ X η → Prop)
    (Allowed : Record (World σ X η) (Action Address X C P) (Reply ε ρ) → Prop)
    (hcall : ∀ env c w a w', Allowed ⟨w, .call env c, some (.ok a), w'⟩ → Inv w →
      Contract.Returns (dispatch env c) w a w' → Inv w')
    (hprovide : ∀ p w,
      Allowed ⟨w, .provision p, none, { w with storage := provide p w.storage }⟩ → Inv w →
        Inv { w with storage := provide p w.storage })
    (helsewhere : ∀ x w, Allowed ⟨w, .elsewhere x, none, { w with outside := x }⟩ → Inv w →
      Inv { w with outside := x })
    {w : World σ X η} (start : Inv w) {as : List (Action Address X C P)}
    (allowed : ∀ r ∈ (deployed dispatch provide).trace w as, Allowed r) :
    Inv ((deployed dispatch provide).run w as) := by
  refine (deployed dispatch provide).run_invariant_of Inv Allowed (fun w action => ?_) start
    allowed
  refine record_rule dispatch provide (fun r => Allowed r → Inv w → Inv r.after) w action
    ?returned ?failed ?provision ?elsewhere
  case returned =>
    intro env c a w' h allowed inv
    exact hcall env c w a w' allowed inv h
  case failed =>
    intro env c e _ inv
    exact inv
  case provision =>
    intro p allowed inv
    exact hprovide p w allowed inv
  case elsewhere =>
    intro x allowed inv
    exact helsewhere x w allowed inv

/-- What every call that returns preserves holds wherever a run without provisions
leads. -/
theorem run_storage_of_calls (Inv : σ → Prop)
    (hcall : ∀ env c w a w', Inv w.storage → Contract.Returns (dispatch env c) w a w' →
      Inv w'.storage)
    {w : World σ X η} (start : Inv w.storage) {as : List (Action Address X C P)}
    (calls : ∀ p, .provision p ∉ as) :
    Inv ((deployed dispatch provide).run w as).storage := by
  refine run_allowed (fun w => Inv w.storage) (fun r => ∀ p, r.action ≠ .provision p) ?_ ?_ ?_
    start (fun r hr p hp => calls p (hp ▸ (deployed dispatch provide).action_mem_of_mem_trace hr))
  · intro env c w a w' _ inv h
    exact hcall env c w a w' inv h
  · intro p w called
    exact absurd rfl (called p)
  · intro x w _ inv
    exact inv

end Deployed
end Soroban
