import StellarConduit.Soroban.Run

/-!
# Parts of a system

Contracts that call one another make up one machine, and each of them is a machine of its
own.  While the system makes one step, a contract may make none, one or several: it is
called, another contract calls it, or the chain around it moves.

## Main definitions

* `Takes m Allowed told s heard s'` — some run of `m` leads from `s` to `s'`; all its steps
  are allowed, and what they tell is `heard`.
* `Machine.answered` — what a step of a contract tells: the call that returned, and its value.

## Main results

* `takes_run` — if each step of a system takes a part of it by allowed steps, then so does
  each run of the system.  What the system sees to may so be assumed of the part.
* `Takes.invariant` — what allowed steps of the part preserve holds in the system.
-/

namespace Soroban

variable {S A R T B Q E : Type}

namespace Machine

section Takes

variable {m : Machine S A R} {Allowed : Record S A R → Prop} {told : Record S A R → List E}
  {s s' s'' : S} {heard heard' : List E}

/-- A run of allowed steps leads from `s` to `s'`, and tells `heard`. -/
def Takes (m : Machine S A R) (Allowed : Record S A R → Prop) (told : Record S A R → List E)
    (s : S) (heard : List E) (s' : S) : Prop :=
  ∃ as, m.run s as = s' ∧ (∀ r ∈ m.trace s as, Allowed r) ∧ (m.trace s as).flatMap told = heard

/-- No step is taken. -/
theorem Takes.refl (s : S) : m.Takes Allowed told s [] s :=
  ⟨[], rfl, List.forall_mem_nil _, rfl⟩

/-- One allowed step. -/
theorem Takes.step {a : A} (allowed : Allowed (m.record s a)) :
    m.Takes Allowed told s (told (m.record s a)) (m.step s a).2 := by
  refine ⟨[a], rfl, ?_, ?_⟩
  · intro r hr
    rw [List.mem_singleton.mp hr]
    exact allowed
  · exact List.flatMap_singleton told (m.record s a)

/-- Steps of one part, one after the other. -/
theorem Takes.trans (first : m.Takes Allowed told s heard s')
    (second : m.Takes Allowed told s' heard' s'') :
    m.Takes Allowed told s (heard ++ heard') s'' := by
  obtain ⟨as, rfl, allowed, rfl⟩ := first
  obtain ⟨bs, rfl, allowed', rfl⟩ := second
  refine ⟨as ++ bs, m.run_append s as bs, ?_, ?_⟩
  · rw [trace_append]
    exact List.forall_mem_append.mpr ⟨allowed, allowed'⟩
  · rw [trace_append, List.flatMap_append]

/-- What allowed steps preserve holds where they lead. -/
theorem Takes.invariant (Inv : S → Prop)
    (hstep : ∀ s a, Allowed (m.record s a) → Inv s → Inv (m.step s a).2)
    (takes : m.Takes Allowed told s heard s') (start : Inv s) : Inv s' := by
  obtain ⟨as, rfl, allowed, -⟩ := takes
  exact m.run_invariant_of Inv Allowed hstep start allowed

end Takes

/-- The call that returned in a step, with its value. -/
def answered {Address X C P ε ρ : Type} (r : Record S (Action Address X C P) (Reply ε ρ)) :
    List (Env Address X × C × ρ) :=
  match r.action, r.reply with
  | .call env c, some (.ok a) => [(env, c, a)]
  | _, _ => []

/-- A run of a system takes a part of it where the system's steps take it. -/
theorem takes_run {m : Machine S A R} {part : Machine T B Q} {Allowed : Record T B Q → Prop}
    {told : Record T B Q → List E} (view : S → T) (heard : Record S A R → List E)
    (hstep : ∀ s a,
      part.Takes Allowed told (view s) (heard (m.record s a)) (view (m.step s a).2))
    (s : S) (as : List A) :
    part.Takes Allowed told (view s) ((m.trace s as).flatMap heard) (view (m.run s as)) := by
  induction as generalizing s with
  | nil => exact .refl (view s)
  | cons a as ih => exact (hstep s a).trans (ih (m.step s a).2)

end Machine
end Soroban
