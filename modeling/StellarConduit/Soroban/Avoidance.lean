import StellarConduit.Soroban.Run

/-!
# Which errors are returned, and where

`Avoids e x w` says that a computation started in the world `w` does not return `Err(e)`;
it may return a value, another error, or trap.  Each statement has one rule for it and the
rest of the computation: the statement does not fail with the error, and the rest, about
which its success is then known, does not either.

A rule is named by its statement and has the shape of a `do` block, a first statement bound to
the rest.  So an entry point is gone through from its first line to its last, and at every line
there is one rule that applies.  The hypotheses of the rest collect what the checks have shown:
after `rejectIf c e` it is known that `c` does not hold, after `okOr o e` what `o` was.

`reply_ne_of_avoids` says what this means for a call of a deployed contract.

`ErrsOnly Q x w` says of every error that is returned in which world it is: that `Q e w'`
holds of the error and the world the computation had reached, its writes included.  A check
must show `Q` of its own error, and a rest that avoids all errors has nothing to show.  It is
the finer of the two statements.  The host undoes the writes of a call that returns an error, so
they cannot be seen from outside; whether there were any is a question about the computation.
-/

namespace Soroban

namespace Contract

variable {ω ε α β : Type} {e e' : ε} {w : ω}

/-- From the world `w` the computation does not return `Err(e)`. -/
def Avoids (e : ε) (x : Contract ω ε α) (w : ω) : Prop := ∀ w', ¬ Fails x w (.error e) w'

/-- A value is no error. -/
theorem avoids_pure {a : α} : Avoids e (pure a : Contract ω ε α) w := fun _ => fails_pure

/-- Another error is not this one. -/
theorem avoids_err (other : e' ≠ e) : Avoids e (err e' : Contract ω ε α) w := by
  intro w' failed
  obtain ⟨same, -⟩ := fails_err.mp failed
  exact other (Failure.error.inj same).symm

/-- A trap is no error of the contract. -/
theorem avoids_trap {t : Trap} : Avoids e (trap t : Contract ω ε α) w := by
  intro w' failed
  obtain ⟨same, -⟩ := fails_trap.mp failed
  cases same

/-- One computation after another; the rest is looked at where the first has returned. -/
theorem avoids_bind {x : Contract ω ε α} {f : α → Contract ω ε β} (first : Avoids e x w)
    (rest : ∀ a w', Returns x w a w' → Avoids e (f a) w') : Avoids e (x >>= f) w := by
  intro w' failed
  rcases fails_bind.mp failed with failed | ⟨a, w'', returned, failed⟩
  · exact first w' failed
  · exact rest a w'' returned w' failed

/-- The last statement of a computation, as one with a rest that does nothing. -/
theorem avoids_last {x : Contract ω ε α} (h : Avoids e (x >>= pure) w) : Avoids e x w :=
  fun w' failed => h w' (fails_bind.mpr (Or.inl failed))

/-! ## One statement and the rest -/

section Statements

variable {f : α → Contract ω ε β} {g : Unit → Contract ω ε β} {o : Option α}

/-- A check that returns another error. -/
theorem avoids_rejectIf {c : Prop} [Decidable c] (other : e' ≠ e)
    (rest : ¬ c → Avoids e (g ()) w) : Avoids e (rejectIf c e' >>= g) w := by
  unfold rejectIf
  split
  · exact avoids_bind (avoids_err other) fun _ _ returned => absurd returned returns_err
  · rename_i hc
    exact rest hc

/-- A missing value is another error. -/
theorem avoids_okOr (other : e' ≠ e) (rest : ∀ a, o = some a → Avoids e (f a) w) :
    Avoids e (okOr o e' >>= f) w := by
  cases o with
  | none => exact avoids_bind (avoids_err other) fun _ _ returned => absurd returned returns_err
  | some a => exact rest a rfl

/-- The value is there. -/
theorem avoids_okOr_some (present : ∃ a, o = some a)
    (rest : ∀ a, o = some a → Avoids e (f a) w) : Avoids e (okOr o e' >>= f) w := by
  obtain ⟨a, rfl⟩ := present
  exact rest a rfl

/-- A panic is no error of the contract. -/
theorem avoids_expect {message : String} (rest : ∀ a, o = some a → Avoids e (f a) w) :
    Avoids e (expect o message >>= f) w := by
  cases o with
  | none => exact avoids_bind avoids_trap fun _ _ returned => absurd returned returns_trap
  | some a => exact rest a rfl

/-- An addition that overflows traps. -/
theorem avoids_plus {t : IntType} {m n : MachineInt t} {f : MachineInt t → Contract ω ε β}
    (rest : ∀ r, Avoids e (f r) w) : Avoids e (plus m n >>= f) w := by
  unfold plus
  cases m.checkedAdd n with
  | none => exact avoids_bind avoids_trap fun _ _ returned => absurd returned returns_trap
  | some r => exact rest r

end Statements

section Host

variable {σ X η Address : Type} {w : World σ X η} {env : Env Address X}
  {g : Unit → Contract (World σ X η) ε β}

/-- The rule for reading: what follows is gone through with what is stored. -/
theorem avoids_loadStorage {load : σ → α} {f : α → Contract (World σ X η) ε β}
    (rest : Avoids e (f (load w.storage)) w) : Avoids e (loadStorage load >>= f) w := rest

/-- Writing to the storage does not fail. -/
theorem avoids_updateStorage {update : σ → σ}
    (rest : Avoids e (g ()) { w with storage := update w.storage }) :
    Avoids e (updateStorage update >>= g) w := rest

/-- Publishing does not fail. -/
theorem avoids_publish {event : η}
    (rest : Avoids e (g ()) { w with events := w.events ++ [event] }) :
    Avoids e (publish event >>= g) w := rest

/-- A missing signature is a trap. -/
theorem avoids_requireAuth {a : Address} (rest : Avoids e (g ()) w) :
    Avoids e (requireAuth env a >>= g) w := by
  unfold requireAuth
  split
  · exact rest
  · exact avoids_bind avoids_trap fun _ _ returned => absurd returned returns_trap

/-- Another contract that fails is a trap. -/
theorem avoids_callContract {contract : Address} {function : String} {args : List (Val Address)}
    (rest : ∀ x, Avoids e (g ()) { w with outside := x }) :
    Avoids e (callContract env contract function args >>= g) w := by
  refine avoids_bind ?_ ?_
  · intro w' failed
    obtain ⟨-, same, -⟩ := fails_callContract.mp failed
    cases same
  · intro _ w' returned
    obtain ⟨x, -, rfl⟩ := returns_callContract.mp returned
    exact rest x

end Host

/-! ## The world of an error -/

section World

variable {Q : ε → ω → Prop}

/-- Every `Err` that the computation returns from the world `w`, and the world it had
reached, satisfy `Q`. -/
def ErrsOnly (Q : ε → ω → Prop) (x : Contract ω ε α) (w : ω) : Prop :=
  ∀ e w', Fails x w (.error e) w' → Q e w'

/-- What avoids all errors returns none. -/
theorem errsOnly_of_avoids {x : Contract ω ε α} (h : ∀ e, Avoids e x w) : ErrsOnly Q x w :=
  fun e w' failed => absurd failed (h e w')

/-- A value is no error. -/
theorem errsOnly_pure {a : α} : ErrsOnly Q (pure a : Contract ω ε α) w :=
  errsOnly_of_avoids fun _ => avoids_pure

/-- One computation after another; errors of the rest are in worlds that the first has led to. -/
theorem errsOnly_bind {x : Contract ω ε α} {f : α → Contract ω ε β} (first : ErrsOnly Q x w)
    (rest : ∀ a w', Returns x w a w' → ErrsOnly Q (f a) w') : ErrsOnly Q (x >>= f) w := by
  intro e w' failed
  rcases fails_bind.mp failed with failed | ⟨a, w'', returned, failed⟩
  · exact first e w' failed
  · exact rest a w'' returned e w' failed

/-- A computation with its value reshaped. -/
theorem errsOnly_bind_pure {x : Contract ω ε α} {f : α → β} (h : ErrsOnly Q x w) :
    ErrsOnly Q (x >>= fun a => pure (f a)) w :=
  errsOnly_bind h fun _ _ _ => errsOnly_pure

/-- The last statement of a computation, as one with a rest that does nothing. -/
theorem errsOnly_last {x : Contract ω ε α} (h : ErrsOnly Q (x >>= pure) w) : ErrsOnly Q x w :=
  fun e w' failed => h e w' (fails_bind.mpr (Or.inl failed))

variable {f : α → Contract ω ε β} {g : Unit → Contract ω ε β} {o : Option α}

/-- A check returns its error where it stands. -/
theorem errsOnly_rejectIf {c : Prop} [Decidable c] (rejected : c → Q e w)
    (rest : ¬ c → ErrsOnly Q (g ()) w) : ErrsOnly Q (rejectIf c e >>= g) w := by
  refine errsOnly_bind (fun e' w' failed => ?_) fun _ w' returned => ?_
  · obtain ⟨hc, same, rfl⟩ := fails_rejectIf.mp failed
    rw [Failure.error.inj same]
    exact rejected hc
  · obtain ⟨hc, rfl⟩ := returns_rejectIf.mp returned
    exact rest hc

/-- So does a lookup. -/
theorem errsOnly_okOr (missing : o = none → Q e w)
    (rest : ∀ a, o = some a → ErrsOnly Q (f a) w) : ErrsOnly Q (okOr o e >>= f) w := by
  refine errsOnly_bind (fun e' w' failed => ?_) fun a w' returned => ?_
  · obtain ⟨ho, same, rfl⟩ := fails_okOr.mp failed
    rw [Failure.error.inj same]
    exact missing ho
  · obtain ⟨ho, rfl⟩ := returns_okOr.mp returned
    exact rest a ho

end World

section Host

variable {σ X η Address : Type} {w : World σ X η} {env : Env Address X}
  {Q : ε → World σ X η → Prop}

/-- Reading does not fail, and leaves the world as it is. -/
theorem errsOnly_loadStorage {load : σ → α} {f : α → Contract (World σ X η) ε β}
    (rest : ErrsOnly Q (f (load w.storage)) w) : ErrsOnly Q (loadStorage load >>= f) w := rest

/-- Writing does not fail, and the rest is in another world. -/
theorem errsOnly_updateStorage {update : σ → σ} {g : Unit → Contract (World σ X η) ε β}
    (rest : ErrsOnly Q (g ()) { w with storage := update w.storage }) :
    ErrsOnly Q (updateStorage update >>= g) w := rest

/-- A missing signature is a trap. -/
theorem errsOnly_requireAuth {a : Address} {g : Unit → Contract (World σ X η) ε β}
    (rest : ErrsOnly Q (g ()) w) : ErrsOnly Q (requireAuth env a >>= g) w := by
  refine errsOnly_bind (errsOnly_of_avoids fun _ => ?_) fun _ w' authorised => ?_
  · exact avoids_last (avoids_requireAuth avoids_pure)
  · obtain ⟨-, rfl⟩ := returns_requireAuth.mp authorised
    exact rest

end Host
end Contract

namespace Deployed

variable {Address σ X η ε ρ C P : Type}
  {dispatch : Env Address X → C → Contract (World σ X η) ε ρ} {provide : P → σ → σ}

/-- A call that avoids an error is not answered with it. -/
theorem reply_ne_of_avoids {env : Env Address X} {c : C} {w : World σ X η} {e : ε}
    (avoids : Contract.Avoids e (dispatch env c) w) :
    ((deployed dispatch provide).step w (.call env c)).1 ≠ some (.error (.error e)) := by
  intro answered
  rcases Contract.returns_or_fails (dispatch env c) w with ⟨a, w', h⟩ | ⟨failure, w', h⟩
  · rw [answer_of_returns dispatch provide h] at answered
    cases answered
  · rw [answer_of_fails dispatch provide h] at answered
    simp only [Option.some.injEq, Except.error.injEq] at answered
    rw [answered] at h
    exact avoids w' h

end Deployed
end Soroban
