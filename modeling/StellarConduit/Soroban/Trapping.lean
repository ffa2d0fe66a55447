import StellarConduit.Soroban.Run

/-!
# Where the host traps

`TrapsOnly Q x w` says of every trap of the computation `x` from the world `w` that `Q` holds of
it.  As for the errors of a contract there is one rule for each statement and the rest of the
computation: a statement that may trap must show `Q` of its own trap, and the rest is looked at
where the statement has returned.  What the statement has found there is handed on, so that an
invariant of the storage can show that a trap further down is not met.

`Q` is a property of traps chosen by the user of these rules, and with it the strength of the
result: with `False` the computation never traps, with a relation to the call and its world
every trap has a reason.  Errors that a contract returns are none of its business, so the rules
for checks have nothing to show but for the rest.

## Main results

* `trapsOnly_bind` and the rules for the statements.
* `trap_of_trapsOnly` — what this means for the answers of a deployed contract.
-/

namespace Soroban

namespace Contract

variable {ω ε α β : Type} {Q : Trap → Prop} {w : ω}

/-- Every trap of the computation from the world `w` satisfies `Q`. -/
def TrapsOnly (Q : Trap → Prop) (x : Contract ω ε α) (w : ω) : Prop :=
  ∀ t w', Fails x w (.trap t) w' → Q t

/-- A value is no trap. -/
theorem trapsOnly_pure {a : α} : TrapsOnly Q (pure a : Contract ω ε α) w :=
  fun _ _ failed => absurd failed fails_pure

/-- An error is no trap. -/
theorem trapsOnly_err {e : ε} : TrapsOnly Q (err e : Contract ω ε α) w := by
  intro t w' failed
  obtain ⟨same, -⟩ := fails_err.mp failed
  cases same

/-- A trap has to be one of those. -/
theorem trapsOnly_trap {t : Trap} (caused : Q t) : TrapsOnly Q (trap t : Contract ω ε α) w := by
  intro t' w' failed
  obtain ⟨same, -⟩ := fails_trap.mp failed
  obtain rfl := Failure.trap.inj same
  exact caused

/-- One computation after another; the rest is looked at where the first has returned. -/
theorem trapsOnly_bind {x : Contract ω ε α} {f : α → Contract ω ε β} (first : TrapsOnly Q x w)
    (rest : ∀ a w', Returns x w a w' → TrapsOnly Q (f a) w') : TrapsOnly Q (x >>= f) w := by
  intro t w' failed
  rcases fails_bind.mp failed with failed | ⟨a, w'', returned, failed⟩
  · exact first t w' failed
  · exact rest a w'' returned t w' failed

/-- A computation with its value reshaped. -/
theorem trapsOnly_bind_pure {x : Contract ω ε α} {f : α → β} (h : TrapsOnly Q x w) :
    TrapsOnly Q (x >>= fun a => pure (f a)) w :=
  trapsOnly_bind h fun _ _ _ => trapsOnly_pure

/-- The last statement of a computation, as one with a rest that does nothing. -/
theorem trapsOnly_last {x : Contract ω ε α} (h : TrapsOnly Q (x >>= pure) w) : TrapsOnly Q x w :=
  fun t w' failed => h t w' (fails_bind.mpr (Or.inl failed))

/-! ## One statement and the rest -/

section Statements

variable {f : α → Contract ω ε β} {g : Unit → Contract ω ε β} {o : Option α} {e : ε}

/-- A check returns an error, and the rest knows that it has passed. -/
theorem trapsOnly_rejectIf {c : Prop} [Decidable c] (rest : ¬ c → TrapsOnly Q (g ()) w) :
    TrapsOnly Q (rejectIf c e >>= g) w := by
  unfold rejectIf
  split
  · exact trapsOnly_bind trapsOnly_err fun _ _ returned => absurd returned returns_err
  · rename_i hc
    exact rest hc

/-- A lookup returns an error, and the rest knows what it has found. -/
theorem trapsOnly_okOr (rest : ∀ a, o = some a → TrapsOnly Q (f a) w) :
    TrapsOnly Q (okOr o e >>= f) w := by
  cases o with
  | none => exact trapsOnly_bind trapsOnly_err fun _ _ returned => absurd returned returns_err
  | some a => exact rest a rfl

/-- A value that is missing is a panic. -/
theorem trapsOnly_expect {message : String} (missing : o = none → Q (.panic message))
    (rest : ∀ a, o = some a → TrapsOnly Q (f a) w) : TrapsOnly Q (expect o message >>= f) w := by
  cases o with
  | none =>
      exact trapsOnly_bind (trapsOnly_trap (missing rfl)) fun _ _ returned =>
        absurd returned returns_trap
  | some a => exact rest a rfl

/-- The value is there. -/
theorem trapsOnly_expect_some {message : String} {a : α} (present : o = some a)
    (rest : TrapsOnly Q (f a) w) : TrapsOnly Q (expect o message >>= f) w := by
  rw [present]
  exact rest

/-- An addition that overflows traps, and the rest knows the sum. -/
theorem trapsOnly_plus {t : IntType} {m n : MachineInt t} {f : MachineInt t → Contract ω ε β}
    (full : m.checkedAdd n = none → Q .overflow)
    (rest : ∀ r, r.val = m.val + n.val → TrapsOnly Q (f r) w) :
    TrapsOnly Q (plus m n >>= f) w := by
  refine trapsOnly_bind (fun t w' failed => ?_) fun r w' returned => ?_
  · obtain ⟨none, same, -⟩ := fails_plus.mp failed
    obtain rfl := Failure.trap.inj same
    exact full none
  · obtain ⟨hr, rfl⟩ := returns_plus.mp returned
    exact rest r hr

end Statements

section Host

variable {σ X η Address : Type} {w : World σ X η} {env : Env Address X}
  {g : Unit → Contract (World σ X η) ε β}

/-- Reading does not trap. -/
theorem trapsOnly_load {load : σ → α} :
    TrapsOnly Q (loadStorage load : Contract (World σ X η) ε α) w :=
  fun _ _ failed => absurd failed fails_loadStorage

/-- The rule for reading: what follows is gone through with what is stored. -/
theorem trapsOnly_loadStorage {load : σ → α} {f : α → Contract (World σ X η) ε β}
    (rest : TrapsOnly Q (f (load w.storage)) w) : TrapsOnly Q (loadStorage load >>= f) w := rest

/-- Writing does not trap. -/
theorem trapsOnly_updateStorage {update : σ → σ}
    (rest : TrapsOnly Q (g ()) { w with storage := update w.storage }) :
    TrapsOnly Q (updateStorage update >>= g) w := rest

/-- Publishing does not trap. -/
theorem trapsOnly_publish {event : η}
    (rest : TrapsOnly Q (g ()) { w with events := w.events ++ [event] }) :
    TrapsOnly Q (publish event >>= g) w := rest

/-- A signature that is missing is a trap. -/
theorem trapsOnly_requireAuth {a : Address} (unsigned : env.authorised a = false → Q .unauthorised)
    (rest : TrapsOnly Q (g ()) w) : TrapsOnly Q (requireAuth env a >>= g) w := by
  unfold requireAuth
  split
  · exact rest
  · rename_i refused
    exact trapsOnly_bind (trapsOnly_trap (unsigned (Bool.eq_false_of_not_eq_true refused)))
      fun _ _ returned => absurd returned returns_trap

/-- Another contract that refuses is a trap. -/
theorem trapsOnly_callContract {contract : Address} {function : String}
    {args : List (Val Address)}
    (refused : env.invokeContract contract function args w.outside = none → Q .crossCall)
    (rest : ∀ x, env.invokeContract contract function args w.outside = some x →
      TrapsOnly Q (g ()) { w with outside := x }) :
    TrapsOnly Q (callContract env contract function args >>= g) w := by
  refine trapsOnly_bind (fun t w' failed => ?_) fun _ w' returned => ?_
  · obtain ⟨none, same, -⟩ := fails_callContract.mp failed
    obtain rfl := Failure.trap.inj same
    exact refused none
  · obtain ⟨x, hx, rfl⟩ := returns_callContract.mp returned
    exact rest x hx

end Host
end Contract

namespace Deployed

variable {Address σ X η ε ρ C P : Type}
  (dispatch : Env Address X → C → Contract (World σ X η) ε ρ) (provide : P → σ → σ)

/-- The trap that a call is answered with. -/
theorem trap_of_trapsOnly {env : Env Address X} {c : C} {w : World σ X η} {Q : Trap → Prop}
    (only : Contract.TrapsOnly Q (dispatch env c) w) {t : Trap}
    (answered : ((deployed dispatch provide).step w (.call env c)).1 =
      some (.error (.trap t))) : Q t := by
  rcases Contract.returns_or_fails (dispatch env c) w with ⟨a, w', h⟩ | ⟨failure, w', h⟩
  · rw [answer_of_returns dispatch provide h] at answered
    cases answered
  · rw [answer_of_fails dispatch provide h] at answered
    obtain rfl := Except.error.inj (Option.some.inj answered)
    exact only t w' h

end Deployed
end Soroban
