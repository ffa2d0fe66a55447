import StellarConduit.Soroban.Run

/-!
# Two runs of one computation

A computation that is started in two different worlds answers alike when it looks only
at what the two have in common.  `Coupled P x Q` says that it does so from any two
worlds related by `P`: it returns the same value in both and leaves worlds related by
`Q`, or it fails in both in the same way.

Each primitive has one rule, so that a contract function written in `do`-notation is
taken apart from its first statement on.  The rule of a check or a load is stated for it
and the rest of the computation: what it has found out about both worlds at once — a
check that passed, a record that is there — becomes a hypothesis of the rest.

The relation is one of the logic of two programs, with the same program on both sides, and the
two runs go through it in lockstep.  A statement whose outcome depends on the world needs the
relation to say that both worlds have the same there; the relation may be weakened along the way,
and what was lost cannot be asked for further down.

`coupled_step` says what a coupled call does on the machine of a deployed contract.  Where the
call fails in both, both worlds are rolled back.
-/

namespace Soroban

namespace Contract

variable {ω ε α β : Type}

/-- From any two worlds related by `P` the computation returns the same value, leaving
worlds related by `Q`, or fails in the same way. -/
def Coupled (P : ω → ω → Prop) (x : Contract ω ε α) (Q : ω → ω → Prop) : Prop :=
  ∀ w₁ w₂, P w₁ w₂ →
    (∃ a w₁' w₂', Returns x w₁ a w₁' ∧ Returns x w₂ a w₂' ∧ Q w₁' w₂') ∨
      ∃ e w₁' w₂', Fails x w₁ e w₁' ∧ Fails x w₂ e w₂'

variable {P Q R : ω → ω → Prop} {x : Contract ω ε α} {f : α → Contract ω ε β}

/-- Less may be asked of the worlds after the call than is known, and more before it. -/
theorem Coupled.mono (h : Coupled R x Q) (pre : ∀ w₁ w₂, P w₁ w₂ → R w₁ w₂) : Coupled P x Q :=
  fun w₁ w₂ related => h w₁ w₂ (pre w₁ w₂ related)

/-- The same value is returned in both. -/
theorem coupled_pure {a : α} (after : ∀ w₁ w₂, P w₁ w₂ → Q w₁ w₂) :
    Coupled P (pure a : Contract ω ε α) Q :=
  fun w₁ w₂ related => Or.inl ⟨a, w₁, w₂, returns_pure.mpr ⟨rfl, rfl⟩,
    returns_pure.mpr ⟨rfl, rfl⟩, after w₁ w₂ related⟩

/-- The same error is returned in both. -/
theorem coupled_err {e : ε} : Coupled P (err e : Contract ω ε α) Q :=
  fun w₁ w₂ _ => Or.inr ⟨.error e, w₁, w₂, fails_err.mpr ⟨rfl, rfl⟩, fails_err.mpr ⟨rfl, rfl⟩⟩

/-- Both trap. -/
theorem coupled_trap {t : Trap} : Coupled P (trap t : Contract ω ε α) Q :=
  fun w₁ w₂ _ => Or.inr ⟨.trap t, w₁, w₂, fails_trap.mpr ⟨rfl, rfl⟩, fails_trap.mpr ⟨rfl, rfl⟩⟩

/-- One computation after another. -/
theorem coupled_bind (hx : Coupled P x R) (hf : ∀ a, Coupled R (f a) Q) :
    Coupled P (x >>= f) Q := by
  intro w₁ w₂ related
  rcases hx w₁ w₂ related with ⟨a, v₁, v₂, h₁, h₂, between⟩ | ⟨e, v₁, v₂, h₁, h₂⟩
  · rcases hf a v₁ v₂ between with ⟨b, u₁, u₂, k₁, k₂, after⟩ | ⟨e, u₁, u₂, k₁, k₂⟩
    · exact Or.inl ⟨b, u₁, u₂, returns_bind.mpr ⟨a, v₁, h₁, k₁⟩,
        returns_bind.mpr ⟨a, v₂, h₂, k₂⟩, after⟩
    · exact Or.inr ⟨e, u₁, u₂, fails_bind.mpr (Or.inr ⟨a, v₁, h₁, k₁⟩),
        fails_bind.mpr (Or.inr ⟨a, v₂, h₂, k₂⟩)⟩
  · exact Or.inr ⟨e, v₁, v₂, fails_bind.mpr (Or.inl h₁), fails_bind.mpr (Or.inl h₂)⟩

/-- What follows a computation that fails is never reached. -/
theorem coupled_bind_of_fails (hx : Coupled P x fun _ _ => False) : Coupled P (x >>= f) Q :=
  coupled_bind hx fun _ _ _ impossible => impossible.elim

/-- What follows a computation that returns the same value in both worlds. -/
theorem coupled_of_returns {R : α → ω → ω → Prop}
    (hx : ∀ w₁ w₂, P w₁ w₂ → ∃ a v₁ v₂, Returns x w₁ a v₁ ∧ Returns x w₂ a v₂ ∧ R a v₁ v₂)
    (hf : ∀ a, Coupled (R a) (f a) Q) : Coupled P (x >>= f) Q := by
  intro w₁ w₂ related
  obtain ⟨a, v₁, v₂, h₁, h₂, between⟩ := hx w₁ w₂ related
  rcases hf a v₁ v₂ between with ⟨b, u₁, u₂, k₁, k₂, after⟩ | ⟨e, u₁, u₂, k₁, k₂⟩
  · exact Or.inl ⟨b, u₁, u₂, returns_bind.mpr ⟨a, v₁, h₁, k₁⟩,
      returns_bind.mpr ⟨a, v₂, h₂, k₂⟩, after⟩
  · exact Or.inr ⟨e, u₁, u₂, fails_bind.mpr (Or.inr ⟨a, v₁, h₁, k₁⟩),
      fails_bind.mpr (Or.inr ⟨a, v₂, h₂, k₂⟩)⟩

/-! ## One statement and the rest -/

section Statements

variable {g : Unit → Contract ω ε β}

/-- A check that does not look at the world. -/
theorem coupled_rejectIf {c : Prop} [Decidable c] {e : ε} (rest : ¬ c → Coupled P (g ()) Q) :
    Coupled P (rejectIf c e >>= g) Q := by
  unfold rejectIf
  split
  · exact coupled_bind_of_fails coupled_err
  · rename_i hc
    exact coupled_bind (coupled_pure fun _ _ => id) fun _ => rest hc

/-- A value that was found in both, or in neither. -/
theorem coupled_okOr {o : Option α} {e : ε} (rest : ∀ a, o = some a → Coupled P (f a) Q) :
    Coupled P (okOr o e >>= f) Q := by
  cases o with
  | none => exact coupled_bind_of_fails coupled_err
  | some a => exact rest a rfl

/-- The same, with a panic. -/
theorem coupled_expect {o : Option α} {message : String}
    (rest : ∀ a, o = some a → Coupled P (f a) Q) : Coupled P (expect o message >>= f) Q := by
  cases o with
  | none => exact coupled_bind_of_fails coupled_trap
  | some a => exact rest a rfl

/-- An addition that does not look at the world. -/
theorem coupled_plus {t : IntType} {m n : MachineInt t} {f : MachineInt t → Contract ω ε β}
    (rest : ∀ r, Coupled P (f r) Q) : Coupled P (plus m n >>= f) Q := by
  unfold plus
  cases m.checkedAdd n with
  | none => exact coupled_bind_of_fails coupled_trap
  | some r => exact rest r

end Statements

section Host

variable {σ X η Address : Type} {P Q R : World σ X η → World σ X η → Prop} {env : Env Address X}
  {g : Unit → Contract (World σ X η) ε β}

/-- What is loaded must be the same in both worlds; the rest may use that it was
loaded. -/
theorem coupled_loadStorage_eq {load : σ → α} {f : α → Contract (World σ X η) ε β}
    (same : ∀ w₁ w₂, P w₁ w₂ → load w₁.storage = load w₂.storage)
    (rest : ∀ a, Coupled (fun w₁ w₂ => load w₁.storage = a ∧ P w₁ w₂) (f a) Q) :
    Coupled P (loadStorage load >>= f) Q := by
  refine coupled_of_returns (fun w₁ w₂ related => ?_) rest
  exact ⟨load w₁.storage, w₁, w₂, returns_loadStorage.mpr ⟨rfl, rfl⟩,
    returns_loadStorage.mpr ⟨same w₁ w₂ related, rfl⟩, rfl, related⟩

/-- What is read is the same in both. -/
theorem coupled_loadStorage {load : σ → α} {f : α → Contract (World σ X η) ε β}
    (same : ∀ w₁ w₂, P w₁ w₂ → load w₁.storage = load w₂.storage)
    (rest : ∀ a, Coupled P (f a) Q) : Coupled P (loadStorage load >>= f) Q :=
  coupled_loadStorage_eq same fun a => (rest a).mono fun _ _ related => related.2

/-- An update must leave related worlds. -/
theorem coupled_updateStorage {update : σ → σ}
    (after : ∀ w₁ w₂, P w₁ w₂ → Q { w₁ with storage := update w₁.storage }
      { w₂ with storage := update w₂.storage }) :
    Coupled P (updateStorage update : Contract (World σ X η) ε Unit) Q :=
  fun w₁ w₂ related => Or.inl ⟨(), _, _, returns_updateStorage.mpr rfl,
    returns_updateStorage.mpr rfl, after w₁ w₂ related⟩

/-- The same event is published in both. -/
theorem coupled_publish {event : η}
    (after : ∀ w₁ w₂, P w₁ w₂ → Q { w₁ with events := w₁.events ++ [event] }
      { w₂ with events := w₂.events ++ [event] }) :
    Coupled P (publish event : Contract (World σ X η) ε Unit) Q :=
  fun w₁ w₂ related => Or.inl ⟨(), _, _, returns_publish.mpr rfl, returns_publish.mpr rfl,
    after w₁ w₂ related⟩

/-- The signatures are those of one transaction. -/
theorem coupled_requireAuth {a : Address} (rest : env.authorised a = true → Coupled P (g ()) Q) :
    Coupled P (requireAuth env a >>= g) Q := by
  unfold requireAuth
  split
  · rename_i authorised
    exact coupled_bind (coupled_pure fun _ _ => id) fun _ => rest authorised
  · exact coupled_bind_of_fails coupled_trap

/-- The other contract must answer alike, and leave related worlds when it returns. -/
theorem coupled_callContract {contract : Address} {function : String} {args : List (Val Address)}
    (answers : ∀ w₁ w₂, P w₁ w₂ →
      (∃ x₁ x₂, env.invokeContract contract function args w₁.outside = some x₁ ∧
          env.invokeContract contract function args w₂.outside = some x₂ ∧
          Q { w₁ with outside := x₁ } { w₂ with outside := x₂ }) ∨
        (env.invokeContract contract function args w₁.outside = none ∧
          env.invokeContract contract function args w₂.outside = none)) :
    Coupled P (callContract env contract function args : Contract (World σ X η) ε Unit) Q := by
  intro w₁ w₂ related
  rcases answers w₁ w₂ related with ⟨x₁, x₂, h₁, h₂, after⟩ | ⟨h₁, h₂⟩
  · exact Or.inl ⟨(), _, _, returns_callContract.mpr ⟨x₁, h₁, rfl⟩,
      returns_callContract.mpr ⟨x₂, h₂, rfl⟩, after⟩
  · exact Or.inr ⟨.trap .crossCall, w₁, w₂, fails_callContract.mpr ⟨h₁, rfl, rfl⟩,
      fails_callContract.mpr ⟨h₂, rfl, rfl⟩⟩

end Host

end Contract

namespace Deployed

variable {Address σ X η ε ρ C P : Type}
  {dispatch : Env Address X → C → Contract (World σ X η) ε ρ} (provide : P → σ → σ)

/-- A coupled call is answered alike from related worlds.  The worlds it leaves are
related as its returns or as before it, when it fails. -/
theorem coupled_step {Before After : World σ X η → World σ X η → Prop} {env : Env Address X} {c : C}
    (coupled : Contract.Coupled Before (dispatch env c) After) {w₁ w₂ : World σ X η}
    (before : Before w₁ w₂) :
    ((deployed dispatch provide).step w₁ (.call env c)).1 =
        ((deployed dispatch provide).step w₂ (.call env c)).1 ∧
      (After ((deployed dispatch provide).step w₁ (.call env c)).2
          ((deployed dispatch provide).step w₂ (.call env c)).2 ∨
        ((deployed dispatch provide).step w₁ (.call env c)).2 = w₁ ∧
          ((deployed dispatch provide).step w₂ (.call env c)).2 = w₂) := by
  rcases coupled w₁ w₂ before with ⟨a, w₁', w₂', h₁, h₂, after⟩ | ⟨e, w₁', w₂', h₁, h₂⟩
  · rw [step_of_returns dispatch provide h₁, step_of_returns dispatch provide h₂]
    exact ⟨rfl, Or.inl after⟩
  · rw [step_of_fails dispatch provide h₁, step_of_fails dispatch provide h₂]
    exact ⟨rfl, Or.inr ⟨rfl, rfl⟩⟩

end Deployed
end Soroban
