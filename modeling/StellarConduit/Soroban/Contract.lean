import StellarConduit.Soroban.MachineInt
import StellarConduit.Soroban.Store

/-!
# Contract computations

A Soroban contract function reads and writes its own storage, calls other
contracts, publishes events, and ends in one of three ways: it returns a value,
it returns `Err`, or the host traps it.  `Contract ω ε α` is such a computation
over a world `ω`; it threads the world through and, unlike a transaction, keeps
the world it had reached when it fails.  Undoing the writes of a failed call is
the host's doing and is a separate function, `invoke`.

* `Returns x w a w'` — from `w` the computation returns `a` and leaves `w'`.
* `Fails x w e w'` — from `w` it fails with `e`, having reached `w'`.

Each primitive has one rule for either judgement, stated as an equivalence, so
that a contract function written in `do`-notation is taken apart by rewriting
with the rules (`returns_bind`, `fails_bind`, …) and never by case analysis on
its control flow.

`Env` is what the host answers during one invocation: the ledger, who has
authorised it, and what calls into other contracts do to the rest of the chain.
-/

namespace Soroban

/-- The ways in which the host ends an invocation without a result. -/
inductive Trap where
  /-- `panic!` or `expect` in the contract, with its message. -/
  | panic (message : String)
  /-- `require_auth` on an address that did not authorise the invocation. -/
  | unauthorised
  /-- Plain arithmetic out of range, in a build with overflow checks. -/
  | overflow
  /-- A call into another contract that did not return. -/
  | crossCall
  /-- A host function rejected its input. -/
  | hostFunction
deriving DecidableEq, Repr

/-- How a contract function fails: by its own `Err`, or by a trap. -/
inductive Failure (ε : Type) where
  | error (e : ε)
  | trap (t : Trap)
deriving DecidableEq, Repr

/-- What one contract sees: its storage, the rest of the chain, and the events
published so far. -/
@[ext]
structure World (σ X η : Type) where
  storage : σ
  outside : X
  events : List η

/-- A computation of a contract. -/
def Contract (ω ε α : Type) : Type := ω → Except (Failure ε) α × ω

namespace Contract

variable {ω ε α β : Type}

/-- From the world `w`, the computation returns `a` and leaves the world `w'`. -/
def Returns (x : Contract ω ε α) (w : ω) (a : α) (w' : ω) : Prop := x w = (.ok a, w')

/-- From the world `w`, the computation fails with `e`, the world being `w'`. -/
def Fails (x : Contract ω ε α) (w : ω) (e : Failure ε) (w' : ω) : Prop := x w = (.error e, w')

/-- Every run returns or fails. -/
theorem returns_or_fails (x : Contract ω ε α) (w : ω) :
    (∃ a w', Returns x w a w') ∨ ∃ e w', Fails x w e w' := by
  rcases h : x w with ⟨e | a, w'⟩
  · exact Or.inr ⟨e, w', h⟩
  · exact Or.inl ⟨a, w', h⟩

/-! ## Sequencing -/

/-- Return at once. -/
protected def pure (a : α) : Contract ω ε α := fun w => (.ok a, w)

/-- The first computation, and what is made of its value; a failure ends the computation. -/
protected def bind (x : Contract ω ε α) (f : α → Contract ω ε β) : Contract ω ε β := fun w =>
  match x w with
  | (.ok a, w') => f a w'
  | (.error e, w') => (.error e, w')

instance : Monad (Contract ω ε) where
  pure := Contract.pure
  bind := Contract.bind

/-- `Ok` returns its value in the world that it meets. -/
@[simp] theorem returns_pure {a b : α} {w w' : ω} :
    Returns (pure a : Contract ω ε α) w b w' ↔ b = a ∧ w' = w := by
  simp only [Returns, pure, Contract.pure, Prod.mk.injEq, Except.ok.injEq]
  exact ⟨fun h => ⟨h.1.symm, h.2.symm⟩, fun h => ⟨h.1.symm, h.2.symm⟩⟩

/-- And never fails. -/
@[simp] theorem fails_pure {a : α} {e : Failure ε} {w w' : ω} :
    ¬ Fails (pure a : Contract ω ε α) w e w' := by
  simp [Fails, pure, Contract.pure]

/-- A sequence returns when both parts do, the second in the world that the first leaves. -/
theorem returns_bind {x : Contract ω ε α} {f : α → Contract ω ε β} {w w'' : ω} {b : β} :
    Returns (x >>= f) w b w'' ↔ ∃ a w', Returns x w a w' ∧ Returns (f a) w' b w'' := by
  simp only [Returns, bind, Contract.bind]
  rcases x w with ⟨e | a, w'⟩ <;> simp

/-- A sequence fails in its first part, or in its second after the first has returned. -/
theorem fails_bind {x : Contract ω ε α} {f : α → Contract ω ε β} {w w'' : ω} {e : Failure ε} :
    Fails (x >>= f) w e w'' ↔
      Fails x w e w'' ∨ ∃ a w', Returns x w a w' ∧ Fails (f a) w' e w'' := by
  simp only [Fails, Returns, bind, Contract.bind]
  rcases x w with ⟨e | a, w'⟩ <;> simp

/-- A computation that only reshapes the value of another. -/
theorem returns_bind_pure {x : Contract ω ε α} {g : α → β} {w w' : ω} {b : β} :
    Returns (x >>= fun a => pure (g a)) w b w' ↔ ∃ a, Returns x w a w' ∧ b = g a := by
  rw [returns_bind]
  constructor
  · rintro ⟨a, w'', hx, h⟩
    obtain ⟨rfl, rfl⟩ := returns_pure.mp h
    exact ⟨a, hx, rfl⟩
  · rintro ⟨a, hx, rfl⟩
    exact ⟨a, w', hx, returns_pure.mpr ⟨rfl, rfl⟩⟩

/-- How a sequence is bracketed does not matter. -/
theorem bind_assoc {γ : Type} (x : Contract ω ε α) (f : α → Contract ω ε β)
    (g : β → Contract ω ε γ) : x >>= f >>= g = x >>= fun a => f a >>= g := by
  funext w
  simp only [bind, Contract.bind]
  rcases x w with ⟨e | a, w'⟩ <;> rfl

/-- The computation `call` runs `first` before anything else. -/
def StartsWith (first : Contract ω ε α) (call : Contract ω ε β) : Prop :=
  ∃ rest, call = first >>= rest

/-- A sequence starts with what its first part starts with. -/
theorem startsWith_bind {γ : Type} {first : Contract ω ε α} {call : Contract ω ε β}
    (h : StartsWith first call) (f : β → Contract ω ε γ) : StartsWith first (call >>= f) := by
  obtain ⟨rest, rfl⟩ := h
  exact ⟨_, bind_assoc first rest f⟩

/-- A computation returns only when what it starts with does. -/
theorem StartsWith.returns {first : Contract ω ε α} {call : Contract ω ε β}
    (h : StartsWith first call) {w w' : ω} {b : β} (hcall : Returns call w b w') :
    ∃ a w'', Returns first w a w'' := by
  obtain ⟨rest, rfl⟩ := h
  obtain ⟨a, w'', hfirst, -⟩ := returns_bind.mp hcall
  exact ⟨a, w'', hfirst⟩

/-! ## Failing -/

/-- `return Err(e)`. -/
def err (e : ε) : Contract ω ε α := fun w => (.error (.error e), w)

/-- The host traps. -/
def trap (t : Trap) : Contract ω ε α := fun w => (.error (.trap t), w)

/-- An error is no value. -/
@[simp] theorem returns_err {e : ε} {a : α} {w w' : ω} :
    ¬ Returns (err e : Contract ω ε α) w a w' := by
  simp [Returns, err]

/-- An error leaves the world as it meets it. -/
@[simp] theorem fails_err {e : ε} {e' : Failure ε} {w w' : ω} :
    Fails (err e : Contract ω ε α) w e' w' ↔ e' = .error e ∧ w' = w := by
  simp only [Fails, err, Prod.mk.injEq, Except.error.injEq]
  exact ⟨fun h => ⟨h.1.symm, h.2.symm⟩, fun h => ⟨h.1.symm, h.2.symm⟩⟩

/-- A trap is no value either. -/
@[simp] theorem returns_trap {t : Trap} {a : α} {w w' : ω} :
    ¬ Returns (trap t : Contract ω ε α) w a w' := by
  simp [Returns, trap]

/-- A trap leaves the world as it meets it; the rollback is made by the invocation. -/
@[simp] theorem fails_trap {t : Trap} {e : Failure ε} {w w' : ω} :
    Fails (trap t : Contract ω ε α) w e w' ↔ e = .trap t ∧ w' = w := by
  simp only [Fails, trap, Prod.mk.injEq, Except.error.injEq]
  exact ⟨fun h => ⟨h.1.symm, h.2.symm⟩, fun h => ⟨h.1.symm, h.2.symm⟩⟩

/-- `if c { return Err(e); }`. -/
def rejectIf (c : Prop) [Decidable c] (e : ε) : Contract ω ε Unit :=
  if c then err e else pure ()

/-- `o.ok_or(e)?`. -/
def okOr (o : Option α) (e : ε) : Contract ω ε α := o.elim (err e) pure

/-- `o.expect(message)`. -/
def expect (o : Option α) (message : String) : Contract ω ε α :=
  o.elim (trap (.panic message)) pure

/-- Plain `+`, which traps out of range. -/
def plus {t : IntType} (a b : MachineInt t) : Contract ω ε (MachineInt t) :=
  (a.checkedAdd b).elim (trap .overflow) pure

section Rules

variable {c : Prop} [Decidable c] {e : ε} {e' : Failure ε} {w w' : ω} {a : α} {o : Option α}

/-- A check returns when its condition does not hold, and changes nothing. -/
@[simp] theorem returns_rejectIf {u : Unit} :
    Returns (rejectIf c e : Contract ω ε Unit) w u w' ↔ ¬ c ∧ w' = w := by
  unfold rejectIf
  split <;> simp_all

/-- It fails with its error when the condition holds. -/
@[simp] theorem fails_rejectIf :
    Fails (rejectIf c e : Contract ω ε Unit) w e' w' ↔ c ∧ e' = .error e ∧ w' = w := by
  unfold rejectIf
  split <;> simp_all

/-- `ok_or` returns the value that is there. -/
@[simp] theorem returns_okOr :
    Returns (okOr o e : Contract ω ε α) w a w' ↔ o = some a ∧ w' = w := by
  cases o <;> simp [okOr, eq_comm]

/-- It fails with its error when there is none. -/
@[simp] theorem fails_okOr :
    Fails (okOr o e : Contract ω ε α) w e' w' ↔ o = none ∧ e' = .error e ∧ w' = w := by
  cases o <;> simp [okOr]

/-- `expect` returns the value that is there. -/
@[simp] theorem returns_expect {message : String} :
    Returns (expect o message : Contract ω ε α) w a w' ↔ o = some a ∧ w' = w := by
  cases o <;> simp [expect, eq_comm]

/-- It panics with its message when there is none. -/
@[simp] theorem fails_expect {message : String} :
    Fails (expect o message : Contract ω ε α) w e' w' ↔
      o = none ∧ e' = .trap (.panic message) ∧ w' = w := by
  cases o <;> simp [expect]

/-- The sum is returned when the type has it. -/
@[simp] theorem returns_plus {t : IntType} {m n r : MachineInt t} :
    Returns (plus m n : Contract ω ε (MachineInt t)) w r w' ↔
      r.val = m.val + n.val ∧ w' = w := by
  rw [← MachineInt.checkedAdd_eq_some_iff]
  unfold plus
  cases m.checkedAdd n <;> simp [eq_comm]

/-- Otherwise the addition traps. -/
@[simp] theorem fails_plus {t : IntType} {m n : MachineInt t} :
    Fails (plus m n : Contract ω ε (MachineInt t)) w e' w' ↔
      m.checkedAdd n = none ∧ e' = .trap .overflow ∧ w' = w := by
  unfold plus
  cases m.checkedAdd n <;> simp

end Rules

/-! ## The host undoes a failed call -/

/-- A top-level call: the computation runs, and the host drops every change of
one that fails. -/
def invoke (x : Contract ω ε α) (w : ω) : Except (Failure ε) α × ω :=
  match x w with
  | (.ok a, w') => (.ok a, w')
  | (.error e, _) => (.error e, w)

/-- A call that returns keeps the world that it leaves. -/
theorem invoke_of_returns {x : Contract ω ε α} {w w' : ω} {a : α} (h : Returns x w a w') :
    invoke x w = (.ok a, w') := by
  have hx : x w = (.ok a, w') := h
  simp [invoke, hx]

/-- A call that fails is rolled back. -/
theorem invoke_of_fails {x : Contract ω ε α} {w w' : ω} {e : Failure ε} (h : Fails x w e w') :
    invoke x w = (.error e, w) := by
  have hx : x w = (.error e, w') := h
  simp [invoke, hx]

end Contract

/-! ## The host interface -/

/-- The argument values passed between contracts. -/
inductive Val (Address : Type) where
  | address (a : Address)
  | i128 (x : I128)
deriving DecidableEq

/-- The host's answers during one invocation, over a rest of the chain `X`. -/
structure Env (Address X : Type) where
  /-- The address of the running contract. -/
  currentContract : Address
  /-- The ledger sequence number. -/
  sequence : U32
  /-- The ledger close time. -/
  timestamp : U64
  /-- Whether `require_auth` on an address returns. -/
  authorised : Address → Bool
  /-- `invoke_contract`: the rest of the chain after calling a function of
  another contract, or `none` when that call fails. -/
  invokeContract : (contract : Address) → (function : String) → List (Val Address) → X → Option X

/-- An invocation of `contract` that everyone has signed, in which every call into
another contract goes through without effect. -/
def openEnv {Address X : Type} (contract : Address) (sequence : U32) (timestamp : U64) :
    Env Address X where
  currentContract := contract
  sequence := sequence
  timestamp := timestamp
  authorised := fun _ => true
  invokeContract := fun _ _ _ x => some x

section Host

variable {σ X η ε Address : Type}

/-- Read from storage. -/
def loadStorage {α : Type} (f : σ → α) : Contract (World σ X η) ε α :=
  fun w => (.ok (f w.storage), w)

/-- Write to storage. -/
def updateStorage (f : σ → σ) : Contract (World σ X η) ε Unit :=
  fun w => (.ok (), { w with storage := f w.storage })

/-- `env.events().publish`. -/
def publish (event : η) : Contract (World σ X η) ε Unit :=
  fun w => (.ok (), { w with events := w.events ++ [event] })

/-- `address.require_auth()`. -/
def requireAuth (env : Env Address X) (a : Address) : Contract (World σ X η) ε Unit :=
  if env.authorised a then pure () else Contract.trap .unauthorised

/-- `env.invoke_contract`: the caller traps when the callee does not return. -/
def callContract (env : Env Address X) (contract : Address) (function : String)
    (args : List (Val Address)) : Contract (World σ X η) ε Unit := fun w =>
  match env.invokeContract contract function args w.outside with
  | some x => (.ok (), { w with outside := x })
  | none => (.error (.trap .crossCall), w)

/-- `token::Client::transfer`. -/
def tokenTransfer (env : Env Address X) (token sender recipient : Address) (amount : I128) :
    Contract (World σ X η) ε Unit :=
  callContract env token "transfer" [.address sender, .address recipient, .i128 amount]

open Contract

section Rules

variable {env : Env Address X} {w w' : World σ X η} {e : Failure ε} {u : Unit}

/-- Reading returns what is stored, and changes nothing. -/
@[simp] theorem returns_loadStorage {α : Type} {f : σ → α} {a : α} :
    Returns (loadStorage f : Contract (World σ X η) ε α) w a w' ↔ a = f w.storage ∧ w' = w := by
  simp only [Returns, loadStorage, Prod.mk.injEq, Except.ok.injEq]
  exact ⟨fun h => ⟨h.1.symm, h.2.symm⟩, fun h => ⟨h.1.symm, h.2.symm⟩⟩

/-- It never fails. -/
@[simp] theorem fails_loadStorage {α : Type} {f : σ → α} :
    ¬ Fails (loadStorage f : Contract (World σ X η) ε α) w e w' := by
  simp [Fails, loadStorage]

/-- Writing changes the storage, and nothing else. -/
@[simp] theorem returns_updateStorage {f : σ → σ} :
    Returns (updateStorage f : Contract (World σ X η) ε Unit) w u w' ↔
      w' = { w with storage := f w.storage } := by
  simp [Returns, updateStorage, eq_comm]

/-- It never fails either. -/
@[simp] theorem fails_updateStorage {f : σ → σ} :
    ¬ Fails (updateStorage f : Contract (World σ X η) ε Unit) w e w' := by
  simp [Fails, updateStorage]

/-- An event is put at the end of the log. -/
@[simp] theorem returns_publish {event : η} :
    Returns (publish event : Contract (World σ X η) ε Unit) w u w' ↔
      w' = { w with events := w.events ++ [event] } := by
  simp [Returns, publish, eq_comm]

/-- Publishing never fails. -/
@[simp] theorem fails_publish {event : η} :
    ¬ Fails (publish event : Contract (World σ X η) ε Unit) w e w' := by
  simp [Fails, publish]

/-- A signature that is there is a check that passes. -/
@[simp] theorem returns_requireAuth {a : Address} :
    Returns (requireAuth env a : Contract (World σ X η) ε Unit) w u w' ↔
      env.authorised a = true ∧ w' = w := by
  unfold requireAuth
  split <;> simp_all

/-- A signature that is missing is a trap. -/
@[simp] theorem fails_requireAuth {a : Address} :
    Fails (requireAuth env a : Contract (World σ X η) ε Unit) w e w' ↔
      env.authorised a = false ∧ e = .trap .unauthorised ∧ w' = w := by
  unfold requireAuth
  split <;> simp_all

/-- Another contract that accepts the call changes what is outside. -/
@[simp] theorem returns_callContract {contract : Address} {function : String}
    {args : List (Val Address)} :
    Returns (callContract env contract function args : Contract (World σ X η) ε Unit) w u w' ↔
      ∃ x, env.invokeContract contract function args w.outside = some x ∧
        w' = { w with outside := x } := by
  simp only [Returns, callContract]
  cases env.invokeContract contract function args w.outside <;> simp [eq_comm]

/-- One that refuses it traps the caller. -/
@[simp] theorem fails_callContract {contract : Address} {function : String}
    {args : List (Val Address)} :
    Fails (callContract env contract function args : Contract (World σ X η) ε Unit) w e w' ↔
      env.invokeContract contract function args w.outside = none ∧
        e = .trap .crossCall ∧ w' = w := by
  simp only [Fails, callContract]
  cases env.invokeContract contract function args w.outside <;> simp [eq_comm]

end Rules

end Host
end Soroban
