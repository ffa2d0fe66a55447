import StellarConduit.Protocol.Safety

/-!
# What no entry point pays out

`slash` takes a node's stake and its pending unstake from the books and leaves the tokens where
they are, and so does `allocate` with a part of the treasury's balance.  Payouts are made from
the books, so the tokens that have left them stay with their contract.

The amounts are read off what the contracts publish.  A slash is announced with its amount, and
`slashedTotal` is the sum over the registry's events; what the treasury has allocated is one of
its lifetime totals.  The invariant has the same shape for both: what is owed, together with
what has been set aside, is covered by the tokens held.  A payout lowers what is owed and what
is held by the same amount, a slash or an allocation moves an amount from the first summand to
the second, and no call lowers the second.

## Main definitions

* `RelayRegistry.Frozen`, `Treasury.Frozen` — what is owed and what is set aside is all there.

## Main results

* `frozen_call` — for each of the two contracts, a call that returns sets such tokens aside and
  never touches what has been set aside.
* `frozen_kept` — all that has been slashed or allocated is still there, beyond what is owed.
-/

namespace StellarConduit.RelayRegistry

open Soroban Contract

/-- What an event announces as slashed. -/
def Event.slashed {Address : Type} : Event Address → Int
  | .slash _ slashedAmount => slashedAmount.val
  | _ => 0

/-- What has been announced as slashed. -/
def slashedTotal {Address : Type} (events : List (Event Address)) : Int :=
  (events.map Event.slashed).sum

/-- An event adds what it announces as slashed. -/
@[simp] theorem slashedTotal_append {Address : Type} (events : List (Event Address))
    (e : Event Address) : slashedTotal (events ++ [e]) = slashedTotal events + e.slashed := by
  simp [slashedTotal]

variable {Address : Type} [DecidableEq Address]

section Calls

variable {X : Type} {env : Env Address X} {w w' : State Address X}

/-- Slashes are announced by `slash`. -/
theorem slashedTotal_call {c : Call Address} {v : Value Address}
    (h : Returns (dispatch env c) w v w') (other : ∀ a reason, c ≠ .slash a reason) :
    slashedTotal w'.events = slashedTotal w.events := by
  cases ran_of_returns h with
  | initializeContract hcall =>
      obtain ⟨-, -, -, -, rfl⟩ := returns_initializeContract.mp hcall
      rfl
  | register hcall =>
      obtain ⟨-, -, -, count, -, rfl⟩ := returns_register.mp hcall
      simp [Event.slashed]
  | updateMetadata hcall =>
      obtain ⟨-, node, -, -, rfl⟩ := returns_updateMetadata.mp hcall
      simp [Event.slashed]
  | stake hcall =>
      obtain ⟨-, node, -, -, -, newStake, -, t, -, x, -, rfl⟩ := returns_stake.mp hcall
      simp [Event.slashed]
  | unstake hcall =>
      obtain ⟨-, -, node, -, -, unlockAfter, -, -, newStake, -, rfl, -⟩ :=
        returns_unstake.mp hcall
      simp [Event.slashed]
  | finalizeUnstake hcall =>
      obtain ⟨-, entry, -, -, t, -, x, -, -, rfl⟩ := returns_finalizeUnstake.mp hcall
      simp [Event.slashed]
  | @slash a reason _ hcall => exact absurd rfl (other a reason)
  | reinstateNode hcall =>
      obtain ⟨-, node, -, -, rfl⟩ := returns_reinstateNode.mp hcall
      simp [Event.slashed]
  | getNode => rfl
  | isActive => rfl

/-- A slash announces what it takes from the books. -/
theorem slashedTotal_slash {a : Address} {reason : HostString}
    (h : Returns (slash env a reason) w () w') :
    obligations w'.storage + slashedTotal w'.events =
        obligations w.storage + slashedTotal w.events ∧
      w'.outside = w.outside := by
  obtain ⟨-, node, hnode, -, slashedAmount, hslashed, hw'⟩ := returns_slash.mp h
  have owed : obligations w'.storage + holdings a w.storage =
      obligations w.storage + holdings a w'.storage := by
    refine obligations_add_holdings a (fun n hn => ?_) (fun n hn => ?_)
    · rw [hw', Store.get_set_of_ne _ _ hn]
    · rw [hw', Store.get_remove_of_ne _ hn]
  have before : holdings a w.storage = slashedAmount.val := by
    rw [holdings, hnode, hslashed]
    rfl
  have after : holdings a w'.storage = 0 := by
    simp [holdings, hw', stakeAmount, pendingAmount, RelayNode.afterSlash]
  have announced : slashedTotal w'.events = slashedTotal w.events + slashedAmount.val := by
    rw [hw', slashedTotal_append]
    rfl
  exact ⟨by omega, by rw [hw']⟩

end Calls

variable {registry token : Address} {council : AdminCouncil Address} {minStake : I128}
  {stakeLockPeriod : U32} {w w' : State Address (Balances Address)}

/-- The registry is solvent, and what has been slashed is set aside. -/
structure Frozen (registry token : Address) (council : AdminCouncil Address) (minStake : I128)
    (stakeLockPeriod : U32) (w : State Address (Balances Address)) : Prop where
  /-- What is owed is covered, -/
  solvent : Solvent registry token council minStake stakeLockPeriod w
  /-- with room for all that was slashed. -/
  aside : obligations w.storage + slashedTotal w.events ≤ w.outside registry

/-- A call that returns pays out nothing that has been slashed. -/
theorem frozen_call {env : Env Address (Balances Address)}
    (inv : Frozen registry token council minStake stakeLockPeriod w)
    (tokens : TokenEnv registry token env) {c : Call Address} {v : Value Address}
    (h : Returns (dispatch env c) w v w') :
    Frozen registry token council minStake stakeLockPeriod w' where
  solvent := solvent_call inv.solvent tokens h
  aside := by
    have aside := inv.aside
    by_cases slashes : ∃ a reason, c = .slash a reason
    · obtain ⟨a, reason, rfl⟩ := slashes
      obtain ⟨_, hcall, -⟩ := returns_bind_pure.mp h
      obtain ⟨same, outside⟩ := slashedTotal_slash hcall
      rw [same, outside]
      exact aside
    · have quiet := slashedTotal_call h fun a reason hc => slashes ⟨a, reason, hc⟩
      have owed := obligations_call inv.solvent tokens h
      omega

end StellarConduit.RelayRegistry

namespace StellarConduit.Treasury

open Soroban Contract

variable {Address : Type} [DecidableEq Address] {treasury token : Address}
  {w w' : State Address (Balances Address)}

/-- What `get_treasury_stats` answers for the lifetime allocations. -/
def lifetimeAllocated (s : Storage Address) : Int :=
  (s.stats.getD TreasuryStats.zero).lifetimeAllocated.val

/-- The treasury is initialized, and what has been allocated is set aside. -/
structure Frozen (treasury token : Address) (w : State Address (Balances Address)) : Prop where
  /-- There are a council and the token. -/
  initialized : Initialized token w.storage
  /-- The balance and all that was allocated are held. -/
  aside : (w.storage.balance.getD 0).val + lifetimeAllocated w.storage ≤ w.outside treasury

/-- A call that returns pays out nothing that has been allocated. -/
theorem frozen_call {env : Env Address (Balances Address)} (inv : Frozen treasury token w)
    (tokens : TokenEnv treasury token env) {c : Call Address} {v : Value Address}
    (h : Returns (dispatch env c) w v w') : Frozen treasury token w' := by
  have aside := inv.aside
  have known := inv.initialized.tokenAddress
  cases outcome_of_returns inv.initialized.adminCouncil h with
  | @deposit fromAddress amount _ hcall =>
      obtain ⟨hauth, -, newBalance, hbalance, deposited, -, nextId, -, t, ht, b, htransfer, rfl⟩ :=
        returns_deposit.mp hcall
      obtain rfl : token = t := Option.some.inj (known.symm.trans ht)
      rw [tokens.current] at htransfer
      have held : b treasury = w.outside treasury + amount.val := by
        rw [tokens.transfer htransfer, Balances.move_of_ne_sender (tokens.ne_holder hauth),
          if_pos rfl]
      refine ⟨⟨inv.initialized.adminCouncil, known⟩, ?_⟩
      simp only [lifetimeAllocated, Option.getD_some] at aside ⊢
      omega
  | @withdraw toAddress amount memo _ hcall =>
      obtain ⟨-, positive, -, newBalance, hbalance, withdrawn, -, nextId, -, t, ht, b, htransfer,
        rfl⟩ := returns_withdraw.mp hcall
      obtain rfl : token = t := Option.some.inj (known.symm.trans ht)
      rw [tokens.current] at htransfer
      -- A withdrawal to the treasury itself moves nothing.
      have held : w.outside treasury - amount.val ≤ b treasury := by
        rw [tokens.transfer htransfer, Balances.move]
        split <;> omega
      refine ⟨⟨inv.initialized.adminCouncil, known⟩, ?_⟩
      simp only [lifetimeAllocated, Option.getD_some] at aside ⊢
      omega
  | @allocate id amount _ hcall =>
      obtain ⟨-, -, program, -, -, newSpent, -, -, -, newBalance, hbalance, allocated, hallocated,
        nextId, -, rfl⟩ := returns_allocate.mp hcall
      refine ⟨⟨inv.initialized.adminCouncil, known⟩, ?_⟩
      simp only [lifetimeAllocated, Option.getD_some] at aside ⊢
      omega
  | other quiet kept =>
      refine ⟨⟨kept.adminCouncil ▸ inv.initialized.adminCouncil, kept.tokenAddress ▸ known⟩, ?_⟩
      rw [lifetimeAllocated, kept.balance, kept.stats, kept.outside]
      exact aside

end StellarConduit.Treasury

namespace StellarConduit.Protocol

open Soroban Contract Machine

variable {Address : Type} [DecidableEq Address] {chain : Chain Address}
  {settings : Settings Address} {s : State Address}

/-- **What has been slashed or allocated stays where it is.**  In every state that a launched
system reaches, the registry holds all that its slashes have announced beyond what it owes its
nodes, and the treasury holds all its lifetime allocations beyond its balance. -/
theorem frozen_kept (ed25519 : DisputeResolver.Ed25519) (launched : Launched chain settings s)
    (as : List (Action chain)) :
    let reached := (machine ed25519 chain).run s as
    RelayRegistry.obligations reached.registry.storage +
        RelayRegistry.slashedTotal reached.registry.events ≤ reached.tokens chain.registry ∧
      (reached.treasury.storage.balance.getD 0).val +
        Treasury.lifetimeAllocated reached.treasury.storage ≤ reached.tokens chain.treasury := by
  intro reached
  constructor
  · have start : RelayRegistry.Frozen chain.registry chain.token settings.registryCouncil
        settings.minStake settings.stakeLockPeriod s.registryWorld := by
      obtain ⟨w, u, h, hworld⟩ := launched.registry
      -- At the launch nothing has been slashed, so the books alone have to be covered.
      have quiet : s.registryWorld.events = [] := by
        obtain ⟨-, -, -, rfl⟩ := RelayRegistry.returns_initializeContract_freshState.mp h
        rw [hworld]
        rfl
      refine ⟨launched.solvent, ?_⟩
      rw [quiet]
      exact (add_zero _).trans_le launched.solvent.covered
    have frozen := takes_tokens
      (RelayRegistry.Frozen chain.registry chain.token settings.registryCouncil settings.minStake
        settings.stakeLockPeriod)
      (fun _ _ _ _ _ tokens inv => RelayRegistry.frozen_call inv tokens)
      (fun _ _ more inv => ⟨⟨inv.solvent.wellFormed, inv.solvent.tokenAddress,
        inv.solvent.covered.trans more⟩, inv.aside.trans more⟩)
      (registry_run ed25519 s as) start
    exact frozen.aside
  · have start : Treasury.Frozen chain.treasury chain.token s.treasury := by
      obtain ⟨u, h⟩ := launched.treasury
      -- Nor has anything been allocated, and the balance is zero.
      have held := launched.treasuryTokens
      rw [(Treasury.returns_initializeContract_freshState.mp h).2]
      exact ⟨⟨rfl, rfl⟩, held⟩
    have frozen := takes_tokens (Treasury.Frozen chain.treasury chain.token)
      (fun _ _ _ _ _ tokens inv => Treasury.frozen_call inv tokens)
      (fun _ _ more inv => ⟨inv.initialized, inv.aside.trans more⟩)
      (treasury_run ed25519 s as) start
    exact frozen.aside

/-- Relay 10 stakes 300 and is slashed; of the 5 that its batch has brought the treasury, 3 are
allocated. -/
def slashAndAllocate : List (Action sampleChain) :=
  [.registry (sampleTx 5) (.register 10 ⟨HostString.fromStr "eu", 10, 99⟩),
    .registry (sampleTx 5) (.stake 10 300),
    .distributor (sampleTx 6) (.distribute 10 1 10000),
    .registry (sampleTx 7) (.slash 10 (HostString.fromStr "fraud")),
    .treasury (sampleTx 8) (.createProgram (HostString.fromStr "grants") 4),
    .treasury (sampleTx 8) (.allocate 1 3)]

/-- The registry keeps the 300, and the treasury all 5. -/
theorem frozen_kept_slashAndAllocate :
    let reached := (machine DisputeResolver.sampleEd25519 sampleChain).run sampleState
      slashAndAllocate
    300 ≤ reached.tokens 4 ∧ 5 ≤ reached.tokens 2 := by
  intro reached
  obtain ⟨registry, treasury⟩ :=
    frozen_kept DisputeResolver.sampleEd25519 sample_launched slashAndAllocate
  have slashed : RelayRegistry.slashedTotal reached.registry.events = 300 := by decide +kernel
  have owed : RelayRegistry.obligations reached.registry.storage = 0 := by decide +kernel
  have balance : (reached.treasury.storage.balance.getD 0).val = 2 := by decide +kernel
  have allocated : Treasury.lifetimeAllocated reached.treasury.storage = 3 := by decide +kernel
  rw [slashed, owed] at registry
  rw [balance, allocated] at treasury
  exact ⟨registry, treasury⟩

end StellarConduit.Protocol
