import StellarConduit.Protocol.Consent
import StellarConduit.RelayRegistry.Exit

/-!
# The way out of the system

An active node that takes out a part of its stake waits for the lock period, while everybody
else goes on.  The entry of its pending unstake is moved by nobody but the council, and the
registry stays solvent, so the tokens arrive.

The proof puts three results together.  `unstake` leaves an entry with the amount and the time
at which it unlocks.  While the node signs nothing and is not disciplined, the entry stays as it
is, by `records_run`, and the node's tokens are not taken, by `tokens_kept`; `waiting_run` says
both at once.  And in the state in which the node comes back, the registry can pay what it owes,
since every state of a launched system is solvent.

It is a guarantee against everybody else in the system, with every interleaving of their calls.
It is none against the council, nor against the node's own transactions, which may unstake again
and lose what is pending; both are excluded by hypothesis.

## Main results

* `waiting_run` — the entry and the tokens of a node that waits.
* `exit_guaranteed` — the node is paid when the lock period is over.
-/

namespace StellarConduit.RelayRegistry

open Soroban Contract

/-- What an accepted unstake leaves pending. -/
theorem unstake_pending {Address X : Type} [DecidableEq Address] {env : Env Address X}
    {w : State Address X} {a : Address} {amount : I128}
    (accepted : UnstakeAccepted env w a amount) :
    ∃ node w' entry, Returns (unstake env a amount) w node w' ∧
      w'.storage.lockEntry.get a = some entry ∧ entry.amount = amount ∧
      entry.unlocksAt.val = env.timestamp.val + (w.storage.stakeLockPeriod.getD 0).val ∧
      w'.outside = w.outside := by
  obtain ⟨node, w', h⟩ := unstake_returns_iff.mpr accepted
  obtain ⟨-, -, _, -, -, unlockAfter, unlocks, -, _, -, rfl, -⟩ := returns_unstake.mp h
  exact ⟨node, _, _, h, Store.get_set_self _ _ _, rfl, unlocks, rfl⟩

/-- What `finalize_unstake` takes from the registry, the node receives. -/
theorem finalizeUnstake_receives {Address : Type} [DecidableEq Address] {registry token : Address}
    {env : Env Address (Balances Address)} {w w' : State Address (Balances Address)} {a : Address}
    {amount : I128} (tokens : TokenEnv registry token env)
    (known : w.storage.tokenAddress = some token)
    (h : Returns (finalizeUnstake env a) w amount w') :
    w'.outside a = w.outside a + amount.val := by
  obtain ⟨signed, entry, -, -, t, ht, b, htransfer, rfl, rfl⟩ := returns_finalizeUnstake.mp h
  obtain rfl : token = t := Option.some.inj (known.symm.trans ht)
  rw [tokens.current] at htransfer
  show b a = w.outside a + entry.amount.val
  rw [tokens.transfer htransfer, Balances.move_of_ne_sender (tokens.ne_holder signed).symm,
    if_pos rfl]

end StellarConduit.RelayRegistry

namespace StellarConduit.Protocol

open Soroban Contract Machine

variable {Address : Type} [DecidableEq Address] {chain : Chain Address}
  {settings : Settings Address} {s : State Address} {a : Address}

omit [DecidableEq Address] in
/-- Whoever signs a transaction is none of the contracts. -/
theorem Tx.outsider {tx : Tx chain} (signed : tx.authorised none a = true) : chain.Outsider a := by
  have other {b : Address} (unsigned : tx.authorised none b = false) : a ≠ b := by
    rintro rfl
    rw [unsigned] at signed
    cases signed
  exact ⟨other tx.unsigned, other (tx.treasury_own none nofun), other (tx.registry_own none nofun)⟩

/-- While a node signs nothing and the council leaves it alone, it loses neither its pending
unstake nor tokens. -/
theorem waiting_run (ed25519 : DisputeResolver.Ed25519)
    (accepted : ¬ settings.registryCouncil.Invalid) (inOrder : InOrder settings s)
    (outsider : chain.Outsider a) {bs : List (Action chain)}
    (unsigned : ∀ action ∈ bs, ¬ action.SignedBy a)
    (undisciplined : ∀ action ∈ bs, ¬ action.Disciplines settings.registryCouncil a) :
    ((machine ed25519 chain).run s bs).registry.storage.lockEntry.get a =
        s.registry.storage.lockEntry.get a ∧
      s.tokens a ≤ ((machine ed25519 chain).run s bs).tokens a := by
  refine ((machine ed25519 chain).run_invariant_of
    (fun t => InOrder settings t ∧
      t.registry.storage.lockEntry.get a = s.registry.storage.lockEntry.get a ∧
      s.tokens a ≤ t.tokens a)
    (fun r => ¬ r.action.SignedBy a ∧ ¬ r.action.Disciplines settings.registryCouncil a)
    ?_ ⟨inOrder, rfl, le_rfl⟩ fun r hr => ?_).2
  · rintro t action ⟨free, left⟩ ⟨inOrder, entry, tokens⟩
    have same := (records_step ed25519 accepted inOrder free left).2
    exact ⟨inOrder_step t action inOrder, same.trans entry,
      tokens.trans (tokens_step action (outsider.not_charges free))⟩
  · have mem := (machine ed25519 chain).action_mem_of_mem_trace hr
    exact ⟨unsigned r.action mem, undisciplined r.action mem⟩

/-- The step of a call of the registry that returns. -/
theorem step_registry (ed25519 : DisputeResolver.Ed25519) {tx : Tx chain}
    {c : RelayRegistry.Call Address} {v : RelayRegistry.Value Address}
    {w : RelayRegistry.State Address (Balances Address)}
    (h : Returns (RelayRegistry.dispatch tx.registryEnv c) s.registryWorld v w) :
    (machine ed25519 chain).step s (.registry tx c) =
      (.registry (some (.ok v)), s.afterRegistry w) :=
  congrArg (Prod.map Reply.registry s.afterRegistry)
    (Deployed.step_of_returns RelayRegistry.dispatch RelayRegistry.provide h)

/-- **The way out is open whatever the others do.** An active node can take out any part of its
stake.  If it signs nothing from then on, and the council neither slashes nor reinstates it, then
once the lock period is over `finalize_unstake` pays this amount, on top of all the tokens that it
had before.  Of the token it is assumed that it moves tokens by transfers only, and that in the
transaction of the payout it pays what the registry has (`Tx.Pays`). -/
theorem exit_guaranteed (ed25519 : DisputeResolver.Ed25519) (launched : Launched chain settings s)
    (as : List (Action chain)) {bs : List (Action chain)}
    {node : RelayRegistry.RelayNode Address} {amount : I128} {tx tx' : Tx chain}
    (hnode : ((machine ed25519 chain).run s as).registry.storage.relayNode.get a = some node)
    (active : node.status = .active) (positive : 0 < amount.val)
    (enough : amount.val ≤ node.stake.val) (signed : tx.authorised none a = true)
    (unsigned : ∀ action ∈ bs, ¬ action.SignedBy a)
    (undisciplined : ∀ action ∈ bs, ¬ action.Disciplines settings.registryCouncil a)
    (signed' : tx'.authorised none a = true) (pays : tx'.Pays chain.registry)
    (due : tx.timestamp.val + settings.stakeLockPeriod.val ≤ tx'.timestamp.val) :
    let reached := (machine ed25519 chain).run s as
    let leaving := (machine ed25519 chain).step reached (.registry tx (.unstake a amount))
    let waited := (machine ed25519 chain).run leaving.2 bs
    let left := (machine ed25519 chain).step waited (.registry tx' (.finalizeUnstake a))
    (∃ node', leaving.1 = .registry (some (.ok (.node node')))) ∧
      left.1 = .registry (some (.ok (.amount amount))) ∧
      reached.tokens a + amount.val ≤ left.2.tokens a := by
  intro reached leaving waited left
  have outsider : chain.Outsider a := Tx.outsider signed
  have inOrder : InOrder settings reached := inOrder_run ed25519 launched as
  have period : (reached.registry.storage.stakeLockPeriod.getD 0).val =
      settings.stakeLockPeriod.val := by
    rw [inOrder.registry.stakeLockPeriod]
    rfl
  -- The unlock time is no later than the time of the second transaction, so it fits.
  have unstakes : RelayRegistry.UnstakeAccepted tx.registryEnv reached.registryWorld a amount :=
    { authorised := signed
      positive := positive
      enough := ⟨node, hnode, active, enough⟩
      unlocks := period ▸ due.trans tx'.timestamp.le_max }
  obtain ⟨node', w, entry, h, hentry, rfl, unlocks, outside⟩ :=
    RelayRegistry.unstake_pending unstakes
  have hleaving : leaving = (.registry (some (.ok (.node node'))), reached.afterRegistry w) :=
    step_registry ed25519 (returns_bind_pure.mpr ⟨node', h, rfl⟩)
  obtain ⟨kept, tokens⟩ := waiting_run ed25519 launched.accepted
    (inOrder_step reached (.registry tx (.unstake a entry.amount)) inOrder) outsider unsigned
    undisciplined
  have found : waited.registry.storage.lockEntry.get a = some entry := by
    refine kept.trans ?_
    rw [← hentry]
    exact congrArg (fun r => r.2.registry.storage.lockEntry.get a) hleaving
  have held : reached.tokens a ≤ waited.tokens a :=
    calc reached.tokens a
      _ = w.outside a := (congrArg (fun b => b a) outside).symm
      _ = leaving.2.tokens a := (congrArg (fun r => r.2.tokens a) hleaving).symm
      _ ≤ waited.tokens a := tokens
  have solvent : RelayRegistry.Solvent chain.registry chain.token settings.registryCouncil
      settings.minStake settings.stakeLockPeriod waited.registryWorld := by
    have reachable := solvent_run ed25519 launched
      (as ++ .registry tx (.unstake a entry.amount) :: bs)
    rw [Machine.run_append] at reachable
    exact reachable
  obtain ⟨w', h'⟩ := RelayRegistry.finalizeUnstake_returns solvent (tokenEnv_registry tx')
    pays.covered_registry signed' found (unlocks.trans_le (period ▸ due))
  have hleft : left = (.registry (some (.ok (.amount entry.amount))), waited.afterRegistry w') :=
    step_registry ed25519 (returns_bind_pure.mpr ⟨entry.amount, h', rfl⟩)
  have received := RelayRegistry.finalizeUnstake_receives (tokenEnv_registry tx')
    solvent.tokenAddress h'
  refine ⟨⟨node', congrArg Prod.fst hleaving⟩, congrArg Prod.fst hleft, ?_⟩
  calc reached.tokens a + entry.amount.val
    _ ≤ waited.tokens a + entry.amount.val := add_le_add_left held entry.amount.val
    _ = w'.outside a := received.symm
    _ = left.2.tokens a := (congrArg (fun r => r.2.tokens a) hleft).symm

/-- Relay 10 takes 50 of its 300 out at time 7, and is paid at time 20. -/
theorem exit_guaranteed_outsiderActions :
    let m := machine DisputeResolver.sampleEd25519 sampleChain
    let leaving := m.step (m.run sampleState (sampleActions.take 3))
      (.registry (sampleTx 7) (.unstake 10 50))
    (m.step (m.run leaving.2 outsiderActions) (.registry (sampleTx 20) (.finalizeUnstake 10))).1 =
      .registry (some (.ok (.amount 50))) := by
  intro m leaving
  have hnode : (m.run sampleState (sampleActions.take 3)).registry.storage.relayNode.get 10 =
      some ⟨10, 300, .active, ⟨HostString.fromStr "eu", 10, 99⟩, 5, 5⟩ := by
    decide +kernel
  have pays : (sampleTx 20).Pays sampleChain.registry :=
    fun _ _ _ positive enough => decide_eq_true ⟨positive.le, enough⟩
  exact (exit_guaranteed DisputeResolver.sampleEd25519 sample_launched (sampleActions.take 3)
    hnode rfl (by decide) (by decide) rfl outsiderActions_unsigned outsiderActions_undisciplined
    rfl pays (by decide)).2.1

end StellarConduit.Protocol
