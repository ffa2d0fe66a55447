import StellarConduit.RelayRegistry.StakeLedger
import StellarConduit.Soroban.Custody

/-!
# The registry can pay

The registry holds one pile of tokens for all its nodes.  What it owes them is the
sum of all stakes and all pending unstakes; the pile covers it at all times,
because `stake` adds to both sides alike, `finalize_unstake` takes from both alike,
and whatever else happens only lets the registry owe less.

`Solvent` holds this together with the invariant about the records, by which no amount is
negative.  So one pending unstake is at most the sum of all of them, and a single payout is
covered if the sum is; and a slash, which sets two amounts to zero, only lowers what is owed.
The steps of the token and of others enter by `TokenStep`: what they do
outside may add to the pile and does not take from it.

## Main definitions

* `obligations` — what the registry owes.
* `Solvent` — it holds at least that.

## Main results

* `solvent_call` — a call that returns keeps the registry solvent.
* `registry_solvent` — the registry is solvent in every reached state, and a
  payout that is due goes through.
-/

namespace StellarConduit.RelayRegistry

open Soroban Contract

section Obligations

variable {Address : Type}

/-- All stakes and all pending unstakes: what the registry owes its nodes. -/
def obligations (s : Storage Address) : Int :=
  (s.relayNode.sum fun _ n => n.stake.val) + s.lockEntry.sum fun _ e => e.amount.val

variable {s s' : Storage Address}

/-- What one node is owed is part of what all are owed. -/
theorem holdings_le_obligations (amounts : Amounts s) (n : Address) :
    holdings n s ≤ obligations s := by
  have stakes : stakeAmount (s.relayNode.get n) ≤ s.relayNode.sum fun _ n => n.stake.val :=
    Store.term_le_sum (stakeAmount_nonneg amounts) n
  have pending : pendingAmount (s.lockEntry.get n) ≤ s.lockEntry.sum fun _ e => e.amount.val :=
    Store.term_le_sum (pendingAmount_nonneg amounts) n
  exact add_le_add stakes pending

/-- One pending unstake is part of the sum. -/
theorem pendingAmount_le_obligations (amounts : Amounts s) (n : Address) :
    pendingAmount (s.lockEntry.get n) ≤ obligations s :=
  (le_add_of_nonneg_left (stakeAmount_nonneg amounts n)).trans (holdings_le_obligations amounts n)

variable [DecidableEq Address]

/-- States that differ in what is held for one node differ by it in what is owed. -/
theorem obligations_add_holdings (a : Address)
    (stakes : ∀ b, b ≠ a → stakeAmount (s'.relayNode.get b) = stakeAmount (s.relayNode.get b))
    (entries : ∀ b, b ≠ a → s'.lockEntry.get b = s.lockEntry.get b) :
    obligations s' + holdings a s = obligations s + holdings a s' := by
  have nodes := Store.sum_add_term (fun _ (n : RelayNode Address) => n.stake.val) a stakes
  have lockTerms : ∀ b, b ≠ a → s'.lockEntry.term (fun _ e => e.amount.val) b =
      s.lockEntry.term (fun _ e => e.amount.val) b :=
    fun b hb => by rw [Store.term, Store.term, entries b hb]
  have locks := Store.sum_add_term _ a lockTerms
  rw [obligations, obligations, holdings, holdings]
  simp only [Store.term] at nodes locks
  simp only [stakeAmount, pendingAmount]
  omega

end Obligations

section Solvency

variable {Address : Type} [DecidableEq Address] {registry token : Address}
  {council : AdminCouncil Address} {minStake : I128} {stakeLockPeriod : U32}

/-- The registry is well formed, knows its token, and holds what it owes. -/
structure Solvent (registry token : Address) (council : AdminCouncil Address) (minStake : I128)
    (stakeLockPeriod : U32) (w : State Address (Balances Address)) : Prop where
  /-- The records are in order. -/
  wellFormed : Invariant council minStake stakeLockPeriod w.storage
  /-- The token is known. -/
  tokenAddress : w.storage.tokenAddress = some token
  /-- What is owed is held. -/
  covered : obligations w.storage ≤ w.outside registry

variable {env : Env Address (Balances Address)} {w w' : State Address (Balances Address)}

/-- A call that returns changes what is owed by no more than the registry's
balance. -/
theorem obligations_call (inv : Solvent registry token council minStake stakeLockPeriod w)
    (tokens : TokenEnv registry token env) {c : Call Address} {v : Value Address}
    (h : Returns (dispatch env c) w v w') :
    obligations w'.storage - w'.outside registry ≤ obligations w.storage - w.outside registry := by
  have flow := holdings_call inv.wellFormed h
  have initialized : w.storage.adminCouncil.isSome := by rw [inv.wellFormed.adminCouncil]; rfl
  cases outcome_of_returns initialized h with
  | @stake a amount _ _ hcall =>
      obtain ⟨hauth, node, -, -, -, newStake, -, t, ht, b, htransfer, hw'⟩ :=
        returns_stake.mp hcall
      obtain rfl : token = t := Option.some.inj (inv.tokenAddress.symm.trans ht)
      have owed : obligations w'.storage + holdings a w.storage =
          obligations w.storage + holdings a w'.storage := by
        refine obligations_add_holdings a (fun n hn => ?_) (fun n hn => ?_)
        · rw [hw', Store.get_set_of_ne _ _ hn]
        · rw [hw']
      -- The stake comes from the node, who is not the registry.
      have outside : w'.outside = w.outside.move a registry amount.val := by
        rw [tokens.current] at htransfer
        rw [hw']
        exact tokens.transfer htransfer
      have held : w'.outside registry = w.outside registry + amount.val := by
        rw [outside, Balances.move_of_ne_sender (tokens.ne_holder hauth), if_pos rfl]
      have flow := flow a
      rw [netFlow_call] at flow
      simp only [if_true] at flow
      omega
  | @unstake a amount _ _ _ hcall =>
      obtain ⟨-, -, node, -, -, unlockAfter, -, -, newStake, -, hw', -⟩ := returns_unstake.mp hcall
      have owed : obligations w'.storage + holdings a w.storage =
          obligations w.storage + holdings a w'.storage := by
        refine obligations_add_holdings a (fun n hn => ?_) (fun n hn => ?_)
        · rw [hw', Store.get_set_of_ne _ _ hn]
        · rw [hw', Store.get_set_of_ne _ _ hn]
      have outside : w'.outside = w.outside := by rw [hw']
      have pending := pendingAmount_nonneg inv.wellFormed.amounts a
      have flow := flow a
      rw [netFlow_call] at flow
      simp only [if_true] at flow
      rw [outside]
      omega
  | @finalizeUnstake a amount _ hcall =>
      obtain ⟨hauth, entry, -, -, t, ht, b, htransfer, rfl, hw'⟩ :=
        returns_finalizeUnstake.mp hcall
      obtain rfl : token = t := Option.some.inj (inv.tokenAddress.symm.trans ht)
      have owed : obligations w'.storage + holdings a w.storage =
          obligations w.storage + holdings a w'.storage := by
        refine obligations_add_holdings a (fun n hn => ?_) (fun n hn => ?_)
        · rw [hw']
        · rw [hw', Store.get_remove_of_ne _ hn]
      have outside : w'.outside = w.outside.move registry a entry.amount.val := by
        rw [tokens.current] at htransfer
        rw [hw']
        exact tokens.transfer htransfer
      have held : w'.outside registry = w.outside registry - entry.amount.val := by
        rw [outside, Balances.move_sender (tokens.ne_holder hauth)]
      have flow := flow a
      rw [netFlow_call] at flow
      simp only [if_true] at flow
      omega
  | @slash a _ _ _ hcall =>
      obtain ⟨-, node, -, -, slashedAmount, -, hw'⟩ := returns_slash.mp hcall
      have owed : obligations w'.storage + holdings a w.storage =
          obligations w.storage + holdings a w'.storage := by
        refine obligations_add_holdings a (fun n hn => ?_) (fun n hn => ?_)
        · rw [hw', Store.get_set_of_ne _ _ hn]
        · rw [hw', Store.get_remove_of_ne _ hn]
      have outside : w'.outside = w.outside := by rw [hw']
      have held := holdings_nonneg inv.wellFormed.amounts a
      have flow := flow a
      rw [netFlow_call] at flow
      simp only [if_true] at flow
      rw [outside]
      omega
  | other quiet kept =>
      have stakes : w'.storage.relayNode.sum (fun _ n => n.stake.val) =
          w.storage.relayNode.sum fun _ n => n.stake.val :=
        Store.sum_congr_term _ kept.stake
      rw [obligations, obligations, stakes, kept.lockEntry, kept.outside]

/-- A call that returns keeps the registry solvent. -/
theorem solvent_call (inv : Solvent registry token council minStake stakeLockPeriod w)
    (tokens : TokenEnv registry token env) {c : Call Address} {v : Value Address}
    (h : Returns (dispatch env c) w v w') :
    Solvent registry token council minStake stakeLockPeriod w' where
  wellFormed := invariant_call inv.wellFormed h
  tokenAddress := by
    have initialized : w.storage.adminCouncil.isSome := by rw [inv.wellFormed.adminCouncil]; rfl
    rw [(outcome_of_returns initialized h).tokenAddress, inv.tokenAddress]
  covered := by
    have owed := obligations_call inv tokens h
    have covered := inv.covered
    omega

/-- A payout that is due goes through when the registry is solvent. -/
theorem finalizeUnstake_returns
    (inv : Solvent registry token council minStake stakeLockPeriod w)
    (tokens : TokenEnv registry token env) (covered : Covered registry token env) {a : Address}
    (authorised : env.authorised a = true) {entry : StakeEntry Address}
    (hentry : w.storage.lockEntry.get a = some entry)
    (unlocked : entry.unlocksAt.val ≤ env.timestamp.val) :
    ∃ w', Returns (finalizeUnstake env a) w entry.amount w' := by
  have owed := pendingAmount_le_obligations inv.wellFormed.amounts a
  rw [hentry] at owed
  have enough : entry.amount.val ≤ w.outside registry := le_trans owed inv.covered
  obtain ⟨b, htransfer⟩ := covered a entry.amount w.outside
    (inv.wellFormed.entry a entry hentry).2.2 enough
  rw [← tokens.current] at htransfer
  exact ⟨_, returns_finalizeUnstake.mpr ⟨authorised, entry, hentry, unlocked, token,
    inv.tokenAddress, b, htransfer, rfl, rfl⟩⟩

/-- The registry after its token address has been set. -/
def withToken {X : Type} (token : Address) (w : State Address X) : State Address X :=
  (machine.step w (.provision (.setTokenAddress token))).2

/-- **The registry is solvent in every reachable state.**  Its token balance is at
least the sum of all stakes and all pending unstakes, and `finalize_unstake` of an
unlocked entry returns when the token pays what the registry has. -/
theorem registry_solvent {b : Balances Address} {w : State Address (Balances Address)} {u : Unit}
    (h : Returns (initializeContract council minStake stakeLockPeriod) (freshState b) u w)
    (start : 0 ≤ b registry)
    {as : List (Action Address (Balances Address) (Call Address) (Provision Address))}
    (tokens : ∀ r ∈ machine.trace (withToken token w) as,
      TokenStep registry token (fun held held' => held ≤ held') r) :
    let reached := machine.run (withToken token w) as
    ((reached.storage.relayNode.sum fun _ n => n.stake.val) +
        reached.storage.lockEntry.sum fun _ e => e.amount.val) ≤ reached.outside registry ∧
      ∀ env a entry, TokenEnv registry token env → Covered registry token env →
        env.authorised a = true → reached.storage.lockEntry.get a = some entry →
        entry.unlocksAt.val ≤ env.timestamp.val →
          ∃ w', Returns (finalizeUnstake env a) reached entry.amount w' := by
  intro reached
  have initial : Solvent registry token council minStake stakeLockPeriod (withToken token w) := by
    have inv := invariant_initializeContract h
    obtain ⟨-, -, -, rfl⟩ := returns_initializeContract_freshState.mp h
    exact
      { wellFormed := invariant_provide inv
        tokenAddress := rfl
        covered := start }
  have inv : Solvent registry token council minStake stakeLockPeriod reached :=
    Deployed.run_tokens (Solvent registry token council minStake stakeLockPeriod)
      (fun _ _ _ _ _ htokens inv => solvent_call inv htokens)
      (fun _ _ more inv => ⟨inv.wellFormed, inv.tokenAddress, inv.covered.trans more⟩)
      initial tokens
  exact ⟨inv.covered, fun env a entry htokens hcovered hauth hentry hunlocked =>
    finalizeUnstake_returns inv htokens hcovered hauth hentry hunlocked⟩

end Solvency

/-- The registry at address 0, with its token at address 9, before anyone but node 1
has tokens. -/
def fundedRegistry : State ℕ (Balances ℕ) :=
  initialState ⟨[7], 1⟩ 100 10 fun a => if a = 1 then 1000 else 0

/-- The sample registry is one that has been initialized. -/
theorem fundedRegistry_initialized :
    Returns (initializeContract ⟨[7], 1⟩ 100 10) (freshState fundedRegistry.outside) ()
      fundedRegistry :=
  returns_initializeContract_freshState.mpr ⟨by decide, by decide, by decide, rfl⟩

/-- Node 1 stakes 300 of its 1000 tokens and unstakes 50. -/
def stakeAndUnstake : List (Action ℕ (Balances ℕ) (Call ℕ) (Provision ℕ)) :=
  [.call (tokenLedger 0 5) (.register 1 ⟨HostString.fromStr "eu", 10, 99⟩),
    .call (tokenLedger 0 5) (.stake 1 300),
    .call (tokenLedger 0 5) (.unstake 1 50)]

/-- Once the lock period of 10 is over, the 50 are paid. -/
theorem registry_solvent_stakeAndUnstake :
    ∃ w', Returns (finalizeUnstake (tokenLedger 0 20) 1)
      (machine.run (withToken 9 fundedRegistry) stakeAndUnstake) 50 w' := by
  have calls : ∀ action ∈ stakeAndUnstake, ∃ env c, action = .call env c ∧ TokenEnv 0 9 env := by
    simp [stakeAndUnstake, tokenLedger_tokenEnv]
  have start : (0 : Int) ≤ fundedRegistry.outside 0 := le_refl 0
  exact (registry_solvent fundedRegistry_initialized start
      (Deployed.tokenStep_of_calls calls)).2 (tokenLedger 0 20) 1 ⟨1, 50, 15⟩
    (tokenLedger_tokenEnv 0 9 20) (tokenLedger_covered 0 9 20) rfl (by decide +kernel) (by decide)

end StellarConduit.RelayRegistry
