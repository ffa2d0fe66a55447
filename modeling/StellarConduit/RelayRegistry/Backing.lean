import StellarConduit.RelayRegistry.Records
import StellarConduit.RelayRegistry.Solvency

/-!
# Every stake is backed by tokens

A node may register, and stake, before the registry has been initialized.  What makes
the registry solvent does not depend on the configuration: no stake is negative, no
lock entry is empty, and what is owed is held.  `Backed` says so, and holds from the
deployment on.  Since what is held is a token balance, and a token balance is an
`i128`, the sum that `slash` forms never overflows.

What is owed is a sum over two stores, all stakes and all pending entries.  A stake adds to the
sum what the token has moved in; an unstake moves an amount from one store to the other; a
payout takes out of the sum what the token moves out; a slash takes from the sum and moves
nothing.  So each of the four keeps `Backed`, and the last one leaves tokens behind that nobody
is owed.

The token is a parameter.  `CustodyStep` says of a step what is assumed: in a call the transfers
move their amounts and the registry has not signed, the token that is provided is this one, and
what others do outside does not take tokens from the registry.

## Main definitions

* `CustodyStep` — what is assumed of a step.
* `Backed` — stakes and pending entries are in order, and covered by tokens.

## Main results

* `backed_run` — everything owed is backed, in every reached state.
* `slash_always_works` — what a slash that the council lets through answers, and does.
-/

namespace StellarConduit.RelayRegistry

open Soroban Contract

section Backing

variable {Address : Type} {registry token : Address}

/-- What the registry owes is counted in amounts that are not negative, and held in
tokens; the registry has been told of no other token. -/
structure Backed (registry token : Address) (w : State Address (Balances Address)) : Prop where
  /-- The registry has been told of no other token. -/
  tokenAddress : ∀ t, w.storage.tokenAddress = some t → t = token
  /-- No stake is negative, and no lock entry is empty. -/
  amounts : Amounts w.storage
  /-- What is owed to all nodes together is held in tokens. -/
  covered : obligations w.storage ≤ w.outside registry

variable [DecidableEq Address]

/-- A step in which the registry's tokens move by its own calls and otherwise only grow,
and its deployer sets no other token address. -/
def CustodyStep (registry token : Address) (r : Step Address (Balances Address)) : Prop :=
  match r.action with
  | .call env _ => TokenEnv registry token env
  | .provision (.setTokenAddress t) => t = token
  | .elsewhere b => r.before.outside registry ≤ b registry

variable {env : Env Address (Balances Address)} {w w' : State Address (Balances Address)}

/-- Writing the records of one node keeps everything backed, when what is held for the
node grows by no more than the registry's balance. -/
theorem Backed.write (inv : Backed registry token w) (a : Address)
    (tokenAddress : w'.storage.tokenAddress = w.storage.tokenAddress)
    (nodes : ∀ b, b ≠ a → w'.storage.relayNode.get b = w.storage.relayNode.get b)
    (entries : ∀ b, b ≠ a → w'.storage.lockEntry.get b = w.storage.lockEntry.get b)
    (stake : ∀ n, w'.storage.relayNode.get a = some n → 0 ≤ n.stake.val)
    (entry : ∀ e, w'.storage.lockEntry.get a = some e → 0 < e.amount.val)
    (paid : holdings a w'.storage + w.outside registry ≤
      holdings a w.storage + w'.outside registry) : Backed registry token w' where
  tokenAddress := by
    rw [tokenAddress]
    exact inv.tokenAddress
  amounts :=
    { stake := fun b n hb => by
        by_cases hba : b = a
        · exact stake n (hba ▸ hb)
        · rw [nodes b hba] at hb
          exact inv.amounts.stake b n hb
      entry := fun b e hb => by
        by_cases hba : b = a
        · exact entry e (hba ▸ hb)
        · rw [entries b hba] at hb
          exact inv.amounts.entry b e hb }
  covered := by
    -- Only the records of `a` differ, so the two sums differ by what is held for `a`.
    have owed : obligations w'.storage + holdings a w.storage =
        obligations w.storage + holdings a w'.storage :=
      obligations_add_holdings a (fun b hb => by rw [nodes b hb]) entries
    have covered := inv.covered
    omega

/-- Rewriting a node record with the stake it had, or with none for a new node. -/
theorem Backed.rewrite (inv : Backed registry token w) {a : Address} {node : RelayNode Address}
    (stake : node.stake.val = stakeAmount (w.storage.relayNode.get a)) {count : Option U32}
    {events : List (Event Address)} :
    Backed registry token
      { storage := { w.storage with
          relayNode := w.storage.relayNode.set a node
          nodeCount := count }
        outside := w.outside
        events := events } := by
  refine inv.write a rfl (fun b hb => Store.get_set_of_ne _ _ hb) (fun _ _ => rfl) ?_
    (inv.amounts.entry a) ?_
  · intro n hn
    rw [Store.get_set_self] at hn
    obtain rfl := Option.some.inj hn
    rw [stake]
    exact stakeAmount_nonneg inv.amounts a
  · have same : stakeAmount ((w.storage.relayNode.set a node).get a) =
        stakeAmount (w.storage.relayNode.get a) := stakeAmount_set stake a
    simp only [holdings]
    omega

/-- What a `stake` leaves is backed by the tokens it takes. -/
theorem backed_stake (inv : Backed registry token w) (tokens : TokenEnv registry token env)
    {a : Address} {amount : I128} (h : Returns (stake env a amount) w () w') :
    Backed registry token w' := by
  obtain ⟨hauth, node, hnode, -, hamount, newStake, hnew, t, ht, b, htransfer, rfl⟩ :=
    returns_stake.mp h
  obtain rfl := inv.tokenAddress t ht
  -- The token has moved the amount to the registry, which has not signed for itself.
  have held : b registry = w.outside registry + amount.val := by
    rw [tokens.current] at htransfer
    rw [tokens.transfer htransfer, Balances.move_of_ne_sender (tokens.ne_holder hauth), if_pos rfl]
  -- So the stake may grow by as much, and it was not negative before.
  have before := inv.amounts.stake a node hnode
  refine inv.write a rfl (fun b hb => Store.get_set_of_ne _ _ hb) (fun _ _ => rfl) ?_
    (inv.amounts.entry a) ?_
  · intro n hn
    rw [Store.get_set_self] at hn
    obtain rfl := Option.some.inj hn
    show 0 ≤ newStake.val
    omega
  · simp only [holdings, Store.get_set_self, hnode, stakeAmount, Option.elim_some,
      RelayNode.staked, held]
    omega

/-- An `unstake` moves its amount from the stake to the lock entry, in place of what was
pending. -/
theorem backed_unstake (inv : Backed registry token w) {a : Address} {amount : I128}
    {node : RelayNode Address} (h : Returns (unstake env a amount) w node w') :
    Backed registry token w' := by
  obtain ⟨-, hamount, node, hnode, -, unlockAfter, -, hle, newStake, hnew, rfl, -⟩ :=
    returns_unstake.mp h
  -- What was pending is dropped, not added: what is owed can only shrink.
  have pending := pendingAmount_nonneg inv.amounts a
  refine inv.write a rfl (fun b hb => Store.get_set_of_ne _ _ hb)
    (fun b hb => Store.get_set_of_ne _ _ hb) ?_ ?_ ?_
  · intro n hn
    rw [Store.get_set_self] at hn
    obtain rfl := Option.some.inj hn
    show 0 ≤ newStake.val
    omega
  · intro e he
    rw [Store.get_set_self] at he
    obtain rfl := Option.some.inj he
    exact hamount
  · simp only [holdings, Store.get_set_self, hnode, stakeAmount, pendingAmount, Option.elim_some,
      RelayNode.unstaked] at pending ⊢
    omega

/-- A payout takes from the registry what the lock entry held. -/
theorem backed_finalizeUnstake (inv : Backed registry token w)
    (tokens : TokenEnv registry token env) {a : Address} {amount : I128}
    (h : Returns (finalizeUnstake env a) w amount w') : Backed registry token w' := by
  obtain ⟨hauth, entry, hentry, -, t, ht, b, htransfer, -, rfl⟩ := returns_finalizeUnstake.mp h
  obtain rfl := inv.tokenAddress t ht
  -- The entry goes, and with it as many tokens.
  have held : b registry = w.outside registry - entry.amount.val := by
    rw [tokens.current] at htransfer
    rw [tokens.transfer htransfer, Balances.move_sender (tokens.ne_holder hauth)]
  refine inv.write a rfl (fun _ _ => rfl) (fun b hb => Store.get_remove_of_ne _ hb)
    (inv.amounts.stake a) ?_ ?_
  · intro e he
    rw [Store.get_remove_self] at he
    cases he
  · simp only [holdings, Store.get_remove_self, hentry, pendingAmount, Option.elim_some,
      Option.elim_none, held]
    omega

/-- A slash leaves nothing held for its node. -/
theorem backed_slash (inv : Backed registry token w) {a : Address} {reason : HostString}
    (h : Returns (slash env a reason) w () w') : Backed registry token w' := by
  obtain ⟨-, node, hnode, -, slashedAmount, -, rfl⟩ := returns_slash.mp h
  -- No token moves, so it is enough that what was held for the node was not negative.
  have before := holdings_nonneg inv.amounts a
  refine inv.write a rfl (fun b hb => Store.get_set_of_ne _ _ hb)
    (fun b hb => Store.get_remove_of_ne _ hb) ?_ ?_ ?_
  · intro n hn
    rw [Store.get_set_self] at hn
    obtain rfl := Option.some.inj hn
    exact MachineInt.val_zero.ge
  · intro e he
    rw [Store.get_remove_self] at he
    cases he
  · have none : holdings a { w.storage with
        relayNode := w.storage.relayNode.set a (node.afterSlash env.timestamp)
        lockEntry := w.storage.lockEntry.remove a } = 0 := by
      simp [holdings, stakeAmount, pendingAmount, RelayNode.afterSlash]
    rw [none]
    show 0 + w.outside registry ≤ holdings a w.storage + w.outside registry
    omega

/-- A call that returns leaves everything backed, whether or not the registry has been
initialized. -/
theorem backed_call (inv : Backed registry token w) (tokens : TokenEnv registry token env)
    {c : Call Address} {v : Value Address} (h : Returns (dispatch env c) w v w') :
    Backed registry token w' := by
  cases ran_of_returns h with
  | initializeContract hcall =>
      obtain ⟨-, -, -, -, rfl⟩ := returns_initializeContract.mp hcall
      exact ⟨inv.tokenAddress, ⟨inv.amounts.stake, inv.amounts.entry⟩, inv.covered⟩
  | register hcall =>
      obtain ⟨-, hnone, -, count, -, rfl⟩ := returns_register.mp hcall
      refine inv.rewrite ?_
      rw [hnone]
      exact MachineInt.val_zero
  | updateMetadata hcall =>
      obtain ⟨-, node, hnode, -, rfl⟩ := returns_updateMetadata.mp hcall
      refine inv.rewrite ?_
      rw [hnode]
      rfl
  | stake hcall =>
      exact backed_stake inv tokens hcall
  | unstake hcall =>
      exact backed_unstake inv hcall
  | finalizeUnstake hcall =>
      exact backed_finalizeUnstake inv tokens hcall
  | slash hcall =>
      exact backed_slash inv hcall
  | reinstateNode hcall =>
      obtain ⟨-, node, hnode, -, rfl⟩ := returns_reinstateNode.mp hcall
      refine inv.rewrite ?_
      rw [hnode]
      rfl
  | getNode => exact inv
  | isActive => exact inv

/-- A call that returns moves the tokens of the registry, and of the node it is about, if
this has authorised it; all other accounts stay as they are. -/
theorem account_call (known : ∀ t, w.storage.tokenAddress = some t → t = token)
    (tokens : TokenEnv registry token env)
    {c : Call Address} {v : Value Address} (h : Returns (dispatch env c) w v w') {b : Address}
    (other : b ≠ registry) :
    w'.outside b = w.outside b ∨ c.subject = some b ∧ env.authorised b = true := by
  cases ran_of_returns h with
  | initializeContract hcall =>
      obtain ⟨-, -, -, -, rfl⟩ := returns_initializeContract.mp hcall
      exact Or.inl rfl
  | register hcall =>
      obtain ⟨-, -, -, count, -, rfl⟩ := returns_register.mp hcall
      exact Or.inl rfl
  | updateMetadata hcall =>
      obtain ⟨-, node, -, -, rfl⟩ := returns_updateMetadata.mp hcall
      exact Or.inl rfl
  | @stake a _ _ hcall =>
      obtain ⟨hauth, -, -, -, -, -, -, t, ht, x, htransfer, rfl⟩ := returns_stake.mp hcall
      obtain rfl := known t ht
      rw [tokens.current] at htransfer
      by_cases hb : b = a
      · rw [hb]
        exact Or.inr ⟨rfl, hauth⟩
      · rw [tokens.transfer htransfer]
        exact Or.inl (Balances.move_of_ne hb other)
  | unstake hcall =>
      obtain ⟨-, -, node, -, -, unlockAfter, -, -, newStake, -, rfl, -⟩ := returns_unstake.mp hcall
      exact Or.inl rfl
  | @finalizeUnstake a _ _ hcall =>
      obtain ⟨hauth, entry, -, -, t, ht, x, htransfer, -, rfl⟩ := returns_finalizeUnstake.mp hcall
      obtain rfl := known t ht
      rw [tokens.current] at htransfer
      by_cases hb : b = a
      · rw [hb]
        exact Or.inr ⟨rfl, hauth⟩
      · rw [tokens.transfer htransfer]
        exact Or.inl (Balances.move_of_ne other hb)
  | slash hcall =>
      obtain ⟨-, node, -, -, slashedAmount, -, rfl⟩ := returns_slash.mp hcall
      exact Or.inl rfl
  | reinstateNode hcall =>
      obtain ⟨-, node, -, -, rfl⟩ := returns_reinstateNode.mp hcall
      exact Or.inl rfl
  | getNode => exact Or.inl rfl
  | isActive => exact Or.inl rfl

/-- Everything owed is backed in every state reached from the deployment on. -/
theorem backed_run {b : Balances Address} (start : 0 ≤ b registry)
    {as : List (Action Address (Balances Address) (Call Address) (Provision Address))}
    (custody : ∀ r ∈ machine.trace (freshState b) as, CustodyStep registry token r) :
    Backed registry token (machine.run (freshState b) as) := by
  have fresh : Backed registry token (freshState b) := by
    refine ⟨?_, ⟨?_, ?_⟩, ?_⟩
    · intro t ht
      cases ht
    · intro a n hn
      cases hn
    · intro a e he
      cases he
    · exact start
  refine Deployed.run_allowed (Backed registry token) (CustodyStep registry token) ?_ ?_ ?_ fresh
    custody
  · intro env c w v w' tokens inv h
    exact backed_call inv tokens h
  · rintro ⟨t⟩ w same inv
    refine ⟨fun t' ht' => ?_, ⟨inv.amounts.stake, inv.amounts.entry⟩, inv.covered⟩
    exact (Option.some.inj ht').symm.trans same
  · intro b w more inv
    exact ⟨inv.tokenAddress, inv.amounts, inv.covered.trans more⟩

/-- Calls of a custodian's token, and the one setting of its address, are all custody asks
of a run in which nothing happens elsewhere. -/
theorem custody_of_actions {w : State Address (Balances Address)}
    {as : List (Action Address (Balances Address) (Call Address) (Provision Address))}
    (actions : ∀ action ∈ as, action = .provision (.setTokenAddress token) ∨
      ∃ env c, action = .call env c ∧ TokenEnv registry token env) :
    ∀ r ∈ machine.trace w as, CustodyStep registry token r := by
  intro r hr
  obtain ⟨pre, action, post, rfl, rfl⟩ := machine.mem_trace.mp hr
  rcases actions action (by simp) with rfl | ⟨env, c, rfl, tokens⟩
  · exact rfl
  · exact tokens

end Backing

/-! ## Slashing

`slash` adds the stake and the pending amount of one node with `checked_add`, and its error for a
sum that is no `i128` is `Overflow`.  The sum is part of what the registry owes, what it owes is
covered by its balance, and the balance is an `i128`: so the error is not met in a state that can
be reached, and the answer depends on the record of the node alone.
-/

section Slash

variable {Address : Type} [DecidableEq Address] {registry token : Address}
  {env : Env Address (Balances Address)} {w : State Address (Balances Address)} {a : Address}

/-- What a slash that the council lets through answers, by the record of the node. -/
def slashAnswer (node : Option (RelayNode Address)) :
    Except (Failure ContractError) (Value Address) :=
  match node with
  | none => .error (.error .notRegistered)
  | some node => if node.status = .slashed then .error (.error .nodeSlashed) else .ok .unit

/-- Who is no node cannot be slashed. -/
theorem fails_slash_notRegistered {reason : HostString} (council : CouncilPasses env w)
    (absent : w.storage.relayNode.get a = none) :
    Fails (slash env a reason) w (.error .notRegistered) w := by
  simp [slash, loadNode, fails_bind, council, absent]

/-- Nor can a node be slashed twice. -/
theorem fails_slash_nodeSlashed {reason : HostString} (council : CouncilPasses env w)
    {node : RelayNode Address} (hnode : w.storage.relayNode.get a = some node)
    (slashed : node.status = .slashed) :
    Fails (slash env a reason) w (.error .nodeSlashed) w := by
  simp [slash, loadNode, fails_bind, council, hnode, slashed]

omit [DecidableEq Address] in
/-- What is seized from a node is part of what the registry holds, so it is an `i128`. -/
theorem exists_slashedAmount (inv : Backed registry token w)
    (balance : IntType.Contains ⟨true, 128⟩ (w.outside registry)) (a : Address) :
    ∃ slashedAmount : I128, slashedAmount.val = holdings a w.storage := by
  have lower := holdings_nonneg inv.amounts a
  have owed := holdings_le_obligations inv.amounts a
  have covered := inv.covered
  have lowest := (IntType.zero_mem ⟨true, 128⟩).1
  have largest := balance.2
  exact MachineInt.contains_iff.mp ⟨by omega, by omega⟩

/-- Whatever the state of the books, a slash answers by the status of the node alone. -/
theorem slash_answers (inv : Backed registry token w)
    (balance : IntType.Contains ⟨true, 128⟩ (w.outside registry)) (council : CouncilPasses env w)
    (a : Address) (reason : HostString) :
    (machine.step w (.call env (.slash a reason))).1 =
      some (slashAnswer (w.storage.relayNode.get a)) := by
  unfold slashAnswer
  split
  · rename_i absent
    have failed : Fails (dispatch env (.slash a reason)) w (.error .notRegistered) w :=
      fails_bind.mpr (Or.inl (fails_slash_notRegistered council absent))
    exact Deployed.answer_of_fails dispatch provide failed
  · rename_i node hnode
    split
    · rename_i slashed
      have failed : Fails (dispatch env (.slash a reason)) w (.error .nodeSlashed) w :=
        fails_bind.mpr (Or.inl (fails_slash_nodeSlashed council hnode slashed))
      exact Deployed.answer_of_fails dispatch provide failed
    · rename_i status
      obtain ⟨slashedAmount, hslashed⟩ := exists_slashedAmount inv balance a
      have seized : slashedAmount.val =
          node.stake.val + pendingAmount (w.storage.lockEntry.get a) := by
        rw [hslashed, holdings, hnode]
        rfl
      have returned : Returns (dispatch env (.slash a reason)) w .unit _ :=
        returns_bind_pure.mpr ⟨(), returns_slash.mpr ⟨council, node, hnode, status, slashedAmount,
          seized, rfl⟩, rfl⟩
      exact Deployed.answer_of_returns dispatch provide returned

/-- **A slash always works when it should.**  In every state reached from the deployment
on, a slash that the council lets through goes through exactly when the node is
registered and not slashed yet, and otherwise names the reason; it never overflows.  It
takes the stake and the lock entry of the node, announces their sum, and leaves
everything else about the nodes as it was. -/
theorem slash_always_works {b : Balances Address} (start : 0 ≤ b registry)
    {as : List (Action Address (Balances Address) (Call Address) (Provision Address))}
    (custody : ∀ r ∈ machine.trace (freshState b) as, CustodyStep registry token r)
    (balance : IntType.Contains ⟨true, 128⟩ ((machine.run (freshState b) as).outside registry))
    {env : Env Address (Balances Address)}
    (council : CouncilPasses env (machine.run (freshState b) as)) (a : Address)
    (reason : HostString) :
    let reached := machine.run (freshState b) as
    let answer := (machine.step reached (.call env (.slash a reason))).1
    let after := (machine.step reached (.call env (.slash a reason))).2
    ((answer = some (.ok .unit) ↔
          ∃ node, reached.storage.relayNode.get a = some node ∧ node.status ≠ .slashed) ∧
        (answer = some (.error (.error .notRegistered)) ↔
          reached.storage.relayNode.get a = none) ∧
        (answer = some (.error (.error .nodeSlashed)) ↔
          ∃ node, reached.storage.relayNode.get a = some node ∧ node.status = .slashed) ∧
        answer ≠ some (.error (.error .overflow))) ∧
      ∀ node, reached.storage.relayNode.get a = some node → node.status ≠ .slashed →
        ∃ node' slashedAmount, after.storage.relayNode.get a = some node' ∧
          node'.stake = 0 ∧ node'.status = .slashed ∧ after.storage.lockEntry.get a = none ∧
          after.events = reached.events ++ [.slash a slashedAmount] ∧
          slashedAmount.val =
            node.stake.val + pendingAmount (reached.storage.lockEntry.get a) ∧
          node'.metadata = node.metadata ∧ node'.registeredAt = node.registeredAt ∧
          ∀ b, b ≠ a → after.storage.relayNode.get b = reached.storage.relayNode.get b ∧
            after.storage.lockEntry.get b = reached.storage.lockEntry.get b := by
  intro reached answer after
  -- The answer needs the invariant, and the effects then need only the answer.
  have inv : Backed registry token reached := backed_run start custody
  have answers : answer = some (slashAnswer (reached.storage.relayNode.get a)) :=
    slash_answers inv balance council a reason
  constructor
  · rw [answers]
    cases hnode : reached.storage.relayNode.get a with
    | none => simp [slashAnswer]
    | some node => by_cases hstatus : node.status = .slashed <;> simp [slashAnswer, hstatus]
  · intro node hnode hstatus
    rcases record_call_cases env (.slash a reason) reached with ⟨v, w', h, hrecord⟩ | ⟨e, hrecord⟩
    · obtain ⟨_, hcall, -⟩ := returns_bind_pure.mp h
      have step : after = w' := congrArg Record.after hrecord
      obtain ⟨-, n, hn, -, slashedAmount, seized, hw'⟩ := returns_slash.mp hcall
      obtain rfl : node = n := Option.some.inj (hnode.symm.trans hn)
      rw [step, hw']
      refine ⟨node.afterSlash env.timestamp, slashedAmount, Store.get_set_self _ _ _, rfl, rfl,
        Store.get_remove_self _ _, rfl, seized, rfl, rfl, fun b hb => ?_⟩
      exact ⟨Store.get_set_of_ne _ _ hb, Store.get_remove_of_ne _ hb⟩
    · have failed : answer = some (.error e) := congrArg Record.reply hrecord
      rw [answers, hnode] at failed
      simp [slashAnswer, hstatus] at failed

end Slash

/-! ## A node slashed with a pending unstake

The token address is set by the deployer beside the calls, as the source has no entry point that
does it.
-/

/-- The registry at address 0 is initialized and told of its token; node 1 registers,
stakes 300 of its tokens and unstakes 50. -/
def pendingUnstake : List (Action ℕ (Balances ℕ) (Call ℕ) (Provision ℕ)) :=
  .call (tokenLedger 0 5) (.initializeContract ⟨[7], 1⟩ 100 10) ::
    .provision (.setTokenAddress 9) :: stakeAndUnstake

/-- Tokens move by the registry's own calls in the sample run. -/
theorem pendingUnstake_custody : ∀ r ∈ machine.trace (freshState fundedRegistry.outside)
    pendingUnstake, CustodyStep 0 9 r := by
  apply custody_of_actions
  simp [pendingUnstake, stakeAndUnstake, tokenLedger_tokenEnv]

/-- Slashed by its council, node 1 answers for 250 of stake and 50 pending. -/
theorem slash_always_works_pendingUnstake :
    (machine.step (machine.run (freshState fundedRegistry.outside) pendingUnstake)
      (.call (tokenLedger 0 8) (.slash 1 (HostString.fromStr "fraud")))).1 = some (.ok .unit) := by
  have start : (0 : Int) ≤ fundedRegistry.outside 0 := le_refl 0
  have balance : IntType.Contains ⟨true, 128⟩
      ((machine.run (freshState fundedRegistry.outside) pendingUnstake).outside 0) := by
    decide +kernel
  have council : CouncilPasses (tokenLedger 0 8)
      (machine.run (freshState fundedRegistry.outside) pendingUnstake) :=
    ⟨⟨[7], 1⟩, by decide +kernel, (returns_requireAuthOfCouncil (by decide)).mpr
      ⟨by decide, rfl⟩⟩
  refine (slash_always_works start pendingUnstake_custody balance council 1 _).1.1.mpr ?_
  exact ⟨⟨1, 250, .active, ⟨HostString.fromStr "eu", 10, 99⟩, 5, 5⟩, by decide +kernel, by decide⟩

end StellarConduit.RelayRegistry
