import StellarConduit.RelayRegistry.Records

/-!
# The number of nodes

The registry counts the nodes as they register and never removes one, so the counter and
the stored records go apart only where the counter is written otherwise: `initialize`
sets it to zero.  `register` does not ask whether the contract has been initialized, and
the nodes that register before are lost from the count for good.

`registered` is the number of records, and its difference to the counter is what every step but
one keeps.  A registration adds one to both; if the counter is full it panics, and then there is
no record either.  The first `initialize` makes the difference the number of nodes so far.  After
it there is no other, so the difference at the end of a run is the number of nodes that had
registered when `initialize` was accepted.

## Main definitions

* `registered` — the number of node records.
* `CountKept` — council, and difference of records and counter, are as they were.

## Main results

* `nodeCount_iff` — the counter is the number of nodes, in every run in which no node
  registers before `initialize` is accepted, and in no other.
-/

namespace StellarConduit.RelayRegistry

open Soroban Contract

section Calls

variable {Address X : Type}

/-- What `get_node_count` answers. -/
def nodeCount (w : State Address X) : Int := (w.storage.nodeCount.getD 0).val

/-- The number of stored node records. -/
def registered (w : State Address X) : Int := (w.storage.relayNode.keys.card : Int)

/-- What `initialize` asks for. -/
structure Initializable (s : Storage Address) (council : AdminCouncil Address) (minStake : I128)
    (stakeLockPeriod : U32) : Prop where
  /-- Nobody has initialized it yet, -/
  uninitialized : s.adminCouncil = none
  /-- and the minimum stake, -/
  minStake : 0 < minStake.val
  /-- the lock period -/
  stakeLockPeriod : stakeLockPeriod ≠ 0
  /-- and the council are acceptable. -/
  council : ¬ council.Invalid

/-- The step is an `initialize` that goes through when nodes have registered already. -/
def LateInitialize (r : Step Address X) : Prop :=
  (∃ env council minStake stakeLockPeriod,
      r.action = .call env (.initializeContract council minStake stakeLockPeriod) ∧
        Initializable r.before.storage council minStake stakeLockPeriod) ∧
    ∃ a, (r.before.storage.relayNode.get a).isSome

/-- Some node has registered exactly when the number is positive. -/
theorem registered_pos {w : State Address X} :
    0 < registered w ↔ ∃ a, (w.storage.relayNode.get a).isSome := by
  unfold registered
  rw [Int.natCast_pos, Finset.card_pos]
  exact exists_congr fun a => w.storage.relayNode.mem_keys a

/-- A step that loses no node from the count, and does not initialize the contract. -/
structure CountKept (w w' : State Address X) : Prop where
  /-- The council. -/
  adminCouncil : w'.storage.adminCouncil = w.storage.adminCouncil
  /-- How far the counter is behind. -/
  count : registered w' - nodeCount w' = registered w - nodeCount w

/-- Records and counter are as they were. -/
theorem CountKept.of_same {w w' : State Address X}
    (adminCouncil : w'.storage.adminCouncil = w.storage.adminCouncil)
    (keys : w'.storage.relayNode.keys = w.storage.relayNode.keys)
    (count : w'.storage.nodeCount = w.storage.nodeCount) : CountKept w w' where
  adminCouncil := adminCouncil
  count := by rw [registered, registered, nodeCount, nodeCount, keys, count]

variable [DecidableEq Address] {env : Env Address X} {w w' : State Address X}

/-- A call that returns initializes the contract, or keeps the count. -/
theorem countKept_call {c : Call Address} {v : Value Address}
    (h : Returns (dispatch env c) w v w') :
    (∃ council minStake stakeLockPeriod,
        c = .initializeContract council minStake stakeLockPeriod ∧
          Returns (initializeContract council minStake stakeLockPeriod) w () w') ∨
      CountKept w w' := by
  cases writes_of_returns h with
  | configure hcall => exact Or.inl ⟨_, _, _, rfl, hcall⟩
  | @register _ _ node _ absent _ council record _ count =>
      refine Or.inr ⟨council, ?_⟩
      have card := Store.card_keys_set_of_none node absent
      rw [registered, registered, nodeCount, nodeCount, record, count, card]
      push_cast
      omega
  | rewrite _ present council record _ _ count =>
      refine Or.inr (.of_same council ?_ count)
      rw [record]
      exact Store.keys_set_of_get _ present
  | payout council nodes _ count =>
      refine Or.inr (.of_same council ?_ count)
      rw [nodes]
  | view => exact Or.inr (.of_same rfl rfl rfl)

/-- A step initializes the contract, or keeps the count. -/
theorem countKept_step (w : State Address X)
    (action : Action Address X (Call Address) (Provision Address)) :
    (∃ env council minStake stakeLockPeriod,
        action = .call env (.initializeContract council minStake stakeLockPeriod) ∧
          Initializable w.storage council minStake stakeLockPeriod) ∨
      CountKept w (machine.step w action).2 := by
  refine Deployed.record_rule dispatch provide
    (fun r => (∃ env council minStake stakeLockPeriod,
        r.action = .call env (.initializeContract council minStake stakeLockPeriod) ∧
          Initializable w.storage council minStake stakeLockPeriod) ∨ CountKept w r.after) w action
    ?returned ?failed ?provision ?elsewhere
  case returned =>
    intro env c v w' h
    rcases countKept_call h with ⟨council, minStake, stakeLockPeriod, rfl, hcall⟩ | kept
    · obtain ⟨uninitialized, positive, nonzero, valid, -⟩ := returns_initializeContract.mp hcall
      exact Or.inl ⟨env, council, minStake, stakeLockPeriod, rfl,
        ⟨uninitialized, positive, nonzero, valid⟩⟩
    · exact Or.inr kept
  case failed =>
    intro env c e
    exact Or.inr (.of_same rfl rfl rfl)
  case provision =>
    intro p
    cases p
    exact Or.inr (.of_same rfl rfl rfl)
  case elsewhere =>
    intro x
    exact Or.inr (.of_same rfl rfl rfl)

/-- An `initialize` that finds what it asks for goes through, and the count is zero. -/
theorem step_of_initializable (env : Env Address X) {council : AdminCouncil Address}
    {minStake : I128} {stakeLockPeriod : U32}
    (initializable : Initializable w.storage council minStake stakeLockPeriod) :
    let w' := (machine.step w
      (.call env (.initializeContract council minStake stakeLockPeriod))).2
    w'.storage.adminCouncil.isSome ∧ registered w' = registered w ∧ nodeCount w' = 0 := by
  have hcall : Returns (initializeContract council minStake stakeLockPeriod) w () _ :=
    returns_initializeContract.mpr ⟨initializable.uninitialized, initializable.minStake,
      initializable.stakeLockPeriod, initializable.council, rfl⟩
  have call : Returns (dispatch env (.initializeContract council minStake stakeLockPeriod)) w .unit
      _ := returns_bind_pure.mpr ⟨(), hcall, rfl⟩
  have step : machine.step w (.call env (.initializeContract council minStake stakeLockPeriod)) =
      _ := Deployed.step_of_returns dispatch provide call
  rw [step]
  exact ⟨rfl, rfl, MachineInt.val_zero⟩

end Calls

section Runs

variable {Address X : Type} [DecidableEq Address]

/-- A step that is no late `initialize` keeps a count that is right. -/
theorem nodeCount_step (w : State Address X)
    (action : Action Address X (Call Address) (Provision Address))
    (timely : ¬ LateInitialize (machine.record w action)) (right : nodeCount w = registered w) :
    nodeCount (machine.step w action).2 = registered (machine.step w action).2 := by
  rcases countKept_step w action with
    ⟨env, council, minStake, stakeLockPeriod, rfl, initializable⟩ | kept
  · obtain ⟨-, same, zero⟩ := step_of_initializable env initializable
    have none : ¬ 0 < registered w := fun some =>
      timely ⟨⟨env, council, minStake, stakeLockPeriod, rfl, initializable⟩,
        registered_pos.mp some⟩
    have nonneg : 0 ≤ registered w := Int.natCast_nonneg _
    omega
  · have difference := kept.count
    omega

/-- In an initialized registry a count that is too small stays so. -/
theorem nodeCount_lt_step (w : State Address X)
    (action : Action Address X (Call Address) (Provision Address))
    (short : w.storage.adminCouncil.isSome ∧ nodeCount w < registered w) :
    (machine.step w action).2.storage.adminCouncil.isSome ∧
      nodeCount (machine.step w action).2 < registered (machine.step w action).2 := by
  obtain ⟨initialized, less⟩ := short
  rcases countKept_step w action with ⟨_, _, _, _, -, initializable⟩ | kept
  · rw [initializable.uninitialized] at initialized
    cases initialized
  · have difference := kept.count
    rw [kept.adminCouncil]
    exact ⟨initialized, by omega⟩

/-- **The node count is the number of nodes, unless nodes register before the contract
is initialized.**  In every run from the deployment on, the counter equals the number
of stored node records exactly when no `initialize` is accepted while nodes are
registered. -/
theorem nodeCount_iff (x : X) (as : List (Action Address X (Call Address) (Provision Address))) :
    nodeCount (machine.run (freshState x : State Address X) as) =
        registered (machine.run (freshState x) as) ↔
      ∀ r ∈ machine.trace (freshState x : State Address X) as, ¬ LateInitialize r := by
  constructor
  · intro right r hr late
    obtain ⟨pre, action, post, rfl, rfl⟩ := machine.mem_trace.mp hr
    obtain ⟨⟨env, council, minStake, stakeLockPeriod, called, initializable⟩, some⟩ := late
    have call : action = .call env (.initializeContract council minStake stakeLockPeriod) := called
    subst call
    obtain ⟨initialized, same, zero⟩ := step_of_initializable env initializable
    have short := machine.run_invariant
      (fun w => w.storage.adminCouncil.isSome ∧ nodeCount w < registered w) nodeCount_lt_step
      ⟨initialized, by rw [same, zero]; exact registered_pos.mpr some⟩ post
    rw [Machine.run_append] at right
    exact absurd right short.2.ne
  · intro timely
    have start : nodeCount (freshState x : State Address X) =
        registered (freshState x : State Address X) := MachineInt.val_zero
    exact machine.run_invariant_of (fun w => nodeCount w = registered w)
      (fun r => ¬ LateInitialize r) nodeCount_step start timely

end Runs

/-- Node 1 registers, and the contract is initialized after it. -/
def registeredEarly : List (Action ℕ Unit (Call ℕ) (Provision ℕ)) :=
  [.call sampleEnv (.register 1 ⟨HostString.fromStr "eu", 10, 99⟩),
    .call sampleEnv (.initializeContract ⟨[7], 1⟩ 100 10)]

/-- One node is stored, and the registry counts none. -/
theorem registeredEarly_nodeCount :
    nodeCount (machine.run (freshState ()) registeredEarly) = 0 ∧
      registered (machine.run (freshState ()) registeredEarly) = 1 ∧
      ((machine.run (freshState ()) registeredEarly).storage.relayNode.get 1).isSome := by
  decide +kernel

end StellarConduit.RelayRegistry
