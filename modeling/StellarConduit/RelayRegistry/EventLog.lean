import StellarConduit.RelayRegistry.Invariant
import StellarConduit.Soroban.Replay

/-!
# The registry as its events tell it

An event names one node, and says enough of what its call did to follow the node's
stake, its status and its pending unstake.  `NodeView` is what an observer holds of one
address, `NodeView.step` how it takes in an event of this address, and the observer of
the registry is the family of these.  It rejects an event that contradicts what it
holds: a payout of another amount than the pending one, or a slash of anything but all
that the node had.

The events do not carry everything: times of registration, the metadata of an update,
and the minimum stake, which the observer has to know.

## Main results

* `replays_call` — a call that returns publishes what moved the view.
* `nodes_replayed` — the log of every run is accepted, and replays to the stored records,
  for all nodes together and for each node from its own events.
-/

namespace StellarConduit.RelayRegistry

open Soroban Contract

variable {Address X : Type}

/-- The node that an event names. -/
def Event.node : Event Address → Address
  | .register a _ | .updateMetadata a | .stake a _ | .unstake a _ _ | .finalizeUnstake a _
  | .slash a _ | .reinstateNode a => a

/-- What the events tell of a registered node. -/
structure Standing where
  /-- What the node has at stake. -/
  stake : Int
  status : NodeStatus
deriving DecidableEq

/-- What the events tell of a pending unstake. -/
structure Pending where
  /-- What it is waiting for, -/
  amount : Int
  /-- and until when. -/
  unlocksAt : Int
deriving DecidableEq

/-- What the events tell of an address. -/
structure NodeView where
  /-- There is none for an address that has not registered. -/
  standing : Option Standing
  /-- There is none for a node that waits for nothing. -/
  pending : Option Pending
deriving DecidableEq

namespace NodeView

/-- An address of which no event has told. -/
def start : NodeView where
  standing := none
  pending := none

/-- How an observer who knows the minimum stake takes in an event of the address. -/
def step (minStake : I128) (v : NodeView) : Event Address → Option NodeView
  | .register _ _ =>
      if v.standing = none then some { v with standing := some ⟨0, .inactive⟩ } else none
  | .updateMetadata _ => if v.standing.isSome then some v else none
  | .stake _ amount => v.standing.bind fun n =>
      if n.status ≠ .slashed ∧ 0 < amount.val then
        some { v with
          standing := some
            { stake := n.stake + amount.val
              status := if minStake.val ≤ n.stake + amount.val then .active else n.status } }
      else none
  | .unstake _ amount unlockAfter => v.standing.bind fun n =>
      if n.status = .active ∧ 0 < amount.val ∧ amount.val ≤ n.stake then
        some
          { standing := some
              { stake := n.stake - amount.val
                status := if n.stake - amount.val < minStake.val then .inactive else .active }
            -- Whatever was pending is forgotten.
            pending := some ⟨amount.val, unlockAfter.val⟩ }
      else none
  | .finalizeUnstake _ amount => v.pending.bind fun p =>
      if p.amount = amount.val then some { v with pending := none } else none
  | .slash _ slashedAmount => v.standing.bind fun n =>
      if n.status ≠ .slashed ∧ slashedAmount.val = n.stake + v.pending.elim 0 Pending.amount then
        some { standing := some ⟨0, .slashed⟩, pending := none }
      else none
  | .reinstateNode _ => v.standing.bind fun n =>
      if n.status = .slashed then some { v with standing := some ⟨n.stake, .inactive⟩ } else none

end NodeView

/-- The observer of the registry: one view for each address. -/
def observer [DecidableEq Address] (minStake : I128) :
    Indexer (Address → NodeView) (Event Address) :=
  Indexer.keyed Event.node (NodeView.step minStake)

/-- What the observer is to hold of a node record. -/
def RelayNode.standing (node : RelayNode Address) : Standing where
  stake := node.stake.val
  status := node.status

/-- What the observer is to hold of a lock entry. -/
def StakeEntry.pending (entry : StakeEntry Address) : Pending where
  amount := entry.amount.val
  unlocksAt := entry.unlocksAt.val

/-- What the observer is to hold of the stored records. -/
def view (s : Storage Address) : Address → NodeView := fun a =>
  { standing := (s.relayNode.get a).map RelayNode.standing
    pending := (s.lockEntry.get a).map StakeEntry.pending }

/-- The amount an observer holds for a lock entry. -/
theorem pending_amount (entry : Option (StakeEntry Address)) :
    entry.elim 0 (Pending.amount ∘ StakeEntry.pending) = pendingAmount entry := rfl

/-! ## One call -/

section Calls

variable [DecidableEq Address] {council : AdminCouncil Address} {minStake : I128}
  {stakeLockPeriod : U32} {env : Env Address X} {w w' : State Address X}

/-- A call that publishes one event of `e.node`, and has moved the records of this node
as the event says. -/
theorem replays_node {e : Event Address} (events : w'.events = w.events ++ [e])
    (moved : NodeView.step minStake (view w.storage e.node) e = some (view w'.storage e.node))
    (kept : ∀ b, b ≠ e.node → w'.storage.relayNode.get b = w.storage.relayNode.get b ∧
      w'.storage.lockEntry.get b = w.storage.lockEntry.get b) :
    Replays (observer minStake) view w w' := by
  refine .publish events (Indexer.keyed_of_own moved fun b hb => ?_)
  obtain ⟨node, entry⟩ := kept b hb
  rw [view, view, node, entry]

/-- A call that returns publishes what moved the view. -/
theorem replays_call {c : Call Address} {v : Value Address}
    (inv : Invariant council minStake stakeLockPeriod w.storage)
    (h : Returns (dispatch env c) w v w') : Replays (observer minStake) view w w' := by
  have hmin : w.storage.minStake.getD 0 = minStake := by rw [inv.minStake_eq]; rfl
  cases ran_of_returns h with
  | initializeContract h =>
      -- A second `initialize` answers `AlreadyInitialized`.
      obtain ⟨hnone, -⟩ := returns_initializeContract.mp h
      rw [inv.adminCouncil] at hnone
      cases hnone
  | @register a metadata _ h =>
      obtain ⟨-, hnone, -, count, -, rfl⟩ := returns_register.mp h
      refine replays_node rfl ?_ fun b hb => ⟨Store.get_set_of_ne _ _ hb, rfl⟩
      simp [NodeView.step, view, Event.node, hnone, RelayNode.standing]
  | @updateMetadata a metadata _ h =>
      obtain ⟨-, node, hnode, -, rfl⟩ := returns_updateMetadata.mp h
      refine replays_node rfl ?_ fun b hb => ⟨Store.get_set_of_ne _ _ hb, rfl⟩
      simp [NodeView.step, view, Event.node, hnode, RelayNode.standing]
  | @stake a amount _ h =>
      obtain ⟨-, node, hnode, hstatus, hamount, newStake, hnew, token, -, x, -, rfl⟩ :=
        returns_stake.mp h
      refine replays_node rfl ?_ fun b hb => ⟨Store.get_set_of_ne _ _ hb, rfl⟩
      simp [NodeView.step, view, Event.node, hnode, RelayNode.standing, RelayNode.staked, hstatus,
        hamount, hmin, hnew]
  | @unstake a amount _ _ h =>
      obtain ⟨-, hamount, node, hnode, hactive, unlockAfter, -, hle, newStake, hnew, rfl, -⟩ :=
        returns_unstake.mp h
      refine replays_node rfl ?_ fun b hb =>
        ⟨Store.get_set_of_ne _ _ hb, Store.get_set_of_ne _ _ hb⟩
      simp [NodeView.step, view, Event.node, hnode, RelayNode.standing, RelayNode.unstaked,
        StakeEntry.pending, hactive, hamount, hle, hmin, hnew]
  | @finalizeUnstake a amount _ h =>
      obtain ⟨-, entry, hentry, -, token, -, x, -, -, rfl⟩ := returns_finalizeUnstake.mp h
      refine replays_node rfl ?_ fun b hb => ⟨rfl, Store.get_remove_of_ne _ hb⟩
      simp [NodeView.step, view, Event.node, hentry, StakeEntry.pending]
  | @slash a reason _ h =>
      obtain ⟨-, node, hnode, hstatus, slashedAmount, hslashed, rfl⟩ := returns_slash.mp h
      refine replays_node rfl ?_ fun b hb =>
        ⟨Store.get_set_of_ne _ _ hb, Store.get_remove_of_ne _ hb⟩
      simp [NodeView.step, view, Event.node, hnode, RelayNode.standing, RelayNode.afterSlash,
        hstatus, hslashed, pending_amount]
  | @reinstateNode a _ h =>
      obtain ⟨-, node, hnode, hslashed, rfl⟩ := returns_reinstateNode.mp h
      refine replays_node rfl ?_ fun b hb => ⟨Store.get_set_of_ne _ _ hb, rfl⟩
      simp [NodeView.step, view, Event.node, hnode, RelayNode.standing,
        RelayNode.afterReinstatement, hslashed]
  | getNode => exact .refl _ _ _
  | isActive => exact .refl _ _ _

end Calls

/-! ## Runs -/

section Runs

variable [DecidableEq Address] {council : AdminCouncil Address} {minStake : I128}
  {stakeLockPeriod : U32} {x : X} {w : State Address X} {u : Unit}

/-- From any moment of a run to a later one, the new events tell what became of the nodes. -/
theorem replays_run (inv : Invariant council minStake stakeLockPeriod w.storage)
    (as : List (Action Address X (Call Address) (Provision Address))) :
    Replays (observer minStake) view w (machine.run w as) :=
  Deployed.replays_run (observer minStake) view (Invariant council minStake stakeLockPeriod)
    (fun _ _ _ _ _ inv h => ⟨invariant_call inv h, replays_call inv h⟩)
    (fun p s inv => ⟨invariant_provide inv, by cases p; rfl⟩) inv as

/-- **The registry can be followed from its events,** by an observer that knows the minimum
stake.  The log of every run is one that the observer accepts, so every payout it announces is
the pending amount and every slash takes all that the node had; replaying it gives the stake, the
status and the pending unstake of every node as they are stored, and the events of one node alone
give them for this node, however the nodes' calls were interleaved. -/
theorem nodes_replayed
    (h : Returns (initializeContract council minStake stakeLockPeriod) (freshState x) u w)
    (as : List (Action Address X (Call Address) (Provision Address))) :
    let reached := machine.run w as
    (observer minStake).replay (fun _ => NodeView.start) reached.events =
        some (view reached.storage) ∧
      ∀ a, Indexer.replay (NodeView.step minStake) NodeView.start
          (reached.events.filter fun e => e.node = a) = some (view reached.storage a) := by
  intro reached
  have log : (observer minStake).replay (fun _ => NodeView.start) reached.events =
      some (view reached.storage) := by
    have replays : Replays (observer minStake) view w reached :=
      replays_run (invariant_initializeContract h) as
    obtain ⟨-, -, -, rfl⟩ := returns_initializeContract_freshState.mp h
    exact replays.replay rfl
  exact ⟨log, Indexer.replay_keyed.mp log⟩

end Runs

/-- So it is for the logs of the sample registry. -/
theorem nodes_replayed_sample :
    ∃ w : State ℕ Unit, Returns (initializeContract ⟨[7], 1⟩ 100 10) (freshState ()) () w ∧
      ∀ as, (observer 100).replay (fun _ => NodeView.start) (machine.run w as).events =
        some (view (machine.run w as).storage) :=
  ⟨sampleRegistry, sampleRegistry_initialized, fun as =>
    (nodes_replayed sampleRegistry_initialized as).1⟩

end StellarConduit.RelayRegistry
