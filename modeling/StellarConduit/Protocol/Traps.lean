import StellarConduit.Configuration
import StellarConduit.DisputeResolver.Signatures
import StellarConduit.Protocol.Consent
import StellarConduit.Soroban.Trapping

/-!
# Why a call traps

A trap is the answer that tells a caller nothing: the host rolls back and returns no error of
the contract.  The sources reach it in three ways: by a host function that fails, by an
`expect` or a `panic!` of their own, and by arithmetic that the release profile checks.  This
module says which of these a user can still meet.

Once the contracts are configured, the panics of the source that stand for a missing
configuration are not met any more, and neither is "Insufficient approvals": the loop of the
council's gate traps at the first member that has not signed, and otherwise counts as many as
the threshold asks for.  What is left comes from outside, or from a counter that is full:

* a signature that the call needs is missing;
* the token, or the treasury called by the distributor, refuses;
* a public key is missing, or a signature does not verify;
* a counter is at the end of its type, or a deadline is no `u32`.

Each contract has a `TrapCause`, an inductive relation between a call and the trap that
answers it.  A constructor is one of these reasons for one entry point, with the part of the
state that makes it apply; so a trap that is met can be traced to a condition that somebody
could have checked before.

The proofs walk through the entry points with `TrapsOnly Q x w`, the statement that `x` traps
in `w` only with a trap of which `Q` holds.  It has one rule for each primitive, and the rules
hand on what is known at the point: that a check has passed, that a lookup has found something.
No primitive is unfolded, and an entry point that cannot trap at some statement meets a rule
there that asks for nothing.

## Main definitions

* `TrapCause` — for each of the contracts, the entry points that can trap, with the trap and
  the reason.
* `Configured` — the contracts of the system hold the configuration of their launch.

## Main results

* `trapsOnly_dispatch` — the calls of a configured contract trap for these reasons only.
* `traps_explained` — so do those of a launched system, in every state that it reaches.
-/

namespace StellarConduit

open Soroban Contract

/-! ## The gate

The gate of every contract is the same loop over the stored council, so it is followed once, for
any contract that stores an accepted council, and the contracts only say how they read theirs.
The loop asks as many members as are missing to the threshold; each of them is one reason to
trap, and the count cannot overflow below a threshold that is itself a `u32`.
-/

section Gate

variable {Address X σ η ε β : Type} {env : Env Address X} {w : World σ X η}
  {council : AdminCouncil Address} {Q : Trap → Prop}

/-- The loop traps at a member, among as many as are missing to the threshold, that has not
signed. -/
theorem trapsOnly_countCouncilAuth {threshold : U32} {members : List Address} {authorized : U32}
    (below : authorized.val < threshold.val)
    (unsigned : ∀ m ∈ members.take (threshold.val - authorized.val).toNat,
      env.authorised m = false → Q .unauthorised) :
    TrapsOnly Q (countCouncilAuth (ε := ε) env threshold members authorized) w := by
  have one : (1 : U32).val = 1 := rfl
  have most := threshold.le_max
  induction members generalizing authorized w with
  | nil => exact trapsOnly_pure
  | cons member rest ih =>
      obtain ⟨gap, hgap⟩ : ∃ gap, (threshold.val - authorized.val).toNat = gap + 1 :=
        ⟨(threshold.val - authorized.val).toNat - 1, by omega⟩
      rw [hgap, List.take_succ_cons] at unsigned
      refine trapsOnly_requireAuth (unsigned member (List.mem_cons_self ..)) ?_
      refine trapsOnly_plus (fun full => ?_) fun next hnext => ?_
      · -- The count is below the threshold, which is itself a `u32`.
        have top := MachineInt.val_eq_max_of_full one full
        omega
      · split
        · exact trapsOnly_pure
        · rename_i reached
          have hnext' : next.val < threshold.val := not_le.mp (by simpa using reached)
          have hgap' : (threshold.val - next.val).toNat = gap := by omega
          refine ih hnext' ?_
          rw [hgap']
          exact fun m mem => unsigned m (List.mem_cons_of_mem _ mem)

/-- The gate of a council that was accepted traps at a member that is asked and has not
signed. -/
theorem trapsOnly_requireAuthOfCouncil (accepted : ¬ council.Invalid)
    (unsigned : ∀ m ∈ firstMembers council, env.authorised m = false → Q .unauthorised) :
    TrapsOnly Q (requireAuthOfCouncil (ε := ε) env council) w := by
  obtain ⟨positive, enough⟩ := AdminCouncil.not_invalid_iff.mp accepted
  have zero : (0 : U32).val = 0 := MachineInt.val_zero
  unfold requireAuthOfCouncil
  refine trapsOnly_bind (trapsOnly_countCouncilAuth (by omega) ?_) fun n w' counted => ?_
  · rw [zero, sub_zero]
    exact unsigned
  · -- What the loop has counted meets the threshold.
    obtain ⟨-, hn, -⟩ := (returns_countCouncilAuth (by omega)).mp counted
    rw [if_neg (by rw [MachineInt.lt_iff_val]; omega)]
    exact trapsOnly_pure

/-- The gate of a contract whose council is stored, and the rest of the call. -/
theorem trapsOnly_storedGate {load : σ → Option (AdminCouncil Address)} {message : String}
    {f : Unit → Contract (World σ X η) ε β} (accepted : ¬ council.Invalid)
    (stored : load w.storage = some council)
    (unsigned : ∀ m ∈ firstMembers council, env.authorised m = false → Q .unauthorised)
    (rest : TrapsOnly Q (f ()) w) :
    TrapsOnly Q (((loadStorage load >>= fun stored => expect stored message) >>=
      requireAuthOfCouncil env) >>= f) w := by
  refine trapsOnly_bind ?_ fun _ w' passed => ?_
  · rw [bind_assoc]
    refine trapsOnly_loadStorage (trapsOnly_expect_some stored ?_)
    exact trapsOnly_requireAuthOfCouncil accepted unsigned
  · -- The gate has no effect.
    simp only [returns_bind, returns_loadStorage, returns_expect] at passed
    obtain ⟨_, _, ⟨_, _, ⟨-, rfl⟩, -, rfl⟩, passed⟩ := passed
    obtain rfl := requireAuthOfCouncil_world passed
    exact rest

end Gate

/-! ## The registry

Three entry points of the registry can trap when all signatures are there: `register`, when the
count of nodes is at its end, and the two that call the token, `stake` and `finalize_unstake`,
when the token refuses.  `stake` asks the token only for a positive amount, and
`finalize_unstake` only for an entry that is due; both facts are part of the reason.
-/

namespace RelayRegistry

variable {Address X : Type} {env : Env Address X} {council : AdminCouncil Address}
  {token : Address} {w : State Address X}

/-- Why a call of the registry traps. -/
inductive TrapCause (env : Env Address X) (council : AdminCouncil Address) (token : Address)
    (w : State Address X) : Call Address → Trap → Prop where
  /-- The relay has not signed. -/
  | unsigned {c : Call Address} {a : Address} (ungated : ¬ Gated c) (subject : c.subject = some a)
      (unsigned : env.authorised a = false) : TrapCause env council token w c .unauthorised
  /-- A council member that the gate asks has not signed. -/
  | unapproved {c : Call Address} {m : Address} (gated : Gated c)
      (member : m ∈ firstMembers council) (unsigned : env.authorised m = false) :
      TrapCause env council token w c .unauthorised
  /-- A new node is registered, and the count is at the end of `u32`. -/
  | full {a : Address} {metadata : NodeMetadata}
      (absent : w.storage.relayNode.get a = none)
      (full : (w.storage.nodeCount.getD 0).val = 4294967295) :
      TrapCause env council token w (.register a metadata) (.panic "node count overflow")
  /-- The token refuses the stake. -/
  | unstaked {a : Address} {amount : I128} (positive : 0 < amount.val)
      (refused : env.invokeContract token "transfer"
        [.address a, .address env.currentContract, .i128 amount] w.outside = none) :
      TrapCause env council token w (.stake a amount) .crossCall
  /-- The token refuses what is due. -/
  | unpaid {a : Address} {entry : StakeEntry Address}
      (pending : w.storage.lockEntry.get a = some entry)
      (unlocked : entry.unlocksAt.val ≤ env.timestamp.val)
      (refused : env.invokeContract token "transfer"
        [.address env.currentContract, .address a, .i128 entry.amount] w.outside = none) :
      TrapCause env council token w (.finalizeUnstake a) .crossCall

/-- The registry's gate, by the council that it has stored. -/
theorem trapsOnly_requireCouncilAuth {β : Type} {Q : Trap → Prop}
    {f : Unit → Registry Address X β} (accepted : ¬ council.Invalid)
    (stored : w.storage.adminCouncil = some council)
    (unsigned : ∀ m ∈ firstMembers council, env.authorised m = false → Q .unauthorised)
    (rest : TrapsOnly Q (f ()) w) : TrapsOnly Q (requireCouncilAuth env >>= f) w :=
  trapsOnly_storedGate accepted stored unsigned rest

/-- The council is part of the configuration. -/
theorem adminCouncil_of_config {s : Storage Address} {minStake : I128} {stakeLockPeriod : U32}
    (configured : config s = some (council, minStake, stakeLockPeriod)) :
    s.adminCouncil = some council := by
  simp only [config, Option.bind_eq_bind, Option.bind_eq_some_iff, Option.some.injEq,
    Prod.mk.injEq] at configured
  obtain ⟨_, stored, _, -, _, -, rfl, -⟩ := configured
  exact stored

/-- The calls of a configured registry trap for these reasons only. -/
theorem trapsOnly_dispatch [DecidableEq Address] (accepted : ¬ council.Invalid)
    (stored : w.storage.adminCouncil = some council)
    (tokenAddress : w.storage.tokenAddress = some token) (c : Call Address) :
    TrapsOnly (TrapCause env council token w c) (dispatch env c) w := by
  cases c with
  | initializeContract council' minStake stakeLockPeriod =>
      refine trapsOnly_bind_pure (trapsOnly_loadStorage (trapsOnly_rejectIf fun hnone => ?_))
      rw [stored] at hnone
      exact absurd rfl hnone
  | register a metadata =>
      refine trapsOnly_bind_pure (trapsOnly_requireAuth (.unsigned id rfl) ?_)
      refine trapsOnly_loadStorage (trapsOnly_rejectIf fun absent => trapsOnly_rejectIf fun _ => ?_)
      -- The count panics at the end of `u32`; the record has been written before it.
      refine trapsOnly_updateStorage (trapsOnly_bind ?_ fun _ _ _ => ?_)
      · refine trapsOnly_loadStorage (trapsOnly_expect (fun full => ?_) fun next _ => ?_)
        · exact .full (by simpa using absent) (MachineInt.val_eq_max_of_full rfl full)
        · exact trapsOnly_last (trapsOnly_updateStorage trapsOnly_pure)
      · exact trapsOnly_last (trapsOnly_publish trapsOnly_pure)
  | updateMetadata a metadata =>
      refine trapsOnly_bind_pure (trapsOnly_requireAuth (.unsigned id rfl) ?_)
      refine trapsOnly_loadStorage (trapsOnly_okOr fun node _ => trapsOnly_rejectIf fun _ => ?_)
      exact trapsOnly_updateStorage (trapsOnly_last (trapsOnly_publish trapsOnly_pure))
  | stake a amount =>
      refine trapsOnly_bind_pure (trapsOnly_requireAuth (.unsigned id rfl) ?_)
      refine trapsOnly_loadStorage (trapsOnly_okOr fun node _ => trapsOnly_rejectIf fun _ => ?_)
      -- A sum that is no `i128` is answered with `Overflow`, so it is no reason to trap.
      refine trapsOnly_rejectIf fun positive => trapsOnly_okOr fun newStake _ => ?_
      refine trapsOnly_loadStorage ?_
      unfold getTokenAddress
      rw [bind_assoc]
      refine trapsOnly_loadStorage (trapsOnly_expect_some tokenAddress ?_)
      refine trapsOnly_callContract (fun refused => ?_) fun x _ => ?_
      · exact .unstaked (not_le.mp positive) refused
      · exact trapsOnly_updateStorage (trapsOnly_last (trapsOnly_publish trapsOnly_pure))
  | unstake a amount =>
      refine trapsOnly_bind_pure (trapsOnly_requireAuth (.unsigned id rfl) ?_)
      refine trapsOnly_rejectIf fun _ => trapsOnly_loadStorage (trapsOnly_okOr fun node _ => ?_)
      refine trapsOnly_rejectIf fun _ => trapsOnly_rejectIf fun _ => trapsOnly_loadStorage ?_
      refine trapsOnly_okOr fun unlockAfter _ => trapsOnly_rejectIf fun _ => ?_
      refine trapsOnly_okOr fun newStake _ => trapsOnly_loadStorage ?_
      exact trapsOnly_updateStorage (trapsOnly_updateStorage (trapsOnly_publish trapsOnly_pure))
  | finalizeUnstake a =>
      refine trapsOnly_bind_pure (trapsOnly_requireAuth (.unsigned id rfl) ?_)
      refine trapsOnly_loadStorage (trapsOnly_okOr fun entry pending => ?_)
      -- The entry is removed before the token is called, and comes back when the token refuses.
      refine trapsOnly_rejectIf fun unlocked => trapsOnly_updateStorage ?_
      unfold getTokenAddress
      rw [bind_assoc]
      refine trapsOnly_loadStorage (trapsOnly_expect_some tokenAddress ?_)
      refine trapsOnly_callContract (fun refused => ?_) fun x _ => ?_
      · exact .unpaid pending (not_lt.mp unlocked) refused
      · exact trapsOnly_publish trapsOnly_pure
  | slash a reason =>
      refine trapsOnly_bind_pure (trapsOnly_requireCouncilAuth accepted stored
        (fun m member unsigned => .unapproved trivial member unsigned) ?_)
      refine trapsOnly_loadStorage (trapsOnly_okOr fun node _ => trapsOnly_rejectIf fun _ => ?_)
      -- What is pending is seized too, when there is an entry; the sum is checked.
      refine trapsOnly_bind (trapsOnly_loadStorage ?_) fun slashedAmount _ _ => ?_
      · split
        · refine trapsOnly_okOr fun _ _ => ?_
          exact trapsOnly_updateStorage trapsOnly_pure
        · exact trapsOnly_pure
      · exact trapsOnly_updateStorage (trapsOnly_last (trapsOnly_publish trapsOnly_pure))
  | reinstateNode a =>
      refine trapsOnly_bind_pure (trapsOnly_requireCouncilAuth accepted stored
        (fun m member unsigned => .unapproved trivial member unsigned) ?_)
      refine trapsOnly_loadStorage (trapsOnly_okOr fun node _ => trapsOnly_rejectIf fun _ => ?_)
      exact trapsOnly_updateStorage (trapsOnly_last (trapsOnly_publish trapsOnly_pure))
  | getNode a =>
      exact trapsOnly_bind_pure (trapsOnly_loadStorage (trapsOnly_last
        (trapsOnly_okOr fun node _ => trapsOnly_pure)))
  | isActive a => exact trapsOnly_bind_pure (trapsOnly_loadStorage trapsOnly_pure)

end RelayRegistry

/-! ## The treasury

Deposits, withdrawals and allocations append to the history, so the counter of the history is a
reason for these three.  It is the one addition of the treasury that the source leaves to the
overflow check of the release profile; balances and statistics are added with `checked_add`,
whose failure is the error `Overflow`, and the count of programs panics.
-/

namespace Treasury

variable {Address X : Type} {env : Env Address X} {council : AdminCouncil Address}
  {token : Address} {w : State Address X}

/-- The entry points that append to the history. -/
def Call.Enters : Call Address → Prop
  | .deposit _ _ | .withdraw _ _ _ | .allocate _ _ => True
  | _ => False

/-- Why a call of the treasury traps. -/
inductive TrapCause (env : Env Address X) (council : AdminCouncil Address) (token : Address)
    (w : State Address X) : Call Address → Trap → Prop where
  /-- Who pays has not signed. -/
  | unsigned {a : Address} {amount : I128} (unsigned : env.authorised a = false) :
      TrapCause env council token w (.deposit a amount) .unauthorised
  /-- A council member that the gate asks has not signed. -/
  | unapproved {c : Call Address} {m : Address} (gated : Gated c)
      (member : m ∈ firstMembers council) (unsigned : env.authorised m = false) :
      TrapCause env council token w c .unauthorised
  /-- The number of history entries is at the end of `u64`. -/
  | fullHistory {c : Call Address} (enters : c.Enters)
      (full : (w.storage.entryCount.getD 0).val = 18446744073709551615) :
      TrapCause env council token w c .overflow
  /-- The number of programs is at the end of `u64`. -/
  | fullPrograms {name : HostString} {budget : I128}
      (full : (w.storage.programCount.getD 0).val = 18446744073709551615) :
      TrapCause env council token w (.createProgram name budget)
        (.panic "program count overflow")
  /-- The token refuses the deposit. -/
  | undeposited {a : Address} {amount : I128} (positive : 0 < amount.val)
      (refused : env.invokeContract token "transfer"
        [.address a, .address env.currentContract, .i128 amount] w.outside = none) :
      TrapCause env council token w (.deposit a amount) .crossCall
  /-- The token refuses what the balance covers. -/
  | unpaid {a : Address} {amount : I128} {memo : HostString} (positive : 0 < amount.val)
      (covered : amount.val ≤ (w.storage.balance.getD 0).val)
      (refused : env.invokeContract token "transfer"
        [.address env.currentContract, .address a, .i128 amount] w.outside = none) :
      TrapCause env council token w (.withdraw a amount memo) .crossCall

variable {β : Type} {Q : Trap → Prop} {f : Unit → Computation Address X β}

/-- The treasury's gate, by the council that it has stored. -/
theorem trapsOnly_requireCouncilAuth (accepted : ¬ council.Invalid)
    (stored : w.storage.adminCouncil = some council)
    (unsigned : ∀ m ∈ firstMembers council, env.authorised m = false → Q .unauthorised)
    (rest : TrapsOnly Q (f ()) w) : TrapsOnly Q (requireCouncilAuth env >>= f) w :=
  trapsOnly_storedGate accepted stored unsigned rest

/-- The history is appended to without an error, unless its counter is full. -/
theorem trapsOnly_setEntry {entry : TreasuryEntry Address}
    (full : (w.storage.entryCount.getD 0).val = 18446744073709551615 → Q .overflow)
    (rest : ∀ s, s.tokenAddress = w.storage.tokenAddress →
      TrapsOnly Q (f ()) { w with storage := s }) :
    TrapsOnly Q (setEntry entry >>= f) w := by
  refine trapsOnly_bind ?_ fun _ w' returned => ?_
  · refine trapsOnly_loadStorage (trapsOnly_plus (fun none => ?_) fun nextId _ => ?_)
    · exact full (MachineInt.val_eq_max_of_full rfl none)
    · exact trapsOnly_updateStorage (trapsOnly_last (trapsOnly_updateStorage trapsOnly_pure))
  · obtain ⟨nextId, -, rfl⟩ := returns_setEntry.mp returned
    exact rest _ rfl

/-- The tokens move, unless the token refuses. -/
theorem trapsOnly_transfer {sender recipient : Address} {amount : I128} {event : Event Address}
    (tokenAddress : w.storage.tokenAddress = some token)
    (refused : env.invokeContract token "transfer"
      [.address sender, .address recipient, .i128 amount] w.outside = none → Q .crossCall) :
    TrapsOnly Q (do
      let token ← getTokenAddress
      tokenTransfer env token sender recipient amount
      publish event : Computation Address X Unit) w := by
  unfold getTokenAddress tokenTransfer
  rw [bind_assoc]
  refine trapsOnly_loadStorage (trapsOnly_expect_some tokenAddress ?_)
  exact trapsOnly_callContract refused fun x _ => trapsOnly_last (trapsOnly_publish trapsOnly_pure)

/-- The council and the token are the configuration of the treasury. -/
theorem stored_of_config {s : Storage Address} (configured : config s = some (council, token)) :
    s.adminCouncil = some council ∧ s.tokenAddress = some token := by
  simp only [config, Option.bind_eq_bind, Option.bind_eq_some_iff, Option.some.injEq,
    Prod.mk.injEq] at configured
  obtain ⟨_, stored, _, tokenAddress, rfl, rfl⟩ := configured
  exact ⟨stored, tokenAddress⟩

/-- The calls of a configured treasury trap for these reasons only. -/
theorem trapsOnly_dispatch (accepted : ¬ council.Invalid)
    (stored : w.storage.adminCouncil = some council)
    (tokenAddress : w.storage.tokenAddress = some token) (c : Call Address) :
    TrapsOnly (TrapCause env council token w c) (dispatch env c) w := by
  cases c with
  | getBalance =>
      refine trapsOnly_bind_pure ?_
      unfold getBalance loadBalance
      exact trapsOnly_load
  | getHistory entryId =>
      exact trapsOnly_bind_pure (trapsOnly_loadStorage (trapsOnly_last
        (trapsOnly_okOr fun entry _ => trapsOnly_pure)))
  | initializeContract council' tokenAddress' =>
      refine trapsOnly_bind_pure (trapsOnly_loadStorage (trapsOnly_rejectIf fun hnone => ?_))
      rw [stored] at hnone
      exact absurd rfl hnone
  | deposit a amount =>
      refine trapsOnly_bind_pure (trapsOnly_requireAuth .unsigned ?_)
      refine trapsOnly_rejectIf fun positive => trapsOnly_loadStorage ?_
      refine trapsOnly_okOr fun newBalance _ => trapsOnly_updateStorage (trapsOnly_loadStorage ?_)
      refine trapsOnly_okOr fun lifetimeDeposited _ => trapsOnly_updateStorage ?_
      refine trapsOnly_setEntry (fun full => .fullHistory trivial full) fun s kept => ?_
      exact trapsOnly_transfer (kept.trans tokenAddress) fun refused =>
        .undeposited (not_le.mp positive) refused
  | withdraw a amount memo =>
      refine trapsOnly_bind_pure (trapsOnly_requireCouncilAuth accepted stored
        (fun m member unsigned => .unapproved trivial member unsigned) ?_)
      refine trapsOnly_rejectIf fun positive => trapsOnly_loadStorage ?_
      refine trapsOnly_rejectIf fun covered => trapsOnly_okOr fun newBalance _ => ?_
      refine trapsOnly_updateStorage (trapsOnly_loadStorage ?_)
      refine trapsOnly_okOr fun lifetimeWithdrawn _ => trapsOnly_updateStorage ?_
      refine trapsOnly_setEntry (fun full => .fullHistory trivial full) fun s kept => ?_
      exact trapsOnly_transfer (kept.trans tokenAddress) fun refused =>
        .unpaid (not_le.mp positive) (not_lt.mp covered) refused
  | createProgram name budget =>
      refine trapsOnly_bind_pure (trapsOnly_requireCouncilAuth accepted stored
        (fun m member unsigned => .unapproved trivial member unsigned) ?_)
      refine trapsOnly_rejectIf fun _ => trapsOnly_rejectIf fun _ => ?_
      refine trapsOnly_bind ?_ fun programId _ _ => ?_
      · refine trapsOnly_loadStorage (trapsOnly_expect (fun full => ?_) fun nextId _ => ?_)
        · exact .fullPrograms (MachineInt.val_eq_max_of_full rfl full)
        · exact trapsOnly_updateStorage trapsOnly_pure
      · exact trapsOnly_updateStorage (trapsOnly_publish trapsOnly_pure)
  | updateProgramBudget programId newBudget =>
      refine trapsOnly_bind_pure (trapsOnly_requireCouncilAuth accepted stored
        (fun m member unsigned => .unapproved trivial member unsigned) ?_)
      refine trapsOnly_loadStorage (trapsOnly_okOr fun program _ => trapsOnly_rejectIf fun _ => ?_)
      exact trapsOnly_updateStorage (trapsOnly_last (trapsOnly_publish trapsOnly_pure))
  | deactivateProgram programId =>
      refine trapsOnly_bind_pure (trapsOnly_requireCouncilAuth accepted stored
        (fun m member unsigned => .unapproved trivial member unsigned) ?_)
      refine trapsOnly_loadStorage (trapsOnly_okOr fun program _ => ?_)
      exact trapsOnly_updateStorage (trapsOnly_last (trapsOnly_publish trapsOnly_pure))
  | getProgram programId =>
      exact trapsOnly_bind_pure (trapsOnly_loadStorage (trapsOnly_last
        (trapsOnly_okOr fun program _ => trapsOnly_pure)))
  | allocate programId amount =>
      refine trapsOnly_bind_pure (trapsOnly_requireCouncilAuth accepted stored
        (fun m member unsigned => .unapproved trivial member unsigned) ?_)
      refine trapsOnly_rejectIf fun _ => trapsOnly_loadStorage (trapsOnly_okOr fun program _ => ?_)
      refine trapsOnly_rejectIf fun _ => trapsOnly_okOr fun newSpent _ => ?_
      refine trapsOnly_rejectIf fun _ => trapsOnly_loadStorage (trapsOnly_rejectIf fun _ => ?_)
      refine trapsOnly_updateStorage (trapsOnly_okOr fun newBalance _ => ?_)
      refine trapsOnly_updateStorage (trapsOnly_loadStorage ?_)
      refine trapsOnly_okOr fun lifetimeAllocated _ => trapsOnly_updateStorage ?_
      -- An allocation moves no tokens, so the counter of the history is the last thing to fail.
      refine trapsOnly_setEntry (fun full => .fullHistory trivial full) fun s _ => ?_
      exact trapsOnly_last (trapsOnly_publish trapsOnly_pure)
  | getTreasuryStats =>
      exact trapsOnly_bind_pure (trapsOnly_loadStorage (trapsOnly_loadStorage trapsOnly_pure))

end Treasury

/-! ## The distributor

`distribute` calls two contracts, first the token and then the treasury, and each may refuse.
The reasons name the share that is paid, as the configuration and the batch size give it, and the
order: the treasury is called only after the token has let the share go.  `claim` calls the token
once, for what the relay has not claimed.
-/

namespace FeeDistributor

variable {Address X : Type} {env : Env Address X} {fees : FeeConfig Address}
  {treasury token : Address} {w : State Address X}

/-- Why a call of the distributor traps. -/
inductive TrapCause (env : Env Address X) (fees : FeeConfig Address) (treasury token : Address)
    (w : State Address X) : Call Address → Trap → Prop where
  /-- The relay has not signed its claim. -/
  | unsigned {a : Address} (unsigned : env.authorised a = false) :
      TrapCause env fees treasury token w (.claim a) .unauthorised
  /-- A council member that the gate asks has not signed. -/
  | unapproved {newFeeRateBps : U32} {m : Address} (member : m ∈ firstMembers fees.council)
      (unsigned : env.authorised m = false) :
      TrapCause env fees treasury token w (.setFeeRate newFeeRateBps) .unauthorised
  /-- The token refuses the treasury's share. -/
  | unshared {a : Address} {batchId : U64} {batchSize : U32} {share : I128}
      (share_eq : share.val = shareOf (feeOf batchSize fees.feeRateBps) fees.treasuryShareBps)
      (positive : 0 < share.val)
      (refused : env.invokeContract token "transfer"
        [.address env.currentContract, .address treasury, .i128 share] w.outside = none) :
      TrapCause env fees treasury token w (.distribute a batchId batchSize) .crossCall
  /-- The treasury refuses the deposit of its share. -/
  | undeposited {a : Address} {batchId : U64} {batchSize : U32} {share : I128} {x : X}
      (share_eq : share.val = shareOf (feeOf batchSize fees.feeRateBps) fees.treasuryShareBps)
      (positive : 0 < share.val)
      (paid : env.invokeContract token "transfer"
        [.address env.currentContract, .address treasury, .i128 share] w.outside = some x)
      (refused : env.invokeContract treasury "deposit"
        [.address env.currentContract, .i128 share] x = none) :
      TrapCause env fees treasury token w (.distribute a batchId batchSize) .crossCall
  /-- The token refuses what the relay has earned. -/
  | unpaid {a : Address} (earned : (earningsOf w.storage a).unclaimed ≠ 0)
      (refused : env.invokeContract token "transfer"
        [.address env.currentContract, .address a, .i128 (earningsOf w.storage a).unclaimed]
        w.outside = none) :
      TrapCause env fees treasury token w (.claim a) .crossCall

variable {β : Type} {Q : Trap → Prop}

/-- The configuration of a configured distributor is found. -/
theorem trapsOnly_getFeeConfig {f : FeeConfig Address → Distributor Address X β}
    (stored : w.storage.feeConfig = some fees) (rest : TrapsOnly Q (f fees) w) :
    TrapsOnly Q (getFeeConfig >>= f) w := by
  unfold getFeeConfig
  rw [bind_assoc]
  exact trapsOnly_loadStorage (trapsOnly_expect_some stored rest)

/-- The fee does not trap: what overflows in it is answered with an error. -/
theorem trapsOnly_calculateFee {batchSize : U32} (stored : w.storage.feeConfig = some fees) :
    TrapsOnly Q (calculateFee batchSize : Distributor Address X I128) w := by
  refine trapsOnly_rejectIf fun _ => trapsOnly_getFeeConfig stored ?_
  refine trapsOnly_okOr fun total _ => trapsOnly_last ?_
  exact trapsOnly_okOr fun fee _ => trapsOnly_pure

/-- The share moves and is deposited, unless the token or the treasury refuses. -/
theorem trapsOnly_payTreasury {share : I128}
    (treasuryAddress : w.storage.treasuryAddress = some treasury)
    (tokenAddress : w.storage.tokenAddress = some token)
    (unshared : 0 < share.val → env.invokeContract token "transfer"
      [.address env.currentContract, .address treasury, .i128 share] w.outside = none →
        Q .crossCall)
    (undeposited : ∀ x, 0 < share.val → env.invokeContract token "transfer"
      [.address env.currentContract, .address treasury, .i128 share] w.outside = some x →
        env.invokeContract treasury "deposit" [.address env.currentContract, .i128 share] x =
          none → Q .crossCall) :
    TrapsOnly Q (payTreasury env share : Distributor Address X Unit) w := by
  unfold payTreasury getTreasuryAddress getTokenAddress tokenTransfer
  split
  · rename_i positive
    rw [bind_assoc]
    refine trapsOnly_loadStorage (trapsOnly_expect_some treasuryAddress ?_)
    rw [bind_assoc]
    refine trapsOnly_loadStorage (trapsOnly_expect_some tokenAddress ?_)
    refine trapsOnly_callContract (unshared positive) fun x paid => trapsOnly_last ?_
    exact trapsOnly_callContract (undeposited x positive paid) fun _ _ => trapsOnly_pure
  · exact trapsOnly_pure

/-- The rate is the one part of what is stored that the configuration leaves open. -/
theorem stored_of_config {s : Storage Address} {council : AdminCouncil Address}
    {treasuryShareBps : U32}
    (configured : config s = some (council, treasuryShareBps, treasury, token)) :
    (∃ fees, s.feeConfig = some fees ∧ fees.council = council ∧
      fees.treasuryShareBps = treasuryShareBps) ∧
      s.treasuryAddress = some treasury ∧ s.tokenAddress = some token := by
  simp only [config, Option.bind_eq_bind, Option.bind_eq_some_iff, Option.some.injEq,
    Prod.mk.injEq] at configured
  obtain ⟨fees, stored, _, treasuryAddress, _, tokenAddress, rfl, rfl, rfl, rfl⟩ := configured
  exact ⟨⟨fees, stored, rfl, rfl⟩, treasuryAddress, tokenAddress⟩

/-- The calls of a configured distributor trap for these reasons only. -/
theorem trapsOnly_dispatch [DecidableEq Address] (accepted : ¬ fees.council.Invalid)
    (stored : w.storage.feeConfig = some fees)
    (treasuryAddress : w.storage.treasuryAddress = some treasury)
    (tokenAddress : w.storage.tokenAddress = some token) (c : Call Address) :
    TrapsOnly (TrapCause env fees treasury token w c) (dispatch env c) w := by
  cases c with
  | initializeContract council' feeRateBps treasuryShareBps treasury' token' =>
      refine trapsOnly_bind_pure (trapsOnly_loadStorage (trapsOnly_rejectIf fun hnone => ?_))
      rw [stored] at hnone
      exact absurd rfl hnone
  | calculateFee batchSize => exact trapsOnly_bind_pure (trapsOnly_calculateFee stored)
  | distribute a batchId batchSize =>
      refine trapsOnly_bind_pure (trapsOnly_loadStorage (trapsOnly_rejectIf fun _ => ?_))
      refine trapsOnly_bind (trapsOnly_calculateFee stored) fun fee w' returned => ?_
      -- The share is computed from the fee that `calculate_fee` has returned, at the rate in
      -- force.
      obtain ⟨-, fees', hfees', hfee, rfl⟩ := returns_calculateFee.mp returned
      obtain rfl : fees = fees' := Option.some.inj (stored.symm.trans hfees')
      refine trapsOnly_getFeeConfig stored (trapsOnly_okOr fun scaled hscaled => ?_)
      refine trapsOnly_okOr fun share hshare => trapsOnly_okOr fun payout _ => ?_
      have share_eq :
          share.val = shareOf (feeOf batchSize fees.feeRateBps) fees.treasuryShareBps := by
        refine exists_share_iff.mp ⟨scaled, ?_, (MachineInt.checkedDiv_eq_some_iff.mp hshare).2⟩
        rw [MachineInt.checkedMul_eq_some_iff.mp hscaled, MachineInt.cast_u32_i128_val, hfee]
      refine trapsOnly_loadStorage (trapsOnly_okOr fun totalEarned _ => ?_)
      refine trapsOnly_okOr fun unclaimed _ => trapsOnly_updateStorage (trapsOnly_updateStorage ?_)
      refine trapsOnly_bind (trapsOnly_payTreasury treasuryAddress tokenAddress ?_ ?_)
        fun _ _ _ => trapsOnly_last (trapsOnly_publish trapsOnly_pure)
      · intro positive refused
        exact .unshared share_eq positive refused
      · intro x positive paid refused
        exact .undeposited share_eq positive paid refused
  | claim a =>
      refine trapsOnly_bind_pure (trapsOnly_requireAuth .unsigned (trapsOnly_loadStorage ?_))
      refine trapsOnly_rejectIf fun earned => trapsOnly_okOr fun totalClaimed _ => ?_
      refine trapsOnly_updateStorage (trapsOnly_publish ?_)
      unfold getTokenAddress tokenTransfer
      rw [bind_assoc]
      refine trapsOnly_loadStorage (trapsOnly_expect_some tokenAddress ?_)
      exact trapsOnly_callContract (fun refused => .unpaid earned refused) fun x _ => trapsOnly_pure
  | getEarnings a =>
      refine trapsOnly_bind_pure ?_
      unfold getEarnings loadEarnings
      exact trapsOnly_load
  | setFeeRate newFeeRateBps =>
      refine trapsOnly_bind_pure (trapsOnly_getFeeConfig stored ?_)
      refine trapsOnly_bind (trapsOnly_requireAuthOfCouncil accepted fun m => .unapproved)
        fun _ w' passed => ?_
      obtain rfl := requireAuthOfCouncil_world passed
      refine trapsOnly_rejectIf fun _ => trapsOnly_updateStorage ?_
      exact trapsOnly_last (trapsOnly_publish trapsOnly_pure)

end FeeDistributor

/-! ## The resolver

The resolver calls no other contract.  It traps in `raise_dispute` when the counter or the
deadline runs over, and in `resolve` when a key is missing or a signature is not valid.  Keys are
read for both parties before a proof is looked at, and a proof that the host refuses fails the
invocation, so none of these is answered with an error of the contract.
-/

namespace DisputeResolver

variable {Address X : Type} {ed25519 : Ed25519} {env : Env Address X} {window : U32}
  {w : State Address X}

/-- Why a call of the resolver traps. -/
inductive TrapCause (ed25519 : Ed25519) (env : Env Address X) (window : U32)
    (w : State Address X) : Call Address → Trap → Prop where
  /-- Who raises the dispute has not signed. -/
  | unsignedDispute {initiator respondent : Address} {txId : BytesN 32} {proof : RelayChainProof}
      (unsigned : env.authorised initiator = false) :
      TrapCause ed25519 env window w (.raiseDispute initiator respondent txId proof) .unauthorised
  /-- Who answers it has not signed. -/
  | unsignedAnswer {respondent : Address} {id : U64} {proof : RelayChainProof}
      (unsigned : env.authorised respondent = false) :
      TrapCause ed25519 env window w (.respond respondent id proof) .unauthorised
  /-- The number of disputes is at the end of `u64`. -/
  | full {initiator respondent : Address} {txId : BytesN 32} {proof : RelayChainProof}
      (full : (w.storage.disputeCount.getD 0).val = 18446744073709551615) :
      TrapCause ed25519 env window w (.raiseDispute initiator respondent txId proof)
        (.panic "dispute count overflow")
  /-- The deadline is no `u32`. -/
  | late {initiator respondent : Address} {txId : BytesN 32} {proof : RelayChainProof}
      (late : 4294967295 < env.sequence.val + window.val) :
      TrapCause ed25519 env window w (.raiseDispute initiator respondent txId proof) .overflow
  /-- One of the parties has no public key. -/
  | unregistered {id : U64} {d : Dispute Address} {a : Address} {proof : RelayChainProof}
      (found : w.storage.dispute.get id = some d) (responded : d.status = .responded)
      (party : d.Submitted a proof) (unregistered : w.storage.publicKey.get a = none) :
      TrapCause ed25519 env window w (.resolve id) (.panic "public key not registered for address")
  /-- The signature of one of the proofs does not verify. -/
  | invalid {id : U64} {d : Dispute Address} {a : Address} {proof : RelayChainProof}
      {publicKey : BytesN 32} (found : w.storage.dispute.get id = some d)
      (responded : d.status = .responded) (party : d.Submitted a proof)
      (registered : w.storage.publicKey.get a = some publicKey)
      (invalid : ed25519 publicKey proof.chainHash.bytes proof.signature = false) :
      TrapCause ed25519 env window w (.resolve id) .hostFunction

variable {β : Type} {Q : Trap → Prop}

/-- The counter panics at its end, and is moved on otherwise. -/
theorem trapsOnly_getNextDisputeId {f : U64 → Resolver Address X β}
    (full : (w.storage.disputeCount.getD 0).val = 18446744073709551615 →
      Q (.panic "dispute count overflow"))
    (rest : ∀ id, TrapsOnly Q (f id)
      { w with storage := { w.storage with disputeCount := some id } }) :
    TrapsOnly Q (getNextDisputeId >>= f) w := by
  refine trapsOnly_bind ?_ fun id w' returned => ?_
  · refine trapsOnly_loadStorage (trapsOnly_expect (fun none => ?_) fun count _ => ?_)
    · exact full (MachineInt.val_eq_max_of_full rfl none)
    · exact trapsOnly_updateStorage trapsOnly_pure
  · obtain ⟨-, rfl⟩ := returns_getNextDisputeId.mp returned
    exact rest id

/-- A key that is missing is a panic of the source. -/
theorem trapsOnly_getPublicKey {a : Address} {f : BytesN 32 → Resolver Address X β}
    (missing : w.storage.publicKey.get a = none →
      Q (.panic "public key not registered for address"))
    (rest : ∀ publicKey, w.storage.publicKey.get a = some publicKey → TrapsOnly Q (f publicKey) w) :
    TrapsOnly Q (getPublicKey a >>= f) w := by
  unfold getPublicKey
  rw [bind_assoc]
  exact trapsOnly_loadStorage (trapsOnly_expect missing rest)

/-- The host function fails the invocation; it does not return `false`. -/
theorem trapsOnly_ed25519Verify {publicKey : BytesN 32} {message : List UInt8}
    {signature : BytesN 64} {f : Unit → Resolver Address X β}
    (invalid : ed25519 publicKey message signature = false → Q .hostFunction)
    (rest : TrapsOnly Q (f ()) w) :
    TrapsOnly Q (ed25519Verify ed25519 publicKey message signature >>= f) w := by
  unfold ed25519Verify
  split
  · exact rest
  · rename_i refused
    exact trapsOnly_bind (trapsOnly_trap (invalid (Bool.eq_false_of_not_eq_true refused)))
      fun _ _ returned => absurd returned returns_trap

/-- So a proof that is looked at any further is valid. -/
theorem trapsOnly_verifyProof {publicKey : BytesN 32} {proof : RelayChainProof}
    {f : Bool → Resolver Address X β}
    (invalid : ed25519 publicKey proof.chainHash.bytes proof.signature = false → Q .hostFunction)
    (rest : TrapsOnly Q (f true) w) :
    TrapsOnly Q (verifyProof ed25519 publicKey proof >>= f) w := by
  unfold verifyProof
  dsimp only
  rw [bind_assoc]
  exact trapsOnly_ed25519Verify invalid rest

/-- A ruling is stored and published without a condition. -/
theorem trapsOnly_issueRuling {id : U64} {d : Dispute Address} {ruling : Ruling Address} :
    TrapsOnly Q (issueRuling id d ruling : Resolver Address X (Ruling Address)) w :=
  trapsOnly_updateStorage (trapsOnly_updateStorage (trapsOnly_publish trapsOnly_pure))

/-- The window is part of the configuration. -/
theorem resolutionWindow_of_config {s : Storage Address} {council : AdminCouncil Address}
    (configured : config s = some (council, window)) : s.resolutionWindow = some window := by
  simp only [config, Option.bind_eq_bind, Option.bind_eq_some_iff, Option.some.injEq,
    Prod.mk.injEq] at configured
  obtain ⟨_, -, _, stored, -, rfl⟩ := configured
  exact stored

/-- The calls of a configured resolver trap for these reasons only. -/
theorem trapsOnly_dispatch [DecidableEq Address] (stored : w.storage.adminCouncil.isSome)
    (resolutionWindow : w.storage.resolutionWindow = some window) (c : Call Address) :
    TrapsOnly (TrapCause ed25519 env window w c) (dispatch ed25519 env c) w := by
  cases c with
  | initializeContract council' resolutionWindow' =>
      refine trapsOnly_bind_pure (trapsOnly_loadStorage (trapsOnly_rejectIf fun hnone => ?_))
      exact absurd stored hnone
  | raiseDispute initiator respondent txId proof =>
      refine trapsOnly_bind_pure (trapsOnly_requireAuth .unsignedDispute ?_)
      refine trapsOnly_rejectIf fun _ => trapsOnly_loadStorage (trapsOnly_rejectIf fun _ => ?_)
      -- After the checks, the counter and the deadline are what can still go wrong.
      refine trapsOnly_getNextDisputeId .full fun id => trapsOnly_loadStorage ?_
      refine trapsOnly_plus (fun high => ?_) fun resolveBy _ => ?_
      · refine .late ?_
        by_contra fits
        obtain ⟨deadline, hdeadline⟩ := MachineInt.exists_checkedAdd (a := env.sequence)
          (b := window) (MachineInt.u32_bounds window).1 (not_lt.mp fits)
        rw [resolutionWindow, Option.getD_some, hdeadline] at high
        cases high
      · refine trapsOnly_updateStorage (trapsOnly_updateStorage ?_)
        exact trapsOnly_publish trapsOnly_pure
  | respond respondent id proof =>
      refine trapsOnly_bind_pure (trapsOnly_requireAuth .unsignedAnswer ?_)
      refine trapsOnly_loadStorage (trapsOnly_okOr fun d _ => trapsOnly_rejectIf fun _ => ?_)
      refine trapsOnly_rejectIf fun _ => trapsOnly_rejectIf fun _ => ?_
      exact trapsOnly_updateStorage (trapsOnly_last (trapsOnly_publish trapsOnly_pure))
  | resolve id =>
      refine trapsOnly_bind_pure (trapsOnly_loadStorage (trapsOnly_okOr fun d found => ?_))
      refine trapsOnly_rejectIf fun _ => ?_
      dsimp only
      split
      · exact trapsOnly_rejectIf fun _ => trapsOnly_issueRuling
      · refine trapsOnly_rejectIf fun responded => trapsOnly_okOr fun proof hproof => ?_
        -- The keys of both parties are read before either proof is looked at, in this order.
        have responded : d.status = .responded := not_not.mp responded
        have initiator : d.Submitted d.initiator d.initiatorProof := Or.inl ⟨rfl, rfl⟩
        have respondent : d.Submitted d.respondent proof := Or.inr ⟨rfl, hproof⟩
        refine trapsOnly_getPublicKey (.unregistered found responded initiator)
          fun initiatorKey registered => ?_
        refine trapsOnly_getPublicKey (.unregistered found responded respondent)
          fun respondentKey registered' => ?_
        refine trapsOnly_verifyProof (.invalid found responded initiator registered) ?_
        refine trapsOnly_verifyProof (.invalid found responded respondent registered') ?_
        refine trapsOnly_bind ?_ fun _ _ _ => trapsOnly_issueRuling
        unfold decideRuling
        dsimp only
        split
        · exact trapsOnly_pure
        · exact trapsOnly_pure
  | getDispute id =>
      exact trapsOnly_bind_pure (trapsOnly_loadStorage (trapsOnly_last
        (trapsOnly_okOr fun d _ => trapsOnly_pure)))
  | getRuling id =>
      exact trapsOnly_bind_pure (trapsOnly_loadStorage (trapsOnly_last
        (trapsOnly_okOr fun ruling _ => trapsOnly_pure)))

end DisputeResolver

/-! ## The system

What the contracts' lemmas need of a state is that the configuration of the launch is stored.  No
entry point removes it, and only `set_fee_rate` rewrites a part of it, which is why the
distributor's rate is left open below.
-/

namespace Protocol

variable {Address : Type} [DecidableEq Address] {chain : Chain Address}
  {settings : Settings Address} {s : State Address} {ed25519 : DisputeResolver.Ed25519}

/-- The contracts are configured as they were launched. -/
structure Configured (chain : Chain Address) (settings : Settings Address) (s : State Address) :
    Prop where
  /-- The registry's council, minimum stake and lock period. -/
  registry : RelayRegistry.config s.registryWorld.storage =
    some (settings.registryCouncil, settings.minStake, settings.stakeLockPeriod)
  /-- The treasury's council, and the token it holds. -/
  treasury : Treasury.config s.treasury.storage = some (settings.treasuryCouncil, chain.token)
  /-- The distributor's council and share, and whom it pays with which token. -/
  distributor : FeeDistributor.config s.settlement.storage =
    some (settings.distributorCouncil, settings.treasuryShareBps, chain.treasury, chain.token)
  /-- The resolver's council and window. -/
  resolver : DisputeResolver.config s.resolver.storage =
    some (settings.resolverCouncil, settings.resolutionWindow)

/-- No step of the system writes what the launch has configured. -/
theorem configured_step (s : State Address) (action : Action chain)
    (configured : Configured chain settings s) :
    Configured chain settings ((machine ed25519 chain).step s action).2 where
  registry :=
    (registry_takes s action).invariant
      (fun w => RelayRegistry.config w.storage =
        some (settings.registryCouncil, settings.minStake, settings.stakeLockPeriod))
      (fun w action _ stored => (RelayRegistry.configures_dispatch.step w action stored).1)
      configured.registry
  treasury :=
    (treasury_takes s action).invariant
      (fun w => Treasury.config w.storage = some (settings.treasuryCouncil, chain.token))
      (fun w action _ stored => (Treasury.configures_dispatch.step w action stored).1)
      configured.treasury
  distributor :=
    (distributor_takes s action).invariant
      (fun w => FeeDistributor.config w.storage =
        some (settings.distributorCouncil, settings.treasuryShareBps, chain.treasury, chain.token))
      (fun w action _ stored => (FeeDistributor.configures_dispatch.step w action stored).1)
      configured.distributor
  resolver :=
    (resolver_takes s action).invariant
      (fun w => DisputeResolver.config w.storage =
        some (settings.resolverCouncil, settings.resolutionWindow))
      (fun w action _ stored => ((DisputeResolver.configures_dispatch ed25519).step w action
        stored).1)
      configured.resolver

/-- A launch stores the settings that it is given. -/
theorem Launched.configured (launched : Launched chain settings s) :
    Configured chain settings s where
  registry := by
    obtain ⟨w, u, h, hworld⟩ := launched.registry
    obtain ⟨-, -, -, rfl⟩ := RelayRegistry.returns_initializeContract_freshState.mp h
    rw [hworld]
    rfl
  treasury := by
    obtain ⟨u, h⟩ := launched.treasury
    rw [(Treasury.returns_initializeContract_freshState.mp h).2]
    rfl
  distributor := by
    obtain ⟨u, h⟩ := launched.distributor
    rw [(FeeDistributor.returns_initializeContract_freshState.mp h).2.2]
    rfl
  resolver := by
    obtain ⟨u, h⟩ := launched.resolver
    rw [(DisputeResolver.returns_initializeContract_freshState.mp h).2.2]
    rfl

/-- **Whatever traps a call comes from outside, or from a counter that is full.**  In every
state that a launched system reaches, a call of any of the contracts that is answered with a
trap is answered so for one of the reasons of `TrapCause`: a signature is missing, the token or
the treasury refuses, a key is missing or a signature does not verify, a counter is full, or a
deadline is no `u32`.  No panic of the source for a missing configuration or for insufficient
approvals is met.  Entries do not expire here, and the host's limits on what a transaction may
use are left aside. -/
theorem traps_explained (ed25519 : DisputeResolver.Ed25519)
    (launched : Launched chain settings s) (as : List (Action chain)) (tx : Tx chain) (t : Trap) :
    let m := machine ed25519 chain
    let reached := m.run s as
    (∀ c, (m.step reached (.registry tx c)).1 = .registry (some (.error (.trap t))) →
      RelayRegistry.TrapCause tx.registryEnv settings.registryCouncil chain.token
        reached.registryWorld c t) ∧
    (∀ c, (m.step reached (.treasury tx c)).1 =
        .settlement (.treasury (some (.error (.trap t)))) →
      Treasury.TrapCause (tx.treasuryEnv none) settings.treasuryCouncil chain.token
        reached.treasury c t) ∧
    (∀ c, (m.step reached (.distributor tx c)).1 =
        .settlement (.distributor (some (.error (.trap t)))) →
      ∃ fees, reached.settlement.storage.feeConfig = some fees ∧
        fees.council = settings.distributorCouncil ∧
        fees.treasuryShareBps = settings.treasuryShareBps ∧
        FeeDistributor.TrapCause tx.distributorEnv fees chain.treasury chain.token
          reached.settlement c t) ∧
    ∀ c, (m.step reached (.resolver tx c)).1 = .resolver (some (.error (.trap t))) →
      DisputeResolver.TrapCause ed25519 tx.resolverEnv settings.resolutionWindow
        reached.resolver c t := by
  intro m reached
  -- What `initialize` has stored is stored in every state of the run, so each contract is at a
  -- state to which its `trapsOnly_dispatch` applies.
  have configured : Configured chain settings reached :=
    m.run_invariant (Configured chain settings) configured_step launched.configured as
  refine ⟨fun c answered => ?_, fun c answered => ?_, fun c answered => ?_,
    fun c answered => ?_⟩
  · exact Deployed.trap_of_trapsOnly RelayRegistry.dispatch RelayRegistry.provide
      (RelayRegistry.trapsOnly_dispatch launched.accepted
        (RelayRegistry.adminCouncil_of_config configured.registry)
        (solvent_run ed25519 launched as).tokenAddress c) (Reply.registry.inj answered)
  · obtain ⟨u, h⟩ := launched.treasury
    obtain ⟨stored, tokenAddress⟩ := Treasury.stored_of_config configured.treasury
    exact Deployed.trap_of_trapsOnly Treasury.dispatch Treasury.provide
      (Treasury.trapsOnly_dispatch (Treasury.returns_initializeContract_freshState.mp h).1 stored
        tokenAddress c) (Settlement.Reply.treasury.inj (Reply.settlement.inj answered))
  · obtain ⟨u, h⟩ := launched.distributor
    obtain ⟨⟨fees, stored, council, treasuryShareBps⟩, treasuryAddress, tokenAddress⟩ :=
      FeeDistributor.stored_of_config configured.distributor
    have accepted : ¬ fees.council.Invalid :=
      council ▸ (FeeDistributor.returns_initializeContract_freshState.mp h).2.1
    refine ⟨fees, stored, council, treasuryShareBps, ?_⟩
    exact Deployed.trap_of_trapsOnly FeeDistributor.dispatch FeeDistributor.provide
      (FeeDistributor.trapsOnly_dispatch accepted stored treasuryAddress tokenAddress c)
      (Settlement.Reply.distributor.inj (Reply.settlement.inj answered))
  · have initialized : (DisputeResolver.config reached.resolver.storage).isSome := by
      rw [configured.resolver]
      rfl
    exact Deployed.trap_of_trapsOnly (DisputeResolver.dispatch ed25519) DisputeResolver.provide
      (DisputeResolver.trapsOnly_dispatch (DisputeResolver.initialized_of_config initialized)
        (DisputeResolver.resolutionWindow_of_config configured.resolver) c)
      (Reply.resolver.inj answered)

/-- Address 20, which has not signed, cannot register. -/
theorem traps_explained_bystander :
    RelayRegistry.TrapCause (sampleTx 8).registryEnv sampleSettings.registryCouncil
      sampleChain.token
      ((machine DisputeResolver.sampleEd25519 sampleChain).run sampleState
        sampleActions).registryWorld
      (.register 20 ⟨HostString.fromStr "eu", 10, 99⟩) .unauthorised :=
  (traps_explained DisputeResolver.sampleEd25519 sample_launched sampleActions (sampleTx 8)
    .unauthorised).1 (.register 20 ⟨HostString.fromStr "eu", 10, 99⟩) rfl

end Protocol
end StellarConduit
