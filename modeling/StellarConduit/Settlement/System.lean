import StellarConduit.FeeDistributor.Earnings
import StellarConduit.Soroban.Token
import StellarConduit.Treasury.Transition

/-!
# The distributor, the treasury and their token

`distribute` pays the treasury by two calls into other contracts.  Here these
are the contracts of this repository: the token the distributor calls is the one
the treasury calls, and `deposit` is the treasury's own.  The three worlds nest as
the calls do: what the distributor sees outside itself is the treasury, and what
the treasury sees outside itself is the token.

The nesting makes the rollback of the host a property of the model.  A call of the distributor
that fails after the treasury has taken its deposit leaves the treasury as it was, since the
state of the treasury is a part of the world that is rolled back.  It also gives a call of
another contract its meaning without a second mechanism: the environment of the distributor
answers `invokeContract` by running the treasury's `deposit` on that part.

The token is not a contract of the repository.  Its state is the balances, its one operation is a
transfer, and whether it accepts one is a parameter of the transaction; a transfer that it
accepts moves its amount and nothing else.

## Main definitions

* `Chain` — the addresses of the three contracts.
* `Tx` — what the host answers during one transaction, to whichever contract asks.
* `State`, `machine` — the composed system, in which any entry point of the two
  contracts and any token transfer may be called at any time.
* `Wired` — the distributor and the treasury know each other and one token; this
  is kept by every step (`wired_step`).

A transaction answers `require_auth` by who calls the asking contract.  Of the
answers two things are known: a contract's own calls carry its authorisation, and
nobody signs for the distributor.
-/

namespace StellarConduit.Settlement

open Soroban Contract

/-- The addresses of the fee distributor, its treasury and their token. -/
structure Chain (Address : Type) where
  distributor : Address
  treasury : Address
  token : Address
  /-- They are two contracts, -/
  treasury_ne_distributor : treasury ≠ distributor
  /-- and the token is another. -/
  token_ne_treasury : token ≠ treasury

variable {Address : Type}

/-- What the host and the token answer during one transaction. -/
structure Tx (chain : Chain Address) where
  /-- The ledger sequence number. -/
  sequence : U32
  /-- The ledger close time. -/
  timestamp : U64
  /-- Whether `require_auth` on an address returns in a contract called by
  `caller`; there is no caller in the root of the transaction. -/
  authorised : (caller : Option Address) → Address → Bool
  /-- When the token goes along with a transfer. -/
  accepts : TransferRule Address
  /-- A contract authorises the calls it makes itself. -/
  invoker : ∀ c, authorised (some c) c = true
  /-- Nobody signs for the distributor. -/
  unsigned : authorised none chain.distributor = false

/-- The composed system: the distributor's world, around the treasury's, around
the balances of the token. -/
abbrev State (Address : Type) : Type :=
  FeeDistributor.State Address (Treasury.State Address (Balances Address))

/-- What `a` holds of the token. -/
def tokenBalance (s : State Address) (a : Address) : Int := s.outside.outside a

/-- The treasury's world, over the token balances `b`. -/
def withBalances (t : Treasury.State Address (Balances Address)) (b : Balances Address) :
    Treasury.State Address (Balances Address) :=
  { t with outside := b }

/-- The treasury keeps its storage, -/
@[simp] theorem withBalances_storage (t : Treasury.State Address (Balances Address))
    (b : Balances Address) : (withBalances t b).storage = t.storage := rfl

/-- and sees these balances. -/
@[simp] theorem withBalances_outside (t : Treasury.State Address (Balances Address))
    (b : Balances Address) : (withBalances t b).outside = b := rfl

variable [DecidableEq Address] {chain : Chain Address}

namespace Tx

/-- The host's answers to the treasury, when `caller` calls it. -/
def treasuryEnv (tx : Tx chain) (caller : Option Address) : Env Address (Balances Address) where
  currentContract := chain.treasury
  sequence := tx.sequence
  timestamp := tx.timestamp
  authorised := tx.authorised caller
  invokeContract contract function args b :=
    if contract = chain.token then
      tokenCall tx.accepts (tx.authorised (some chain.treasury)) function args b
    else none

/-- A call of the treasury by another contract: of its entry points, only
`deposit` is called this way. -/
def treasuryCall (tx : Tx chain) (caller : Address) (function : String)
    (args : List (Val Address)) (t : Treasury.State Address (Balances Address)) :
    Option (Treasury.State Address (Balances Address)) :=
  match args with
  | [.address fromAddress, .i128 amount] =>
      if function = "deposit" then
        match Treasury.deposit (tx.treasuryEnv (some caller)) fromAddress amount t with
        | (.ok _, t') => some t'
        | (.error _, _) => none
      else none
  | _ => none

/-- The host's answers to the distributor. -/
def distributorEnv (tx : Tx chain) :
    Env Address (Treasury.State Address (Balances Address)) where
  currentContract := chain.distributor
  sequence := tx.sequence
  timestamp := tx.timestamp
  authorised := tx.authorised none
  invokeContract contract function args t :=
    if contract = chain.token then
      (tokenCall tx.accepts (tx.authorised (some chain.distributor)) function args t.outside).map
        (withBalances t)
    else if contract = chain.treasury then tx.treasuryCall chain.distributor function args t
    else none

variable {tx : Tx chain} {t t' : Treasury.State Address (Balances Address)}
  {b b' : Balances Address} {caller : Option Address} {sender recipient : Address} {amount : I128}

/-- The treasury's token transfers. -/
@[simp] theorem treasuryEnv_transfer :
    (tx.treasuryEnv caller).invokeContract chain.token "transfer"
        [.address sender, .address recipient, .i128 amount] b = some b' ↔
      tx.authorised (some chain.treasury) sender = true ∧
        tx.accepts b sender recipient amount = true ∧ b' = b.move sender recipient amount.val := by
  simp [treasuryEnv, tokenCall_transfer]

/-- The distributor's transfers out of its own account. -/
@[simp] theorem distributorEnv_transfer :
    tx.distributorEnv.invokeContract chain.token "transfer"
        [.address chain.distributor, .address recipient, .i128 amount] t = some t' ↔
      tx.accepts t.outside chain.distributor recipient amount = true ∧
        t' = withBalances t (t.outside.move chain.distributor recipient amount.val) := by
  simp only [distributorEnv, if_true, Option.map_eq_some_iff, tokenCall_transfer, tx.invoker,
    true_and]
  constructor
  · rintro ⟨b, ⟨haccepts, rfl⟩, rfl⟩
    exact ⟨haccepts, rfl⟩
  · rintro ⟨haccepts, rfl⟩
    exact ⟨_, ⟨haccepts, rfl⟩, rfl⟩

/-- The distributor's deposits are the treasury's `deposit`, called by the
distributor. -/
@[simp] theorem distributorEnv_deposit :
    tx.distributorEnv.invokeContract chain.treasury "deposit"
        [.address chain.distributor, .i128 amount] t = some t' ↔
      Returns (Treasury.deposit (tx.treasuryEnv (some chain.distributor)) chain.distributor amount)
        t () t' := by
  simp only [distributorEnv, if_neg chain.token_ne_treasury.symm, if_true, treasuryCall, Returns]
  rcases Treasury.deposit (tx.treasuryEnv (some chain.distributor)) chain.distributor amount t with
    ⟨e | u, t''⟩
  · simp
  · simp

end Tx

/-! ## The composed system -/

/-- A call at the root of a transaction. -/
inductive Action (chain : Chain Address) where
  /-- An entry point of the distributor. -/
  | distributor (tx : Tx chain) (call : FeeDistributor.Call Address)
  /-- An entry point of the treasury. -/
  | treasury (tx : Tx chain) (call : Treasury.Call Address)
  /-- A token transfer. -/
  | transfer (tx : Tx chain) (sender recipient : Address) (amount : I128)

/-- The answer to a call. -/
inductive Reply (Address : Type) where
  | distributor (reply : Soroban.Reply FeeDistributor.ContractError FeeDistributor.Value)
  | treasury (reply : Soroban.Reply Treasury.ContractError (Treasury.Value Address))
  | transfer (accepted : Bool)

/-- The three contracts as one machine. -/
def machine (chain : Chain Address) : Machine (State Address) (Action chain) (Reply Address) where
  step s
    | .distributor tx c =>
        (FeeDistributor.machine.step s (.call tx.distributorEnv c)).map .distributor id
    | .treasury tx c =>
        (Treasury.machine.step s.outside (.call (tx.treasuryEnv none) c)).map .treasury
          fun t => { s with outside := t }
    | .transfer tx sender recipient amount =>
        match tokenCall tx.accepts (tx.authorised none) "transfer"
          [.address sender, .address recipient, .i128 amount] s.outside.outside with
        | some b => (.transfer true, { s with outside := withBalances s.outside b })
        | none => (.transfer false, s)

/-- A recorded step of the system. -/
abbrev Step (chain : Chain Address) : Type := Record (State Address) (Action chain) (Reply Address)

variable {s : State Address}

/-- The record of a call of the distributor. -/
theorem record_distributor (tx : Tx chain) (c : FeeDistributor.Call Address) (s : State Address) :
    (∃ v s', Returns (FeeDistributor.dispatch tx.distributorEnv c) s v s' ∧
        (machine chain).record s (.distributor tx c) =
          ⟨s, .distributor tx c, .distributor (some (.ok v)), s'⟩) ∨
      ∃ e, (machine chain).record s (.distributor tx c) =
        ⟨s, .distributor tx c, .distributor (some (.error e)), s⟩ := by
  rcases Deployed.step_call_cases FeeDistributor.dispatch FeeDistributor.provide
    tx.distributorEnv c s with ⟨v, s', h, hstep⟩ | ⟨e, hstep⟩
  · exact Or.inl ⟨v, s', h, by simp [machine, FeeDistributor.machine, Machine.record, hstep]⟩
  · exact Or.inr ⟨e, by simp [machine, FeeDistributor.machine, Machine.record, hstep]⟩

/-- The record of a call of the treasury. -/
theorem record_treasury (tx : Tx chain) (c : Treasury.Call Address) (s : State Address) :
    (∃ v t, Returns (Treasury.dispatch (tx.treasuryEnv none) c) s.outside v t ∧
        (machine chain).record s (.treasury tx c) =
          ⟨s, .treasury tx c, .treasury (some (.ok v)), { s with outside := t }⟩) ∨
      ∃ e, (machine chain).record s (.treasury tx c) =
        ⟨s, .treasury tx c, .treasury (some (.error e)), s⟩ := by
  rcases Deployed.step_call_cases Treasury.dispatch Treasury.provide (tx.treasuryEnv none) c
    s.outside with
    ⟨v, t, h, hstep⟩ | ⟨e, hstep⟩
  · exact Or.inl ⟨v, t, h, by simp [machine, Treasury.machine, Machine.record, hstep]⟩
  · exact Or.inr ⟨e, by simp [machine, Treasury.machine, Machine.record, hstep]⟩

/-- The record of a token transfer. -/
theorem record_transfer (tx : Tx chain) (sender recipient : Address) (amount : I128)
    (s : State Address) :
    (tx.authorised none sender = true ∧
        (machine chain).record s (.transfer tx sender recipient amount) =
          ⟨s, .transfer tx sender recipient amount, .transfer true,
            { s with
              outside :=
                withBalances s.outside (s.outside.outside.move sender recipient amount.val) }⟩) ∨
      (machine chain).record s (.transfer tx sender recipient amount) =
        ⟨s, .transfer tx sender recipient amount, .transfer false, s⟩ := by
  cases hcall : tokenCall tx.accepts (tx.authorised none) "transfer"
    [.address sender, .address recipient, .i128 amount] s.outside.outside with
  | none => exact Or.inr (by simp [machine, Machine.record, hcall])
  | some b =>
      have hb := tokenCall_transfer.mp hcall
      exact Or.inl ⟨hb.1, by simp [machine, Machine.record, hcall, hb.2.2]⟩

/-- What the calls of the two contracts and the token's transfers preserve is preserved by
every step. -/
theorem step_invariant (Inv : State Address → Prop)
    (distributor : ∀ (tx : Tx chain) c v s s', Inv s →
      Returns (FeeDistributor.dispatch tx.distributorEnv c) s v s' → Inv s')
    (treasury : ∀ (tx : Tx chain) c v s t, Inv s →
      Returns (Treasury.dispatch (tx.treasuryEnv none) c) s.outside v t →
        Inv { s with outside := t })
    (transfer : ∀ s b, Inv s → Inv { s with outside := withBalances s.outside b })
    (s : State Address) (action : Action chain) (inv : Inv s) :
    Inv ((machine chain).step s action).2 := by
  rw [← Machine.record_after]
  cases action with
  | distributor tx c =>
      rcases record_distributor tx c s with ⟨v, s', h, hrecord⟩ | ⟨e, hrecord⟩
      · rw [hrecord]
        exact distributor tx c v s s' inv h
      · rw [hrecord]
        exact inv
  | treasury tx c =>
      rcases record_treasury tx c s with ⟨v, t, h, hrecord⟩ | ⟨e, hrecord⟩
      · rw [hrecord]
        exact treasury tx c v s t inv h
      · rw [hrecord]
        exact inv
  | transfer tx sender recipient amount =>
      rcases record_transfer tx sender recipient amount s with ⟨-, hrecord⟩ | hrecord
      · rw [hrecord]
        exact transfer s _ inv
      · rw [hrecord]
        exact inv

/-! ## Wiring -/

/-- The distributor is configured with this treasury and this token, and the
treasury with the same token. -/
structure Wired (chain : Chain Address) (s : State Address) : Prop where
  /-- The distributor has a fee configuration. -/
  feeConfig : s.storage.feeConfig.isSome
  /-- It pays this treasury, -/
  treasuryAddress : s.storage.treasuryAddress = some chain.treasury
  /-- with this token. -/
  tokenAddress : s.storage.tokenAddress = some chain.token
  /-- The treasury has a council, -/
  adminCouncil : s.outside.storage.adminCouncil.isSome
  /-- and the same token. -/
  treasuryToken : s.outside.storage.tokenAddress = some chain.token

/-- The state and the amount at which the treasury accepts the distributor's
deposit. -/
structure DepositAccepted (tx : Tx chain) (t : Treasury.State Address (Balances Address))
    (amount : I128) : Prop where
  /-- The treasury may take the tokens from the distributor. -/
  nested : tx.authorised (some chain.treasury) chain.distributor = true
  /-- The token moves the amount. -/
  accepts : tx.accepts t.outside chain.distributor chain.treasury amount = true
  /-- It is positive. -/
  positive : 0 < amount.val
  /-- The balance has room for it, -/
  balance : IntType.Contains ⟨true, 128⟩ ((t.storage.balance.getD 0).val + amount.val)
  /-- the lifetime total has, -/
  deposited : IntType.Contains ⟨true, 128⟩
    ((t.storage.stats.getD Treasury.TreasuryStats.zero).lifetimeDeposited.val + amount.val)
  /-- and the history has for its entry. -/
  nextId : IntType.Contains ⟨false, 64⟩ ((t.storage.entryCount.getD 0).val + 1)

section Calls

variable {tx : Tx chain} {t t' : Treasury.State Address (Balances Address)}
  {caller : Option Address} {fromAddress toAddress : Address} {amount : I128} {memo : HostString}

/-- A deposit that returns has moved its amount into the treasury. -/
theorem deposit_moves
    (h : Returns (Treasury.deposit (tx.treasuryEnv caller) fromAddress amount) t () t')
    (htoken : t.storage.tokenAddress = some chain.token) :
    tx.authorised caller fromAddress = true ∧
      t'.outside = t.outside.move fromAddress chain.treasury amount.val ∧
      t'.storage.adminCouncil = t.storage.adminCouncil ∧
      t'.storage.tokenAddress = t.storage.tokenAddress := by
  obtain ⟨hauth, -, newBalance, -, deposited, -, nextId, -, token, htoken', b, htransfer, rfl⟩ :=
    Treasury.returns_deposit.mp h
  obtain rfl : chain.token = token := Option.some.inj (htoken.symm.trans htoken')
  exact ⟨hauth, (Tx.treasuryEnv_transfer.mp htransfer).2.2, rfl, rfl⟩

/-- A withdrawal that returns has moved its amount out of the treasury. -/
theorem withdraw_moves
    (h : Returns (Treasury.withdraw (tx.treasuryEnv caller) toAddress amount memo) t () t')
    (htoken : t.storage.tokenAddress = some chain.token) :
    t'.outside = t.outside.move chain.treasury toAddress amount.val ∧
      t'.storage.adminCouncil = t.storage.adminCouncil ∧
      t'.storage.tokenAddress = t.storage.tokenAddress := by
  obtain ⟨-, -, -, newBalance, -, withdrawn, -, nextId, -, token, htoken', b, htransfer, rfl⟩ :=
    Treasury.returns_withdraw.mp h
  obtain rfl : chain.token = token := Option.some.inj (htoken.symm.trans htoken')
  exact ⟨(Tx.treasuryEnv_transfer.mp htransfer).2.2, rfl, rfl⟩

/-- The distributor's deposit returns exactly when it is accepted. -/
theorem deposit_returns_iff (wired : Wired chain s) (b : Balances Address) :
    (∃ t', Returns (Treasury.deposit (tx.treasuryEnv (some chain.distributor)) chain.distributor
        amount) (withBalances s.outside b) () t') ↔
      DepositAccepted tx (withBalances s.outside b) amount := by
  constructor
  · rintro ⟨t', h⟩
    obtain ⟨-, hpos, newBalance, hbalance, deposited, hdeposited, nextId, hnext, token, htoken', b,
      htransfer, -⟩ := Treasury.returns_deposit.mp h
    obtain rfl : chain.token = token := Option.some.inj (wired.treasuryToken.symm.trans htoken')
    obtain ⟨hnested, haccepts, -⟩ := Tx.treasuryEnv_transfer.mp htransfer
    exact
      { nested := hnested
        accepts := haccepts
        positive := hpos
        balance := MachineInt.contains_iff.mpr ⟨newBalance, hbalance⟩
        deposited := MachineInt.contains_iff.mpr ⟨deposited, hdeposited⟩
        nextId := MachineInt.contains_iff.mpr ⟨nextId, hnext⟩ }
  · intro accepted
    obtain ⟨newBalance, hbalance⟩ := MachineInt.contains_iff.mp accepted.balance
    obtain ⟨deposited, hdeposited⟩ := MachineInt.contains_iff.mp accepted.deposited
    obtain ⟨nextId, hnext⟩ := MachineInt.contains_iff.mp accepted.nextId
    have transfer : (tx.treasuryEnv (some chain.distributor)).invokeContract chain.token "transfer"
        [.address chain.distributor, .address chain.treasury, .i128 amount] b =
          some (b.move chain.distributor chain.treasury amount.val) :=
      Tx.treasuryEnv_transfer.mpr ⟨accepted.nested, accepted.accepts, rfl⟩
    exact ⟨_, Treasury.returns_deposit.mpr ⟨tx.invoker _, accepted.positive, newBalance, hbalance,
      deposited, hdeposited, nextId, hnext, chain.token, wired.treasuryToken, _, transfer, rfl⟩⟩

variable {share : I128}

/-- Paying a positive share is one transfer into the treasury, then a deposit. -/
theorem paysTreasury_iff (wired : Wired chain s) (positive : 0 < share.val) :
    FeeDistributor.PaysTreasury tx.distributorEnv s.storage share s.outside t' ↔
      tx.accepts s.outside.outside chain.distributor chain.treasury share = true ∧
        Returns (Treasury.deposit (tx.treasuryEnv (some chain.distributor)) chain.distributor share)
          (withBalances s.outside
            (s.outside.outside.move chain.distributor chain.treasury share.val)) () t' := by
  rw [FeeDistributor.PaysTreasury, if_pos positive]
  have self : tx.distributorEnv.currentContract = chain.distributor := rfl
  constructor
  · rintro ⟨treasury, htreasury, token, htoken, y, htransfer, hdeposit⟩
    obtain rfl : chain.treasury = treasury :=
      Option.some.inj (wired.treasuryAddress.symm.trans htreasury)
    obtain rfl : chain.token = token := Option.some.inj (wired.tokenAddress.symm.trans htoken)
    rw [self, Tx.distributorEnv_transfer] at htransfer
    rw [self, Tx.distributorEnv_deposit] at hdeposit
    obtain ⟨haccepts, rfl⟩ := htransfer
    exact ⟨haccepts, hdeposit⟩
  · rintro ⟨haccepts, hdeposit⟩
    exact ⟨chain.treasury, wired.treasuryAddress, chain.token, wired.tokenAddress, _,
      Tx.distributorEnv_transfer.mpr ⟨haccepts, rfl⟩, Tx.distributorEnv_deposit.mpr hdeposit⟩

/-- What paying the treasury does to the distributor's balance, and that the
treasury stays wired. -/
theorem paysTreasury_effect (wired : Wired chain s) (nonneg : 0 ≤ share.val)
    (h : FeeDistributor.PaysTreasury tx.distributorEnv s.storage share s.outside t') :
    t'.outside chain.distributor = tokenBalance s chain.distributor - 2 * share.val ∧
      t'.storage.adminCouncil = s.outside.storage.adminCouncil ∧
      t'.storage.tokenAddress = s.outside.storage.tokenAddress := by
  by_cases positive : 0 < share.val
  · obtain ⟨-, hdeposit⟩ := (paysTreasury_iff wired positive).mp h
    obtain ⟨-, houtside, hcouncil, htoken⟩ := deposit_moves hdeposit wired.treasuryToken
    refine ⟨?_, hcouncil, htoken⟩
    rw [houtside, withBalances_outside, Balances.move_sender chain.treasury_ne_distributor.symm,
      Balances.move_sender chain.treasury_ne_distributor.symm, tokenBalance]
    omega
  · rw [FeeDistributor.PaysTreasury, if_neg positive] at h
    subst h
    have zero : share.val = 0 := by omega
    simp [zero, tokenBalance]

end Calls

/-! ## The wiring is kept -/

/-- A call of the distributor that returns keeps the wiring. -/
theorem Wired.distributor_call (wired : Wired chain s) {tx : Tx chain}
    {c : FeeDistributor.Call Address} {v : FeeDistributor.Value} {s' : State Address}
    (h : Returns (FeeDistributor.dispatch tx.distributorEnv c) s v s') : Wired chain s' := by
  have outcome := FeeDistributor.outcome_of_returns wired.feeConfig h
  have configured := outcome.configured wired.feeConfig
  cases outcome with
  | distribute hcall =>
      obtain ⟨-, -, config, -, fee, hfee, share, hshare, payout, -, totalEarned, -, unclaimed, -, t,
        hpays, rfl⟩ := FeeDistributor.returns_distribute.mp hcall
      have nonneg : 0 ≤ share.val := by
        rw [hshare, hfee]
        exact FeeDistributor.shareOf_nonneg _ _ _
      obtain ⟨-, hcouncil, htoken⟩ := paysTreasury_effect wired nonneg hpays
      exact
        { wired with
          adminCouncil := hcouncil ▸ wired.adminCouncil
          treasuryToken := htoken ▸ wired.treasuryToken }
  | claim hcall =>
      obtain ⟨-, -, -, totalClaimed, -, token, htoken, t, htransfer, rfl⟩ :=
        FeeDistributor.returns_claim.mp hcall
      obtain rfl : chain.token = token := Option.some.inj (wired.tokenAddress.symm.trans htoken)
      obtain ⟨-, rfl⟩ := Tx.distributorEnv_transfer.mp htransfer
      exact { wired with }
  | other quiet kept =>
      exact
        { feeConfig := configured
          treasuryAddress := kept.treasuryAddress ▸ wired.treasuryAddress
          tokenAddress := kept.tokenAddress ▸ wired.tokenAddress
          adminCouncil := kept.outside ▸ wired.adminCouncil
          treasuryToken := kept.outside ▸ wired.treasuryToken }

/-- A call of the treasury that returns keeps the wiring. -/
theorem Wired.treasury_call (wired : Wired chain s) {tx : Tx chain} {c : Treasury.Call Address}
    {v : Treasury.Value Address} {t : Treasury.State Address (Balances Address)}
    (h : Returns (Treasury.dispatch (tx.treasuryEnv none) c) s.outside v t) :
    Wired chain { s with outside := t } := by
  obtain ⟨hcouncil, htoken⟩ : t.storage.adminCouncil = s.outside.storage.adminCouncil ∧
      t.storage.tokenAddress = s.outside.storage.tokenAddress := by
    cases Treasury.outcome_of_returns wired.adminCouncil h with
    | deposit hcall => exact (deposit_moves hcall wired.treasuryToken).2.2
    | withdraw hcall => exact (withdraw_moves hcall wired.treasuryToken).2
    | allocate hcall =>
        obtain ⟨-, -, _, -, -, _, -, -, -, _, -, _, -, _, -, rfl⟩ :=
          Treasury.returns_allocate.mp hcall
        exact ⟨rfl, rfl⟩
    | other quiet kept => exact ⟨kept.adminCouncil, kept.tokenAddress⟩
  exact
    { wired with
      adminCouncil := hcouncil ▸ wired.adminCouncil
      treasuryToken := htoken ▸ wired.treasuryToken }

/-- Neither contract is configured a second time. -/
theorem wired_step (s : State Address) (action : Action chain) (wired : Wired chain s) :
    Wired chain ((machine chain).step s action).2 := by
  refine step_invariant (Wired chain) ?distributor ?treasury ?transfer s action wired
  case distributor =>
    intro tx c v s s' wired h
    exact wired.distributor_call h
  case treasury =>
    intro tx c v s t wired h
    exact wired.treasury_call h
  case transfer =>
    intro s b wired
    exact { wired with }

end StellarConduit.Settlement
