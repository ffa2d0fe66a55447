import StellarConduit.Soroban.Contract

/-!
# A token

All that a caller may rely on of a token contract: `transfer` asks the sender for
its authorisation, then moves exactly its amount from the sender to the recipient
or traps.  When it traps is up to the token, so a token is its rule `accepts`,
and nothing is assumed of that rule.
-/

namespace Soroban

/-- What every address holds of a token. -/
abbrev Balances (Address : Type) : Type := Address → Int

/-- The rule by which a token accepts a transfer. -/
abbrev TransferRule (Address : Type) : Type := Balances Address → Address → Address → I128 → Bool

variable {Address : Type} [DecidableEq Address]

namespace Balances

variable {b : Balances Address} {a sender recipient : Address} {amount : Int}

/-- The balances after moving `amount` from `sender` to `recipient`. -/
def move (b : Balances Address) (sender recipient : Address) (amount : Int) : Balances Address :=
  fun a => b a + (if a = recipient then amount else 0) - if a = sender then amount else 0

/-- A move to someone else costs the sender the amount. -/
theorem move_sender (h : sender ≠ recipient) :
    b.move sender recipient amount sender = b sender - amount := by
  simp [move, h]

/-- A move touches no one but the two parties. -/
theorem move_of_ne (hsender : a ≠ sender) (hrecipient : a ≠ recipient) :
    b.move sender recipient amount a = b a := by
  simp [move, hsender, hrecipient]

/-- A move that is not negative takes only from its sender. -/
theorem le_move (h : a ≠ sender) (nonneg : 0 ≤ amount) : b a ≤ b.move sender recipient amount a := by
  simp only [move, if_neg h, sub_zero]
  split
  · exact le_add_of_nonneg_right nonneg
  · exact le_of_eq (add_zero _).symm

/-- One who is not the sender receives the amount, or nothing. -/
theorem move_of_ne_sender (h : a ≠ sender) :
    b.move sender recipient amount a = b a + if recipient = a then amount else 0 := by
  simp [move, h, eq_comm]

end Balances

/-- A call of a token: the balances it leaves, or `none` when it traps. -/
def tokenCall (accepts : TransferRule Address) (authorised : Address → Bool) (function : String)
    (args : List (Val Address)) (b : Balances Address) : Option (Balances Address) :=
  match args with
  | [.address sender, .address recipient, .i128 amount] =>
      if function = "transfer" ∧ authorised sender = true ∧ accepts b sender recipient amount = true
      then some (b.move sender recipient amount.val)
      else none
  | _ => none

/-- A transfer goes through when the sender authorised it and the token accepts
it, and then moves its amount. -/
theorem tokenCall_transfer {accepts : TransferRule Address} {authorised : Address → Bool}
    {sender recipient : Address} {amount : I128} {b b' : Balances Address} :
    tokenCall accepts authorised "transfer"
        [.address sender, .address recipient, .i128 amount] b = some b' ↔
      authorised sender = true ∧ accepts b sender recipient amount = true ∧
        b' = b.move sender recipient amount.val := by
  simp only [tokenCall, true_and, Option.ite_none_right_eq_some, Option.some.injEq, and_assoc]
  exact and_congr_right' (and_congr_right' eq_comm)

/-- A transfer through one who calls no other contract than the token. -/
theorem tokenCall_transfer_of {accepts : TransferRule Address} {authorised : Address → Bool}
    {contract token sender recipient : Address} {amount : I128} {b b' : Balances Address} :
    (if contract = token then
        tokenCall accepts authorised "transfer"
          [.address sender, .address recipient, .i128 amount] b
      else none) = some b' ↔
      contract = token ∧ authorised sender = true ∧ accepts b sender recipient amount = true ∧
        b' = b.move sender recipient amount.val := by
  rw [Option.ite_none_right_eq_some, tokenCall_transfer]

end Soroban
