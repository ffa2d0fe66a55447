import StellarConduit.Soroban.Run
import StellarConduit.Soroban.Token

/-!
# Contracts that hold tokens

A contract that keeps books about tokens sees, of the rest of the chain, what
every address holds.  Its own calls reach the token through the host; the rest of
the chain moves tokens as it likes, up to a condition on what happens to the
holder's balance.

## Main definitions

* `TokenEnv` — what is assumed of one invocation: a transfer moves exactly its
  amount or traps, and nobody signs for the holder.
* `TokenStep` — a step of a run that respects this.
* `run_tokens` — what such steps preserve holds wherever they lead.
-/

namespace Soroban

variable {Address σ η ε ρ C P : Type} [DecidableEq Address]

/-- An invocation of `holder` in which a transfer of `token` moves exactly its
amount or traps.  Nobody signs for the holder, so it is neither the caller nor the
sender of someone else's transfer. -/
structure TokenEnv (holder token : Address) (env : Env Address (Balances Address)) : Prop where
  current : env.currentContract = holder
  unsigned : env.authorised holder = false
  transfer : ∀ {sender recipient : Address} {amount : I128} {b b' : Balances Address},
    env.invokeContract token "transfer" [.address sender, .address recipient, .i128 amount] b =
      some b' → b' = b.move sender recipient amount.val

/-- The token pays whatever the holder has: a transfer out of its account that its
balance covers goes through. -/
def Covered (holder token : Address) (env : Env Address (Balances Address)) : Prop :=
  ∀ (recipient : Address) (amount : I128) (b : Balances Address),
    0 < amount.val → amount.val ≤ b holder →
      ∃ b', env.invokeContract token "transfer"
        [.address holder, .address recipient, .i128 amount] b = some b'

/-- A ledger at time `now` on which everyone but `holder` signs, and every token moves
what the sender has. -/
def tokenLedger (holder : Address) (now : U64) : Env Address (Balances Address) where
  currentContract := holder
  sequence := 0
  timestamp := now
  authorised := fun a => decide (a ≠ holder)
  invokeContract := fun _ => tokenCall (fun b sender _ amount => amount.val ≤ b sender) fun _ => true

/-- The ledger of balances moves what the sender has, and refuses more. -/
theorem tokenLedger_transfer {holder token sender recipient : Address} {now : U64} {amount : I128}
    {b b' : Balances Address} :
    (tokenLedger holder now).invokeContract token "transfer"
        [.address sender, .address recipient, .i128 amount] b = some b' ↔
      amount.val ≤ b sender ∧ b' = b.move sender recipient amount.val := by
  simp [tokenLedger, tokenCall_transfer]

/-- The ledger of balances is a token as assumed. -/
theorem tokenLedger_tokenEnv (holder token : Address) (now : U64) :
    TokenEnv holder token (tokenLedger holder now) where
  current := rfl
  unsigned := by simp [tokenLedger]
  transfer h := (tokenLedger_transfer.mp h).2

/-- The ledger of balances pays what its holder has. -/
theorem tokenLedger_covered (holder token : Address) (now : U64) :
    Covered holder token (tokenLedger holder now) :=
  fun _ _ _ _ enough => ⟨_, tokenLedger_transfer.mpr ⟨enough, rfl⟩⟩

/-- Someone who authorised a call is not the holder. -/
theorem TokenEnv.ne_holder {holder token a : Address} {env : Env Address (Balances Address)}
    (tokens : TokenEnv holder token env) (h : env.authorised a = true) : holder ≠ a := by
  rintro rfl
  rw [tokens.unsigned] at h
  cases h

/-- A step of a run in which the holder's tokens move by its own calls, and
otherwise only as `Outside` allows. -/
def TokenStep {R : Type} (holder token : Address) (Outside : Int → Int → Prop)
    (r : Record (World σ (Balances Address) η) (Action Address (Balances Address) C P) R) : Prop :=
  match r.action with
  | .call env _ => TokenEnv holder token env
  | .provision _ => False
  | .elsewhere b => Outside (r.before.outside holder) (b holder)

namespace Deployed

/-- In a run of calls alone, what is assumed of every call is all that is assumed. -/
theorem tokenStep_of_calls {dispatch : Env Address (Balances Address) → C →
      Contract (World σ (Balances Address) η) ε ρ} {provide : P → σ → σ}
    {holder token : Address} {Outside : Int → Int → Prop} {w : World σ (Balances Address) η}
    {as : List (Action Address (Balances Address) C P)}
    (calls : ∀ action ∈ as, ∃ env c, action = .call env c ∧ TokenEnv holder token env) :
    ∀ r ∈ (deployed dispatch provide).trace w as, TokenStep holder token Outside r := by
  intro r hr
  obtain ⟨pre, action, post, rfl, rfl⟩ := (deployed dispatch provide).mem_trace.mp hr
  obtain ⟨env, c, rfl, tokens⟩ := calls action (by simp)
  exact tokens

variable {dispatch : Env Address (Balances Address) → C →
    Contract (World σ (Balances Address) η) ε ρ}
  {provide : P → σ → σ} {holder token : Address} {Outside : Int → Int → Prop}

/-- What calls and outside movements of tokens preserve holds wherever a run of
such steps leads. -/
theorem run_tokens (Inv : World σ (Balances Address) η → Prop)
    (hcall : ∀ env c w v w', TokenEnv holder token env → Inv w →
      Contract.Returns (dispatch env c) w v w' → Inv w')
    (houtside : ∀ w b, Outside (w.outside holder) (b holder) → Inv w →
      Inv { w with outside := b })
    {w : World σ (Balances Address) η} (start : Inv w)
    {as : List (Action Address (Balances Address) C P)}
    (tokens : ∀ r ∈ (deployed dispatch provide).trace w as, TokenStep holder token Outside r) :
    Inv ((deployed dispatch provide).run w as) := by
  refine run_allowed Inv (TokenStep holder token Outside) ?_ ?_ ?_ start tokens
  · intro env c w v w' tokens inv h
    exact hcall env c w v w' tokens inv h
  · intro p w allowed
    exact absurd allowed id
  · intro b w allowed inv
    exact houtside w b allowed inv

end Deployed
end Soroban
