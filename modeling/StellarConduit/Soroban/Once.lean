import StellarConduit.Soroban.Run

/-!
# Configuration that is written once

A contract is configured by one of its own entry points, which refuses to run a second time.
`Configured` bundles what the calls of a contract have to show for that, and `configured_once`
is what follows for its runs.

## Main definitions

* `ConfiguredOnce` — in no run does a second call configure the contract, and what the first
  one set is never changed.

## Main results

* `configuredOnce` — the run rule.
-/

namespace Soroban

open Contract

variable {Address σ X η ε ρ C P K : Type}

/-- After a call that configures the contract with `k` has returned, the configuration stays
`k`, and every other call that would configure the contract is answered `refusal`. -/
def ConfiguredOnce (m : Machine (World σ X η) (Action Address X C P) (Reply ε ρ))
    (configures : C → Option K) (config : σ → Option K) (refusal : ε) : Prop :=
  ∀ (w : World σ X η) (as : List (Action Address X C P)) hist r post env c k a,
    m.trace w as = hist ++ r :: post → r.action = .call env c → configures c = some k →
    r.reply = some (.ok a) →
      config (m.run w as).storage = some k ∧
        ∀ r' ∈ post, ∀ env' c', r'.action = .call env' c' → (configures c').isSome →
          r'.reply = some (.error (.error refusal))

/-- What the calls of a contract have to show. -/
structure Configures (dispatch : Env Address X → C → Contract (World σ X η) ε ρ)
    (provide : P → σ → σ) (configures : C → Option K) (config : σ → Option K) (refusal : ε) :
    Prop where
  /-- A call that configures sets what it is given. -/
  sets : ∀ {env c k w a w'}, configures c = some k → Returns (dispatch env c) w a w' →
    config w'.storage = some k
  /-- Once there is a configuration, it is refused. -/
  refuses : ∀ {env c k w}, configures c = some k → (config w.storage).isSome →
    Fails (dispatch env c) w (.error refusal) w
  /-- All other calls leave the configuration alone. -/
  keeps : ∀ {env c w a w'}, configures c = none → Returns (dispatch env c) w a w' →
    config w'.storage = config w.storage
  provides : ∀ p s, config (provide p s) = config s

namespace Configures

variable {dispatch : Env Address X → C → Contract (World σ X η) ε ρ} {provide : P → σ → σ}
  {configures : C → Option K} {config : σ → Option K} {refusal : ε}

/-- A step of a configured contract keeps the configuration, and refuses another. -/
theorem step (h : Configures dispatch provide configures config refusal) {k : K}
    (w : World σ X η) (action : Action Address X C P) (configured : config w.storage = some k) :
    config ((deployed dispatch provide).step w action).2.storage = some k ∧
      ∀ env c, action = .call env c → (configures c).isSome →
        ((deployed dispatch provide).step w action).1 = some (.error (.error refusal)) := by
  have refused {env : Env Address X} {c : C} {w : World σ X η} (stored : config w.storage = some k)
      (again : (configures c).isSome) : Fails (dispatch env c) w (.error refusal) w := by
    obtain ⟨k', hk'⟩ := Option.isSome_iff_exists.mp again
    refine h.refuses hk' ?_
    rw [stored]
    rfl
  constructor
  · refine Deployed.step_storage (fun s => config s = some k)
      (fun env c w a w' stored hcall => ?_) (fun p s stored => (h.provides p s).trans stored)
      w action configured
    by_cases again : (configures c).isSome
    · -- A call that is refused does not return.
      have failed := hcall.symm.trans (refused stored again)
      cases failed
    · exact (h.keeps (Option.not_isSome_iff_eq_none.mp again) hcall).trans stored
  · rintro env c rfl again
    exact Deployed.answer_of_fails dispatch provide (refused configured again)

/-- The run rule: what holds of calls holds of runs. -/
theorem configuredOnce (h : Configures dispatch provide configures config refusal) :
    ConfiguredOnce (deployed dispatch provide) configures config refusal := by
  intro w as hist r post env c k a split action first reply
  obtain ⟨pre, action', rest, rfl, -, rfl, rfl⟩ := (deployed dispatch provide).trace_split split
  obtain rfl : action' = .call env c := action
  have set : config ((deployed dispatch provide).record
      ((deployed dispatch provide).run w pre) (.call env c)).after.storage = some k :=
    h.sets first (Deployed.returns_of_reply dispatch provide rfl rfl reply)
  have kept (w : World σ X η) (action : Action Address X C P)
      (stored : config w.storage = some k) := (h.step w action stored).1
  rw [(deployed dispatch provide).run_append]
  refine ⟨(deployed dispatch provide).run_invariant (fun w => config w.storage = some k) kept set
    rest, fun r' later env' c' action' again => ?_⟩
  have before := (deployed dispatch provide).trace_invariant (fun w => config w.storage = some k)
    kept set later
  rw [← (deployed dispatch provide).record_of_mem_trace later]
  exact (h.step r'.before r'.action before).2 env' c' action' again

end Configures
end Soroban
