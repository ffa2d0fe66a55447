import StellarConduit.DisputeResolver.Lifetime
import StellarConduit.FeeDistributor.Lifetime
import StellarConduit.RelayRegistry.Lifetime
import StellarConduit.Treasury.Lifetime

/-!
# The protocol with the lifetimes of its entries

Each of the four contracts keeps its entries alive by the same two constants, and the calls
to `extend_ttl` decide nothing but whether a call is answered at all.

## Main results

* `lifetimes_refine` — a run of any of the contracts, on any network, is a run without
  lifetimes of some of the same calls, which return the same values.
-/

namespace StellarConduit

open Soroban

theorem lifetimes_refine {Address X : Type} [DecidableEq Address] (network : Network)
    (ed25519 : DisputeResolver.Ed25519) :
    (∀ v as, (RelayRegistry.Ttl.contract Address X network).RunsPlainly v as) ∧
      (∀ v as, (FeeDistributor.Ttl.contract Address X network).RunsPlainly v as) ∧
      (∀ v as, (Treasury.Ttl.contract Address X network).RunsPlainly v as) ∧
      ∀ v as, (DisputeResolver.Ttl.contract Address X network ed25519).RunsPlainly v as :=
  ⟨LivingContract.plain_run _, LivingContract.plain_run _, LivingContract.plain_run _,
    LivingContract.plain_run _⟩

end StellarConduit
