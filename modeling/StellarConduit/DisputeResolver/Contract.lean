import StellarConduit.Council
import StellarConduit.Soroban.Bytes
import StellarConduit.Soroban.Run

/-!
# The dispute resolver contract

Disputes over a transaction, the two parties' relay chain proofs, and the ruling,
as `dispute-resolver/src` has them.

An entry point is the source's body in `do`-notation, statement by statement.  `resolve` is the
longest of them: a dispute without an answer and one with an answer take two branches that end
alike, and the decision between two proofs is a function of its own, `decideRuling`, with the
four arms of the source's `match`.  All four are here, also those that are never reached.

## Main definitions

* `RelayChainProof`, `Dispute`, `DisputeStatus`, `Ruling` — the records.
* `Storage` — one field per `DataKey`.
* `raiseDispute`, `respond`, `resolve`, `getDispute`, `getRuling` — the entry
  points.
* `machine` — the deployed contract.

Signature verification is the host's; `Ed25519` is its answer for a public key, a
message and a signature.  `ed25519_verify` returns on a valid signature and traps
on any other.  No entry point stores a public key;
`Provision.setPublicKey` is `storage::set_public_key` called by whoever deploys
the contract.
-/

namespace StellarConduit.DisputeResolver

open Soroban Contract

/-- Error codes returned by the dispute resolver. -/
inductive ContractError where
  | disputeNotFound
  | disputeAlreadyResolved
  | notResponded
  | invalidProofSignature
  | invalidChainHash
  | invalidConfig
  | invalidCouncilConfig
  | duplicateDispute
  | unauthorized
  | notOpen
  | resolutionWindowExpired
  | resolutionWindowActive
  | notInitialized
  | alreadyInitialized
  | invalidRespondent
  | unauthorizedRespondent
deriving DecidableEq, Repr

/-- Lifecycle status of a dispute. -/
inductive DisputeStatus where
  /-- Awaiting a counter-proof from the respondent. -/
  | opened
  /-- Counter-proof has been submitted, awaiting resolution. -/
  | responded
  /-- A final ruling has been issued. -/
  | resolved
  /-- Declared in the source, and set nowhere. -/
  | expired
deriving DecidableEq, Repr

/-- A cryptographic proof submitted by a party in a dispute. -/
structure RelayChainProof where
  /-- Ed25519 signature of the relay chain hash. -/
  signature : BytesN 64
  /-- Hash of the relay chain at the point of signing. -/
  chainHash : BytesN 32
  /-- Sequence number in the relay chain at signing. -/
  sequence : U64
deriving DecidableEq

/-- The primary on-chain record for a submitted dispute. -/
structure Dispute (Address : Type) where
  disputeId : U64
  /-- The transaction under dispute. -/
  txId : BytesN 32
  initiator : Address
  respondent : Address
  /-- Proof from the initiator. -/
  initiatorProof : RelayChainProof
  /-- The source's `OptionalRelayChainProof`. -/
  respondentProof : Option RelayChainProof
  status : DisputeStatus
  /-- Ledger timestamp of the raise. -/
  raisedAt : U64
  /-- Ledger sequence deadline for response. -/
  resolveBy : U64
deriving DecidableEq

/-- The final arbitration outcome. -/
structure Ruling (Address : Type) where
  disputeId : U64
  winner : Address
  loser : Address
  reason : HostString
  resolvedAt : U64
deriving DecidableEq

/-- The contract's storage, one field per key. -/
structure Storage (Address : Type) where
  dispute : Store U64 (Dispute Address)
  disputeCount : Option U64
  ruling : Store U64 (Ruling Address)
  resolutionWindow : Option U32
  adminCouncil : Option (AdminCouncil Address)
  txDispute : Store (BytesN 32) U64
  publicKey : Store Address (BytesN 32)

/-- The storage of a freshly deployed contract. -/
def Storage.fresh {Address : Type} : Storage Address where
  dispute := Store.empty
  disputeCount := none
  ruling := Store.empty
  resolutionWindow := none
  adminCouncil := none
  txDispute := Store.empty
  publicKey := Store.empty

/-- The published events. -/
inductive Event (Address : Type) where
  | raise (initiator : Address) (disputeId : U64) (txId : BytesN 32)
  | respond (respondent : Address) (disputeId : U64)
  | resolve (disputeId : U64) (winner loser : Address)
deriving DecidableEq

/-- What the resolver sees of the chain. -/
abbrev State (Address X : Type) : Type := World (Storage Address) X (Event Address)

/-- A computation of the resolver. -/
abbrev Resolver (Address X α : Type) : Type := Contract (State Address X) ContractError α

/-- The host's answer: is this a valid signature of the message under the key? -/
abbrev Ed25519 : Type := BytesN 32 → List UInt8 → BytesN 64 → Bool

section Code

variable {Address X : Type}

/-! ## Storage helpers -/

/-- `storage::get_dispute`. -/
def loadDispute (disputeId : U64) : Resolver Address X (Option (Dispute Address)) :=
  loadStorage fun s => s.dispute.get disputeId

/-- `storage::set_dispute`. -/
def setDispute (disputeId : U64) (dispute : Dispute Address) : Resolver Address X Unit :=
  updateStorage fun s => { s with dispute := s.dispute.set disputeId dispute }

/-- `storage::get_dispute_count`. -/
def getDisputeCount : Resolver Address X U64 := loadStorage fun s => s.disputeCount.getD 0

/-- `storage::get_next_dispute_id`. -/
def getNextDisputeId : Resolver Address X U64 := do
  let count ← getDisputeCount
  let count ← expect (count.checkedAdd 1) "dispute count overflow"
  updateStorage fun s => { s with disputeCount := some count }
  pure count

/-- `storage::get_ruling`. -/
def loadRuling (disputeId : U64) : Resolver Address X (Option (Ruling Address)) :=
  loadStorage fun s => s.ruling.get disputeId

/-- `storage::set_ruling`. -/
def setRuling (disputeId : U64) (ruling : Ruling Address) : Resolver Address X Unit :=
  updateStorage fun s => { s with ruling := s.ruling.set disputeId ruling }

/-- `storage::get_resolution_window`. -/
def getResolutionWindow : Resolver Address X U32 :=
  loadStorage fun s => s.resolutionWindow.getD 0

/-- `storage::get_dispute_by_tx`. -/
def getDisputeByTx (txId : BytesN 32) : Resolver Address X (Option U64) :=
  loadStorage fun s => s.txDispute.get txId

/-- `storage::set_dispute_by_tx`. -/
def setDisputeByTx (txId : BytesN 32) (disputeId : U64) : Resolver Address X Unit :=
  updateStorage fun s => { s with txDispute := s.txDispute.set txId disputeId }

/-- `storage::get_public_key`. -/
def getPublicKey (address : Address) : Resolver Address X (BytesN 32) := do
  expect (← loadStorage fun s => s.publicKey.get address)
    "public key not registered for address"

/-! ## Entry points -/

/-- `initialize`. -/
def initializeContract (council : AdminCouncil Address) (resolutionWindow : U32) :
    Resolver Address X Unit := do
  let has ← loadStorage fun s => s.adminCouncil.isSome
  rejectIf (has = true) .alreadyInitialized
  rejectIf (resolutionWindow = 0) .invalidConfig
  rejectIf council.Invalid .invalidCouncilConfig
  updateStorage fun s => { s with adminCouncil := some council }
  updateStorage fun s => { s with resolutionWindow := some resolutionWindow }

/-- `raise_dispute`: the deadline is added up as a `u32`, with a plain `+`. -/
def raiseDispute [DecidableEq Address] (env : Env Address X) (initiator respondent : Address)
    (txId : BytesN 32) (proof : RelayChainProof) : Resolver Address X U64 := do
  requireAuth env initiator
  rejectIf (initiator = respondent) .invalidRespondent
  let existing ← getDisputeByTx txId
  rejectIf (existing.isSome = true) .duplicateDispute
  let disputeId ← getNextDisputeId
  let resolutionWindow ← getResolutionWindow
  -- The sum is taken in `u32` and widened afterwards.
  let resolveBy ← plus env.sequence resolutionWindow
  setDispute disputeId
    { disputeId := disputeId
      txId := txId
      initiator := initiator
      respondent := respondent
      initiatorProof := proof
      respondentProof := none
      status := .opened
      raisedAt := env.timestamp
      resolveBy := resolveBy.cast }
  setDisputeByTx txId disputeId
  publish (.raise initiator disputeId txId)
  pure disputeId

/-- `respond`. -/
def respond [DecidableEq Address] (env : Env Address X) (respondent : Address) (disputeId : U64)
    (proof : RelayChainProof) : Resolver Address X Unit := do
  requireAuth env respondent
  let dispute ← okOr (← loadDispute disputeId) .disputeNotFound
  rejectIf (dispute.respondent ≠ respondent) .unauthorizedRespondent
  rejectIf (dispute.status ≠ .opened) .notOpen
  rejectIf ((env.sequence.cast : U64) > dispute.resolveBy) .resolutionWindowExpired
  setDispute disputeId { dispute with respondentProof := some proof, status := .responded }
  publish (.respond respondent disputeId)

/-- `env.crypto().ed25519_verify`. -/
def ed25519Verify (ed25519 : Ed25519) (publicKey : BytesN 32) (message : List UInt8)
    (signature : BytesN 64) : Resolver Address X Unit :=
  if ed25519 publicKey message signature then pure () else trap .hostFunction

/-- `verify_proof`: returns `true`, or traps in the host function. -/
def verifyProof (ed25519 : Ed25519) (publicKey : BytesN 32) (proof : RelayChainProof) :
    Resolver Address X Bool := do
  -- The sequence number is not part of the message.
  let message := proof.chainHash.bytes
  ed25519Verify ed25519 publicKey message proof.signature
  pure true

/-- The ruling tree of `resolve`: winner, loser and reason, from which of the two
proofs are valid. -/
def decideRuling (dispute : Dispute Address) (respondentProof : RelayChainProof) :
    (initiatorValid respondentValid : Bool) →
      Resolver Address X (Address × Address × HostString)
  | true, false =>
      pure (dispute.initiator, dispute.respondent, HostString.fromStr
        "Initiator proof valid; respondent proof failed signature verification")
  | false, true =>
      pure (dispute.respondent, dispute.initiator, HostString.fromStr
        "Respondent proof valid; initiator proof failed signature verification")
  | true, true =>
      if dispute.initiatorProof.sequence ≤ respondentProof.sequence then
        pure (dispute.initiator, dispute.respondent, HostString.fromStr
          "Both proofs valid; initiator has lower or equal sequence")
      else
        pure (dispute.respondent, dispute.initiator, HostString.fromStr
          "Both proofs valid; respondent has lower sequence")
  | false, false => err .invalidProofSignature

/-- The common end of both exits of `resolve`: the dispute is marked, the ruling
stored and announced. -/
def issueRuling (disputeId : U64) (dispute : Dispute Address) (ruling : Ruling Address) :
    Resolver Address X (Ruling Address) := do
  setDispute disputeId { dispute with status := .resolved }
  setRuling disputeId ruling
  publish (.resolve disputeId ruling.winner ruling.loser)
  pure ruling

/-- `resolve`. -/
def resolve (ed25519 : Ed25519) (env : Env Address X) (disputeId : U64) :
    Resolver Address X (Ruling Address) := do
  let dispute ← okOr (← loadDispute disputeId) .disputeNotFound
  rejectIf (dispute.status = .resolved) .disputeAlreadyResolved
  let currentSequence : U64 := env.sequence.cast
  if dispute.status = .opened then do
    rejectIf (currentSequence ≤ dispute.resolveBy) .resolutionWindowActive
    issueRuling disputeId dispute
      { disputeId := disputeId
        winner := dispute.initiator
        loser := dispute.respondent
        reason := HostString.fromStr "Respondent failed to respond within the resolution window"
        resolvedAt := env.timestamp }
  else do
    rejectIf (dispute.status ≠ .responded) .notResponded
    let respondent := dispute.respondent
    let respondentProof ← okOr dispute.respondentProof .notResponded
    let initiatorKey ← getPublicKey dispute.initiator
    let respondentKey ← getPublicKey respondent
    let initiatorValid ← verifyProof ed25519 initiatorKey dispute.initiatorProof
    let respondentValid ← verifyProof ed25519 respondentKey respondentProof
    let (winner, loser, reason) ←
      decideRuling dispute respondentProof initiatorValid respondentValid
    issueRuling disputeId dispute
      { disputeId := disputeId
        winner := winner
        loser := loser
        reason := reason
        resolvedAt := env.timestamp }

/-- `get_dispute`. -/
def getDispute (disputeId : U64) : Resolver Address X (Dispute Address) := do
  okOr (← loadDispute disputeId) .disputeNotFound

/-- `get_ruling`. -/
def getRuling (disputeId : U64) : Resolver Address X (Ruling Address) := do
  okOr (← loadRuling disputeId) .disputeNotFound

end Code

/-! ## The deployed contract -/

/-- The entry points with their arguments. -/
inductive Call (Address : Type) where
  | initializeContract (council : AdminCouncil Address) (resolutionWindow : U32)
  | raiseDispute (initiator respondent : Address) (txId : BytesN 32) (proof : RelayChainProof)
  | respond (respondent : Address) (disputeId : U64) (proof : RelayChainProof)
  | resolve (disputeId : U64)
  | getDispute (disputeId : U64)
  | getRuling (disputeId : U64)
deriving DecidableEq

/-- What an entry point returns. -/
inductive Value (Address : Type) where
  | unit
  | disputeId (disputeId : U64)
  | dispute (dispute : Dispute Address)
  | ruling (ruling : Ruling Address)
deriving DecidableEq

/-- Storage set outside the entry points. -/
inductive Provision (Address : Type) where
  | setPublicKey (address : Address) (publicKey : BytesN 32)
deriving DecidableEq

section Deployment

variable {Address X : Type} [DecidableEq Address]

/-- Run the entry point a call names. -/
def dispatch (ed25519 : Ed25519) (env : Env Address X) :
    Call Address → Resolver Address X (Value Address)
  | .initializeContract council resolutionWindow => do
      initializeContract council resolutionWindow
      pure .unit
  | .raiseDispute initiator respondent txId proof => do
      let disputeId ← raiseDispute env initiator respondent txId proof
      pure (.disputeId disputeId)
  | .respond respondent disputeId proof => do
      respond env respondent disputeId proof
      pure .unit
  | .resolve disputeId => do
      let ruling ← resolve ed25519 env disputeId
      pure (.ruling ruling)
  | .getDispute disputeId => do
      let dispute ← getDispute disputeId
      pure (.dispute dispute)
  | .getRuling disputeId => do
      let ruling ← getRuling disputeId
      pure (.ruling ruling)

/-- The effect of a provision. -/
def provide : Provision Address → Storage Address → Storage Address
  | .setPublicKey address publicKey, s =>
      { s with publicKey := s.publicKey.set address publicKey }

/-- The deployed dispute resolver. -/
def machine (ed25519 : Ed25519) :
    Machine (State Address X) (Action Address X (Call Address) (Provision Address))
      (Reply ContractError (Value Address)) :=
  deployed (dispatch ed25519) provide

end Deployment
end StellarConduit.DisputeResolver
