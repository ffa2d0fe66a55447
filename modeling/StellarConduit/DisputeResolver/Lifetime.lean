import StellarConduit.DisputeResolver.Resolution
import StellarConduit.Soroban.Expiry

/-!
# The dispute resolver and the lifetimes of its entries

The entry points of `dispute-resolver/src` with their calls to `extend_ttl`.  Disputes and
rulings are entries under the number of the dispute, the index of disputed transactions is one
entry for each transaction, and a relay's public key is one under its address.  The council,
the resolution window and the counter of disputes belong to the instance.

What a call reaches for is not known from the call alone.  A raise stores a dispute under a
number that it takes from the counter, and a resolution reads the keys of the two parties that
the stored dispute names.  So a call has a `footprint`, the entries that it may use, and the
smaller set `uses`, those that it uses in any case.

The window of a dispute is a number of ledgers that the council chooses, and the network keeps
an entry for a number of ledgers of its own.  As long as the first is at most the second, the
respondent can answer on every ledger up to the deadline: nothing between the raise and the
deadline makes the dispute unreadable.  The same goes for reading the dispute and its ruling.
It does not go for `resolve`: that reads public keys, which may have been stored long before
the raise and are extended by nothing that happens to the dispute.

## Main definitions

* `LedgerEntry` — what has a lifetime.
* `footprint`, `uses` — the entries that a call may use, and those that it does use.
* `Keyless` — the calls on a dispute for which public keys do not matter.

## Main results

* `carries_dispatch` — a call does what it does without lifetimes, or an entry of its
  footprint has expired.
* `window_usable` — with a resolution window of at most `kept` ledgers, the respondent of a
  dispute is answered as if nothing expired, up to the deadline, and so is who reads the
  dispute or its ruling.
-/

namespace StellarConduit.DisputeResolver

open Soroban Contract Machine

/-- What has a lifetime: the instance and the persistent entries. -/
inductive LedgerEntry (Address : Type) where
  | contractInstance
  | dispute (disputeId : U64)
  | ruling (disputeId : U64)
  | txDispute (txId : BytesN 32)
  | publicKey (address : Address)
deriving DecidableEq

instance {Address : Type} : Entries (Storage Address) (LedgerEntry Address) where
  has s
    | .contractInstance => true
    | .dispute disputeId => (s.dispute.get disputeId).isSome
    | .ruling disputeId => (s.ruling.get disputeId).isSome
    | .txDispute txId => (s.txDispute.get txId).isSome
    | .publicKey address => (s.publicKey.get address).isSome

namespace Ttl

/-- Bump by ~30 days. -/
def ledgerBumpAmount : U32 := 518400

/-- Bump if remaining life is less than ~15 days. -/
def ledgerBumpThreshold : U32 := 259200

/-- What the contract asks of the network. -/
def rent (network : Network) : Rent where
  toNetwork := network
  threshold := ledgerBumpThreshold
  amount := ledgerBumpAmount
  threshold_le := by decide

/-- What the resolver sees of the chain, lifetimes included. -/
abbrev State (Address X : Type) : Type :=
  World (Living (Storage Address) (LedgerEntry Address)) X (Event Address)

/-- A computation of the resolver with lifetimes. -/
abbrev Resolver (Address X α : Type) : Type := Contract (State Address X) ContractError α

section Code

variable {Address X : Type} [DecidableEq Address] (network : Network) (env : Env Address X)

/-! ## Storage helpers

Disputes, rulings, public keys and the index by transaction are persistent entries, and the
helpers extend whatever they read or write of them.  A key that is missing is a panic, as it is
without lifetimes; one that has expired fails before it can be missed.
-/

/-- `storage::extend_instance_ttl`. -/
def extendInstanceTtl : Resolver Address X Unit :=
  extendTtl env .contractInstance (rent network)

/-- `storage::get_dispute`. -/
def loadDispute (disputeId : U64) : Resolver Address X (Option (Dispute Address)) :=
  loadEntry env (.dispute disputeId) (rent network) fun s => s.dispute.get disputeId

/-- `storage::set_dispute`. -/
def setDispute (disputeId : U64) (dispute : Dispute Address) : Resolver Address X Unit :=
  saveEntry env (.dispute disputeId) (rent network) fun s =>
    { s with dispute := s.dispute.set disputeId dispute }

/-- `storage::get_ruling`. -/
def loadRuling (disputeId : U64) : Resolver Address X (Option (Ruling Address)) :=
  loadEntry env (.ruling disputeId) (rent network) fun s => s.ruling.get disputeId

/-- `storage::set_ruling`. -/
def setRuling (disputeId : U64) (ruling : Ruling Address) : Resolver Address X Unit :=
  saveEntry env (.ruling disputeId) (rent network) fun s =>
    { s with ruling := s.ruling.set disputeId ruling }

/-- `storage::get_dispute_by_tx`. -/
def getDisputeByTx (txId : BytesN 32) : Resolver Address X (Option U64) :=
  loadEntry env (.txDispute txId) (rent network) fun s => s.txDispute.get txId

/-- `storage::set_dispute_by_tx`. -/
def setDisputeByTx (txId : BytesN 32) (disputeId : U64) : Resolver Address X Unit :=
  saveEntry env (.txDispute txId) (rent network) fun s =>
    { s with txDispute := s.txDispute.set txId disputeId }

/-- `storage::get_public_key`. -/
def getPublicKey (address : Address) : Resolver Address X (BytesN 32) := do
  let publicKey ← loadEntry env (.publicKey address) (rent network) fun s =>
    s.publicKey.get address
  expect publicKey "public key not registered for address"

/-! ## Entry points

As in the other contracts an entry point extends the instance first.  `resolve` reads a dispute
and, when it has been answered, two keys; it writes the dispute again and a ruling.
-/

/-- `initialize`. -/
def initializeContract (council : AdminCouncil Address) (resolutionWindow : U32) :
    Resolver Address X Unit := do
  extendInstanceTtl network env
  lifted (DisputeResolver.initializeContract council resolutionWindow)

/-- `raise_dispute`: a transaction that is looked up and not found has no entry to extend; the
dispute and its index entry are made. -/
def raiseDispute (initiator respondent : Address) (txId : BytesN 32) (proof : RelayChainProof) :
    Resolver Address X U64 := do
  extendInstanceTtl network env
  requireAuth env initiator
  rejectIf (initiator = respondent) .invalidRespondent
  let existing ← getDisputeByTx network env txId
  rejectIf (existing.isSome = true) .duplicateDispute
  let disputeId ← lifted getNextDisputeId
  let resolutionWindow ← lifted getResolutionWindow
  let resolveBy ← plus env.sequence resolutionWindow
  setDispute network env disputeId
    { disputeId := disputeId
      txId := txId
      initiator := initiator
      respondent := respondent
      initiatorProof := proof
      respondentProof := none
      status := .opened
      raisedAt := env.timestamp
      resolveBy := resolveBy.cast }
  setDisputeByTx network env txId disputeId
  publish (.raise initiator disputeId txId)
  pure disputeId

/-- `respond`: the dispute is found, and written again. -/
def respond (respondent : Address) (disputeId : U64) (proof : RelayChainProof) :
    Resolver Address X Unit := do
  extendInstanceTtl network env
  requireAuth env respondent
  let dispute ← okOr (← loadDispute network env disputeId) .disputeNotFound
  rejectIf (dispute.respondent ≠ respondent) .unauthorizedRespondent
  rejectIf (dispute.status ≠ .opened) .notOpen
  rejectIf ((env.sequence.cast : U64) > dispute.resolveBy) .resolutionWindowExpired
  setDispute network env disputeId
    { dispute with respondentProof := some proof, status := .responded }
  publish (.respond respondent disputeId)

/-- The common end of both exits of `resolve`. -/
def issueRuling (disputeId : U64) (dispute : Dispute Address) (ruling : Ruling Address) :
    Resolver Address X (Ruling Address) := do
  setDispute network env disputeId { dispute with status := .resolved }
  setRuling network env disputeId ruling
  publish (.resolve disputeId ruling.winner ruling.loser)
  pure ruling

/-- `resolve`: the dispute is written again and the ruling made, after the two public keys have
been read if the respondent has answered. -/
def resolve (ed25519 : Ed25519) (disputeId : U64) : Resolver Address X (Ruling Address) := do
  extendInstanceTtl network env
  let dispute ← okOr (← loadDispute network env disputeId) .disputeNotFound
  rejectIf (dispute.status = .resolved) .disputeAlreadyResolved
  let currentSequence : U64 := env.sequence.cast
  if dispute.status = .opened then do
    rejectIf (currentSequence ≤ dispute.resolveBy) .resolutionWindowActive
    issueRuling network env disputeId dispute
      { disputeId := disputeId
        winner := dispute.initiator
        loser := dispute.respondent
        reason := HostString.fromStr "Respondent failed to respond within the resolution window"
        resolvedAt := env.timestamp }
  else do
    rejectIf (dispute.status ≠ .responded) .notResponded
    let respondent := dispute.respondent
    let respondentProof ← okOr dispute.respondentProof .notResponded
    let initiatorKey ← getPublicKey network env dispute.initiator
    let respondentKey ← getPublicKey network env respondent
    let initiatorValid ← lifted (verifyProof ed25519 initiatorKey dispute.initiatorProof)
    let respondentValid ← lifted (verifyProof ed25519 respondentKey respondentProof)
    let (winner, loser, reason) ←
      lifted (decideRuling dispute respondentProof initiatorValid respondentValid)
    issueRuling network env disputeId dispute
      { disputeId := disputeId
        winner := winner
        loser := loser
        reason := reason
        resolvedAt := env.timestamp }

/-- `get_dispute`: reading a dispute extends it too. -/
def getDispute (disputeId : U64) : Resolver Address X (Dispute Address) := do
  extendInstanceTtl network env
  okOr (← loadDispute network env disputeId) .disputeNotFound

/-- `get_ruling`: reading a ruling extends the ruling and not the dispute. -/
def getRuling (disputeId : U64) : Resolver Address X (Ruling Address) := do
  extendInstanceTtl network env
  okOr (← loadRuling network env disputeId) .disputeNotFound

/-- Run the entry point a call names. -/
def dispatch (ed25519 : Ed25519) : Call Address → Resolver Address X (Value Address)
  | .initializeContract council resolutionWindow => do
      initializeContract network env council resolutionWindow
      pure .unit
  | .raiseDispute initiator respondent txId proof => do
      let disputeId ← raiseDispute network env initiator respondent txId proof
      pure (.disputeId disputeId)
  | .respond respondent disputeId proof => do
      respond network env respondent disputeId proof
      pure .unit
  | .resolve disputeId => do
      let ruling ← resolve network env ed25519 disputeId
      pure (.ruling ruling)
  | .getDispute disputeId => do
      let dispute ← getDispute network env disputeId
      pure (.dispute dispute)
  | .getRuling disputeId => do
      let ruling ← getRuling network env disputeId
      pure (.ruling ruling)

end Code

/-! ## The entry points carry those without lifetimes

The parties of a dispute are known only once it has been read, and its number only once the
counter has been: the footprint of `resolve` therefore has all keys, and that of `raise_dispute`
all disputes.  What is used for sure are the entries that the arguments name.
-/

section Carries

variable {Address X : Type} [DecidableEq Address] {network : Network} {env : Env Address X}
  {F : Set (LedgerEntry Address)} {disputeId : U64}

omit [DecidableEq Address] in
/-- What touches none of the four stores makes or removes no entry. -/
theorem carries_unkeyed {α : Type} {x : DisputeResolver.Resolver Address X α}
    (keeps : ∀ w a w', Returns x w a w' →
      w'.storage.dispute = w.storage.dispute ∧ w'.storage.ruling = w.storage.ruling ∧
        w'.storage.txDispute = w.storage.txDispute ∧
        w'.storage.publicKey = w.storage.publicKey) :
    Carries (rent network) env F ∅ (lifted x) x := by
  refine carries_lifted fun w a w' h k => ?_
  obtain ⟨dispute, ruling, txDispute, publicKey⟩ := keeps w a w' h
  cases k with
  | contractInstance => rfl
  | dispute disputeId => simp only [Entries.has, dispute]
  | ruling disputeId => simp only [Entries.has, ruling]
  | txDispute txId => simp only [Entries.has, txDispute]
  | publicKey address => simp only [Entries.has, publicKey]

/-- An entry point is the extension of the instance, and then its body. -/
theorem carries_body {α : Type} {y' : Resolver Address X α}
    {y : DisputeResolver.Resolver Address X α} {T : Set (LedgerEntry Address)}
    (mem : .contractInstance ∈ F) (body : Carries (rent network) env F T y' y) :
    Carries (rent network) env F ({.contractInstance} ∪ T)
      (extendInstanceTtl network env >>= fun _ => y') y :=
  carries_entryPoint mem (fun _ => rfl) body

/-- Reading a dispute uses it. -/
theorem carries_loadDispute (mem : .dispute disputeId ∈ F) :
    Carries (rent network) env F {.dispute disputeId} (loadDispute network env disputeId)
      (DisputeResolver.loadDispute (X := X) disputeId) :=
  carries_loadEntry mem fun _ => rfl

/-- Writing a dispute makes no other entry. -/
theorem carries_setDispute {dispute : Dispute Address} (mem : .dispute disputeId ∈ F) :
    Carries (rent network) env F {.dispute disputeId} (setDispute network env disputeId dispute)
      (DisputeResolver.setDispute (X := X) disputeId dispute) := by
  refine carries_saveEntry mem (fun s => ?_) fun s k hk => ?_
  · simp [Entries.has]
  · cases k with
    | dispute id =>
        have other : id ≠ disputeId := fun same => hk (congrArg LedgerEntry.dispute same)
        simp only [Entries.has, Store.get_set_of_ne _ _ other]
    | _ => rfl

/-- Writing a ruling makes no other entry. -/
theorem carries_setRuling {ruling : Ruling Address} (mem : .ruling disputeId ∈ F) :
    Carries (rent network) env F {.ruling disputeId} (setRuling network env disputeId ruling)
      (DisputeResolver.setRuling (X := X) disputeId ruling) := by
  refine carries_saveEntry mem (fun s => ?_) fun s k hk => ?_
  · simp [Entries.has]
  · cases k with
    | ruling id =>
        have other : id ≠ disputeId := fun same => hk (congrArg LedgerEntry.ruling same)
        simp only [Entries.has, Store.get_set_of_ne _ _ other]
    | _ => rfl

/-- Looking up a transaction uses its index entry. -/
theorem carries_getDisputeByTx {txId : BytesN 32} (mem : .txDispute txId ∈ F) :
    Carries (rent network) env F {.txDispute txId} (getDisputeByTx network env txId)
      (DisputeResolver.getDisputeByTx txId : DisputeResolver.Resolver Address X (Option U64)) :=
  carries_loadEntry mem fun _ => rfl

/-- Writing an index entry makes no other entry. -/
theorem carries_setDisputeByTx {txId : BytesN 32} (mem : .txDispute txId ∈ F) :
    Carries (rent network) env F {.txDispute txId} (setDisputeByTx network env txId disputeId)
      (DisputeResolver.setDisputeByTx txId disputeId :
        DisputeResolver.Resolver Address X Unit) := by
  refine carries_saveEntry mem (fun s => ?_) fun s k hk => ?_
  · simp [Entries.has]
  · cases k with
    | txDispute id =>
        have other : id ≠ txId := fun same => hk (congrArg LedgerEntry.txDispute same)
        simp only [Entries.has, Store.get_set_of_ne _ _ other]
    | _ => rfl

/-- Reading a key is not counted as a use: whose key it is, a call finds out from the dispute. -/
theorem carries_getPublicKey {address : Address} (mem : .publicKey address ∈ F) :
    Carries (rent network) env F ∅ (getPublicKey network env address)
      (DisputeResolver.getPublicKey (X := X) address) :=
  (carries_bind (carries_loadEntry mem fun _ => rfl) fun _ => carries_expect).mono
    (Set.empty_subset _)

omit [DecidableEq Address] in
/-- What only reads makes or removes no entry. -/
theorem carries_reads {α : Type} {x : DisputeResolver.Resolver Address X α}
    (reads : ∀ w a w', Returns x w a w' → w' = w) : Carries (rent network) env F ∅ (lifted x) x :=
  carries_unkeyed fun w a w' h => by
    rw [reads w a w' h]
    exact ⟨rfl, rfl, rfl, rfl⟩

/-- From the number of the dispute on, a raise uses the dispute's record. -/
theorem carries_recordDispute {initiator respondent : Address} {txId : BytesN 32}
    {proof : RelayChainProof} (dispute : .dispute disputeId ∈ F) (tx : .txDispute txId ∈ F) :
    Carries (rent network) env F {.dispute disputeId}
      (do
        let resolutionWindow ← lifted getResolutionWindow
        let resolveBy ← plus env.sequence resolutionWindow
        setDispute network env disputeId
          { disputeId := disputeId
            txId := txId
            initiator := initiator
            respondent := respondent
            initiatorProof := proof
            respondentProof := none
            status := .opened
            raisedAt := env.timestamp
            resolveBy := resolveBy.cast }
        setDisputeByTx network env txId disputeId
        publish (.raise initiator disputeId txId)
        pure disputeId)
      (do
        let resolutionWindow ← getResolutionWindow
        let resolveBy ← plus env.sequence resolutionWindow
        DisputeResolver.setDispute disputeId
          { disputeId := disputeId
            txId := txId
            initiator := initiator
            respondent := respondent
            initiatorProof := proof
            respondentProof := none
            status := .opened
            raisedAt := env.timestamp
            resolveBy := resolveBy.cast }
        DisputeResolver.setDisputeByTx txId disputeId
        publish (.raise initiator disputeId txId)
        pure disputeId) := by
  -- The window belongs to the instance, so reading it uses no other entry.
  have window : Carries (rent network) env F ∅
      (lifted (getResolutionWindow : DisputeResolver.Resolver Address X U32)) getResolutionWindow :=
    carries_reads fun _ _ _ h => (returns_getResolutionWindow.mp h).2
  refine (carries_bind window fun _ =>
    carries_bind carries_plus fun _ =>
    carries_bind (carries_setDispute dispute) fun _ =>
    carries_bind (carries_setDisputeByTx tx) fun _ =>
    carries_bind carries_publish fun _ => carries_pure).mono ?_
  rintro k rfl
  simp

/-- An answer uses the dispute. -/
theorem carries_respond {respondent : Address} {proof : RelayChainProof}
    (inst : .contractInstance ∈ F) (dispute : .dispute disputeId ∈ F) :
    Carries (rent network) env F {.contractInstance, .dispute disputeId}
      (respond network env respondent disputeId proof)
      (DisputeResolver.respond env respondent disputeId proof) := by
  refine (carries_body inst
    (carries_bind carries_requireAuth fun _ =>
      carries_bind (carries_loadDispute dispute) fun _ =>
      carries_bind carries_okOr fun _ =>
      carries_bind carries_rejectIf fun _ =>
      carries_bind carries_rejectIf fun _ =>
      carries_bind carries_rejectIf fun _ =>
      carries_bind (carries_setDispute dispute) fun _ => carries_publish)).mono ?_
  rintro k (rfl | rfl) <;> simp

/-- A ruling is stored beside the dispute that it closes. -/
theorem carries_issueRuling {d : Dispute Address} {r : Ruling Address}
    (dispute : .dispute disputeId ∈ F) (ruling : .ruling disputeId ∈ F) :
    Carries (rent network) env F {.dispute disputeId, .ruling disputeId}
      (issueRuling network env disputeId d r)
      (DisputeResolver.issueRuling (X := X) disputeId d r) := by
  refine (carries_bind (carries_setDispute dispute) fun _ =>
    carries_bind (carries_setRuling ruling) fun _ =>
    carries_bind carries_publish fun _ => carries_pure).mono ?_
  rintro k (rfl | rfl) <;> simp

/-- A resolution uses the dispute and the ruling, and may need any public key. -/
theorem carries_resolve {ed25519 : Ed25519} (inst : .contractInstance ∈ F)
    (dispute : .dispute disputeId ∈ F) (ruling : .ruling disputeId ∈ F)
    (keys : ∀ a, .publicKey a ∈ F) :
    Carries (rent network) env F {.contractInstance, .dispute disputeId, .ruling disputeId}
      (resolve network env ed25519 disputeId)
      (DisputeResolver.resolve ed25519 env disputeId) := by
  -- Signatures are verified by the host, without an entry.
  have verify (key : BytesN 32) (proof : RelayChainProof) : Carries (rent network) env F ∅
      (lifted (verifyProof ed25519 key proof : DisputeResolver.Resolver Address X Bool))
      (verifyProof ed25519 key proof) :=
    carries_reads fun _ _ _ h => (returns_verifyProof.mp h).2.2
  -- So is the ruling decided, on all four branches of the source.
  have decides (d : Dispute Address) (p : RelayChainProof) (initiatorValid respondentValid : Bool) :
      Carries (rent network) env F ∅
        (lifted (decideRuling (X := X) d p initiatorValid respondentValid))
        (decideRuling d p initiatorValid respondentValid) := by
    refine carries_reads fun w a w' h => ?_
    cases initiatorValid <;> cases respondentValid <;> simp only [decideRuling] at h
    · exact (returns_err h).elim
    · exact (returns_pure.mp h).2
    · exact (returns_pure.mp h).2
    · split at h <;> exact (returns_pure.mp h).2
  refine (carries_body inst
    (carries_bind (carries_loadDispute dispute) fun _ =>
      carries_bind carries_okOr fun d =>
      carries_bind carries_rejectIf fun _ =>
      (?_ : Carries _ _ F {.dispute disputeId, .ruling disputeId} _ _))).mono ?_
  · split
    · exact (carries_bind carries_rejectIf fun _ => carries_issueRuling dispute ruling).mono
        Set.subset_union_right
    · refine (carries_bind carries_rejectIf fun _ =>
        carries_bind carries_okOr fun _ =>
        carries_bind (carries_getPublicKey (keys _)) fun _ =>
        carries_bind (carries_getPublicKey (keys _)) fun _ =>
        carries_bind (verify _ _) fun _ =>
        carries_bind (verify _ _) fun _ =>
        carries_bind (decides _ _ _ _) fun _ => carries_issueRuling dispute ruling).mono ?_
      rintro k (rfl | rfl) <;> simp
  · rintro k (rfl | rfl | rfl) <;> simp

/-- The entries that a call may use: a raise finds out the number of its dispute, and a
resolution the parties. -/
def footprint : Call Address → Set (LedgerEntry Address)
  | .initializeContract .. => {.contractInstance}
  | .raiseDispute _ _ txId _ => {.contractInstance, .txDispute txId} ∪ Set.range .dispute
  | .respond _ disputeId _ => {.contractInstance, .dispute disputeId}
  | .resolve disputeId =>
      {.contractInstance, .dispute disputeId, .ruling disputeId} ∪ Set.range .publicKey
  | .getDispute disputeId => {.contractInstance, .dispute disputeId}
  | .getRuling disputeId => {.contractInstance, .ruling disputeId}

/-- The entries that a call uses for sure. -/
def uses : Call Address → Set (LedgerEntry Address)
  | .initializeContract .. => {.contractInstance}
  | .raiseDispute _ _ txId _ => {.contractInstance, .txDispute txId}
  | .respond _ disputeId _ => {.contractInstance, .dispute disputeId}
  | .resolve disputeId => {.contractInstance, .dispute disputeId, .ruling disputeId}
  | .getDispute disputeId => {.contractInstance, .dispute disputeId}
  | .getRuling disputeId => {.contractInstance, .ruling disputeId}

/-- **A call does what it does without lifetimes**, or fails because an entry of its footprint has
expired. -/
theorem carries_dispatch {ed25519 : Ed25519} (c : Call Address) :
    Carries (rent network) env (footprint c) (uses c) (dispatch network env ed25519 c)
      (DisputeResolver.dispatch ed25519 env c) := by
  have inst : LedgerEntry.contractInstance ∈ footprint c := by
    cases c <;> simp [footprint]
  cases c with
  | initializeContract council resolutionWindow =>
      refine (carries_bind (carries_body inst (carries_unkeyed fun w a w' h => ?_))
        fun _ => carries_pure).mono (by simp [uses])
      obtain ⟨-, -, -, rfl⟩ := returns_initializeContract.mp h
      exact ⟨rfl, rfl, rfl, rfl⟩
  | raiseDispute initiator respondent txId proof =>
      -- The counter belongs to the instance. The number that it gives is known only when the
      -- call runs, so what is done with the dispute is not counted as a use.
      have number : Carries (rent network) env (footprint (.raiseDispute initiator respondent txId
          proof)) ∅ (lifted (getNextDisputeId : DisputeResolver.Resolver Address X U64))
          getNextDisputeId :=
        carries_unkeyed fun w a w' h => by
          obtain ⟨-, rfl⟩ := returns_getNextDisputeId.mp h
          exact ⟨rfl, rfl, rfl, rfl⟩
      refine (carries_bind (carries_body inst
        (carries_bind carries_requireAuth fun _ =>
          carries_bind carries_rejectIf fun _ =>
          carries_bind (carries_getDisputeByTx (by simp [footprint])) fun _ =>
          carries_bind carries_rejectIf fun _ =>
          carries_bind number fun id =>
          ((carries_recordDispute (by simp [footprint]) (by simp [footprint])).mono
            (Set.empty_subset _) : Carries _ _ _ ∅ _ _))) fun _ => carries_pure).mono ?_
      rintro k (rfl | rfl) <;> simp
  | respond respondent disputeId proof =>
      exact (carries_bind (carries_respond inst (by simp [footprint])) fun _ => carries_pure).mono
        Set.subset_union_left
  | resolve disputeId =>
      exact (carries_bind (carries_resolve inst (by simp [footprint]) (by simp [footprint])
        (by simp [footprint])) fun _ => carries_pure).mono Set.subset_union_left
  | getDispute disputeId =>
      refine (carries_bind (carries_body inst
        (carries_bind (carries_loadDispute (by simp [footprint])) fun _ => carries_okOr))
        fun _ => carries_pure).mono ?_
      rintro k (rfl | rfl) <;> simp
  | getRuling disputeId =>
      refine (carries_bind (carries_body inst
        (carries_bind (carries_loadEntry (by simp [footprint]) fun _ => rfl) fun _ =>
          carries_okOr)) fun _ => carries_pure).mono ?_
      rintro k (rfl | rfl) <;> simp

end Carries

/-- The dispute resolver with lifetimes. -/
def contract (Address X : Type) [DecidableEq Address] (network : Network) (ed25519 : Ed25519) :
    LivingContract Address (Storage Address) (LedgerEntry Address) X (Event Address)
      ContractError (Value Address) (Call Address) (Provision Address) where
  rent := rent network
  dispatch := fun env => dispatch network env ed25519
  plainDispatch := DisputeResolver.dispatch ed25519
  plainProvide := provide
  provides
    | .setPublicKey address _ => some (.publicKey address)
  footprint := footprint
  uses := uses
  carries := fun _ => carries_dispatch
  provides_has := by
    rintro ⟨address, publicKey⟩ s k sets
    obtain rfl := Option.some.inj sets
    simp [provide, Entries.has]
  provides_frame := by
    rintro ⟨address, publicKey⟩ s k sets
    cases k with
    | publicKey a =>
        have other : a ≠ address := fun same => sets (by rw [same])
        simp only [provide, Entries.has, Store.get_set_of_ne _ _ other]
    | _ => rfl

/-! ## Runs

A raise uses the dispute that it makes, although its arguments do not name it.  From there on the
dispute has `kept` ledgers, and if the window is not longer, none of the calls on it that read no
key can find it expired before its deadline.
-/

section Runs

variable {Address X : Type} [DecidableEq Address] {network : Network} {ed25519 : Ed25519}
  {env : Env Address X} {initiator respondent : Address} {txId : BytesN 32}
  {proof : RelayChainProof} {disputeId : U64}

omit [DecidableEq Address] in
/-- The resolver on the ledger of its deployment. -/
def freshState (network : Network) (deployedAt : U32) (x : X) : State Address X where
  storage :=
    { storage := Storage.fresh
      liveUntil := fun _ => deployedAt.val + (network.minTtl - 1) }
  outside := x
  events := []

/-- A raise uses the record of the dispute that it makes. -/
theorem used_raise {v v' : State Address X}
    (h : Returns (raiseDispute network env initiator respondent txId proof) v disputeId v') :
    Living.Used (rent network) env.sequence.val (.dispute disputeId) v.storage v'.storage := by
  -- Everything up to the number of the dispute ages other entries, or none.
  have number : Carries (rent network) env Set.univ ∅
      (lifted (getNextDisputeId : DisputeResolver.Resolver Address X U64)) getNextDisputeId :=
    carries_unkeyed fun w a w' h => by
      obtain ⟨-, rfl⟩ := returns_getNextDisputeId.mp h
      exact ⟨rfl, rfl, rfl, rfl⟩
  -- The sixth statement finds the number; what follows it is `carries_recordDispute`.
  obtain ⟨_, v₁, h₁, h⟩ := returns_bind.mp h
  obtain ⟨_, v₂, h₂, h⟩ := returns_bind.mp h
  obtain ⟨_, v₃, h₃, h⟩ := returns_bind.mp h
  obtain ⟨_, v₄, h₄, h⟩ := returns_bind.mp h
  obtain ⟨_, v₅, h₅, h⟩ := returns_bind.mp h
  obtain ⟨id, v₆, h₆, h⟩ := returns_bind.mp h
  have tail := (carries_recordDispute (F := Set.univ) trivial trivial).returns h
  obtain rfl : disputeId = id := by
    simp only [returns_bind, returns_pure] at tail
    obtain ⟨⟨_, _, -, _, _, -, _, _, -, _, _, -, _, _, -, same, -⟩, -⟩ := tail
    exact same
  have aged := ((carries_extendTtl (F := Set.univ) trivial fun _ => rfl).returns h₁).2
    |>.trans (carries_requireAuth.returns h₂).2
    |>.trans (carries_rejectIf.returns h₃).2
    |>.trans ((carries_getDisputeByTx (F := Set.univ) trivial).returns h₄).2
    |>.trans (carries_rejectIf.returns h₅).2
    |>.trans (number.returns h₆).2
    |>.trans tail.2
  exact aged.used _ (Set.mem_union_right _ rfl)

/-- The calls on a dispute that read no public key: all but `resolve`. -/
def Keyless (disputeId : U64) : Call Address → Prop
  | .respond _ id _ | .getDispute id | .getRuling id => id = disputeId
  | .initializeContract .. | .raiseDispute .. | .resolve _ => False

omit [DecidableEq Address] in
/-- Such a call finds its way by the instance, the dispute and its ruling. -/
theorem footprint_of_keyless {c : Call Address} (keyless : Keyless disputeId c)
    {k : LedgerEntry Address} (mem : k ∈ footprint c) :
    k = .contractInstance ∨ k = .dispute disputeId ∨ k = .ruling disputeId := by
  cases c with
  | respond _ id _ | getDispute id =>
      obtain rfl : id = disputeId := keyless
      rcases mem with rfl | rfl
      · exact Or.inl rfl
      · exact Or.inr (Or.inl rfl)
  | getRuling id =>
      obtain rfl : id = disputeId := keyless
      rcases mem with rfl | rfl
      · exact Or.inl rfl
      · exact Or.inr (Or.inr rfl)
  | _ => exact keyless.elim

section Raised

variable {deployedAt : U32} {x : X}
  {as : List (Action Address X (Call Address) (Upkeep (Provision Address) (LedgerEntry Address)))}
  {r : Record (State Address X)
    (Action Address X (Call Address) (Upkeep (Provision Address) (LedgerEntry Address)))
    (Reply ContractError (Value Address))}

/-- The docket is in order wherever a run with lifetimes leads: it is that of a run without. -/
theorem docket_living (network : Network) (ed25519 : Ed25519) (deployedAt : U32) (x : X)
    (as : List (Action Address X (Call Address)
      (Upkeep (Provision Address) (LedgerEntry Address)))) :
    Docket ((contract Address X network ed25519).machine.run (freshState network deployedAt x)
      as).erase.storage := by
  obtain ⟨bs, -, reached, -⟩ := LivingContract.plain_run (contract Address X network ed25519)
    (freshState network deployedAt x) as
  rw [← reached]
  exact docket_reached ed25519 x bs

/-- What a run with lifetimes has recorded stays. -/
theorem kept_living
    (mem : r ∈ (contract Address X network ed25519).machine.trace
      (freshState network deployedAt x) as) :
    Docket r.after.erase.storage ∧
      Kept r.after.erase.storage ((contract Address X network ed25519).machine.run
        (freshState network deployedAt x) as).erase.storage := by
  obtain ⟨pre, a, post, rfl, rfl⟩ := (contract Address X network ed25519).machine.mem_trace.mp mem
  have docket := docket_living network ed25519 deployedAt x (pre ++ [a])
  rw [run_append] at docket
  obtain ⟨cs, -, rest, -⟩ := LivingContract.plain_run (contract Address X network ed25519)
    ((contract Address X network ed25519).machine.record
      ((contract Address X network ed25519).machine.run (freshState network deployedAt x) pre)
      a).after post
  refine ⟨docket, ?_⟩
  have later := kept_run ed25519 docket cs
  rw [run_append]
  exact rest ▸ later

/-- A dispute that has just been raised is stored with its deadline, used, and without a
ruling. -/
theorem raised_record
    (mem : r ∈ (contract Address X network ed25519).machine.trace
      (freshState network deployedAt x) as)
    (action : r.action = .call env (.raiseDispute initiator respondent txId proof))
    (reply : r.reply = some (.ok (.disputeId disputeId))) :
    Living.Used (rent network) env.sequence.val (.dispute disputeId) r.before.storage
        r.after.storage ∧
      r.after.erase.storage.ruling.get disputeId = none ∧
      ∃ d, r.after.erase.storage.dispute.get disputeId = some d ∧
        d.resolveBy.val =
          env.sequence.val + (r.before.storage.storage.resolutionWindow.getD 0).val := by
  have h : Returns (dispatch network env ed25519 (.raiseDispute initiator respondent txId proof))
      r.before (.disputeId disputeId) r.after :=
    Deployed.returns_of_reply _ _
      ((contract Address X network ed25519).machine.record_of_mem_trace mem) action reply
  have docket := (kept_living mem).1
  obtain ⟨id, v, hraise, hpure⟩ := returns_bind.mp h
  obtain ⟨same, rfl⟩ := returns_pure.mp hpure
  obtain rfl := Value.disputeId.inj same
  obtain ⟨id, v, plain, hpure⟩ := returns_bind.mp (carries_dispatch _ |>.returns h).1
  obtain ⟨same, rfl⟩ := returns_pure.mp hpure
  obtain rfl := Value.disputeId.inj same
  obtain ⟨-, -, -, -, resolveBy, deadline, after⟩ := returns_raiseDispute.mp plain
  obtain ⟨d, stored, opened, resolveBy_eq⟩ : ∃ d,
      r.after.erase.storage.dispute.get disputeId = some d ∧ d.status = .opened ∧
        d.resolveBy.val = resolveBy.val := by
    rw [after]
    exact ⟨_, Store.get_set_self _ _ _, rfl, MachineInt.cast_u32_u64_val resolveBy⟩
  refine ⟨used_raise hraise, ?_, d, stored, resolveBy_eq.trans deadline⟩
  -- A ruling is there exactly when the dispute is resolved, and this one is open.
  have ruled := (docket.dispute disputeId d stored).ruling_iff
  rw [opened] at ruled
  rw [← Option.not_isSome_iff_eq_none, ruled]
  nofun

/-- **A window of at most `kept` ledgers can be used to its end.**  A dispute that is raised
while the resolution window is no longer has a deadline, and whatever happens after the raise,
up to this deadline whoever responds to the dispute, or reads it or its ruling, is answered as
if nothing expired.  The ledger has to be one on which `extend_ttl` can still be asked for. -/
theorem window_usable (order : LivingContract.Chronological as)
    (mem : r ∈ (contract Address X network ed25519).machine.trace
      (freshState network deployedAt x) as)
    (action : r.action = .call env (.raiseDispute initiator respondent txId proof))
    (reply : r.reply = some (.ok (.disputeId disputeId)))
    (short : (r.before.storage.storage.resolutionWindow.getD 0).val ≤ (rent network).kept) :
    let w := (contract Address X network ed25519).machine.run (freshState network deployedAt x) as
    ∃ d, w.storage.storage.dispute.get disputeId = some d ∧
      d.resolveBy.val =
        env.sequence.val + (r.before.storage.storage.resolutionWindow.getD 0).val ∧
      ∀ (env' : Env Address X) c, Keyless disputeId c → env'.sequence.val ≤ d.resolveBy.val →
        env'.sequence.val + 518400 ≤ 4294967295 →
        ((contract Address X network ed25519).machine.step w (.call env' c)).1 =
            ((DisputeResolver.machine ed25519).step w.erase (.call env' c)).1 ∧
          ((contract Address X network ed25519).machine.step w (.call env' c)).2.erase =
            ((DisputeResolver.machine ed25519).step w.erase (.call env' c)).2 := by
  intro w
  obtain ⟨used, unruled, raised, hraised, deadline⟩ := raised_record mem action reply
  obtain ⟨d, hd, evolves⟩ := (kept_living mem).2.dispute disputeId raised hraised
  have resolveBy : d.resolveBy.val =
      env.sequence.val + (r.before.storage.storage.resolutionWindow.getD 0).val := by
    rw [evolves.resolveBy, deadline]
  refine ⟨d, hd, resolveBy, fun env' c keyless within fits => ?_⟩
  -- It remains to see that each of the three entries is live: the raise has left it `kept`
  -- ledgers, and those reach to the deadline.
  refine (contract Address X network ed25519).step_of_alive (fun k hk stored => ?_) fits
  have lasts : env'.sequence.val ≤ env.sequence.val + (rent network).kept :=
    within.trans (resolveBy.trans_le (Int.add_le_add_left short _))
  have now : r.action.sequence = some env.sequence.val := by
    rw [action]
    rfl
  refine lasts.trans
    ((contract Address X network ed25519).alive_after order mem now (fun there => ?_) stored)
  rcases footprint_of_keyless keyless hk with rfl | rfl | rfl
  · exact ((contract Address X network ed25519).usedAt_of_mem_uses mem action reply
      (Set.mem_insert _ _)).2.kept there
  · exact used.kept there
  · -- The ruling is made later, and then lives for as long from there.
    have absent : Entries.has r.after.storage.storage (LedgerEntry.ruling disputeId) = false :=
      (congrArg Option.isSome unruled).trans rfl
    rw [absent] at there
    cases there

end Raised

/-- Relay 1 raises a dispute with relay 2 on ledger 30, with a window of a fortnight. -/
def sampleActions :
    List (Action ℕ Unit (Call ℕ) (Upkeep (Provision ℕ) (LedgerEntry ℕ))) :=
  [.call (openEnv 3 10 50) (.initializeContract ⟨[7], 1⟩ 240000),
    .call (openEnv 3 30 150)
      (.raiseDispute 1 2 (BytesN.fill 32 9) (sampleProof initiatorSignature 20))]

/-- A window of 240000 ledgers is within what `extend_ttl` keeps. -/
theorem window_usable_fortnight :
    let w := (contract ℕ Unit Network.sample sampleEd25519).machine.run
      (freshState Network.sample 0 ()) sampleActions
    ∃ d, w.storage.storage.dispute.get 1 = some d ∧ d.resolveBy.val = 30 + 240000 ∧
      ∀ (env' : Env ℕ Unit) c, Keyless 1 c → env'.sequence.val ≤ d.resolveBy.val →
        env'.sequence.val + 518400 ≤ 4294967295 →
        ((contract ℕ Unit Network.sample sampleEd25519).machine.step w (.call env' c)).1 =
            ((DisputeResolver.machine sampleEd25519).step w.erase (.call env' c)).1 ∧
          ((contract ℕ Unit Network.sample sampleEd25519).machine.step w (.call env' c)).2.erase =
            ((DisputeResolver.machine sampleEd25519).step w.erase (.call env' c)).2 := by
  have order : LivingContract.Chronological sampleActions := by decide
  refine window_usable order (List.mem_cons_of_mem _ List.mem_cons_self) rfl rfl ?_
  decide

end Runs
end Ttl
end StellarConduit.DisputeResolver
