import StellarConduit.RelayRegistry.Records

/-!
# The metadata of a node

`update_metadata` takes no region of more than 32 bytes and no commitment of more than
100 percent.  `register` writes the same field and checks the commitment only, so a node
can arrive with a region that it could not move to.

Metadata are written by these two entry points and by no other, and a record that is rewritten
keeps those that it had.  So invalid metadata in a reached state go back to a registration, and
to nothing else: that all stored metadata are valid is a condition on the registrations of the
run.  It is about every moment of the run, since an update may replace an invalid region by a
valid one later.

## Main results

* `metadata_valid_iff` — all stored metadata are valid, at every moment of a run, exactly
  when no node registers with such a region.
-/

namespace StellarConduit.RelayRegistry

open Soroban Contract

variable {Address X : Type}

/-- Metadata as `update_metadata` takes them. -/
def NodeMetadata.Valid (metadata : NodeMetadata) : Prop :=
  metadata.uptimeCommitment.val ≤ 100 ∧ metadata.region.len ≤ 32

/-- Every stored node has valid metadata. -/
def MetadataValid (s : Storage Address) : Prop :=
  ∀ a node, s.relayNode.get a = some node → node.metadata.Valid

/-- The step is a registration that goes through, with a region of more than 32 bytes. -/
def RegistersLongRegion (r : Step Address X) : Prop :=
  ∃ env a metadata, r.action = .call env (.register a metadata) ∧ env.authorised a = true ∧
    r.before.storage.relayNode.get a = none ∧ metadata.uptimeCommitment.val ≤ 100 ∧
    (r.before.storage.nodeCount.getD 0).val < IntType.max ⟨false, 32⟩ ∧ 32 < metadata.region.len

/-- What `update_metadata` accepts is what is valid. -/
theorem not_invalidMetadata_iff {metadata : NodeMetadata} :
    ¬ (metadata.uptimeCommitment > 100 ∨ metadata.region.len > 32) ↔ metadata.Valid := by
  have percent : (100 : U32).val = 100 := rfl
  rw [NodeMetadata.Valid, not_or, gt_iff_lt, MachineInt.lt_iff_val, percent, not_lt, not_lt]

variable [DecidableEq Address] {env : Env Address X} {w w' : State Address X}

/-- Writing the record of one node. -/
theorem MetadataValid.write {s s' : Storage Address} (inv : MetadataValid s) {a : Address}
    {node : RelayNode Address} (record : s'.relayNode = s.relayNode.set a node)
    (own : node.metadata.Valid) : MetadataValid s' := by
  intro b n hb
  rw [record, Store.get_set] at hb
  split at hb
  · obtain rfl := Option.some.inj hb
    exact own
  · exact inv b n hb

/-- Only a registration with too long a region makes stored metadata invalid. -/
theorem metadataValid_call {c : Call Address} {v : Value Address} (inv : MetadataValid w.storage)
    (short : ¬ RegistersLongRegion ⟨w, .call env c, some (.ok v), w'⟩)
    (h : Returns (dispatch env c) w v w') : MetadataValid w'.storage := by
  cases ran_of_returns h with
  | initializeContract hcall =>
      obtain ⟨-, -, -, -, rfl⟩ := returns_initializeContract.mp hcall
      exact inv
  | @register a metadata _ hcall =>
      obtain ⟨auth, absent, uptime, count, hcount, rfl⟩ := returns_register.mp hcall
      have percent : (100 : U32).val = 100 := rfl
      rw [gt_iff_lt, MachineInt.lt_iff_val, percent, not_lt] at uptime
      have room : (w.storage.nodeCount.getD 0).val < IntType.max ⟨false, 32⟩ := by
        have upper := count.le_max
        omega
      -- A longer region would make this the registration that is excluded.
      have region : metadata.region.len ≤ 32 := by
        by_contra long
        exact short ⟨env, a, metadata, rfl, auth, absent, uptime, room, not_le.mp long⟩
      exact inv.write rfl ⟨uptime, region⟩
  | updateMetadata hcall =>
      obtain ⟨-, node, -, valid, rfl⟩ := returns_updateMetadata.mp hcall
      exact inv.write rfl (not_invalidMetadata_iff.mp valid)
  | @stake a _ _ hcall =>
      obtain ⟨-, node, hnode, -, -, newStake, -, t, -, x, -, rfl⟩ := returns_stake.mp hcall
      exact inv.write rfl (inv a node hnode)
  | @unstake a _ _ _ hcall =>
      obtain ⟨-, -, node, hnode, -, unlockAfter, -, -, newStake, -, rfl, -⟩ :=
        returns_unstake.mp hcall
      exact inv.write rfl (inv a node hnode)
  | finalizeUnstake hcall =>
      obtain ⟨-, entry, -, -, t, -, x, -, -, rfl⟩ := returns_finalizeUnstake.mp hcall
      exact inv
  | @slash a _ _ hcall =>
      obtain ⟨-, node, hnode, -, slashedAmount, -, rfl⟩ := returns_slash.mp hcall
      exact inv.write rfl (inv a node hnode)
  | @reinstateNode a _ hcall =>
      obtain ⟨-, node, hnode, -, rfl⟩ := returns_reinstateNode.mp hcall
      exact inv.write rfl (inv a node hnode)
  | getNode => exact inv
  | isActive => exact inv

/-- Such a registration stores its metadata. -/
theorem not_metadataValid_of_registersLongRegion
    {action : Action Address X (Call Address) (Provision Address)}
    (long : RegistersLongRegion (machine.record w action)) :
    ¬ MetadataValid (machine.step w action).2.storage := by
  obtain ⟨env, a, metadata, haction, auth, absent, uptime, room, long⟩ := long
  obtain rfl : action = .call env (.register a metadata) := haction
  have absent : w.storage.relayNode.get a = none := absent
  have room : (w.storage.nodeCount.getD 0).val < IntType.max ⟨false, 32⟩ := room
  have percent : (100 : U32).val = 100 := rfl
  have accepted : ¬ metadata.uptimeCommitment > 100 := by
    rw [gt_iff_lt, MachineInt.lt_iff_val, percent, not_lt]
    exact uptime
  have lower := (MachineInt.u32_bounds (w.storage.nodeCount.getD 0)).1
  obtain ⟨count, hcount⟩ : ∃ count : U32, count.val = (w.storage.nodeCount.getD 0).val + 1 :=
    MachineInt.contains_iff.mp ⟨le_trans (IntType.zero_mem _).1 (by omega), by omega⟩
  have step := Deployed.step_of_returns dispatch provide (c := .register a metadata)
    (returns_bind_pure.mpr ⟨(), returns_register.mpr ⟨auth, absent, accepted, count, hcount, rfl⟩,
      rfl⟩)
  intro valid
  unfold machine at valid
  rw [step] at valid
  have stored := valid a _ (Store.get_set_self _ _ _)
  exact absurd stored.2 (not_le.mpr long)

/-- **Stored metadata are valid exactly as long as no long region is registered.**  In a
run from the deployment on every stored node has a commitment of at most 100 and a region
of at most 32 bytes at every moment, if and only if no registration of the run goes through
with a longer region. -/
theorem metadata_valid_iff (x : X)
    (as : List (Action Address X (Call Address) (Provision Address))) :
    (∀ pre, pre <+: as → MetadataValid (machine.run (freshState x) pre).storage) ↔
      ∀ r ∈ machine.trace (freshState x) as, ¬ RegistersLongRegion r := by
  constructor
  · intro valid r hr long
    obtain ⟨pre, action, post, rfl, rfl⟩ := machine.mem_trace.mp hr
    apply not_metadataValid_of_registersLongRegion long
    -- The state right after the registration is one of the states of the run.
    have next := valid (pre ++ [action]) ⟨post, by simp⟩
    rw [Machine.run_append] at next
    exact next
  · rintro short pre ⟨post, rfl⟩
    rw [Machine.trace_append] at short
    have start : MetadataValid (freshState x : State Address X).storage := by
      intro a node hnode
      cases hnode
    refine Deployed.run_allowed (fun w => MetadataValid w.storage)
      (fun r => ¬ RegistersLongRegion r) ?_ ?_ ?_ start
      (fun r hr => short r (List.mem_append_left _ hr))
    · intro env c w v w' short inv h
      exact metadataValid_call inv short h
    · rintro ⟨t⟩ w _ inv
      exact inv
    · intro x w _ inv
      exact inv

/-! ## A region of 33 bytes -/

/-- Metadata with a region of 33 bytes. -/
def longRegion : NodeMetadata where
  region := HostString.fromStr "aaaaaaaaaaaaaaaaaaaaaaaaaaaaaaaaa"
  capacity := 10
  uptimeCommitment := 99

/-- It is stored by `register`, and rejected by `update_metadata`. -/
theorem longRegion_registered :
    let reached := machine.run (freshState () : State ℕ Unit)
      [.call (openEnv 0 0 5) (.register 1 longRegion)]
    (∃ node, reached.storage.relayNode.get 1 = some node ∧ node.metadata.region.len = 33) ∧
      ¬ MetadataValid reached.storage ∧
      (machine.step reached (.call (openEnv 0 0 5) (.updateMetadata 1 longRegion))).1 =
        some (.error (.error .invalidMetadata)) := by
  intro reached
  have stored : reached.storage.relayNode.get 1 =
      some ⟨1, 0, .inactive, longRegion, 5, 5⟩ := by
    decide +kernel
  have length : longRegion.region.len = 33 := by decide +kernel
  refine ⟨⟨_, stored, length⟩, fun valid => ?_, by decide +kernel⟩
  have short := (valid 1 _ stored).2
  have long : (RelayNode.metadata ⟨(1 : ℕ), 0, .inactive, longRegion, 5, 5⟩).region.len = 33 :=
    length
  omega

end StellarConduit.RelayRegistry
