import RackFabric.Properties.Records
import RackFabric.Properties.Transitions

/-! The ledger of a rack: every publisher, fenced boot and snapshot is stored
under its own identity, and a snapshot carries the digest of its content. -/
namespace RackFabric
open Std RackState RackGraph Tables

namespace RackState

structure Ledger (state : RackState) : Prop where
  publishers : ∀ {boot : AgentBootId} {record : PublisherRecord},
    state.publishers[boot]? = some record → record.boot = boot
  fencedBoots : ∀ {boot : AgentBootId} {record : FencedBootRecord},
    state.fencedBoots[boot]? = some record → record.boot = boot
  snapshots : ∀ {generation : SnapshotGeneration} {snapshot : RackSnapshot},
    state.snapshots[generation]? = some snapshot → snapshot.generation = generation
  digests : ∀ {generation : SnapshotGeneration} {snapshot : RackSnapshot},
    state.snapshots[generation]? = some snapshot →
      snapshot.digest = computeSnapshotDigest snapshot state.limits

variable {options : RackFabricOptions} {state : RackState}

theorem Ledger.of_eq {after : RackState} (h : state.Ledger)
    (hpublishers : after.publishers = state.publishers)
    (hfenced : after.fencedBoots = state.fencedBoots)
    (hsnapshots : after.snapshots = state.snapshots) (hlimits : after.limits = state.limits) :
    after.Ledger where
  publishers hfound := h.publishers (hpublishers ▸ hfound)
  fencedBoots hfound := h.fencedBoots (hfenced ▸ hfound)
  snapshots hfound := h.snapshots (hsnapshots ▸ hfound)
  digests hfound := by
    rw [hlimits]
    exact h.digests (hsnapshots ▸ hfound)

theorem Ledger.withPublishers (h : state.Ledger)
    {publishers : ExtTreeMap AgentBootId PublisherRecord}
    (hpublishers : ∀ {boot : AgentBootId} {record : PublisherRecord},
      publishers[boot]? = some record → record.boot = boot) :
    { state with publishers := publishers }.Ledger :=
  ⟨hpublishers, h.fencedBoots, h.snapshots, h.digests⟩

theorem Ledger.modify (h : state.Ledger) (boot : AgentBootId)
    {revise : PublisherRecord → PublisherRecord}
    (hboot : ∀ record, (revise record).boot = record.boot) :
    { state with publishers := state.publishers.modify boot revise }.Ledger := by
  refine h.withPublishers fun {other record} hfound => ?_
  rw [ExtTreeMap.getElem?_modify] at hfound
  split at hfound
  · rename_i heq
    obtain rfl := LawfulEqCmp.compare_eq_iff_eq.mp heq
    obtain ⟨old, hold, rfl⟩ := Option.map_eq_some_iff.mp hfound
    rw [hboot, h.publishers hold]
  · exact h.publishers hfound

theorem Ledger.insert (h : state.Ledger) {boot : AgentBootId} {publisher : PublisherRecord}
    (hboot : publisher.boot = boot) :
    { state with publishers := state.publishers.insert boot publisher }.Ledger := by
  refine h.withPublishers fun {other record} hfound => ?_
  rcases getElem?_insert_cases hfound with ⟨rfl, rfl⟩ | ⟨-, hold⟩
  · exact hboot
  · exact h.publishers hold

theorem Ledger.advancePublication (h : state.Ledger) (publisher : Option PublisherRef) :
    (state.advancePublication publisher).Ledger := by
  cases publisher with
  | none => exact h.of_eq rfl rfl rfl rfl
  | some found => exact h.modify found.boot fun _ => rfl

theorem Ledger.noteRefusal (h : state.Ledger) (publisher : Option PublisherRef)
    (refusal : Refusal) : (state.noteRefusal publisher refusal).Ledger := by
  cases publisher with
  | none => exact h
  | some found =>
    simp only [RackState.noteRefusal]
    split
    · exact h
    · exact h.modify found.boot fun _ => rfl

/-- Fencing a whole table of publishers. -/
theorem boot_of_fenced_fold (fence : AgentBootId → PublisherRecord → FencedBootRecord)
    (hboot : ∀ boot publisher, (fence boot publisher).boot = boot)
    (entries : List (AgentBootId × PublisherRecord))
    {fenced : ExtTreeMap AgentBootId FencedBootRecord}
    (h : ∀ {boot : AgentBootId} {record : FencedBootRecord},
      fenced[boot]? = some record → record.boot = boot)
    {boot : AgentBootId} {record : FencedBootRecord}
    (hfound : (entries.foldl (fun fenced entry => fenced.insert entry.1 (fence entry.1 entry.2))
      fenced)[boot]? = some record) : record.boot = boot := by
  induction entries generalizing fenced with
  | nil => exact h hfound
  | cons entry entries ih =>
    refine ih (fun {other found} hother => ?_) hfound
    rcases getElem?_insert_cases hother with ⟨rfl, rfl⟩ | ⟨-, hold⟩
    · exact hboot _ _
    · exact h hold

theorem Ledger.commitRackRetirement (h : state.Ledger) (rack : RackRecord) (next : RackGeneration)
    (now : Timestamp) : (state.commitRackRetirement rack next now).Ledger where
  publishers hfound := by
    obtain ⟨old, hold, rfl⟩ := getElem?_map_cases hfound
    have hboot := h.publishers hold
    exact hboot
  fencedBoots hfound :=
    boot_of_fenced_fold (fun boot publisher => state.fencedRecord boot publisher now .superseded)
      (fun _ _ => rfl) state.publishers.toList (fun hold => h.fencedBoots hold) hfound
  snapshots := h.snapshots
  digests := h.digests

theorem Ledger.commitFence (h : state.Ledger) {boot : AgentBootId} {publisher : PublisherRecord}
    (hboot : publisher.boot = boot) (reason : RevalidationReason) (now : Timestamp) :
    (state.commitFence boot publisher reason now).Ledger where
  publishers hfound := by
    rcases getElem?_insert_cases hfound with ⟨rfl, rfl⟩ | ⟨-, hold⟩
    · exact hboot
    · exact h.publishers hold
  fencedBoots hfound := by
    rcases getElem?_insert_cases hfound with ⟨rfl, rfl⟩ | ⟨-, hold⟩
    · rfl
    · exact h.fencedBoots hold
  snapshots := h.snapshots
  digests := h.digests

theorem getElem?_retainSnapshot {snapshot found : RackSnapshot} {generation : SnapshotGeneration}
    (h : (retainSnapshot options state snapshot).snapshots[generation]? = some found) :
    (generation = snapshot.generation ∧ found = snapshot) ∨
      state.snapshots[generation]? = some found := by
  rcases getElem?_insert_cases h with hnew | ⟨-, hold⟩
  · exact Or.inl hnew
  · refine Or.inr ?_
    split at hold
    · split at hold
      · exact hold
      · rw [ExtTreeMap.getElem?_erase] at hold
        split at hold
        · cases hold
        · exact hold
    · exact hold

theorem admitSnapshot_ok {publisher : Option PublisherRef} {now : Timestamp}
    {snapshot : RackSnapshot} (h : admitSnapshot state publisher now = .ok snapshot) :
    ∃ rack id, state.rack = some rack ∧
      state.snapshotGeneration.advance = some snapshot.generation ∧
      snapshot = state.buildSnapshot rack id snapshot.generation
        (state.snapshotPublication publisher) now := by
  unfold admitSnapshot at h
  simp only [bind_eq_ok, require_eq_ok, pure_eq_ok] at h
  obtain ⟨rack, hrack, next, hnext, id, -, rfl⟩ := h
  exact ⟨rack, id, hrack, hnext, rfl⟩

theorem Ledger.retainSnapshot (h : state.Ledger) {publisher : Option PublisherRef}
    {now : Timestamp} {snapshot : RackSnapshot}
    (hadmitted : admitSnapshot state publisher now = .ok snapshot) :
    (retainSnapshot options state snapshot).Ledger where
  publishers := h.publishers
  fencedBoots := h.fencedBoots
  snapshots hfound := by
    rcases getElem?_retainSnapshot hfound with ⟨rfl, rfl⟩ | hold
    · rfl
    · exact h.snapshots hold
  digests hfound := by
    rcases getElem?_retainSnapshot hfound with ⟨rfl, rfl⟩ | hold
    · obtain ⟨rack, id, -, -, hbuilt⟩ := admitSnapshot_ok hadmitted
      rw [hbuilt]
      exact (computeSnapshotDigest_of_digest _ _).symm
    · exact h.digests hold

theorem Ledger.admitted {now : Timestamp} {publisher : Option PublisherRef} {mutation : Mutation}
    {committed : RackState} (h : state.Ledger)
    (hadmitted : Admitted options state now publisher mutation committed) : committed.Ledger := by
  cases hadmitted with
  | rackRetirement => exact h.commitRackRetirement _ _ _
  | snapshot hsnapshot => exact h.retainSnapshot hsnapshot
  | _ => exact h.of_eq rfl rfl rfl rfl

theorem Ledger.fencePublisher (h : state.Ledger) (now : Timestamp)
    (request : FencePublisherRequest) : (state.fencePublisher now request).1.Ledger := by
  unfold RackState.fencePublisher
  split
  · exact h
  · rename_i boot publisher hadmitted
    exact h.commitFence (h.publishers (admitFence_ok hadmitted)) _ _

theorem Ledger.transition {now : Timestamp} {mutation : Mutation} {after : RackState}
    {outcome : Option MutationOutcome} (h : state.Ledger)
    (htransition : Transition options state now mutation after outcome) : after.Ledger := by
  cases htransition with
  | refused => exact h
  | noted refusal => exact h.noteRefusal _ refusal
  | committed htoken hauthority hadmitted => exact (h.admitted hadmitted).advancePublication _
  | @stopped _ _ graph _ _ _ =>
    have hgraph : { state with toRackGraph := graph }.Ledger := h.of_eq rfl rfl rfl rfl
    exact hgraph.noteRefusal _ _
  | refreshed hadmitted hfound =>
    have hboot := h.publishers hfound
    exact h.insert hboot
  | registered => exact h.insert rfl
  | declared => exact h.of_eq rfl rfl rfl rfl
  | redeclared => exact h.of_eq rfl rfl rfl rfl
  | beat => exact h.modify _ fun _ => rfl
  | fenced hadmitted => exact h.commitFence (h.publishers (admitFence_ok hadmitted)) _ _
  | expired later =>
    exact expirePublishers_induction (fun _ now request h => h.fencePublisher now request) h later

theorem ledger_run (options : RackFabricOptions) (inputs : List Input) :
    (Execution.run (step options) (fresh options) inputs).Ledger := by
  refine Execution.invariant (step options)
    (fun state input h => h.transition (perform_transition state input)) ?_ inputs
  constructor <;> simp [fresh]

end RackState

end RackFabric
