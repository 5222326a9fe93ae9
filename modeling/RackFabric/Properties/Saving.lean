import RackFabric.Properties.Closure
import RackFabric.Properties.Writable

/-! Whether an accepted mutation leaves a state that can be saved. -/
namespace RackFabric
open Std Tables Relation WriteOp RackGraph RackState

/-! Changes that bring no text into a record. -/

theorem MemberRecord.Encodable.rewritten {limits : ResourceLimits} {existing record : MemberRecord}
    (hrewritten : Rewritten existing record) (h : existing.Encodable limits) :
    record.Encodable limits := by
  induction hrewritten with
  | refl => exact h
  | tail _ hrewrite ih => exact ih.rewrite hrewrite

def RelationshipRecord.Marks (existing record : RelationshipRecord) : Prop :=
  ∃ required, record = { existing with revalidationRequired := required }

def FailureDomainRecord.Marks (existing record : FailureDomainRecord) : Prop :=
  ∃ required, record = { existing with revalidationRequired := required }

theorem RelationshipRecord.Marks.refl (record : RelationshipRecord) : record.Marks record :=
  ⟨record.revalidationRequired, rfl⟩

theorem FailureDomainRecord.Marks.refl (record : FailureDomainRecord) : record.Marks record :=
  ⟨record.revalidationRequired, rfl⟩

structure RackGraph.Carries (graph later : RackGraph) : Prop where
  members : Descended Rewritten graph.members later.members
  relationships : Descended RelationshipRecord.Marks graph.relationships later.relationships
  failureDomains : Descended FailureDomainRecord.Marks graph.failureDomains later.failureDomains

namespace RackGraph.Carries
variable {graph later : RackGraph}

theorem of_members (hmembers : Descended Rewritten graph.members later.members)
    (hrelationships : later.relationships = graph.relationships)
    (hdomains : later.failureDomains = graph.failureDomains) : graph.Carries later where
  members := hmembers
  relationships := hrelationships ▸ Descended.refl .refl _
  failureDomains := hdomains ▸ Descended.refl .refl _

theorem refl (graph : RackGraph) : graph.Carries graph :=
  of_members (Descended.refl (fun _ => .refl) _) rfl rfl

end RackGraph.Carries

namespace RackState
variable {options : RackFabricOptions} {state : RackState} {publisher : Option PublisherRef}
  {now : Timestamp}

theorem carries_revision {member : MemberKey} {existing record : MemberRecord}
    (h : state.Succeeds member existing record) (hkeyed : Keyed state.toRackGraph)
    (hrewrite : existing.Rewrite record) :
    state.Carries (state.reviseMember existing record).toRackGraph :=
  .of_members (descended_revision h hkeyed hrewrite) (relationships_storeMember ..)
    (failureDomains_storeMember ..)

theorem carries_retirement {request : RetireMemberRequest} {record : MemberRecord}
    (hadmitted : admitRetirement state request = .ok record) (hkeyed : Keyed state.toRackGraph) :
    state.Carries (state.commitRetirement request.member record).toRackGraph where
  members := descended_retirement hadmitted hkeyed
  relationships := by
    intro key later hlater
    rw [relationships_retirement] at hlater
    split at hlater
    · cases hlater
    · exact ⟨later, hlater, .refl later⟩
  failureDomains := by
    rw [failureDomains_retirement]
    exact Descended.refl .refl _

theorem carries_dropRelationship (graph : RackGraph) (key : RelationshipKey) :
    graph.Carries (graph.dropRelationship key) where
  members := by
    rw [members_dropRelationship]
    exact Descended.refl (fun _ => .refl) _
  relationships := by
    intro other record hfound
    rw [relationships_dropRelationship, ExtTreeMap.getElem?_erase] at hfound
    split at hfound
    · cases hfound
    · exact ⟨record, hfound, .refl record⟩
  failureDomains := by
    rw [failureDomains_dropRelationship]
    exact Descended.refl .refl _

theorem carries_revalidateTargets (token : AuthorityToken) (targets : List MemberKey)
    (graph : RackGraph) (revalidated : Nat) :
    graph.Carries (revalidateTargets token targets graph revalidated).1 := by
  refine .of_members (descended_revalidateTargets token targets graph revalidated) ?_ ?_
  all_goals
    induction targets generalizing graph revalidated with
    | nil => rfl
    | cons key targets ih =>
      rcases revalidateTargets_cons graph token key targets revalidated with
        ⟨-, refusal, hstop, -⟩ | ⟨-, -, hskip⟩ | ⟨-, existing, next, -, -, -, hgo⟩
      · rw [hstop]
      · rw [hskip]
        exact ih graph revalidated
      · rw [hgo, ih]
        simp

theorem carries_fenceInGraph (graph : RackGraph) (boot : AgentBootId)
    (reason : RevalidationReason) : graph.Carries (fenceInGraph graph boot reason) where
  members := descended_fenceMembers reason _ graph
  relationships := by
    rw [relationships_fenceInGraph]
    refine Descended.map fun record => ?_
    unfold fencedRelationship
    split
    · exact ⟨true, rfl⟩
    · exact .refl record
  failureDomains := by
    rw [failureDomains_fenceInGraph]
    refine Descended.map fun record => ?_
    unfold fencedDomain
    split
    · exact ⟨true, rfl⟩
    · exact .refl record

theorem carries_redeclaration (rack : RackRecord) (epoch : RackEpochId)
    (generation : RackGeneration) (label : Option Str) :
    state.Carries (state.commitRedeclaration rack epoch generation label now).toRackGraph where
  members := Descended.map fun record => .single (.superseded record)
  relationships := Descended.map fun _ => ⟨true, rfl⟩
  failureDomains := Descended.map fun _ => ⟨true, rfl⟩

theorem carries_rackRetirement (rack : RackRecord) (next : RackGeneration) :
    state.Carries (state.commitRackRetirement rack next now).toRackGraph := by
  refine .of_members (Descended.map fun record => ?_) rfl rfl
  split
  · exact .single (.unavailable record .superseded record.generation)
  · exact .refl

/-! What such changes leave to be written. -/

section Kept
variable {limits : ResourceLimits}

theorem allFit_of_marks {existing record : RelationshipRecord} (hmarks : existing.Marks record)
    (h : AllFit limits (encodeRelationship existing)) :
    AllFit limits (encodeRelationship record) := by
  obtain ⟨required, rfl⟩ := hmarks
  simpa [encodeRelationship] using h

theorem allFit_of_marks_domain {existing record : FailureDomainRecord}
    (hmarks : existing.Marks record) (h : AllFit limits (encodeFailureDomain existing)) :
    AllFit limits (encodeFailureDomain record) := by
  obtain ⟨required, rfl⟩ := hmarks
  simpa [encodeFailureDomain] using h

/-- Changes that bring no text into the graph. -/
theorem Encodable.carried (h : state.Encodable limits) {graph : RackGraph}
    (hcarries : state.Carries graph) : { state with toRackGraph := graph }.Encodable limits :=
  { h with
    members := h.members.descended hcarries.members fun hrewritten hfit =>
      allFit_encodeMember.mpr ((allFit_encodeMember.mp hfit).rewritten hrewritten)
    relationships := h.relationships.descended hcarries.relationships allFit_of_marks
    failureDomains := h.failureDomains.descended hcarries.failureDomains allFit_of_marks_domain }

theorem Writable.carried (h : state.Writable limits) {graph : RackGraph}
    (hcarries : state.Carries graph) : { state with toRackGraph := graph }.Writable limits :=
  ⟨h.toEncodable.carried hcarries, h.fencedCount⟩

/-- The texts of a publisher stay when it is marked. -/
theorem allFit_publisher_of_same {existing record : PublisherRecord}
    (h : AllFit limits (encodePublisher existing)) (hworker : record.worker = existing.worker)
    (hboot : record.boot = existing.boot) (hlabel : record.label = existing.label) :
    AllFit limits (encodePublisher record) := by
  simpa [encodePublisher, hworker, hboot, hlabel] using h

theorem Writable.noteRefusal (h : state.Writable limits) (publisher : Option PublisherRef)
    (refusal : Refusal) : (state.noteRefusal publisher refusal).Writable limits := by
  cases publisher with
  | none => exact h
  | some found =>
    simp only [RackState.noteRefusal]
    split
    · exact h
    · exact { h with
        publishers := h.publishers.modify found.boot fun _ hfit =>
          allFit_publisher_of_same hfit rfl rfl rfl }

theorem writable_advancePublication_iff
    (hpublishers : TableFits limits (·.maxMembers) encodePublisher state.publishers)
    (publisher : Option PublisherRef) :
    (state.advancePublication publisher).Writable limits ↔ state.Writable limits := by
  cases publisher with
  | none => exact ⟨fun h => { h with }, fun h => { h with }⟩
  | some found =>
    constructor
    · intro h
      exact { h with publishers := hpublishers }
    · intro h
      exact { h with
        publishers := hpublishers.modify found.boot fun _ hfit =>
          allFit_publisher_of_same hfit rfl rfl rfl }

/-! A fence adds one record to the fenced boots, and no text to the others. -/

theorem allFit_fencedRecord {boot : AgentBootId} {publisher : PublisherRecord}
    (hboot : publisher.boot = boot) (h : AllFit limits (encodePublisher publisher))
    (reason : RevalidationReason) :
    AllFit limits (encodeFencedBoot (state.fencedRecord boot publisher now reason)) := by
  simp only [encodePublisher, allFit_append, allFit_cons] at h
  obtain ⟨⟨⟨hworker, hnamed, -⟩, -⟩, -⟩ := h
  simp [encodeFencedBoot, fencedRecord, optionalId, hworker, ← hboot, hnamed]

theorem allFit_fencePower (boot : AgentBootId) {power : Option PowerEnvelopeRecord}
    (h : AllFit limits (optional encodePowerEnvelope power)) :
    AllFit limits (optional encodePowerEnvelope (power.map (fencePower boot))) := by
  cases power with
  | none => exact h
  | some envelope =>
    simp only [Option.map_some, fencePower]
    split
    · simpa [encodePowerEnvelope] using h
    · exact h

theorem allFit_fenceCooling (boot : AgentBootId) {cooling : Option CoolingEnvelopeRecord}
    (h : AllFit limits (optional encodeCoolingEnvelope cooling)) :
    AllFit limits (optional encodeCoolingEnvelope (cooling.map (fenceCooling boot))) := by
  cases cooling with
  | none => exact h
  | some envelope =>
    simp only [Option.map_some, fenceCooling]
    split
    · simpa [encodeCoolingEnvelope, allFit_many, encodeZone] using h
    · exact h

theorem Encodable.commitFence (h : state.Encodable limits) (hledger : state.Ledger)
    {boot : AgentBootId} {publisher : PublisherRecord}
    (hfound : state.publishers[boot]? = some publisher) (reason : RevalidationReason)
    (now : Timestamp) : (state.commitFence boot publisher reason now).Encodable limits := by
  have hgraph := h.carried (carries_fenceInGraph state.toRackGraph boot reason)
  have htexts := h.publishers.records boot publisher hfound
  exact {
    rack := h.rack
    members := hgraph.members
    relationships := hgraph.relationships
    failureDomains := hgraph.failureDomains
    power := allFit_fencePower boot h.power
    cooling := allFit_fenceCooling boot h.cooling
    publishers := h.publishers.replace hfound (allFit_publisher_of_same htexts rfl rfl rfl)
    fencedBoots := h.fencedBoots.insert
      (allFit_fencedRecord (hledger.publishers hfound) htexts reason)
    snapshots := h.snapshots }

theorem writable_commitFence_iff (h : state.Writable limits) (hledger : state.Ledger)
    {boot : AgentBootId} {publisher : PublisherRecord}
    (hfound : state.publishers[boot]? = some publisher) (reason : RevalidationReason)
    (now : Timestamp) :
    (state.commitFence boot publisher reason now).Writable limits ↔
      (count (sizeWith state.fencedBoots [boot]) (·.maxFencedBoots)).Fits limits := by
  have hsize : (state.commitFence boot publisher reason now).fencedBoots.size =
      sizeWith state.fencedBoots [boot] := size_insert_eq ..
  rw [← hsize]
  exact ⟨fun hafter => hafter.fencedCount,
    fun hcount => ⟨h.toEncodable.commitFence hledger hfound reason now, hcount⟩⟩

def Fenceable (state : RackState) (boot : AgentBootId) : Prop :=
  ∃ publisher, state.publishers[boot]? = some publisher ∧ publisher.state ≠ .fenced

theorem fenceable_of_expired {boot : AgentBootId} (h : boot ∈ state.expiredBoots now) :
    state.Fenceable boot := by
  simp only [expiredBoots, List.mem_map, List.mem_filter] at h
  obtain ⟨⟨named, publisher⟩, ⟨hmem, hexpired⟩, rfl⟩ := h
  refine ⟨publisher, ExtTreeMap.mem_toList_iff_getElem?_eq_some.mp hmem, ?_⟩
  simp only [leaseExpired, decide_eq_true_eq] at hexpired
  rcases hexpired.1 with hstate | hstate <;> simp [hstate]

theorem nodup_expiredBoots (state : RackState) (now : Timestamp) :
    (state.expiredBoots now).Nodup := by
  unfold expiredBoots
  refine List.Nodup.sublist (List.filter_sublist.map _) ?_
  rw [ExtTreeMap.map_fst_toList_eq_keys]
  exact ExtTreeMap.nodup_keys

/-- Each of the boots is fenced, and no other one. -/
theorem mem_fencedBoots_fold {boots : List AgentBootId} (later : AgentBootId → Timestamp)
    (hnodup : boots.Nodup) (h : ∀ boot ∈ boots, state.Fenceable boot) (boot : AgentBootId) :
    boot ∈ (boots.foldl (fun state boot => (state.fencePublisher (later boot)
        { coordinatorEpoch := state.generations.coordinatorEpoch, boot := some boot
          reason := .ownerProcessLost }).1) state).fencedBoots ↔
      boot ∈ boots ∨ boot ∈ state.fencedBoots := by
  induction boots generalizing state with
  | nil => simp
  | cons first boots ih =>
    obtain ⟨hnew, hnodup⟩ := List.nodup_cons.mp hnodup
    obtain ⟨⟨publisher, hfound, hstate⟩, hrest⟩ := List.forall_mem_cons.mp h
    have hfence : (state.fencePublisher (later first)
        { coordinatorEpoch := state.generations.coordinatorEpoch, boot := some first
          reason := .ownerProcessLost }).1 =
        state.commitFence first publisher .ownerProcessLost (later first) := by
      simp [fencePublisher, admitFence, require, refuseIf, hfound, hstate, bind, Except.bind,
        pure, Except.pure, accept]
    rw [List.foldl_cons, hfence, ih hnodup fun other hother => ?_]
    · rw [show (state.commitFence first publisher .ownerProcessLost (later first)).fencedBoots =
        state.fencedBoots.insert first _ from rfl, ExtTreeMap.mem_insert,
        LawfulEqCmp.compare_eq_iff_eq, @eq_comm _ first, List.mem_cons, or_assoc, or_left_comm]
    · obtain ⟨found, hfound', hstate'⟩ := hrest other hother
      have hne : first ≠ other := fun heq => hnew (heq ▸ hother)
      exact ⟨found, by simp [commitFence, ExtTreeMap.getElem?_insert, hne, hfound'], hstate'⟩

theorem writable_expirePublishers_iff (h : state.Writable limits) (hledger : state.Ledger)
    (now : Timestamp) (later : AgentBootId → Timestamp) :
    (state.expirePublishers now later).Writable limits ↔
      (count (sizeWith state.fencedBoots (state.expiredBoots now))
        (·.maxFencedBoots)).Fits limits := by
  have hsize : (state.expirePublishers now later).fencedBoots.size =
      sizeWith state.fencedBoots (state.expiredBoots now) :=
    size_eq_sizeWith (mem_fencedBoots_fold later (nodup_expiredBoots state now)
      fun _ => fenceable_of_expired)
  have hkept : (state.expirePublishers now later).Encodable limits ∧
      (state.expirePublishers now later).Ledger := by
    refine @expirePublishers_induction state now
      (fun between => between.Encodable limits ∧ between.Ledger)
      (fun between now request hbetween => ⟨?_, hbetween.2.fencePublisher now request⟩)
      ⟨h.toEncodable, hledger⟩ later
    unfold fencePublisher
    split
    · exact hbetween.1
    · rename_i boot publisher hadmitted
      exact hbetween.1.commitFence hbetween.2 (admitFence_ok hadmitted) _ _
  rw [← hsize]
  exact ⟨fun hafter => hafter.fencedCount, fun hcount => ⟨hkept.1, hcount⟩⟩

end Kept

end RackState

end RackFabric
