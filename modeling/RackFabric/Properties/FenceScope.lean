import RackFabric.Properties.Restored

/-! What a fence flags. Members are flagged whatever their durability; of the
other records only the ephemeral ones are. -/
namespace RackFabric
open Std SecondaryIndex RackGraph RackState

namespace RackState

/-- Among records of one kind, those of the boot are flagged and the others stay. -/
structure FencedRecords {κ ρ : Type} (ownerBoot : ρ → Option AgentBootId)
    (revalidationRequired : ρ → Bool) (boot : AgentBootId) (before after : κ → Option ρ) :
    Prop where
  flagged : ∀ key record, before key = some record → ownerBoot record = some boot →
    ∃ fenced, after key = some fenced ∧ revalidationRequired fenced = true
  kept : ∀ key, (∀ record, before key = some record → ownerBoot record ≠ some boot) →
    after key = before key

abbrev FencedTable {κ ρ : Type} [Ord κ] [TransOrd κ] (ownerBoot : ρ → Option AgentBootId)
    (revalidationRequired : ρ → Bool) (boot : AgentBootId) (before after : ExtTreeMap κ ρ) :
    Prop :=
  FencedRecords ownerBoot revalidationRequired boot (fun key : κ => before[key]?)
    fun key => after[key]?

/-- The fence reaches every record of the boot and no other one. -/
structure CompletelyFenced (boot : AgentBootId) (before after : RackState) : Prop where
  members : FencedTable MemberRecord.ownerBoot (·.revalidationRequired) boot
    before.members after.members
  relationships : FencedTable RelationshipRecord.ownerBoot (·.revalidationRequired) boot
    before.relationships after.relationships
  failureDomains : FencedTable FailureDomainRecord.ownerBoot (·.revalidationRequired) boot
    before.failureDomains after.failureDomains
  power : FencedRecords PowerEnvelopeRecord.ownerBoot (·.revalidationRequired) boot
    (fun _ : Unit => before.power) fun _ => after.power
  cooling : FencedRecords CoolingEnvelopeRecord.ownerBoot (·.revalidationRequired) boot
    (fun _ : Unit => before.cooling) fun _ => after.cooling

/-- Every record of the boot is ephemeral or already flagged, its members apart. -/
structure OwnsNothingDurable (boot : AgentBootId) (state : RackState) : Prop where
  relationships : ∀ (key : RelationshipKey) (record : RelationshipRecord),
    state.relationships[key]? = some record → record.ownerBoot = some boot →
      record.durability = .ephemeral ∨ record.revalidationRequired = true
  failureDomains : ∀ (id : FailureDomainId) (record : FailureDomainRecord),
    state.failureDomains[id]? = some record → record.ownerBoot = some boot →
      record.durability = .ephemeral ∨ record.revalidationRequired = true
  power : ∀ envelope, state.power = some envelope → envelope.ownerBoot = some boot →
    envelope.durability = .ephemeral ∨ envelope.revalidationRequired = true
  cooling : ∀ envelope, state.cooling = some envelope → envelope.ownerBoot = some boot →
    envelope.durability = .ephemeral ∨ envelope.revalidationRequired = true

section Revised
variable {κ ρ : Type} {ownerBoot : ρ → Option AgentBootId} {revalidationRequired : ρ → Bool}
  {boot : AgentBootId} {before : κ → Option ρ} {fence : ρ → ρ}

/-- A fence that revises the records of the boot in place. -/
theorem fencedRecords_iff
    (hother : ∀ record, ownerBoot record ≠ some boot → fence record = record) :
    FencedRecords ownerBoot revalidationRequired boot before (fun key => (before key).map fence) ↔
      ∀ key record, before key = some record → ownerBoot record = some boot →
        revalidationRequired (fence record) = true := by
  constructor
  · intro h key record hfound howned
    obtain ⟨fenced, hfenced, hflag⟩ := h.flagged key record hfound howned
    rw [hfound, Option.map_some] at hfenced
    exact Option.some.inj hfenced ▸ hflag
  · intro h
    constructor
    · intro key record hfound howned
      exact ⟨fence record, by simp [hfound], h key record hfound howned⟩
    · intro key hnone
      cases hfound : before key with
      | none => rfl
      | some record => simp [hother record (hnone record hfound)]

theorem fencedTable_iff [Ord κ] [TransOrd κ] {table after : ExtTreeMap κ ρ}
    (hother : ∀ record, ownerBoot record ≠ some boot → fence record = record)
    (hafter : ∀ key : κ, after[key]? = table[key]?.map fence) :
    FencedTable ownerBoot revalidationRequired boot table after ↔
      ∀ (key : κ) (record : ρ), table[key]? = some record → ownerBoot record = some boot →
        revalidationRequired (fence record) = true := by
  have hrevised : (fun key : κ => after[key]?) = fun key => table[key]?.map fence := funext hafter
  rw [FencedTable, hrevised, fencedRecords_iff hother]

end Revised

/-! The members of the boot, one after another. -/

theorem members_fenceMember (reason : RevalidationReason) (graph : RackGraph)
    (key other : MemberKey) :
    (fenceMember reason graph key).members[other]? =
      if other = key then graph.members[other]?.map (fencedMember · reason)
      else graph.members[other]? := by
  unfold fenceMember
  by_cases hsame : other = key
  · subst hsame
    cases hfound : graph.members[other]? <;> simp [hfound]
  · cases graph.members[key]? <;> simp [hsame, Ne.symm hsame, ExtTreeMap.getElem?_insert]

theorem members_fenceMembers (reason : RevalidationReason) (keys : List MemberKey)
    (hdistinct : keys.Nodup) (graph : RackGraph) (key : MemberKey) :
    (keys.foldl (fenceMember reason) graph).members[key]? =
      if key ∈ keys then graph.members[key]?.map (fencedMember · reason)
      else graph.members[key]? := by
  induction keys generalizing graph with
  | nil => simp
  | cons first keys ih =>
    obtain ⟨hfirst, hkeys⟩ := List.nodup_cons.mp hdistinct
    rw [List.foldl_cons, ih hkeys, members_fenceMember]
    by_cases hsame : key = first
    · subst hsame
      simp [hfirst]
    · simp [hsame]

/-- The index leads the fence to the members of the boot and to no others. -/
theorem members_fenceInGraph {graph : RackGraph} (h : graph.Orderly) (boot : AgentBootId)
    (reason : RevalidationReason) (key : MemberKey) :
    (fenceInGraph graph boot reason).members[key]? =
      graph.members[key]?.map fun record =>
        if record.ownerBoot = some boot then fencedMember record reason else record := by
  have hdistinct : (entries graph.membersByOwnerBoot boot).toList.Nodup :=
    ExtTreeSet.distinct_toList.imp fun hne heq => hne (by simp [heq])
  change ((entries graph.membersByOwnerBoot boot).toList.foldl (fenceMember reason)
    graph).members[key]? = _
  have howned : key ∈ (entries graph.membersByOwnerBoot boot).toList ↔
      ∃ record, graph.members[key]? = some record ∧ record.ownerBoot = some boot := by
    have hfiled := h.owners.entries_iff boot key
    simpa [Filed, byOwnerBoot, MemberRecord.ownerKeys] using hfiled
  rw [members_fenceMembers reason _ hdistinct]
  cases hfound : graph.members[key]? with
  | none => simp
  | some record =>
    by_cases hboot : record.ownerBoot = some boot
    · rw [if_pos (howned.mpr ⟨record, hfound, hboot⟩)]
      simp [hboot]
    · rw [if_neg fun hmem => ?_]
      · simp [hboot]
      · obtain ⟨found, hsame, hfoundBoot⟩ := howned.mp hmem
        obtain rfl := Option.some.inj (hfound.symm.trans hsame)
        exact hboot hfoundBoot

theorem relationships_fenceInGraph (graph : RackGraph) (boot : AgentBootId)
    (reason : RevalidationReason) :
    (fenceInGraph graph boot reason).relationships =
      graph.relationships.map fun _ => fencedRelationship boot := by
  unfold fenceInGraph
  dsimp only
  rw [foldl_unread relationships]
  intro before key
  unfold fenceMember
  split <;> simp

theorem failureDomains_fenceInGraph (graph : RackGraph) (boot : AgentBootId)
    (reason : RevalidationReason) :
    (fenceInGraph graph boot reason).failureDomains =
      graph.failureDomains.map fun _ => fencedDomain boot := by
  unfold fenceInGraph
  dsimp only
  rw [foldl_unread failureDomains]
  intro before key
  unfold fenceMember
  split <;> simp

/-! One kind of record after another. -/

section Kinds
variable {state : RackState} {boot : AgentBootId} {publisher : PublisherRecord}
  {reason : RevalidationReason} {now : Timestamp}

theorem members_fenced (h : state.Orderly) :
    FencedTable MemberRecord.ownerBoot (·.revalidationRequired) boot state.members
      (state.commitFence boot publisher reason now).members := by
  refine (fencedTable_iff (fun record hother => if_neg hother)
    (members_fenceInGraph h boot reason)).mpr ?_
  intro key record _ howned
  rw [if_pos howned]
  rfl

theorem relationships_fenced_iff :
    FencedTable RelationshipRecord.ownerBoot (·.revalidationRequired) boot state.relationships
        (state.commitFence boot publisher reason now).relationships ↔
      ∀ (key : RelationshipKey) (record : RelationshipRecord),
        state.relationships[key]? = some record → record.ownerBoot = some boot →
          record.durability = .ephemeral ∨ record.revalidationRequired = true := by
  change FencedTable _ _ boot _ (fenceInGraph state.toRackGraph boot reason).relationships ↔ _
  rw [relationships_fenceInGraph, fencedTable_iff
    (fun record hother => by simp [fencedRelationship, ownedEphemeral, hother])
    fun key => ExtTreeMap.getElem?_map]
  refine forall₂_congr fun key record => imp_congr_right fun _ => imp_congr_right fun howned => ?_
  by_cases hephemeral : record.durability = .ephemeral <;>
    simp [fencedRelationship, ownedEphemeral, howned, hephemeral]

theorem failureDomains_fenced_iff :
    FencedTable FailureDomainRecord.ownerBoot (·.revalidationRequired) boot state.failureDomains
        (state.commitFence boot publisher reason now).failureDomains ↔
      ∀ (id : FailureDomainId) (record : FailureDomainRecord),
        state.failureDomains[id]? = some record → record.ownerBoot = some boot →
          record.durability = .ephemeral ∨ record.revalidationRequired = true := by
  change FencedTable _ _ boot _ (fenceInGraph state.toRackGraph boot reason).failureDomains ↔ _
  rw [failureDomains_fenceInGraph, fencedTable_iff
    (fun record hother => by simp [fencedDomain, ownedEphemeral, hother])
    fun id => ExtTreeMap.getElem?_map]
  refine forall₂_congr fun id record => imp_congr_right fun _ => imp_congr_right fun howned => ?_
  by_cases hephemeral : record.durability = .ephemeral <;>
    simp [fencedDomain, ownedEphemeral, howned, hephemeral]

theorem power_fenced_iff :
    FencedRecords PowerEnvelopeRecord.ownerBoot (·.revalidationRequired) boot
        (fun _ : Unit => state.power)
        (fun _ => (state.commitFence boot publisher reason now).power) ↔
      ∀ envelope, state.power = some envelope → envelope.ownerBoot = some boot →
        envelope.durability = .ephemeral ∨ envelope.revalidationRequired = true := by
  change FencedRecords _ _ boot _ (fun _ => state.power.map (fencePower boot)) ↔ _
  rw [fencedRecords_iff fun record hother => by simp [fencePower, ownedEphemeral, hother]]
  rw [forall_const]
  refine forall_congr' fun envelope => imp_congr_right fun _ => imp_congr_right fun howned => ?_
  by_cases hephemeral : envelope.durability = .ephemeral <;>
    simp [fencePower, ownedEphemeral, howned, hephemeral]

theorem cooling_fenced_iff :
    FencedRecords CoolingEnvelopeRecord.ownerBoot (·.revalidationRequired) boot
        (fun _ : Unit => state.cooling)
        (fun _ => (state.commitFence boot publisher reason now).cooling) ↔
      ∀ envelope, state.cooling = some envelope → envelope.ownerBoot = some boot →
        envelope.durability = .ephemeral ∨ envelope.revalidationRequired = true := by
  change FencedRecords _ _ boot _ (fun _ => state.cooling.map (fenceCooling boot)) ↔ _
  rw [fencedRecords_iff fun record hother => by simp [fenceCooling, ownedEphemeral, hother]]
  rw [forall_const]
  refine forall_congr' fun envelope => imp_congr_right fun _ => imp_congr_right fun howned => ?_
  by_cases hephemeral : envelope.durability = .ephemeral <;>
    simp [fenceCooling, ownedEphemeral, howned, hephemeral]

theorem commitFence_complete_iff (h : state.Orderly) :
    CompletelyFenced boot state (state.commitFence boot publisher reason now) ↔
      OwnsNothingDurable boot state := by
  constructor
  · intro hfenced
    exact ⟨relationships_fenced_iff.mp hfenced.relationships,
      failureDomains_fenced_iff.mp hfenced.failureDomains, power_fenced_iff.mp hfenced.power,
      cooling_fenced_iff.mp hfenced.cooling⟩
  · intro howns
    exact ⟨members_fenced h, relationships_fenced_iff.mpr howns.relationships,
      failureDomains_fenced_iff.mpr howns.failureDomains, power_fenced_iff.mpr howns.power,
      cooling_fenced_iff.mpr howns.cooling⟩

end Kinds

theorem fencePublisher_accepted {state : RackState} {now : Timestamp}
    {request : FencePublisherRequest} {boot : AgentBootId} (hboot : request.boot = some boot)
    (haccepted : (state.fencePublisher now request).2.outcome = .accepted) :
    ∃ publisher, (state.fencePublisher now request).1 =
      state.commitFence boot publisher request.reason now := by
  unfold fencePublisher at haccepted ⊢
  cases hadmitted : admitFence state request with
  | error refusal =>
    rw [hadmitted] at haccepted
    exact absurd haccepted refusal.not_accepted
  | ok found =>
    obtain ⟨named, publisher⟩ := found
    unfold admitFence at hadmitted
    simp only [bind_eq_ok, refuseIf_eq_ok, require_eq_ok, exists_and_left, exists_const, pure_eq_ok,
      Prod.mk.injEq] at hadmitted
    obtain ⟨found, hnamed, -, record, -, -, rfl, rfl⟩ := hadmitted
    obtain rfl := Option.some.inj (hnamed.symm.trans hboot)
    exact ⟨record, rfl⟩

/-- In every state of a deployment, a fence flags all that its boot owns exactly
when the boot owns nothing durable besides members. -/
theorem fencing_complete_iff (file : Option Bytes) (options : RackFabricOptions)
    (operations : List Operation) (now : Timestamp) (request : FencePublisherRequest)
    (boot : AgentBootId) (hboot : request.boot = some boot)
    (haccepted : ((Deployment.after file options operations).live.fencePublisher now
      request).2.outcome = .accepted) :
    CompletelyFenced boot (Deployment.after file options operations).live
        ((Deployment.after file options operations).live.fencePublisher now request).1 ↔
      OwnsNothingDurable boot (Deployment.after file options operations).live := by
  obtain ⟨publisher, hcommitted⟩ := fencePublisher_accepted hboot haccepted
  rw [hcommitted]
  exact commitFence_complete_iff (Deployment.orderly_after file options operations)

def publishedDomain (durability : Durability) : List Operation :=
  [.mutate Scenario.declareRack, .mutate (Scenario.registerPublisher Scenario.bootA),
    .mutate
      { mutation := .publishFailureDomain
          { authority := Scenario.process Scenario.bootA
            record :=
              { id := feed, provenance := .reported, observedAt := ⟨900⟩, ttl := 60000
                durability := durability } } }]

def fenceA : FencePublisherRequest :=
  { coordinatorEpoch := .first, boot := some Scenario.bootA }

theorem ephemeral_domain_fenced :
    CompletelyFenced Scenario.bootA
        (Deployment.after none Scenario.defaults (publishedDomain .ephemeral)).live
        ((Deployment.after none Scenario.defaults (publishedDomain .ephemeral)).live.fencePublisher
          ⟨2000⟩ fenceA).1 ↔
      OwnsNothingDurable Scenario.bootA
        (Deployment.after none Scenario.defaults (publishedDomain .ephemeral)).live :=
  fencing_complete_iff none Scenario.defaults (publishedDomain .ephemeral) ⟨2000⟩ fenceA
    Scenario.bootA rfl (by decide +kernel)

/-- The failure domain of a fenced process stays trusted when it is durable. -/
theorem durable_domain_not_fenced :
    ((Deployment.after none Scenario.defaults (publishedDomain .durable)).live.fencePublisher
        ⟨2000⟩ fenceA).2.outcome = .accepted ∧
      ¬ CompletelyFenced Scenario.bootA
        (Deployment.after none Scenario.defaults (publishedDomain .durable)).live
        ((Deployment.after none Scenario.defaults (publishedDomain .durable)).live.fencePublisher
          ⟨2000⟩ fenceA).1 := by
  refine ⟨by decide +kernel, fun hfenced => ?_⟩
  have howned : ((Deployment.after none Scenario.defaults
      (publishedDomain .durable)).live.failureDomains[feed]?.bind (·.ownerBoot)) =
        some Scenario.bootA := by decide +kernel
  have hflag : (((Deployment.after none Scenario.defaults
      (publishedDomain .durable)).live.fencePublisher ⟨2000⟩ fenceA).1.failureDomains[feed]?.map
        (·.revalidationRequired)) = some false := by decide +kernel
  obtain ⟨record, hfound, hboot⟩ := Option.bind_eq_some_iff.mp howned
  obtain ⟨fenced, hafter, hrequired⟩ := hfenced.failureDomains.flagged feed record hfound hboot
  rw [hafter, Option.map_some, hrequired] at hflag
  cases hflag

end RackState

end RackFabric
