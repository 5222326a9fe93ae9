import RackFabric.Properties.Authority
import RackFabric.Properties.Currency
import RackFabric.Properties.FenceScope
import RackFabric.Properties.Ownership

/-! Generations only grow, and the current ones bound those of every record. -/
namespace RackFabric
open Std RackState RackGraph Tables

def BoundedBy {κ ρ : Type} [Ord κ] [TransOrd κ] {tag : GenerationTag}
    (generationOf : ρ → Generation tag) (counter : Generation tag) (table : ExtTreeMap κ ρ) : Prop :=
  ∀ (key : κ) (record : ρ), table[key]? = some record → generationOf record ≤ counter

namespace BoundedBy
variable {κ ρ : Type} [Ord κ] [TransOrd κ] [LawfulEqOrd κ] {tag : GenerationTag}
  {generationOf : ρ → Generation tag} {counter later : Generation tag} {table : ExtTreeMap κ ρ}

omit [LawfulEqOrd κ] in
theorem mono (h : BoundedBy generationOf counter table) (hle : counter ≤ later) :
    BoundedBy generationOf later table :=
  fun key record hfound => Generation.le_trans (h key record hfound) hle

theorem insert (h : BoundedBy generationOf counter table) {key : κ} {record : ρ}
    (hrecord : generationOf record ≤ counter) :
    BoundedBy generationOf counter (table.insert key record) := by
  intro other found hfound
  rcases getElem?_insert_cases hfound with ⟨-, rfl⟩ | ⟨-, hold⟩
  · exact hrecord
  · exact h other found hold

theorem map (h : BoundedBy generationOf counter table) {revise : ρ → ρ}
    (hrevise : ∀ record, generationOf (revise record) = generationOf record) :
    BoundedBy generationOf counter (table.map fun _ => revise) := by
  intro key record hfound
  obtain ⟨old, hold, rfl⟩ := getElem?_map_cases hfound
  rw [hrevise]
  exact h key old hold

omit [LawfulEqOrd κ] in
/-- Records that are left out are bounded all the same. -/
theorem of_kept {kept : ExtTreeMap κ ρ} (h : BoundedBy generationOf counter table)
    (hkept : ∀ (key : κ) (record : ρ), kept[key]? = some record → table[key]? = some record) :
    BoundedBy generationOf counter kept :=
  fun key record hfound => h key record (hkept key record hfound)

end BoundedBy

namespace RackState
variable {options : RackFabricOptions} {state : RackState}

structure Grown (before after : RackState) : Prop where
  generations : before.generations ≤ after.generations
  snapshot : before.snapshotGeneration ≤ after.snapshotGeneration
  operator : before.operatorPublicationGeneration ≤ after.operatorPublicationGeneration
  publishers : Followed PublisherRecord.Continues before.publishers after.publishers

theorem Grown.refl (state : RackState) : Grown state state :=
  ⟨fun _ => Nat.le_refl _, Generation.le_refl _, Generation.le_refl _, Followed.refl .refl _⟩

theorem Grown.trans {first second third : RackState} (hfirst : Grown first second)
    (hsecond : Grown second third) : Grown first third where
  generations := fun tag => Nat.le_trans (hfirst.generations tag) (hsecond.generations tag)
  snapshot := Generation.le_trans hfirst.snapshot hsecond.snapshot
  operator := Generation.le_trans hfirst.operator hsecond.operator
  publishers := hfirst.publishers.trans .trans hsecond.publishers

theorem grown_advancePublication (publisher : Option PublisherRef) :
    Grown state (state.advancePublication publisher) where
  generations := by rw [generations_advancePublication]
  snapshot := by
    cases publisher <;> exact Generation.le_refl _
  operator := by
    cases publisher with
    | none => exact le_getD_next _
    | some found => exact Generation.le_refl _
  publishers := publishers_advancePublication publisher

theorem grown_noteRefusal (publisher : Option PublisherRef) (refusal : Refusal) :
    Grown state (state.noteRefusal publisher refusal) where
  generations := by rw [generations_noteRefusal]
  snapshot := by
    cases publisher with
    | none => exact Generation.le_refl _
    | some found =>
      simp only [noteRefusal]
      split <;> exact Generation.le_refl _
  operator := by
    cases publisher with
    | none => exact Generation.le_refl _
    | some found =>
      simp only [noteRefusal]
      split <;> exact Generation.le_refl _
  publishers := (publishers_noteRefusal publisher refusal).mono .of_keeps

theorem lt_of_advance {tag : GenerationTag} {generation next : Generation tag}
    (h : generation.advance = some next) : generation < next :=
  Generation.lt_of_next (Generation.advance_eq_next generation ▸ h)

theorem grown_admitted {now : Timestamp} {publisher : Option PublisherRef} {mutation : Mutation}
    {committed : RackState} (hdated : state.RackDated)
    (h : Admitted options state now publisher mutation committed) : Grown state committed where
  generations := generations_admitted hdated h
  snapshot := by
    cases h with
    | snapshot hadmitted =>
      obtain ⟨rack, id, -, hnext, -⟩ := admitSnapshot_ok hadmitted
      exact Generation.le_of_lt (lt_of_advance hnext)
    | _ => exact Generation.le_refl _
  operator := by
    cases h <;> exact Generation.le_refl _
  publishers := (publishers_admitted h).mono .of_keeps

theorem grown_fencePublisher (now : Timestamp) (request : FencePublisherRequest) :
    Grown state (state.fencePublisher now request).1 where
  generations := generations_fencePublisher now request
  snapshot := by
    unfold fencePublisher
    split <;> exact Generation.le_refl _
  operator := by
    unfold fencePublisher
    split <;> exact Generation.le_refl _
  publishers := (publishers_fencePublisher now request).mono .of_keeps

/-- No mutation takes a counter back. -/
theorem grown_transition {now : Timestamp} {mutation : Mutation} {after : RackState}
    {outcome : Option MutationOutcome} (hdated : state.RackDated)
    (h : Transition options state now mutation after outcome) : Grown state after := by
  have hpublishers := publishers_followed h
  cases h with
  | refused => exact .refl state
  | noted refusal => exact grown_noteRefusal _ refusal
  | committed htoken hauthority hadmitted =>
    exact (grown_admitted hdated hadmitted).trans (grown_advancePublication _)
  | @stopped _ _ graph refusal =>
    have hnoted := { state with toRackGraph := graph }.grown_noteRefusal
    exact ⟨(hnoted _ refusal).generations, (hnoted _ refusal).snapshot,
      (hnoted _ refusal).operator, hpublishers⟩
  | refreshed | registered | beat =>
    exact ⟨fun _ => Nat.le_refl _, Generation.le_refl _, Generation.le_refl _, hpublishers⟩
  | declared hadmitted hnone =>
    exact ⟨generations_le_of_rack (lt_of_undeclared hdated hnone), Generation.le_refl _,
      Generation.le_refl _, hpublishers⟩
  | redeclared hadmitted hsome hover =>
    have hlt := lt_of_rack_next hdated hsome (admitOverRack_next hover)
    exact ⟨generations_le_of_rack hlt, Generation.le_refl _, Generation.le_refl _, hpublishers⟩
  | fenced =>
    exact ⟨generations_commitFence _ _ _ _, Generation.le_refl _, Generation.le_refl _, hpublishers⟩
  | expired later =>
    have hfence : ∀ (between : RackState) now request, Grown state between →
        Grown state (between.fencePublisher now request).1 :=
      fun _ now request hbetween => hbetween.trans (grown_fencePublisher now request)
    exact expirePublishers_induction hfence (.refl state) later

/-! The records. -/

theorem le_of_toNat {tag : GenerationTag} {first second : Generation tag}
    (h : first.value.toNat ≤ second.value.toNat) : first ≤ second :=
  UInt64.le_iff_toNat_le.mpr h

structure RecordsBounded (state : RackState) : Prop where
  relationships :
    BoundedBy RelationshipRecord.generation state.generations.topology state.relationships
  failureDomains :
    BoundedBy FailureDomainRecord.generation state.generations.failureDomains state.failureDomains
  power : ∀ envelope ∈ state.power, envelope.generation ≤ state.generations.power
  cooling : ∀ envelope ∈ state.cooling, envelope.generation ≤ state.generations.cooling

namespace RecordsBounded
variable {after : RackState}

theorem mono (h : state.RecordsBounded) (hle : state.generations ≤ after.generations)
    (hrelationships : after.relationships = state.relationships)
    (hdomains : after.failureDomains = state.failureDomains) (hpower : after.power = state.power)
    (hcooling : after.cooling = state.cooling) : after.RecordsBounded where
  relationships := by
    rw [hrelationships]
    exact h.relationships.mono (le_of_toNat (hle .topology))
  failureDomains := by
    rw [hdomains]
    exact h.failureDomains.mono (le_of_toNat (hle .failureDomain))
  power := by
    rw [hpower]
    exact fun envelope hsome =>
      Generation.le_trans (h.power envelope hsome) (le_of_toNat (hle .powerEnvelope))
  cooling := by
    rw [hcooling]
    exact fun envelope hsome =>
      Generation.le_trans (h.cooling envelope hsome) (le_of_toNat (hle .coolingEnvelope))

theorem advancePublication (h : state.RecordsBounded) (publisher : Option PublisherRef) :
    (state.advancePublication publisher).RecordsBounded := by
  cases publisher <;> exact ⟨h.relationships, h.failureDomains, h.power, h.cooling⟩

theorem noteRefusal (h : state.RecordsBounded) (publisher : Option PublisherRef)
    (refusal : Refusal) : (state.noteRefusal publisher refusal).RecordsBounded := by
  cases publisher with
  | none => exact h
  | some found =>
    simp only [RackState.noteRefusal]
    split
    · exact h
    · exact ⟨h.relationships, h.failureDomains, h.power, h.cooling⟩

end RecordsBounded

theorem revalidateTargets_topology (token : AuthorityToken) (targets : List MemberKey)
    (graph : RackGraph) (revalidated : Nat) :
    (revalidateTargets token targets graph revalidated).1.relationships = graph.relationships ∧
      (revalidateTargets token targets graph revalidated).1.failureDomains =
        graph.failureDomains := by
  induction targets generalizing graph revalidated with
  | nil => exact ⟨rfl, rfl⟩
  | cons key targets ih =>
    unfold revalidateTargets
    split
    · exact ⟨rfl, rfl⟩
    · split
      · exact ⟨rfl, rfl⟩
      · split
        · exact ih graph revalidated
        · split
          · exact ⟨rfl, rfl⟩
          · simpa using ih (graph.storeMember key _ _) (revalidated + 1)

theorem bounded_fence (h : state.RecordsBounded) (boot : AgentBootId)
    (publisher : PublisherRecord) (reason : RevalidationReason) (now : Timestamp) :
    (state.commitFence boot publisher reason now).RecordsBounded where
  relationships := by
    rw [show (state.commitFence boot publisher reason now).relationships = _ from
      relationships_fenceInGraph state.toRackGraph boot reason]
    refine h.relationships.map fun record => ?_
    unfold fencedRelationship
    split <;> rfl
  failureDomains := by
    rw [show (state.commitFence boot publisher reason now).failureDomains = _ from
      failureDomains_fenceInGraph state.toRackGraph boot reason]
    refine h.failureDomains.map fun record => ?_
    unfold fencedDomain
    split <;> rfl
  power envelope hsome := by
    obtain ⟨old, hold, rfl⟩ := Option.map_eq_some_iff.mp hsome
    have hle := h.power old hold
    unfold fencePower
    split <;> exact hle
  cooling envelope hsome := by
    obtain ⟨old, hold, rfl⟩ := Option.map_eq_some_iff.mp hsome
    have hle := h.cooling old hold
    unfold fenceCooling
    split <;> exact hle

theorem bounded_fencePublisher (h : state.RecordsBounded) (now : Timestamp)
    (request : FencePublisherRequest) : (state.fencePublisher now request).1.RecordsBounded := by
  unfold fencePublisher
  split
  · exact h
  · exact bounded_fence h _ _ _ _

theorem bounded_admitted {now : Timestamp} {publisher : Option PublisherRef} {mutation : Mutation}
    {committed : RackState} (h : state.RecordsBounded) (hdated : state.RackDated)
    (hadmitted : Admitted options state now publisher mutation committed) :
    committed.RecordsBounded := by
  have hle := generations_admitted hdated hadmitted
  cases hadmitted with
  | relationship =>
    have hbounded := h.relationships.mono (le_of_toNat (hle .topology))
    exact {
      relationships := by simpa [commitRelationship] using hbounded.insert (Generation.le_refl _)
      failureDomains := by simpa [commitRelationship] using h.failureDomains
      power := h.power
      cooling := h.cooling }
  | failureDomain =>
    have hbounded := h.failureDomains.mono (le_of_toNat (hle .failureDomain))
    exact {
      relationships := by simpa [commitFailureDomain] using h.relationships
      failureDomains := by simpa [commitFailureDomain] using hbounded.insert (Generation.le_refl _)
      power := h.power
      cooling := h.cooling }
  | powerEnvelope =>
    refine ⟨h.relationships, h.failureDomains, fun envelope hsome => ?_, h.cooling⟩
    cases hsome
    exact Generation.le_refl _
  | coolingEnvelope =>
    refine ⟨h.relationships, h.failureDomains, h.power, fun envelope hsome => ?_⟩
    cases hsome
    exact Generation.le_refl _
  | @relationshipWithdrawal request =>
    have hbounded := h.relationships.mono (le_of_toNat (hle .topology))
    exact {
      relationships := hbounded.of_kept fun key record hfound => by
        simp only [commitRelationshipWithdrawal, relationships_dropRelationship,
          ExtTreeMap.getElem?_erase] at hfound
        split at hfound
        · cases hfound
        · exact hfound
      failureDomains := by simpa [commitRelationshipWithdrawal] using h.failureDomains
      power := h.power
      cooling := h.cooling }
  | @retirement request record =>
    have hbounded := h.relationships.mono (le_of_toNat (hle .topology))
    exact {
      relationships := hbounded.of_kept fun key record hfound => by
        rw [relationships_retirement] at hfound
        split at hfound
        · cases hfound
        · exact hfound
      failureDomains := by
        rw [failureDomains_retirement]
        exact h.failureDomains
      power := h.power
      cooling := h.cooling }
  | @revalidation request graph count hrevalidated =>
    have htopology := revalidateTargets_topology request.authority
      (state.revalidationTargets request) state.toRackGraph 0
    rw [hrevalidated] at htopology
    exact h.mono hle htopology.1 htopology.2 rfl rfl
  | rackRetirement | snapshot => exact h.mono hle rfl rfl rfl rfl
  | member | health | capability | withdrawal | unavailable =>
    exact h.mono hle (relationships_storeMember ..) (failureDomains_storeMember ..) rfl rfl

theorem bounded_transition {now : Timestamp} {mutation : Mutation} {after : RackState}
    {outcome : Option MutationOutcome} (h : state.RecordsBounded) (hdated : state.RackDated)
    (htransition : Transition options state now mutation after outcome) :
    after.RecordsBounded := by
  have hle := (grown_transition hdated htransition).generations
  cases htransition with
  | refused => exact h
  | noted refusal => exact h.noteRefusal _ refusal
  | committed htoken hauthority hadmitted =>
    exact (bounded_admitted h hdated hadmitted).advancePublication _
  | @stopped request publisher graph refusal _ hstopped =>
    have htopology := revalidateTargets_topology request.authority
      (state.revalidationTargets request) state.toRackGraph 0
    rw [hstopped] at htopology
    have hgraph : { state with toRackGraph := graph }.RecordsBounded :=
      h.mono (fun _ => Nat.le_refl _) htopology.1 htopology.2 rfl rfl
    exact hgraph.noteRefusal publisher refusal
  | refreshed | registered | beat | declared => exact h.mono hle rfl rfl rfl rfl
  | redeclared =>
    exact ⟨h.relationships.map fun _ => rfl, h.failureDomains.map fun _ => rfl, h.power, h.cooling⟩
  | fenced => exact bounded_fence h _ _ _ _
  | expired later =>
    have hfence : ∀ (between : RackState) now request, between.RecordsBounded →
        (between.fencePublisher now request).1.RecordsBounded :=
      fun _ now request hbetween => bounded_fencePublisher hbetween now request
    exact expirePublishers_induction hfence h later

/-! The snapshots. -/

def Reaches (state : RackState) (generation : PublicationGeneration) : Prop :=
  generation ≤ state.operatorPublicationGeneration ∨
    ∃ (boot : AgentBootId) (record : PublisherRecord),
      state.publishers[boot]? = some record ∧ generation ≤ record.publicationGeneration

structure BoundsSnapshot (state : RackState) (snapshot : RackSnapshot) : Prop where
  generations : snapshot.generations ≤ state.generations
  generation : snapshot.generation ≤ state.snapshotGeneration
  publication : state.Reaches snapshot.publicationGeneration

theorem Grown.boundsSnapshot {after : RackState} (hgrown : Grown state after)
    {snapshot : RackSnapshot} (h : state.BoundsSnapshot snapshot) :
    after.BoundsSnapshot snapshot where
  generations := fun tag => Nat.le_trans (h.generations tag) (hgrown.generations tag)
  generation := Generation.le_trans h.generation hgrown.snapshot
  publication := by
    rcases h.publication with hoperator | ⟨boot, record, hfound, hle⟩
    · exact Or.inl (Generation.le_trans hoperator hgrown.operator)
    · obtain ⟨later, hlater, hcontinues⟩ := hgrown.publishers boot record hfound
      exact Or.inr ⟨boot, later, hlater, Generation.le_trans hle hcontinues.generation⟩

/-- The operator that has published nothing before publishes its first generation. -/
theorem first_le_next {generation : PublicationGeneration} (h : generation.isUnset = true) :
    (Generation.first : PublicationGeneration) ≤ generation.next.getD generation := by
  have hzero : generation.value = 0 := by simpa [Generation.isUnset] using h
  have hnext : generation.next = some .first := by simp [Generation.next, hzero, Generation.first]
  rw [hnext]
  exact Generation.le_refl _

theorem reaches_publication {publisher : Option PublisherRef} {token : AuthorityToken}
    {rackScoped : Bool} (hauthority : state.checkAuthority token rackScoped = .ok publisher) :
    (state.advancePublication publisher).Reaches (state.snapshotPublication publisher) := by
  cases publisher with
  | none =>
    refine Or.inl ?_
    simp only [snapshotPublication, advancePublication]
    split
    · rename_i hunset
      exact first_le_next hunset
    · exact le_getD_next _
  | some found =>
    have hrecorded := (authorized_of_ok hauthority).recorded
    obtain ⟨later, hlater, hcontinues⟩ :=
      publishers_advancePublication (some found) found.boot found.record hrecorded
    exact Or.inr ⟨found.boot, later, hlater, hcontinues.generation⟩

theorem boundsSnapshot_published {publisher : Option PublisherRef} {token : AuthorityToken}
    {rackScoped : Bool} {now : Timestamp} {snapshot : RackSnapshot}
    (hauthority : state.checkAuthority token rackScoped = .ok publisher)
    (hadmitted : admitSnapshot state publisher now = .ok snapshot) :
    ((retainSnapshot options state snapshot).advancePublication publisher).BoundsSnapshot
      snapshot := by
  obtain ⟨rack, id, -, -, hbuilt⟩ := admitSnapshot_ok hadmitted
  have hpublication : snapshot.publicationGeneration = state.snapshotPublication publisher := by
    rw [hbuilt]
    rfl
  have hgenerations : snapshot.generations = state.generations := by
    rw [hbuilt]
    rfl
  have hreaches := reaches_publication hauthority
  constructor
  · rw [generations_advancePublication, hgenerations]
    exact fun _ => Nat.le_refl _
  · cases publisher <;> exact Generation.le_refl _
  · rw [hpublication]
    cases publisher <;> exact hreaches

def retention (state : RackState) :
    ExtTreeMap SnapshotGeneration RackSnapshot × SnapshotGeneration :=
  (state.snapshots, state.snapshotGeneration)

theorem retention_advancePublication (publisher : Option PublisherRef) :
    (state.advancePublication publisher).retention = state.retention := by
  cases publisher <;> rfl

theorem retention_noteRefusal (publisher : Option PublisherRef) (refusal : Refusal) :
    (state.noteRefusal publisher refusal).retention = state.retention := by
  cases publisher with
  | none => rfl
  | some found =>
    simp only [noteRefusal]
    split <;> rfl

theorem retention_fencePublisher (now : Timestamp) (request : FencePublisherRequest) :
    (state.fencePublisher now request).1.retention = state.retention := by
  unfold fencePublisher
  split <;> rfl

/-- The publication of a snapshot alone touches the table. -/
theorem retention_transition {now : Timestamp} {mutation : Mutation} {after : RackState}
    {outcome : Option MutationOutcome} (h : Transition options state now mutation after outcome) :
    after.retention = state.retention ∨
      ∃ request token publisher snapshot, mutation = .publishSnapshot request ∧
        state.checkAuthority token true = .ok publisher ∧
        admitSnapshot state publisher now = .ok snapshot ∧
        after = (retainSnapshot options state snapshot).advancePublication publisher := by
  cases h with
  | noted refusal => exact Or.inl (retention_noteRefusal _ refusal)
  | stopped => exact Or.inl (retention_noteRefusal _ _)
  | committed htoken hauthority hadmitted =>
    cases hadmitted with
    | snapshot hsnapshot => exact Or.inr ⟨_, _, _, _, rfl, hauthority, hsnapshot, rfl⟩
    | _ => exact Or.inl (retention_advancePublication _)
  | expired later =>
    have hfence : ∀ (between : RackState) now request, between.retention = state.retention →
        (between.fencePublisher now request).1.retention = state.retention := by
      intro between now request hbetween
      rw [retention_fencePublisher, hbetween]
    exact Or.inl (expirePublishers_induction hfence rfl later)
  | _ => exact Or.inl rfl

/-- A retained snapshot was retained before, or has just been published. -/
theorem snapshots_transition {now : Timestamp} {mutation : Mutation} {after : RackState}
    {outcome : Option MutationOutcome}
    (h : Transition options state now mutation after outcome) {generation : SnapshotGeneration}
    {snapshot : RackSnapshot} (hfound : after.snapshots[generation]? = some snapshot) :
    state.snapshots[generation]? = some snapshot ∨ after.BoundsSnapshot snapshot := by
  rcases retention_transition h with
    hsame | ⟨request, token, publisher, published, -, hauthority, hadmitted, rfl⟩
  · have hsnapshots : after.snapshots = state.snapshots := congrArg Prod.fst hsame
    exact Or.inl (hsnapshots ▸ hfound)
  · have hsnapshots : ((retainSnapshot options state published).advancePublication
        publisher).snapshots = (retainSnapshot options state published).snapshots :=
      congrArg Prod.fst (retention_advancePublication publisher)
    rw [hsnapshots] at hfound
    rcases getElem?_retainSnapshot hfound with ⟨-, rfl⟩ | hold
    · exact Or.inr (boundsSnapshot_published hauthority hadmitted)
    · exact Or.inl hold

structure Bounded (state : RackState) : Prop extends RecordsBounded state where
  snapshots : ∀ (generation : SnapshotGeneration) (snapshot : RackSnapshot),
    state.snapshots[generation]? = some snapshot → state.BoundsSnapshot snapshot

theorem Bounded.transition {now : Timestamp} {mutation : Mutation} {after : RackState}
    {outcome : Option MutationOutcome} (h : state.Bounded) (hdated : state.RackDated)
    (htransition : Transition options state now mutation after outcome) : after.Bounded where
  toRecordsBounded := bounded_transition h.toRecordsBounded hdated htransition
  snapshots generation snapshot hfound := by
    rcases snapshots_transition htransition hfound with hold | hbounds
    · exact (grown_transition hdated htransition).boundsSnapshot (h.snapshots _ _ hold)
    · exact hbounds

/-- Along every run no counter goes back, and in every state of it the counters
bound the generations of the records and of the retained snapshots. -/
theorem generations_grow_and_bound (options : RackFabricOptions) (inputs : List Input) :
    Execution.Ordered (step options) Grown (fresh options) inputs ∧
      Execution.Always (step options) Bounded (fresh options) inputs := by
  constructor
  · refine (Execution.ordered_iff_eachStep (step options) Grown .refl .trans _ _).mpr ?_
    intro before input _
    exact grown_transition (bound_run options before).dated (perform_transition _ input)
  · intro before _
    have hstart : (fresh options).Bounded := by
      constructor
      · constructor <;> simp [fresh, BoundedBy]
      · simp [fresh]
    have hstep : ∀ state input, state.Bounded ∧ Bound options state →
        (step options state input).Bounded ∧ Bound options (step options state input) := by
      intro state input h
      have htransition := @perform_transition options state input
      exact ⟨h.1.transition h.2.dated htransition, h.2.transition htransition⟩
    exact (Execution.invariant (step options) hstep ⟨hstart, bound_run options []⟩ before).1

end RackState

end RackFabric
