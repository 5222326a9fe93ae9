import RackFabric.Library.Stamps
import RackFabric.Model.Snapshot
import RackFabric.Properties.Atomicity
import RackFabric.Properties.Ledger

/-! A snapshot that validates as current describes the current state, unless a
revalidation was interrupted in between. -/
namespace RackFabric
open Std RackState RackGraph Tables Stamps

namespace Generation
variable {tag : GenerationTag}

theorem toNat_lt_of_advance {generation following : Generation tag}
    (h : generation.advance = some following) :
    generation.value.toNat < following.value.toNat := by
  rw [advance_eq_next] at h
  have := toNat_of_next h
  omega

theorem toNat_le_bump (generation : Generation tag) :
    generation.value.toNat ≤ generation.bump.value.toNat := by
  unfold bump
  cases hnext : generation.advance with
  | none => exact Nat.le_refl _
  | some following => exact Nat.le_of_lt (toNat_lt_of_advance hnext)

theorem toNat_lt_bump {generation : Generation tag}
    (hbelow : generation.value.toNat < UInt64.size - 1) :
    generation.value.toNat < generation.bump.value.toNat := by
  unfold bump
  cases hnext : generation.advance with
  | none =>
    rw [advance_eq_next] at hnext
    unfold next at hnext
    split at hnext
    · rename_i hmax
      rw [hmax] at hbelow
      exact absurd hbelow (by decide)
    · cases hnext
  | some following => exact toNat_lt_of_advance hnext

/-- A counter that is started by the first member. -/
theorem toNat_le_started (generation : Generation tag) :
    generation.value.toNat ≤ (if generation.isSet then generation else .first).value.toNat := by
  split
  · exact Nat.le_refl _
  · rename_i hunset
    have hzero : generation.value = 0 := by simpa [isSet] using hunset
    simp [hzero]

end Generation

namespace GenerationSet

def counters (generations : GenerationSet) : GenerationTag → Nat
  | .rack => generations.rack.value.toNat
  | .membership => generations.membership.value.toNat
  | .topology => generations.topology.value.toNat
  | .failureDomain => generations.failureDomains.value.toNat
  | .constraint => generations.constraints.value.toNat
  | .powerEnvelope => generations.power.value.toNat
  | .coolingEnvelope => generations.cooling.value.toNat
  | .health => generations.health.value.toNat
  | .capability => generations.capabilities.value.toNat
  | .coordinatorEpoch => generations.coordinatorEpoch.value.toNat
  | .member | .publication | .snapshot => 0

instance : Preorder GenerationSet := Preorder.lift counters

def BelowMaximum (generations : GenerationSet) : Prop :=
  ∀ tag, generations.counters tag < UInt64.size - 1

def counted : List GenerationTag :=
  [.rack, .membership, .topology, .failureDomain, .constraint, .powerEnvelope, .coolingEnvelope,
    .health, .capability, .coordinatorEpoch]

instance (generations : GenerationSet) : Decidable generations.BelowMaximum :=
  decidable_of_iff (∀ tag ∈ counted, generations.counters tag < UInt64.size - 1)
    ⟨fun h tag => by
      cases tag
      case member | publication | snapshot => exact (by decide : 0 < UInt64.size - 1)
      all_goals exact h _ (by simp [counted]),
    fun h tag _ => h tag⟩

theorem lt_of_counters {before after : GenerationSet} (tag : GenerationTag)
    (hle : ∀ other, before.counters other ≤ after.counters other)
    (hlt : before.counters tag < after.counters tag) : before < after :=
  Pi.lt_def.mpr ⟨hle, tag, hlt⟩

end GenerationSet

namespace RackState
variable {options : RackFabricOptions} {state : RackState}

def incarnation (state : RackState) : Option (RackId × RackEpochId) :=
  state.rack.map fun rack => (rack.id, rack.epoch)

def content (state : RackState) :=
  (state.incarnation, state.members, state.relationships, state.failureDomains, state.power,
    state.cooling)

/-- The rack carries the rack generation, which is unset before it is declared. -/
def RackDated (state : RackState) : Prop :=
  state.generations.rack = (state.rack.map (·.generation)).getD {}

theorem moved_of_counters {after : RackState} (tag : GenerationTag)
    (hle : ∀ other, state.generations.counters other ≤ after.generations.counters other)
    (hlt : state.generations.counters tag < after.generations.counters tag) :
    Follows (·.generations) content state after :=
  Or.inl (GenerationSet.lt_of_counters tag hle hlt)

theorem content_advancePublication (publisher : Option PublisherRef) :
    (state.advancePublication publisher).content = state.content := by
  cases publisher <;> rfl

theorem content_noteRefusal (publisher : Option PublisherRef) (refusal : Refusal) :
    (state.noteRefusal publisher refusal).content = state.content := by
  cases publisher with
  | none => rfl
  | some found =>
    simp only [noteRefusal]
    split <;> rfl

theorem admitRackRetirement_next {request : RetireRackRequest} {rack : RackRecord}
    {publisher : Option PublisherRef} {next : RackGeneration}
    (h : admitRackRetirement state request = .ok (rack, publisher, next)) :
    state.rack = some rack ∧ rack.generation.next = some next := by
  unfold admitRackRetirement at h
  simp only [bind_eq_ok, refuseIf_eq_ok, require_eq_ok, exists_and_left, exists_const, pure_eq_ok,
    Prod.mk.injEq] at h
  obtain ⟨_, hrack, -, -, _, -, _, hnext, rfl, -, rfl⟩ := h
  exact ⟨hrack, hnext⟩

theorem admitOverRack_next {rack : RackRecord} {named : RackId} {epoch : RackEpochId}
    {request : DeclareRackRequest} {generation : RackGeneration}
    (h : admitOverRack rack named epoch request = .ok generation) :
    rack.generation.next = some generation := by
  unfold admitOverRack at h
  simp only [refuseIf_bind_eq_ok, require_eq_ok] at h
  exact h.2.2.2.2.2

/-- The successor of the generation of the rack is past the rack generation. -/
theorem lt_of_rack_next {rack : RackRecord} {next : RackGeneration} (hdated : state.RackDated)
    (hrack : state.rack = some rack) (hnext : rack.generation.next = some next) :
    state.generations.rack.value.toNat < next.value.toNat := by
  have hcurrent : state.generations.rack = rack.generation := by
    rw [hdated, hrack]
    rfl
  have hsuccessor := Generation.toNat_of_next hnext
  rw [hcurrent]
  omega

theorem lt_of_undeclared (hdated : state.RackDated) (hnone : state.rack = none) :
    state.generations.rack.value.toNat < (Generation.first : RackGeneration).value.toNat := by
  have hunset : state.generations.rack = {} := by
    rw [hdated, hnone]
    rfl
  rw [hunset]
  decide

theorem generations_le_of_rack {generations : GenerationSet} {next : RackGeneration}
    (h : generations.rack.value.toNat < next.value.toNat) :
    generations ≤ { generations with rack := next } := by
  intro tag
  cases tag with
  | rack => exact Nat.le_of_lt h
  | _ => exact Nat.le_refl _

/-- No admitted mutation takes a counter back. -/
theorem generations_admitted {now : Timestamp} {publisher : Option PublisherRef}
    {mutation : Mutation} {committed : RackState} (hdated : state.RackDated)
    (h : Admitted options state now publisher mutation committed) :
    state.generations ≤ committed.generations := by
  cases h with
  | member =>
    intro tag
    cases tag with
    | membership => exact Generation.toNat_le_bump _
    | health | capability => exact Generation.toNat_le_started _
    | _ => exact Nat.le_refl _
  | relationship hadmitted =>
    obtain ⟨owner, -, hadvance, -⟩ := (relationshipAdmission hadmitted).stored
    intro tag
    cases tag with
    | topology => exact Nat.le_of_lt (Generation.toNat_lt_of_advance hadvance)
    | _ => exact Nat.le_refl _
  | failureDomain hadmitted =>
    obtain ⟨owner, -, hadvance, -⟩ := (failureDomainAdmission hadmitted).stored
    intro tag
    cases tag with
    | failureDomain => exact Nat.le_of_lt (Generation.toNat_lt_of_advance hadvance)
    | _ => exact Nat.le_refl _
  | powerEnvelope hadmitted =>
    intro tag
    cases tag with
    | powerEnvelope =>
      exact Nat.le_of_lt (Generation.toNat_lt_of_advance ((powerEnvelopeAdmission hadmitted).next))
    | constraint => exact Generation.toNat_le_bump _
    | _ => exact Nat.le_refl _
  | coolingEnvelope hadmitted =>
    intro tag
    cases tag with
    | coolingEnvelope =>
      exact Nat.le_of_lt (Generation.toNat_lt_of_advance ((coolingEnvelopeAdmission hadmitted).next))
    | constraint => exact Generation.toNat_le_bump _
    | _ => exact Nat.le_refl _
  | health =>
    intro tag
    cases tag with
    | health => exact Generation.toNat_le_bump _
    | _ => exact Nat.le_refl _
  | capability =>
    intro tag
    cases tag with
    | capability => exact Generation.toNat_le_bump _
    | _ => exact Nat.le_refl _
  | withdrawal | unavailable | revalidation =>
    intro tag
    cases tag with
    | membership => exact Generation.toNat_le_bump _
    | _ => exact Nat.le_refl _
  | relationshipWithdrawal =>
    intro tag
    cases tag with
    | topology => exact Generation.toNat_le_bump _
    | _ => exact Nat.le_refl _
  | retirement =>
    intro tag
    cases tag with
    | membership => exact Generation.toNat_le_bump _
    | topology =>
      simp only [GenerationSet.counters, commitRetirement]
      split
      · exact Nat.le_refl _
      · exact Generation.toNat_le_bump _
    | _ => exact Nat.le_refl _
  | rackRetirement hadmitted =>
    obtain ⟨hrack, hnext⟩ := admitRackRetirement_next hadmitted
    exact generations_le_of_rack (lt_of_rack_next hdated hrack hnext)
  | snapshot => exact fun _ => Nat.le_refl _

/-- Whatever an admitted mutation stores, it advances one of the bound counters,
and a snapshot stores nothing that it records. -/
theorem admitted_follows {now : Timestamp} {publisher : Option PublisherRef} {mutation : Mutation}
    {committed : RackState} (hdated : state.RackDated) (hbelow : state.generations.BelowMaximum)
    (h : Admitted options state now publisher mutation committed) :
    Follows (·.generations) content state committed := by
  have hle := generations_admitted hdated h
  cases h with
  | member | withdrawal | unavailable | revalidation | retirement =>
    exact moved_of_counters .membership hle (Generation.toNat_lt_bump (hbelow .membership))
  | relationship hadmitted =>
    obtain ⟨owner, -, hadvance, -⟩ := (relationshipAdmission hadmitted).stored
    exact moved_of_counters .topology hle (Generation.toNat_lt_of_advance hadvance)
  | failureDomain hadmitted =>
    obtain ⟨owner, -, hadvance, -⟩ := (failureDomainAdmission hadmitted).stored
    exact moved_of_counters .failureDomain hle (Generation.toNat_lt_of_advance hadvance)
  | powerEnvelope hadmitted =>
    have hadvance := (powerEnvelopeAdmission hadmitted).next
    exact moved_of_counters .powerEnvelope hle (Generation.toNat_lt_of_advance hadvance)
  | coolingEnvelope hadmitted =>
    have hadvance := (coolingEnvelopeAdmission hadmitted).next
    exact moved_of_counters .coolingEnvelope hle (Generation.toNat_lt_of_advance hadvance)
  | health =>
    exact moved_of_counters .health hle (Generation.toNat_lt_bump (hbelow .health))
  | capability =>
    exact moved_of_counters .capability hle (Generation.toNat_lt_bump (hbelow .capability))
  | relationshipWithdrawal =>
    exact moved_of_counters .topology hle (Generation.toNat_lt_bump (hbelow .topology))
  | rackRetirement hadmitted =>
    obtain ⟨hrack, hnext⟩ := admitRackRetirement_next hadmitted
    exact moved_of_counters .rack hle (lt_of_rack_next hdated hrack hnext)
  | snapshot => exact Or.inr ⟨rfl, rfl⟩

theorem generations_commitFence (boot : AgentBootId) (publisher : PublisherRecord)
    (reason : RevalidationReason) (now : Timestamp) :
    state.generations ≤ (state.commitFence boot publisher reason now).generations := by
  intro tag
  cases tag with
  | membership => exact Generation.toNat_le_bump _
  | _ => exact Nat.le_refl _

theorem generations_fencePublisher (now : Timestamp) (request : FencePublisherRequest) :
    state.generations ≤ (state.fencePublisher now request).1.generations := by
  unfold fencePublisher
  split
  · exact fun _ => Nat.le_refl _
  · exact generations_commitFence _ _ _ _

theorem commitFence_follows {boot : AgentBootId} {publisher : PublisherRecord}
    (hbelow : state.generations.membership.value.toNat < UInt64.size - 1)
    (reason : RevalidationReason) (now : Timestamp) :
    Follows (·.generations) content state (state.commitFence boot publisher reason now) := by
  exact moved_of_counters .membership (generations_commitFence boot publisher reason now)
    (Generation.toNat_lt_bump hbelow)

theorem fencePublisher_follows (now : Timestamp) (request : FencePublisherRequest)
    (hbelow : state.generations.membership.value.toNat < UInt64.size - 1) :
    Follows (·.generations) content state (state.fencePublisher now request).1 := by
  unfold fencePublisher
  split
  · exact Or.inr ⟨rfl, rfl⟩
  · exact commitFence_follows hbelow _ _

/-- The expiry may fence many publishers; the counter that it leaves behind
bounds the one each fence has met. -/
theorem expirePublishers_follows (now : Timestamp) (later : AgentBootId → Timestamp)
    (hbelow : (state.expirePublishers now later).generations.BelowMaximum) :
    Follows (·.generations) content state (state.expirePublishers now later) := by
  have hfence : ∀ (between : RackState) now request,
      (between.generations.membership.value.toNat < UInt64.size - 1 →
        Follows (·.generations) content state between) →
      (between.fencePublisher now request).1.generations.membership.value.toNat <
          UInt64.size - 1 →
        Follows (·.generations) content state (between.fencePublisher now request).1 := by
    intro between now request hbetween hafter
    have hbefore := Nat.lt_of_le_of_lt
      (between.generations_fencePublisher now request .membership) hafter
    exact (hbetween hbefore).trans (fencePublisher_follows now request hbefore)
  exact expirePublishers_induction hfence (fun _ => .refl state) later (hbelow .membership)

/-- A step moves a bound counter or keeps the content, but for an interrupted
revalidation. -/
theorem transition_follows {now : Timestamp} {mutation : Mutation} {after : RackState}
    {outcome : Option MutationOutcome} (hdated : state.RackDated)
    (hbefore : state.generations.BelowMaximum) (hafter : after.generations.BelowMaximum)
    (h : Transition options state now mutation after outcome) :
    Follows (·.generations) content state after ∨
      (Interrupted state mutation ∧ after.generations = state.generations ∧
        after.incarnation = state.incarnation) := by
  cases h with
  | refused => exact Or.inl (.refl state)
  | noted refusal =>
    exact Or.inl (Or.inr ⟨generations_noteRefusal _ refusal, content_noteRefusal _ refusal⟩)
  | committed htoken hauthority hadmitted =>
    refine Or.inl ((admitted_follows hdated hbefore hadmitted).trans (Or.inr ⟨?_, ?_⟩))
    · exact generations_advancePublication _
    · exact content_advancePublication _
  | @stopped request publisher graph refusal hauthority hstopped =>
    by_cases hlate : StopsLate state.toRackGraph request.authority
      (state.revalidationTargets request)
    · refine Or.inr ⟨⟨request, publisher, rfl, hauthority, hlate⟩, ?_, ?_⟩
      · exact generations_noteRefusal _ _
      · have hsame := { state with toRackGraph := graph }.content_noteRefusal publisher refusal
        exact congrArg Prod.fst hsame
    · have hsame := revalidateTargets_unchanged hstopped hlate
      subst hsame
      exact Or.inl (Or.inr ⟨generations_noteRefusal _ refusal, content_noteRefusal _ refusal⟩)
  | declared hadmitted hnone =>
    have hlt := lt_of_undeclared hdated hnone
    exact Or.inl (moved_of_counters .rack (generations_le_of_rack hlt) hlt)
  | redeclared hadmitted hsome hover =>
    have hlt := lt_of_rack_next hdated hsome (admitOverRack_next hover)
    exact Or.inl (moved_of_counters .rack (generations_le_of_rack hlt) hlt)
  | fenced => exact Or.inl (commitFence_follows (hbefore .membership) _ _)
  | expired later => exact Or.inl (expirePublishers_follows now later hafter)
  | refreshed | registered | beat => exact Or.inl (Or.inr ⟨rfl, rfl⟩)

/-- The rack is dated, and the limits are those of the instance. -/
structure Bound (options : RackFabricOptions) (state : RackState) : Prop where
  dated : state.RackDated
  limits : state.limits = options.limits

namespace Bound

theorem of_eq {after : RackState} (h : Bound options state) (hrack : after.rack = state.rack)
    (hgeneration : after.generations.rack = state.generations.rack)
    (hlimits : after.limits = state.limits) : Bound options after where
  dated := by
    rw [RackDated, hrack, hgeneration]
    exact h.dated
  limits := hlimits.trans h.limits

theorem advancePublication (h : Bound options state) (publisher : Option PublisherRef) :
    Bound options (state.advancePublication publisher) := by
  cases publisher <;> exact h.of_eq rfl rfl rfl

theorem noteRefusal (h : Bound options state) (publisher : Option PublisherRef)
    (refusal : Refusal) : Bound options (state.noteRefusal publisher refusal) := by
  cases publisher with
  | none => exact h
  | some found =>
    simp only [RackState.noteRefusal]
    split
    · exact h
    · exact h.of_eq rfl rfl rfl

theorem fencePublisher (h : Bound options state) (now : Timestamp)
    (request : FencePublisherRequest) :
    Bound options (state.fencePublisher now request).1 := by
  unfold RackState.fencePublisher
  split
  · exact h
  · exact h.of_eq rfl rfl rfl

theorem admitted {now : Timestamp} {publisher : Option PublisherRef} {mutation : Mutation}
    {committed : RackState} (h : Bound options state)
    (hadmitted : Admitted options state now publisher mutation committed) :
    Bound options committed := by
  cases hadmitted with
  | rackRetirement => exact ⟨rfl, h.limits⟩
  | _ => exact h.of_eq rfl rfl rfl

theorem transition {now : Timestamp} {mutation : Mutation} {after : RackState}
    {outcome : Option MutationOutcome} (h : Bound options state)
    (htransition : Transition options state now mutation after outcome) :
    Bound options after := by
  cases htransition with
  | refused => exact h
  | noted refusal => exact h.noteRefusal _ refusal
  | committed htoken hauthority hadmitted => exact (h.admitted hadmitted).advancePublication _
  | @stopped _ _ graph _ _ _ =>
    have hgraph : Bound options { state with toRackGraph := graph } := h.of_eq rfl rfl rfl
    exact hgraph.noteRefusal _ _
  | declared | redeclared => exact ⟨rfl, h.limits⟩
  | expired later =>
    exact expirePublishers_induction (fun _ now request h => h.fencePublisher now request) h later
  | refreshed | registered | beat | fenced => exact h.of_eq rfl rfl rfl

end Bound

theorem bound_run (options : RackFabricOptions) (inputs : List Input) :
    Bound options (Execution.run (step options) (fresh options) inputs) :=
  Execution.invariant (step options)
    (fun state input h => h.transition (perform_transition state input)) ⟨rfl, rfl⟩ inputs

def published (options : RackFabricOptions) (state : RackState) (input : Input) :
    Option RackSnapshot :=
  match input.mutation with
  | .publishSnapshot request => (publishSnapshot options state input.now request).2
  | _ => none

structure Describes (snapshot : RackSnapshot) (state : RackState) : Prop where
  members : snapshot.members = state.memberRecords
  relationships : snapshot.relationships = state.relationshipRecords
  failureDomains : snapshot.failureDomains = state.failureDomainRecords
  power : snapshot.powerEnvelope = state.power
  cooling : snapshot.coolingEnvelope = state.cooling

theorem Describes.of_content {snapshot : RackSnapshot} {after : RackState}
    (h : Describes snapshot state) (hcontent : after.content = state.content) :
    Describes snapshot after := by
  simp only [content, Prod.mk.injEq] at hcontent
  obtain ⟨-, hmembers, hrelationships, hdomains, hpower, hcooling⟩ := hcontent
  exact {
    members := by rw [h.members, memberRecords, memberRecords, hmembers]
    relationships := by
      rw [h.relationships, relationshipRecords, relationshipRecords, hrelationships]
    failureDomains := by
      rw [h.failureDomains, failureDomainRecords, failureDomainRecords, hdomains]
    power := by rw [h.power, hpower]
    cooling := by rw [h.cooling, hcooling] }

structure Publishes (state : RackState) (snapshot : RackSnapshot) : Prop where
  describes : Describes snapshot state
  generations : snapshot.generations = state.generations
  incarnation : state.incarnation = some (snapshot.rack, snapshot.rackEpoch)
  digest : computeSnapshotDigest snapshot state.limits = snapshot.digest

theorem publishes_of_published {input : Input} {snapshot : RackSnapshot}
    (h : published options state input = some snapshot) :
    state.Publishes snapshot ∧ (step options state input).content = state.content ∧
      (step options state input).generations = state.generations := by
  obtain ⟨now, mutation⟩ := input
  cases mutation with
  | publishSnapshot request =>
    simp only [published, publishSnapshot] at h
    simp only [step, perform, publishSnapshot]
    cases hauthority : state.checkAuthority request.authority true with
    | error refusal => simp [hauthority] at h
    | ok publisher =>
      cases hadmitted : admitSnapshot state publisher now with
      | error refusal => simp [hauthority, hadmitted] at h
      | ok built =>
        simp only [hauthority, hadmitted, Option.some.injEq] at h ⊢
        subst h
        refine ⟨?_, content_advancePublication _, generations_advancePublication _⟩
        obtain ⟨rack, id, hrack, -, hbuilt⟩ := admitSnapshot_ok hadmitted
        rw [hbuilt]
        exact ⟨⟨rfl, rfl, rfl, rfl, rfl⟩, rfl, by simp [RackState.incarnation, hrack, buildSnapshot],
          computeSnapshotDigest_of_digest _ _⟩
  | _ => cases h

/-- While the incarnation follows the generations, these decide on the currency. -/
theorem current_iff {snapshot : RackSnapshot} {later : RackState}
    (hpublishes : state.Publishes snapshot) (hlimits : later.limits = state.limits)
    (hfollows : Follows (·.generations) incarnation state later) :
    (later.validateSnapshot snapshot).status = .current ↔
      snapshot.generations = later.generations := by
  rw [validateSnapshot_current_iff, hlimits]
  constructor
  · exact fun h => h.2.1
  · intro hbound
    refine ⟨hpublishes.digest, hbound, ?_⟩
    have hincarnation := hfollows.content_eq (hbound.symm.trans hpublishes.generations)
    rw [hpublishes.incarnation] at hincarnation
    obtain ⟨rack, hrack, hnamed⟩ := Option.map_eq_some_iff.mp hincarnation
    exact ⟨rack, hrack, (Prod.mk.inj hnamed).1, (Prod.mk.inj hnamed).2⟩

/-- Every snapshot of the run that validates as current later describes the
state then. -/
def CurrencySound (options : RackFabricOptions) (inputs : List Input) : Prop :=
  ∀ before input between snapshot, before ++ [input] ++ between <+: inputs →
    published options (Execution.run (step options) (fresh options) before) input =
      some snapshot →
    let later := Execution.run (step options) (fresh options) (before ++ [input] ++ between)
    (later.validateSnapshot snapshot).status = .current → Describes snapshot later

/-- No revalidation of the run is interrupted under the generations of a
snapshot published before. -/
def UninterruptedWhileBound (options : RackFabricOptions) (inputs : List Input) : Prop :=
  ∀ before input between snapshot stopped,
    before ++ [input] ++ between ++ [stopped] <+: inputs →
    published options (Execution.run (step options) (fresh options) before) input =
      some snapshot →
    let later := Execution.run (step options) (fresh options) (before ++ [input] ++ between)
    Interrupted later stopped.mutation → snapshot.generations ≠ later.generations

section Run
variable {inputs : List Input}
  (hbelow : Execution.Always (step options) (fun state => state.generations.BelowMaximum)
    (fresh options) inputs)
include hbelow

theorem step_follows {before : List Input} {input : Input} (hinitial : before ++ [input] <+: inputs) :
    let state := Execution.run (step options) (fresh options) before
    Follows (·.generations) content state (step options state input) ∨
      (Interrupted state input.mutation ∧
        (step options state input).generations = state.generations ∧
        (step options state input).incarnation = state.incarnation) := by
  have hafter := hbelow _ hinitial
  rw [Execution.run_concat] at hafter
  exact transition_follows (bound_run options before).dated
    (hbelow before ((List.prefix_append _ _).trans hinitial)) hafter (perform_transition _ input)

theorem incarnation_follows :
    Execution.Ordered (step options) (Follows (·.generations) incarnation) (fresh options)
      inputs := by
  refine (Execution.ordered_iff_eachStep (step options) _ Follows.refl Follows.trans _ _).mpr ?_
  intro before input hinitial
  rcases step_follows hbelow hinitial with hfollows | ⟨-, hgenerations, hincarnation⟩
  · exact hfollows.map Prod.fst
  · exact Or.inr ⟨hgenerations, hincarnation⟩

/-- Until a revalidation is interrupted under its generations, the content that
a snapshot recorded goes with them. -/
theorem content_follows (hwhile : UninterruptedWhileBound options inputs)
    {before between : List Input} {input : Input} {snapshot : RackSnapshot}
    (hinitial : before ++ [input] ++ between <+: inputs)
    (hpublished : published options (Execution.run (step options) (fresh options) before) input =
      some snapshot) :
    Follows (·.generations) content (Execution.run (step options) (fresh options) before)
      (Execution.run (step options) (fresh options) (before ++ [input] ++ between)) := by
  obtain ⟨hpublishes, hcontent, hgenerations⟩ := publishes_of_published hpublished
  induction between using List.reverseRecOn with
  | nil =>
    rw [List.append_nil, Execution.run_concat]
    exact Or.inr ⟨hgenerations, hcontent⟩
  | append_singleton between stopped ih =>
    rw [← List.append_assoc] at hinitial ⊢
    have hfollows := ih ((List.prefix_append _ _).trans hinitial)
    rw [Execution.run_concat]
    rcases step_follows hbelow hinitial with hstep | ⟨hinterrupted, hsame, -⟩
    · exact hfollows.trans hstep
    · have hmoved := hwhile before input between snapshot stopped hinitial hpublished hinterrupted
      rcases hfollows with hlt | ⟨hstamp, -⟩
      · exact Or.inl (lt_of_lt_of_eq hlt hsame.symm)
      · exact absurd (hpublishes.generations.trans hstamp.symm) hmoved

theorem current_later_iff {before between : List Input} {input : Input} {snapshot : RackSnapshot}
    (hinitial : before ++ [input] ++ between <+: inputs)
    (hpublished : published options (Execution.run (step options) (fresh options) before) input =
      some snapshot) :
    let later := Execution.run (step options) (fresh options) (before ++ [input] ++ between)
    (later.validateSnapshot snapshot).status = .current ↔
      snapshot.generations = later.generations := by
  have hlimits := (bound_run options (before ++ [input] ++ between)).limits.trans
    (bound_run options before).limits.symm
  rw [List.append_assoc] at hinitial hlimits ⊢
  exact current_iff (publishes_of_published hpublished).1 hlimits
    (incarnation_follows hbelow before ([input] ++ between) hinitial)

end Run

theorem interrupted_changes {input : Input} (h : Interrupted state input.mutation) :
    (step options state input).members ≠ state.members ∧
      (step options state input).generations = state.generations := by
  obtain ⟨request, publisher, hmutation, hauthority, hlate⟩ := h
  obtain ⟨graph, refusal, -, hchanged, hafter, -⟩ := revalidateMembers_stopped hauthority hlate
  have hstep : step options state input = (state.revalidateMembers request).1 := by
    unfold step perform
    rw [hmutation]
  rw [hstep, hafter, members_noteRefusal, generations_noteRefusal]
  exact ⟨hchanged, rfl⟩

/-- Currency is sound in a run exactly when none of its revalidations is
interrupted while a snapshot binds the generations. -/
theorem snapshot_currency_iff (options : RackFabricOptions) (inputs : List Input)
    (hbelow : Execution.Always (step options) (fun state => state.generations.BelowMaximum)
      (fresh options) inputs) :
    CurrencySound options inputs ↔ UninterruptedWhileBound options inputs := by
  constructor
  · intro hsound before input between snapshot stopped hinitial hpublished later hinterrupted hbound
    have hbetween := (List.prefix_append _ [stopped]).trans hinitial
    obtain ⟨hchanged, hsame⟩ := @interrupted_changes options _ _ hinterrupted
    have hdescribes := hsound before input between snapshot hbetween hpublished
      ((current_later_iff hbelow hbetween hpublished).mpr hbound)
    -- the interruption leaves the snapshot current, and the members changed
    have hstep : Execution.run (step options) (fresh options)
        (before ++ [input] ++ (between ++ [stopped])) = step options later stopped := by
      rw [← List.append_assoc, Execution.run_concat]
    rw [List.append_assoc] at hinitial
    have hcurrent := (current_later_iff hbelow hinitial hpublished).mpr (by
      rw [hstep]
      exact hbound.trans hsame.symm)
    have hdescribes' :=
      hsound before input (between ++ [stopped]) snapshot hinitial hpublished hcurrent
    have hkeyed' := (wellFormed_run options (before ++ [input] ++ (between ++ [stopped]))).toKeyed
    rw [hstep] at hdescribes' hkeyed'
    have hkeyed := (wellFormed_run options (before ++ [input] ++ between)).toKeyed
    exact hchanged (eq_of_records (fun _ _ => hkeyed'.members) (fun _ _ => hkeyed.members)
      (hdescribes'.members.symm.trans hdescribes.members))
  · intro hwhile before input between snapshot hinitial hpublished later hcurrent
    obtain ⟨hpublishes, -, -⟩ := publishes_of_published hpublished
    have hbound := (current_later_iff hbelow hinitial hpublished).mp hcurrent
    have hfollows := content_follows hbelow hwhile hinitial hpublished
    exact hpublishes.describes.of_content
      (hfollows.content_eq (hbound.symm.trans hpublishes.generations))

def publishSnapshotInput : Input where
  mutation := .publishSnapshot { authority := Scenario.operator }

def outdatingInputs : List Input :=
  Scenario.equippedRack ++ [publishSnapshotInput,
    Scenario.publishMember (Scenario.process Scenario.bootA) { key := Scenario.node "b" }]

theorem outdated_snapshot_currency :
    CurrencySound Scenario.defaults outdatingInputs ↔
      UninterruptedWhileBound Scenario.defaults outdatingInputs :=
  snapshot_currency_iff Scenario.defaults outdatingInputs (by decide +kernel)

/-- The first target is revalidated after the snapshot, the second does not exist. -/
def snapshotInputs : List Input :=
  revalidatingInputs.take 3 ++ [publishSnapshotInput] ++ revalidatingInputs.drop 3

theorem current_snapshot_outlives_members :
    ¬ CurrencySound Scenario.defaults snapshotInputs := by
  intro h
  have hsome : (published Scenario.defaults (Scenario.run (revalidatingInputs.take 3))
      publishSnapshotInput).isSome = true := by
    decide +kernel
  obtain ⟨snapshot, hpublished⟩ := Option.isSome_iff_exists.mp hsome
  obtain ⟨hpublishes, -, -⟩ := publishes_of_published hpublished
  have hfollows : Follows (·.generations) incarnation
      (Scenario.run (revalidatingInputs.take 3)) (Scenario.run snapshotInputs) :=
    Or.inr ⟨by decide +kernel, by decide +kernel⟩
  have hcurrent := (current_iff hpublishes ((bound_run _ _).limits.trans (bound_run _ _).limits.symm)
    hfollows).mpr (hpublishes.generations.trans (by decide +kernel))
  have hdescribes := h (revalidatingInputs.take 3) publishSnapshotInput
    (revalidatingInputs.drop 3) snapshot (List.prefix_refl _) hpublished hcurrent
  have hmembers := hpublishes.describes.members.symm.trans hdescribes.members
  have hchanged : (Scenario.run (revalidatingInputs.take 3)).memberRecords.map
      (·.revalidationRequired) ≠
        (Scenario.run snapshotInputs).memberRecords.map (·.revalidationRequired) := by
    decide +kernel
  exact hchanged (congrArg (List.map (·.revalidationRequired)) hmembers)

end RackState

end RackFabric
