import Mathlib
import RackFabric.Properties.Integrity
import RackFabric.Properties.Presented
import RackFabric.Properties.Validation

/-! A record that is published again: the fabric compares what it has stored with what
is submitted, and it fills in some of the fields that it compares. -/
namespace RackFabric
open Std RackState RackGraph Relation Reachability

/-! Numbers and their own equality. -/

def Double.isNaN (x : Double) : Bool := x.model.isNaN

theorem Double.operatorEq_self (x : Double) : x.operatorEq x = true ↔ x.isNaN = false := by
  change x.model.unpack.beq x.model.unpack = true ↔ x.model.unpack.isNaN = false
  rw [Float.Model.UnpackedFloat.beq_iff_ne_notANumber_and_eq, Bool.eq_false_iff, ne_eq,
    ne_eq, Float.Model.UnpackedFloat.isNaN_iff]
  simp

theorem Double.not_isNaN_of_isFinite {x : Double} (h : x.isFinite = true) : x.isNaN = false := by
  change x.model.unpack.isFinite = true at h
  change x.model.unpack.isNaN = false
  cases hnumber : x.model.unpack with
  | notANumber =>
    rw [hnumber] at h
    cases h
  | infinity | zero | finite => rfl

/-- Neither the value nor the uncertainty is a NaN. -/
structure Quantity.Numeric (quantity : Quantity) : Prop where
  value : quantity.value.isNaN = false
  uncertainty : ∀ uncertainty ∈ quantity.uncertainty, uncertainty.isNaN = false

theorem Quantity.operatorEq_self (quantity : Quantity) :
    quantity.operatorEq quantity = true ↔ quantity.Numeric := by
  obtain ⟨observation, value, unit, uncertainty⟩ := quantity
  have hiff : Quantity.operatorEq ⟨observation, value, unit, uncertainty⟩
        ⟨observation, value, unit, uncertainty⟩ = true ↔
      value.isNaN = false ∧ optionEq Double.operatorEq uncertainty uncertainty = true := by
    simp [Quantity.operatorEq, Double.operatorEq_self]
  rw [hiff]
  cases uncertainty with
  | none => exact ⟨fun h => ⟨h.1, by simp⟩, fun h => ⟨h.value, rfl⟩⟩
  | some uncertainty =>
    simp only [optionEq, Double.operatorEq_self]
    exact ⟨fun h => ⟨h.1, by simpa using h.2⟩, fun h => ⟨h.value, h.uncertainty _ rfl⟩⟩

theorem Quantity.Valid.numeric {quantity : Quantity} (h : quantity.Valid) : quantity.Numeric := by
  refine ⟨Double.not_isNaN_of_isFinite h.finite, fun uncertainty hsome => ?_⟩
  have hvalid := h.uncertainty
  rw [Option.mem_def.mp hsome] at hvalid
  simp only [validateUncertainty, firstError_cons, errorIf_eq_none] at hvalid
  exact Double.not_isNaN_of_isFinite (by simpa using hvalid.1)

theorem optionEq_self (quantity : Option Quantity) :
    optionEq Quantity.operatorEq quantity quantity = true ↔ ∀ found ∈ quantity, found.Numeric := by
  cases quantity with
  | none => simp [optionEq]
  | some found => simp [optionEq, Quantity.operatorEq_self]

def MemberDetails.quantity : MemberDetails → Option Quantity
  | .memoryDomain details => details.bandwidth
  | .nic details => details.linkSpeed
  | .switch details => details.linkSpeed
  | _ => none

theorem MemberDetails.operatorEq_self (details : MemberDetails) :
    details.operatorEq details = true ↔ ∀ quantity ∈ details.quantity, quantity.Numeric := by
  cases details with
  | memoryDomain | nic | switch => simp [operatorEq, quantity, optionEq_self]
  | _ => simp [operatorEq, quantity]

theorem Observation.cleared_iff (evidence : Observation) :
    { evidence with observedAt := .unknown, ttl := 0 } = evidence ↔
      evidence.observedAt = .unknown ∧ evidence.ttl = 0 := by
  obtain ⟨provenance, observedAt, ttl, durability, required⟩ := evidence
  simp [eq_comm]

/-- A record that is published as retired carries no live observation already. -/
def MemberRecord.Quiet (record : MemberRecord) : Prop :=
  record.lifecycle = .retired → record.observedAt = .unknown ∧ record.ttl = 0 ∧
    record.health = {} ∧ record.readiness = {} ∧ record.reachability = {}

/-! Checks that stop because nothing would change. -/

def Unchanging {α : Type} (check : Except Refusal α) : Prop :=
  ∃ refusal, check = .error refusal ∧ refusal.outcome = .noChange

section Unchanging
variable {α β : Type}

@[simp] theorem unchanging_error (refusal : Refusal) :
    Unchanging (.error refusal : Except Refusal α) ↔ refusal.outcome = .noChange := by
  simp [Unchanging]

@[simp] theorem not_unchanging_ok (value : α) : ¬ Unchanging (.ok value) := by
  simp [Unchanging]

@[simp] theorem not_unchanging_pure (value : α) : ¬ Unchanging (pure value) :=
  not_unchanging_ok value

@[simp] theorem unchanging_bind {first : Except Refusal α} {rest : α → Except Refusal β} :
    Unchanging (first >>= rest) ↔
      Unchanging first ∨ ∃ value, first = .ok value ∧ Unchanging (rest value) := by
  cases first <;> simp [bind, Except.bind]

@[simp] theorem unchanging_map {check : Except Refusal α} {rest : α → β} :
    Unchanging (rest <$> check) ↔ Unchanging check := by
  cases check <;> simp [Functor.map, Except.map]

@[simp] theorem unchanging_refuseIf {check : Bool} {refusal : Refusal} :
    Unchanging (refuseIf check refusal) ↔ check = true ∧ refusal.outcome = .noChange := by
  cases check <;> simp [refuseIf]

@[simp] theorem not_unchanging_refuseSome {error : Option String} {refusal : String → Refusal}
    (h : ∀ code, (refusal code).outcome ≠ .noChange) : ¬ Unchanging (refuseSome error refusal) := by
  cases error <;> simp [refuseSome, h]

@[simp] theorem unchanging_require {value : Option α} {refusal : Refusal} :
    Unchanging (require value refusal) ↔ value = none ∧ refusal.outcome = .noChange := by
  cases value <;> simp [require]

theorem not_unchanging_forM {values : List α} {check : α → Except Refusal Unit}
    (h : ∀ value, ¬ Unchanging (check value)) : ¬ Unchanging (forM values check) := by
  induction values with
  | nil => exact not_unchanging_ok PUnit.unit
  | cons value values ih =>
    rw [List.forM_cons]
    rw [unchanging_bind]
    rintro (hstops | ⟨⟨⟩, -, hrest⟩)
    · exact h value hstops
    · exact ih hrest

end Unchanging

/-! The publications of records that set no generation of their own. -/

def AuthorityToken.refreshed (token : AuthorityToken)
    (generation : Option PublicationGeneration) : AuthorityToken :=
  { token with publicationGeneration := generation }

namespace Mutation

def Ungenerated : Mutation → Prop
  | .publishMember request =>
      request.expectedGeneration = none ∧ request.record.generation.isSet = false
  | .publishRelationship request =>
      request.expectedGeneration = none ∧ request.record.generation.isSet = false
  | .publishFailureDomain request =>
      request.expectedGeneration = none ∧ request.record.generation.isSet = false
  | _ => False

def refreshed (generation : Option PublicationGeneration) : Mutation → Mutation
  | .publishMember request =>
      .publishMember { request with authority := request.authority.refreshed generation }
  | .publishRelationship request =>
      .publishRelationship { request with authority := request.authority.refreshed generation }
  | .publishFailureDomain request =>
      .publishFailureDomain { request with authority := request.authority.refreshed generation }
  | mutation => mutation

end Mutation

namespace RackState
variable {options : RackFabricOptions} {state after : RackState} {publisher : Option PublisherRef}

/-! Which publications the fabric answers with no change. -/

theorem not_unchanging_checkParent (graph : RackGraph) (record : MemberRecord) :
    ¬ Unchanging (checkParent graph record) := by
  unfold checkParent
  split <;> simp [Refusal.because]

theorem not_unchanging_checkReferences (graph : RackGraph) (record : MemberRecord) :
    ¬ Unchanging (checkReferences graph record) := by
  have hdomains : ¬ Unchanging (forM record.failureDomains fun domain =>
      refuseIf (!graph.failureDomains.contains domain)
        (unknownFailureDomain record.key.toStr domain)) :=
    not_unchanging_forM fun domain => by simp [unknownFailureDomain]
  unfold checkReferences checkDomainMember
  simp [not_unchanging_checkParent, hdomains, Refusal.because]

/-- A publication that sets no generation changes nothing over a record of the same
content. -/
theorem unchanging_admitMember_iff {request : PublishMemberRequest} {existing : MemberRecord}
    (hvalid : validateMemberRecord request.record options.limits = none)
    (howner : ownerConflict request.record.ownerBoot request.authority = false)
    (hfound : state.members[request.record.key]? = some existing)
    (hrevived : ¬ (existing.lifecycle = .retired ∧ request.record.lifecycle ≠ .retired))
    (hconflict : ownerConflict existing.ownerBoot request.authority = false)
    (hexpected : request.expectedGeneration = none)
    (hunset : request.record.generation.isSet = false) :
    Unchanging (admitMember options state publisher request) ↔
      sameMemberContent existing request.record = true := by
  have hover : Unchanging (admitOverMember existing request) ↔
      sameMemberContent existing request.record = true := by
    simp [admitOverMember, hrevived, hconflict, hexpected, hunset, Refusal.unchanged]
  unfold admitMember
  simp [hvalid, howner, hfound, hover, not_unchanging_checkReferences, Refusal.because, exhausted]

theorem unchanging_admitRelationship_iff {request : PublishRelationshipRequest}
    {record existing : RelationshipRecord}
    (hrecord : record = { request.record with key := request.record.key.canonical })
    (hdistinct : record.key.source ≠ record.key.target)
    (hvalid : validateEvidence record.toObservation = none)
    (hcapacity : (record.capacity.bind fun capacity => validateQuantity capacity capacity.unit) =
      none)
    (hendpoints : checkEndpoints state.toRackGraph record.key = .ok ())
    (hfound : state.relationships[record.key]? = some existing)
    (hconflict : ownerConflict existing.ownerBoot request.authority = false)
    (hexpected : request.expectedGeneration = none)
    (hunset : record.generation.isSet = false) :
    Unchanging (admitRelationship options state publisher request) ↔
      sameRelationshipContent existing record = true := by
  have hover : Unchanging (admitOverRelationship state existing record request) ↔
      sameRelationshipContent existing record = true := by
    simp [admitOverRelationship, hconflict, hexpected, hunset, Refusal.unchanged]
  subst hrecord
  dsimp only at hdistinct hvalid hcapacity hendpoints hfound hover ⊢
  unfold admitRelationship
  simp [hdistinct, hvalid, hcapacity, hendpoints, hfound, hover, Refusal.because, exhausted]

theorem unchanging_admitFailureDomain_iff {request : PublishFailureDomainRequest}
    {record existing : FailureDomainRecord}
    (hrecord : record = { request.record with
      parents := (ExtTreeSet.ofList request.record.parents).toList })
    (hidentity : (validateIdentity record.id.value).ok = true)
    (hlabel : (record.label.any fun label => !(validateLabel label).ok) = false)
    (hvalid : validateEvidence record.toObservation = none)
    (hparents : ∀ parent ∈ record.parents,
      checkDomainParent state.toRackGraph record.id parent = .ok ())
    (hfound : state.failureDomains[record.id]? = some existing)
    (hrevived : ¬ (existing.lifecycle = .retired ∧ record.lifecycle ≠ .retired))
    (hconflict : ownerConflict existing.ownerBoot request.authority = false)
    (hexpected : request.expectedGeneration = none)
    (hunset : record.generation.isSet = false) :
    Unchanging (admitFailureDomain options state publisher request) ↔
      sameFailureDomainContent existing record = true := by
  have hover : Unchanging (admitOverFailureDomain state existing record request) ↔
      sameFailureDomainContent existing record = true := by
    simp [admitOverFailureDomain, hrevived, hconflict, hexpected, hunset, Refusal.unchanged]
  have hchecked := forM_eq_ok.mpr hparents
  subst hrecord
  dsimp only at hidentity hlabel hvalid hchecked hfound hover ⊢
  unfold admitFailureDomain
  simp [hidentity, hlabel, hvalid, hchecked, hfound, hover, Refusal.because, exhausted]

/-! The same authority again. -/

def CurrentGeneration (state : RackState) (boot : Option AgentBootId)
    (generation : Option PublicationGeneration) : Prop :=
  ∀ named record expected, boot = some named → state.publishers[named]? = some record →
    generation = some expected → expected = record.publicationGeneration

theorem checkAuthority_operator_iff {token : AuthorityToken} {rackScoped : Bool}
    (hboot : token.boot = none) :
    (∃ publisher, state.checkAuthority token rackScoped = .ok publisher) ↔
      token.coordinatorEpoch = state.generations.coordinatorEpoch ∧
        (rackScoped = true → state.checkRack token = .ok ()) ∧
        state.rack.any (·.retired) = false := by
  unfold checkAuthority
  simp only [bind_eq_ok, refuseIf_eq_ok, exists_and_left, exists_const, hboot, pure_eq_ok,
    decide_eq_false_iff_not, ne_eq, not_not]
  constructor
  · rintro ⟨hepoch, _, ⟨⟩, hrack, hretired, -⟩
    exact ⟨hepoch, fun hscoped => by simpa [hscoped] using hrack, hretired⟩
  · rintro ⟨hepoch, hrack, hretired⟩
    refine ⟨hepoch, none, (), ?_, hretired, rfl⟩
    cases rackScoped with
    | true => exact hrack rfl
    | false => rfl

theorem checkAuthority_again {token : AuthorityToken} {generation : Option PublicationGeneration}
    (hauthority : state.checkAuthority token true = .ok publisher)
    (hcurrent : (after.advancePublication publisher).CurrentGeneration token.boot generation)
    (hepoch : after.generations.coordinatorEpoch = state.generations.coordinatorEpoch)
    (hrack : after.rack = state.rack) (hfenced : after.fencedBoots = state.fencedBoots)
    (hpublishers : after.publishers = state.publishers) :
    ∃ again, (after.advancePublication publisher).checkAuthority (token.refreshed generation)
      true = .ok again := by
  have hnamed : state.checkRack token = .ok () →
      (after.advancePublication publisher).checkRack (token.refreshed generation) = .ok () := by
    rw [checkRack_eq_ok_iff, checkRack_eq_ok_iff]
    cases publisher <;> exact hrack ▸ id
  have hepoch' : (after.advancePublication publisher).generations.coordinatorEpoch =
      state.generations.coordinatorEpoch := by
    rw [generations_advancePublication, hepoch]
  have hretired : (after.advancePublication publisher).rack = state.rack := by
    rw [← hrack]
    cases publisher <;> rfl
  have hsame : (token.refreshed generation).boot = token.boot := rfl
  have hpasses : ∃ publisher, state.checkAuthority token true = .ok publisher := ⟨_, hauthority⟩
  cases hboot : token.boot with
  | none =>
    rw [checkAuthority_operator_iff hboot] at hpasses
    refine (checkAuthority_operator_iff (hsame.trans hboot)).mpr ?_
    rw [hepoch', hretired]
    exact ⟨hpasses.1, fun _ => hnamed (hpasses.2.1 rfl), hpasses.2.2⟩
  | some boot =>
    rw [checkAuthority_passes_iff hboot] at hpasses
    obtain ⟨hmatches, hscoped, hlive, hsubmitter⟩ := hpasses
    obtain ⟨hallowed, record, hfound, -, hregistered, -⟩ := checkPublisher_passes_iff.mp hsubmitter
    obtain ⟨submitter, rfl, hsubmitted, -⟩ := submitter_of_boot hauthority hboot
    have hagain : (after.advancePublication (some submitter)).publishers[boot]? =
        some { record with
          publicationGeneration := record.publicationGeneration.next.getD
            record.publicationGeneration
          state := .active
          acceptedMutations := record.acceptedMutations + 1 } := by
      simp [advancePublication, hpublishers, hsubmitted, hfound]
    refine (checkAuthority_passes_iff (hsame.trans hboot)).mpr ?_
    rw [hepoch', hretired]
    refine ⟨hmatches, fun _ => hnamed (hscoped rfl), hlive,
      checkPublisher_passes_iff.mpr ⟨?_, _, hagain, by simp, ?_, ?_⟩⟩
    · rwa [fencedBoots_advancePublication, hfenced]
    · rw [hepoch']
      exact hregistered
    · exact checkSequence_eq_ok_iff.mpr fun expected => hcurrent _ _ expected hboot hagain

/-! What is stored against what was submitted. -/

def NamesOwner (state : RackState) (token : AuthorityToken) (worker : Option WorkerId)
    (owner : Option AgentBootId) : Prop :=
  ∀ boot, token.boot = some boot → owner = some boot ∧
    ∃ record, state.publishers[boot]? = some record ∧ worker = some record.worker

theorem ownerAfter_eq_iff {token : AuthorityToken} {worker : Option WorkerId}
    {owner : Option AgentBootId} (h : state.checkAuthority token true = .ok publisher) :
    (ownerAfter token publisher worker owner).1 = worker ∧
        (ownerAfter token publisher worker owner).2 = owner ↔
      state.NamesOwner token worker owner := by
  unfold NamesOwner ownerAfter
  cases hboot : token.boot with
  | none => simp
  | some boot =>
    obtain ⟨found, rfl, -, hfound⟩ := submitter_of_boot h hboot
    simp only [Option.some.injEq, forall_eq', hfound]
    constructor
    · rintro ⟨rfl, rfl⟩
      exact ⟨rfl, _, rfl, rfl⟩
    · rintro ⟨rfl, _, rfl, rfl⟩
      exact ⟨rfl, rfl⟩

/-- Nobody else owns what was just stored. -/
theorem ownerConflict_ownerAfter {token : AuthorityToken} {worker : Option WorkerId}
    {owner : Option AgentBootId} :
    ownerConflict (ownerAfter token publisher worker owner).2 token = false := by
  rw [ownerAfter_boot]
  unfold ownerConflict
  cases token.boot <;> simp

theorem sameMemberContent_iff {request : PublishMemberRequest} {record : MemberRecord}
    (hauthority : state.checkAuthority request.authority true = .ok publisher)
    (h : MemberAdmission options state publisher request record) :
    sameMemberContent record request.record = true ↔
      state.NamesOwner request.authority request.record.ownerWorker request.record.ownerBoot ∧
        request.record.Quiet ∧
        ∀ quantity ∈ request.record.details.quantity, quantity.Numeric := by
  obtain ⟨target, owner, howner, hrecord⟩ := h.stored
  rw [← ownerAfter_eq_iff hauthority, ← howner, ← MemberDetails.operatorEq_self]
  subst hrecord
  unfold sameMemberContent MemberRecord.Quiet clearRetired
  split
  · rename_i hretired
    simp only [hretired, MemberRecord.mk.injEq, and_self, and_true, true_and, Bool.decide_and,
      Bool.and_eq_true, decide_eq_true_eq, forall_const]
    constructor
    · rintro ⟨hdetails, hobservation, hworker, hboot, hhealth, hreadiness, hreachability⟩
      obtain ⟨hobserved, httl⟩ := (Observation.cleared_iff _).mp hobservation
      exact ⟨⟨hworker, hboot⟩, ⟨hobserved, httl, hhealth.symm, hreadiness.symm,
        hreachability.symm⟩, hdetails⟩
    · rintro ⟨⟨hworker, hboot⟩, ⟨hobserved, httl, hhealth, hreadiness, hreachability⟩, hdetails⟩
      exact ⟨hdetails, (Observation.cleared_iff _).mpr ⟨hobserved, httl⟩, hworker, hboot,
        hhealth.symm, hreadiness.symm, hreachability.symm⟩
  · rename_i hlive
    simp [hlive, and_comm]

theorem sameRelationshipContent_iff {request : PublishRelationshipRequest}
    {record : RelationshipRecord}
    (hauthority : state.checkAuthority request.authority true = .ok publisher)
    (h : RelationshipAdmission state publisher request record) :
    sameRelationshipContent record { request.record with key := request.record.key.canonical } =
        true ↔
      state.NamesOwner request.authority request.record.ownerWorker request.record.ownerBoot := by
  obtain ⟨owner, howner, -, hrecord⟩ := h.stored
  have hnumeric : optionEq Quantity.operatorEq request.record.capacity request.record.capacity =
      true :=
    (optionEq_self _).mpr fun capacity hsome => (validateQuantity_own.mp (h.capacity hsome)).numeric
  rw [← ownerAfter_eq_iff hauthority, ← howner, hrecord]
  simp [sameRelationshipContent, hnumeric]

theorem sameFailureDomainContent_iff {request : PublishFailureDomainRequest}
    {record : FailureDomainRecord}
    (hauthority : state.checkAuthority request.authority true = .ok publisher)
    (h : FailureDomainAdmission state publisher request record) :
    sameFailureDomainContent record { request.record with
        parents := (ExtTreeSet.ofList request.record.parents).toList } = true ↔
      state.NamesOwner request.authority request.record.ownerWorker request.record.ownerBoot := by
  obtain ⟨owner, howner, -, hrecord⟩ := h.stored
  rw [← ownerAfter_eq_iff hauthority, ← howner, hrecord]
  simp [sameFailureDomainContent]

/-! The second submission. -/

def Unaltered (options : RackFabricOptions) (state : RackState) (input : Input) : Prop :=
  state.perform options input = (state, some .noChange)

theorem underAuthority_unaltered_iff {token : AuthorityToken}
    {body : Option PublisherRef → Except Refusal (RackState × String × Str)}
    (h : state.checkAuthority token true = .ok publisher) :
    ((state.underAuthority token body).1, some (state.underAuthority token body).2.outcome) =
        (state, some MutationOutcome.noChange) ↔
      Unchanging (body publisher) := by
  unfold underAuthority
  simp only [h]
  cases hbody : body publisher with
  | error refusal =>
    simp only [refuse, makeResult, Prod.mk.injEq, Option.some.injEq, unchanging_error]
    refine and_iff_right_of_imp fun hnone => ?_
    cases publisher with
    | none => rfl
    | some found => simp [noteRefusal, hnone]
  | ok committed =>
    obtain ⟨committed, code, subject⟩ := committed
    simp [accept, makeResult]

theorem not_conflicting_of_admitMember {request : PublishMemberRequest} {record : MemberRecord}
    (h : admitMember options state publisher request = .ok record) :
    ownerConflict request.record.ownerBoot request.authority = false := by
  unfold admitMember at h
  rw [bind_eq_ok] at h
  obtain ⟨⟨⟩, -, h⟩ := h
  exact (refuseIf_bind_eq_ok.mp h).1

theorem publishMember_again_iff {request : PublishMemberRequest} {record : MemberRecord}
    {generation : Option PublicationGeneration} (now : Timestamp)
    (hplain : (Mutation.publishMember request).Ungenerated)
    (hauthority : state.checkAuthority request.authority true = .ok publisher)
    (hadmitted : admitMember options state publisher request = .ok record)
    (hcurrent : ((state.commitMember record).advancePublication publisher).CurrentGeneration
      request.authority.boot generation) :
    Unaltered options ((state.commitMember record).advancePublication publisher)
        ⟨now, .publishMember { request with
          authority := request.authority.refreshed generation }⟩ ↔
      state.NamesOwner request.authority request.record.ownerWorker request.record.ownerBoot ∧
        request.record.Quiet ∧
        ∀ quantity ∈ request.record.details.quantity, quantity.Numeric := by
  have hchecked := memberAdmission hadmitted
  obtain ⟨again, hagain⟩ := checkAuthority_again hauthority hcurrent rfl rfl rfl rfl
  have hfound : ((state.commitMember record).advancePublication publisher).members[
      request.record.key]? = some record := by
    rw [toRackGraph_advancePublication]
    simp [commitMember, hchecked.key]
  have hstored : ownerConflict record.ownerBoot request.authority = false := by
    obtain ⟨target, owner, howner, hrecord⟩ := hchecked.stored
    rw [hrecord, howner]
    exact ownerConflict_ownerAfter
  have hrevived : ¬ (record.lifecycle = .retired ∧ request.record.lifecycle ≠ .retired) := by
    rw [hchecked.lifecycle]
    exact and_not_self
  rw [← sameMemberContent_iff hauthority hchecked]
  refine (underAuthority_unaltered_iff hagain).trans ?_
  simp only [unchanging_bind, not_unchanging_pure, and_false, exists_false, or_false]
  exact unchanging_admitMember_iff hchecked.valid (not_conflicting_of_admitMember hadmitted)
    hfound hrevived hstored hplain.1 hplain.2

/-- The stored relationship leads from what it contains, so nothing leads back to that. -/
theorem checkEndpoints_again {request : PublishRelationshipRequest} {record : RelationshipRecord}
    (h : state.WellFormed)
    (hadmitted : admitRelationship options state publisher request = .ok record) :
    checkEndpoints (state.commitRelationship record).toRackGraph record.key = .ok () := by
  have hchecked := relationshipAdmission hadmitted
  have hafter : (state.commitRelationship record).WellFormed := h.linked hadmitted
  have hmembers : (state.commitRelationship record).members = state.members :=
    members_storeRelationship ..
  have hstored : record.key ∈ (state.commitRelationship record).relationships := by
    simp [commitRelationship]
  have hendpoints := hchecked.endpoint_mem
  rw [← hmembers] at hendpoints
  unfold checkEndpoints
  simp only [refuseIf_bind_eq_ok, refuseIf_eq_ok]
  refine ⟨by simpa using hendpoints, ?_⟩
  by_cases hcontains : record.key.cls = .contains
  · have hparents : (state.commitRelationship record).containsCycle record.key.source
        record.key.target = false := by
      rw [← (hchecked.not_cyclic hcontains).1]
      refine containsCycle_congr (parentsClosed_of_integrity h.toIntegrity) (fun key _ => ?_)
        (Nat.le_of_eq (congrArg _ hmembers.symm)) hchecked.endpoint_mem.1
      unfold parentOf
      rw [hmembers]
    have hrelationships : (state.commitRelationship record).relationshipContainsCycle
        record.key.source record.key.target = false := by
      rw [Bool.eq_false_iff, ne_eq, relationshipContainsCycle_iff hafter.toKeyed hafter.touching]
      intro hpath
      refine hafter.contains_acyclic record.key.target (.head' ?_ hpath)
      unfold ContainsEdge
      rwa [← hcontains]
    simp [hcontains, hparents, hrelationships]
  · simp [hcontains]

/-- Nor does a stored failure domain lead back to one of its parents. -/
theorem checkDomainParent_again {request : PublishFailureDomainRequest}
    {record : FailureDomainRecord} {parent : FailureDomainId} (h : state.WellFormed)
    (hadmitted : admitFailureDomain options state publisher request = .ok record)
    (hparent : parent ∈ record.parents) :
    checkDomainParent (state.commitFailureDomain record).toRackGraph record.id parent = .ok () := by
  have hchecked := (failureDomainAdmission hadmitted).parent_checked parent hparent
  have hafter : (state.commitFailureDomain record).WellFormed := h.filed hadmitted
  have hedge : (state.commitFailureDomain record).DomainEdge record.id parent := by
    refine domainEdge_iff.mpr ⟨record, ?_, hparent⟩
    simp [commitFailureDomain]
  unfold checkDomainParent at hchecked ⊢
  simp only [refuseIf_bind_eq_ok, refuseIf_eq_ok] at hchecked ⊢
  refine ⟨hchecked.1, ?_, ?_⟩
  · have hmem : parent ∈ state.failureDomains := by simpa using hchecked.2.1
    simp [commitFailureDomain, hmem]
  · rw [Bool.eq_false_iff, ne_eq, domainContainsCycle_iff]
    exact fun hpath => hafter.domains_acyclic record.id (.head' hedge hpath)

theorem publishRelationship_again_iff {request : PublishRelationshipRequest}
    {record : RelationshipRecord} {generation : Option PublicationGeneration} (now : Timestamp)
    (h : state.WellFormed) (hplain : (Mutation.publishRelationship request).Ungenerated)
    (hauthority : state.checkAuthority request.authority true = .ok publisher)
    (hadmitted : admitRelationship options state publisher request = .ok record)
    (hcurrent : ((state.commitRelationship record).advancePublication publisher).CurrentGeneration
      request.authority.boot generation) :
    Unaltered options ((state.commitRelationship record).advancePublication publisher)
        ⟨now, .publishRelationship { request with
          authority := request.authority.refreshed generation }⟩ ↔
      state.NamesOwner request.authority request.record.ownerWorker request.record.ownerBoot := by
  have hchecked := relationshipAdmission hadmitted
  obtain ⟨again, hagain⟩ := checkAuthority_again hauthority hcurrent rfl rfl rfl rfl
  have hfound : ((state.commitRelationship record).advancePublication publisher).relationships[
      request.record.key.canonical]? = some record := by
    rw [toRackGraph_advancePublication]
    simp [commitRelationship, ← hchecked.key]
  have hendpoints : checkEndpoints ((state.commitRelationship record).advancePublication
      publisher).toRackGraph request.record.key.canonical = .ok () := by
    rw [toRackGraph_advancePublication, ← hchecked.key]
    exact checkEndpoints_again h hadmitted
  have hstored : ownerConflict record.ownerBoot request.authority = false := by
    obtain ⟨owner, howner, -, hrecord⟩ := hchecked.stored
    rw [hrecord, howner]
    exact ownerConflict_ownerAfter
  have hcapacity : (request.record.capacity.bind fun capacity =>
      validateQuantity capacity capacity.unit) = none := by
    cases hsome : request.record.capacity with
    | none => rfl
    | some capacity => exact hchecked.capacity hsome
  rw [← sameRelationshipContent_iff hauthority hchecked]
  refine (underAuthority_unaltered_iff hagain).trans ?_
  simp only [unchanging_bind, not_unchanging_pure, and_false, exists_false, or_false]
  exact unchanging_admitRelationship_iff rfl (hchecked.key ▸ hchecked.distinct) hchecked.valid
    hcapacity hendpoints hfound hstored hplain.1 hplain.2

theorem label_of_admitFailureDomain {request : PublishFailureDomainRequest}
    {record : FailureDomainRecord}
    (h : admitFailureDomain options state publisher request = .ok record) :
    (request.record.label.any fun label => !(validateLabel label).ok) = false := by
  unfold admitFailureDomain at h
  exact (refuseIf_bind_eq_ok.mp (refuseIf_bind_eq_ok.mp h).2).1

theorem publishFailureDomain_again_iff {request : PublishFailureDomainRequest}
    {record : FailureDomainRecord} {generation : Option PublicationGeneration} (now : Timestamp)
    (h : state.WellFormed) (hplain : (Mutation.publishFailureDomain request).Ungenerated)
    (hauthority : state.checkAuthority request.authority true = .ok publisher)
    (hadmitted : admitFailureDomain options state publisher request = .ok record)
    (hcurrent : ((state.commitFailureDomain record).advancePublication publisher).CurrentGeneration
      request.authority.boot generation) :
    Unaltered options ((state.commitFailureDomain record).advancePublication publisher)
        ⟨now, .publishFailureDomain { request with
          authority := request.authority.refreshed generation }⟩ ↔
      state.NamesOwner request.authority request.record.ownerWorker request.record.ownerBoot := by
  have hchecked := failureDomainAdmission hadmitted
  obtain ⟨owner, howner, -, hrecord⟩ := hchecked.stored
  obtain ⟨again, hagain⟩ := checkAuthority_again hauthority hcurrent rfl rfl rfl rfl
  have hfound : ((state.commitFailureDomain record).advancePublication publisher).failureDomains[
      request.record.id]? = some record := by
    rw [toRackGraph_advancePublication]
    simp [commitFailureDomain, ← hchecked.id]
  have hparents : ∀ parent ∈ (ExtTreeSet.ofList request.record.parents).toList,
      checkDomainParent ((state.commitFailureDomain record).advancePublication
        publisher).toRackGraph request.record.id parent = .ok () := by
    intro parent hparent
    rw [toRackGraph_advancePublication, ← hchecked.id]
    refine checkDomainParent_again h hadmitted ?_
    rwa [hrecord]
  have hstored : ownerConflict record.ownerBoot request.authority = false := by
    rw [hrecord, howner]
    exact ownerConflict_ownerAfter
  have hrevived : ¬ (record.lifecycle = .retired ∧ request.record.lifecycle ≠ .retired) := by
    rw [hrecord]
    exact and_not_self
  rw [← sameFailureDomainContent_iff hauthority hchecked]
  refine (underAuthority_unaltered_iff hagain).trans ?_
  simp only [unchanging_bind, not_unchanging_pure, and_false, exists_false, or_false]
  exact unchanging_admitFailureDomain_iff rfl hchecked.identity
    (label_of_admitFailureDomain hadmitted) hchecked.valid hparents hfound hrevived hstored
    hplain.1 hplain.2

/-- A process names itself as the owner of its record. A member that it retires carries no
live observation, and its description holds no NaN. -/
def Repeatable (state : RackState) : Mutation → Prop
  | .publishMember request =>
      state.NamesOwner request.authority request.record.ownerWorker request.record.ownerBoot ∧
        request.record.Quiet ∧
        ∀ quantity ∈ request.record.details.quantity, quantity.Numeric
  | .publishRelationship request =>
      state.NamesOwner request.authority request.record.ownerWorker request.record.ownerBoot
  | .publishFailureDomain request =>
      state.NamesOwner request.authority request.record.ownerWorker request.record.ownerBoot
  | _ => True

/-- To publish an accepted record again changes nothing exactly when the record was
submitted as the fabric stores it. -/
theorem republication_unaltered_iff (hreachable : Reachable options state) {input : Input}
    (hplain : input.mutation.Ungenerated)
    (haccepted : (state.perform options input).2 = some .accepted)
    {generation : Option PublicationGeneration}
    (hcurrent : (step options state input).CurrentGeneration input.mutation.submittedBy generation)
    (now : Timestamp) :
    Unaltered options (step options state input) ⟨now, input.mutation.refreshed generation⟩ ↔
      state.Repeatable input.mutation := by
  have hformed : state.WellFormed := by
    obtain ⟨inputs, rfl⟩ := hreachable
    exact wellFormed_run options inputs
  obtain ⟨before, mutation⟩ := input
  cases mutation with
  | publishMember request =>
    obtain ⟨publisher, record, hauthority, hadmitted, hcommitted⟩ :=
      committed_of_accepted (commitMember _) (fun _ => ⟨_, _, rfl⟩) haccepted
    have hstep : step options state ⟨before, .publishMember request⟩ = _ := hcommitted
    rw [hstep] at hcurrent ⊢
    exact publishMember_again_iff now hplain hauthority hadmitted hcurrent
  | publishRelationship request =>
    obtain ⟨publisher, record, hauthority, hadmitted, hcommitted⟩ :=
      committed_of_accepted (commitRelationship _) (fun _ => ⟨_, _, rfl⟩) haccepted
    have hstep : step options state ⟨before, .publishRelationship request⟩ = _ := hcommitted
    rw [hstep] at hcurrent ⊢
    exact publishRelationship_again_iff now hformed hplain hauthority hadmitted hcurrent
  | publishFailureDomain request =>
    obtain ⟨publisher, record, hauthority, hadmitted, hcommitted⟩ :=
      committed_of_accepted (commitFailureDomain _) (fun _ => ⟨_, _, rfl⟩) haccepted
    have hstep : step options state ⟨before, .publishFailureDomain request⟩ = _ := hcommitted
    rw [hstep] at hcurrent ⊢
    exact publishFailureDomain_again_iff now hformed hplain hauthority hadmitted hcurrent
  | _ => cases hplain

end RackState

namespace Scenario

def publishNode (worker : Option WorkerId) (owner : Option AgentBootId) : Input :=
  publishMember (process bootA)
    { key := node "node-1", ownerWorker := worker, ownerBoot := owner }

def ownedNode : Input := publishNode (some (.ofText (str "worker"))) (some bootA)

/-- The record names its owner, and it is published again under the generation that its
publisher has by then. -/
theorem owned_node_unaltered :
    Unaltered defaults (step defaults registered ownedNode)
        ⟨⟨2000⟩, ownedNode.mutation.refreshed (some ⟨2⟩)⟩ ↔
      registered.Repeatable ownedNode.mutation := by
  have hreachable : Reachable defaults registered := ⟨_, rfl⟩
  have hplain : ownedNode.mutation.Ungenerated := ⟨rfl, rfl⟩
  refine republication_unaltered_iff hreachable hplain (by decide +kernel) ?_ ⟨2000⟩
  intro boot record expected hboot hfound hexpected
  obtain rfl := Option.some.inj hboot
  obtain rfl := Option.some.inj hexpected
  have hcurrent : (step defaults registered ownedNode).publishers[bootA]?.map
      (·.publicationGeneration) = some ⟨2⟩ := by
    decide +kernel
  rw [hfound] at hcurrent
  exact (Option.some.inj hcurrent).symm

/-- The owner that the fabric fills in makes the same record look changed. -/
theorem unowned_node_republished :
    ¬ ∀ (options : RackFabricOptions) (state : RackState) (input : Input)
      (generation : Option PublicationGeneration) (now : Timestamp), Reachable options state →
      input.mutation.Ungenerated → (state.perform options input).2 = some .accepted →
      (step options state input).CurrentGeneration input.mutation.submittedBy generation →
      Unaltered options (step options state input)
        ⟨now, input.mutation.refreshed generation⟩ := by
  intro h
  have hunaltered := h defaults registered (publishNode none none) none ⟨2000⟩ ⟨_, rfl⟩ ⟨rfl, rfl⟩
    (by decide +kernel) fun _ _ _ _ _ hnone => by cases hnone
  have houtcome := congrArg Prod.snd hunaltered
  revert houtcome
  decide +kernel

end Scenario

end RackFabric
