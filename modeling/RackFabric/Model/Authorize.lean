import RackFabric.Model.Mutation
import RackFabric.Model.State

/-! What every mutation does before and after its own work: the authority check,
the validation of evidence, and the bookkeeping of publishers. -/
namespace RackFabric
open Std

def kMaxTtlMillis : Int64 := 86400000

/-- An error code when the check fails. -/
def errorIf (bad : Bool) (code : String) : Option String :=
  if bad then some code else none

def firstError (errors : List (Option String)) : Option String :=
  errors.findSome? id

@[simp] theorem errorIf_eq_none {bad : Bool} {code : String} :
    errorIf bad code = none ↔ bad = false := by
  cases bad <;> simp [errorIf]

def ttlIsValid (ttl : Millis) : Bool :=
  0 ≤ ttl ∧ ttl ≤ kMaxTtlMillis

def validateEvidence (evidence : Observation) : Option String :=
  firstError
    [errorIf (!ttlIsValid evidence.ttl) "TTL_OUT_OF_RANGE",
     errorIf (evidence.durability = .ephemeral ∧ evidence.ttl = 0)
       "EPHEMERAL_EVIDENCE_REQUIRES_TTL",
     errorIf (evidence.provenance ≠ .unknown ∧ !evidence.observedAt.known)
       "EVIDENCE_WITHOUT_OBSERVATION_TIME",
     errorIf (evidence.provenance = .unknown ∧ evidence.observedAt.known)
       "OBSERVATION_TIME_WITHOUT_PROVENANCE"]

def validateUncertainty : Option Double → Option String
  | none => none
  | some uncertainty => firstError
      [errorIf (!uncertainty.isFinite) "QUANTITY_UNCERTAINTY_NOT_FINITE",
       errorIf (uncertainty.lt {}) "QUANTITY_UNCERTAINTY_OUT_OF_RANGE"]

/-- A quantity without a unit cannot be compared with anything. -/
def validateQuantity (quantity : Quantity) (expectedUnit : QuantityUnit) : Option String :=
  firstError
    [errorIf (quantity.unit = .none) "QUANTITY_WITHOUT_UNIT",
     errorIf (!quantity.value.isFinite) "QUANTITY_NOT_FINITE",
     errorIf (quantity.value.lt {}) "QUANTITY_OUT_OF_RANGE",
     errorIf (quantity.unit ≠ expectedUnit) "QUANTITY_UNIT_MISMATCH",
     validateUncertainty quantity.uncertainty,
     validateEvidence quantity.toObservation]

def validateCapability (capability : CapabilityRef) : Option String :=
  firstError
    [errorIf (!(validateIdentity capability.id.value).ok) "INVALID_CAPABILITY_IDENTITY",
     errorIf (capability.value.any fun value => !(validateLabel value).ok)
       "INVALID_CAPABILITY_VALUE",
     validateEvidence capability.toObservation]

/-- Health, readiness and reachability are validated only when they assert something. -/
def validateAsserted (evidence : Observation) : Option String :=
  if evidence.hasEvidence then validateEvidence evidence else none

def validateMemberRecord (record : MemberRecord) (limits : ResourceLimits) : Option String :=
  firstError
    [errorIf (!(validateIdentity record.key.id).ok) "INVALID_MEMBER_IDENTITY",
     errorIf (!record.details.matchesKind record.key.kind) "DETAILS_DO_NOT_MATCH_KIND",
     errorIf (record.source.any fun source => !(validateLabel source).ok)
       "INVALID_SOURCE_LABEL",
     errorIf (record.failureDomains.length > limits.maxFailureDomainsPerMember)
       "FAILURE_DOMAIN_LIMIT",
     errorIf (record.capabilities.length > limits.maxCapabilitiesPerMember)
       "CAPABILITY_LIMIT",
     validateEvidence record.toObservation,
     errorIf (record.lifecycle = .present ∧ record.provenance = .unknown)
       "PRESENT_WITHOUT_EVIDENCE",
     validateAsserted record.health.toObservation,
     validateAsserted record.readiness.toObservation,
     validateAsserted record.reachability.toObservation,
     firstError (record.capabilities.map validateCapability)]

/-- Equality of content, whatever the generations. -/
def sameMemberContent (left right : MemberRecord) : Bool :=
  left.details.operatorEq right.details &&
    { left with generation := {}, publicationGeneration := {}, details := .monostate } =
      { right with generation := {}, publicationGeneration := {}, details := .monostate }

def sameRelationshipContent (left right : RelationshipRecord) : Bool :=
  optionEq Quantity.operatorEq left.capacity right.capacity &&
    { left with generation := {}, capacity := none } =
      { right with generation := {}, capacity := none }

def sameFailureDomainContent (left right : FailureDomainRecord) : Bool :=
  { left with generation := {} } = { right with generation := {} }

/-- A record that another process owns; the operator conflicts with nobody. -/
def ownerConflict (existing : Option AgentBootId) (token : AuthorityToken) : Bool :=
  match token.boot, existing with
  | some boot, some owner => owner ≠ boot
  | _, _ => false

/-- The publisher a mutation is submitted by: its key, and its record then. -/
structure PublisherRef where
  boot : AgentBootId
  record : PublisherRecord

namespace RackState

/-- A rack-scoped mutation names the declared rack. -/
def checkRack (state : RackState) (token : AuthorityToken) : Except Refusal Unit := do
  let rack ← require state.rack
    (.because .rejectUnknownRack "RACK_NOT_DECLARED" ((token.rack.map (·.value)).getD (str "<none>"))
      "no rack identity has been declared")
  let named ← require token.rack
    (.because .rejectInvalidInput "RACK_IDENTITY_REQUIRED" rack.id.value
      "the authority token does not name a rack")
  refuseIf (named ≠ rack.id)
    (.because .rejectUnknownRack "RACK_IDENTITY_MISMATCH" named.value
      "the mutation names a different rack than the declared one")

/-- A token that sequences its publication must name the current generation. -/
def checkSequence (token : AuthorityToken) (boot : AgentBootId) (record : PublisherRecord) :
    Except Refusal Unit :=
  match token.publicationGeneration with
  | none => .ok ()
  | some expected => do
      let current := record.publicationGeneration
      refuseIf (expected < current)
        (.generation .rejectStaleGeneration "STALE_PUBLICATION_GENERATION" boot.value
          "the publication generation is older than the publisher's current generation"
          "publication_generation" expected current)
      refuseIf (current < expected)
        (.generation .rejectConflict "PUBLICATION_GENERATION_AHEAD" boot.value
          "the publication generation is ahead of the publisher's current generation"
          "publication_generation" expected current)

def checkPublisher (state : RackState) (token : AuthorityToken) (boot : AgentBootId) :
    Except Refusal PublisherRef := do
  refuseIf (state.fencedBoots.contains boot)
    (.because .rejectStaleWorkerBoot "BOOT_FENCED" boot.value
      "the boot identity has been fenced and can never reacquire authority")
  let record ← require state.publishers[boot]?
    (.because .rejectNotRegistered "PUBLISHER_NOT_REGISTERED" boot.value
      "the boot identity has not been registered with this coordinator")
  refuseIf (record.state = .lost ∨ record.state = .fenced)
    (.because .rejectStaleWorkerBoot "PUBLISHER_NOT_CURRENT" boot.value
      "the publisher is no longer current; its authority was revoked")
  refuseIf (record.coordinatorEpoch ≠ state.generations.coordinatorEpoch)
    (.generation .rejectStaleCoordinatorEpoch "PUBLISHER_STALE_EPOCH" boot.value
      "the publisher registered under a previous epoch" "coordinator_epoch"
      record.coordinatorEpoch state.generations.coordinatorEpoch)
  checkSequence token boot record
  return ⟨boot, record⟩

/-- The publisher behind the token, or nobody for the operator. -/
def checkAuthority (state : RackState) (token : AuthorityToken) (rackScoped : Bool) :
    Except Refusal (Option PublisherRef) := do
  refuseIf (token.coordinatorEpoch ≠ state.generations.coordinatorEpoch)
    (.generation .rejectStaleCoordinatorEpoch "STALE_COORDINATOR_EPOCH"
      (str "coordinator_epoch") "the mutation carries an epoch that is not current"
      "coordinator_epoch" token.coordinatorEpoch state.generations.coordinatorEpoch)
  (if rackScoped then state.checkRack token else .ok ())
  refuseIf (state.rack.any (·.retired))
    (.because .rejectRackRetired "RACK_RETIRED" ((state.rack.map (·.id.value)).getD [])
      "the rack has been retired")
  match token.boot with
  | none => return none
  | some boot => return some (← state.checkPublisher token boot)

def makeResult (state : RackState) (outcome : MutationOutcome) (code subject : Str)
    (factors : List ExplanationFactor) : MutationResult :=
  ⟨outcome, ⟨outcome = .accepted, code, subject, factors⟩, state.generations⟩

def refuse (state : RackState) (refusal : Refusal) : RackState × MutationResult :=
  (state, state.makeResult refusal.outcome refusal.code refusal.subject refusal.factors)

def accept (state : RackState) (code : String) (subject : Str) : RackState × MutationResult :=
  (state, state.makeResult .accepted (str code) subject [])

def advancePublication (state : RackState) (publisher : Option PublisherRef) : RackState :=
  match publisher with
  | some publisher =>
      { state with
        publishers := state.publishers.modify publisher.boot fun record =>
          { record with
            publicationGeneration :=
              record.publicationGeneration.next.getD record.publicationGeneration
            state := .active
            acceptedMutations := record.acceptedMutations + 1 } }
  | none =>
      { state with
        operatorPublicationGeneration :=
          state.operatorPublicationGeneration.next.getD state.operatorPublicationGeneration }

/-- Counts a rejection against its publisher; an unchanged request is none. -/
def noteRefusal (state : RackState) (publisher : Option PublisherRef) (refusal : Refusal) :
    RackState :=
  match publisher with
  | some publisher =>
      if refusal.outcome = .noChange then state
      else
        { state with
          publishers := state.publishers.modify publisher.boot fun record =>
            { record with rejectedMutations := record.rejectedMutations + 1 } }
  | none => state

/-- The shape of a mutation: authority, admission, then the committed state with
the code and the subject of the acceptance. -/
def underAuthority (state : RackState) (token : AuthorityToken)
    (body : Option PublisherRef → Except Refusal (RackState × String × Str)) :
    RackState × MutationResult :=
  match state.checkAuthority token true with
  | .error refusal => state.refuse refusal
  | .ok publisher =>
      match body publisher with
      | .error refusal => (state.noteRefusal publisher refusal).refuse refusal
      | .ok (committed, code, subject) =>
          (committed.advancePublication publisher).accept code subject

/-- The owner of a record that a process publishes is that process. -/
def ownerAfter (token : AuthorityToken) (publisher : Option PublisherRef)
    (worker : Option WorkerId) (boot : Option AgentBootId) :
    Option WorkerId × Option AgentBootId :=
  match token.boot with
  | none => (worker, boot)
  | some submitted =>
      (match publisher with
        | none => worker
        | some publisher => some publisher.record.worker, some submitted)

end RackState

end RackFabric
