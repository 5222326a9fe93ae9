import RackFabric.Model.Publish

/-! The mutations of published members: their evidence, their withdrawal, their
availability and their retirement. -/
namespace RackFabric
open Std SecondaryIndex

namespace RackState

/-! Every one of these looks the member up and asks for its ownership. -/

def findMember (state : RackState) (member : MemberKey) : Except Refusal MemberRecord :=
  require state.members[member]?
    (.because .rejectUnknownMember "UNKNOWN_MEMBER" member.toStr
      "the member does not exist in the current rack")

def ownedMember (state : RackState) (token : AuthorityToken) (member : MemberKey) :
    Except Refusal MemberRecord := do
  let existing ← state.findMember member
  refuseIf (ownerConflict existing.ownerBoot token)
    (.because .rejectNotAuthorized "MEMBER_OWNED_BY_OTHER_PROCESS" member.toStr
      "the member is owned by a different process incarnation")
  return existing

/-- The next generation of the record, under the publication that changed it. -/
def nextRecord (publisher : Option PublisherRef) (record : MemberRecord) (subject : Str) :
    Except Refusal MemberRecord := do
  let next ← require record.generation.next (exhausted subject "member generation exhausted")
  return { record with
    generation := next
    publicationGeneration := (publisher.map (·.record.publicationGeneration)).getD
      record.publicationGeneration }

def reviseMember (state : RackState) (existing record : MemberRecord) : RackState :=
  { state with toRackGraph := state.storeMember record.key (some existing) record }

def bumpMembership (state : RackState) : RackState :=
  { state with
    generations := { state.generations with membership := state.generations.membership.bump } }

/-! publish_health -/

/-- Health without evidence clears what was published before. -/
def withHealth (record : MemberRecord) (request : PublishHealthRequest) : MemberRecord :=
  { record with
    health := if request.health.hasEvidence then request.health else {}
    readiness := if request.publishReadiness then request.readiness else record.readiness }

def admitHealth (state : RackState) (publisher : Option PublisherRef)
    (request : PublishHealthRequest) : Except Refusal (MemberRecord × MemberRecord) := do
  let subject := request.member.toStr
  let existing ← state.ownedMember request.authority request.member
  (match request.expectedGeneration with
    | none => .ok ()
    | some expected => refuseIf (expected < existing.generation)
        (.generation .rejectStaleGeneration "STALE_MEMBER_GENERATION" subject
          "the expected member generation is older than the current one" "member_generation"
          expected existing.generation))
  refuseSome (validateEvidence request.health.toObservation) fun code =>
    .because .rejectInvalidInput code subject "the health evidence is not structurally valid"
  refuseSome (if request.publishReadiness then validateEvidence request.readiness.toObservation
      else none) fun code =>
    .because .rejectInvalidInput code subject "the readiness evidence is not structurally valid"
  let record ← nextRecord publisher (withHealth existing request) subject
  return (existing, record)

def commitHealth (state : RackState) (existing record : MemberRecord) : RackState :=
  { state.reviseMember existing record with
    generations := { state.generations with health := state.generations.health.bump } }

def publishHealth (state : RackState) (request : PublishHealthRequest) :
    RackState × MutationResult :=
  state.underAuthority request.authority fun publisher => do
    let (existing, record) ← admitHealth state publisher request
    return (state.commitHealth existing record, "HEALTH_PUBLISHED", request.member.toStr)

/-! publish_capability -/

/-- Replaces the first capability of the same identity, or appends. -/
def putCapability (candidate : CapabilityRef) : List CapabilityRef → List CapabilityRef
  | [] => [candidate]
  | first :: rest =>
      if first.id = candidate.id then candidate :: rest else first :: putCapability candidate rest

def admitCapability (options : RackFabricOptions) (state : RackState)
    (publisher : Option PublisherRef) (request : PublishCapabilityRequest) :
    Except Refusal (MemberRecord × MemberRecord) := do
  let subject := request.member.toStr
  let existing ← state.ownedMember request.authority request.member
  let requested ← require request.capability
    (.because .rejectInvalidInput "CAPABILITY_REQUIRED" subject
      "the request does not carry a capability")
  refuseIf (!(validateIdentity requested.id.value).ok)
    (.because .rejectInvalidInput "INVALID_CAPABILITY_IDENTITY" subject
      "the capability identity is invalid")
  refuseIf (requested.value.any fun value => !(validateLabel value).ok)
    (.because .rejectInvalidInput "INVALID_CAPABILITY_VALUE" subject
      "the capability value is invalid")
  refuseSome (validateEvidence requested.toObservation) fun code =>
    .because .rejectInvalidInput code subject "the capability evidence is not structurally valid"
  let candidate := { requested with revalidationRequired := false }
  let found := existing.capabilities.find? fun capability => capability.id = requested.id
  refuseIf (found = some candidate) (.unchanged "CAPABILITY_UNCHANGED" subject)
  refuseIf (found.isNone ∧ existing.capabilities.length ≥ options.limits.maxCapabilitiesPerMember)
    (.because .rejectLimitExceeded "CAPABILITY_LIMIT_EXCEEDED" subject
      "the capability limit has been reached")
  let record ← nextRecord publisher
    { existing with capabilities := putCapability candidate existing.capabilities } subject
  return (existing, record)

def commitCapability (state : RackState) (existing record : MemberRecord) : RackState :=
  { state.reviseMember existing record with
    generations := { state.generations with capabilities := state.generations.capabilities.bump } }

def publishCapability (options : RackFabricOptions) (state : RackState)
    (request : PublishCapabilityRequest) : RackState × MutationResult :=
  state.underAuthority request.authority fun publisher => do
    let (existing, record) ← admitCapability options state publisher request
    return (state.commitCapability existing record, "CAPABILITY_PUBLISHED", request.member.toStr)

/-! withdraw_evidence -/

/-- What remains of a record when the evidence in scope is withdrawn. -/
def withdrawn (record : MemberRecord) : WithdrawScope → MemberRecord
  | .all =>
      { record with
        provenance := .unknown, observedAt := .unknown, ttl := 0
        revalidationRequired := false, revalidationReason := .none, lifecycle := .declared
        health := {}, readiness := {}, reachability := {}, capabilities := [] }
  | .health => { record with health := {} }
  | .readiness => { record with readiness := {} }
  | .reachability => { record with reachability := {} }
  | .capabilities => { record with capabilities := [] }
  | .details => { record with details := .monostate }

def admitWithdrawal (state : RackState) (publisher : Option PublisherRef)
    (request : WithdrawEvidenceRequest) : Except Refusal (MemberRecord × MemberRecord) := do
  let existing ← state.ownedMember request.authority request.member
  let record ← nextRecord publisher (withdrawn existing request.scope) request.member.toStr
  return (existing, record)

/-- The membership generation also covers withdrawals and availability. -/
def commitRevision (state : RackState) (existing record : MemberRecord) : RackState :=
  (state.reviseMember existing record).bumpMembership

def withdrawEvidence (state : RackState) (request : WithdrawEvidenceRequest) :
    RackState × MutationResult :=
  state.underAuthority request.authority fun publisher => do
    let (existing, record) ← admitWithdrawal state publisher request
    return (state.commitRevision existing record, "EVIDENCE_WITHDRAWN", request.member.toStr)

/-! withdraw_relationship -/

def admitRelationshipWithdrawal (state : RackState) (request : WithdrawRelationshipRequest) :
    Except Refusal Unit := do
  let subject := request.key.canonical.toStr
  let existing ← require state.relationships[request.key.canonical]?
    (.unchanged "RELATIONSHIP_ABSENT" subject)
  refuseIf (ownerConflict existing.ownerBoot request.authority)
    (.because .rejectNotAuthorized "RELATIONSHIP_OWNED_BY_OTHER_PROCESS" subject
      "the relationship is owned by a different process incarnation")

def commitRelationshipWithdrawal (state : RackState) (key : RelationshipKey) : RackState :=
  { state with
    toRackGraph := state.dropRelationship key
    generations := { state.generations with topology := state.generations.topology.bump } }

def withdrawRelationship (state : RackState) (request : WithdrawRelationshipRequest) :
    RackState × MutationResult :=
  state.underAuthority request.authority fun _ => do
    admitRelationshipWithdrawal state request
    return (state.commitRelationshipWithdrawal request.key.canonical, "RELATIONSHIP_WITHDRAWN",
      request.key.canonical.toStr)

/-! mark_unavailable -/

/-- The publication generation of the record stays as it was. -/
def admitUnavailable (state : RackState) (request : MarkUnavailableRequest) :
    Except Refusal (MemberRecord × MemberRecord) := do
  let subject := request.member.toStr
  let existing ← state.ownedMember request.authority request.member
  refuseIf (existing.lifecycle = .retired)
    (.because .rejectRetired "MEMBER_RETIRED" subject
      "a retired member cannot be marked unavailable")
  refuseIf (existing.lifecycle = .unavailable) (.unchanged "MEMBER_ALREADY_UNAVAILABLE" subject)
  let next ← require existing.generation.next (exhausted subject "member generation exhausted")
  return (existing,
    { existing with
      lifecycle := .unavailable, revalidationRequired := true
      revalidationReason := request.reason, generation := next })

def markUnavailable (state : RackState) (request : MarkUnavailableRequest) :
    RackState × MutationResult :=
  state.underAuthority request.authority fun _ => do
    let (existing, record) ← admitUnavailable state request
    return (state.commitRevision existing record, "MEMBER_UNAVAILABLE", request.member.toStr)

/-! retire_member -/

/-- A retired identity keeps its provenance as history and asserts nothing else. -/
def retiredRecord (record : MemberRecord) : MemberRecord :=
  { record with
    lifecycle := .retired, revalidationRequired := false, revalidationReason := .none
    observedAt := .unknown, ttl := 0, health := {}, readiness := {}, reachability := {} }

/-- The ownership of the member is not asked for. -/
def admitRetirement (state : RackState) (request : RetireMemberRequest) :
    Except Refusal MemberRecord := do
  let subject := request.member.toStr
  let existing ← state.findMember request.member
  refuseIf (existing.lifecycle = .retired) (.unchanged "MEMBER_ALREADY_RETIRED" subject)
  let next ← require existing.generation.next (exhausted subject "member generation exhausted")
  return { retiredRecord existing with generation := next }

/-- The relationships that name the member, from the index. -/
def touching (graph : RackGraph) (member : MemberKey) : List RelationshipKey :=
  (entries graph.relationshipsByMember member).toList

def detachChild (parent : MemberKey) (graph : RackGraph) (entry : MemberKey × MemberRecord) :
    RackGraph :=
  if entry.2.parent = some parent then
    graph.storeMember entry.1 (some entry.2) { entry.2 with parent := none }
  else graph

def detachChildren (graph : RackGraph) (parent : MemberKey) : RackGraph :=
  graph.members.toList.foldl (detachChild parent) graph

/-- Withdraws the relationships, detaches the children, then stores the record. -/
def retireInGraph (graph : RackGraph) (member : MemberKey) (record : MemberRecord) : RackGraph :=
  let unlinked := (touching graph member).foldl RackGraph.dropRelationship graph
  let detached := detachChildren unlinked member
  detached.storeMember record.key detached.members[member]? record

def commitRetirement (state : RackState) (member : MemberKey) (record : MemberRecord) :
    RackState :=
  { state with
    toRackGraph := retireInGraph state.toRackGraph member record
    generations :=
      { state.generations with
        membership := state.generations.membership.bump
        topology :=
          if (touching state.toRackGraph member).isEmpty then state.generations.topology
          else state.generations.topology.bump } }

def retireMember (state : RackState) (request : RetireMemberRequest) :
    RackState × MutationResult :=
  state.underAuthority request.authority fun _ => do
    let record ← admitRetirement state request
    return (state.commitRetirement request.member record, "MEMBER_RETIRED", request.member.toStr)

/-! revalidate_members -/

/-- Stops at the first target that is refused and keeps the targets before it. -/
def revalidateTargets (token : AuthorityToken) :
    List MemberKey → RackGraph → Nat → RackGraph × Except Refusal Nat
  | [], graph, revalidated => (graph, .ok revalidated)
  | key :: targets, graph, revalidated =>
      match graph.members[key]? with
      | none =>
          (graph, .error (.because .rejectUnknownMember "UNKNOWN_MEMBER" key.toStr
            "the member does not exist in the current rack"))
      | some existing =>
          if ownerConflict existing.ownerBoot token then
            (graph, .error (.because .rejectNotAuthorized "MEMBER_OWNED_BY_OTHER_PROCESS" key.toStr
              "the member is owned by a different process incarnation"))
          else if !existing.revalidationRequired then
            revalidateTargets token targets graph revalidated
          else match existing.generation.next with
            | none => (graph, .error (exhausted key.toStr "member generation exhausted"))
            | some next =>
                let record :=
                  { existing with
                    revalidationRequired := false, revalidationReason := .none, generation := next }
                revalidateTargets token targets (graph.storeMember key (some existing) record)
                  (revalidated + 1)

def revalidationTargets (state : RackState) (request : RevalidateMembersRequest) :
    List MemberKey :=
  if request.all then
    (state.members.toList.filter fun entry => entry.2.revalidationRequired).map Prod.fst
  else request.members

def revalidateMembers (state : RackState) (request : RevalidateMembersRequest) :
    RackState × MutationResult :=
  match state.checkAuthority request.authority true with
  | .error refusal => state.refuse refusal
  | .ok publisher =>
      let targets := state.revalidationTargets request
      if targets.isEmpty then state.refuse (.unchanged "NOTHING_TO_REVALIDATE" (str "<none>"))
      else
        let (graph, verdict) := revalidateTargets request.authority targets state.toRackGraph 0
        let revised := { state with toRackGraph := graph }
        match verdict with
        | .error refusal => (revised.noteRefusal publisher refusal).refuse refusal
        | .ok 0 => revised.refuse (.unchanged "NOTHING_TO_REVALIDATE" (str "<none>"))
        | .ok (count + 1) =>
            (revised.bumpMembership.advancePublication publisher).accept "MEMBERS_REVALIDATED"
              (decimal (count + 1))

end RackState

end RackFabric
