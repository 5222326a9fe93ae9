import RackFabric.Model.Observe

/-! The mutations of the rack itself and of its publishers. -/
namespace RackFabric
open Std SecondaryIndex

namespace RackState

/-! register_publisher -/

/-- A boot that is already known is refreshed, when it may still register. -/
def admitRegistered (existing : PublisherRecord) (worker : WorkerId) (boot : AgentBootId) :
    Except Refusal Unit := do
  refuseIf (existing.state = .lost ∨ existing.state = .fenced)
    (.because .rejectStaleWorkerBoot "BOOT_NOT_CURRENT" boot.value
      "a boot identity that has been lost or fenced cannot reacquire authority")
  refuseIf (existing.worker ≠ worker)
    (.because .rejectNotAuthorized "WORKER_IDENTITY_CHANGED" boot.value
      "the boot identity is already registered for a different worker")

def admitRegistration (options : RackFabricOptions) (state : RackState)
    (request : RegisterPublisherRequest) : Except Refusal (WorkerId × AgentBootId) := do
  let incomplete := .because .rejectInvalidInput "REGISTRATION_INCOMPLETE" (str "<none>")
    "a registration requires a rack, a worker and a boot identity"
  let rackId ← require request.rack incomplete
  let worker ← require request.worker incomplete
  let boot ← require request.boot incomplete
  refuseIf (request.coordinatorEpoch ≠ state.generations.coordinatorEpoch)
    (.generation .rejectStaleCoordinatorEpoch "STALE_COORDINATOR_EPOCH" boot.value
      "registration presents a coordinator epoch that is not current" "coordinator_epoch"
      request.coordinatorEpoch state.generations.coordinatorEpoch)
  let rack ← require state.rack
    (.because .rejectUnknownRack "RACK_NOT_DECLARED" rackId.value
      "no rack identity has been declared")
  refuseIf (rackId ≠ rack.id)
    (.because .rejectUnknownRack "RACK_IDENTITY_MISMATCH" rackId.value
      "registration names a different rack")
  refuseIf rack.retired
    (.because .rejectRackRetired "RACK_RETIRED" rackId.value "the rack has been retired")
  refuseIf (state.fencedBoots.contains boot)
    (.because .rejectStaleWorkerBoot "BOOT_FENCED" boot.value
      "the boot identity has been fenced and can never reacquire authority")
  refuseIf (state.publishers.size ≥ options.limits.maxConnections ∧
      !state.publishers.contains boot)
    (.because .rejectLimitExceeded "PUBLISHER_LIMIT_EXCEEDED" boot.value
      "the publisher limit has been reached")
  (match state.publishers[boot]? with
    | some existing => admitRegistered existing worker boot
    | none => refuseIf (request.label.any fun label => !(validateLabel label).ok)
        (.because .rejectInvalidInput "INVALID_LABEL" boot.value
          "the publisher label is not a valid bounded label"))
  return (worker, boot)

def registerPublisher (options : RackFabricOptions) (state : RackState) (now : Timestamp)
    (request : RegisterPublisherRequest) : RackState × MutationResult :=
  match admitRegistration options state request with
  | .error refusal => state.refuse refusal
  | .ok (worker, boot) =>
      match state.publishers[boot]? with
      | some existing =>
          let refreshed := { existing with lastSeenAt := now, state := .active }
          { state with publishers := state.publishers.insert boot refreshed }.refuse
            (.unchanged "PUBLISHER_ALREADY_REGISTERED" boot.value)
      | none =>
          let publisher : PublisherRecord :=
            { worker := worker
              boot := boot
              coordinatorEpoch := state.generations.coordinatorEpoch
              publicationGeneration := .first
              state := .active
              registeredAt := now
              lastSeenAt := now
              leaseMillis := options.limits.publisherLeaseMillis
              label := request.label }
          { state with publishers := state.publishers.insert boot publisher }.accept
            "PUBLISHER_REGISTERED" boot.value

/-! declare_rack -/

/-- A rack of the same epoch is either the declared one or a conflicting label. -/
def admitOverRack (rack : RackRecord) (named : RackId) (epoch : RackEpochId)
    (request : DeclareRackRequest) : Except Refusal RackGeneration := do
  refuseIf (rack.id ≠ named)
    (.because .rejectConflict "RACK_IDENTITY_CONFLICT" named.value
      "this instance already describes a different rack")
  refuseIf rack.retired
    (.because .rejectRackRetired "RACK_RETIRED" rack.id.value "a retired rack cannot be redeclared")
  refuseIf (rack.epoch = epoch ∧ request.label.isSome ∧ rack.label ≠ request.label)
    (.because .rejectConflict "RACK_LABEL_CONFLICT" rack.id.value
      "the rack already exists with a different label")
  refuseIf (rack.epoch = epoch) (.unchanged "RACK_ALREADY_DECLARED" rack.id.value)
  refuseIf (!request.redeclare)
    (.because .rejectConflict "RACK_EPOCH_CONFLICT" rack.id.value
      "the rack is declared under a different epoch; redeclare must be explicit")
  require rack.generation.next (exhausted rack.id.value "rack generation exhausted")

def admitDeclaration (state : RackState) (request : DeclareRackRequest) :
    Except Refusal (RackId × RackEpochId) := do
  let epoch ← require request.epoch
    (.because .rejectInvalidInput "RACK_EPOCH_REQUIRED" (str "<none>")
      "declaring a rack requires an explicit rack incarnation identity")
  refuseIf (!(validateIdentity epoch.value).ok)
    (.because .rejectInvalidInput "INVALID_RACK_EPOCH" epoch.value
      "the rack epoch is not a valid identity")
  refuseIf (request.label.any fun label => !(validateLabel label).ok)
    (.because .rejectInvalidInput "INVALID_LABEL" epoch.value
      "the rack label is not a valid bounded label")
  let named ← require request.authority.rack
    (.because .rejectInvalidInput "RACK_IDENTITY_REQUIRED" epoch.value
      "the authority token does not name a rack")
  let _ ← state.checkAuthority request.authority false
  return (named, epoch)

/-- A new incarnation: every observation is bound to the one before. -/
def commitRedeclaration (state : RackState) (rack : RackRecord) (epoch : RackEpochId)
    (generation : RackGeneration) (label : Option Str) (now : Timestamp) : RackState :=
  { state with
    rack := some { rack with
      epoch := epoch, generation := generation, label := label, declaredAt := now }
    members := state.members.map fun _ record =>
      { record with revalidationRequired := true, revalidationReason := .superseded }
    relationships := state.relationships.map fun _ record =>
      { record with revalidationRequired := true }
    failureDomains := state.failureDomains.map fun _ record =>
      { record with revalidationRequired := true }
    generations := { state.generations with rack := generation } }

def commitDeclaration (state : RackState) (named : RackId) (epoch : RackEpochId)
    (label : Option Str) (now : Timestamp) : RackState :=
  { state with
    rack := some
      { id := named, epoch := epoch, generation := .first, retired := false, label := label
        declaredAt := now }
    generations := { state.generations with rack := .first } }

def declareRack (state : RackState) (now : Timestamp) (request : DeclareRackRequest) :
    RackState × MutationResult :=
  match admitDeclaration state request with
  | .error refusal => state.refuse refusal
  | .ok (named, epoch) =>
      match state.rack with
      | none =>
          (state.commitDeclaration named epoch request.label now).accept "RACK_DECLARED" named.value
      | some rack =>
          match admitOverRack rack named epoch request with
          | .error refusal => state.refuse refusal
          | .ok generation =>
              (state.commitRedeclaration rack epoch generation request.label now).accept
                "RACK_REDECLARED" rack.id.value

/-! retire_rack -/

def admitRackRetirement (state : RackState) (request : RetireRackRequest) :
    Except Refusal (RackRecord × Option PublisherRef × RackGeneration) := do
  let rack ← require state.rack
    (.because .rejectUnknownRack "RACK_NOT_DECLARED" (str "<none>")
      "no rack identity has been declared")
  refuseIf rack.retired (.unchanged "RACK_ALREADY_RETIRED" rack.id.value)
  refuseIf (request.authority.coordinatorEpoch ≠ state.generations.coordinatorEpoch)
    (.generation .rejectStaleCoordinatorEpoch "STALE_COORDINATOR_EPOCH" rack.id.value
      "the mutation carries an epoch that is not current" "coordinator_epoch"
      request.authority.coordinatorEpoch state.generations.coordinatorEpoch)
  let publisher ← state.checkAuthority request.authority true
  let next ← require rack.generation.next (exhausted rack.id.value "rack generation exhausted")
  return (rack, publisher, next)

def fencedRecord (state : RackState) (boot : AgentBootId) (publisher : PublisherRecord)
    (now : Timestamp) (reason : RevalidationReason) : FencedBootRecord where
  boot := boot
  worker := some publisher.worker
  fencedUnderEpoch := state.generations.coordinatorEpoch
  fencedAt := now
  reason := reason

/-- Present members become unavailable, and every publisher is lost and fenced. -/
def commitRackRetirement (state : RackState) (rack : RackRecord) (next : RackGeneration)
    (now : Timestamp) : RackState :=
  { state with
    rack := some { rack with retired := true, generation := next }
    generations := { state.generations with rack := next }
    members := state.members.map fun _ record =>
      if record.lifecycle = .present then
        { record with
          lifecycle := .unavailable, revalidationRequired := true
          revalidationReason := .superseded }
      else record
    publishers := state.publishers.map fun _ publisher => { publisher with state := .lost }
    fencedBoots := state.publishers.toList.foldl
      (fun fenced entry =>
        fenced.insert entry.1 (state.fencedRecord entry.1 entry.2 now .superseded))
      state.fencedBoots }

/-- The publication of the requester advances after every publisher was lost. -/
def retireRack (state : RackState) (now : Timestamp) (request : RetireRackRequest) :
    RackState × MutationResult :=
  match admitRackRetirement state request with
  | .error refusal => state.refuse refusal
  | .ok (rack, publisher, next) =>
      ((state.commitRackRetirement rack next now).advancePublication publisher).accept
        "RACK_RETIRED" rack.id.value

/-! heartbeat -/

def heartbeat (state : RackState) (now : Timestamp) (request : HeartbeatRequest) :
    RackState × MutationResult :=
  match state.checkAuthority request.authority false with
  | .error refusal => state.refuse refusal
  | .ok none =>
      state.refuse (.because .rejectNotRegistered "HEARTBEAT_REQUIRES_BOOT"
        ((request.authority.boot.map (·.value)).getD (str "<none>"))
        "a heartbeat must present a registered boot identity")
  | .ok (some publisher) =>
      { state with
        publishers := state.publishers.modify publisher.boot fun record =>
          { record with lastSeenAt := now, state := .active } }.accept
        "HEARTBEAT_ACCEPTED" publisher.record.boot.value

/-! fence_publisher and expire_publishers -/

/-- Live evidence is kept for diagnosis but must be revalidated. -/
def fencedEvidence {α : Type} [Inhabited α] (evidence : EvidenceValue α) : EvidenceValue α :=
  if evidence.hasEvidence ∧ evidence.durability = .ephemeral then
    { evidence with revalidationRequired := true }
  else evidence

def fencedMember (record : MemberRecord) (reason : RevalidationReason) : MemberRecord :=
  { record with
    revalidationRequired := true
    revalidationReason := reason
    health := fencedEvidence record.health
    readiness := fencedEvidence record.readiness
    reachability := fencedEvidence record.reachability
    capabilities := record.capabilities.map fun capability =>
      if capability.durability = .ephemeral then { capability with revalidationRequired := true }
      else capability
    generation := record.generation.next.getD record.generation }

def fenceMember (reason : RevalidationReason) (graph : RackGraph) (key : MemberKey) : RackGraph :=
  match graph.members[key]? with
  | none => graph
  | some existing => graph.storeMember key (some existing) (fencedMember existing reason)

/-- The ephemeral record of a fenced owner. -/
def ownedEphemeral (ownerBoot : Option AgentBootId) (durability : Durability)
    (boot : AgentBootId) : Bool :=
  ownerBoot = some boot ∧ durability = .ephemeral

def fencedRelationship (boot : AgentBootId) (record : RelationshipRecord) : RelationshipRecord :=
  if ownedEphemeral record.ownerBoot record.durability boot then
    { record with revalidationRequired := true }
  else record

def fencedDomain (boot : AgentBootId) (record : FailureDomainRecord) : FailureDomainRecord :=
  if ownedEphemeral record.ownerBoot record.durability boot then
    { record with revalidationRequired := true }
  else record

def fenceInGraph (graph : RackGraph) (boot : AgentBootId) (reason : RevalidationReason) :
    RackGraph :=
  let fenced := (entries graph.membersByOwnerBoot boot).toList.foldl (fenceMember reason) graph
  { fenced with
    relationships := fenced.relationships.map fun _ => fencedRelationship boot
    failureDomains := fenced.failureDomains.map fun _ => fencedDomain boot }

def fencePower (boot : AgentBootId) (envelope : PowerEnvelopeRecord) : PowerEnvelopeRecord :=
  if ownedEphemeral envelope.ownerBoot envelope.durability boot then
    { envelope with revalidationRequired := true, rackObservedDraw := none, rackHeadroom := none }
  else envelope

def fenceCooling (boot : AgentBootId) (envelope : CoolingEnvelopeRecord) :
    CoolingEnvelopeRecord :=
  if ownedEphemeral envelope.ownerBoot envelope.durability boot then
    { envelope with
      revalidationRequired := true
      zones := envelope.zones.map fun zone =>
        { zone with observedTemperature := none, thermalHeadroom := none, throttling := none } }
  else envelope

def commitFence (state : RackState) (boot : AgentBootId) (publisher : PublisherRecord)
    (reason : RevalidationReason) (now : Timestamp) : RackState :=
  { state with
    toRackGraph := fenceInGraph state.toRackGraph boot reason
    publishers := state.publishers.insert boot { publisher with state := .fenced }
    fencedBoots := state.fencedBoots.insert boot (state.fencedRecord boot publisher now reason)
    power := state.power.map (fencePower boot)
    cooling := state.cooling.map (fenceCooling boot)
    generations := { state.generations with membership := state.generations.membership.bump } }

def admitFence (state : RackState) (request : FencePublisherRequest) :
    Except Refusal (AgentBootId × PublisherRecord) := do
  let boot ← require request.boot
    (.because .rejectInvalidInput "FENCE_REQUIRES_BOOT" (str "<none>")
      "a fence request must name the boot identity to fence")
  refuseIf (request.coordinatorEpoch ≠ state.generations.coordinatorEpoch)
    (.generation .rejectStaleCoordinatorEpoch "STALE_COORDINATOR_EPOCH" boot.value
      "the fence request carries an epoch that is not current" "coordinator_epoch"
      request.coordinatorEpoch state.generations.coordinatorEpoch)
  let publisher ← require state.publishers[boot]?
    (if state.fencedBoots.contains boot then .unchanged "PUBLISHER_ALREADY_FENCED" boot.value
      else .because .rejectNotRegistered "PUBLISHER_NOT_REGISTERED" boot.value
        "the boot identity is not registered")
  refuseIf (publisher.state = .fenced) (.unchanged "PUBLISHER_ALREADY_FENCED" boot.value)
  return (boot, publisher)

def fencePublisher (state : RackState) (now : Timestamp) (request : FencePublisherRequest) :
    RackState × MutationResult :=
  match admitFence state request with
  | .error refusal => state.refuse refusal
  | .ok (boot, publisher) =>
      (state.commitFence boot publisher request.reason now).accept "PUBLISHER_FENCED" boot.value

/-- A live publisher that was last seen longer ago than its lease. -/
def leaseExpired (publisher : PublisherRecord) (now : Timestamp) : Bool :=
  (publisher.state = .registered ∨ publisher.state = .active) ∧
    publisher.lastSeenAt.known ∧ 0 < publisher.leaseMillis ∧
    publisher.leaseMillis < now.unixMillis - publisher.lastSeenAt.unixMillis

def expiredBoots (state : RackState) (now : Timestamp) : List AgentBootId :=
  (state.publishers.toList.filter fun entry => leaseExpired entry.2 now).map Prod.fst

/-- Each expired boot is fenced by a call of its own, which reads the clock again. -/
def expirePublishers (state : RackState) (now : Timestamp) (later : AgentBootId → Timestamp) :
    RackState :=
  (state.expiredBoots now).foldl
    (fun state boot => (state.fencePublisher (later boot)
      { coordinatorEpoch := state.generations.coordinatorEpoch, boot := some boot
        reason := .ownerProcessLost }).1)
    state

/-! publish_snapshot -/

def snapshotIdText (rack : RackRecord) (generation : SnapshotGeneration) : Str :=
  str "snap-" ++ rack.id.value ++ str "-" ++ decimal generation.value.toNat

/-- A full table gives up its oldest snapshot first. -/
def retainSnapshot (options : RackFabricOptions) (state : RackState) (snapshot : RackSnapshot) :
    RackState :=
  let kept :=
    if state.snapshots.size ≥ options.limits.maxRetainedSnapshots then
      match state.snapshots.minKey? with
      | none => state.snapshots
      | some oldest => state.snapshots.erase oldest
    else state.snapshots
  { state with
    snapshotGeneration := snapshot.generation
    snapshots := kept.insert snapshot.generation snapshot }

def snapshotPublication (state : RackState) (publisher : Option PublisherRef) :
    PublicationGeneration :=
  match publisher with
  | some publisher => publisher.record.publicationGeneration
  | none =>
      if state.operatorPublicationGeneration.isUnset then .first
      else state.operatorPublicationGeneration

/-- The rack is declared whenever the authority check is rack-scoped. -/
def admitSnapshot (state : RackState) (publisher : Option PublisherRef) (now : Timestamp) :
    Except Refusal RackSnapshot := do
  let rack ← require state.rack
    (.because .rejectUnknownRack "RACK_NOT_DECLARED" (str "<none>")
      "no rack identity has been declared")
  let next ← require state.snapshotGeneration.advance
    (exhausted (str "snapshot") "snapshot generation exhausted")
  let text := snapshotIdText rack next
  let id ← require (StrongId.parse text)
    (.because .rejectInvalidInput "SNAPSHOT_IDENTITY_INVALID" text
      "the derived snapshot identity is not a valid identity")
  return state.buildSnapshot rack id next (state.snapshotPublication publisher) now

def publishSnapshot (options : RackFabricOptions) (state : RackState) (now : Timestamp)
    (request : SnapshotRequest) : (RackState × MutationResult) × Option RackSnapshot :=
  match state.checkAuthority request.authority true with
  | .error refusal => (state.refuse refusal, none)
  | .ok publisher =>
      match admitSnapshot state publisher now with
      | .error refusal => (state.refuse refusal, none)
      | .ok snapshot =>
          (((retainSnapshot options state snapshot).advancePublication publisher).accept
            "SNAPSHOT_PUBLISHED" snapshot.id.value, some snapshot)

end RackState

end RackFabric
