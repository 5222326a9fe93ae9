import RackFabric.Model.Snapshot

/-! What the runtime tells about itself: explanations as text, the summary of
the rack, and why a member or the rack is not current. -/
namespace RackFabric

def renderOptional (before : String) (text : Option Str) (after : String) : Str :=
  match text with
  | none => []
  | some text => str before ++ text ++ str after

def ExplanationFactor.render (factor : ExplanationFactor) : Str :=
  let generation := factor.generationName.map fun name =>
    name ++
      renderOptional " expected=" (factor.expectedGeneration.map (decimal ·.toNat)) "" ++
      renderOptional " current=" (factor.currentGeneration.map (decimal ·.toNat)) ""
  str "\n  - " ++ factor.code ++ str ": " ++ factor.detail ++
    renderOptional " [" generation "]" ++ renderOptional " [state=" factor.state "]"

def Explanation.render (explanation : Explanation) : Str :=
  str (if explanation.ok then "OK " else "DENIED ") ++ explanation.code ++
    (if explanation.subject.isEmpty then [] else str " subject=" ++ explanation.subject) ++
    explanation.factors.flatMap ExplanationFactor.render

structure RackSummary where
  rack : Option RackId := none
  rackEpoch : Option RackEpochId := none
  lifecycle : RackLifecycle := .undeclared
  generations : GenerationSet := {}
  memberCount : Nat := 0
  nodeCount : Nat := 0
  acceleratorCount : Nat := 0
  cpuPackageCount : Nat := 0
  memoryDomainCount : Nat := 0
  nicCount : Nat := 0
  dpuCount : Nat := 0
  switchCount : Nat := 0
  storageEndpointCount : Nat := 0
  powerDomainCount : Nat := 0
  coolingDomainCount : Nat := 0
  presentMemberCount : Nat := 0
  unavailableMemberCount : Nat := 0
  retiredMemberCount : Nat := 0
  revalidationRequiredMemberCount : Nat := 0
  staleMemberCount : Nat := 0
  relationshipCount : Nat := 0
  failureDomainCount : Nat := 0
  publisherCount : Nat := 0
  activePublisherCount : Nat := 0
  fencedBootCount : Nat := 0
  powerEnvelopeKnown : Bool := false
  coolingEnvelopeKnown : Bool := false
  snapshotCount : Nat := 0
  digest : Str := []

namespace RackSummary

/-- The counts in the order in which the digest covers them. -/
def counts (summary : RackSummary) : List Nat :=
  [summary.memberCount, summary.nodeCount, summary.acceleratorCount, summary.cpuPackageCount,
    summary.memoryDomainCount, summary.nicCount, summary.dpuCount, summary.switchCount,
    summary.storageEndpointCount, summary.powerDomainCount, summary.coolingDomainCount,
    summary.presentMemberCount, summary.unavailableMemberCount, summary.retiredMemberCount,
    summary.revalidationRequiredMemberCount, summary.staleMemberCount, summary.relationshipCount,
    summary.failureDomainCount, summary.publisherCount, summary.activePublisherCount,
    summary.fencedBootCount, summary.snapshotCount]

open WriteOp in
def encode (summary : RackSummary) : List WriteOp :=
  [string ((summary.rack.map (·.value)).getD []),
    string ((summary.rackEpoch.map (·.value)).getD []), enum summary.lifecycle] ++
    encodeGenerationSet summary.generations ++
    summary.counts.map (fun count => u64 (UInt64.ofNat count)) ++
    [boolean summary.powerEnvelopeKnown, boolean summary.coolingEnvelopeKnown]

end RackSummary

namespace RackState

def summaryDigest (state : RackState) (summary : RackSummary) : Str :=
  let writer : ByteWriter := { limits := state.limits, maxBytes := state.limits.maxPayloadBytes }
  Sha256.hash (writer.writeAll summary.encode).buffer

def countMembers (state : RackState) (counted : MemberRecord → Bool) : Nat :=
  (state.memberRecords.filter counted).length

/-- The key of a member carries its kind. -/
def countKind (state : RackState) (kind : MemberKind) : Nat :=
  (state.members.toList.filter fun entry => entry.1.kind = kind).length

def summary (state : RackState) (now : Timestamp) : RackSummary :=
  let lifecycleCount := fun lifecycle => state.countMembers fun record => record.lifecycle = lifecycle
  let counted : RackSummary :=
    { rack := state.rack.map (·.id)
      rackEpoch := state.rack.map (·.epoch)
      lifecycle := state.deriveLifecycle now
      generations := state.generations
      memberCount := state.members.size
      nodeCount := state.countKind .node
      acceleratorCount := state.countKind .accelerator
      cpuPackageCount := state.countKind .cpuPackage
      memoryDomainCount := state.countKind .memoryDomain
      nicCount := state.countKind .nic
      dpuCount := state.countKind .dpu
      switchCount := state.countKind .switch
      storageEndpointCount := state.countKind .storageEndpoint
      powerDomainCount := state.countKind .powerDomain
      coolingDomainCount := state.countKind .coolingDomain
      presentMemberCount := lifecycleCount .present
      unavailableMemberCount := lifecycleCount .unavailable
      retiredMemberCount := lifecycleCount .retired
      revalidationRequiredMemberCount := state.countMembers (·.revalidationRequired)
      staleMemberCount := state.countMembers fun record =>
        isCurrentMember record.lifecycle && record.freshnessAt now ≠ .fresh
      relationshipCount := state.relationships.size
      failureDomainCount := state.failureDomains.size
      publisherCount := state.publishers.size
      activePublisherCount :=
        (state.publishers.toList.filter fun entry => entry.2.state = .active).length
      fencedBootCount := state.fencedBoots.size
      powerEnvelopeKnown := state.power.isSome
      coolingEnvelopeKnown := state.cooling.isSome
      snapshotCount := state.snapshots.size }
  { counted with digest := state.summaryDigest counted }

def explainReadiness (state : RackState) (now : Timestamp) : Explanation :=
  match state.rack with
  | none =>
      .failure (str "RACK_NOT_DECLARED") (str "<none>")
        [factor "RACK_NOT_DECLARED" "no rack identity has been declared in this instance"]
  | some rack =>
      let subject := rack.id.value
      if rack.retired then
        .failure (str "RACK_RETIRED") subject [factor "RACK_RETIRED" "the rack has been retired"]
      else
        let evaluation := state.evaluateReadiness now
        if evaluation.satisfied then
          { Explanation.success (str "RACK_READY") subject with
            factors := [factor "READINESS_CONTRACT_SATISFIED"
              "the configured readiness contract is satisfied under current authority"] }
        else
          .failure (str "RACK_NOT_READY") subject <| evaluation.deficits.map fun deficit =>
            { code := deficit.code, detail := deficit.detail
              expectedGeneration := some (UInt64.ofNat deficit.required)
              currentGeneration := some (UInt64.ofNat deficit.observed) }

/-- A factor that carries a value under its stable name. -/
def stateFactor (code detail : String) (value : Str) : ExplanationFactor :=
  { factor code detail with state := some value }

def explainMember (state : RackState) (now : Timestamp) (key : MemberKey) : Explanation :=
  match state.members[key]? with
  | none =>
      .failure (str "MEMBER_UNKNOWN") key.toStr
        [factor "MEMBER_UNKNOWN" "the member does not exist in the current rack"]
  | some record =>
      let freshness := record.freshnessAt now
      if record.lifecycle = .present ∧ freshness = .fresh then
        { Explanation.success (str "MEMBER_CURRENT") key.toStr with
          factors := [factor "MEMBER_PRESENT" "the member is present with current evidence"] }
      else
        .failure (str "MEMBER_NOT_CURRENT") key.toStr <|
          [stateFactor "MEMBER_LIFECYCLE" "the member lifecycle is not PRESENT"
              record.lifecycle.toStr,
            stateFactor "MEMBER_FRESHNESS" "the member evidence is not current" freshness.toStr,
            stateFactor "MEMBER_PROVENANCE" "the provenance class of the member evidence"
              record.provenance.toStr] ++
          (if record.revalidationRequired then
            [{ code := str "MEMBER_REVALIDATION_REQUIRED"
               detail := str "the member requires revalidation: " ++
                 record.revalidationReason.toStr }]
          else []) ++
          (match record.ownerBoot with
            | none => []
            | some boot =>
                [{ code := str "MEMBER_OWNER"
                   detail := str "owned by boot " ++ boot.value ++
                     if state.fencedBoots.contains boot then str " (fenced)" else [] }]) ++
          [if record.health.hasEvidence then
            stateFactor "MEMBER_HEALTH" "the published health state" record.health.value.toStr
          else factor "MEMBER_HEALTH_UNKNOWN" "no health evidence has been published"]

end RackState

end RackFabric
