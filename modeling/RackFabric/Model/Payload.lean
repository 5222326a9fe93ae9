import RackFabric.Model.Crypto
import RackFabric.Model.Decode
import RackFabric.Model.State

/-! The payload of the state file: every canonical record, no index. -/
namespace RackFabric
open Std Enumeration ByteReader

section Encode
open WriteOp

def encodeRackRecord (rack : RackRecord) : List WriteOp :=
  [string rack.id.value, string rack.epoch.value, generation rack.generation,
    boolean rack.retired] ++
    optionalString rack.label ++ [timestamp rack.declaredAt]

def encodePublisher (publisher : PublisherRecord) : List WriteOp :=
  [string publisher.worker.value, string publisher.boot.value,
    generation publisher.coordinatorEpoch,
    generation publisher.publicationGeneration, enum publisher.state,
    timestamp publisher.registeredAt, timestamp publisher.lastSeenAt,
    i64 publisher.leaseMillis] ++
    optionalString publisher.label ++
    [u64 publisher.acceptedMutations, u64 publisher.rejectedMutations]

def encodeFencedBoot (fenced : FencedBootRecord) : List WriteOp :=
  string fenced.boot.value :: (optionalId fenced.worker ++
    [generation fenced.fencedUnderEpoch, timestamp fenced.fencedAt,
      enum fenced.reason])

/-- The records of a table, in the order of their keys. -/
def encodeTable {κ ρ : Type} [Ord κ] [TransOrd κ] (maximum : ResourceLimits → Nat)
    (write : ρ → List WriteOp) (table : ExtTreeMap κ ρ) : List WriteOp :=
  many maximum write (table.toList.map Prod.snd)

def encodeState (state : RackState) : List WriteOp :=
  optional encodeRackRecord state.rack ++ encodeGenerationSet state.generations ++
    [generation state.snapshotGeneration,
      generation state.operatorPublicationGeneration] ++
    encodeTable (·.maxMembers) encodeMember state.members ++
    encodeTable (·.maxRelationships) encodeRelationship state.relationships ++
    encodeTable (·.maxFailureDomains) encodeFailureDomain state.failureDomains ++
    optional encodePowerEnvelope state.power ++
    optional encodeCoolingEnvelope state.cooling ++
    encodeTable (·.maxMembers) encodePublisher state.publishers ++
    encodeTable (·.maxFencedBoots) encodeFencedBoot state.fencedBoots ++
    encodeTable (·.maxRetainedSnapshots) encodeSnapshot state.snapshots

/-- The payload is bounded by the persistence limit, not by that of a frame. -/
def encodeStatePayload (state : RackState) : Except CodecError Bytes :=
  let writer : ByteWriter :=
    { limits := state.limits, maxBytes := state.limits.maxPersistedBytes.toNat }
  let written := writer.writeAll (encodeState state)
  match written.failure with
  | none => .ok written.buffer
  | some error => .error error

end Encode

section Decode
open Decoder

def refuse {α : Type} (error : String) : Decoder α := Reader.fail (str error)

/-- Any flag but one means that no rack has been declared. -/
def decodeRack : Decoder (Option RackRecord) := do
  if (← u8) = 1 then
    let idText ← string
    let epochText ← string
    let id ← parsed idText
    let epoch ← parsed epochText
    let generation ← generation
    let retired ← boolean
    let label ← optional string
    let declaredAt ← timestamp
    return some { id, epoch, generation, retired, label, declaredAt }
  else return none

def decodePublisher : Decoder PublisherRecord := do
  let workerText ← string
  let bootText ← string
  let worker ← parsed workerText
  let boot ← parsed bootText
  let coordinatorEpoch ← generation
  let publicationGeneration ← generation
  let state ← enum8
  let registeredAt ← timestamp
  let lastSeenAt ← timestamp
  let leaseMillis ← i64
  let label ← optional string
  let acceptedMutations ← u64
  let rejectedMutations ← u64
  return { worker, boot, coordinatorEpoch, publicationGeneration, state, registeredAt,
           lastSeenAt, leaseMillis, label, acceptedMutations, rejectedMutations }

/-- A worker text that cannot be read is empty here, and no identity. -/
def decodeFencedWorker : Decoder WorkerId := fun limits input =>
  match string limits input with
  | .ok (text, rest) => parsed text limits rest
  | .error _ => .error CodecError.invalidIdentity.toStr

def decodeFencedBoot : Decoder FencedBootRecord := do
  let boot ← identity
  let worker ← optional decodeFencedWorker
  let fencedUnderEpoch ← generation
  let fencedAt ← timestamp
  let reason ← enum8
  return { boot, worker, fencedUnderEpoch, fencedAt, reason }

/-- The identities are parsed after the texts; the digest is derived again. -/
def decodeSnapshot : Decoder RackSnapshot := do
  let limits ← Reader.config
  let idText ← string
  let snapshotGeneration ← generation
  let publicationGeneration ← generation
  let createdAt ← timestamp
  let rackText ← string
  let epochText ← string
  let id ← parsed idText
  let rack ← parsed rackText
  let rackEpoch ← parsed epochText
  let generations ← decodeGenerationSet
  let lifecycle ← enum8
  let members ← many (·.maxMembers) decodeMember
  let relationships ← many (·.maxRelationships) decodeRelationship
  let failureDomains ← many (·.maxFailureDomains) decodeFailureDomain
  let powerEnvelope ← optional decodePowerEnvelope
  let coolingEnvelope ← optional decodeCoolingEnvelope
  let built : RackSnapshot :=
    { id, generation := snapshotGeneration, publicationGeneration, createdAt, rack, rackEpoch,
      generations, lifecycle, members, relationships, failureDomains, powerEnvelope,
      coolingEnvelope }
  return { built with digest := computeSnapshotDigest built limits }

section Tables
variable {κ ρ : Type} [Ord κ] [TransOrd κ]

/-- A table whose keys are distinct; a record that repeats one is refused. -/
def decodeDistinct (read : Decoder ρ) (keyOf : ρ → κ) (duplicate : String) :
    Nat → ExtTreeMap κ ρ → Decoder (ExtTreeMap κ ρ)
  | 0, table => return table
  | remaining + 1, table => do
      let record ← read
      if table.contains (keyOf record) then refuse duplicate
      else decodeDistinct read keyOf duplicate remaining (table.insert (keyOf record) record)

/-- A table in which the first record of a key stays. -/
def decodeFirst (read : Decoder ρ) (keyOf : ρ → κ) :
    Nat → ExtTreeMap κ ρ → Decoder (ExtTreeMap κ ρ)
  | 0, table => return table
  | remaining + 1, table => do
      let record ← read
      decodeFirst read keyOf remaining (table.insertIfNew (keyOf record) record)

/-- A count that is checked against a bound of its own once more, and a table
filled with as many records. -/
def decodeTable (maximum bound : ResourceLimits → Nat) (exceeded : String)
    (fill : Nat → ExtTreeMap κ ρ → Decoder (ExtTreeMap κ ρ)) : Decoder (ExtTreeMap κ ρ) := do
  let value ← count maximum
  let limits ← Reader.config
  if value > bound limits then refuse exceeded else fill value ∅

end Tables

/-- `max_connections * 16U`, a `std::size_t` product. -/
def publisherBound (limits : ResourceLimits) : Nat := limits.maxConnections * 16 % 2 ^ 64

def decodeState : Decoder RackState := do
  let limits ← Reader.config
  let rack ← decodeRack
  let generations ← decodeGenerationSet
  let snapshotGeneration ← generation
  let operatorPublicationGeneration ← generation
  let members ← decodeTable (·.maxMembers) (·.maxMembers) "MEMBER_LIMIT_EXCEEDED"
    (decodeDistinct decodeMember (·.key) "DUPLICATE_MEMBER_IDENTITY")
  let relationships ← decodeTable (·.maxRelationships) (·.maxRelationships)
    "RELATIONSHIP_LIMIT_EXCEEDED"
    (decodeDistinct decodeRelationship (·.key) "DUPLICATE_RELATIONSHIP_IDENTITY")
  let failureDomains ← decodeTable (·.maxFailureDomains) (·.maxFailureDomains)
    "FAILURE_DOMAIN_LIMIT_EXCEEDED"
    (decodeDistinct decodeFailureDomain (·.id) "DUPLICATE_FAILURE_DOMAIN_IDENTITY")
  let power ← optional decodePowerEnvelope
  let cooling ← optional decodeCoolingEnvelope
  let publishers ← decodeTable (·.maxMembers) publisherBound "PUBLISHER_LIMIT_EXCEEDED"
    (decodeFirst decodePublisher (·.boot))
  let fencedBoots ← decodeTable (·.maxFencedBoots) (·.maxFencedBoots) "FENCED_BOOT_LIMIT_EXCEEDED"
    (decodeFirst decodeFencedBoot (·.boot))
  let snapshots ← decodeTable (·.maxRetainedSnapshots) (·.maxRetainedSnapshots)
    "SNAPSHOT_LIMIT_EXCEEDED"
    (decodeDistinct decodeSnapshot (·.generation) "DUPLICATE_SNAPSHOT_GENERATION")
  return { members, relationships, failureDomains, rack, power, cooling, publishers, fencedBoots,
           snapshots, generations, snapshotGeneration, operatorPublicationGeneration, limits }

def decodeStatePayload (data : Bytes) (limits : ResourceLimits) : Except Str RackState :=
  match decodeState limits data with
  | .error error => .error error
  | .ok (state, []) => .ok state
  | .ok (_, _ :: _) => .error CodecError.trailingData.toStr

end Decode

end RackFabric
