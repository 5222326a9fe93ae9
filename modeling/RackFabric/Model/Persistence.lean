import RackFabric.Model.Invariants
import RackFabric.Model.Payload

/-! The state file: its container, what a save writes, and how a load restores
a rack. A candidate is validated completely before it takes effect. -/
namespace RackFabric
open Std

inductive PersistenceStatus where
  | notFound | ioError | corrupt | truncated | unsupportedVersion | trailingGarbage
  | integrityFailure | limitExceeded | invalidState | refused
deriving DecidableEq

/-- Why a state was not saved or not restored. -/
structure PersistenceFailure where
  status : PersistenceStatus
  code : Str
  detail : Str
deriving DecidableEq

def persistenceFailure (status : PersistenceStatus) (code : String) (detail : Str) :
    PersistenceFailure :=
  ⟨status, str code, detail⟩

def kFileMagic : Bytes := str "RKFSTAT1"

def kTrailerMagic : Bytes := str "RKFE"

def kHeaderBytes : Nat := 72

def kTrailerBytes : Nat := 8

def kPersistenceFormatVersion : Nat := 1

/-! Writing. -/

def fileHeader (payload : Bytes) : Bytes :=
  kFileMagic ++ LittleEndian.encode 4 kPersistenceFormatVersion ++ LittleEndian.encode 4 0 ++
    LittleEndian.encode 8 payload.length ++ LittleEndian.encode 8 (crc32c payload).toNat ++
    LittleEndian.encode 8 0 ++ fromHex (Sha256.hash payload)

/-- The bytes of the file that holds the payload. -/
def encodeFile (payload : Bytes) : Bytes :=
  fileHeader payload ++ payload ++ kTrailerMagic ++
    LittleEndian.encode 4 (crc32c (fileHeader payload ++ payload)).toNat

structure PersistenceOptions where
  atomicReplace : Bool := true
  maxBytes : UInt64 := 512 * 1024 * 1024

/-- The bytes that `save_state` writes. -/
def saveState (state : RackState) (limits : ResourceLimits) (options : PersistenceOptions) :
    Except PersistenceFailure Bytes :=
  match encodeStatePayload state with
  | .error error =>
      .error (persistenceFailure .limitExceeded "PAYLOAD_TOO_LARGE"
        (str "the state cannot be encoded within the configured bounds: " ++ error.toStr))
  | .ok payload =>
      if payload.length > (min options.maxBytes limits.maxPersistedBytes).toNat then
        .error (persistenceFailure .limitExceeded "PAYLOAD_TOO_LARGE"
          (str "the encoded state exceeds the configured bound"))
      else .ok (encodeFile payload)

/-- How far the write of a file comes. -/
inductive WriteOutcome where
  | completed
  /-- The destination cannot be opened. -/
  | unopened
  /-- The write fails or the process stops: a part of the file is left, or nothing. -/
  | interrupted (left : Option Nat)

/-- An atomic write goes to a file of its own, which replaces the target at the end. -/
def writeFile (file : Option Bytes) (bytes : Bytes) (atomicReplace : Bool) :
    WriteOutcome → Option Bytes
  | .completed => some bytes
  | .unopened => file
  | .interrupted left => if atomicReplace then file else left.map bytes.take

/-! Reading. -/

/-- `file` is nothing when there is no file, and an unreadable one has no bytes. -/
def readFile (file : Option Bytes) (readable : Bool) (maxBytes : UInt64) :
    Except (PersistenceStatus × Str) Bytes :=
  match file with
  | none => .error (.notFound, str "file does not exist")
  | some bytes =>
      if bytes.length > maxBytes.toNat then
        .error (.limitExceeded, str "file exceeds the configured maximum size")
      else if !readable then .error (.ioError, str "cannot open file for reading")
      else .ok bytes

def failFileIf (check : Bool) (status : PersistenceStatus) (detail : String) :
    Except (PersistenceStatus × Str) Unit :=
  if check then .error (status, str detail) else .ok ()

def loadAt (data : Bytes) (offset width : Nat) : Nat :=
  LittleEndian.decode ((data.drop offset).take width)

def loadU32 (data : Bytes) (offset : Nat) : Nat := loadAt data offset 4

def loadU64 (data : Bytes) (offset : Nat) : Nat := loadAt data offset 8

/-- The payload of a file, after every check of its container. -/
def parseFile (data : Bytes) (maxPersistedBytes : UInt64) :
    Except (PersistenceStatus × Str) Bytes := do
  failFileIf (data.length < kHeaderBytes + kTrailerBytes) .truncated
    "file is shorter than the minimum encoded length"
  failFileIf (data.take 8 ≠ kFileMagic) .corrupt "bad file magic"
  failFileIf (loadU32 data 8 ≠ kPersistenceFormatVersion) .unsupportedVersion
    "unsupported persistence format version"
  failFileIf (loadU32 data 12 ≠ 0) .corrupt "reserved header flags are set"
  let payloadLength := loadU64 data 16
  let payloadCrc := loadU64 data 24
  failFileIf (loadU64 data 32 ≠ 0) .corrupt "reserved header field is set"
  failFileIf (payloadLength > maxPersistedBytes.toNat) .limitExceeded
    "declared payload length exceeds the configured bound"
  let expected := (kHeaderBytes + payloadLength + kTrailerBytes) % 2 ^ 64
  failFileIf (data.length > expected) .trailingGarbage "file is longer than its declared payload"
  failFileIf (data.length < expected) .truncated "file is shorter than its declared payload"
  let payload := (data.drop kHeaderBytes).take payloadLength
  let trailer := data.drop (kHeaderBytes + payloadLength)
  failFileIf (trailer.take 4 ≠ kTrailerMagic) .corrupt "bad trailer magic"
  failFileIf (loadU32 trailer 4 ≠ (crc32c (data.take (kHeaderBytes + payloadLength))).toNat)
    .integrityFailure "trailer checksum does not match"
  failFileIf ((crc32c payload).toNat ≠ payloadCrc) .integrityFailure
    "payload checksum does not match"
  failFileIf (Sha256.hash payload ≠ toHex ((data.drop 40).take 32)) .integrityFailure
    "payload digest does not match"
  return payload

/-- The payload of the file at a path. -/
def parsePath (file : Option Bytes) (readable : Bool) (maxPersistedBytes : UInt64) :
    Except (PersistenceStatus × Str) Bytes := do
  let data ← readFile file readable maxPersistedBytes
  parseFile data maxPersistedBytes

/-- The status of an error of the payload decoder. -/
def decodeStatus (error : Str) : PersistenceStatus :=
  if error = str "TRAILING_DATA" then .trailingGarbage
  else if error = str "TRUNCATED" then .truncated
  else .corrupt

/-- A decoded state under the options of this instance, with its indexes. -/
def adoptCandidate (options : RackFabricOptions) (decoded : RackState) : RackState :=
  { decoded with
    toRackGraph := decoded.rebuildIndexes
    limits := options.limits
    contract := options.readiness }

/-- The candidate that a file holds. -/
def readCandidate (options : RackFabricOptions) (file : Option Bytes) (readable : Bool) :
    Except PersistenceFailure RackState := do
  let payload ← match readFile file readable options.limits.maxPersistedBytes with
    | .error (status, detail) => .error (persistenceFailure status "LOAD_FAILED" detail)
    | .ok data => match parseFile data options.limits.maxPersistedBytes with
      | .error (status, detail) => .error (persistenceFailure status "LOAD_FAILED" detail)
      | .ok payload => .ok payload
  match decodeStatePayload payload options.limits with
  | .error error => .error (persistenceFailure (decodeStatus error) "DECODE_FAILED" error)
  | .ok decoded => return adoptCandidate options decoded

def InvariantReport.render (report : InvariantReport) : Str :=
  str (if report.ok then "INVARIANTS_OK" else "INVARIANTS_VIOLATED") ++ str " checks=" ++
    decimal report.checksRun ++ str " violations=" ++ decimal report.violations.length ++
    report.violations.flatMap fun violation =>
      str "\n  - " ++ violation.code ++ str ": " ++ violation.detail

/-! The recovery policy: no recovered observation is a current one. -/

/-- Evidence of a process incarnation, and ephemeral evidence, must be published again. -/
def mustBeEarned (durability : Durability) (ownerBoot : Option AgentBootId) : Bool :=
  durability = .ephemeral ∨ ownerBoot.isSome

def recoverEvidence {α : Type} [Inhabited α] (evidence : EvidenceValue α) : EvidenceValue α :=
  if evidence.durability = .ephemeral then {} else evidence

def recoverMember (record : MemberRecord) : MemberRecord :=
  let flagged :=
    if mustBeEarned record.durability record.ownerBoot then
      { record with
        revalidationRequired := true, revalidationReason := .coordinatorRestarted }
    else record
  { flagged with
    ownerBoot := none
    ownerWorker := none
    health := recoverEvidence record.health
    readiness := recoverEvidence record.readiness
    reachability := recoverEvidence record.reachability
    capabilities := record.capabilities.map fun capability =>
      if capability.durability = .ephemeral then { capability with revalidationRequired := true }
      else capability }

def recoverRelationship (record : RelationshipRecord) : RelationshipRecord :=
  { record with
    revalidationRequired :=
      mustBeEarned record.durability record.ownerBoot || record.revalidationRequired
    ownerBoot := none
    ownerWorker := none }

def recoverFailureDomain (record : FailureDomainRecord) : FailureDomainRecord :=
  { record with
    revalidationRequired :=
      mustBeEarned record.durability record.ownerBoot || record.revalidationRequired
    ownerBoot := none
    ownerWorker := none }

def recoverPower (record : PowerEnvelopeRecord) : PowerEnvelopeRecord :=
  let flagged :=
    { record with
      revalidationRequired :=
        mustBeEarned record.durability record.ownerBoot || record.revalidationRequired
      ownerBoot := none
      ownerWorker := none }
  if record.durability = .ephemeral then
    { flagged with
      rackObservedDraw := none
      rackHeadroom := none
      domainBudgets := record.domainBudgets.map fun budget =>
        { budget with observedDraw := none, headroom := none } }
  else flagged

def recoverCooling (record : CoolingEnvelopeRecord) : CoolingEnvelopeRecord :=
  let flagged :=
    { record with
      revalidationRequired :=
        mustBeEarned record.durability record.ownerBoot || record.revalidationRequired
      ownerBoot := none
      ownerWorker := none }
  if record.durability = .ephemeral then
    { flagged with
      zones := record.zones.map fun zone =>
        { zone with observedTemperature := none, thermalHeadroom := none, throttling := none } }
  else flagged

def applyRecoveryPolicy (state : RackState) (epoch : CoordinatorEpoch) : RackState :=
  let recovered :=
    { state.toRackGraph with
      members := state.members.map fun _ => recoverMember
      relationships := state.relationships.map fun _ => recoverRelationship
      failureDomains := state.failureDomains.map fun _ => recoverFailureDomain }
  { state with
    toRackGraph := recovered.rebuildIndexes
    publishers := state.publishers.map fun _ publisher => { publisher with state := .lost }
    power := state.power.map recoverPower
    cooling := state.cooling.map recoverCooling
    generations := { state.generations with coordinatorEpoch := epoch } }

/-- The state that takes effect. The next epoch follows that of the file. -/
def loadState (options : RackFabricOptions) (now : Timestamp) (file : Option Bytes)
    (readable : Bool) : Except PersistenceFailure RackState := do
  let candidate ← readCandidate options file readable
  let report := candidate.checkInvariants now
  if !report.ok then
    .error (persistenceFailure .invalidState "CANDIDATE_INVARIANT_VIOLATION" report.render)
  else match candidate.generations.coordinatorEpoch.advance with
    | none =>
        .error (persistenceFailure .invalidState "EPOCH_EXHAUSTED"
          (str "the persisted coordinator epoch cannot be advanced"))
    | some epoch => .ok (applyRecoveryPolicy candidate epoch)

end RackFabric
