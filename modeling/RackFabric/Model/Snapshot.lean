import RackFabric.Model.Administer

/-! Validation of a published snapshot against the state it is held to describe. -/
namespace RackFabric

inductive SnapshotValidationStatus where
  | current | stale | unknownRack | invalid
deriving DecidableEq

structure SnapshotValidation where
  status : SnapshotValidationStatus := .invalid
  explanation : Explanation := {}
deriving DecidableEq

/-- One factor, when the snapshot binds another generation than the current one. -/
def staleGeneration {tag : GenerationTag} (name : String) (bound current : Generation tag) :
    List ExplanationFactor :=
  if bound = current then []
  else
    [generationFactor "SNAPSHOT_STALE_GENERATION"
      "the snapshot binds a generation that is no longer current" name bound current]

def staleGenerations (bound current : GenerationSet) : List ExplanationFactor :=
  staleGeneration "rack_generation" bound.rack current.rack ++
  staleGeneration "membership_generation" bound.membership current.membership ++
  staleGeneration "topology_generation" bound.topology current.topology ++
  staleGeneration "failure_domain_generation" bound.failureDomains current.failureDomains ++
  staleGeneration "constraint_generation" bound.constraints current.constraints ++
  staleGeneration "power_envelope_generation" bound.power current.power ++
  staleGeneration "cooling_envelope_generation" bound.cooling current.cooling ++
  staleGeneration "health_generation" bound.health current.health ++
  staleGeneration "capability_generation" bound.capabilities current.capabilities ++
  staleGeneration "coordinator_epoch" bound.coordinatorEpoch current.coordinatorEpoch

theorem staleGeneration_eq_nil {tag : GenerationTag} {name : String}
    {bound current : Generation tag} : staleGeneration name bound current = [] ↔ bound = current := by
  simp [staleGeneration]

theorem staleGenerations_eq_nil {bound current : GenerationSet} :
    staleGenerations bound current = [] ↔ bound = current := by
  cases bound
  cases current
  simp [staleGenerations, staleGeneration_eq_nil]

namespace RackState

def validateSnapshot (state : RackState) (snapshot : RackSnapshot) : SnapshotValidation :=
  let subject := snapshot.id.value
  let because := fun code factors => Explanation.failure (str code) subject factors
  let unknown : SnapshotValidation :=
    ⟨.unknownRack, because "SNAPSHOT_UNKNOWN_RACK" [factor "SNAPSHOT_UNKNOWN_RACK"
      "the snapshot describes a rack that this instance does not describe"]⟩
  if computeSnapshotDigest snapshot state.limits ≠ snapshot.digest then
    ⟨.invalid, because "SNAPSHOT_DIGEST_MISMATCH" [factor "SNAPSHOT_DIGEST_MISMATCH"
      "the snapshot content does not match its recorded digest"]⟩
  else
    match state.rack with
    | none => unknown
    | some rack =>
        if rack.id ≠ snapshot.rack then unknown
        else
          let factors := staleGenerations snapshot.generations state.generations ++
            if rack.epoch = snapshot.rackEpoch then []
            else [factor "SNAPSHOT_RACK_EPOCH_CHANGED"
              "the rack incarnation has changed since the snapshot was produced"]
          if factors.isEmpty then ⟨.current, .success (str "SNAPSHOT_CURRENT") subject⟩
          else ⟨.stale, because "SNAPSHOT_STALE" factors⟩

/-- A current snapshot carries its own digest and binds the generations and the
incarnation of the rack. -/
theorem validateSnapshot_current_iff (state : RackState) (snapshot : RackSnapshot) :
    (state.validateSnapshot snapshot).status = .current ↔
      computeSnapshotDigest snapshot state.limits = snapshot.digest ∧
        snapshot.generations = state.generations ∧
        ∃ rack, state.rack = some rack ∧ rack.id = snapshot.rack ∧
          rack.epoch = snapshot.rackEpoch := by
  unfold validateSnapshot
  by_cases hdigest : computeSnapshotDigest snapshot state.limits = snapshot.digest
  · cases hrack : state.rack with
    | none => simp [hdigest]
    | some rack =>
      by_cases hid : rack.id = snapshot.rack
      · by_cases hepoch : rack.epoch = snapshot.rackEpoch
        · by_cases hbound : snapshot.generations = state.generations <;>
            simp [hdigest, hid, hepoch, hbound, staleGenerations_eq_nil]
        · simp [hdigest, hid, hepoch]
      · simp [hdigest, hid]
  · simp [hdigest]

end RackState

end RackFabric
