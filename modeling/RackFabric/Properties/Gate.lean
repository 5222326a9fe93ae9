import RackFabric.Model.Invariants
import RackFabric.Properties.Integrity

/-! What the invariant gate reports about the failure domains. -/
namespace RackFabric
open Std SecondaryIndex Reachability Relation RackGraph

def Reported (code : String) (violations : List InvariantViolation) : Prop :=
  ∃ violation ∈ violations, violation.code = str code

section Reported
variable {α : Type} {wanted code : String}

@[simp] theorem reported_append {first second : List InvariantViolation} :
    Reported wanted (first ++ second) ↔ Reported wanted first ∨ Reported wanted second := by
  simp [Reported, or_and_right, exists_or]

@[simp] theorem reported_flatMap {values : List α} {violations : α → List InvariantViolation} :
    Reported wanted (values.flatMap violations) ↔
      ∃ value ∈ values, Reported wanted (violations value) := by
  simp only [Reported, List.mem_flatMap]
  constructor
  · rintro ⟨violation, ⟨value, hvalue, hmem⟩, hcode⟩
    exact ⟨value, hvalue, violation, hmem, hcode⟩
  · rintro ⟨value, hvalue, violation, hmem, hcode⟩
    exact ⟨violation, ⟨value, hvalue, hmem⟩, hcode⟩

theorem reported_violationIf {failed : Bool} {detail : Str} :
    Reported code (violationIf failed code detail) ↔ failed = true := by
  unfold violationIf
  split <;> simp_all [Reported]

theorem not_reported_violationIf {failed : Bool} {detail : Str} (h : str code ≠ str wanted) :
    ¬ Reported wanted (violationIf failed code detail) := by
  unfold violationIf
  split <;> simp [Reported, h]

theorem not_reported_firstViolation {values : List α} {failed : α → Bool} {detail : α → Str}
    (h : str code ≠ str wanted) :
    ¬ Reported wanted (firstViolation values failed code detail) := by
  unfold firstViolation
  split <;> simp [Reported, h]

end Reported

namespace RackState
variable {state : RackState}

def Reports (state : RackState) (now : Timestamp) (code : String) : Prop :=
  Reported code (state.checkInvariants now).violations

/-- Two ways up from one failure domain meet again. -/
def Rejoined (graph : RackGraph) : Prop :=
  ∃ id, Joins graph.parentsOf id

theorem not_reported_members (now : Timestamp) (entries : List (MemberKey × MemberRecord)) :
    ¬ Reported "FAILURE_DOMAIN_CYCLE" (state.memberViolations now entries) := by
  have hidentity : ∀ (key : MemberKey) (record : MemberRecord),
      ¬ Reported "FAILURE_DOMAIN_CYCLE" (identityViolations key record now) := by
    intro key record
    simp (disch := decide +kernel) only [identityViolations, reported_append,
      not_reported_violationIf, or_self, not_false_eq_true]
  have hreference : ∀ (key : MemberKey) (record : MemberRecord),
      ¬ Reported "FAILURE_DOMAIN_CYCLE" (state.referenceViolations key record) := by
    intro key record
    simp (disch := decide +kernel) only [referenceViolations, reported_append, reported_flatMap,
      not_reported_violationIf, and_false, exists_false, or_self, not_false_eq_true]
  induction entries with
  | nil => simp [memberViolations, Reported]
  | cons entry entries ih =>
    obtain ⟨key, record⟩ := entry
    simp only [memberViolations]
    split
    · simp only [reported_append, hidentity, false_or]
      rintro ⟨violation, hmem, hcode⟩
      rw [List.mem_singleton.mp hmem] at hcode
      exact absurd hcode (by decide +kernel)
    · simp [hidentity, hreference, ih]

theorem reports_domain_cycle_iff_walk (now : Timestamp) :
    state.Reports now "FAILURE_DOMAIN_CYCLE" ↔
      ∃ id ∈ state.failureDomains,
        repeatsFrom state.parentsOf state.failureDomains.keys id = true := by
  unfold Reports checkInvariants
  simp (disch := decide +kernel) only [reported_append, not_reported_members, reported_flatMap,
    rackViolations, containmentViolations, relationshipViolations, domainViolations,
    domainCycleViolations, publisherViolations, powerViolations, coolingViolations,
    snapshotViolations, indexMismatch, indexViolations, not_reported_violationIf,
    reported_violationIf, ExtTreeMap.mem_keys, and_false, exists_false, or_false, false_or]
  unfold rackRetirementViolations
  split
  · simp (disch := decide +kernel) only [not_reported_firstViolation, or_false]
  · simp [Reported]

/-- What the walk from some domain meets twice is a cycle, or has two ways to it. -/
theorem reports_domain_cycle_iff (now : Timestamp) :
    state.Reports now "FAILURE_DOMAIN_CYCLE" ↔
      ¬ Acyclic state.DomainEdge ∨ Rejoined state.toRackGraph := by
  have hwalk : ∀ id, repeatsFrom state.parentsOf state.failureDomains.keys id = true ↔
      TransGen state.DomainEdge id id ∨ Joins state.parentsOf id := fun id =>
    repeatsFrom_iff ExtTreeMap.nodup_keys mem_keys_of_parentsOf
  simp only [reports_domain_cycle_iff_walk, hwalk, Acyclic, not_forall, Classical.not_not,
    Rejoined]
  rw [← exists_or]
  refine exists_congr fun id => and_iff_right_of_imp fun hrepeats => ?_
  exact ExtTreeMap.mem_keys.mp (mem_keys_of_parentsOf id (ne_nil_of_repeats hrepeats))

/-- The verdict on the failure domains is exact for the states with a cycle and
for those whose domains never rejoin, and it refuses what a run has accepted
exactly when domains rejoin. -/
theorem domain_cycle_verdict_iff (now : Timestamp) :
    (∀ state : RackState,
      (state.Reports now "FAILURE_DOMAIN_CYCLE" ↔ ¬ Acyclic state.DomainEdge) ↔
        (¬ Acyclic state.DomainEdge ∨ ¬ Rejoined state.toRackGraph)) ∧
    ∀ (options : RackFabricOptions) (inputs : List Input),
      let state := Execution.run (step options) (fresh options) inputs
      ¬ state.Reports now "FAILURE_DOMAIN_CYCLE" ↔ ¬ Rejoined state.toRackGraph := by
  constructor
  · intro state
    rw [reports_domain_cycle_iff]
    by_cases hacyclic : Acyclic state.DomainEdge <;> simp [hacyclic]
  · intro options inputs state
    have hacyclic : Acyclic state.DomainEdge := (wellFormed_run options inputs).domains_acyclic
    simp [reports_domain_cycle_iff, hacyclic]

def failureDomain (name : String) (parents : List String) : Input where
  mutation := .publishFailureDomain
    { authority := Scenario.operator
      record :=
        { id := .ofText (str name), kind := .powerFeed
          parents := parents.map fun parent => .ofText (str parent) } }

/-- A feed with two parents of its own, which share one. -/
def diamondInputs : List Input :=
  [Scenario.declareRack, failureDomain "grid" [], failureDomain "pdu-a" ["grid"],
    failureDomain "pdu-b" ["grid"], failureDomain "feed" ["pdu-a", "pdu-b"]]

theorem diamond_reported_as_cycle :
    ¬ ((Scenario.run diamondInputs).Reports ⟨1000⟩ "FAILURE_DOMAIN_CYCLE" ↔
      ¬ Acyclic (Scenario.run diamondInputs).DomainEdge) := by
  intro h
  have hreported : (Scenario.run diamondInputs).Reports ⟨1000⟩ "FAILURE_DOMAIN_CYCLE" := by
    unfold Reports Reported
    decide +kernel
  exact h.mp hreported (wellFormed_run Scenario.defaults diamondInputs).domains_acyclic

end RackState

end RackFabric
