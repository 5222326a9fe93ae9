import RackFabric.Properties.Revisions

/-! A member is present only on evidence: no mutation leaves it present and takes away
what was published with it. -/
namespace RackFabric
open Std RackGraph RackState

/-- The evidence that a presence rests on: it says where it comes from and when it was
made, and its lifetime is in range. -/
structure Observation.Supports (evidence : Observation) : Prop where
  sourced : evidence.provenance ≠ .unknown
  observed : evidence.observedAt.known = true
  lifetime : 0 ≤ evidence.ttl ∧ evidence.ttl ≤ kMaxTtlMillis
  expires : evidence.durability = .ephemeral → evidence.ttl ≠ 0

theorem Observation.Valid.supports {evidence : Observation} (h : evidence.Valid)
    (hsourced : evidence.provenance ≠ .unknown) : evidence.Supports where
  sourced := hsourced
  observed := h.dated hsourced
  lifetime := by simpa [ttlIsValid] using h.lifetime
  expires := h.expires

def MemberRecord.Evidenced (record : MemberRecord) : Prop :=
  record.lifecycle = .present → record.toObservation.Supports

namespace MemberRecord
variable {options : RackFabricOptions} {record existing : MemberRecord}

theorem Evidenced.of_valid (hvalid : validateMemberRecord record options.limits = none) :
    record.Evidenced := by
  intro hpresent
  simp only [validateMemberRecord, firstError_cons, errorIf_eq_none, validateEvidence_eq_none,
    decide_eq_false_iff_not, not_and] at hvalid
  obtain ⟨-, -, -, -, -, hevidence, hsourced, -⟩ := hvalid
  exact hevidence.supports (hsourced hpresent)

/-- The same evidence, and present only if it was. -/
theorem Evidenced.mono (h : existing.Evidenced)
    (hpresent : record.lifecycle = .present → existing.lifecycle = .present)
    (hprovenance : record.provenance = existing.provenance)
    (hobserved : record.observedAt = existing.observedAt) (hlifetime : record.ttl = existing.ttl)
    (hdurability : record.durability = existing.durability) : record.Evidenced := by
  intro hlater
  have hsupports := h (hpresent hlater)
  exact ⟨hprovenance ▸ hsupports.sourced, hobserved ▸ hsupports.observed,
    hlifetime ▸ hsupports.lifetime, hdurability ▸ hlifetime ▸ hsupports.expires⟩

theorem Evidenced.of_absent (habsent : record.lifecycle ≠ .present) : record.Evidenced :=
  fun hpresent => absurd hpresent habsent

/-- What clears the evidence of a member makes it declared or retired as well. -/
theorem Evidenced.rewrite (hrewrite : existing.Rewrite record) (h : existing.Evidenced) :
    record.Evidenced := by
  cases hrewrite with
  | withdrawn scope =>
    cases scope with
    | all => exact .of_absent (by simp [RackState.withdrawn])
    | _ => exact h.mono id rfl rfl rfl rfl
  | unavailable => exact .of_absent (by simp)
  | retired => exact .of_absent (by simp [retiredRecord])
  | detached parent =>
    unfold RackGraph.detached
    split <;> exact h.mono id rfl rfl rfl rfl
  | _ => exact h.mono id rfl rfl rfl rfl

end MemberRecord

namespace RackState
variable {options : RackFabricOptions} {state : RackState}

def PresenceEvidenced (state : RackState) : Prop :=
  ∀ (key : MemberKey) (record : MemberRecord), state.members[key]? = some record →
    record.Evidenced

theorem evidenced_admitMember {publisher : Option PublisherRef} {request : PublishMemberRequest}
    {record : MemberRecord} (h : admitMember options state publisher request = .ok record) :
    record.Evidenced := by
  obtain ⟨target, owner, -, hrecord⟩ := (memberAdmission h).stored
  have hvalid : request.record.Evidenced := .of_valid (memberAdmission h).valid
  rw [hrecord]
  unfold clearRetired
  split
  · rename_i hretired
    exact .of_absent (by simp [hretired])
  · exact hvalid.mono id rfl rfl rfl rfl

theorem evidenced_admitCapability {publisher : Option PublisherRef}
    {request : PublishCapabilityRequest} {existing record : MemberRecord}
    (h : admitCapability options state publisher request = .ok (existing, record))
    (hexisting : existing.Evidenced) : record.Evidenced := by
  obtain ⟨-, -, requested, -, hrecord⟩ := admitCapability_ok h
  rw [hrecord]
  exact hexisting.mono id rfl rfl rfl rfl

theorem presenceEvidenced_step (hkeyed : state.Keyed) (h : state.PresenceEvidenced)
    (input : Input) : (state.step options input).PresenceEvidenced :=
  (membersChange hkeyed (perform_transition state input)).forall .rewrite
    (fun _ _ hadmitted => evidenced_admitMember hadmitted)
    (fun _ hadmitted => evidenced_admitCapability hadmitted) h

/-- In every state of every run the members that are present have the evidence for it. -/
theorem presence_rests_on_evidence (options : RackFabricOptions) (inputs : List Input) :
    (Execution.run (step options) (fresh options) inputs).PresenceEvidenced := by
  induction inputs using List.reverseRecOn with
  | nil =>
    intro key record hfound
    simp [fresh] at hfound
  | append_singleton inputs input ih =>
    rw [Execution.run_concat]
    exact presenceEvidenced_step (wellFormed_run options inputs).toKeyed ih input

end RackState

end RackFabric
