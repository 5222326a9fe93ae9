import RackFabric.Model.Authority

/-! Mutation requests and typed outcomes. -/
namespace RackFabric

structure ExplanationFactor where
  code : Str
  detail : Str
  generationName : Option Str := none
  expectedGeneration : Option UInt64 := none
  currentGeneration : Option UInt64 := none
  state : Option Str := none
deriving DecidableEq

structure Explanation where
  ok : Bool := false
  code : Str := []
  subject : Str := []
  factors : List ExplanationFactor := []
deriving DecidableEq

def Explanation.success (code subject : Str) : Explanation :=
  { ok := true, code := code, subject := subject }

def Explanation.failure (code subject : Str) (factors : List ExplanationFactor) : Explanation :=
  { ok := false, code := code, subject := subject, factors := factors }

def factor (code detail : String) : ExplanationFactor :=
  { code := str code, detail := str detail }

def generationFactor {tag : GenerationTag} (code detail name : String)
    (expected current : Generation tag) : ExplanationFactor :=
  { code := str code, detail := str detail, generationName := some (str name)
    expectedGeneration := some expected.value, currentGeneration := some current.value }

inductive MutationOutcome where
  | accepted | noChange | rejectStaleCoordinatorEpoch | rejectStaleWorkerBoot
  | rejectStaleGeneration | rejectNotAuthorized | rejectConflict | rejectInvalidRelationship
  | rejectUnknownParent | rejectRetired | revalidationRequired | rejectInvalidInput
  | rejectLimitExceeded | rejectUnknownRack | rejectNotRegistered | rejectUnknownMember
  | rejectRackRetired | rejectUnsupported
deriving DecidableEq

namespace MutationOutcome

def isAccepted (value : MutationOutcome) : Bool :=
  value = .accepted

def isRejection (value : MutationOutcome) : Bool :=
  !value.isAccepted && value ≠ .noChange && value ≠ .revalidationRequired

theorem ne_accepted {value : MutationOutcome} (h : value.isAccepted = false) :
    value ≠ .accepted := by
  simpa [isAccepted] using h

end MutationOutcome

structure MutationResult where
  outcome : MutationOutcome
  explanation : Explanation
  generationsAfter : GenerationSet
deriving DecidableEq

/-- Why a mutation ends before it commits. Its outcome is never `accepted`, and
`noChange` stands for a request that matches the current state. -/
structure Refusal where
  outcome : MutationOutcome
  code : Str
  subject : Str
  factors : List ExplanationFactor
  not_accepted : outcome ≠ .accepted := by decide
deriving DecidableEq

/-- A rejection whose single factor repeats its code. -/
def Refusal.because (outcome : MutationOutcome) (code : String) (subject : Str) (detail : String)
    (h : outcome.isAccepted = false := by exact Eq.refl false) : Refusal :=
  ⟨outcome, str code, subject, [factor code detail], MutationOutcome.ne_accepted h⟩

/-- A rejection that names an expected and a current generation. -/
def Refusal.generation {tag : GenerationTag} (outcome : MutationOutcome) (code : String)
    (subject : Str) (detail name : String) (expected current : Generation tag)
    (h : outcome.isAccepted = false := by exact Eq.refl false) : Refusal :=
  ⟨outcome, str code, subject, [generationFactor code detail name expected current],
    MutationOutcome.ne_accepted h⟩

def Refusal.unchanged (code : String) (subject : Str) : Refusal :=
  ⟨.noChange, str code, subject, [], by decide⟩

/-- Stops with the refusal when the check holds. -/
def refuseIf (check : Bool) (refusal : Refusal) : Except Refusal Unit :=
  if check then .error refusal else .ok ()

/-- Stops with a refusal built from the error that a validation returns. -/
def refuseSome (error : Option String) (refusal : String → Refusal) : Except Refusal Unit :=
  match error with
  | none => .ok ()
  | some code => .error (refusal code)

/-- Continues with the value, and stops when there is none. -/
def require {α : Type} (value : Option α) (refusal : Refusal) : Except Refusal α :=
  match value with
  | none => .error refusal
  | some value => .ok value

@[simp] theorem refuseIf_bind_eq_ok {α : Type} {check : Bool} {refusal : Refusal}
    {rest : Unit → Except Refusal α} {value : α} :
    (refuseIf check refusal >>= rest) = .ok value ↔ check = false ∧ rest () = .ok value := by
  cases check <;> simp [refuseIf, bind, Except.bind]

@[simp] theorem refuseIf_eq_ok {check : Bool} {refusal : Refusal} {value : Unit} :
    refuseIf check refusal = .ok value ↔ check = false := by
  cases check <;> simp [refuseIf]

@[simp] theorem refuseSome_bind_eq_ok {α : Type} {error : Option String}
    {refusal : String → Refusal} {rest : Unit → Except Refusal α} {value : α} :
    (refuseSome error refusal >>= rest) = .ok value ↔ error = none ∧ rest () = .ok value := by
  cases error <;> simp [refuseSome, bind, Except.bind]

@[simp] theorem refuseSome_eq_ok {error : Option String} {refusal : String → Refusal}
    {value : Unit} : refuseSome error refusal = .ok value ↔ error = none := by
  cases error <;> simp [refuseSome]

@[simp] theorem require_eq_ok {α : Type} {wanted : Option α} {refusal : Refusal} {value : α} :
    require wanted refusal = .ok value ↔ wanted = some value := by
  cases wanted <;> simp [require]

@[simp] theorem require_bind_eq_ok {α β : Type} {wanted : Option α} {refusal : Refusal}
    {rest : α → Except Refusal β} {value : β} :
    (require wanted refusal >>= rest) = .ok value ↔
      ∃ found, wanted = some found ∧ rest found = .ok value := by
  cases wanted <;> simp [require, bind, Except.bind]

@[simp] theorem pure_eq_ok {α : Type} {found value : α} :
    (pure found : Except Refusal α) = .ok value ↔ found = value := by
  simp [pure, Except.pure]

theorem bind_eq_ok {ε α β : Type} {first : Except ε α} {rest : α → Except ε β}
    {value : β} :
    (first >>= rest) = .ok value ↔ ∃ found, first = .ok found ∧ rest found = .ok value := by
  cases first <;> simp [bind, Except.bind]

theorem forM_eq_ok {α : Type} {values : List α} {check : α → Except Refusal Unit} :
    values.forM check = .ok () ↔ ∀ value ∈ values, check value = .ok () := by
  induction values with
  | nil => simp [pure, Except.pure]
  | cons value values ih =>
    change (check value >>= fun _ => values.forM check) = .ok () ↔ _
    rw [List.forall_mem_cons, ← ih, bind_eq_ok]
    exact ⟨fun ⟨(), hvalue, hrest⟩ => ⟨hvalue, hrest⟩, fun ⟨hvalue, hrest⟩ => ⟨(), hvalue, hrest⟩⟩

inductive WithdrawScope where
  | all | health | readiness | reachability | capabilities | details
deriving DecidableEq

structure RegisterPublisherRequest where
  rack : Option RackId := none
  worker : Option WorkerId := none
  boot : Option AgentBootId := none
  coordinatorEpoch : CoordinatorEpoch := {}
  label : Option Str := none

structure DeclareRackRequest where
  authority : AuthorityToken := {}
  epoch : Option RackEpochId := none
  label : Option Str := none
  redeclare : Bool := false

structure PublishMemberRequest where
  authority : AuthorityToken := {}
  record : MemberRecord := {}
  expectedGeneration : Option MemberGeneration := none
  supersede : Bool := false

structure PublishRelationshipRequest where
  authority : AuthorityToken := {}
  record : RelationshipRecord := {}
  expectedGeneration : Option TopologyGeneration := none

structure PublishFailureDomainRequest where
  authority : AuthorityToken := {}
  record : FailureDomainRecord := {}
  expectedGeneration : Option FailureDomainGeneration := none

structure PublishPowerEnvelopeRequest where
  authority : AuthorityToken := {}
  record : PowerEnvelopeRecord := {}
  expectedGeneration : Option PowerEnvelopeGeneration := none

structure PublishCoolingEnvelopeRequest where
  authority : AuthorityToken := {}
  record : CoolingEnvelopeRecord := {}
  expectedGeneration : Option CoolingEnvelopeGeneration := none

structure PublishHealthRequest where
  authority : AuthorityToken := {}
  member : MemberKey := {}
  health : EvidenceValue HealthState := {}
  readiness : EvidenceValue ReadinessState := {}
  publishReadiness : Bool := false
  expectedGeneration : Option MemberGeneration := none

structure PublishCapabilityRequest where
  authority : AuthorityToken := {}
  member : MemberKey := {}
  capability : Option CapabilityRef := none
  expectedGeneration : Option MemberGeneration := none

structure WithdrawEvidenceRequest where
  authority : AuthorityToken := {}
  member : MemberKey := {}
  scope : WithdrawScope := .all
  expectedGeneration : Option MemberGeneration := none

structure WithdrawRelationshipRequest where
  authority : AuthorityToken := {}
  key : RelationshipKey := {}

structure MarkUnavailableRequest where
  authority : AuthorityToken := {}
  member : MemberKey := {}
  reason : RevalidationReason := .ownerProcessLost
  expectedGeneration : Option MemberGeneration := none

structure RetireMemberRequest where
  authority : AuthorityToken := {}
  member : MemberKey := {}
  expectedGeneration : Option MemberGeneration := none

structure RetireRackRequest where
  authority : AuthorityToken := {}

structure RevalidateMembersRequest where
  authority : AuthorityToken := {}
  members : List MemberKey := []
  /-- Revalidate every member that currently requires it. -/
  all : Bool := false

structure FencePublisherRequest where
  coordinatorEpoch : CoordinatorEpoch := {}
  boot : Option AgentBootId := none
  reason : RevalidationReason := .ownerProcessLost

/-- A liveness assertion from a registered publisher. -/
structure HeartbeatRequest where
  authority : AuthorityToken := {}

structure SnapshotRequest where
  authority : AuthorityToken := {}

end RackFabric
