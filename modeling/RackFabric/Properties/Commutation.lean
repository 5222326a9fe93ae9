import RackFabric.Properties.Growth
import RackFabric.Properties.Integrity

/-! Publications of two processes about two members do not depend on the order in
which they arrive. -/
namespace RackFabric
open Std SecondaryIndex Tables RackGraph RackState

/-- The five mutations that a process makes to one member. -/
inductive MemberRequest where
  | publish (request : PublishMemberRequest)
  | health (request : PublishHealthRequest)
  | capability (request : PublishCapabilityRequest)
  | withdraw (request : WithdrawEvidenceRequest)
  | unavailable (request : MarkUnavailableRequest)

namespace MemberRequest

def token : MemberRequest → AuthorityToken
  | .publish request => request.authority
  | .health request => request.authority
  | .capability request => request.authority
  | .withdraw request => request.authority
  | .unavailable request => request.authority

def member : MemberRequest → MemberKey
  | .publish request => request.record.key
  | .health request => request.member
  | .capability request => request.member
  | .withdraw request => request.member
  | .unavailable request => request.member

def mutation : MemberRequest → Mutation
  | .publish request => .publishMember request
  | .health request => .publishHealth request
  | .capability request => .publishCapability request
  | .withdraw request => .withdrawEvidence request
  | .unavailable request => .markUnavailable request

def execute (options : RackFabricOptions) (state : RackState) :
    MemberRequest → RackState × MutationResult
  | .publish request => publishMember options state request
  | .health request => state.publishHealth request
  | .capability request => publishCapability options state request
  | .withdraw request => state.withdrawEvidence request
  | .unavailable request => state.markUnavailable request

def Names (key : MemberKey) : MemberRequest → Prop
  | .publish request =>
      request.record.parent = some key ∨
        (∃ id ∈ request.record.powerDomain, key = .ofId .powerDomain id) ∨
        (∃ id ∈ request.record.coolingDomain, key = .ofId .coolingDomain id) ∨
        ∃ id ∈ request.record.switchDomain, key = .ofId .switch id
  | _ => False

def KeepsParent (state : RackState) : MemberRequest → Prop
  | .publish request =>
      ∀ existing, state.members[request.record.key]? = some existing →
        request.record.parent = existing.parent
  | _ => True

/-- A request is the step of the runtime for its mutation. -/
theorem perform_mutation (options : RackFabricOptions) (state : RackState) (now : Timestamp)
    (request : MemberRequest) :
    state.perform options ⟨now, request.mutation⟩ =
      ((request.execute options state).1, some (request.execute options state).2.outcome) := by
  cases request <;> rfl

/-! What a request decides, and what it then does to the state. -/

def admitRequest (options : RackFabricOptions) (state : RackState) (publisher : Option PublisherRef) :
    MemberRequest → Except Refusal (MemberRecord × String)
  | .publish request => do
      let record ← admitMember options state publisher request
      return (record,
        if state.members.contains record.key then "MEMBER_UPDATED" else "MEMBER_ADDED")
  | .health request => do
      let revision ← admitHealth state publisher request
      return (revision.2, "HEALTH_PUBLISHED")
  | .capability request => do
      let revision ← admitCapability options state publisher request
      return (revision.2, "CAPABILITY_PUBLISHED")
  | .withdraw request => do
      let revision ← admitWithdrawal state publisher request
      return (revision.2, "EVIDENCE_WITHDRAWN")
  | .unavailable request => do
      let revision ← admitUnavailable state request
      return (revision.2, "MEMBER_UNAVAILABLE")

def advance (generations : GenerationSet) : MemberRequest → GenerationSet
  | .publish _ =>
      { generations with
        membership := generations.membership.bump
        health := if generations.health.isSet then generations.health else .first
        capabilities :=
          if generations.capabilities.isSet then generations.capabilities else .first }
  | .health _ => { generations with health := generations.health.bump }
  | .capability _ => { generations with capabilities := generations.capabilities.bump }
  | .withdraw _ | .unavailable _ =>
      { generations with membership := generations.membership.bump }

def store (state : RackState) (record : MemberRecord) (request : MemberRequest) : RackState :=
  { state with
    toRackGraph := state.toRackGraph.enroll record
    generations := request.advance state.generations }

end MemberRequest

namespace RackState

def markPublisher (state : RackState) (boot : AgentBootId)
    (mark : PublisherRecord → PublisherRecord) : RackState :=
  { state with publishers := state.publishers.modify boot mark }

@[simp] theorem markPublisher_id (state : RackState) (boot : AgentBootId) :
    state.markPublisher boot id = state := by
  simp [markPublisher]

def markAccepted (record : PublisherRecord) : PublisherRecord :=
  { record with
    publicationGeneration := record.publicationGeneration.next.getD record.publicationGeneration
    state := .active
    acceptedMutations := record.acceptedMutations + 1 }

def markRefused (refusal : Refusal) (record : PublisherRecord) : PublisherRecord :=
  if refusal.outcome = .noChange then record
  else { record with rejectedMutations := record.rejectedMutations + 1 }

theorem advancePublication_eq (state : RackState) (publisher : PublisherRef) :
    state.advancePublication (some publisher) = state.markPublisher publisher.boot markAccepted :=
  rfl

theorem noteRefusal_eq (state : RackState) (publisher : PublisherRef) (refusal : Refusal) :
    state.noteRefusal (some publisher) refusal =
      state.markPublisher publisher.boot (markRefused refusal) := by
  simp only [noteRefusal]
  split
  · rename_i hunchanged
    have hid : markRefused refusal = id := by
      funext record
      simp [markRefused, hunchanged]
    rw [hid, markPublisher_id]
  · rename_i hchanged
    have hmark : markRefused refusal = fun record =>
        { record with rejectedMutations := record.rejectedMutations + 1 } := by
      funext record
      simp [markRefused, hchanged]
    rw [hmark]
    rfl

end RackState

/-- What a request comes to: a revision of its publisher, the record it stores, and
the answer. -/
structure Decision where
  mark : PublisherRecord → PublisherRecord
  stored : Option MemberRecord
  outcome : MutationOutcome
  explanation : Explanation

namespace Decision

def refused (mark : PublisherRecord → PublisherRecord) (refusal : Refusal) : Decision where
  mark := mark
  stored := none
  outcome := refusal.outcome
  explanation := ⟨refusal.outcome = .accepted, refusal.code, refusal.subject, refusal.factors⟩

def accepted (record : MemberRecord) (code : String) (subject : Str) : Decision where
  mark := markAccepted
  stored := some record
  outcome := .accepted
  explanation := ⟨true, str code, subject, []⟩

end Decision

namespace MemberRequest
variable {options : RackFabricOptions} {state : RackState} {request : MemberRequest}

def decision (options : RackFabricOptions) (request : MemberRequest) (state : RackState) :
    Decision :=
  match state.checkAuthority request.token true with
  | .error refusal => .refused id refusal
  | .ok publisher =>
      match request.admitRequest options state publisher with
      | .error refusal => .refused (markRefused refusal) refusal
      | .ok (record, code) => .accepted record code request.member.toStr

def apply (boot : AgentBootId) (request : MemberRequest) (decision : Decision)
    (state : RackState) : RackState :=
  (match decision.stored with
    | none => state
    | some record => request.store state record).markPublisher boot decision.mark

def operation (options : RackFabricOptions) (boot : AgentBootId) (request : MemberRequest) :
    Execution.Operation RackState Decision where
  choose := request.decision options
  act := request.apply boot

/-- A revision stores the record over the one of its key. -/
theorem reviseMember_eq {existing record : MemberRecord} {member : MemberKey}
    (h : state.Revision member existing record) :
    state.reviseMember existing record =
      { state with toRackGraph := state.toRackGraph.enroll record } := by
  unfold reviseMember enroll
  rw [h.key, h.found]

theorem bind_congr_ok {α β : Type} {check : Except Refusal α} {rest rest' : α → Except Refusal β}
    (h : ∀ value, check = .ok value → rest value = rest' value) :
    (check >>= rest) = check >>= rest' := by
  cases hcheck : check with
  | error refusal => rfl
  | ok value => exact h value hcheck

theorem execute_eq_underAuthority (hkeyed : state.Keyed) (request : MemberRequest) :
    request.execute options state =
      state.underAuthority request.token fun publisher => do
        let admitted ← request.admitRequest options state publisher
        return (request.store state admitted.1, admitted.2, request.member.toStr) := by
  cases request with
  | publish request =>
    simp only [execute, publishMember, token, admitRequest, bind_assoc, pure_bind]
    rfl
  | health request =>
    simp only [execute, publishHealth, token, admitRequest, bind_assoc, pure_bind]
    congr 1
    funext publisher
    apply bind_congr_ok
    rintro ⟨existing, record⟩ hadmitted
    unfold commitHealth
    rw [reviseMember_eq (revision_of_health hkeyed hadmitted)]
    rfl
  | capability request =>
    simp only [execute, publishCapability, token, admitRequest, bind_assoc, pure_bind]
    congr 1
    funext publisher
    apply bind_congr_ok
    rintro ⟨existing, record⟩ hadmitted
    unfold commitCapability
    rw [reviseMember_eq (revision_of_capability hkeyed hadmitted)]
    rfl
  | withdraw request =>
    simp only [execute, withdrawEvidence, token, admitRequest, bind_assoc, pure_bind]
    congr 1
    funext publisher
    apply bind_congr_ok
    rintro ⟨existing, record⟩ hadmitted
    unfold commitRevision
    rw [reviseMember_eq (revision_of_withdrawal hkeyed hadmitted)]
    rfl
  | unavailable request =>
    simp only [execute, markUnavailable, token, admitRequest, bind_assoc, pure_bind]
    congr 1
    funext publisher
    apply bind_congr_ok
    rintro ⟨existing, record⟩ hadmitted
    unfold commitRevision
    rw [reviseMember_eq (revision_of_unavailable hkeyed hadmitted)]
    rfl

/-- A decision refuses, before or after it knows the publisher, or it stores a record. -/
theorem decision_cases (options : RackFabricOptions) (request : MemberRequest)
    (state : RackState) :
    (∃ refusal, state.checkAuthority request.token true = .error refusal ∧
      request.decision options state = .refused id refusal) ∨
    (∃ publisher refusal, state.checkAuthority request.token true = .ok publisher ∧
      request.admitRequest options state publisher = .error refusal ∧
      request.decision options state = .refused (markRefused refusal) refusal) ∨
    ∃ publisher record code, state.checkAuthority request.token true = .ok publisher ∧
      request.admitRequest options state publisher = .ok (record, code) ∧
      request.decision options state = .accepted record code request.member.toStr := by
  unfold decision
  cases hauthority : state.checkAuthority request.token true with
  | error refusal => exact Or.inl ⟨refusal, rfl, rfl⟩
  | ok publisher =>
    cases hadmitted : request.admitRequest options state publisher with
    | error refusal => exact Or.inr (Or.inl ⟨publisher, refusal, rfl, hadmitted, by simp [hadmitted]⟩)
    | ok admitted =>
      exact Or.inr (Or.inr ⟨publisher, admitted.1, admitted.2, rfl, hadmitted, by simp [hadmitted]⟩)

/-- The request of a process does what its decision says. -/
theorem execute_eq (hkeyed : state.Keyed) {boot : AgentBootId}
    (hboot : request.token.boot = some boot) :
    request.execute options state =
      let after := request.apply boot (request.decision options state) state
      (after, ⟨(request.decision options state).outcome,
        (request.decision options state).explanation, after.generations⟩) := by
  have hfound {publisher : Option PublisherRef}
      (hauthority : state.checkAuthority request.token true = .ok publisher) :
      ∃ record, publisher = some ⟨boot, record⟩ := by
    rcases checkAuthority_ok hauthority with ⟨hnone, -⟩ | ⟨found, rfl, hsome, -⟩
    · rw [hnone] at hboot
      cases hboot
    · obtain rfl : found.boot = boot := Option.some.inj (hsome.symm.trans hboot)
      exact ⟨found.record, rfl⟩
  rw [execute_eq_underAuthority hkeyed]
  unfold underAuthority
  rcases decision_cases options request state with
    ⟨refusal, hauthority, hdecision⟩ | ⟨publisher, refusal, hauthority, hadmitted, hdecision⟩ |
    ⟨publisher, record, code, hauthority, hadmitted, hdecision⟩
  · rw [hauthority, hdecision]
    simp only [Decision.refused, apply, markPublisher_id]
    rfl
  · obtain ⟨found, rfl⟩ := hfound hauthority
    rw [hauthority, hdecision]
    simp only [hadmitted, bind, Except.bind, noteRefusal_eq]
    rfl
  · obtain ⟨found, rfl⟩ := hfound hauthority
    rw [hauthority, hdecision]
    simp only [hadmitted, bind, Except.bind, pure, Except.pure, advancePublication_eq]
    rfl

end MemberRequest

/-! What a request leaves as it was, and what a decision reads. -/

namespace RackState
variable {options : RackFabricOptions} {state other : RackState}

/-- The states differ at most in one publisher, in one member, which keeps the parent
that it had, and in the counters. -/
structure Beside (boot : AgentBootId) (member : MemberKey) (state other : RackState) : Prop where
  rack : other.rack = state.rack
  epoch : other.generations.coordinatorEpoch = state.generations.coordinatorEpoch
  fencedBoots : other.fencedBoots = state.fencedBoots
  failureDomains : other.failureDomains = state.failureDomains
  publishers : ∀ {reader}, reader ≠ boot → other.publishers[reader]? = state.publishers[reader]?
  members : ∀ {key}, key ≠ member → other.members[key]? = state.members[key]?
  parent : member ∈ state.members → other.parentOf member = state.parentOf member
  size_le : state.members.size ≤ other.members.size
  le_size : other.members.size ≤ state.members.size + 1

namespace Beside
variable {boot : AgentBootId} {member : MemberKey}

/-- The record of the publisher is left out of the comparison. -/
theorem mark (h : Beside boot member state other) (mark : PublisherRecord → PublisherRecord) :
    Beside boot member state (other.markPublisher boot mark) where
  rack := h.rack
  epoch := h.epoch
  fencedBoots := h.fencedBoots
  failureDomains := h.failureDomains
  publishers hne := by
    simp only [markPublisher, ExtTreeMap.getElem?_modify, LawfulEqCmp.compare_eq_iff_eq, hne.symm,
      if_false]
    exact h.publishers hne
  members := h.members
  parent := h.parent
  size_le := h.size_le
  le_size := h.le_size

variable (h : Beside boot member state other)
include h

theorem contains {key : MemberKey} (hne : key ≠ member) :
    other.members.contains key = state.members.contains key := by
  rw [ExtTreeMap.contains_eq_isSome_getElem?, ExtTreeMap.contains_eq_isSome_getElem?,
    h.members hne]

theorem parentOf {key : MemberKey} (hkey : key ∈ state.members) :
    other.parentOf key = state.parentOf key := by
  by_cases heq : key = member
  · subst heq
    exact h.parent hkey
  · unfold RackGraph.parentOf
    rw [h.members heq]

theorem checkAuthority {token : AuthorityToken} {reader : AgentBootId}
    (hboot : token.boot = some reader) (hne : reader ≠ boot) :
    other.checkAuthority token true = state.checkAuthority token true := by
  unfold RackState.checkAuthority checkRack
  rw [h.epoch, h.rack, hboot]
  simp only [checkPublisher, h.fencedBoots, h.publishers hne, h.epoch]

theorem ownedMember {token : AuthorityToken} {key : MemberKey} (hne : key ≠ member) :
    other.ownedMember token key = state.ownedMember token key := by
  unfold RackState.ownedMember findMember
  rw [h.members hne]

theorem checkParent (hclosed : state.ParentsClosed) {record : MemberRecord}
    (hne : record.parent ≠ some member) :
    RackState.checkParent other.toRackGraph record =
      RackState.checkParent state.toRackGraph record := by
  unfold RackState.checkParent
  cases hparent : record.parent with
  | none => rfl
  | some parent =>
    have hother : parent ≠ member := fun heq => hne (heq ▸ hparent)
    simp only [h.contains hother]
    by_cases hmem : parent ∈ state.members
    · rw [containsCycle_congr hclosed (fun key hkey => h.parentOf hkey) h.size_le hmem]
    · have hnot : state.members.contains parent = false := by
        rw [← Bool.not_eq_true, ExtTreeMap.contains_iff_mem]
        exact hmem
      simp [hnot, refuseIf, bind, Except.bind]

theorem checkDomainMember {tag : IdentityTag} {kind : MemberKind} {domain : Option (StrongId tag)}
    {code detail : String} {subject : Str} (hne : ∀ id ∈ domain, member ≠ .ofId kind id) :
    RackState.checkDomainMember other.toRackGraph kind domain code detail subject =
      RackState.checkDomainMember state.toRackGraph kind domain code detail subject := by
  unfold RackState.checkDomainMember
  cases domain with
  | none => rfl
  | some id =>
    simp only [Option.any_some, h.contains (hne id rfl).symm]

theorem checkReferences (hclosed : state.ParentsClosed) {request : PublishMemberRequest}
    (hnames : ¬ (MemberRequest.publish request).Names member) :
    RackState.checkReferences other.toRackGraph (clearRetired request.record) =
      RackState.checkReferences state.toRackGraph (clearRetired request.record) := by
  unfold MemberRequest.Names at hnames
  push Not at hnames
  obtain ⟨hparent, hpower, hcooling, hswitch⟩ := hnames
  rw [← clearRetired_parent] at hparent
  rw [← clearRetired_powerDomain] at hpower
  rw [← clearRetired_coolingDomain] at hcooling
  rw [← clearRetired_switchDomain] at hswitch
  unfold RackState.checkReferences
  simp only [h.checkParent hclosed hparent, h.failureDomains, h.checkDomainMember hpower,
    h.checkDomainMember hcooling, h.checkDomainMember hswitch]

theorem admitMember (hclosed : state.ParentsClosed) {request : PublishMemberRequest}
    (hkey : request.record.key ≠ member)
    (hnames : ¬ (MemberRequest.publish request).Names member)
    (hroom : state.members.size + 2 ≤ options.limits.maxMembers)
    (publisher : Option PublisherRef) :
    RackState.admitMember options other publisher request =
      RackState.admitMember options state publisher request := by
  have hbefore : ¬ state.members.size ≥ options.limits.maxMembers := by omega
  have hafter : ¬ other.members.size ≥ options.limits.maxMembers := by
    have := h.le_size
    omega
  unfold RackState.admitMember
  simp only [h.members hkey, h.checkReferences hclosed hnames, hbefore, hafter]

end Beside

end RackState

namespace MemberRequest
variable {options : RackFabricOptions} {state other : RackState} {boot reader : AgentBootId}
  {member : MemberKey} {request : MemberRequest}

/-- What a request finds admissible does not depend on another member that it does
not name. -/
theorem admitRequest_beside (h : Beside boot member state other) (hclosed : state.ParentsClosed)
    (hkey : request.member ≠ member) (hnames : ¬ request.Names member)
    (hroom : state.members.size + 2 ≤ options.limits.maxMembers)
    (publisher : Option PublisherRef) :
    request.admitRequest options other publisher = request.admitRequest options state publisher := by
  cases request with
  | publish request =>
    simp only [admitRequest]
    rw [h.admitMember hclosed hkey hnames hroom publisher]
    apply bind_congr_ok
    intro record hadmitted
    rw [h.contains ((memberAdmission hadmitted).key ▸ hkey)]
  | health request =>
    have hmember : request.member ≠ member := hkey
    simp only [admitRequest, admitHealth, h.ownedMember hmember]
  | capability request =>
    have hmember : request.member ≠ member := hkey
    simp only [admitRequest, admitCapability, h.ownedMember hmember]
  | withdraw request =>
    have hmember : request.member ≠ member := hkey
    simp only [admitRequest, admitWithdrawal, h.ownedMember hmember]
  | unavailable request =>
    have hmember : request.member ≠ member := hkey
    simp only [admitRequest, admitUnavailable, h.ownedMember hmember]

theorem decision_beside (h : Beside boot member state other) (hclosed : state.ParentsClosed)
    (hboot : request.token.boot = some reader) (hne : reader ≠ boot)
    (hkey : request.member ≠ member) (hnames : ¬ request.Names member)
    (hroom : state.members.size + 2 ≤ options.limits.maxMembers) :
    request.decision options other = request.decision options state := by
  unfold decision
  rw [h.checkAuthority hboot hne]
  simp only [admitRequest_beside h hclosed hkey hnames hroom]

/-! The other way round: what a request does is beside what others read. -/

/-- An admitted request publishes its record, or revises the member where it stands. -/
theorem admitRequest_cases (hkeyed : state.Keyed) {publisher : Option PublisherRef}
    {record : MemberRecord} {code : String}
    (h : request.admitRequest options state publisher = .ok (record, code)) :
    (∃ publication, request = .publish publication ∧
      RackState.admitMember options state publisher publication = .ok record) ∨
    ∃ existing, state.Revision request.member existing record := by
  cases request with
  | publish request =>
    simp only [admitRequest, bind_eq_ok, pure_eq_ok, Prod.mk.injEq] at h
    obtain ⟨_, hadmitted, rfl, -⟩ := h
    exact Or.inl ⟨request, rfl, hadmitted⟩
  | health request =>
    simp only [admitRequest, bind_eq_ok, pure_eq_ok, Prod.mk.injEq] at h
    obtain ⟨⟨existing, stored⟩, hadmitted, hstored, -⟩ := h
    obtain rfl : stored = record := hstored
    exact Or.inr ⟨existing, revision_of_health hkeyed hadmitted⟩
  | capability request =>
    simp only [admitRequest, bind_eq_ok, pure_eq_ok, Prod.mk.injEq] at h
    obtain ⟨⟨existing, stored⟩, hadmitted, hstored, -⟩ := h
    obtain rfl : stored = record := hstored
    exact Or.inr ⟨existing, revision_of_capability hkeyed hadmitted⟩
  | withdraw request =>
    simp only [admitRequest, bind_eq_ok, pure_eq_ok, Prod.mk.injEq] at h
    obtain ⟨⟨existing, stored⟩, hadmitted, hstored, -⟩ := h
    obtain rfl : stored = record := hstored
    exact Or.inr ⟨existing, revision_of_withdrawal hkeyed hadmitted⟩
  | unavailable request =>
    simp only [admitRequest, bind_eq_ok, pure_eq_ok, Prod.mk.injEq] at h
    obtain ⟨⟨existing, stored⟩, hadmitted, hstored, -⟩ := h
    obtain rfl : stored = record := hstored
    exact Or.inr ⟨existing, revision_of_unavailable hkeyed hadmitted⟩

theorem admitRequest_key (hkeyed : state.Keyed) {publisher : Option PublisherRef}
    {record : MemberRecord} {code : String}
    (h : request.admitRequest options state publisher = .ok (record, code)) :
    record.key = request.member := by
  rcases admitRequest_cases hkeyed h with ⟨publication, rfl, hadmitted⟩ | ⟨existing, hrevision⟩
  · exact (memberAdmission hadmitted).key
  · exact hrevision.key

theorem admitRequest_parent (hkeyed : state.Keyed) (hkeeps : request.KeepsParent state)
    {publisher : Option PublisherRef} {existing record : MemberRecord} {code : String}
    (h : request.admitRequest options state publisher = .ok (record, code))
    (hexisting : state.members[request.member]? = some existing) :
    record.parent = existing.parent := by
  rcases admitRequest_cases hkeyed h with ⟨publication, rfl, hadmitted⟩ | ⟨found, hrevision⟩
  · rw [(memberAdmission hadmitted).parent]
    exact hkeeps existing hexisting
  · obtain rfl : found = existing := Option.some.inj (hrevision.found.symm.trans hexisting)
    exact hrevision.parent

theorem coordinatorEpoch_advance (generations : GenerationSet) (request : MemberRequest) :
    (request.advance generations).coordinatorEpoch = generations.coordinatorEpoch := by
  cases request <;> rfl

/-- The record that a decision stores, if any, is the one that the request admits. -/
theorem admitRequest_of_stored {record : MemberRecord}
    (h : (request.decision options state).stored = some record) :
    ∃ publisher code, request.admitRequest options state publisher = .ok (record, code) := by
  rcases decision_cases options request state with
    ⟨refusal, -, hdecision⟩ | ⟨publisher, refusal, -, -, hdecision⟩ |
    ⟨publisher, stored, code, -, hadmitted, hdecision⟩
  · rw [hdecision] at h
    cases h
  · rw [hdecision] at h
    cases h
  · rw [hdecision] at h
    cases h
    exact ⟨publisher, code, hadmitted⟩

theorem beside_self (state : RackState) (boot : AgentBootId) (member : MemberKey) :
    Beside boot member state state :=
  ⟨rfl, rfl, rfl, rfl, fun _ => rfl, fun _ => rfl, fun _ => rfl, Nat.le_refl _, Nat.le_succ _⟩

theorem beside_store {record : MemberRecord}
    (hparent : ∀ existing, state.members[record.key]? = some existing →
      record.parent = existing.parent) :
    Beside boot record.key state (request.store state record) where
  rack := rfl
  epoch := coordinatorEpoch_advance _ _
  fencedBoots := rfl
  failureDomains := by simp [store, enroll]
  publishers _ := rfl
  members hne := getElem?_members_enroll hne
  parent hmem := by
    obtain ⟨existing, hfound⟩ :=
      Option.isSome_iff_exists.mp (ExtTreeMap.mem_iff_isSome_getElem?.mp hmem)
    simp [store, RackGraph.parentOf, hfound, hparent existing hfound]
  size_le := by
    simp only [store, members_enroll, ExtTreeMap.size_insert]
    split <;> omega
  le_size := by
    simp only [store, members_enroll, ExtTreeMap.size_insert]
    split <;> omega

/-- A request leaves a state that is beside the one it found. -/
theorem beside_apply (hkeyed : state.Keyed) (hkeeps : request.KeepsParent state) :
    Beside boot request.member state
      (request.apply boot (request.decision options state) state) := by
  unfold apply
  cases hstored : (request.decision options state).stored with
  | none => exact (beside_self _ _ _).mark _
  | some record =>
    obtain ⟨publisher, code, hadmitted⟩ := admitRequest_of_stored hstored
    have hkey := admitRequest_key hkeyed hadmitted
    have hbeside : Beside boot record.key state (request.store state record) :=
      beside_store fun existing hfound => admitRequest_parent hkeyed hkeeps hadmitted (hkey ▸ hfound)
    rw [hkey] at hbeside
    exact hbeside.mark _

end MemberRequest

/-! The counters. The first member starts two of them, later publications move them. -/

theorem Generation.isSet_iff {tag : GenerationTag} {generation : Generation tag} :
    generation.isSet = true ↔ 0 < generation.value.toNat := by
  rw [isSet, decide_eq_true_iff, ne_eq, ← UInt64.toNat_inj, Nat.pos_iff_ne_zero]
  rfl

theorem Generation.isSet_mono {tag : GenerationTag} {before after : Generation tag}
    (hle : before.value.toNat ≤ after.value.toNat) (h : before.isSet = true) :
    after.isSet = true := by
  rw [isSet_iff] at h ⊢
  omega

structure GenerationSet.Started (generations : GenerationSet) : Prop where
  health : generations.health.isSet = true
  capabilities : generations.capabilities.isSet = true

theorem GenerationSet.Started.mono {before after : GenerationSet} (h : before.Started)
    (hle : before ≤ after) : after.Started where
  health := Generation.isSet_mono (hle .health) h.health
  capabilities := Generation.isSet_mono (hle .capability) h.capabilities

namespace MemberRequest
variable {options : RackFabricOptions} {state : RackState} {first second : MemberRequest}

theorem started_advance_publish (generations : GenerationSet) (request : PublishMemberRequest) :
    ((publish request).advance generations).Started := by
  constructor
  · simp only [advance]
    split
    · assumption
    · rfl
  · simp only [advance]
    split
    · assumption
    · rfl

theorem advance_publish_of_started {generations : GenerationSet} (h : generations.Started)
    (request : PublishMemberRequest) :
    (publish request).advance generations =
      { generations with membership := generations.membership.bump } := by
  simp [advance, h.health, h.capabilities]

theorem started_advance {generations : GenerationSet} (h : generations.Started)
    (request : MemberRequest) : (request.advance generations).Started := by
  cases request with
  | publish request => exact started_advance_publish generations request
  | health request =>
    exact ⟨Generation.isSet_mono (Generation.toNat_le_bump _) h.health, h.capabilities⟩
  | capability request =>
    exact ⟨h.health, Generation.isSet_mono (Generation.toNat_le_bump _) h.capabilities⟩
  | withdraw request => exact ⟨h.health, h.capabilities⟩
  | unavailable request => exact ⟨h.health, h.capabilities⟩

/-- The first members may start the counters in either order. -/
theorem advance_comm_publish (generations : GenerationSet) (first second : PublishMemberRequest) :
    (publish second).advance ((publish first).advance generations) =
      (publish first).advance ((publish second).advance generations) := by
  rw [advance_publish_of_started (started_advance_publish generations first),
    advance_publish_of_started (started_advance_publish generations second)]
  rfl

/-- Once the counters are started, each request only moves one of them. -/
theorem advance_comm_of_started {generations : GenerationSet} (h : generations.Started)
    (first second : MemberRequest) :
    second.advance (first.advance generations) = first.advance (second.advance generations) := by
  have hfirst := started_advance h first
  have hsecond := started_advance h second
  cases first with
  | publish first =>
    cases second with
    | publish second => exact advance_comm_publish generations first second
    | _ =>
      rw [advance_publish_of_started hsecond, advance_publish_of_started h]
      rfl
  | _ =>
    cases second with
    | publish second =>
      rw [advance_publish_of_started hfirst, advance_publish_of_started h]
      rfl
    | _ => rfl

/-- Requests of two publishers about two members act on different records. -/
theorem apply_comm (hkeyed : state.Keyed) {boot reader : AgentBootId} (hboots : boot ≠ reader)
    {left right : Decision}
    (hkeys : ∀ record ∈ left.stored, ∀ other ∈ right.stored, record.key ≠ other.key)
    (hadvance : left.stored.isSome → right.stored.isSome →
      second.advance (first.advance state.generations) =
        first.advance (second.advance state.generations)) :
    second.apply reader right (first.apply boot left state) =
      first.apply boot left (second.apply reader right state) := by
  have hpublishers := modify_comm state.publishers left.mark right.mark hboots
  unfold apply
  cases hleft : left.stored with
  | none =>
    cases hright : right.stored with
    | none => simp only [markPublisher, hpublishers]
    | some other => simp only [markPublisher, store, hpublishers]
  | some record =>
    cases hright : right.stored with
    | none => simp only [markPublisher, store, hpublishers]
    | some other =>
      have hgraph := enroll_comm hkeyed (hkeys record hleft other hright)
      have hgenerations := hadvance (by rw [hleft]; rfl) (by rw [hright]; rfl)
      simp only [markPublisher, store, hpublishers, hgraph, hgenerations]

end MemberRequest

/-! A rack that has members has started its counters. -/

namespace RackState
variable {options : RackFabricOptions} {state : RackState}

def MembersStarted (state : RackState) : Prop :=
  ∀ key ∈ state.members, state.generations.Started

/-- Only an admitted publication brings a member that was not there. -/
theorem membersStarted_step (h : state.MembersStarted) (hkeyed : state.Keyed)
    (hdated : state.RackDated) (input : Input) : (step options state input).MembersStarted := by
  have hgrown := grown_transition hdated (@perform_transition options state input)
  have hold {key : MemberKey} (hmem : key ∈ state.members) :
      (step options state input).generations.Started :=
    (h key hmem).mono hgrown.generations
  intro key hkey
  obtain ⟨record, hfound⟩ :=
    Option.isSome_iff_exists.mp (ExtTreeMap.mem_iff_isSome_getElem?.mp hkey)
  have hpresent {other : MemberKey} {existing : MemberRecord}
      (h : state.members[other]? = some existing) : other ∈ state.members := by
    simp [ExtTreeMap.mem_iff_isSome_getElem?, h]
  obtain ⟨now, mutation⟩ := input
  have heffect := @step_effect options _ hkeyed ⟨now, mutation⟩
  generalize hgraph : (step options state ⟨now, mutation⟩).toRackGraph = graph at heffect
  rw [hgraph] at hfound
  cases heffect with
  | maintained hquiet hsteps =>
    obtain ⟨old, hexisting, -⟩ := (traced_of_maintained hsteps).members hfound
    exact hold (hpresent hexisting)
  | @enrolled request publisher record hauthority hadmitted =>
    have hstep : step options state ⟨now, .publishMember request⟩ =
        (state.commitMember record).advancePublication publisher := by
      simp [step, perform, publishMember, underAuthority, hauthority, hadmitted, bind, Except.bind,
        pure, Except.pure, accept]
    rw [hstep, generations_advancePublication]
    exact MemberRequest.started_advance_publish state.generations request
  | linked hauthority hadmitted =>
    rw [members_storeRelationship] at hfound
    exact hold (hpresent hfound)
  | filed hauthority hadmitted =>
    rw [members_storeFailureDomain] at hfound
    exact hold (hpresent hfound)
  | observed hauthority hadmitted => exact hold (hpresent (admitHealth_ok hadmitted).1)
  | withdrawn hauthority hadmitted => exact hold (hpresent (admitWithdrawal_ok hadmitted).1)
  | retired hauthority hadmitted =>
    obtain ⟨existing, hexisting, -⟩ := admitRetirement_ok hadmitted
    exact hold (hpresent hexisting)

theorem membersStarted_run (options : RackFabricOptions) (inputs : List Input) :
    (Execution.run (step options) (fresh options) inputs).MembersStarted := by
  induction inputs using List.reverseRecOn with
  | nil =>
    intro key hmem
    simp [fresh] at hmem
  | append_singleton inputs input ih =>
    rw [Execution.run_concat]
    exact membersStarted_step ih (wellFormed_run options inputs).toKeyed
      (bound_run options inputs).dated input

end RackState

namespace MemberRequest
variable {options : RackFabricOptions} {state : RackState} {first second : MemberRequest}

theorem keyed_execute (h : state.WellFormed) (request : MemberRequest) :
    (request.execute options state).1.Keyed := by
  have hstep : step options state ⟨.unknown, request.mutation⟩ =
      (request.execute options state).1 := by
    rw [step, perform_mutation]
  rw [← hstep]
  exact (wellFormed_step state _ h).toKeyed

/-- If both requests store a record, the counters they move allow either order. -/
theorem advance_comm (hkeyed : state.Keyed) (hstarted : state.MembersStarted)
    (hleft : (first.decision options state).stored.isSome)
    (hright : (second.decision options state).stored.isSome) :
    second.advance (first.advance state.generations) =
      first.advance (second.advance state.generations) := by
  obtain ⟨record, hrecord⟩ := Option.isSome_iff_exists.mp hleft
  obtain ⟨other, hother⟩ := Option.isSome_iff_exists.mp hright
  obtain ⟨publisher, code, hadmitted⟩ := admitRequest_of_stored hrecord
  obtain ⟨publisher', code', hadmitted'⟩ := admitRequest_of_stored hother
  -- a member that is revised is there already, so the counters are started
  have hold {member : MemberKey} {existing record : MemberRecord}
      (hrevision : state.Revision member existing record) : state.generations.Started := by
    apply hstarted member
    simp [ExtTreeMap.mem_iff_isSome_getElem?, hrevision.found]
  rcases admitRequest_cases hkeyed hadmitted with ⟨publication, rfl, -⟩ | ⟨existing, hrevision⟩
  · rcases admitRequest_cases hkeyed hadmitted' with
      ⟨publication', rfl, -⟩ | ⟨existing, hrevision⟩
    · exact advance_comm_publish _ _ _
    · exact advance_comm_of_started (hold hrevision) _ _
  · exact advance_comm_of_started (hold hrevision) _ _

/-- What each request decides does not depend on the other having been served. -/
theorem independent (hwell : state.WellFormed) {boot reader : AgentBootId}
    (hfirst : first.token.boot = some boot) (hsecond : second.token.boot = some reader)
    (hboots : boot ≠ reader) (hmembers : first.member ≠ second.member)
    (hnames : ¬ first.Names second.member) (hnames' : ¬ second.Names first.member)
    (hkeeps : first.KeepsParent state) (hkeeps' : second.KeepsParent state)
    (hroom : state.members.size + 2 ≤ options.limits.maxMembers) :
    Execution.Independent (first.operation options boot) (second.operation options reader)
      state where
  left := decision_beside (beside_apply hwell.toKeyed hkeeps')
    (parentsClosed_of_integrity hwell.toIntegrity) hfirst hboots hmembers hnames hroom
  right := decision_beside (beside_apply hwell.toKeyed hkeeps)
    (parentsClosed_of_integrity hwell.toIntegrity) hsecond hboots.symm hmembers.symm hnames' hroom

/-- What they then do commutes too: they act on different records. -/
theorem act_comm (hkeyed : state.Keyed) (hstarted : state.MembersStarted)
    {boot reader : AgentBootId} (hboots : boot ≠ reader) (hmembers : first.member ≠ second.member) :
    second.apply reader (second.decision options state)
        (first.apply boot (first.decision options state) state) =
      first.apply boot (first.decision options state)
        (second.apply reader (second.decision options state) state) := by
  apply apply_comm hkeyed hboots
  · intro record hrecord other hother
    obtain ⟨publisher, code, hadmitted⟩ := admitRequest_of_stored hrecord
    obtain ⟨publisher', code', hadmitted'⟩ := admitRequest_of_stored hother
    rw [admitRequest_key hkeyed hadmitted, admitRequest_key hkeyed hadmitted']
    exact hmembers
  · exact advance_comm hkeyed hstarted

/-- Two processes that publish about two members, neither of which refers to the other,
get the same answers and leave the same state in whichever order they are served. -/
theorem publications_commute (options : RackFabricOptions) {state : RackState}
    (hreachable : Reachable options state) {first second : MemberRequest}
    {boot reader : AgentBootId} (hfirst : first.token.boot = some boot)
    (hsecond : second.token.boot = some reader) (hboots : boot ≠ reader)
    (hmembers : first.member ≠ second.member) (hnames : ¬ first.Names second.member)
    (hnames' : ¬ second.Names first.member) (hkeeps : first.KeepsParent state)
    (hkeeps' : second.KeepsParent state)
    (hroom : state.members.size + 2 ≤ options.limits.maxMembers) :
    let firstAlone := first.execute options state
    let secondAlone := second.execute options state
    let secondAfter := second.execute options firstAlone.1
    let firstAfter := first.execute options secondAlone.1
    secondAfter.1 = firstAfter.1 ∧
      (firstAfter.2.outcome = firstAlone.2.outcome ∧
        firstAfter.2.explanation = firstAlone.2.explanation) ∧
      (secondAfter.2.outcome = secondAlone.2.outcome ∧
        secondAfter.2.explanation = secondAlone.2.explanation) := by
  obtain ⟨inputs, rfl⟩ := hreachable
  have hwell := wellFormed_run options inputs
  have hstarted := membersStarted_run options inputs
  generalize Execution.run (step options) (fresh options) inputs = state at *
  have hindependent := independent hwell hfirst hsecond hboots hmembers hnames hnames' hkeeps
    hkeeps' hroom
  have hcomm := hindependent.enact_comm (act_comm hwell.toKeyed hstarted hboots hmembers)
  have hkeyed := @keyed_execute options _ hwell first
  have hkeyed' := @keyed_execute options _ hwell second
  simp only [execute_eq hwell.toKeyed hfirst, execute_eq hwell.toKeyed hsecond] at hkeyed hkeyed' ⊢
  simp only [execute_eq hkeyed hsecond, execute_eq hkeyed' hfirst]
  have hleft := hindependent.left
  have hright := hindependent.right
  exact ⟨hcomm, ⟨congrArg Decision.outcome hleft, congrArg Decision.explanation hleft⟩,
    congrArg Decision.outcome hright, congrArg Decision.explanation hright⟩

end MemberRequest

namespace Scenario

def enrollment : List Input := [declareRack, registerPublisher bootA, registerPublisher bootB]

def enrolling (boot : AgentBootId) (name : String) : MemberRequest :=
  .publish { authority := process boot, record := { key := node name } }

/-- The first two members of a rack, each of its own process. -/
theorem enrolling_commute :
    let state := run enrollment
    let first := enrolling bootA "a"
    let second := enrolling bootB "b"
    first.KeepsParent state ∧ (first.execute defaults state).2.outcome = .accepted ∧
      (second.execute defaults state).2.outcome = .accepted ∧
      (second.execute defaults (first.execute defaults state).1).1 =
        (first.execute defaults (second.execute defaults state).1).1 := by
  have hnone (boot : AgentBootId) (name : String) :
      (enrolling boot name).KeepsParent (run enrollment) := by
    intro existing hfound
    have hempty : (run enrollment).members.isEmpty = true := by decide +kernel
    rw [ExtTreeMap.isEmpty_iff.mp hempty] at hfound
    simp at hfound
  have hnames (boot : AgentBootId) (name other : String) :
      ¬ (enrolling boot name).Names (node other) := by
    simp [enrolling, MemberRequest.Names]
  have hcommute := @MemberRequest.publications_commute defaults (run enrollment) ⟨enrollment, rfl⟩
    (enrolling bootA "a") (enrolling bootB "b") bootA bootB rfl rfl (by decide) (by decide)
    (hnames bootA "a" "b") (hnames bootB "b" "a") (hnone bootA "a") (hnone bootB "b")
    (by decide +kernel)
  exact ⟨hnone bootA "a", by decide +kernel, by decide +kernel, hcommute.1⟩

end Scenario

end RackFabric
