import RackFabric.Model.Sessions
import RackFabric.Properties.Authority
import RackFabric.Properties.Serving

/-! The authority that a message presents, against the one that the coordinator
submits in its place. -/
namespace RackFabric
open Std RackState

def MessageType.rackScoped : MessageType → Bool
  | .declareRack | .heartbeat => false
  | _ => true

def Request.authority : Request → Option AuthorityToken
  | ⟨.declareRack, _, _, payload⟩ => payload.map DeclareRackMessage.authority
  | ⟨.publishNode, _, _, payload⟩ | ⟨.publishDevice, _, _, payload⟩ =>
      payload.map PublishMemberMessage.authority
  | ⟨.publishLink, _, _, payload⟩ => payload.map PublishLinkMessage.authority
  | ⟨.publishFailureDomain, _, _, payload⟩ => payload.map PublishFailureDomainMessage.authority
  | ⟨.publishPower, _, _, payload⟩ => payload.map PublishPowerMessage.authority
  | ⟨.publishCooling, _, _, payload⟩ => payload.map PublishCoolingMessage.authority
  | ⟨.publishHealth, _, _, payload⟩ => payload.map PublishHealthMessage.authority
  | ⟨.publishCapability, _, _, payload⟩ => payload.map PublishCapabilityMessage.authority
  | ⟨.withdraw, _, _, payload⟩ => payload.map WithdrawMessage.authority
  | ⟨.retireMember, _, _, payload⟩ => payload.map RetireMemberMessage.authority
  | ⟨.revalidate, _, _, payload⟩ => payload.map RevalidateMessage.authority
  | ⟨.heartbeat, _, _, payload⟩ => payload.map HeartbeatMessage.authority
  | ⟨.snapshotRequest, _, _, payload⟩ => payload.map SnapshotRequestMessage.authority
  | _ => none

def Request.registration : Request → Option RegisterMessage
  | ⟨.register, _, _, payload⟩ => payload
  | _ => none

def Command.accepted (options : CoordinatorOptions) (fabric : RackState) (now : Timestamp)
    (command : Command) : Bool :=
  match command with
  | .register _ _ request =>
      (registerPublisher options.fabric fabric now request).2.outcome.isAccepted
  | command => command.submission.any fun mutation =>
      (fabric.perform options.fabric ⟨now, mutation⟩).2 = some .accepted

def accepts (options : CoordinatorOptions) (fabric : RackState) (session : Session)
    (now : Timestamp) (request : Request) : Bool :=
  (admitRequest fabric session request).toOption.any (·.accepted options fabric now)

structure PassesOwnCheck (fabric : RackState) (request : Request) : Prop where
  registration : ∀ message, request.registration = some message →
    message.coordinatorEpoch = fabric.generations.coordinatorEpoch
  mutation : ∀ token, request.authority = some token →
    ∃ publisher, fabric.checkAuthority token request.type.rackScoped = .ok publisher

/-- The message presents the epoch in force, it names a rack where it must, and a
heartbeat does not present another publication generation than the current one. -/
structure PresentsCurrent (fabric : RackState) (request : Request) : Prop where
  registration : ∀ message, request.registration = some message →
    message.coordinatorEpoch = fabric.generations.coordinatorEpoch
  epoch : ∀ token, request.authority = some token →
    token.coordinatorEpoch = fabric.generations.coordinatorEpoch
  rack : ∀ token, request.authority = some token → request.type.rackScoped = true →
    token.rack.isSome = true
  heartbeat : ∀ token boot record generation, request.authority = some token →
    request.type = .heartbeat → token.boot = some boot →
    fabric.publishers[boot]? = some record → token.publicationGeneration = some generation →
    generation = record.publicationGeneration

/-! The check, one condition after another. -/

theorem checkSequence_eq_ok_iff {token : AuthorityToken} {boot : AgentBootId}
    {record : PublisherRecord} :
    checkSequence token boot record = .ok () ↔
      ∀ generation, token.publicationGeneration = some generation →
        generation = record.publicationGeneration := by
  refine ⟨fun h _ => sequenced_of_ok h, fun h => ?_⟩
  unfold checkSequence
  cases hpresented : token.publicationGeneration with
  | none => rfl
  | some generation =>
    obtain rfl := h generation hpresented
    simp [Generation.lt_irrefl]

variable {state : RackState} {token : AuthorityToken} {boot : AgentBootId} {rackScoped : Bool}

theorem checkRack_eq_ok_iff :
    state.checkRack token = .ok () ↔
      ∃ rack, state.rack = some rack ∧ token.rack = some rack.id := by
  unfold checkRack
  simp only [require_bind_eq_ok, refuseIf_eq_ok, decide_eq_false_iff_not, not_not]
  constructor
  · rintro ⟨rack, hrack, named, hnamed, rfl⟩
    exact ⟨rack, hrack, hnamed⟩
  · rintro ⟨rack, hrack, hnamed⟩
    exact ⟨rack, hrack, rack.id, hnamed, rfl⟩

theorem checkPublisher_passes_iff :
    (∃ publisher, state.checkPublisher token boot = .ok publisher) ↔
      boot ∉ state.fencedBoots ∧ ∃ record, state.publishers[boot]? = some record ∧
        ¬ (record.state = .lost ∨ record.state = .fenced) ∧
        record.coordinatorEpoch = state.generations.coordinatorEpoch ∧
        checkSequence token boot record = .ok () := by
  unfold checkPublisher
  simp only [bind_eq_ok, refuseIf_eq_ok, require_eq_ok, exists_and_left, exists_const, pure_eq_ok,
    decide_eq_false_iff_not, ne_eq, not_not, ← ExtTreeMap.contains_iff_mem, Bool.not_eq_true]
  constructor
  · rintro ⟨hfenced, _, record, hfound, hlive, hepoch, ⟨⟩, hsequence, -⟩
    exact ⟨hfenced, record, hfound, hlive, hepoch, hsequence⟩
  · rintro ⟨hfenced, record, hfound, hlive, hepoch, hsequence⟩
    exact ⟨hfenced, _, record, hfound, hlive, hepoch, (), hsequence, rfl⟩

theorem checkAuthority_passes_iff (hboot : token.boot = some boot) :
    (∃ publisher, state.checkAuthority token rackScoped = .ok publisher) ↔
      token.coordinatorEpoch = state.generations.coordinatorEpoch ∧
        (rackScoped = true → state.checkRack token = .ok ()) ∧
        state.rack.any (·.retired) = false ∧
        ∃ publisher, state.checkPublisher token boot = .ok publisher := by
  unfold checkAuthority
  simp only [bind_eq_ok, refuseIf_eq_ok, exists_and_left, exists_const, hboot, pure_eq_ok,
    decide_eq_false_iff_not, ne_eq, not_not]
  constructor
  · rintro ⟨hepoch, _, ⟨⟩, hrack, hretired, publisher, hpublisher, -⟩
    exact ⟨hepoch, fun hscoped => by simpa [hscoped] using hrack, hretired, publisher, hpublisher⟩
  · rintro ⟨hepoch, hrack, hretired, publisher, hpublisher⟩
    refine ⟨hepoch, _, (), ?_, hretired, publisher, hpublisher, rfl⟩
    cases rackScoped with
    | false => rfl
    | true => exact hrack rfl

/-! What the coordinator submits for a message. -/

/-- The token of the coordinator; a heartbeat is submitted without its generation. -/
def submittedToken (fabric : RackState) (boot : AgentBootId) (type : MessageType)
    (presented : AuthorityToken) : AuthorityToken :=
  if type = .heartbeat then
    { tokenFor fabric boot presented with publicationGeneration := none }
  else tokenFor fabric boot presented

theorem admitMutation_token {fabric : RackState} {request : Request} {command : Command}
    (h : admitMutation fabric boot request = .ok command) :
    ∃ presented mutation, request.authority = some presented ∧ presented.boot = some boot ∧
      request.registration = none ∧ command.submission = some mutation ∧
      mutation.token = some (submittedToken fabric boot request.type presented) ∧
      mutation.rackScoped = request.type.rackScoped := by
  unfold admitMutation at h
  split at h
  case h_15 => cases h
  all_goals
    obtain ⟨⟨message, token⟩, hpresented, h⟩ := bind_eq_ok.mp h
    obtain ⟨rfl, hboot, rfl⟩ := presented_ok hpresented
    cases h
    exact ⟨_, _, rfl, hboot, rfl, rfl, rfl, rfl⟩

section Submitted
variable {fabric : RackState} {type : MessageType} {presented : AuthorityToken}

@[simp] theorem submittedToken_boot :
    (submittedToken fabric boot type presented).boot = some boot := by
  unfold submittedToken
  split <;> rfl

theorem submittedToken_rack (h : presented.rack.isSome = true) :
    (submittedToken fabric boot type presented).rack = presented.rack := by
  obtain ⟨rack, hrack⟩ := Option.isSome_iff_exists.mp h
  unfold submittedToken tokenFor
  split <;> simp [hrack]

theorem submittedToken_generation (h : type ≠ .heartbeat) :
    (submittedToken fabric boot type presented).publicationGeneration =
      presented.publicationGeneration := by
  unfold submittedToken
  rw [if_neg h]
  rfl

/-- A message whose substitute passes the check passes it by itself exactly when it
presents what the substitute has in its place. -/
theorem passes_of_submitted_iff (hboot : presented.boot = some boot)
    (hsubmitted : ∃ publisher,
      fabric.checkAuthority (submittedToken fabric boot type presented) type.rackScoped =
        .ok publisher) :
    (∃ publisher, fabric.checkAuthority presented type.rackScoped = .ok publisher) ↔
      presented.coordinatorEpoch = fabric.generations.coordinatorEpoch ∧
        (type.rackScoped = true → presented.rack.isSome = true) ∧
        (type = .heartbeat → ∀ record generation, fabric.publishers[boot]? = some record →
          presented.publicationGeneration = some generation →
          generation = record.publicationGeneration) := by
  rw [checkAuthority_passes_iff submittedToken_boot] at hsubmitted
  obtain ⟨-, hrack, hretired, hpublisher⟩ := hsubmitted
  obtain ⟨hfenced, record, hfound, hlive, hregistered, hsequence⟩ :=
    checkPublisher_passes_iff.mp hpublisher
  rw [checkAuthority_passes_iff hboot]
  constructor
  · rintro ⟨hepoch, hnamed, -, hpasses⟩
    refine ⟨hepoch, fun hscoped => ?_, fun _ found generation hrecord hgeneration => ?_⟩
    · obtain ⟨rack, -, hpresented⟩ := checkRack_eq_ok_iff.mp (hnamed hscoped)
      simp [hpresented]
    · obtain ⟨-, known, hknown, -, -, hsequenced⟩ := checkPublisher_passes_iff.mp hpasses
      obtain rfl := Option.some.inj (hrecord.symm.trans hknown)
      exact checkSequence_eq_ok_iff.mp hsequenced generation hgeneration
  · rintro ⟨hepoch, hnamed, hheartbeat⟩
    refine ⟨hepoch, fun hscoped => ?_, hretired, ?_⟩
    · obtain ⟨rack, hdeclared, hsame⟩ := checkRack_eq_ok_iff.mp (hrack hscoped)
      rw [submittedToken_rack (hnamed hscoped)] at hsame
      exact checkRack_eq_ok_iff.mpr ⟨rack, hdeclared, hsame⟩
    · refine checkPublisher_passes_iff.mpr ⟨hfenced, record, hfound, hlive, hregistered, ?_⟩
      refine checkSequence_eq_ok_iff.mpr fun generation hgeneration => ?_
      by_cases hbeat : type = .heartbeat
      · exact hheartbeat hbeat record generation hfound hgeneration
      · rw [← @submittedToken_generation boot fabric type presented hbeat] at hgeneration
        exact checkSequence_eq_ok_iff.mp hsequence generation hgeneration

end Submitted

theorem admitMutation_of_authority {fabric : RackState} {session : Session} {request : Request}
    {command : Command} {presented : AuthorityToken}
    (hpresented : request.authority = some presented)
    (h : admitRequest fabric session request = .ok command) :
    ∃ boot, admitMutation fabric boot request = .ok command := by
  unfold admitRequest at h
  split at h
  · cases h
  · split at h
    · cases hpresented
    · cases hpresented
    · cases hpresented
    · split at h
      · split at h
        · cases h
        · exact ⟨_, h⟩
      · cases h

/-- A message that the coordinator accepts passes the fabric's own check exactly when
it presents the epoch in force, the rack, and no outdated generation. -/
theorem wire_authority_iff (options : CoordinatorOptions) (fabric : RackState) (session : Session)
    (now : Timestamp) (request : Request)
    (haccepted : accepts options fabric session now request = true) :
    PassesOwnCheck fabric request ↔ PresentsCurrent fabric request := by
  obtain ⟨command, hadmitted, haccepted⟩ := ok_of_any haccepted
  cases hpresented : request.authority with
  | none =>
    have hsilent : ∀ {token : AuthorityToken}, request.authority ≠ some token := by
      simp [hpresented]
    constructor
    · intro h
      exact ⟨h.registration, fun _ hsome => absurd hsome hsilent,
        fun _ hsome => absurd hsome hsilent, fun _ _ _ _ hsome => absurd hsome hsilent⟩
    · intro h
      exact ⟨h.registration, fun _ hsome => absurd hsome hsilent⟩
  | some presented =>
    obtain ⟨boot, hmutation⟩ := admitMutation_of_authority hpresented hadmitted
    obtain ⟨found, mutation, hfound, hboot, -, hsubmission, htoken, hscoped⟩ :=
      admitMutation_token hmutation
    obtain rfl := Option.some.inj (hpresented.symm.trans hfound)
    have hperformed : (fabric.perform options.fabric ⟨now, mutation⟩).2 = some .accepted := by
      unfold Command.accepted at haccepted
      split at haccepted
      · cases hsubmission
      · simpa [hsubmission] using haccepted
    have htransition := @perform_transition options.fabric fabric ⟨now, mutation⟩
    have hauthority := authority_of_accepted htoken hperformed htransition
    rw [hscoped] at hauthority
    have hiff := passes_of_submitted_iff hboot hauthority
    have honly : ∀ {token : AuthorityToken}, request.authority = some token → presented = token :=
      fun hsome => Option.some.inj (hpresented.symm.trans hsome)
    constructor
    · intro h
      obtain ⟨hepoch, hrack, hheartbeat⟩ := hiff.mp (h.mutation presented hpresented)
      refine ⟨h.registration, ?_, ?_, ?_⟩
      · intro token hsome
        exact honly hsome ▸ hepoch
      · intro token hsome
        exact honly hsome ▸ hrack
      · intro token claimed record generation hsome htype hclaimed hrecord hgeneration
        obtain rfl := honly hsome
        obtain rfl := Option.some.inj (hboot.symm.trans hclaimed)
        exact hheartbeat htype record generation hrecord hgeneration
    · intro h
      refine ⟨h.registration, fun token hsome => ?_⟩
      obtain rfl := honly hsome
      exact hiff.mpr ⟨h.epoch presented hpresented, h.rack presented hpresented,
        fun htype record generation hrecord hgeneration =>
          h.heartbeat presented boot record generation hpresented htype hboot hrecord hgeneration⟩

namespace Scenario

def registered : RackState := run [declareRack, registerPublisher bootA]

def publishUnder (epoch : CoordinatorEpoch) : Request where
  type := .publishFailureDomain
  message := some
    { authority := { process bootA with coordinatorEpoch := epoch }
      record := { id := .ofText (str "row-1") } }

theorem current_epoch_passes :
    PassesOwnCheck registered (publishUnder .first) ↔
      PresentsCurrent registered (publishUnder .first) :=
  wire_authority_iff {} registered ⟨some bootA, none⟩ ⟨1000⟩ (publishUnder .first)
    (by decide +kernel)

/-- A message of an epoch that is not in force is accepted. -/
theorem stale_epoch_accepted :
    accepts {} registered ⟨some bootA, none⟩ ⟨1000⟩ (publishUnder ⟨7⟩) = true ∧
      ¬ PassesOwnCheck registered (publishUnder ⟨7⟩) := by
  refine ⟨by decide +kernel, fun h => ?_⟩
  obtain ⟨publisher, hpasses⟩ := h.mutation _ rfl
  have hepoch := epoch_of_authorized hpasses
  exact absurd hepoch (by decide +kernel)

end Scenario

end RackFabric
