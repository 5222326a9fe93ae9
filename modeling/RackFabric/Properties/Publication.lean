import RackFabric.Model.Publication
import RackFabric.Properties.Agreement
import RackFabric.Properties.Contents
import RackFabric.Properties.Delivery
import RackFabric.Properties.Presented

/-! A registered agent publishes all that it discovers. -/
namespace RackFabric
open Std RackState

def AgentRequest.carried : AgentRequest → AgentRequest
  | .failureDomain record => .failureDomain record.carried
  | .member record => .member record.carried
  | .heartbeat => .heartbeat

/-- The agent has registered in its session, and the fabric would take its next mutation. -/
structure Link.Ready (options : CoordinatorOptions) (link : Link) : Prop where
  session : link.session.boot = some link.agent.boot
  authority : ∃ publisher, link.fabric.checkAuthority
    (tokenFor link.fabric link.agent.boot link.agent.token) true = .ok publisher
  named : link.agent.Named
  limits : link.agent.limits = options.limits

def Agent.counted (agent : Agent) : Agent :=
  { agent.nextCorrelation with
    publicationGeneration := agent.publicationGeneration.next.getD agent.publicationGeneration }

def MutationResult.received (result : MutationResult) : MutationResult where
  outcome := result.outcome
  generationsAfter := result.generationsAfter
  explanation :=
    { ok := true, code := (toResult result).code, subject := (toResult result).detail }

section Ready
variable {options : CoordinatorOptions} {link : Link}

/-- A commit that keeps to the records leaves the agent in step. -/
theorem Link.Ready.next (h : link.Ready options) {publisher : Option PublisherRef}
    (hauthority : link.fabric.checkAuthority
      (tokenFor link.fabric link.agent.boot link.agent.token) true = .ok publisher)
    {committed : RackState} (hrack : committed.rack = link.fabric.rack)
    (hepoch : committed.generations.coordinatorEpoch = link.fabric.generations.coordinatorEpoch)
    (hfenced : committed.fencedBoots = link.fabric.fencedBoots)
    (hpublishers : committed.publishers = link.fabric.publishers) :
    Link.Ready options
      ⟨link.agent.counted, link.session, committed.advancePublication publisher⟩ := by
  obtain ⟨hcurrent, hchecked, hretired, hpublisher⟩ :=
    (checkAuthority_passes_iff rfl).mp ⟨publisher, hauthority⟩
  obtain ⟨hlive, record, hfound, -, hsame, hsequence⟩ := checkPublisher_passes_iff.mp hpublisher
  obtain ⟨found, rfl, hboot, -⟩ := submitter_of_boot hauthority rfl
  have hgeneration : link.agent.publicationGeneration = record.publicationGeneration :=
    checkSequence_eq_ok_iff.mp hsequence _ rfl
  have hkept : (committed.advancePublication (some found)).rack = link.fabric.rack := hrack
  refine ⟨h.session, (checkAuthority_passes_iff rfl).mpr ⟨rfl, fun _ => ?_, ?_, ?_⟩,
    ⟨h.named.boot, h.named.rack⟩, h.limits⟩
  · have htoken := hchecked rfl
    simp only [checkRack, tokenFor, Agent.token, Agent.counted, Agent.nextCorrelation,
      hkept] at htoken ⊢
    exact htoken
  · rw [hkept]
    exact hretired
  · have hnext : (committed.advancePublication (some found)).publishers[link.agent.boot]? =
        some { record with
          publicationGeneration :=
            record.publicationGeneration.next.getD record.publicationGeneration
          state := .active
          acceptedMutations := record.acceptedMutations + 1 } := by
      simp only [advancePublication, hboot, hpublishers, ExtTreeMap.getElem?_modify_self, hfound,
        Option.map_some]
    have hspared : link.agent.boot ∉ (committed.advancePublication (some found)).fencedBoots := by
      rw [fencedBoots_advancePublication, hfenced]
      exact hlive
    refine checkPublisher_passes_iff.mpr ⟨hspared, _, hnext, by simp, ?_, ?_⟩
    · rw [generations_advancePublication, hepoch]
      exact hsame
    · refine checkSequence_eq_ok_iff.mpr fun generation hsome => ?_
      obtain rfl := Option.some.inj hsome
      simp only [Agent.counted, hgeneration]

theorem Request.carried_request (agent : Agent) (sent : AgentRequest) :
    (agent.request sent).carried = agent.request sent.carried := by
  cases sent <;> rfl

/-- A delivered record that the fabric accepts, with an explanation that can be sent, is counted
on both sides. -/
theorem Publication.publish_accepted {publication : Publication}
    (h : publication.link.Ready options) {now : Timestamp} {sent : AgentRequest}
    (hdelivered :
      (publication.link.agent.nextCorrelation.request sent).Delivered options.limits)
    {after : RackState} {result : MutationResult}
    (hsubmit : publication.link.fabric.submit options.fabric now
      (publication.link.mutation sent.carried) = (after, some result))
    (haccepted : result.outcome = .accepted)
    (hsendable : result.explanation.Sendable options.limits) :
    publication.publish options now sent =
      ({ publication with
         link := ⟨publication.link.agent.counted, publication.link.session, after⟩
         report := publication.reported sent result.received }, none) := by
  obtain ⟨frame, hframe, hencoded, hcarried⟩ := hdelivered
  obtain ⟨hfabric, hsession, hresponses⟩ := Link.serve_request h.session hsubmit
  have hlimits : publication.link.agent.nextCorrelation.limits = options.limits := h.limits
  have hfits := (Reply.encode_isSome_iff options.limits
    (publication.link.agent.nextCorrelation.request sent.carried).correlation _).mpr
      ((sendable_iff options.limits result).mpr hsendable)
  rw [send_reply, if_pos hfits] at hresponses
  rw [Request.carried_request] at hcarried
  have hdecodes : publication.link.agent.nextCorrelation.decodes
      [(toResult result).code, (toResult result).detail] = true := by
    have hcode := hsendable.1
    have hdetail := hsendable.2.1
    simp only [Agent.decodes, hlimits, toResult, List.all_cons, List.all_nil, Bool.and_true,
      Bool.and_eq_true, decide_eq_true_eq, List.length_take]
    exact ⟨hcode, hdetail⟩
  have haccepts : (toResult result).accepted = true := by
    simp [toResult, haccepted, MutationOutcome.isAccepted]
  have hexchange : Agent.exchange (publication.link.agent.nextCorrelation.request sent)
      [⟨(publication.link.agent.nextCorrelation.request sent.carried).correlation,
        .result (toResult result)⟩] = .ok (.result (toResult result)) := by
    cases sent <;> simp [Agent.exchange, Agent.request, AgentRequest.carried]
  have htaken : publication.link.agent.nextCorrelation.takeResult (.result (toResult result)) =
      .ok (publication.link.agent.counted, result.received) := by
    simp only [Agent.takeResult, hdecodes, haccepts, if_true]
    rfl
  rw [Publication.publish]
  simp only [hlimits, hframe, Option.isNone_eq_false_iff.mpr hencoded, Bool.false_eq_true, if_false]
  simp only [Publication.answered, hcarried, hfabric, hsession, hresponses,
    hexchange, bind, Except.bind, htaken]

end Ready

/-! What the fabric takes in. -/

/-- The record as the fabric stores it for its publisher, the first under its key. -/
def MemberRecord.stamped (record : MemberRecord) (publisher : PublisherRef) : MemberRecord :=
  { record with
    generation := .first
    ownerWorker := some publisher.record.worker
    ownerBoot := some publisher.boot
    publicationGeneration := publisher.record.publicationGeneration }

def FailureDomainRecord.stamped (record : FailureDomainRecord) (publisher : PublisherRef)
    (generation : FailureDomainGeneration) : FailureDomainRecord :=
  { record with
    generation := generation
    ownerWorker := some publisher.record.worker
    ownerBoot := some publisher.boot }

namespace RackState

structure TakesNew (options : RackFabricOptions) (state : RackState) (record : MemberRecord) :
    Prop where
  valid : validateMemberRecord record options.limits = none
  live : record.lifecycle ≠ .retired
  plain : record.generation = {}
  unowned : record.ownerBoot = none
  new : record.key ∉ state.members
  room : state.members.size < options.limits.maxMembers
  references : checkReferences state.toRackGraph record = .ok ()

variable {options : RackFabricOptions} {state : RackState} {token : AuthorityToken}
  {publisher : PublisherRef}

theorem publishMember_new {record : MemberRecord} (h : TakesNew options state record)
    (hboot : token.boot = some publisher.boot)
    (hauthority : state.checkAuthority token true = .ok (some publisher)) :
    publishMember options state { authority := token, record := record } =
      ((state.commitMember (record.stamped publisher)).advancePublication (some publisher)).accept
        "MEMBER_ADDED" record.key.toStr := by
  have hnone := ExtTreeMap.getElem?_eq_none h.new
  have hclear : clearRetired record = record := by
    rw [clearRetired, if_neg h.live]
  have htarget : targetGeneration {} record = some .first := by
    rw [targetGeneration, h.plain]
    rfl
  have hadmitted : admitMember options state (some publisher)
      { authority := token, record := record } = .ok (record.stamped publisher) := by
    unfold admitMember
    simp only [bind_eq_ok, refuseIf_eq_ok, refuseSome_eq_ok, require_eq_ok, exists_and_left,
      exists_const, pure_eq_ok]
    simp [h.valid, ownerConflict, h.unowned, hnone, h.room, hclear, h.references, ownerAfter,
      hboot, htarget, MemberRecord.stamped]
  have hadded : state.members.contains (record.stamped publisher).key = false := by
    rw [← Bool.not_eq_true, ExtTreeMap.contains_iff_mem]
    exact h.new
  unfold publishMember underAuthority
  simp only [hauthority, hadmitted, bind, Except.bind, hadded, Bool.false_eq_true, if_false]
  rfl

structure TakesNewDomain (options : RackFabricOptions) (state : RackState)
    (record : FailureDomainRecord) : Prop where
  identity : (validateIdentity record.id.value).ok = true
  label : ∀ label ∈ record.label, (validateLabel label).ok = true
  valid : validateEvidence record.toObservation = none
  parents : record.parents = []
  new : record.id ∉ state.failureDomains
  room : state.failureDomains.size < options.limits.maxFailureDomains
  countable : state.generations.failureDomains.advance.isSome = true

theorem publishFailureDomain_new {record : FailureDomainRecord}
    (h : TakesNewDomain options state record) (hboot : token.boot = some publisher.boot)
    (hauthority : state.checkAuthority token true = .ok (some publisher)) :
    ∃ generation, publishFailureDomain options state { authority := token, record := record } =
      ((state.commitFailureDomain (record.stamped publisher generation)).advancePublication
        (some publisher)).accept "FAILURE_DOMAIN_ADDED" record.id.value := by
  obtain ⟨next, hnext⟩ := Option.isSome_iff_exists.mp h.countable
  have hnone := ExtTreeMap.getElem?_eq_none h.new
  have hlabel : (record.label.any fun label => !(validateLabel label).ok) = false := by
    cases hsome : record.label with
    | none => rfl
    | some label => simp [h.label label hsome]
  have hsorted : (ExtTreeSet.ofList record.parents).toList = record.parents := by
    rw [h.parents]
    rfl
  have hadmitted : admitFailureDomain options state (some publisher)
      { authority := token, record := record } =
        .ok (record.stamped publisher next) := by
    unfold admitFailureDomain
    simp only [bind_eq_ok, refuseIf_eq_ok, refuseSome_eq_ok, require_eq_ok, exists_and_left,
      exists_const, pure_eq_ok, hsorted]
    simp [h.identity, hlabel, h.valid, h.parents, hnone, h.room, hnext, ownerAfter, hboot,
      FailureDomainRecord.stamped]
  have hadded : state.failureDomains.contains (record.stamped publisher next).id = false := by
    rw [← Bool.not_eq_true, ExtTreeMap.contains_iff_mem]
    exact h.new
  refine ⟨next, ?_⟩
  unfold publishFailureDomain underAuthority
  simp only [hauthority, hadmitted, bind, Except.bind, hadded, Bool.false_eq_true, if_false]
  rfl

end RackState

theorem length_memberKey {key : MemberKey} (h : (validateIdentity key.id).ok = true) :
    key.toStr.length ≤ 176 := by
  have hid := length_le_of_validateIdentity h
  have hkind : key.kind.toStr.length ≤ 32 := by
    cases key.kind <;> decide
  have hcolon : (str ":").length = 1 := rfl
  simp only [kMaxIdentityLength] at hid
  rw [MemberKey.toStr, List.length_append, List.length_append]
  omega

/-- An acceptance is answered within the bounds. -/
theorem sendable_accept {limits : ResourceLimits} (hample : limits.Ample) (state : RackState)
    {code : String} {subject : Str} (hcode : (str code).length ≤ 32)
    (hsubject : subject.length ≤ 176) :
    (state.accept code subject).2.explanation.Sendable limits := by
  have hstrings := hample.strings
  have hpayload := hample.payload
  have hframe := hample.frame
  have hrender : (state.accept code subject).2.explanation.render.length ≤ 224 := by
    simp only [accept, makeResult, Explanation.render, decide_true, if_true, List.length_append,
      List.flatMap_nil, List.length_nil]
    have hok : (str "OK ").length = 3 := rfl
    have hstem : (str " subject=").length = 9 := rfl
    split
    · simp only [List.length_nil]
      omega
    · rw [List.length_append]
      omega
  have hcodeLength : (state.accept code subject).2.explanation.code.length ≤ 32 := hcode
  refine ⟨?_, ?_, ?_, ?_⟩ <;> omega

/-! One record more. -/

/-- What the publication of the records has come to: the fabric holds each of them for the agent,
other members are as they were, and the report counts the records. -/
structure Publication.Placed (options : CoordinatorOptions) (before after : Publication)
    (records : List MemberRecord) : Prop where
  ready : after.link.Ready options
  agent : after.link.agent.boot = before.link.agent.boot
  placed : ∀ record ∈ records, ∃ publisher, publisher.boot = before.link.agent.boot ∧
    after.link.fabric.members[record.key]? = some (record.carried.stamped publisher)
  others : ∀ key, (∀ record ∈ records, record.key ≠ key) →
    after.link.fabric.members[key]? = before.link.fabric.members[key]?
  size : after.link.fabric.members.size = before.link.fabric.members.size + records.length
  failureDomains : after.link.fabric.failureDomains = before.link.fabric.failureDomains
  members : after.report.membersPublished = before.report.membersPublished + records.length
  domains : after.report.failureDomainsPublished = before.report.failureDomainsPublished
  diagnostics : after.diagnostics = before.diagnostics

namespace Publication
variable {options : CoordinatorOptions} {before middle after publication : Publication}
  {domain : FailureDomainId} {record : MemberRecord}

theorem Placed.refl (h : publication.link.Ready options) :
    Placed options publication publication [] where
  ready := h
  agent := rfl
  placed := fun _ hnone => by cases hnone
  others := fun _ _ => rfl
  size := rfl
  failureDomains := rfl
  members := rfl
  domains := rfl
  diagnostics := rfl

theorem Placed.absent {records : List MemberRecord} (h : Placed options before after records)
    {key : MemberKey} (hother : ∀ record ∈ records, record.key ≠ key)
    (hnew : key ∉ before.link.fabric.members) : key ∉ after.link.fabric.members := by
  rw [ExtTreeMap.mem_iff_isSome_getElem?, h.others key hother,
    ← ExtTreeMap.mem_iff_isSome_getElem?]
  exact hnew

theorem Placed.trans {first second : List MemberRecord} (h : Placed options before middle first)
    (hlater : Placed options middle after second)
    (hapart : ∀ record ∈ first, ∀ other ∈ second, other.key ≠ record.key) :
    Placed options before after (first ++ second) where
  ready := hlater.ready
  agent := hlater.agent.trans h.agent
  placed := by
    intro record hrecord
    rcases List.mem_append.mp hrecord with hfirst | hsecond
    · obtain ⟨publisher, hboot, hplaced⟩ := h.placed record hfirst
      exact ⟨publisher, hboot, (hlater.others record.key (hapart record hfirst)).trans hplaced⟩
    · obtain ⟨publisher, hboot, hplaced⟩ := hlater.placed record hsecond
      exact ⟨publisher, hboot.trans h.agent, hplaced⟩
  others := by
    intro key hkey
    have hlast := hlater.others key fun record hmem => hkey record (List.mem_append_right _ hmem)
    exact hlast.trans (h.others key fun record hmem => hkey record (List.mem_append_left _ hmem))
  size := by
    rw [hlater.size, h.size, List.length_append]
    omega
  failureDomains := hlater.failureDomains.trans h.failureDomains
  members := by
    rw [hlater.members, h.members, List.length_append]
    omega
  domains := hlater.domains.trans h.domains
  diagnostics := hlater.diagnostics.trans h.diagnostics

theorem publish_member (h : publication.link.Ready options) (hample : options.limits.Ample)
    (hrecorded : Recorded options.limits domain record) (hdomain : domain.isSet = true)
    (htakes : TakesNew options.fabric publication.link.fabric record.carried) (now : Timestamp) :
    ∃ after, publication.publish options now (.member record) = (after, none) ∧
      Placed options publication after [record] := by
  obtain ⟨publisher, hauthority⟩ := h.authority
  obtain ⟨found, rfl, hboot, -⟩ := submitter_of_boot hauthority rfl
  have hnamed : publication.link.agent.nextCorrelation.Named := ⟨h.named.boot, h.named.rack⟩
  have hdelivered := delivered_member hample hrecorded hdomain hnamed
  have hpublished := publishMember_new htakes (congrArg some hboot.symm) hauthority
  have hsendable := sendable_accept hample
    ((publication.link.fabric.commitMember (record.carried.stamped found)).advancePublication
      (some found)) (show (str "MEMBER_ADDED").length ≤ 32 by decide)
    (length_memberKey hrecorded.evident.identity)
  have hsubmit : publication.link.fabric.submit options.fabric now
      (publication.link.mutation (AgentRequest.member record).carried) = (_, some _) :=
    congrArg (fun outcome => (outcome.1, some outcome.2)) hpublished
  have hstep := publish_accepted h hdelivered hsubmit rfl hsendable
  have hready := @Link.Ready.next _ _ h _ hauthority
    (publication.link.fabric.commitMember (record.carried.stamped found)) rfl rfl rfl rfl
  have hnew : publication.link.fabric.members.contains record.key = false := by
    rw [← Bool.not_eq_true, ExtTreeMap.contains_iff_mem]
    exact htakes.new
  have hinserted : (publication.link.fabric.commitMember
      (record.carried.stamped found)).members =
        publication.link.fabric.members.insert record.key (record.carried.stamped found) :=
    RackGraph.members_storeMember ..
  refine ⟨_, hstep, ?_⟩
  exact
    { ready := hready
      agent := rfl
      placed := by
        intro other hother
        obtain rfl := List.mem_singleton.mp hother
        refine ⟨found, hboot, ?_⟩
        change (publication.link.fabric.commitMember _).members[_]? = _
        rw [hinserted, ExtTreeMap.getElem?_insert_self]
      others := by
        intro key hkey
        change (publication.link.fabric.commitMember _).members[key]? = _
        have hne := hkey record List.mem_cons_self
        rw [hinserted, ExtTreeMap.getElem?_insert]
        simp [hne]
      size := by
        change (publication.link.fabric.commitMember _).members.size = _
        rw [hinserted, ExtTreeMap.size_insert]
        simp [hnew]
      failureDomains := RackGraph.failureDomains_storeMember ..
      members := rfl
      domains := rfl
      diagnostics := rfl }

structure Accommodates (limits : ResourceLimits) : Prop where
  failureDomains : 1 ≤ limits.maxFailureDomainsPerMember
  capabilities : 2 ≤ limits.maxCapabilitiesPerMember

theorem takesNew_recorded {state : RackState} (hbounds : Accommodates options.fabric.limits)
    (h : Recorded options.limits domain record) (hdomain : domain ∈ state.failureDomains)
    (hparent : ∀ key ∈ record.parent, key ≠ record.key ∧
      ∃ stored, state.members[key]? = some stored ∧ stored.parent = none)
    (hnew : record.key ∉ state.members)
    (hroom : state.members.size < options.fabric.limits.maxMembers) :
    TakesNew options.fabric state record.carried := by
  have hchain : checkParent state.toRackGraph record.carried = .ok () := by
    unfold checkParent
    cases hsome : record.carried.parent with
    | none => rfl
    | some key =>
      obtain ⟨hne, stored, hfound, htop⟩ := hparent key hsome
      have hmem := ExtTreeMap.mem_iff_isSome_getElem?.mpr (Option.isSome_of_eq_some hfound)
      have hnone : state.parentOf key = none := by
        rw [RackGraph.parentOf, hfound]
        exact htop
      have hacyclic : state.containsCycle key record.key = false := by
        simp [RackGraph.containsCycle, RackGraph.chainMeets, hne, hnone]
      have hkey : record.carried.key = record.key := rfl
      simp [hkey, hne, hmem, hacyclic]
  have hknown : (record.carried.failureDomains.forM fun id =>
      refuseIf (!state.failureDomains.contains id)
        (unknownFailureDomain record.carried.key.toStr id)) = .ok () := by
    refine forM_eq_ok.mpr fun id hid => ?_
    have hsame : record.carried.failureDomains = [domain] := h.failureDomains
    rw [hsame, List.mem_singleton] at hid
    rw [refuseIf_eq_ok, hid]
    simpa using hdomain
  have hdomains : record.carried.failureDomains.length ≤
      options.fabric.limits.maxFailureDomainsPerMember := by
    have hsame : record.carried.failureDomains = [domain] := h.failureDomains
    rw [hsame]
    exact hbounds.failureDomains
  have hcapabilities : record.carried.capabilities.length ≤
      options.fabric.limits.maxCapabilitiesPerMember := by
    have hfew := h.capabilities
    have henough := hbounds.capabilities
    simp only [MemberRecord.carried, List.length_map]
    omega
  exact
    { valid := h.evident.valid _ hdomains hcapabilities
      live := by
        have hpresent : record.carried.lifecycle = .present := h.present
        rw [hpresent]
        decide
      plain := h.plain
      unowned := rfl
      new := hnew
      room := hroom
      references := by
        have hpower : record.carried.powerDomain = none := h.powerDomain
        have hcooling : record.carried.coolingDomain = none := h.coolingDomain
        have hswitch : record.carried.switchDomain = none := h.switchDomain
        unfold checkReferences
        simp only [bind_eq_ok, exists_const, hchain, hknown, hpower, hcooling, hswitch, true_and]
        exact ⟨(), rfl, (), rfl, rfl⟩ }

/-- The records of the node and its parts are accepted one after another. -/
theorem publishAll_members {records : List MemberRecord} {top : MemberKey}
    (hample : options.limits.Ample) (hbounds : Accommodates options.fabric.limits)
    (hdomain : domain.isSet = true)
    (hrecorded : ∀ record ∈ records, Recorded options.limits domain record)
    (hparent : ∀ record ∈ records, record.parent = some top)
    (hkeys : (top :: records.map MemberRecord.key).Nodup)
    {timed : List (Timestamp × AgentRequest)} (htimed : timed.map Prod.snd = records.map .member)
    (h : publication.link.Ready options)
    (hknown : domain ∈ publication.link.fabric.failureDomains)
    (htop : ∃ stored, publication.link.fabric.members[top]? = some stored ∧ stored.parent = none)
    (hnew : ∀ record ∈ records, record.key ∉ publication.link.fabric.members)
    (hroom : publication.link.fabric.members.size + records.length ≤
      options.fabric.limits.maxMembers) :
    ∃ after, publishAll options timed publication = (after, none) ∧
      Placed options publication after records := by
  induction records generalizing timed publication with
  | nil =>
    obtain rfl := List.map_eq_nil_iff.mp htimed
    exact ⟨publication, rfl, .refl h⟩
  | cons record records ih =>
    obtain ⟨⟨now, sent⟩, rest, rfl, hsent, hrest⟩ := List.map_eq_cons_iff.mp htimed
    obtain rfl : sent = .member record := hsent
    rw [List.map_cons, List.nodup_cons, List.nodup_cons] at hkeys
    obtain ⟨hapart, hfresh, hnodup⟩ := hkeys
    rw [List.length_cons] at hroom
    have htakes := takesNew_recorded hbounds (hrecorded record List.mem_cons_self) hknown
      (fun key hkey => by
        rw [hparent record List.mem_cons_self] at hkey
        obtain rfl := Option.some.inj hkey
        exact ⟨fun hsame => hapart (hsame ▸ List.mem_cons_self), htop⟩)
      (hnew record List.mem_cons_self) (by omega)
    obtain ⟨middle, hpublish, hplaced⟩ :=
      publish_member h hample (hrecorded record List.mem_cons_self) hdomain htakes now
    have hothers : ∀ other ∈ records, other.key ≠ record.key := fun other hmem hsame =>
      hfresh (hsame ▸ List.mem_map_of_mem hmem)
    have hsize := hplaced.size
    rw [List.length_singleton] at hsize
    obtain ⟨after, hpublishAll, hlater⟩ := ih (fun other hmem =>
        hrecorded other (List.mem_cons_of_mem _ hmem))
      (fun other hmem => hparent other (List.mem_cons_of_mem _ hmem))
      (List.nodup_cons.mpr ⟨fun hmem => hapart (List.mem_cons_of_mem _ hmem), hnodup⟩) hrest
      hplaced.ready (hplaced.failureDomains ▸ hknown)
      (by
        rw [hplaced.others top (List.forall_mem_singleton.mpr fun hsame =>
          hapart (hsame ▸ List.mem_cons_self))]
        exact htop)
      (fun other hmem => hplaced.absent
        (List.forall_mem_singleton.mpr (hothers other hmem).symm)
        (hnew other (List.mem_cons_of_mem _ hmem)))
      (by omega)
    refine ⟨after, ?_, ?_⟩
    · rw [publishAll, hpublish]
      exact hpublishAll
    · exact hplaced.trans hlater (List.forall_mem_singleton.mpr hothers)

structure PlacedDomain (options : CoordinatorOptions) (before after : Publication)
    (record : FailureDomainRecord) : Prop where
  ready : after.link.Ready options
  agent : after.link.agent.boot = before.link.agent.boot
  placed : ∃ publisher generation, publisher.boot = before.link.agent.boot ∧
    after.link.fabric.failureDomains[record.id]? =
      some (record.carried.stamped publisher generation)
  kept : after.link.fabric.members = before.link.fabric.members
  members : after.report.membersPublished = before.report.membersPublished
  domains : after.report.failureDomainsPublished = before.report.failureDomainsPublished + 1
  diagnostics : after.diagnostics = before.diagnostics

theorem publish_failureDomain {record : FailureDomainRecord}
    (h : publication.link.Ready options) (hample : options.limits.Ample)
    (hrecorded : RecordedDomain record)
    (htakes : TakesNewDomain options.fabric publication.link.fabric record.carried)
    (now : Timestamp) :
    ∃ after, publication.publish options now (.failureDomain record) = (after, none) ∧
      PlacedDomain options publication after record := by
  obtain ⟨publisher, hauthority⟩ := h.authority
  obtain ⟨found, rfl, hboot, -⟩ := submitter_of_boot hauthority rfl
  have hnamed : publication.link.agent.nextCorrelation.Named := ⟨h.named.boot, h.named.rack⟩
  have hdelivered := delivered_failureDomain hample hrecorded hnamed
  obtain ⟨generation, hpublished⟩ :=
    publishFailureDomain_new htakes (congrArg some hboot.symm) hauthority
  have hsubject : record.carried.id.value.length ≤ 176 :=
    (length_le_of_validateIdentity hrecorded.identity).trans (by decide)
  have hsendable := sendable_accept hample
    ((publication.link.fabric.commitFailureDomain
      (record.carried.stamped found generation)).advancePublication (some found))
    (show (str "FAILURE_DOMAIN_ADDED").length ≤ 32 by decide) hsubject
  have hsubmit : publication.link.fabric.submit options.fabric now
      (publication.link.mutation (AgentRequest.failureDomain record).carried) = (_, some _) :=
    congrArg (fun outcome => (outcome.1, some outcome.2)) hpublished
  have hstep := publish_accepted h hdelivered hsubmit rfl hsendable
  have hready := @Link.Ready.next _ _ h _ hauthority
    (publication.link.fabric.commitFailureDomain (record.carried.stamped found generation))
    rfl rfl rfl rfl
  have hinserted : (publication.link.fabric.commitFailureDomain
      (record.carried.stamped found generation)).failureDomains =
        publication.link.fabric.failureDomains.insert record.id
          (record.carried.stamped found generation) :=
    RackGraph.failureDomains_storeFailureDomain ..
  refine ⟨_, hstep, ?_⟩
  exact
    { ready := hready
      agent := rfl
      placed := by
        refine ⟨found, generation, hboot, ?_⟩
        change (publication.link.fabric.commitFailureDomain _).failureDomains[_]? = _
        rw [hinserted, ExtTreeMap.getElem?_insert_self]
      kept := RackGraph.members_storeFailureDomain ..
      members := rfl
      domains := rfl
      diagnostics := rfl }

end Publication

/-! All of what is discovered. -/

namespace Discovery
variable {platform : Platform} {hardware : HardwareDiscoveryOptions}

theorem isSet_nodeDomain (h : Discoverable platform hardware) :
    (nodeDomain platform hardware).isSet = true := by
  unfold nodeDomain
  split
  · assumption
  · rw [StrongId.isSet_iff_valid, Synthetic.value_ofText (valid_nodeDomainText h)]
    exact valid_nodeDomainText h

theorem recorded_failureDomain (h : Discoverable platform hardware) :
    RecordedDomain (failureDomain platform hardware (nodeDomain platform hardware)) where
  identity := (StrongId.isSet_iff_valid _).mp (isSet_nodeDomain h)
  label := by
    intro label hlabel
    obtain rfl := Option.some.inj hlabel
    decide
  evidence := valid_measured h .failureDomain
  present := rfl
  parents := rfl
  source := rfl

def discovered (platform : Platform) (hardware : HardwareDiscoveryOptions) : List MemberRecord :=
  members platform hardware (nodeIdText platform hardware) (nodeDomain platform hardware)

theorem publicationOrder_discovered :
    publicationOrder (discovered platform hardware) = discovered platform hardware := by
  refine publicationOrder_of_ranked fun record hrecord => ?_
  unfold discovered at hrecord
  rw [members_eq] at hrecord
  rcases List.mem_cons.mp hrecord with rfl | hpart
  · rfl
  · have hkind := (part_of_mem ((List.mem_insertionSort _).mp hpart)).1
    unfold publicationRank
    simp only [List.mem_cons, List.not_mem_nil, or_false] at hkind
    rcases hkind with hkind | hkind | hkind <;> simp [hkind]

theorem nodup_discovered (h : Discoverable platform hardware) :
    ((discovered platform hardware).map MemberRecord.key).Nodup := by
  unfold discovered
  rw [members_eq, List.map_cons, List.nodup_cons]
  have hperm : (Synthetic.sortBy (·.key) (parts platform hardware (nodeIdText platform hardware)
      (nodeDomain platform hardware))).Perm _ := List.perm_insertionSort _ _
  refine ⟨fun hmem => ?_, (hperm.map MemberRecord.key).nodup_iff.mpr (nodup_parts h)⟩
  obtain ⟨record, hrecord, hsame⟩ := List.mem_map.mp hmem
  have hlt := node_lt (nodeIdText platform hardware) (part_of_mem (hperm.mem_iff.mp hrecord)).1
  rw [hsame] at hlt
  exact absurd (hlt.symm.trans Std.ReflCmp.compare_self) (by decide)

end Discovery

/-- The fabric has room for what is discovered and holds none of it, but for a failure domain that
is configured. -/
structure RackState.Awaits (options : RackFabricOptions) (state : RackState) (platform : Platform)
    (hardware : HardwareDiscoveryOptions) : Prop where
  bounds : Publication.Accommodates options.limits
  room : state.members.size + (Discovery.discovered platform hardware).length ≤
    options.limits.maxMembers
  new : ∀ record ∈ Discovery.discovered platform hardware, record.key ∉ state.members
  configured : hardware.nodeFailureDomain.isSet = true →
    hardware.nodeFailureDomain ∈ state.failureDomains
  domain : hardware.nodeFailureDomain.isSet = false →
    Discovery.nodeDomain platform hardware ∉ state.failureDomains ∧
      state.failureDomains.size < options.limits.maxFailureDomains ∧
        state.generations.failureDomains.advance.isSome = true

namespace Publication
variable {options : CoordinatorOptions} {publication : Publication} {platform : Platform}
  {hardware : HardwareDiscoveryOptions}

/-- Everything that is discovered is in the fabric, stored for the agent, and counted; the other
members are as they were; and the agent can go on. -/
structure Completed (options : CoordinatorOptions) (discovery : HardwareDiscoveryResult)
    (before after : Publication) : Prop where
  ready : after.link.Ready options
  placed : ∀ record ∈ discovery.members, ∃ publisher, publisher.boot = before.link.agent.boot ∧
    after.link.fabric.members[record.key]? = some (record.carried.stamped publisher)
  placedDomains : ∀ record ∈ discovery.failureDomains, ∃ publisher generation,
    publisher.boot = before.link.agent.boot ∧
      after.link.fabric.failureDomains[record.id]? =
        some (record.carried.stamped publisher generation)
  others : ∀ key, (∀ record ∈ discovery.members, record.key ≠ key) →
    after.link.fabric.members[key]? = before.link.fabric.members[key]?
  members : after.report.membersPublished =
    before.report.membersPublished + discovery.members.length
  domains : after.report.failureDomainsPublished =
    before.report.failureDomainsPublished + discovery.failureDomains.length
  diagnostics : after.diagnostics = discovery.reported

theorem publishAll_discovered (hample : options.limits.Ample)
    (hbounds : Accommodates options.fabric.limits)
    (hdiscoverable : Discovery.Discoverable platform hardware)
    (hbrief : platform.Brief options.limits)
    {timed : List (Timestamp × AgentRequest)}
    (htimed : timed.map Prod.snd = (Discovery.discovered platform hardware).map .member)
    (h : publication.link.Ready options)
    (hknown : Discovery.nodeDomain platform hardware ∈ publication.link.fabric.failureDomains)
    (hnew : ∀ record ∈ Discovery.discovered platform hardware,
      record.key ∉ publication.link.fabric.members)
    (hroom : publication.link.fabric.members.size +
      (Discovery.discovered platform hardware).length ≤ options.fabric.limits.maxMembers) :
    ∃ after, publishAll options timed publication = (after, none) ∧
      Placed options publication after (Discovery.discovered platform hardware) := by
  have hdomain := Discovery.isSet_nodeDomain hdiscoverable
  have hkeys := Discovery.nodup_discovered hdiscoverable
  unfold Discovery.discovered at htimed hnew hroom hkeys ⊢
  rw [Discovery.members_eq] at htimed hnew hroom hkeys ⊢
  generalize hparts : Synthetic.sortBy (·.key) (Discovery.parts platform hardware
    (Discovery.nodeIdText platform hardware) (Discovery.nodeDomain platform hardware)) = parts at *
  have hpart : ∀ record ∈ parts, record ∈ Discovery.parts platform hardware
      (Discovery.nodeIdText platform hardware) (Discovery.nodeDomain platform hardware) := by
    intro record hrecord
    rw [← hparts] at hrecord
    exact (List.mem_insertionSort _).mp hrecord
  obtain ⟨⟨now, sent⟩, rest, rfl, hsent, hrest⟩ := List.map_eq_cons_iff.mp htimed
  obtain rfl : sent = .member _ := hsent
  rw [List.length_cons] at hroom
  -- the node comes first, and its parts find it
  have hnode := @Discovery.recorded_node platform hardware options.limits
    (Discovery.nodeDomain platform hardware) hample hdiscoverable hbrief
  have htakes := takesNew_recorded hbounds hnode hknown (fun key hkey => by cases hkey)
    (hnew _ List.mem_cons_self) (by omega)
  obtain ⟨middle, hpublish, hplaced⟩ := publish_member h hample hnode hdomain htakes now
  obtain ⟨publisher, -, htop⟩ := hplaced.placed _ List.mem_cons_self
  have hapart := List.nodup_cons.mp hkeys
  have hsize := hplaced.size
  rw [List.length_singleton] at hsize
  have hothers : ∀ other ∈ parts, other.key ≠ (Discovery.node platform hardware
      (Discovery.nodeIdText platform hardware) (Discovery.nodeDomain platform hardware)).key :=
    fun other hmem hsame => hapart.1 (hsame ▸ List.mem_map_of_mem hmem)
  obtain ⟨after, hpublishAll, hlater⟩ := publishAll_members hample hbounds hdomain
    (fun record hrecord => Discovery.recorded_of_mem hample hdiscoverable hbrief
      (hpart record hrecord))
    (fun record hrecord => (Discovery.part_of_mem (hpart record hrecord)).2.1) hkeys hrest
    hplaced.ready (hplaced.failureDomains ▸ hknown) ⟨_, htop, rfl⟩
    (fun other hmem => hplaced.absent
      (List.forall_mem_singleton.mpr (hothers other hmem).symm)
      (hnew other (List.mem_cons_of_mem _ hmem)))
    (by omega)
  refine ⟨after, ?_, ?_⟩
  · rw [publishAll, hpublish]
    exact hpublishAll
  · exact hplaced.trans hlater (List.forall_mem_singleton.mpr hothers)

/-- The requests of a discovery are sent in order. -/
theorem doPublish_eq (options : CoordinatorOptions) {discovery : HardwareDiscoveryResult}
    (hdiscovery : discoverLocalHardware platform hardware = some discovery)
    (hok : discovery.ok = true) (clock : Nat → Timestamp) (publication : Publication) :
    ∃ timed, publication.doPublish options platform true hardware clock =
        some (publishAll options timed { publication with diagnostics := discovery.reported }) ∧
      timed.map Prod.snd = discovery.requests := by
  refine ⟨discovery.requests.zipIdx.map fun pair => (clock pair.2, pair.1), ?_, ?_⟩
  · simp only [doPublish, hdiscovery, hok, Option.map_some, Bool.not_true, Bool.false_eq_true,
      if_false]
  · rw [List.map_map]
    exact List.zipIdx_map_fst 0 discovery.requests

/-- A registered agent whose fabric awaits its host publishes all that it discovers, and the
report counts it. -/
theorem publication_completes (options : CoordinatorOptions) (platform : Platform)
    (hardware : HardwareDiscoveryOptions) (clock : Nat → Timestamp) (publication : Publication)
    (hample : options.limits.Ample) (hbrief : platform.Brief options.limits)
    (hdiscoverable : Discovery.Discoverable platform hardware)
    (hready : publication.link.Ready options)
    (hawaits : publication.link.fabric.Awaits options.fabric platform hardware) :
    ∃ discovery after, discoverLocalHardware platform hardware = some discovery ∧
      publication.doPublish options platform true hardware clock = some (after, none) ∧
        Completed options discovery publication after := by
  obtain ⟨discovery, hdiscovery, hok, hdomains, hmembers⟩ := Discovery.discover_eq hdiscoverable
  change discovery.members = Discovery.discovered platform hardware at hmembers
  obtain ⟨timed, hpublish, hrequests⟩ := doPublish_eq options hdiscovery hok clock publication
  have hsent : timed.map Prod.snd = discovery.failureDomains.map .failureDomain ++
      (Discovery.discovered platform hardware).map .member := by
    rw [hrequests, HardwareDiscoveryResult.requests, hmembers,
      Discovery.publicationOrder_discovered]
  refine ⟨discovery, ?_⟩
  simp only [hdiscovery, hpublish, Option.some.injEq, true_and]
  cases hset : hardware.nodeFailureDomain.isSet with
  | true =>
    have hnone : discovery.failureDomains = [] := by
      rw [hdomains, Discovery.failureDomains, if_pos hset]
    have hnamed : Discovery.nodeDomain platform hardware = hardware.nodeFailureDomain := by
      rw [Discovery.nodeDomain, if_pos hset]
    rw [hnone, List.map_nil, List.nil_append] at hsent
    obtain ⟨after, hall, hplaced⟩ := @publishAll_discovered options
      { publication with diagnostics := discovery.reported } platform hardware hample
      hawaits.bounds hdiscoverable hbrief timed hsent hready
      (hnamed ▸ hawaits.configured hset) hawaits.new hawaits.room
    refine ⟨after, hall, ?_⟩
    rw [← hmembers] at hplaced
    exact
      { ready := hplaced.ready
        placed := hplaced.placed
        placedDomains := by
          rw [hnone]
          intro record hrecord
          cases hrecord
        others := hplaced.others
        members := hplaced.members
        domains := by
          rw [hplaced.domains, hnone]
          rfl
        diagnostics := hplaced.diagnostics }
  | false =>
    obtain ⟨hnew, hroom, hcountable⟩ := hawaits.domain hset
    have hone : discovery.failureDomains = [Discovery.failureDomain platform hardware
        (Discovery.nodeDomain platform hardware)] := by
      rw [hdomains, Discovery.failureDomains, if_neg (by simp [hset])]
    rw [hone, List.map_singleton, List.singleton_append] at hsent
    obtain ⟨⟨now, sent⟩, rest, rfl, hfirst, hrest⟩ := List.map_eq_cons_iff.mp hsent
    obtain rfl : sent = .failureDomain _ := hfirst
    have hrecorded := Discovery.recorded_failureDomain hdiscoverable
    obtain ⟨middle, hfirst, hdomain⟩ := @publish_failureDomain options
      { publication with diagnostics := discovery.reported } _ hready hample hrecorded
      { identity := hrecorded.identity
        label := hrecorded.label
        valid := hrecorded.evidence
        parents := rfl
        new := hnew
        room := hroom
        countable := hcountable } now
    obtain ⟨publisher, generation, hboot, hstored⟩ := hdomain.placed
    have hknown : Discovery.nodeDomain platform hardware ∈ middle.link.fabric.failureDomains :=
      ExtTreeMap.mem_iff_isSome_getElem?.mpr (Option.isSome_of_eq_some hstored)
    obtain ⟨after, hall, hplaced⟩ := publishAll_discovered hample hawaits.bounds hdiscoverable
      hbrief hrest hdomain.ready hknown (hdomain.kept ▸ hawaits.new) (hdomain.kept ▸ hawaits.room)
    refine ⟨after, ?_, ?_⟩
    · rw [publishAll, hfirst]
      exact hall
    · rw [← hmembers] at hplaced
      exact
        { ready := hplaced.ready
          placed := fun record hrecord => by
            obtain ⟨found, hfound, hmember⟩ := hplaced.placed record hrecord
            exact ⟨found, hfound.trans hdomain.agent, hmember⟩
          placedDomains := by
            rw [hone]
            refine List.forall_mem_singleton.mpr ⟨publisher, generation, hboot, ?_⟩
            rw [hplaced.failureDomains]
            exact hstored
          others := fun key hkey => by
            rw [hplaced.others key hkey, hdomain.kept]
          members := by
            rw [hplaced.members, hdomain.members]
          domains := by
            rw [hplaced.domains, hdomain.domains, hone]
            rfl
          diagnostics := hplaced.diagnostics.trans hdomain.diagnostics }

end Publication

/-! A host of one package, one memory domain and one adapter. -/

namespace Scenario

def host : Platform where
  hostName := str "node-a"
  physicalMemoryBytes := some 68719476736
  processorArchitecture := .amd64
  numberOfProcessors := 8
  processorPackages := .entries [{ relationship := .processorPackage, size := 48, groupCount := 8 }]
  numaNodes := .entries [{ relationship := .numaNode, size := 48 }]
  adapters := .found [{ description := str "ethernet", transmitLinkSpeed := 10000000000 }]
  clock := fun _ => ⟨1000⟩

def awaitsHost (link : Link) : Bool :=
  link.session.boot = some link.agent.boot &&
    (link.fabric.checkAuthority
      (tokenFor link.fabric link.agent.boot link.agent.token) true).toOption.isSome &&
    link.agent.boot.isSet && link.agent.rack.all (·.isSet) &&
    link.agent.limits = ({} : ResourceLimits) &&
    link.fabric.members.size + (Discovery.discovered host {}).length ≤ 1000000 &&
    (Discovery.discovered host {}).all (fun record => !link.fabric.members.contains record.key) &&
    !link.fabric.failureDomains.contains (Discovery.nodeDomain host {}) &&
    link.fabric.failureDomains.size < 100000 &&
    link.fabric.generations.failureDomains.advance.isSome

theorem ready_of_awaitsHost {link : Link} (h : awaitsHost link = true) : link.Ready {} := by
  simp only [awaitsHost, Bool.and_eq_true, decide_eq_true_eq, Option.all_eq_true] at h
  obtain ⟨⟨⟨⟨⟨⟨⟨⟨⟨hsession, hauthority⟩, hboot⟩, hrack⟩, hlimits⟩, -⟩, -⟩, -⟩, -⟩, -⟩ := h
  exact ⟨hsession, ok_of_isSome hauthority, ⟨hboot, hrack⟩, hlimits⟩

theorem awaits_of_awaitsHost {link : Link} (h : awaitsHost link = true) :
    link.fabric.Awaits {} host {} := by
  simp only [awaitsHost, Bool.and_eq_true, decide_eq_true_eq, List.all_eq_true,
    Bool.not_eq_true', ← Bool.not_eq_true, ExtTreeMap.contains_iff_mem] at h
  obtain ⟨⟨⟨⟨⟨-, hroom⟩, hnew⟩, hdomain⟩, hdomainRoom⟩, hcountable⟩ := h
  exact
    { bounds := ⟨by decide, by decide⟩
      room := hroom
      new := hnew
      configured := fun hset => by cases hset
      domain := fun _ => ⟨hdomain, hdomainRoom, hcountable⟩ }

theorem discoverable_host : Discovery.Discoverable host {} where
  identity := by decide +kernel
  short := by decide +kernel
  source := by decide +kernel
  lifetime := by decide +kernel
  expires := fun _ => by decide
  dated := fun _ => rfl
  counted := by decide +kernel

theorem brief_host : host.Brief {} where
  hostName := by decide
  operatingSystem := fun _ hnone => by cases hnone
  descriptions := by
    intro found hfound
    obtain rfl := Option.some.inj hfound
    exact List.forall_mem_singleton.mpr (by decide)

end Scenario

namespace Publication

theorem host_publication_completes :
    ∃ link, Scenario.connect = .ok link ∧
      ∃ discovery after, discoverLocalHardware Scenario.host {} = some discovery ∧
        Publication.doPublish {} Scenario.host true {} (fun _ => ⟨1000⟩) { link := link } =
          some (after, none) ∧ Completed {} discovery { link := link } after := by
  obtain ⟨link, hconnect, hawaits⟩ :=
    @ok_of_any _ _ Scenario.connect Scenario.awaitsHost (by decide +kernel)
  exact ⟨link, hconnect, publication_completes {} Scenario.host {} _ { link := link }
    ⟨by decide, by decide, by decide, by decide, by decide⟩ Scenario.brief_host
    Scenario.discoverable_host (Scenario.ready_of_awaitsHost hawaits)
    (Scenario.awaits_of_awaitsHost hawaits)⟩

end Publication

end RackFabric
