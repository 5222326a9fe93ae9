import RackFabric.Library.Filing
import RackFabric.Model.Synthetic
import RackFabric.Properties.Cycles

/-! What a fabric holds that an operator fills, record by record. -/
namespace RackFabric
open Std Filing Synthetic Relation

/-! Records without the generation that the fabric stamps on them. -/

def MemberRecord.unstamped (record : MemberRecord) : MemberRecord :=
  { record with generation := {} }

def RelationshipRecord.unstamped (record : RelationshipRecord) : RelationshipRecord :=
  { record with generation := {} }

def FailureDomainRecord.unstamped (record : FailureDomainRecord) : FailureDomainRecord :=
  { record with generation := {} }

/-! The first envelopes as they are stored: stamped, with their headroom derived, and the
zones in the order of their identities. -/

def PowerEnvelopeRecord.stored (record : PowerEnvelopeRecord) (now : Timestamp) :
    PowerEnvelopeRecord :=
  PowerEnvelopeRecord.recomputeDerived { record with generation := .first } now

def CoolingEnvelopeRecord.stored (record : CoolingEnvelopeRecord) (now : Timestamp) :
    CoolingEnvelopeRecord :=
  CoolingEnvelopeRecord.recomputeDerived
    { record with generation := .first, zones := sortBy (·.zone) record.zones } now

/-- The records in the order of their publication, and the envelopes as they are stored. -/
structure Contents where
  members : List MemberRecord := []
  relationships : List RelationshipRecord := []
  failureDomains : List FailureDomainRecord := []
  power : Option PowerEnvelopeRecord := none
  cooling : Option CoolingEnvelopeRecord := none

namespace RackState

structure Holds (state : RackState) (token : AuthorityToken) (contents : Contents) : Prop where
  authority : state.checkAuthority token true = .ok none
  members : Files MemberRecord.key MemberRecord.unstamped state.members contents.members
  relationships :
    Files RelationshipRecord.key RelationshipRecord.unstamped state.relationships
      contents.relationships
  failureDomains :
    Files FailureDomainRecord.id FailureDomainRecord.unstamped state.failureDomains
      contents.failureDomains
  power : state.power = contents.power
  cooling : state.cooling = contents.cooling
  topologyCount : state.generations.topology.value.toNat = contents.relationships.length
  domainCount : state.generations.failureDomains.value.toNat = contents.failureDomains.length
  powerCount : contents.power = none → state.generations.power = {}
  coolingCount : contents.cooling = none → state.generations.cooling = {}

def Yields (outcome : RackState × MutationResult) (token : AuthorityToken) (contents : Contents) :
    Prop :=
  outcome.2.outcome.isAccepted = true ∧ outcome.1.Holds token contents

variable {options : RackFabricOptions} {state after : RackState} {token : AuthorityToken}
  {contents : Contents}

theorem checkAuthority_congr (hboot : token.boot = none) (hrack : after.rack = state.rack)
    (hepoch : after.generations.coordinatorEpoch = state.generations.coordinatorEpoch) :
    after.checkAuthority token true = state.checkAuthority token true := by
  simp [checkAuthority, checkRack, hrack, hepoch, hboot]

theorem Holds.advance (h : state.Holds token contents) (hboot : token.boot = none) :
    (state.advancePublication none).Holds token contents where
  authority := (checkAuthority_congr hboot rfl rfl).trans h.authority
  members := h.members
  relationships := h.relationships
  failureDomains := h.failureDomains
  power := h.power
  cooling := h.cooling
  topologyCount := h.topologyCount
  domainCount := h.domainCount
  powerCount := h.powerCount
  coolingCount := h.coolingCount

/-- What an operator's admitted mutation commits is what the contents become. -/
theorem yields_of_admitted {α : Type} {check : Option PublisherRef → Except Refusal α}
    (commit : α → RackState) {rest : α → Except Refusal (RackState × String × Str)}
    (hrest : ∀ value, ∃ code subject, rest value = .ok (commit value, code, subject)) {value : α}
    (hboot : token.boot = none) (hauthority : state.checkAuthority token true = .ok none)
    (hcheck : check none = .ok value) (hholds : (commit value).Holds token contents) :
    Yields (state.underAuthority token fun publisher => check publisher >>= rest) token
      contents := by
  obtain ⟨code, subject, hcommitted⟩ := hrest value
  unfold underAuthority
  simp only [hauthority, hcheck, hcommitted, bind, Except.bind]
  exact ⟨rfl, hholds.advance hboot⟩

theorem advance_of_lt {tag : GenerationTag} {generation : Generation tag}
    (h : generation.value.toNat + 1 < 2 ^ 64) :
    ∃ next, generation.advance = some next ∧
      next.value.toNat = generation.value.toNat + 1 := by
  have hnotlast : generation.value ≠ 0xFFFFFFFFFFFFFFFF := by
    intro hlast
    rw [hlast] at h
    exact absurd h (by decide)
  refine ⟨⟨generation.value + 1⟩, ?_, ?_⟩
  · rw [Generation.advance_eq_next, Generation.next, if_neg hnotlast]
  · rw [UInt64.toNat_add]
    exact Nat.mod_eq_of_lt h

theorem ownerAfter_operator (hboot : token.boot = none) (publisher : Option PublisherRef)
    (worker : Option WorkerId) (boot : Option AgentBootId) :
    ownerAfter token publisher worker boot = (worker, boot) := by
  simp [ownerAfter, hboot]

theorem ownerConflict_operator (hboot : token.boot = none) (existing : Option AgentBootId) :
    ownerConflict existing token = false := by
  simp [ownerConflict, hboot]

namespace Holds
variable (h : state.Holds token contents) (hboot : token.boot = none)
include h

theorem member_mem_iff {key : MemberKey} :
    key ∈ state.members ↔ ∃ record ∈ contents.members, record.key = key :=
  h.members.mem_iff fun _ => rfl

theorem failureDomain_mem_iff {id : FailureDomainId} :
    id ∈ state.failureDomains ↔ ∃ record ∈ contents.failureDomains, record.id = id :=
  h.failureDomains.mem_iff fun _ => rfl

/-- A member on top of its chain is no part of a cycle through a new member. -/
theorem containsCycle_of_top {record : MemberRecord} (hmem : record ∈ contents.members)
    (htop : record.parent = none) {child : MemberKey} (hne : record.key ≠ child) :
    state.containsCycle record.key child = false := by
  obtain ⟨stored, hfound, hview⟩ := h.members.found (fun _ => rfl) hmem
  have hparent : stored.parent = none := by
    rw [← htop, ← hview]
    rfl
  have hnone : state.parentOf record.key = none := by
    rw [RackGraph.parentOf, hfound]
    exact hparent
  simp [RackGraph.containsCycle, RackGraph.chainMeets, hne, hnone]

theorem domainContainsCycle_of_top {record : FailureDomainRecord}
    (hmem : record ∈ contents.failureDomains) (htop : record.parents = [])
    {child : FailureDomainId} (hne : record.id ≠ child) :
    state.domainContainsCycle record.id child = false := by
  obtain ⟨stored, hfound, hview⟩ := h.failureDomains.found (fun _ => rfl) hmem
  have hparents : stored.parents = [] := by
    rw [← htop, ← hview]
    rfl
  have hnoedge : ∀ parent, ¬ state.DomainEdge record.id parent := by
    intro parent hedge
    obtain ⟨other, hother, hmem⟩ := RackGraph.domainEdge_iff.mp hedge
    obtain rfl : stored = other := Option.some.inj (hfound.symm.trans hother)
    simp [hparents] at hmem
  by_contra hcycle
  have hpath := RackGraph.domainContainsCycle_iff.mp (Bool.not_eq_false _ ▸ hcycle)
  rcases ReflTransGen.cases_head hpath with heq | ⟨parent, hedge, -⟩
  · exact hne heq
  · exact hnoedge parent hedge

theorem permMembers {members : List MemberRecord} (hperm : contents.members.Perm members) :
    state.Holds token { contents with members := members } :=
  { h with members := h.members.perm hperm }

theorem permFailureDomains {failureDomains : List FailureDomainRecord}
    (hperm : contents.failureDomains.Perm failureDomains) :
    state.Holds token { contents with failureDomains := failureDomains } :=
  { h with
    failureDomains := h.failureDomains.perm hperm
    domainCount := h.domainCount.trans hperm.length_eq }

theorem checkDomainMember_ok {tag : IdentityTag} {kind : MemberKind}
    {domain : Option (StrongId tag)} {code detail : String} {subject : Str}
    (hdomain : ∀ id ∈ domain, ∃ found ∈ contents.members, found.key = .ofId kind id) :
    checkDomainMember state.toRackGraph kind domain code detail subject = .ok () := by
  rw [checkDomainMember, refuseIf_eq_ok]
  cases domain with
  | none => rfl
  | some id => simpa using h.member_mem_iff.mpr (hdomain id rfl)

/-- What a member refers to is among the contents, its parent on top of a chain. -/
theorem checkReferences_ok {record : MemberRecord}
    (hparent : ∀ key ∈ record.parent, key ≠ record.key ∧
      ∃ found ∈ contents.members, found.key = key ∧ found.parent = none)
    (hdomains : ∀ id ∈ record.failureDomains, ∃ found ∈ contents.failureDomains, found.id = id)
    (hpower : ∀ id ∈ record.powerDomain, ∃ found ∈ contents.members,
      found.key = .ofId .powerDomain id)
    (hcooling : ∀ id ∈ record.coolingDomain, ∃ found ∈ contents.members,
      found.key = .ofId .coolingDomain id)
    (hswitch : record.switchDomain = none) :
    checkReferences state.toRackGraph record = .ok () := by
  have hchain : checkParent state.toRackGraph record = .ok () := by
    unfold checkParent
    cases hsome : record.parent with
    | none => rfl
    | some key =>
      obtain ⟨hne, found, hfound, rfl, htop⟩ := hparent key hsome
      have hmem := h.member_mem_iff.mpr ⟨found, hfound, rfl⟩
      simp [hne, hmem, h.containsCycle_of_top hfound htop hne]
  have hknown : (record.failureDomains.forM fun domain =>
      refuseIf (!state.failureDomains.contains domain)
        (unknownFailureDomain record.key.toStr domain)) = .ok () := by
    refine forM_eq_ok.mpr fun id hid => ?_
    rw [refuseIf_eq_ok]
    simpa using h.failureDomain_mem_iff.mpr (hdomains id hid)
  unfold checkReferences
  simp only [bind_eq_ok, exists_const, hchain, hknown, h.checkDomainMember_ok hpower,
    h.checkDomainMember_ok hcooling, hswitch, true_and]
  rfl

/-! The publications of new records. -/

structure TakesMember (options : RackFabricOptions) (state : RackState) (contents : Contents)
    (record : MemberRecord) : Prop where
  valid : validateMemberRecord record options.limits = none
  live : record.lifecycle ≠ .retired
  plain : record.generation = {}
  new : ∀ existing ∈ contents.members, existing.key ≠ record.key
  room : contents.members.length < options.limits.maxMembers
  references : checkReferences state.toRackGraph record = .ok ()

include hboot in
theorem yields_member {record : MemberRecord} (htakes : TakesMember options state contents record) :
    Yields (publishMemberRecord options token state record) token
      { contents with members := contents.members ++ [record] } := by
  have hnew := h.members.not_mem (fun _ => rfl) htakes.new
  have hnone := ExtTreeMap.getElem?_eq_none hnew
  have hroom : state.members.size < options.limits.maxMembers :=
    h.members.size_eq ▸ htakes.room
  have hclear : clearRetired record = record := by
    rw [clearRetired, if_neg htakes.live]
  have htarget : targetGeneration {} record = some .first := by
    rw [targetGeneration, htakes.plain]
    rfl
  have hadmitted : admitMember options state none { authority := token, record := record } =
      .ok { record with generation := .first } := by
    unfold admitMember
    simp only [bind_eq_ok, refuseIf_eq_ok, refuseSome_eq_ok, require_eq_ok, exists_and_left,
      exists_const, pure_eq_ok]
    simp [htakes.valid, ownerConflict_operator hboot, hnone, hroom, hclear, htakes.references,
      ownerAfter_operator hboot, htarget]
  have hfiled := h.members.insert { record with generation := .first } hnew
    (show _ = record by rw [MemberRecord.unstamped, ← htakes.plain])
  refine yields_of_admitted state.commitMember (fun _ => ⟨_, _, rfl⟩) hboot h.authority hadmitted ?_
  exact
    { authority := (checkAuthority_congr hboot rfl rfl).trans h.authority
      members := by simpa [commitMember] using hfiled
      relationships := by simpa [commitMember] using h.relationships
      failureDomains := by simpa [commitMember] using h.failureDomains
      power := h.power
      cooling := h.cooling
      topologyCount := h.topologyCount
      domainCount := h.domainCount
      powerCount := h.powerCount
      coolingCount := h.coolingCount }

structure TakesRelationship (options : RackFabricOptions) (state : RackState)
    (contents : Contents) (record : RelationshipRecord) : Prop where
  canonical : record.key.canonical = record.key
  distinct : record.key.source ≠ record.key.target
  valid : validateEvidence record.toObservation = none
  unmeasured : record.capacity = none
  plain : record.generation = {}
  endpoints : checkEndpoints state.toRackGraph record.key = .ok ()
  new : ∀ existing ∈ contents.relationships, existing.key ≠ record.key
  room : contents.relationships.length < options.limits.maxRelationships
  countable : contents.relationships.length + 1 < 2 ^ 64

include hboot in
theorem yields_relationship {record : RelationshipRecord}
    (htakes : TakesRelationship options state contents record) :
    Yields (state.publishRelationship options { authority := token, record := record }) token
      { contents with relationships := contents.relationships ++ [record] } := by
  have hnew := h.relationships.not_mem (fun _ => rfl) htakes.new
  have hnone := ExtTreeMap.getElem?_eq_none hnew
  have hroom : state.relationships.size < options.limits.maxRelationships :=
    h.relationships.size_eq ▸ htakes.room
  obtain ⟨next, hnext, hcount⟩ := advance_of_lt (h.topologyCount ▸ htakes.countable)
  have hadmitted : admitRelationship options state none { authority := token, record := record } =
      .ok { record with generation := next } := by
    unfold admitRelationship
    simp only [bind_eq_ok, refuseIf_eq_ok, refuseSome_eq_ok, require_eq_ok, exists_and_left,
      exists_const, pure_eq_ok]
    simp [htakes.canonical, htakes.distinct, htakes.valid, htakes.unmeasured, htakes.endpoints,
      hnone, hroom, hnext, ownerAfter_operator hboot]
  have hfiled := h.relationships.insert { record with generation := next } hnew
    (show _ = record by rw [RelationshipRecord.unstamped, ← htakes.plain])
  refine yields_of_admitted state.commitRelationship (fun _ => ⟨_, _, rfl⟩) hboot h.authority
    hadmitted ?_
  exact
    { authority := (checkAuthority_congr hboot rfl rfl).trans h.authority
      members := by simpa [commitRelationship] using h.members
      relationships := by simpa [commitRelationship] using hfiled
      failureDomains := by simpa [commitRelationship] using h.failureDomains
      power := h.power
      cooling := h.cooling
      topologyCount := by
        simp only [List.length_append, List.length_singleton]
        rw [← h.topologyCount]
        exact hcount
      domainCount := h.domainCount
      powerCount := h.powerCount
      coolingCount := h.coolingCount }

structure TakesFailureDomain (options : RackFabricOptions) (state : RackState)
    (contents : Contents) (record : FailureDomainRecord) : Prop where
  identity : (validateIdentity record.id.value).ok = true
  label : ∀ label ∈ record.label, (validateLabel label).ok = true
  valid : validateEvidence record.toObservation = none
  plain : record.generation = {}
  sorted : (ExtTreeSet.ofList record.parents).toList = record.parents
  parents : ∀ parent ∈ record.parents, checkDomainParent state.toRackGraph record.id parent = .ok ()
  new : ∀ existing ∈ contents.failureDomains, existing.id ≠ record.id
  room : contents.failureDomains.length < options.limits.maxFailureDomains
  countable : contents.failureDomains.length + 1 < 2 ^ 64

include hboot in
theorem yields_failureDomain {record : FailureDomainRecord}
    (htakes : TakesFailureDomain options state contents record) :
    Yields (state.publishFailureDomain options { authority := token, record := record }) token
      { contents with failureDomains := contents.failureDomains ++ [record] } := by
  have hnew := h.failureDomains.not_mem (fun _ => rfl) htakes.new
  have hnone := ExtTreeMap.getElem?_eq_none hnew
  have hroom : state.failureDomains.size < options.limits.maxFailureDomains :=
    h.failureDomains.size_eq ▸ htakes.room
  have hlabel : (record.label.any fun label => !(validateLabel label).ok) = false := by
    cases hsome : record.label with
    | none => rfl
    | some label => simp [htakes.label label hsome]
  obtain ⟨next, hnext, hcount⟩ := advance_of_lt (h.domainCount ▸ htakes.countable)
  have hadmitted : admitFailureDomain options state none { authority := token, record := record } =
      .ok { record with generation := next } := by
    unfold admitFailureDomain
    simp only [bind_eq_ok, refuseIf_eq_ok, refuseSome_eq_ok, require_eq_ok, exists_and_left,
      exists_const, pure_eq_ok, htakes.sorted]
    simp [htakes.identity, hlabel, htakes.valid, forM_eq_ok.mpr htakes.parents, hnone, hroom,
      hnext, ownerAfter_operator hboot]
  have hfiled := h.failureDomains.insert { record with generation := next } hnew
    (show _ = record by rw [FailureDomainRecord.unstamped, ← htakes.plain])
  refine yields_of_admitted state.commitFailureDomain (fun _ => ⟨_, _, rfl⟩) hboot h.authority
    hadmitted ?_
  exact
    { authority := (checkAuthority_congr hboot rfl rfl).trans h.authority
      members := by simpa [commitFailureDomain] using h.members
      relationships := by simpa [commitFailureDomain] using h.relationships
      failureDomains := by simpa [commitFailureDomain] using hfiled
      power := h.power
      cooling := h.cooling
      topologyCount := h.topologyCount
      domainCount := by
        simp only [List.length_append, List.length_singleton]
        rw [← h.domainCount]
        exact hcount
      powerCount := h.powerCount
      coolingCount := h.coolingCount }

include hboot in
theorem yields_power {record : PowerEnvelopeRecord} (now : Timestamp)
    (hnone : contents.power = none) (hvalid : validateEvidence record.toObservation = none)
    (hlimit : ∀ limit ∈ record.rackLimit, validateQuantity limit .watts = none)
    (hdraw : ∀ draw ∈ record.rackObservedDraw, validateQuantity draw draw.unit = none)
    (hcurrent : record.revalidationRequired = false) :
    Yields (state.publishPowerEnvelope now { authority := token, record := record }) token
      { contents with power := some (record.stored now) } := by
  have hlimits : (record.rackLimit.bind fun limit => validateQuantity limit .watts) = none :=
    Option.bind_eq_none_iff.mpr hlimit
  have hdraws : (record.rackObservedDraw.bind fun draw => validateQuantity draw draw.unit) = none :=
    Option.bind_eq_none_iff.mpr hdraw
  have hstored : state.power = none := h.power.trans hnone
  have hnext : state.generations.power.advance = some .first := by
    rw [h.powerCount hnone]
    rfl
  have hadmitted : admitPowerEnvelope state none { authority := token, record := record } =
      .ok { record with generation := .first } := by
    unfold admitPowerEnvelope
    simp only [bind_eq_ok, refuseSome_eq_ok, require_eq_ok, exists_and_left, exists_const,
      pure_eq_ok]
    simp [hvalid, hlimits, hdraws, hstored, checkEnvelopeGeneration, hnext,
      ownerAfter_operator hboot, ← hcurrent]
  refine yields_of_admitted (fun record => state.commitPowerEnvelope record now)
    (fun _ => ⟨_, _, rfl⟩) hboot h.authority hadmitted ?_
  exact
    { authority := (checkAuthority_congr hboot rfl rfl).trans h.authority
      members := h.members
      relationships := h.relationships
      failureDomains := h.failureDomains
      power := rfl
      cooling := h.cooling
      topologyCount := h.topologyCount
      domainCount := h.domainCount
      powerCount := by simp
      coolingCount := h.coolingCount }

include hboot in
theorem yields_cooling {record : CoolingEnvelopeRecord} (now : Timestamp)
    (hnone : contents.cooling = none) (hvalid : validateEvidence record.toObservation = none)
    (hzones : ∀ zone ∈ record.zones, checkZone state.toRackGraph zone = .ok ())
    (hcurrent : record.revalidationRequired = false) :
    Yields (state.publishCoolingEnvelope now { authority := token, record := record }) token
      { contents with cooling := some (record.stored now) } := by
  have hstored : state.cooling = none := h.cooling.trans hnone
  have hnext : state.generations.cooling.advance = some .first := by
    rw [h.coolingCount hnone]
    rfl
  have hadmitted : admitCoolingEnvelope state none { authority := token, record := record } =
      .ok { record with generation := .first, zones := sortBy (·.zone) record.zones } := by
    unfold admitCoolingEnvelope
    simp only [bind_eq_ok, refuseSome_eq_ok, require_eq_ok, exists_and_left, exists_const,
      pure_eq_ok]
    simp [hvalid, forM_eq_ok.mpr hzones, hstored, checkEnvelopeGeneration, hnext,
      ownerAfter_operator hboot, ← hcurrent, sortBy]
  refine yields_of_admitted (fun record => state.commitCoolingEnvelope record now)
    (fun _ => ⟨_, _, rfl⟩) hboot h.authority hadmitted ?_
  exact
    { authority := (checkAuthority_congr hboot rfl rfl).trans h.authority
      members := h.members
      relationships := h.relationships
      failureDomains := h.failureDomains
      power := h.power
      cooling := rfl
      topologyCount := h.topologyCount
      domainCount := h.domainCount
      powerCount := h.powerCount
      coolingCount := by simp }

end Holds

end RackState

end RackFabric
