import Mathlib.Tactic.MkIffOfInductiveProp
import RackFabric.Properties.Contents

/-! A rack whose records are sound and refer to each other is published without a rejection. -/
namespace RackFabric
open Std Filing Draining RackState

def Contents.summary (contents : Contents) : SyntheticPublishSummary where
  membersAccepted := contents.members.length
  relationshipsAccepted := contents.relationships.length
  failureDomainsAccepted := contents.failureDomains.length

namespace Synthetic

/-- Every mutation so far has been accepted, and together they make up the contents. -/
structure Publishing.Through (publishing : Publishing) (token : AuthorityToken)
    (contents : Contents) : Prop where
  holds : publishing.fabric.Holds token contents
  summary : publishing.summary = contents.summary

variable {publishing : Publishing} {token : AuthorityToken} {contents next : Contents}

theorem Publishing.Through.submit (h : publishing.Through token contents)
    {counted : SyntheticPublishSummary → SyntheticPublishSummary}
    {mutate : RackState → RackState × MutationResult}
    (hyields : Yields (mutate publishing.fabric) token next)
    (hcounted : counted contents.summary = next.summary) :
    (publishing.submit counted mutate).Through token next where
  holds := hyields.2
  summary := by
    simp only [Publishing.submit, hyields.1, if_true]
    rw [h.summary, hcounted]

section Pending
variable {ρ κ : Type} [Ord κ] [TransOrd κ] [LawfulEqOrd κ]
  {counted : SyntheticPublishSummary → SyntheticPublishSummary}
  {publish : RackState → ρ → RackState × MutationResult} {keyOf : ρ → κ} {needs : ρ → List κ}
  {items : List ρ} {Done : Publishing → List ρ → Prop}

/-- Records that need only records without needs of their own are all published, each after
what it needs. -/
theorem publishPending_done
    (hstep : ∀ publishing done record others, Done publishing done →
      (done ++ record :: others).Perm items →
      (∀ key ∈ needs record, ∃ found ∈ done, keyOf found = key) →
        (publish publishing.fabric record).2.outcome.isAccepted = true ∧
          Done (publishing.submit counted (publish · record)) (done ++ [record]))
    (hneeds : ∀ record ∈ items, ∀ key ∈ needs record,
      ∃ found ∈ items, keyOf found = key ∧ needs found = [])
    {publishing : Publishing} (hstart : Done publishing []) :
    ∃ order, order.Perm items ∧
      Done (publishPending counted publish keyOf needs publishing items) order := by
  have hrun := @drain_done (Publishing × ExtTreeSet κ) ρ
    (fun progress record => (needs record).all progress.2.contains)
    (submitPending counted publish keyOf)
    (fun progress record => (progress.1.submit counted (publish · record), progress.2)) items
    (fun progress done => Done progress.1 done ∧
      ∀ key, key ∈ progress.2 ↔ ∃ found ∈ done, keyOf found = key)
    ?_ ?_ (publishing, ∅) [] items ⟨hstart, by simp⟩ (by simp)
  · obtain ⟨order, hperm, hdone, -⟩ := hrun
    exact ⟨order, hperm, hdone⟩
  · rintro ⟨publishing, published⟩ done record others ⟨hdone, hpublished⟩ hperm hready
    have hmet : ∀ key ∈ needs record, ∃ found ∈ done, keyOf found = key := by
      intro key hkey
      exact (hpublished key).mp (by simpa using List.all_eq_true.mp hready key hkey)
    obtain ⟨haccepted, hnext⟩ := hstep publishing done record others hdone hperm hmet
    refine ⟨hnext, fun key => ?_⟩
    simp only [submitPending, haccepted, if_true]
    rw [ExtTreeSet.mem_insert, LawfulEqCmp.compare_eq_iff_eq, hpublished]
    constructor
    · rintro (rfl | ⟨found, hfound, hkey⟩)
      · exact ⟨record, by simp, rfl⟩
      · exact ⟨found, by simp [hfound], hkey⟩
    · rintro ⟨found, hfound, hkey⟩
      rcases List.mem_append.mp hfound with hold | hlast
      · exact Or.inr ⟨found, hold, hkey⟩
      · exact Or.inl (List.mem_singleton.mp hlast ▸ hkey)
  · rintro ⟨publishing, published⟩ done pending ⟨-, hpublished⟩ hperm hpending
    by_cases hfree : ∃ record ∈ pending, needs record = []
    · obtain ⟨record, hmem, hnone⟩ := hfree
      exact ⟨record, hmem, by simp [hnone]⟩
    · -- Whatever the first pending record needs has been published before.
      obtain ⟨record, rest, rfl⟩ := List.exists_cons_of_ne_nil hpending
      refine ⟨record, by simp, List.all_eq_true.mpr fun key hkey => ?_⟩
      have hitem : record ∈ items := hperm.mem_iff.mp (by simp)
      obtain ⟨found, hfound, hsame, hnone⟩ := hneeds record hitem key hkey
      have hdone : found ∈ done := by
        rcases List.mem_append.mp (hperm.mem_iff.mpr hfound) with hdone | hwaiting
        · exact hdone
        · exact absurd ⟨found, hwaiting, hnone⟩ hfree
      simpa using (hpublished key).mpr ⟨found, hdone, hsame⟩

end Pending

end Synthetic

/-! Sound racks. -/

/-- The counts of the rack are within the limits, which are `std::size_t` themselves. -/
@[mk_iff]
structure SyntheticRack.Fits (rack : SyntheticRack) (limits : ResourceLimits) : Prop where
  members : rack.members.length ≤ limits.maxMembers
  relationships : rack.relationships.length ≤ limits.maxRelationships
  failureDomains : rack.failureDomains.length ≤ limits.maxFailureDomains
  domainsOfMembers : ∀ record ∈ rack.members,
    record.failureDomains.length ≤ limits.maxFailureDomainsPerMember
  capabilities : ∀ record ∈ rack.members,
    record.capabilities.length ≤ limits.maxCapabilitiesPerMember
  membersWidth : limits.maxMembers < 2 ^ 64
  relationshipsWidth : limits.maxRelationships < 2 ^ 64
  failureDomainsWidth : limits.maxFailureDomains < 2 ^ 64

instance SyntheticRack.decidableFits (rack : SyntheticRack) (limits : ResourceLimits) :
    Decidable (rack.Fits limits) :=
  decidable_of_iff _ (SyntheticRack.fits_iff rack limits).symm

namespace SyntheticRack

structure SoundFailureDomain (rack : SyntheticRack) (record : FailureDomainRecord) : Prop where
  identity : (validateIdentity record.id.value).ok = true
  label : ∀ label ∈ record.label, (validateLabel label).ok = true
  valid : validateEvidence record.toObservation = none
  plain : record.generation = {}
  parents : record.parents = [] ∨
    ∃ parent ∈ rack.failureDomains, parent.parents = [] ∧ record.parents = [parent.id]

structure SoundMember (rack : SyntheticRack) (record : MemberRecord) : Prop where
  valid : ∀ limits : ResourceLimits,
    record.failureDomains.length ≤ limits.maxFailureDomainsPerMember →
    record.capabilities.length ≤ limits.maxCapabilitiesPerMember →
      validateMemberRecord record limits = none
  live : record.lifecycle ≠ .retired
  plain : record.generation = {}
  parent : ∀ key ∈ record.parent, ∃ found ∈ rack.members,
    found.key = key ∧ found.parent = none ∧ Synthetic.isDomainMember found = false
  failureDomains : ∀ id ∈ record.failureDomains, ∃ found ∈ rack.failureDomains, found.id = id
  powerDomain : ∀ id ∈ record.powerDomain, ∃ found ∈ rack.members,
    found.key = .ofId .powerDomain id
  coolingDomain : ∀ id ∈ record.coolingDomain, ∃ found ∈ rack.members,
    found.key = .ofId .coolingDomain id
  switchDomain : record.switchDomain = none
  independent : Synthetic.isDomainMember record = true →
    record.parent = none ∧ record.powerDomain = none ∧ record.coolingDomain = none

structure SoundRelationship (rack : SyntheticRack) (record : RelationshipRecord) : Prop where
  canonical : record.key.canonical = record.key
  distinct : record.key.source ≠ record.key.target
  valid : validateEvidence record.toObservation = none
  unmeasured : record.capacity = none
  plain : record.generation = {}
  notContains : record.key.cls ≠ .contains
  source : ∃ found ∈ rack.members, found.key = record.key.source
  target : ∃ found ∈ rack.members, found.key = record.key.target

structure SoundPower (record : PowerEnvelopeRecord) : Prop where
  valid : validateEvidence record.toObservation = none
  limit : ∀ limit ∈ record.rackLimit, validateQuantity limit .watts = none
  draw : ∀ draw ∈ record.rackObservedDraw, validateQuantity draw draw.unit = none
  current : record.revalidationRequired = false

structure SoundZone (rack : SyntheticRack) (zone : CoolingZoneRecord) : Prop where
  member : ∃ found ∈ rack.members, found.key = .ofId .coolingDomain zone.zone
  limit : ∀ limit ∈ zone.designThermalLimit, validateQuantity limit .watts = none
  capacity : ∀ capacity ∈ zone.coolingCapacity, validateQuantity capacity .watts = none
  temperature : ∀ temperature ∈ zone.observedTemperature,
    validateQuantity temperature .celsius = none
  throttling : ∀ throttling ∈ zone.throttling, validateEvidence throttling.toObservation = none

structure SoundCooling (rack : SyntheticRack) (record : CoolingEnvelopeRecord) : Prop where
  valid : validateEvidence record.toObservation = none
  zones : ∀ zone ∈ record.zones, rack.SoundZone zone
  current : record.revalidationRequired = false

structure Sound (rack : SyntheticRack) : Prop where
  memberKeys : (rack.members.map MemberRecord.key).Nodup
  relationshipKeys : (rack.relationships.map RelationshipRecord.key).Nodup
  failureDomainIds : (rack.failureDomains.map FailureDomainRecord.id).Nodup
  members : ∀ record ∈ rack.members, rack.SoundMember record
  relationships : ∀ record ∈ rack.relationships, rack.SoundRelationship record
  failureDomains : ∀ record ∈ rack.failureDomains, rack.SoundFailureDomain record
  power : ∀ record ∈ rack.power, SoundPower record
  cooling : ∀ record ∈ rack.cooling, rack.SoundCooling record

structure Ordered (rack : SyntheticRack) : Prop where
  members : rack.members.Pairwise fun left right => compare left.key right.key = .lt
  relationships : rack.relationships.Pairwise fun left right => compare left.key right.key = .lt
  failureDomains : rack.failureDomains.Pairwise fun left right => compare left.id right.id = .lt

structure Published (rack : SyntheticRack) (poweredAt cooledAt : Timestamp)
    (outcome : RackState × SyntheticPublishSummary) : Prop where
  summary : outcome.2 =
    { membersAccepted := rack.members.length
      relationshipsAccepted := rack.relationships.length
      failureDomainsAccepted := rack.failureDomains.length
      rejections := [] }
  members : outcome.1.memberRecords.map MemberRecord.unstamped = rack.members
  relationships :
    outcome.1.relationshipRecords.map RelationshipRecord.unstamped = rack.relationships
  failureDomains :
    outcome.1.failureDomainRecords.map FailureDomainRecord.unstamped = rack.failureDomains
  power : outcome.1.power = rack.power.map (·.stored poweredAt)
  cooling : outcome.1.cooling = rack.cooling.map (·.stored cooledAt)

end SyntheticRack

/-! The phases of the publication. -/

namespace Synthetic

section Phases
variable {options : RackFabricOptions} {rack : SyntheticRack} {token : AuthorityToken}
  {publishing : Publishing} (hsound : rack.Sound) (hfits : rack.Fits options.limits)
  (hboot : token.boot = none)
include hsound hfits

theorem takesFailureDomain {state : RackState} {done others : List FailureDomainRecord}
    {record : FailureDomainRecord} (h : state.Holds token { failureDomains := done })
    (hperm : (done ++ record :: others).Perm rack.failureDomains)
    (hmet : ∀ id ∈ record.parents, ∃ found ∈ done, found.id = id) :
    Holds.TakesFailureDomain options state { failureDomains := done } record := by
  have hrecord := hsound.failureDomains record (hperm.mem_iff.mp (by simp))
  have hlength := length_lt_of_perm hperm
  have hnew := fresh_of_perm hsound.failureDomainIds hperm
  exact
    { identity := hrecord.identity
      label := hrecord.label
      valid := hrecord.valid
      plain := hrecord.plain
      sorted := by
        rcases hrecord.parents with hnone | ⟨parent, -, -, hone⟩
        · rw [hnone]
          rfl
        · rw [hone]
          rfl
      parents := by
        intro id hid
        rcases hrecord.parents with hnone | ⟨parent, hparent, htop, hone⟩
        · simp [hnone] at hid
        · obtain rfl : id = parent.id := by simpa [hone] using hid
          obtain ⟨found, hfound, hid⟩ := hmet parent.id (by simp [hone])
          obtain rfl : found = parent := List.inj_on_of_nodup_map hsound.failureDomainIds
            (hperm.mem_iff.mp (by simp [hfound])) hparent hid
          have hother := hnew found hfound
          have hmem := h.failureDomain_mem_iff.mpr ⟨found, hfound, rfl⟩
          have hcycle := h.domainContainsCycle_of_top hfound htop hother
          unfold checkDomainParent
          simp [hother, hmem, hcycle]
      new := hnew
      room := hlength.trans_le hfits.failureDomains
      countable := by
        have hcount := hfits.failureDomains
        have hwidth := hfits.failureDomainsWidth
        simp only
        omega }

include hboot in
theorem through_failureDomains (h : publishing.Through token {}) :
    (publishFailureDomains options token rack publishing).Through token
      { failureDomains := rack.failureDomains } := by
  have hrun := @publishPending_done FailureDomainRecord FailureDomainId _ _ _ countFailureDomain
    (fun state record =>
      state.publishFailureDomain options { authority := token, record := record })
    FailureDomainRecord.id FailureDomainRecord.parents rack.failureDomains
    (fun publishing done => publishing.Through token { failureDomains := done }) ?_ ?_ publishing h
  · obtain ⟨order, hperm, hdone⟩ := hrun
    refine ⟨hdone.holds.permFailureDomains hperm, hdone.summary.trans ?_⟩
    simp [Contents.summary, hperm.length_eq]
  · intro publishing done record others hdone hperm hmet
    have hyields := hdone.holds.yields_failureDomain hboot
      (takesFailureDomain hsound hfits hdone.holds hperm hmet)
    exact ⟨hyields.1, hdone.submit hyields (by simp [countFailureDomain, Contents.summary])⟩
  · intro record hrecord id hid
    rcases (hsound.failureDomains record hrecord).parents with hnone | ⟨parent, hparent, htop, hone⟩
    · simp [hnone] at hid
    · exact ⟨parent, hparent, by simpa [hone, eq_comm] using hid, htop⟩

theorem takesMember {state : RackState} {done others : List MemberRecord} {record : MemberRecord}
    (h : state.Holds token { members := done, failureDomains := rack.failureDomains })
    (hperm : (done ++ record :: others).Perm rack.members)
    (hmet : ∀ key ∈ record.parent, ∃ found ∈ done, found.key = key)
    (hpower : ∀ id ∈ record.powerDomain, ∃ found ∈ done, found.key = .ofId .powerDomain id)
    (hcooling : ∀ id ∈ record.coolingDomain, ∃ found ∈ done,
      found.key = .ofId .coolingDomain id) :
    Holds.TakesMember options state
      { members := done, failureDomains := rack.failureDomains } record := by
  have hmem := hperm.mem_iff.mp (show record ∈ done ++ record :: others by simp)
  have hrecord := hsound.members record hmem
  have hnew := fresh_of_perm hsound.memberKeys hperm
  exact
    { valid := hrecord.valid _ (hfits.domainsOfMembers record hmem) (hfits.capabilities record hmem)
      live := hrecord.live
      plain := hrecord.plain
      new := hnew
      room := (length_lt_of_perm hperm).trans_le hfits.members
      references := by
        refine h.checkReferences_ok (fun key hkey => ?_) hrecord.failureDomains hpower hcooling
          hrecord.switchDomain
        obtain ⟨found, hfound, rfl⟩ := hmet key hkey
        obtain ⟨parent, hparent, hsame, htop, -⟩ := hrecord.parent _ hkey
        obtain rfl : found = parent := List.inj_on_of_nodup_map hsound.memberKeys
          (hperm.mem_iff.mp (by simp [hfound])) hparent hsame.symm
        exact ⟨hnew found hfound, found, hfound, rfl, htop⟩ }

include hboot in
theorem through_domainMembers
    (h : publishing.Through token { failureDomains := rack.failureDomains }) :
    ((rack.members.filter isDomainMember).foldl
      (fun publishing record =>
        publishing.submit countMember (publishMemberRecord options token · record))
      publishing).Through token
        { members := rack.members.filter isDomainMember
          failureDomains := rack.failureDomains } := by
  refine @foldl_done Publishing MemberRecord _ _ (fun publishing done => publishing.Through token
    { members := done, failureDomains := rack.failureDomains }) ?_ publishing h
  intro publishing done record rest hdone hitems
  have hmem : record ∈ rack.members.filter isDomainMember := by simp [hitems]
  obtain ⟨hmember, hdomain⟩ := List.mem_filter.mp hmem
  obtain ⟨hparent, hpower, hcooling⟩ := (hsound.members record hmember).independent hdomain
  have hperm : (done ++ record :: (rest ++ rack.members.filter fun record =>
      !isDomainMember record)).Perm rack.members := by
    have hparts := List.filter_append_perm isDomainMember rack.members
    rw [hitems] at hparts
    simpa using hparts
  have htakes := takesMember hsound hfits hdone.holds hperm (by simp [hparent]) (by simp [hpower])
    (by simp [hcooling])
  exact hdone.submit (hdone.holds.yields_member hboot htakes)
    (by simp [countMember, Contents.summary])

include hboot in
theorem through_members
    (h : publishing.Through token { failureDomains := rack.failureDomains }) :
    (publishMembers options token rack publishing).Through token
      { members := rack.members, failureDomains := rack.failureDomains } := by
  have hparts := List.filter_append_perm isDomainMember rack.members
  have hdomains := through_domainMembers hsound hfits hboot h
  have hamong : ∀ found ∈ rack.members, isDomainMember found = true →
      found ∈ rack.members.filter isDomainMember :=
    fun found hfound hdomain => List.mem_filter.mpr ⟨hfound, hdomain⟩
  have hrun := @publishPending_done MemberRecord MemberKey _ _ _ countMember
    (publishMemberRecord options token) MemberRecord.key (fun record => record.parent.toList)
    (rack.members.filter fun record => !isDomainMember record)
    (fun publishing done => publishing.Through token
      { members := rack.members.filter isDomainMember ++ done
        failureDomains := rack.failureDomains }) ?_ ?_ _ (by simpa using hdomains)
  · obtain ⟨order, hperm, hdone⟩ := hrun
    have hall : (rack.members.filter isDomainMember ++ order).Perm rack.members :=
      (hperm.append_left _).trans hparts
    refine ⟨hdone.holds.permMembers hall, hdone.summary.trans ?_⟩
    simp [Contents.summary, ← hall.length_eq]
  · intro publishing done record others hdone hperm hmet
    have hall : (rack.members.filter isDomainMember ++ done ++ record :: others).Perm
        rack.members := by
      rw [List.append_assoc]
      exact (hperm.append_left _).trans hparts
    have hmember := hall.mem_iff.mp (show record ∈ _ ++ done ++ record :: others by simp)
    have hrecord := hsound.members record hmember
    have htakes := takesMember hsound hfits hdone.holds hall (fun key hkey => ?_)
      (fun id hid => ?_) (fun id hid => ?_)
    · have hyields := hdone.holds.yields_member hboot htakes
      refine ⟨hyields.1, ?_⟩
      have hnext := @Publishing.Through.submit publishing token _ _ hdone countMember
        (publishMemberRecord options token · record) hyields
        (by simp [countMember, Contents.summary]; omega)
      simpa using hnext
    · obtain ⟨found, hfound, hsame⟩ := hmet key (by simpa using hkey)
      exact ⟨found, List.mem_append_right _ hfound, hsame⟩
    · obtain ⟨found, hfound, hsame⟩ := hrecord.powerDomain id hid
      exact ⟨found, List.mem_append_left _
        (hamong found hfound (by simp [isDomainMember, hsame, MemberKey.ofId])), hsame⟩
    · obtain ⟨found, hfound, hsame⟩ := hrecord.coolingDomain id hid
      exact ⟨found, List.mem_append_left _
        (hamong found hfound (by simp [isDomainMember, hsame, MemberKey.ofId])), hsame⟩
  · intro record hrecord key hkey
    obtain ⟨hmember, -⟩ := List.mem_filter.mp hrecord
    obtain ⟨found, hfound, hsame, htop, hother⟩ :=
      (hsound.members record hmember).parent key (by simpa using hkey)
    exact ⟨found, List.mem_filter.mpr ⟨hfound, by simp [hother]⟩, hsame, by simp [htop]⟩

theorem takesRelationship {state : RackState} {done others : List RelationshipRecord}
    {record : RelationshipRecord}
    (h : state.Holds token
      { members := rack.members, relationships := done, failureDomains := rack.failureDomains })
    (hperm : (done ++ record :: others).Perm rack.relationships) :
    Holds.TakesRelationship options state
      { members := rack.members, relationships := done
        failureDomains := rack.failureDomains } record := by
  have hrecord := hsound.relationships record (hperm.mem_iff.mp (by simp))
  have hlength := length_lt_of_perm hperm
  have hsource := h.member_mem_iff.mpr hrecord.source
  have htarget := h.member_mem_iff.mpr hrecord.target
  exact
    { canonical := hrecord.canonical
      distinct := hrecord.distinct
      valid := hrecord.valid
      unmeasured := hrecord.unmeasured
      plain := hrecord.plain
      endpoints := by
        unfold checkEndpoints
        simp [hsource, htarget, hrecord.notContains]
      new := fresh_of_perm hsound.relationshipKeys hperm
      room := hlength.trans_le hfits.relationships
      countable := by
        have hcount := hfits.relationships
        have hwidth := hfits.relationshipsWidth
        simp only
        omega }

include hboot in
theorem through_relationships
    (h : publishing.Through token
      { members := rack.members, failureDomains := rack.failureDomains }) :
    (publishRelationships options token rack publishing).Through token
      { members := rack.members, relationships := rack.relationships
        failureDomains := rack.failureDomains } := by
  refine @foldl_done Publishing RelationshipRecord _ _ (fun publishing done =>
    publishing.Through token
      { members := rack.members, relationships := done
        failureDomains := rack.failureDomains }) ?_ publishing h
  intro publishing done record rest hdone hitems
  have hperm : (done ++ record :: rest).Perm rack.relationships := by rw [hitems]
  exact hdone.submit
    (hdone.holds.yields_relationship hboot (takesRelationship hsound hfits hdone.holds hperm))
    (by simp [countRelationship, Contents.summary])

omit hfits in
include hboot in
theorem through_power (now : Timestamp) (h : publishing.Through token contents)
    (hnone : contents.power = none) :
    (publishPower token rack now publishing).Through token
      { contents with power := rack.power.map (·.stored now) } := by
  unfold publishPower
  cases hpower : rack.power with
  | none =>
    obtain ⟨members, relationships, failureDomains, power, cooling⟩ := contents
    obtain rfl : power = none := hnone
    exact h
  | some record =>
    have hrecord := hsound.power record hpower
    exact h.submit (h.holds.yields_power hboot now hnone hrecord.valid hrecord.limit hrecord.draw
      hrecord.current) rfl

omit hfits in
include hboot in
theorem through_cooling (now : Timestamp) (h : publishing.Through token contents)
    (hmembers : contents.members = rack.members) (hnone : contents.cooling = none) :
    (publishCooling token rack now publishing).Through token
      { contents with cooling := rack.cooling.map (·.stored now) } := by
  unfold publishCooling
  cases hcooling : rack.cooling with
  | none =>
    obtain ⟨members, relationships, failureDomains, power, cooling⟩ := contents
    obtain rfl : cooling = none := hnone
    exact h
  | some record =>
    have hrecord := hsound.cooling record hcooling
    have hzones : ∀ zone ∈ record.zones,
        checkZone publishing.fabric.toRackGraph zone = .ok () := by
      intro zone hzone
      have hmember := h.holds.member_mem_iff.mpr (hmembers ▸ (hrecord.zones zone hzone).member)
      unfold checkZone checkZoneQuantity
      simp [hmember, Option.bind_eq_none_iff.mpr (hrecord.zones zone hzone).limit,
        Option.bind_eq_none_iff.mpr (hrecord.zones zone hzone).capacity,
        Option.bind_eq_none_iff.mpr (hrecord.zones zone hzone).temperature,
        Option.bind_eq_none_iff.mpr (hrecord.zones zone hzone).throttling]
    exact h.submit (h.holds.yields_cooling hboot now hnone hrecord.valid hzones hrecord.current) rfl

end Phases

/-- A fresh fabric takes the declaration of a rack with a valid epoch. -/
theorem yields_declared (options : RackFabricOptions) {authority : AuthorityToken}
    (hboot : authority.boot = none) (hauthority : authority.coordinatorEpoch = .first)
    (declaredAt : Timestamp) (rack : RackId) {epoch : RackEpochId} (hset : epoch.isSet = true) :
    Yields ((RackState.fresh options).declareRack declaredAt
        { authority := { authority with rack := some rack }, epoch := some epoch
          label := some (str "synthetic rack"), redeclare := true })
      { authority with rack := some rack } {} := by
  have hvalid := epoch.isSet_iff_valid.mp hset
  have hlabel : (validateLabel (str "synthetic rack")).ok = true := by decide
  have hadmitted : admitDeclaration (RackState.fresh options)
      { authority := { authority with rack := some rack }, epoch := some epoch
        label := some (str "synthetic rack"), redeclare := true } = .ok (rack, epoch) := by
    unfold admitDeclaration
    simp only [bind_eq_ok, refuseIf_eq_ok, require_eq_ok, exists_and_left, exists_const,
      pure_eq_ok]
    simp [hvalid, hlabel, checkAuthority, RackState.fresh, hauthority, hboot]
    exact ⟨_, rfl⟩
  unfold declareRack
  rw [hadmitted]
  refine ⟨rfl, ?_⟩
  exact
    { authority := by
        simp [checkAuthority, checkRack, RackState.fresh, accept, commitDeclaration, hauthority,
          hboot]
        rfl
      members := .empty
      relationships := .empty
      failureDomains := .empty
      power := rfl
      cooling := rfl
      topologyCount := rfl
      domainCount := rfl
      powerCount := fun _ => rfl
      coolingCount := fun _ => rfl }

end Synthetic

open Synthetic in
theorem SyntheticRack.Sound.published {options : RackFabricOptions} {rack : SyntheticRack}
    {authority : AuthorityToken} (hsound : rack.Sound) (hordered : rack.Ordered)
    (hfits : rack.Fits options.limits) (hepoch : rack.rackEpoch.isSet = true)
    (hboot : authority.boot = none) (hauthority : authority.coordinatorEpoch = .first)
    (declaredAt poweredAt cooledAt : Timestamp) :
    rack.Published poweredAt cooledAt (publishSyntheticRack options declaredAt poweredAt cooledAt
      (RackState.fresh options) rack authority) := by
  have hdeclared := yields_declared options hboot hauthority declaredAt rack.rack hepoch
  have htoken : ({ authority with rack := some rack.rack } : AuthorityToken).boot = none := hboot
  have hstart : Publishing.Through { fabric := _ } { authority with rack := some rack.rack } {} :=
    ⟨hdeclared.2, rfl⟩
  have hdomains := through_failureDomains hsound hfits htoken hstart
  have hmembers := through_members hsound hfits htoken hdomains
  have hrelationships := through_relationships hsound hfits htoken hmembers
  have hpower := through_power hsound htoken poweredAt hrelationships rfl
  have hcooling := through_cooling hsound htoken cooledAt hpower rfl rfl
  unfold publishSyntheticRack
  simp only [hdeclared.1, if_true]
  exact
    { summary := hcooling.summary
      members := by
        rw [memberRecords, List.map_map]
        exact hcooling.holds.members.toList_eq (fun _ => rfl) hordered.members
      relationships := by
        rw [relationshipRecords, List.map_map]
        exact hcooling.holds.relationships.toList_eq (fun _ => rfl) hordered.relationships
      failureDomains := by
        rw [failureDomainRecords, List.map_map]
        exact hcooling.holds.failureDomains.toList_eq (fun _ => rfl) hordered.failureDomains
      power := hcooling.holds.power
      cooling := hcooling.holds.cooling }

end RackFabric
