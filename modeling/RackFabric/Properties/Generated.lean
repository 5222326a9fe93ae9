import RackFabric.Properties.SyntheticLinks
import RackFabric.Properties.Validation

/-! Whatever the random choices are, a generated rack is sound, so it is published whole. -/
namespace RackFabric
open Std Filing

namespace Synthetic

/-- What the random choices look like, for a rack whose members can be counted. -/
structure Shaped (config : SyntheticRackConfig) (nodes : List NodeChoices) (links : List Bool) :
    Prop where
  power : 0 < config.powerDomainCount
  cooling : 0 < config.coolingDomainCount
  drawn : nodes.length = config.nodeCount
  linked : links.length ≤ nodes.length
  switched : links ≠ [] → 0 < config.switchCount
  counted : (members config nodes).length < 2 ^ 64

section Shape
variable {config : SyntheticRackConfig} {nodes : List NodeChoices} {links : List Bool}
  (h : Shaped config nodes links) {n : Nat} {choices : NodeChoices}
include h

theorem Shaped.narrow : Narrow config := by
  have hcounts := @counts_le_length config nodes
  have hnodes := h.drawn
  have hcounted := h.counted
  constructor <;> omega

theorem Shaped.node_lt (hnode : nodes[n]? = some choices) : n < config.nodeCount := by
  rw [← h.drawn]
  exact (List.getElem?_eq_some_iff.mp hnode).1

theorem Shaped.node_narrow (hnode : nodes[n]? = some choices) : n < 2 ^ 64 :=
  (h.node_lt hnode).trans h.narrow.nodes

theorem Shaped.parts_narrow (hnode : nodes[n]? = some choices) :
    config.cpuPackagesPerNode + config.memoryDomainsPerNode + choices.addressed.length +
      choices.nics < 2 ^ 64 := by
  have hlength := @length_nodeMembers_le config nodes n choices hnode
  simp only [nodeMembers, List.length_append, List.length_map, List.length_range,
    List.length_zipIdx] at hlength
  have hcounted := h.counted
  omega

/-! What the records refer to. -/

omit h in
theorem mem_rackOf_members {record : MemberRecord} :
    record ∈ (rackOf config nodes links).members ↔ record ∈ members config nodes :=
  List.mem_insertionSort _

omit h in
theorem names_failureDomain (name : DomainName) (hname : name ∈ domainNames config) :
    ∃ found ∈ (rackOf config nodes links).failureDomains, found.id = .ofText name.text := by
  have hmem : (.ofText name.text : FailureDomainId) ∈
      (failureDomains config).map FailureDomainRecord.id := by
    rw [ids_failureDomains]
    exact List.mem_map_of_mem hname
  obtain ⟨found, hfound, hid⟩ := List.mem_map.mp hmem
  exact ⟨found, (List.mem_insertionSort _).mpr hfound, hid⟩

theorem Shaped.power_member {p : Nat} (hp : p < config.powerDomainCount) :
    ∃ found ∈ (rackOf config nodes links).members,
      found.key = .ofId .powerDomain (powerDomain p) := by
  refine ⟨powerMember p, mem_rackOf_members.mpr (power_mem hp), ?_⟩
  rw [MemberKey.ofId, powerDomain,
    value_ofText (valid_indexName (by decide) (hp.trans h.narrow.power))]
  rfl

theorem Shaped.cooling_member {c : Nat} (hc : c < config.coolingDomainCount) :
    ∃ found ∈ (rackOf config nodes links).members,
      found.key = .ofId .coolingDomain (coolingDomain c) := by
  refine ⟨coolingMember c, mem_rackOf_members.mpr (cooling_mem hc), ?_⟩
  rw [MemberKey.ofId, coolingDomain,
    value_ofText (valid_indexName (by decide) (hc.trans h.narrow.cooling))]
  rfl

end Shape

/-! Soundness of the members. -/

theorem validateEvidence_synthetic : validateEvidence syntheticObservation = none := by decide

structure Evident (record : MemberRecord) : Prop where
  identity : (validateIdentity record.key.id).ok = true
  kind : record.details.matchesKind record.key.kind = true
  source : ∀ source ∈ record.source, (validateLabel source).ok = true
  evidence : validateEvidence record.toObservation = none
  present : record.lifecycle = .present → record.provenance ≠ .unknown
  health : validateAsserted record.health.toObservation = none
  readiness : validateAsserted record.readiness.toObservation = none
  reachability : validateAsserted record.reachability.toObservation = none
  capabilities : ∀ capability ∈ record.capabilities, validateCapability capability = none

theorem Evident.valid {record : MemberRecord} (h : Evident record) (limits : ResourceLimits)
    (hdomains : record.failureDomains.length ≤ limits.maxFailureDomainsPerMember)
    (hcapabilities : record.capabilities.length ≤ limits.maxCapabilitiesPerMember) :
    validateMemberRecord record limits = none := by
  have hsource : (record.source.any fun source => !(validateLabel source).ok) = false := by
    rw [Option.any_eq_false]
    intro source hmem
    simp [h.source source hmem]
  have hpresent : decide (record.lifecycle = .present ∧ record.provenance = .unknown) = false := by
    simpa using h.present
  simp only [validateMemberRecord, firstError_cons, firstError_nil, errorIf_eq_none,
    firstError_map_eq_none, h.identity, h.kind, hsource, h.evidence, hpresent, h.health,
    h.readiness, h.reachability]
  simpa [hdomains, hcapabilities] using h.capabilities

def bare (record : MemberRecord) : MemberRecord :=
  { record with
    details := .monostate, parent := none, failureDomains := [], powerDomain := none
    coolingDomain := none, capabilities := [] }

theorem evident_of_bare {record : MemberRecord} {kind : MemberKind} {id : Str} {source : String}
    (hbare : bare record = baseMember kind id source) (hid : (validateIdentity id).ok = true)
    (hkind : record.details.matchesKind kind = true)
    (hsource : (validateLabel (str source)).ok = true)
    (hcapabilities : ∀ capability ∈ record.capabilities, validateCapability capability = none) :
    Evident record := by
  have hkey : record.key = ⟨kind, id⟩ := congrArg MemberRecord.key hbare
  have hlabel : record.source = some (str source) := congrArg MemberRecord.source hbare
  have hobservation : record.toObservation = syntheticObservation :=
    congrArg MemberRecord.toObservation hbare
  have hprovenance : record.provenance = .synthetic :=
    congrArg Observation.provenance hobservation
  have hhealth : record.health = syntheticEvidence .healthy := congrArg MemberRecord.health hbare
  have hreadiness : record.readiness = syntheticEvidence .ready :=
    congrArg MemberRecord.readiness hbare
  have hreachability : record.reachability = syntheticEvidence .reachable :=
    congrArg MemberRecord.reachability hbare
  exact
    { identity := by rw [hkey]; exact hid
      kind := by rw [hkey]; exact hkind
      source := by simpa [hlabel] using hsource
      evidence := by rw [hobservation]; exact validateEvidence_synthetic
      present := by simp [hprovenance]
      health := by rw [hhealth]; decide
      readiness := by rw [hreadiness]; decide
      reachability := by rw [hreachability]; decide
      capabilities := hcapabilities }

theorem Evident.degraded {record : MemberRecord} (h : Evident record) :
    Evident (degraded record) :=
  { h with
    health := rfl
    readiness := rfl }

theorem Evident.withoutEvidence {record : MemberRecord} (h : Evident record)
    (hlifetime : record.ttl = 0) (hdurable : record.durability = .durable) :
    Evident (withoutEvidence record) :=
  { h with
    evidence := by
      rw [validateEvidence_eq_none]
      constructor <;> simp [Synthetic.withoutEvidence, hlifetime, hdurable, ttlIsValid,
        kMaxTtlMillis, Timestamp.unknown, Timestamp.known]
    present := by simp [Synthetic.withoutEvidence]
    health := rfl
    readiness := rfl
    reachability := rfl }

structure PartOf (config : SyntheticRackConfig) (n : Nat) (record : MemberRecord) : Prop where
  evident : Evident record
  live : record.lifecycle ≠ .retired
  plain : record.generation = {}
  parent : record.parent = some (nodeKey n)
  failureDomains : record.failureDomains = [nodeDomain n]
  powerDomain : ∀ id ∈ record.powerDomain, id = powerDomainOf config n
  coolingDomain : ∀ id ∈ record.coolingDomain, id = coolingDomainOf config n
  switchDomain : record.switchDomain = none
  other : isDomainMember record = false

theorem partOf_nodePart (config : SyntheticRackConfig) (n : Nat) {kind : MemberKind} {id : Str}
    {source : String} {details : MemberDetails} (hid : (validateIdentity id).ok = true)
    (hkind : details.matchesKind kind = true) (hsource : (validateLabel (str source)).ok = true)
    (hother : kind ≠ .powerDomain ∧ kind ≠ .coolingDomain) :
    PartOf config n (nodePart kind id source n details) where
  evident := evident_of_bare rfl hid hkind hsource (by simp [nodePart, baseMember])
  live := by simp [nodePart, baseMember]
  plain := rfl
  parent := rfl
  failureDomains := rfl
  powerDomain := by simp [nodePart, baseMember]
  coolingDomain := by simp [nodePart, baseMember]
  switchDomain := rfl
  other := by simp [isDomainMember, nodePart, baseMember, hother]

theorem PartOf.supplied {config : SyntheticRackConfig} {n : Nat} {kind : MemberKind} {id : Str}
    {source : String} {details : MemberDetails}
    (h : PartOf config n (nodePart kind id source n details)) {capabilities : List CapabilityRef}
    (hcapabilities : ∀ capability ∈ capabilities, validateCapability capability = none) :
    PartOf config n
      { suppliedPart config kind id source n details with capabilities := capabilities } :=
  { h with
    evident := { h.evident with capabilities := hcapabilities }
    powerDomain := by simp [suppliedPart]
    coolingDomain := by simp [suppliedPart] }

section Shape
variable {config : SyntheticRackConfig} {nodes : List NodeChoices} {links : List Bool}
  (h : Shaped config nodes links) {n : Nat} {choices : NodeChoices}
include h

theorem Shaped.sound_part (hnode : nodes[n]? = some choices) {record : MemberRecord}
    (hpart : PartOf config n record) : (rackOf config nodes links).SoundMember record where
  valid := hpart.evident.valid
  live := hpart.live
  plain := hpart.plain
  parent := by
    intro key hkey
    obtain rfl : nodeKey n = key := by simpa [hpart.parent] using hkey
    refine ⟨nodeMember config n choices, mem_rackOf_members.mpr (node_mem hnode),
      key_nodeMember n choices, ?_, by simp [isDomainMember, nodeKey]⟩
    exact parent_nodeMember n choices
  failureDomains := by
    intro id hid
    obtain rfl : id = nodeDomain n := by simpa [hpart.failureDomains] using hid
    exact names_failureDomain (.node n) (mem_domainNames.mpr (h.node_lt hnode))
  powerDomain := by
    intro id hid
    rw [hpart.powerDomain id hid]
    exact h.power_member (Nat.mod_lt _ h.power)
  coolingDomain := by
    intro id hid
    rw [hpart.coolingDomain id hid]
    exact h.cooling_member (Nat.mod_lt _ h.cooling)
  switchDomain := hpart.switchDomain
  independent := by simp [hpart.other]

theorem Shaped.sound_evidentNode (hnode : nodes[n]? = some choices)
    (hevident : Evident (evidentNode config n choices)) :
    (rackOf config nodes links).SoundMember (evidentNode config n choices) where
  valid := hevident.valid
  live := by simp [evidentNode, baseMember]
  plain := rfl
  parent := by simp [evidentNode, baseMember]
  failureDomains := by
    intro id hid
    simp only [evidentNode, List.mem_append, List.mem_ite_nil_right, List.mem_cons,
      List.not_mem_nil, or_false] at hid
    rcases hid with (rfl | rfl) | ⟨hnext, rfl⟩
    · exact names_failureDomain .rack (mem_domainNames.mpr trivial)
    · exact names_failureDomain (.node n) (mem_domainNames.mpr (h.node_lt hnode))
    · exact names_failureDomain (.chassis (n / 2)) (mem_domainNames.mpr (by simp only; omega))
  powerDomain := by
    rintro id ⟨rfl⟩
    exact h.power_member (Nat.mod_lt _ h.power)
  coolingDomain := by
    rintro id ⟨rfl⟩
    exact h.cooling_member (Nat.mod_lt _ h.cooling)
  switchDomain := rfl
  independent := by simp [isDomainMember, evidentNode, baseMember]

theorem Shaped.sound_nodeMember (hnode : nodes[n]? = some choices) :
    (rackOf config nodes links).SoundMember (nodeMember config n choices) := by
  have hevident : Evident (evidentNode config n choices) :=
    evident_of_bare rfl (valid_indexName (by decide) (h.node_narrow hnode)) rfl (by decide)
      (by simp [evidentNode, baseMember])
  have hsound := h.sound_evidentNode hnode hevident
  refine nodeMember_cases (rackOf config nodes links).SoundMember hsound ?_ ?_
  · exact
      { hsound with
        valid := (hevident.withoutEvidence rfl rfl).valid
        live := by simp [withoutEvidence] }
  · exact { hsound with valid := hevident.degraded.valid }

omit h in
/-- A member that is in no node, under a failure domain of its own. -/
theorem sound_alone (name : DomainName) (hname : name ∈ domainNames config) {record : MemberRecord}
    (hevident : Evident record) (hlive : record.lifecycle ≠ .retired)
    (hplain : record.generation = {}) (hparent : record.parent = none)
    (hdomains : record.failureDomains = [.ofText name.text])
    (hpower : record.powerDomain = none) (hcooling : record.coolingDomain = none)
    (hswitch : record.switchDomain = none) :
    (rackOf config nodes links).SoundMember record where
  valid := hevident.valid
  live := hlive
  plain := hplain
  parent := by simp [hparent]
  failureDomains := by
    intro id hid
    obtain rfl : id = .ofText name.text := by simpa [hdomains] using hid
    exact names_failureDomain name hname
  powerDomain := by simp [hpower]
  coolingDomain := by simp [hcooling]
  switchDomain := hswitch
  independent := fun _ => ⟨hparent, hpower, hcooling⟩

theorem Shaped.sound_powerMember {p : Nat} (hp : p < config.powerDomainCount) :
    (rackOf config nodes links).SoundMember (powerMember p) :=
  sound_alone (.power p) (mem_domainNames.mpr hp)
    (evident_of_bare rfl (valid_indexName (by decide) (hp.trans h.narrow.power)) rfl (by decide)
      (by simp [powerMember, baseMember]))
    (by simp [powerMember, baseMember]) rfl rfl rfl rfl rfl rfl

theorem Shaped.sound_coolingMember {c : Nat} (hc : c < config.coolingDomainCount) :
    (rackOf config nodes links).SoundMember (coolingMember c) :=
  sound_alone (.cooling c) (mem_domainNames.mpr hc)
    (evident_of_bare rfl (valid_indexName (by decide) (hc.trans h.narrow.cooling)) rfl (by decide)
      (by simp [coolingMember, baseMember]))
    (by simp [coolingMember, baseMember]) rfl rfl rfl rfl rfl rfl

theorem Shaped.sound_switchMember {s : Nat} (hs : s < config.switchCount) :
    (rackOf config nodes links).SoundMember (switchMember s) :=
  sound_alone (.switch s) (mem_domainNames.mpr hs)
    (evident_of_bare rfl (valid_indexName (by decide) (hs.trans h.narrow.switches)) rfl (by decide)
      (by simp [switchMember, baseMember]))
    (by simp [switchMember, baseMember]) rfl rfl rfl rfl rfl rfl

/-- A member inside a node, with the number of its node and its own in its name. -/
theorem Shaped.part_nested (hnode : nodes[n]? = some choices) {text : String}
    (hstem : isStem text = true) {inner : Nat} (hinner : inner < 2 ^ 64) {kind : MemberKind}
    {source : String} {details : MemberDetails} (hkind : details.matchesKind kind = true)
    (hsource : (validateLabel (str source)).ok = true)
    (hother : kind ≠ .powerDomain ∧ kind ≠ .coolingDomain) :
    PartOf config n (nodePart kind (nestedName text n inner) source n details) :=
  partOf_nodePart config n (valid_nestedName hstem (h.node_narrow hnode) hinner) hkind hsource
    hother

theorem Shaped.sound_members : ∀ record ∈ (rackOf config nodes links).members,
    (rackOf config nodes links).SoundMember record := by
  intro record hmem
  refine members_cases (fun p hp => h.sound_powerMember hp) (fun c hc => h.sound_coolingMember hc)
    (fun n choices hnode => h.sound_nodeMember hnode) (fun n choices k hnode hk => ?_)
    (fun n choices m hnode hm => ?_) (fun n choices a addressed hnode ha => ?_)
    (fun n choices i hnode hi => ?_) (fun n choices hnode => ?_) (fun n choices hnode => ?_)
    (fun s hs => h.sound_switchMember hs) record (mem_rackOf_members.mp hmem)
  · have hparts := h.parts_narrow hnode
    exact h.sound_part hnode
      ((h.part_nested hnode (by decide) (by omega) rfl (by decide) (by decide)).supplied
        (List.forall_mem_nil _))
  · have hparts := h.parts_narrow hnode
    exact h.sound_part hnode
      (h.part_nested hnode (by decide) (by omega) rfl (by decide) (by decide))
  · have hparts := h.parts_narrow hnode
    have hlength := (List.getElem?_eq_some_iff.mp ha).1
    have hcapability : validateCapability { syntheticObservation with
        id := .ofText (str "compute-capability-9.0"), value := some (str "9.0") } = none := by
      decide +kernel
    exact h.sound_part hnode
      ((h.part_nested hnode (by decide) (by omega) rfl (by decide) (by decide)).supplied
        (by simpa using hcapability))
  · have hparts := h.parts_narrow hnode
    exact h.sound_part hnode
      ((h.part_nested hnode (by decide) (by omega) rfl (by decide) (by decide)).supplied
        (List.forall_mem_nil _))
  · exact h.sound_part hnode
      (h.part_nested hnode (by decide) (by decide) rfl (by decide) (by decide))
  · exact h.sound_part hnode (partOf_nodePart config n
      (valid_indexName (by decide) (h.node_narrow hnode)) rfl (by decide) (by decide))

/-! Soundness of the failure domains. -/

/-- A failure domain under a name of the rack, on its own or below the rack's. -/
theorem Shaped.sound_domain (name : DomainName) (hname : name ∈ domainNames config)
    (kind : FailureDomainKind) {parents : List FailureDomainId} {label : String}
    (hparents : parents = [] ∨ parents = [rackDomain])
    (hlabel : (validateLabel (str label)).ok = true) :
    (rackOf config nodes links).SoundFailureDomain (domain name.text kind parents label) where
  identity := by
    change (validateIdentity (StrongId.ofText name.text : FailureDomainId).value).ok = true
    rw [h.narrow.value_domain hname]
    exact DomainName.valid (h.narrow.index_lt hname)
  label := by simpa [domain] using hlabel
  valid := validateEvidence_synthetic
  plain := rfl
  parents := by
    refine hparents.imp id fun hone => ?_
    have hrack : domain (str "fd-rack") .rack [] "synthetic rack failure domain" ∈
        failureDomains config := by simp [failureDomains]
    exact ⟨_, (List.mem_insertionSort _).mpr hrack, rfl, hone⟩

theorem Shaped.sound_failureDomains : ∀ record ∈ (rackOf config nodes links).failureDomains,
    (rackOf config nodes links).SoundFailureDomain record := by
  intro record hmem
  have hlisted : record ∈ failureDomains config := (List.mem_insertionSort _).mp hmem
  simp only [failureDomains, List.mem_append, List.mem_singleton, List.mem_map,
    List.mem_range] at hlisted
  rcases hlisted with ((((rfl | ⟨p, hp, rfl⟩) | ⟨c, hc, rfl⟩) | ⟨s, hs, rfl⟩) | ⟨n, hn, rfl⟩) |
    ⟨n, hn, rfl⟩
  · exact h.sound_domain .rack (mem_domainNames.mpr trivial) _ (Or.inl rfl) (by decide)
  · exact h.sound_domain (.power p) (mem_domainNames.mpr hp) _ (Or.inr rfl) (by decide)
  · exact h.sound_domain (.cooling c) (mem_domainNames.mpr hc) _ (Or.inr rfl) (by decide)
  · exact h.sound_domain (.switch s) (mem_domainNames.mpr hs) _ (Or.inr rfl) (by decide)
  · exact h.sound_domain (.node n) (mem_domainNames.mpr hn) _ (Or.inr rfl) (by decide)
  · have hchassis := mem_chassisNodes.mp hn
    exact h.sound_domain (.chassis (n / 2)) (mem_domainNames.mpr (by simp only; omega)) _
      (Or.inr rfl) (by decide)

/-! Soundness of the envelopes. -/

omit h in
theorem sound_power : ∀ record ∈ (rackOf config nodes links).power,
    SyntheticRack.SoundPower record := by
  intro record hrecord
  obtain ⟨-, rfl⟩ : config.includePowerEnvelope = true ∧ powerEnvelope config = record := by
    simpa [rackOf] using hrecord
  exact
    { valid := validateEvidence_synthetic
      limit := by
        rintro limit ⟨rfl⟩
        decide +kernel
      draw := by
        rintro draw ⟨rfl⟩
        decide +kernel
      current := rfl }

theorem Shaped.sound_cooling : ∀ record ∈ (rackOf config nodes links).cooling,
    (rackOf config nodes links).SoundCooling record := by
  intro record hrecord
  obtain ⟨-, rfl⟩ : config.includeCoolingEnvelope = true ∧ coolingEnvelope config = record := by
    simpa [rackOf] using hrecord
  refine
    { valid := validateEvidence_synthetic
      zones := fun zone hzone => ?_
      current := rfl }
  obtain ⟨c, hc, rfl⟩ := List.mem_map.mp hzone
  exact
    { member := h.cooling_member (List.mem_range.mp hc)
      limit := by
        rintro limit ⟨rfl⟩
        decide +kernel
      capacity := by
        rintro capacity ⟨rfl⟩
        decide +kernel
      temperature := by
        rintro temperature ⟨rfl⟩
        decide +kernel
      throttling := by
        rintro throttling ⟨rfl⟩
        decide +kernel }

/-! Soundness of the relationships. -/

omit h in
theorem sound_relationship {cls : RelationshipClass} {source target : MemberKey} {origin : String}
    (hcls : cls ≠ .contains) (hne : source ≠ target)
    (hsource : ∃ found ∈ members config nodes, found.key = source)
    (htarget : ∃ found ∈ members config nodes, found.key = target) :
    (rackOf config nodes links).SoundRelationship (relationship cls source target origin) := by
  have hends := (RelationshipKey.canonical_endpoints
    (fun key => ∃ found ∈ members config nodes, found.key = key) ⟨cls, source, target⟩).mpr
      ⟨hsource, htarget⟩
  simp only [← @mem_rackOf_members config nodes links] at hends
  exact
    { canonical := RelationshipKey.canonical_canonical ⟨cls, source, target⟩
      distinct := by
        change (RelationshipKey.canonicalize cls source target).source ≠
          (RelationshipKey.canonicalize cls source target).target
        unfold RelationshipKey.canonicalize
        split
        · exact hne.symm
        · exact hne
      valid := validateEvidence_synthetic
      unmeasured := rfl
      plain := rfl
      notContains := by
        change (RelationshipKey.canonical ⟨cls, source, target⟩).cls ≠ _
        rw [RelationshipKey.cls_canonical]
        exact hcls
      source := hends.1
      target := hends.2 }

theorem Shaped.linked_node (hlink : links[n]? = some true) :
    0 < config.switchCount ∧ ∃ choices, nodes[n]? = some choices := by
  have hlength := (List.getElem?_eq_some_iff.mp hlink).1
  have hlinked := h.linked
  have hne : links ≠ [] := by
    rintro rfl
    simp at hlength
  exact ⟨h.switched hne, nodes[n], List.getElem?_eq_getElem (by omega)⟩

theorem Shaped.sound_relationships : ∀ record ∈ (rackOf config nodes links).relationships,
    (rackOf config nodes links).SoundRelationship record := by
  intro record hmem
  have hnodes : ∀ n choices, nodes[n]? = some choices →
      ∃ found ∈ members config nodes, found.key = nodeKey n :=
    fun n choices hnode => ⟨_, node_mem hnode, key_nodeMember n choices⟩
  have haccelerators : ∀ n choices a, nodes[n]? = some choices → a < choices.addressed.length →
      ∃ found ∈ members config nodes, found.key = acceleratorKey n a :=
    fun n choices a hnode ha => ⟨_, accelerator_mem hnode (List.getElem?_eq_getElem ha), rfl⟩
  have hswitched : ∀ n cls, cls ≠ RelationshipClass.contains → links[n]? = some true →
      (rackOf config nodes links).SoundRelationship (relationship cls (nodeKey n)
        (switchKey (n % config.switchCount)) "synthetic:topology") := by
    intro n cls hcls hlink
    obtain ⟨hswitches, choices, hnode⟩ := h.linked_node hlink
    exact sound_relationship hcls (by simp [nodeKey, switchKey]) (hnodes n choices hnode)
      ⟨_, switch_mem (Nat.mod_lt n hswitches), rfl⟩
  refine relationships_cases (fun n hlink => hswitched n _ (by decide) hlink)
    (fun n hlink => hswitched n _ (by decide) hlink) (fun n choices a hnode ha => ?_)
    (fun n choices a hnode ha => ?_) record ((List.mem_insertionSort _).mp hmem)
  · exact sound_relationship (by decide) (by simp [nodeKey, acceleratorKey])
      (hnodes n choices hnode) (haccelerators n choices a hnode ha)
  · have hne : acceleratorKey n a ≠ acceleratorKey n (a + 1) := by
      intro heq
      have hnumber := (nestedName_injective (congrArg MemberKey.id heq)).2
      omega
    exact sound_relationship (by decide) hne (haccelerators n choices a hnode (by omega))
      (haccelerators n choices (a + 1) hnode ha)

/-! The rack as a whole. -/

theorem Shaped.sound : (rackOf config nodes links).Sound where
  memberKeys := ((List.perm_insertionSort _ _).map _).nodup_iff.mpr nodup_members
  relationshipKeys := ((List.perm_insertionSort _ _).map _).nodup_iff.mpr nodup_relationships
  failureDomainIds := ((List.perm_insertionSort _ _).map _).nodup_iff.mpr
    h.narrow.nodup_failureDomains
  members := h.sound_members
  relationships := h.sound_relationships
  failureDomains := h.sound_failureDomains
  power := sound_power
  cooling := h.sound_cooling

theorem Shaped.ordered : (rackOf config nodes links).Ordered where
  members := pairwise_sorted nodup_members
  relationships := pairwise_sorted nodup_relationships
  failureDomains := pairwise_sorted h.narrow.nodup_failureDomains

end Shape

/-! The random choices. -/

theorem length_mapM {σ α β : Type} (draw : α → StateM σ β) (items : List α) (state : σ) :
    (items.mapM draw state).1.length = items.length := by
  induction items generalizing state with
  | nil => rfl
  | cons item items ih =>
    rw [List.mapM_cons, List.length_cons, ← ih (draw item state).2]
    rfl

section Draws
variable (engine : RandomEngine) (config : SyntheticRackConfig) (state : engine.State)

theorem length_drawnNodes :
    (drawRack engine config state).1.1.length = config.nodeCount := by
  have hlength := length_mapM (fun _ => drawNode engine config) (List.range config.nodeCount) state
  rwa [List.length_range] at hlength

theorem length_drawLinks : (drawLinks engine config state).1.length =
    if config.switchCount = 0 then 0 else config.nodeCount := by
  unfold drawLinks
  split
  · rfl
  · rw [length_mapM, List.length_range]

theorem length_drawnLinks : (drawRack engine config state).1.2.length =
    if config.switchCount = 0 then 0 else config.nodeCount :=
  length_drawLinks engine config _

theorem shaped_drawRack (hpower : 0 < config.powerDomainCount)
    (hcooling : 0 < config.coolingDomainCount)
    (hcounted : (members config (drawRack engine config state).1.1).length < 2 ^ 64) :
    Shaped config (drawRack engine config state).1.1 (drawRack engine config state).1.2 where
  power := hpower
  cooling := hcooling
  drawn := length_drawnNodes engine config state
  linked := by
    rw [length_drawnLinks, length_drawnNodes]
    split <;> omega
  switched hne := by
    have hlength := List.length_pos_iff.mpr hne
    rw [length_drawnLinks] at hlength
    split at hlength
    · exact absurd hlength (Nat.lt_irrefl 0)
    · omega
  counted := hcounted

end Draws

end Synthetic

open Synthetic in
theorem generated_published (engine : RandomEngine) (config : SyntheticRackConfig)
    (options : RackFabricOptions) (authority : AuthorityToken)
    (declaredAt poweredAt cooledAt : Timestamp) (hpower : 0 < config.powerDomainCount)
    (hcooling : 0 < config.coolingDomainCount)
    (hepoch : ∀ epoch ∈ config.rackEpoch, epoch.isSet = true)
    (hfits : (generateSyntheticRack engine config).Fits options.limits)
    (hoperator : authority.boot = none) (hcurrent : authority.coordinatorEpoch = .first) :
    (generateSyntheticRack engine config).Published poweredAt cooledAt
      (publishSyntheticRack options declaredAt poweredAt cooledAt (RackState.fresh options)
        (generateSyntheticRack engine config) authority) := by
  have hcounted : (generateSyntheticRack engine config).members.length < 2 ^ 64 :=
    hfits.members.trans_lt hfits.membersWidth
  have hshaped := shaped_drawRack engine config (engine.seeded config.seed) hpower hcooling
    (by simpa [generateSyntheticRack, rackOf, sortBy] using hcounted)
  refine hshaped.sound.published hshaped.ordered hfits ?_ hoperator hcurrent declaredAt poweredAt
    cooledAt
  cases hnamed : config.rackEpoch with
  | none =>
    have hdefault : (StrongId.ofText (str "synth-epoch") : RackEpochId).isSet = true := by decide
    simpa [rackOf, hnamed] using hdefault
  | some epoch => simpa [rackOf, hnamed] using hepoch epoch hnamed

namespace Scenario

/-- An engine that counts its draws. The reals are 0.5 and 0.125 in turn. -/
def countingEngine : RandomEngine where
  State := Nat
  seeded seed := seed.toNat
  uniformReal := do
    let turn ← get
    set (turn + 1)
    return if turn % 2 = 0 then ⟨0x3FE0000000000000⟩ else ⟨0x3FC0000000000000⟩
  uniformInt low high := do
    let turn ← get
    set (turn + 1)
    return low + turn % (high - low + 1)

def pairOfNodes : SyntheticRackConfig where
  nodeCount := 2
  minAcceleratorsPerNode := 1
  maxAcceleratorsPerNode := 2
  dpuCount := 1
  switchCount := 1
  powerDomainCount := 1
  coolingDomainCount := 1
  syntheticAcceleratorPeerLinks := true

def firstOperator : AuthorityToken where
  coordinatorEpoch := .first

theorem pair_of_nodes_published :
    (generateSyntheticRack countingEngine pairOfNodes).Published ⟨2⟩ ⟨3⟩
      (publishSyntheticRack {} ⟨1⟩ ⟨2⟩ ⟨3⟩ (RackState.fresh {})
        (generateSyntheticRack countingEngine pairOfNodes) firstOperator) :=
  generated_published countingEngine pairOfNodes {} firstOperator ⟨1⟩ ⟨2⟩ ⟨3⟩ (by decide)
    (by decide) (by simp [pairOfNodes]) (by decide +kernel) rfl rfl

/-- An epoch that is no identity, which the declaration of the rack refuses. -/
def unsetEpoch : SyntheticRackConfig :=
  { pairOfNodes with rackEpoch := some default }

theorem unset_epoch_refused :
    0 < unsetEpoch.powerDomainCount ∧ 0 < unsetEpoch.coolingDomainCount ∧
      (generateSyntheticRack countingEngine unsetEpoch).Fits {} ∧
      (publishSyntheticRack {} ⟨1⟩ ⟨2⟩ ⟨3⟩ (RackState.fresh {})
        (generateSyntheticRack countingEngine unsetEpoch) firstOperator).2.rejections ≠ [] ∧
      ¬ (generateSyntheticRack countingEngine unsetEpoch).Published ⟨2⟩ ⟨3⟩
        (publishSyntheticRack {} ⟨1⟩ ⟨2⟩ ⟨3⟩ (RackState.fresh {})
          (generateSyntheticRack countingEngine unsetEpoch) firstOperator) := by
  have hrefused : (publishSyntheticRack {} ⟨1⟩ ⟨2⟩ ⟨3⟩ (RackState.fresh {})
      (generateSyntheticRack countingEngine unsetEpoch) firstOperator).2.rejections ≠ [] := by
    decide +kernel
  refine ⟨by decide, by decide, by decide +kernel, hrefused, fun hpublished => hrefused ?_⟩
  rw [hpublished.summary]

end Scenario

end RackFabric
