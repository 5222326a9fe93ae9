import RackFabric.Properties.Names
import RackFabric.Properties.Publishable

/-! The names that a generated rack gives its failure domains and members. -/
namespace RackFabric
open Std Filing

namespace Synthetic

/-! Names. -/

def isStem (text : String) : Bool :=
  (str text).length ≤ 20 && (str text).all isPlain

theorem plain_of_isStem {text : String} (h : isStem text = true) :
    ∀ byte ∈ str text, isPlain byte = true := by
  simp only [isStem, Bool.and_eq_true] at h
  exact List.all_eq_true.mp h.2

theorem length_of_isStem {text : String} (h : isStem text = true) : (str text).length ≤ 20 := by
  simp only [isStem, Bool.and_eq_true] at h
  exact of_decide_eq_true h.1

theorem plain_dashed {text : Str} (h : ∀ byte ∈ text, isPlain byte = true) (index : Nat) :
    ∀ byte ∈ text ++ str "-" ++ decimal index, isPlain byte = true := by
  have hdash : (str "-").all isPlain = true := by decide
  intro byte hbyte
  rcases List.mem_append.mp hbyte with hleft | hdigit
  · rcases List.mem_append.mp hleft with htext | hsign
    · exact h byte htext
    · exact List.all_eq_true.mp hdash byte hsign
  · exact isPlain_of_mem_decimal hdigit

theorem length_dashed (text : Str) {index : Nat} (h : index < 2 ^ 64) :
    (text ++ str "-" ++ decimal index).length ≤ text.length + 21 := by
  have hdigits := length_decimal_le h
  have hdash : (str "-").length = 1 := by decide
  simp only [List.length_append, hdash]
  omega

theorem dashed_ne_nil (text : Str) (index : Nat) : text ++ str "-" ++ decimal index ≠ [] := by
  simp [str]

theorem valid_indexName {text : String} (hstem : isStem text = true) {index : Nat}
    (h : index < 2 ^ 64) : (validateIdentity (indexName text index)).ok = true := by
  refine validateIdentity_of_plain (dashed_ne_nil _ _) ?_ (plain_dashed (plain_of_isStem hstem) _)
  have hlength := length_dashed (str text) h
  have hshort := length_of_isStem hstem
  exact hlength.trans (by simp only [kMaxIdentityLength]; omega)

theorem valid_nestedName {text : String} (hstem : isStem text = true) {outer inner : Nat}
    (houter : outer < 2 ^ 64) (hinner : inner < 2 ^ 64) :
    (validateIdentity (nestedName text outer inner)).ok = true := by
  refine validateIdentity_of_plain (dashed_ne_nil _ _) ?_
    (plain_dashed (plain_dashed (plain_of_isStem hstem) _) _)
  have hdashed := length_dashed (str text) houter
  have hlength := length_dashed (str text ++ str "-" ++ decimal outer) hinner
  have hshort := length_of_isStem hstem
  exact hlength.trans (by simp only [kMaxIdentityLength]; omega)

theorem indexName_injective {left right : String} {first second : Nat}
    (h : indexName left first = indexName right second) : str left = str right ∧ first = second :=
  dashed_injective h

theorem nestedName_injective {text : String} {first second inner inner' : Nat}
    (h : nestedName text first inner = nestedName text second inner') :
    first = second ∧ inner = inner' := by
  obtain ⟨houter, hinner⟩ := dashed_injective h
  exact ⟨(dashed_injective houter).2, hinner⟩

theorem value_ofText {tag : IdentityTag} {text : Str} (h : (validateIdentity text).ok = true) :
    (StrongId.ofText text : StrongId tag).value = text := by
  rw [StrongId.ofText, dif_pos h]

/-! Failure domains. -/

inductive DomainName where
  | rack
  | power (p : Nat)
  | cooling (c : Nat)
  | switch (s : Nat)
  | node (n : Nat)
  | chassis (c : Nat)

def DomainName.text : DomainName → Str
  | rack => str "fd-rack"
  | power p => indexName "fd-power" p
  | cooling c => indexName "fd-cooling" c
  | switch s => indexName "fd-switch" s
  | node n => indexName "fd-node" n
  | chassis c => indexName "fd-chassis" c

def DomainName.index : DomainName → Nat
  | rack => 0
  | power index | cooling index | switch index | node index | chassis index => index

theorem DomainName.text_injective {left right : DomainName} (h : left.text = right.text) :
    left = right := by
  have hrack : ∀ (text : String) (index : Nat), (str text).take 4 ≠ (str "fd-rack").take 4 →
      4 ≤ (str text).length → str "fd-rack" ≠ indexName text index := by
    intro text index hne hlength heq
    have htake := congrArg (List.take 4) heq
    rw [indexName, List.append_assoc, List.take_append_of_le_length hlength] at htake
    exact hne htake.symm
  cases left <;> cases right
  all_goals
    first
      | rfl
      | exact absurd h (hrack _ _ (by decide) (by decide))
      | exact absurd h.symm (hrack _ _ (by decide) (by decide))
      | exact absurd (indexName_injective h).1 (by decide)
      | rw [(indexName_injective h).2]

theorem DomainName.valid {name : DomainName} (h : name.index < 2 ^ 64) :
    (validateIdentity name.text).ok = true := by
  cases name with
  | rack => decide
  | power p => exact valid_indexName (by decide) h
  | cooling c => exact valid_indexName (by decide) h
  | switch s => exact valid_indexName (by decide) h
  | node n => exact valid_indexName (by decide) h
  | chassis c => exact valid_indexName (by decide) h

/-- The counts that numbers in names come from fit `std::size_t`. -/
structure Narrow (config : SyntheticRackConfig) : Prop where
  power : config.powerDomainCount < 2 ^ 64
  cooling : config.coolingDomainCount < 2 ^ 64
  switches : config.switchCount < 2 ^ 64
  nodes : config.nodeCount < 2 ^ 64

section Domains
variable {config : SyntheticRackConfig}

def domainNames (config : SyntheticRackConfig) : List DomainName :=
  [.rack] ++ (List.range config.powerDomainCount).map .power ++
    (List.range config.coolingDomainCount).map .cooling ++
    (List.range config.switchCount).map .switch ++ (List.range config.nodeCount).map .node ++
    (chassisNodes config).map fun n => .chassis (n / 2)

theorem ids_failureDomains : (failureDomains config).map FailureDomainRecord.id =
    (domainNames config).map fun name => .ofText name.text := by
  simp only [failureDomains, domainNames, List.map_append, List.map_map]
  rfl

theorem mem_chassisNodes {n : Nat} :
    n ∈ chassisNodes config ↔ n % 2 = 0 ∧ n + 1 < config.nodeCount := by
  simp only [chassisNodes, List.mem_filter, List.mem_range, decide_eq_true_eq]
  omega

theorem nodup_domainNames : (domainNames config).Nodup := by
  have hchassis : ((chassisNodes config).map fun n => DomainName.chassis (n / 2)).Nodup := by
    refine List.Nodup.map_on (fun left hleft right hright heq => ?_)
      (List.nodup_range.filter _)
    have hhalf := DomainName.chassis.inj heq
    have hleft := mem_chassisNodes.mp hleft
    have hright := mem_chassisNodes.mp hright
    omega
  have hrange {name : Nat → DomainName} (hname : Function.Injective name) (count : Nat) :
      ((List.range count).map name).Nodup := List.nodup_range.map hname
  simp only [domainNames, List.nodup_append, List.nodup_singleton, true_and, hchassis,
    hrange fun _ _ => DomainName.power.inj, hrange fun _ _ => DomainName.cooling.inj,
    hrange fun _ _ => DomainName.switch.inj, hrange fun _ _ => DomainName.node.inj]
  simp only [List.mem_append, List.mem_singleton, List.mem_map, List.mem_range]
  refine ⟨⟨⟨⟨?_, ?_⟩, ?_⟩, ?_⟩, ?_⟩ <;> rintro name hname other ⟨index, -, rfl⟩ rfl <;>
    simp at hname

/-- Every second node shares a chassis with the node after it. -/
theorem mem_domainNames {name : DomainName} : name ∈ domainNames config ↔
    match name with
    | .rack => True
    | .power p => p < config.powerDomainCount
    | .cooling c => c < config.coolingDomainCount
    | .switch s => s < config.switchCount
    | .node n => n < config.nodeCount
    | .chassis c => 2 * c + 1 < config.nodeCount := by
  cases name with
  | chassis c =>
    simp only [domainNames, List.mem_append, List.mem_map, mem_chassisNodes, reduceCtorEq,
      List.mem_singleton, and_false, exists_false, false_or, DomainName.chassis.injEq]
    constructor
    · rintro ⟨n, heven, rfl⟩
      omega
    · exact fun hlt => ⟨2 * c, by omega⟩
  | _ => simp [domainNames]

theorem Narrow.index_lt (h : Narrow config) {name : DomainName}
    (hname : name ∈ domainNames config) : name.index < 2 ^ 64 := by
  have hpower := h.power
  have hcooling := h.cooling
  have hswitches := h.switches
  have hnodes := h.nodes
  rw [mem_domainNames] at hname
  cases name <;> simp only [DomainName.index] at hname ⊢ <;> omega

theorem Narrow.value_domain (h : Narrow config) {name : DomainName}
    (hname : name ∈ domainNames config) :
    (StrongId.ofText name.text : FailureDomainId).value = name.text :=
  value_ofText (DomainName.valid (h.index_lt hname))

theorem Narrow.nodup_failureDomains (h : Narrow config) :
    ((failureDomains config).map FailureDomainRecord.id).Nodup := by
  rw [ids_failureDomains]
  refine List.Nodup.map_on (fun left hleft right hright heq => ?_) nodup_domainNames
  have hvalue := congrArg StrongId.value heq
  rw [h.value_domain hleft, h.value_domain hright] at hvalue
  exact DomainName.text_injective hvalue

end Domains

/-! Members. -/

inductive MemberName where
  | power (p : Nat)
  | cooling (c : Nat)
  | node (n : Nat)
  | cpu (n k : Nat)
  | memory (n m : Nat)
  | accelerator (n a : Nat)
  | nic (n i : Nat)
  | dpu (n : Nat)
  | storage (n : Nat)
  | switch (s : Nat)

namespace MemberName

def key : MemberName → MemberKey
  | power p => ⟨.powerDomain, indexName "pdu" p⟩
  | cooling c => ⟨.coolingDomain, indexName "cooling" c⟩
  | node n => ⟨.node, indexName "node" n⟩
  | cpu n k => ⟨.cpuPackage, nestedName "cpu" n k⟩
  | memory n m => ⟨.memoryDomain, nestedName "mem" n m⟩
  | accelerator n a => ⟨.accelerator, nestedName "acc" n a⟩
  | nic n i => ⟨.nic, nestedName "nic" n i⟩
  | dpu n => ⟨.dpu, nestedName "dpu" n 0⟩
  | storage n => ⟨.storageEndpoint, indexName "storage" n⟩
  | switch s => ⟨.switch, indexName "switch" s⟩

def node? : MemberName → Option Nat
  | node n | cpu n _ | memory n _ | accelerator n _ | nic n _ | dpu n | storage n => some n
  | _ => none

theorem key_injective {left right : MemberName} (h : left.key = right.key) : left = right := by
  have hkind : left.key.kind = right.key.kind := congrArg MemberKey.kind h
  have hid : left.key.id = right.key.id := congrArg MemberKey.id h
  cases left with
  | power p =>
    cases right with
    | power q => rw [(indexName_injective hid).2]
    | _ => cases hkind
  | cooling p =>
    cases right with
    | cooling q => rw [(indexName_injective hid).2]
    | _ => cases hkind
  | node n =>
    cases right with
    | node n' => rw [(indexName_injective hid).2]
    | _ => cases hkind
  | cpu n k =>
    cases right with
    | cpu n' k' => rw [(nestedName_injective hid).1, (nestedName_injective hid).2]
    | _ => cases hkind
  | memory n m =>
    cases right with
    | memory n' m' => rw [(nestedName_injective hid).1, (nestedName_injective hid).2]
    | _ => cases hkind
  | accelerator n a =>
    cases right with
    | accelerator n' a' => rw [(nestedName_injective hid).1, (nestedName_injective hid).2]
    | _ => cases hkind
  | nic n i =>
    cases right with
    | nic n' i' => rw [(nestedName_injective hid).1, (nestedName_injective hid).2]
    | _ => cases hkind
  | dpu n =>
    cases right with
    | dpu n' => rw [(nestedName_injective hid).1]
    | _ => cases hkind
  | storage n =>
    cases right with
    | storage n' => rw [(indexName_injective hid).2]
    | _ => cases hkind
  | switch s =>
    cases right with
    | switch s' => rw [(indexName_injective hid).2]
    | _ => cases hkind

end MemberName

section Members
variable (config : SyntheticRackConfig) (nodes : List NodeChoices)

def nodeNames (n : Nat) (choices : NodeChoices) : List MemberName :=
  [.node n] ++ (List.range config.cpuPackagesPerNode).map (.cpu n) ++
    (List.range config.memoryDomainsPerNode).map (.memory n) ++
    choices.addressed.zipIdx.map (fun (_, a) => .accelerator n a) ++
    (List.range choices.nics).map (.nic n) ++
    (if n < config.dpuCount then [.dpu n] else []) ++
    (if n < config.storageEndpointCount then [.storage n] else [])

def memberNames : List MemberName :=
  (List.range config.powerDomainCount).map .power ++
    (List.range config.coolingDomainCount).map .cooling ++
    nodes.zipIdx.flatMap (fun (choices, n) => nodeNames config n choices) ++
    (List.range config.switchCount).map .switch

variable {config nodes}

theorem nodeMember_cases (holds : MemberRecord → Prop) {n : Nat} {choices : NodeChoices}
    (evident : holds (evidentNode config n choices))
    (missing : holds (withoutEvidence (evidentNode config n choices)))
    (degraded : holds (degraded (evidentNode config n choices))) :
    holds (nodeMember config n choices) := by
  unfold nodeMember
  split
  · exact missing
  · split
    · exact degraded
    · exact evident

@[simp] theorem key_nodeMember (n : Nat) (choices : NodeChoices) :
    (nodeMember config n choices).key = nodeKey n :=
  nodeMember_cases (·.key = nodeKey n) rfl rfl rfl

@[simp] theorem parent_nodeMember (n : Nat) (choices : NodeChoices) :
    (nodeMember config n choices).parent = none :=
  nodeMember_cases (·.parent = none) rfl rfl rfl

theorem keys_nodeMembers (n : Nat) (choices : NodeChoices) :
    (nodeMembers config n choices).map MemberRecord.key =
      (nodeNames config n choices).map MemberName.key := by
  unfold nodeMembers nodeNames
  simp only [List.map_append, List.map_map, apply_ite (List.map MemberRecord.key),
    apply_ite (List.map MemberName.key), List.map_cons, List.map_nil, key_nodeMember]
  rfl

theorem keys_members : (members config nodes).map MemberRecord.key =
    (memberNames config nodes).map MemberName.key := by
  unfold members memberNames
  simp only [List.map_append, List.map_map, List.map_flatMap, keys_nodeMembers]
  rfl

theorem nodup_nodeNames (n : Nat) (choices : NodeChoices) :
    (nodeNames config n choices).Nodup := by
  have hrange {name : Nat → MemberName} (hname : Function.Injective name) (count : Nat) :
      ((List.range count).map name).Nodup := List.nodup_range.map hname
  have haccelerators : (choices.addressed.zipIdx.map fun (_, a) =>
      MemberName.accelerator n a).Nodup := by
    have hindexes := (List.nodup_zipIdx_map_snd choices.addressed).map
      (show Function.Injective (MemberName.accelerator n) from
        fun _ _ h => (MemberName.accelerator.inj h).2)
    rwa [List.map_map] at hindexes
  simp only [nodeNames, List.nodup_append, List.nodup_singleton, true_and, haccelerators,
    hrange fun _ _ h => (MemberName.cpu.inj h).2, hrange fun _ _ h => (MemberName.memory.inj h).2,
    hrange fun _ _ h => (MemberName.nic.inj h).2]
  have hdpu : (if n < config.dpuCount then [MemberName.dpu n] else []).Nodup := by
    split <;> simp
  have hstorage :
      (if n < config.storageEndpointCount then [MemberName.storage n] else []).Nodup := by
    split <;> simp
  refine ⟨⟨⟨⟨⟨?_, ?_⟩, ?_⟩, ?_⟩, hdpu, ?_⟩, hstorage, ?_⟩
  all_goals
    rintro name hname other hother rfl
    simp only [List.mem_append, List.mem_map, List.mem_ite_nil_right, List.mem_cons,
      List.not_mem_nil, or_false] at hname hother
    grind

theorem node_of_mem_nodeNames {n : Nat} {choices : NodeChoices} {name : MemberName}
    (h : name ∈ nodeNames config n choices) : name.node? = some n := by
  simp only [nodeNames, List.mem_append, List.mem_map, List.mem_ite_nil_right, List.mem_cons,
    List.not_mem_nil, or_false] at h
  rcases h with (((((rfl | ⟨_, -, rfl⟩) | ⟨_, -, rfl⟩) | ⟨_, -, rfl⟩) | ⟨_, -, rfl⟩) | ⟨-, rfl⟩) |
    ⟨-, rfl⟩ <;> rfl

theorem nodup_memberNames : (memberNames config nodes).Nodup := by
  have hrange {name : Nat → MemberName} (hname : Function.Injective name) (count : Nat) :
      ((List.range count).map name).Nodup := List.nodup_range.map hname
  have hnodes : (nodes.zipIdx.flatMap fun (choices, n) => nodeNames config n choices).Nodup :=
    @nodup_flatMap_zipIdx _ _ nodes (fun (choices, n) => nodeNames config n choices)
      (fun entry => nodup_nodeNames entry.2 entry.1) (fun name => name.node?.getD 0)
      fun entry name hname => by rw [node_of_mem_nodeNames hname]; rfl
  simp only [memberNames, List.nodup_append, hnodes, true_and,
    hrange fun _ _ => MemberName.power.inj, hrange fun _ _ => MemberName.cooling.inj,
    hrange fun _ _ => MemberName.switch.inj]
  refine ⟨⟨?_, ?_⟩, ?_⟩
  · rintro name hname other hother rfl
    simp only [List.mem_map] at hname hother
    grind
  · rintro name hname other hother rfl
    obtain ⟨⟨choices, n⟩, -, hnode⟩ := List.mem_flatMap.mp hother
    have hnode := node_of_mem_nodeNames hnode
    simp only [List.mem_append, List.mem_map] at hname
    rcases hname with ⟨_, -, rfl⟩ | ⟨_, -, rfl⟩ <;> cases hnode
  · rintro name hname other hother rfl
    obtain ⟨s, -, rfl⟩ := List.mem_map.mp hother
    simp only [List.mem_append, List.mem_map] at hname
    rcases hname with (⟨_, -, heq⟩ | ⟨_, -, heq⟩) | hnode
    · cases heq
    · cases heq
    · obtain ⟨⟨choices, n⟩, -, hnode⟩ := List.mem_flatMap.mp hnode
      cases node_of_mem_nodeNames hnode

theorem nodup_members : ((members config nodes).map MemberRecord.key).Nodup := by
  rw [keys_members]
  exact nodup_memberNames.map fun _ _ => MemberName.key_injective

/-! Which records are members, and how many there are. -/

variable {links : List Bool} {n : Nat} {choices : NodeChoices}

theorem nodeMembers_mem (h : nodes[n]? = some choices) {record : MemberRecord}
    (hmem : record ∈ nodeMembers config n choices) : record ∈ members config nodes := by
  simp only [members, List.mem_append]
  have hentry := List.mk_mem_zipIdx_iff_getElem?.mpr h
  exact Or.inl (Or.inr (List.mem_flatMap.mpr ⟨(choices, n), hentry, hmem⟩))

theorem node_mem (h : nodes[n]? = some choices) :
    nodeMember config n choices ∈ members config nodes :=
  nodeMembers_mem h (by simp [nodeMembers])

theorem accelerator_mem (h : nodes[n]? = some choices) {a : Nat} {addressed : Bool}
    (ha : choices.addressed[a]? = some addressed) :
    acceleratorMember config n a addressed ∈ members config nodes := by
  refine nodeMembers_mem h ?_
  simp only [nodeMembers, List.mem_append]
  exact Or.inl (Or.inl (Or.inl (Or.inr (List.mem_map.mpr
    ⟨(addressed, a), List.mk_mem_zipIdx_iff_getElem?.mpr ha, rfl⟩))))

theorem power_mem {p : Nat} (h : p < config.powerDomainCount) :
    powerMember p ∈ members config nodes := by
  simp only [members, List.mem_append]
  exact Or.inl (Or.inl (Or.inl (List.mem_map_of_mem (List.mem_range.mpr h))))

theorem cooling_mem {c : Nat} (h : c < config.coolingDomainCount) :
    coolingMember c ∈ members config nodes := by
  simp only [members, List.mem_append]
  exact Or.inl (Or.inl (Or.inr (List.mem_map_of_mem (List.mem_range.mpr h))))

theorem switch_mem {s : Nat} (h : s < config.switchCount) :
    switchMember s ∈ members config nodes := by
  simp only [members, List.mem_append]
  exact Or.inr (List.mem_map_of_mem (List.mem_range.mpr h))

/-- What holds of the records of every kind holds of every member. -/
theorem members_cases {holds : MemberRecord → Prop}
    (power : ∀ p < config.powerDomainCount, holds (powerMember p))
    (cooling : ∀ c < config.coolingDomainCount, holds (coolingMember c))
    (node : ∀ n choices, nodes[n]? = some choices → holds (nodeMember config n choices))
    (cpu : ∀ n choices k, nodes[n]? = some choices → k < config.cpuPackagesPerNode →
      holds (cpuMember config n choices k))
    (memory : ∀ n choices m, nodes[n]? = some choices → m < config.memoryDomainsPerNode →
      holds (memoryMember n choices m))
    (accelerator : ∀ n choices a addressed, nodes[n]? = some choices →
      choices.addressed[a]? = some addressed → holds (acceleratorMember config n a addressed))
    (nic : ∀ n choices i, nodes[n]? = some choices → i < choices.nics →
      holds (nicMember config n choices i))
    (dpu : ∀ n choices, nodes[n]? = some choices → holds (dpuMember n))
    (storage : ∀ n choices, nodes[n]? = some choices → holds (storageMember n choices))
    (switch : ∀ s < config.switchCount, holds (switchMember s)) :
    ∀ record ∈ members config nodes, holds record := by
  intro record hmem
  simp only [members, List.mem_append, List.mem_map, List.mem_range, List.mem_flatMap] at hmem
  rcases hmem with ((⟨p, hp, rfl⟩ | ⟨c, hc, rfl⟩) | ⟨⟨choices, n⟩, hentry, hpart⟩) | ⟨s, hs, rfl⟩
  · exact power p hp
  · exact cooling c hc
  · have hnode := List.mk_mem_zipIdx_iff_getElem?.mp hentry
    simp only [nodeMembers, List.mem_append, List.mem_map, List.mem_range, List.mem_ite_nil_right,
      List.mem_singleton] at hpart
    rcases hpart with (((((rfl | ⟨k, hk, rfl⟩) | ⟨m, hm, rfl⟩) | ⟨⟨addressed, a⟩, ha, rfl⟩) |
      ⟨i, hi, rfl⟩) | ⟨-, rfl⟩) | ⟨-, rfl⟩
    · exact node n choices hnode
    · exact cpu n choices k hnode hk
    · exact memory n choices m hnode hm
    · exact accelerator n choices a addressed hnode (List.mk_mem_zipIdx_iff_getElem?.mp ha)
    · exact nic n choices i hnode hi
    · exact dpu n choices hnode
    · exact storage n choices hnode
  · exact switch s hs

theorem length_nodeMembers_le (h : nodes[n]? = some choices) :
    (nodeMembers config n choices).length ≤ (members config nodes).length := by
  have hentry : nodeMembers config n choices ∈
      nodes.zipIdx.map fun entry => nodeMembers config entry.2 entry.1 :=
    List.mem_map.mpr ⟨(choices, n), List.mk_mem_zipIdx_iff_getElem?.mpr h, rfl⟩
  have hle := (List.sublist_flatten_of_mem hentry).length_le
  rw [← List.flatMap_def] at hle
  simp only [members, List.length_append]
  exact hle.trans (by omega)

theorem counts_le_length : config.powerDomainCount + config.coolingDomainCount + nodes.length +
    config.switchCount ≤ (members config nodes).length := by
  have hnodes := List.length_le_sum_of_one_le
    (nodes.zipIdx.map fun entry => (nodeMembers config entry.2 entry.1).length) (by
      intro length hlength
      obtain ⟨entry, -, rfl⟩ := List.mem_map.mp hlength
      simp [nodeMembers])
  simp only [List.length_map, List.length_zipIdx] at hnodes
  simp only [members, List.length_append, List.length_flatMap, List.length_map, List.length_range]
  omega

end Members

end Synthetic

end RackFabric
