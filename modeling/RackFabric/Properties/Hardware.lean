import RackFabric.Model.Publication
import RackFabric.Properties.Generated

/-! What discovery finds: the records of a node and of its parts, which the fabric finds valid
and which the agent publishes parents first. -/
namespace RackFabric
open Std

/-! Names around a name. -/

theorem findDotDot_eq_none_iff_isChain (text : Str) :
    findDotDot text = none ↔
      text.IsChain fun first second => ¬ (first = dot ∧ second = dot) := by
  induction text with
  | nil => simp [findDotDot]
  | cons first rest ih =>
    cases rest with
    | nil => simp [findDotDot]
    | cons second rest =>
      rw [findDotDot, List.isChain_cons_cons, ← ih]
      by_cases hdots : first = 0x2E ∧ second = 0x2E
      · simp [hdots, dot]
      · simp [hdots, dot]

theorem isChain_of_plain {text : Str} (h : ∀ byte ∈ text, isPlain byte = true) :
    text.IsChain fun first second => ¬ (first = dot ∧ second = dot) := by
  refine (List.pairwise_of_forall_mem_list fun first hfirst second _ hdots => ?_).isChain
  have hplain := h first hfirst
  simp [isPlain, hdots.1] at hplain

theorem dotted_of_valid {text : Str} (h : (validateIdentity text).ok = true) :
    (∀ byte ∈ text, isIdentityChar byte = true) ∧ text ≠ str "." ∧ findDotDot text = none := by
  have hne := ne_nil_of_validateIdentity h
  have hshort := length_le_of_validateIdentity h
  have hchars : ∀ byte ∈ text, isIdentityChar byte = true := by
    have hindex : text.findIdx? (fun byte => !isIdentityChar byte) = none := by
      by_contra hsome
      obtain ⟨position, hposition⟩ := Option.ne_none_iff_exists'.mp hsome
      simp [validateIdentity, hne, Nat.not_lt.mpr hshort, hposition, IdentityValidation.ok] at h
    simpa [List.findIdx?_eq_none_iff] using hindex
  have hindex : text.findIdx? (fun byte => !isIdentityChar byte) = none := by
    simpa [List.findIdx?_eq_none_iff] using hchars
  simp only [validateIdentity, hne, Nat.not_lt.mpr hshort, hindex, if_false] at h
  split at h
  · cases h
  · rename_i hreserved
    have hdots : findDotDot text = none := by
      by_contra hsome
      obtain ⟨position, hposition⟩ := Option.ne_none_iff_exists'.mp hsome
      simp [hposition, IdentityValidation.ok] at h
    exact ⟨hchars, (not_or.mp hreserved).1, hdots⟩

/-- A name stays one between plain texts. -/
theorem validateIdentity_between {before text after : Str}
    (htext : (validateIdentity text).ok = true) (hbefore : ∀ byte ∈ before, isPlain byte = true)
    (hafter : ∀ byte ∈ after, isPlain byte = true)
    (hlength : (before ++ text ++ after).length ≤ kMaxIdentityLength) :
    (validateIdentity (before ++ text ++ after)).ok = true := by
  obtain ⟨hchars, hdot, hdots⟩ := dotted_of_valid htext
  have hne := ne_nil_of_validateIdentity htext
  have hplain : ∀ byte, isPlain byte = true → isIdentityChar byte = true ∧ byte ≠ dot := by
    intro byte hbyte
    simpa [isPlain] using hbyte
  have hnone : findDotDot (before ++ text ++ after) = none := by
    rw [findDotDot_eq_none_iff_isChain, List.isChain_append, List.isChain_append,
      ← findDotDot_eq_none_iff_isChain text]
    refine ⟨⟨isChain_of_plain hbefore, hdots, fun first hfirst second _ hboth => ?_⟩,
      isChain_of_plain hafter, fun first _ second hsecond hboth => ?_⟩
    · exact (hplain first (hbefore first (List.mem_of_getLast? hfirst))).2 hboth.1
    · exact (hplain second (hafter second (List.mem_of_head? hsecond))).2 hboth.2
  have hlong : before ++ text ++ after ≠ str "." := by
    intro hsingle
    have hlen := congrArg List.length hsingle
    have hpositive := List.length_pos_iff.mpr hne
    simp only [List.length_append, str, List.length_map] at hlen
    have hone : ".".toList.length = 1 := rfl
    obtain rfl : before = [] := List.length_eq_zero_iff.mp (by omega)
    obtain rfl : after = [] := List.length_eq_zero_iff.mp (by omega)
    exact hdot (by simpa using hsingle)
  have htwo : before ++ text ++ after ≠ str ".." := by
    intro hpair
    rw [hpair] at hnone
    exact absurd hnone (by decide)
  refine (validateIdentity_iff (by simp [hne]) hlength (fun byte hbyte => ?_) hlong htwo).mpr hnone
  simp only [List.mem_append] at hbyte
  rcases hbyte with (hbyte | hbyte) | hbyte
  · exact (hplain byte (hbefore byte hbyte)).1
  · exact hchars byte hbyte
  · exact (hplain byte (hafter byte hbyte)).1

namespace Discovery
variable {platform : Platform} {options : HardwareDiscoveryOptions} {text : Str}
  {domain : FailureDomainId}

/-- The name of the node leaves room for those of its parts, and what discovery measures is
evidence. -/
structure Discoverable (platform : Platform) (options : HardwareDiscoveryOptions) : Prop where
  identity : (validateIdentity (nodeIdText platform options)).ok = true
  short : (nodeIdText platform options).length + 16 ≤ kMaxIdentityLength
  source : (validateLabel options.sourceLabel).ok = true
  lifetime : ttlIsValid options.ttl = true
  expires : options.durability = .ephemeral → options.ttl ≠ 0
  dated : ∀ reading, (platform.clock reading).known = true
  counted : (reached platform).length + ((adapters platform).getD []).length < 2 ^ 32

def nodeDomain (platform : Platform) (options : HardwareDiscoveryOptions) : FailureDomainId :=
  if options.nodeFailureDomain.isSet then options.nodeFailureDomain
  else .ofText (str "fd-node-" ++ nodeIdText platform options)

def failureDomains (platform : Platform) (options : HardwareDiscoveryOptions) :
    List FailureDomainRecord :=
  if options.nodeFailureDomain.isSet then []
  else [failureDomain platform options (nodeDomain platform options)]

def parts (platform : Platform) (options : HardwareDiscoveryOptions) (text : Str)
    (domain : FailureDomainId) : List MemberRecord :=
  cpuPackages platform options text domain ++ memoryDomains platform options text domain ++
    nics platform options text domain

/-! What is discovered. -/

theorem plain_str {text : String} (h : (str text).all isPlain = true) :
    ∀ byte ∈ str text, isPlain byte = true :=
  List.all_eq_true.mp h

theorem valid_nodeDomainText (h : Discoverable platform options) :
    (validateIdentity (str "fd-node-" ++ nodeIdText platform options)).ok = true := by
  have hshort := h.short
  have hstem : (str "fd-node-").length = 8 := rfl
  have hbetween := @validateIdentity_between (str "fd-node-") _ [] h.identity
    (plain_str (by decide)) (by simp)
    (by rw [List.length_append, List.length_append, hstem, List.length_nil]; omega)
  rwa [List.append_nil] at hbetween

theorem discover_eq (h : Discoverable platform options) :
    ∃ discovery, discoverLocalHardware platform options = some discovery ∧
      discovery.ok = true ∧ discovery.failureDomains = failureDomains platform options ∧
      discovery.members = members platform options (nodeIdText platform options)
        (nodeDomain platform options) := by
  unfold discoverLocalHardware failureDomains nodeDomain
  simp only [h.identity, Bool.not_true, Bool.false_eq_true, if_false]
  by_cases hset : options.nodeFailureDomain.isSet = true
  · simp [hset]
  · simp [hset, StrongId.parse, StrongId.ofText, valid_nodeDomainText h]

/-! The parts of the node. -/

/-- A part of the node is named after it. -/
structure IsPart (platform : Platform) (options : HardwareDiscoveryOptions) (text : Str)
    (domain : FailureDomainId) (record : MemberRecord) : Prop where
  made : ∃ kind suffix reading details, record =
      partOf platform options text domain kind (text ++ suffix) reading details ∧
    kind ∈ [MemberKind.cpuPackage, .memoryDomain, .nic] ∧ details.matchesKind kind = true ∧
      (∀ byte ∈ suffix, isPlain byte = true) ∧ suffix.length ≤ 16

theorem length_number (number : UInt32) : (decimal number.toNat).length ≤ 10 := by
  rw [decimal, List.length_map]
  exact Nat.toDigits_length 10 _ 10 (by decide) (number.toNat_lt.trans (by decide))

theorem isPart_of {kind : MemberKind} {stem : String} {number : UInt32} {reading : ClockReading}
    {details : MemberDetails} (hkind : kind ∈ [MemberKind.cpuPackage, .memoryDomain, .nic])
    (hstem : (str stem).all isPlain = true) (hshort : (str stem).length ≤ 6)
    (hdetails : details.matchesKind kind = true) :
    IsPart platform options text domain
      (partOf platform options text domain kind (text ++ str stem ++ decimal number.toNat) reading
        details) := by
  refine ⟨kind, str stem ++ decimal number.toNat, reading, details, by rw [List.append_assoc],
    hkind, hdetails, fun byte hbyte => ?_, ?_⟩
  · rcases List.mem_append.mp hbyte with hbyte | hbyte
    · exact plain_str hstem byte hbyte
    · exact isPlain_of_mem_decimal hbyte
  · have hnumber := length_number number
    rw [List.length_append]
    omega

theorem isPart_of_mem {record : MemberRecord} (h : record ∈ parts platform options text domain) :
    IsPart platform options text domain record := by
  unfold parts at h
  rw [List.mem_append, List.mem_append] at h
  rcases h with (h | h) | h
  · obtain ⟨⟨entry, index⟩, -, rfl⟩ := List.mem_map.mp h
    exact isPart_of (by decide) (by decide) (by decide) rfl
  · unfold memoryDomains at h
    split at h
    · obtain ⟨index, hindex, rfl⟩ := List.mem_map.mp h
      have hnarrow : index < 2 ^ 32 :=
        (List.mem_range.mp hindex).trans (numaNodeCount platform).toNat_lt
      have hnumber : (UInt32.ofNat index).toNat = index := UInt32.toNat_ofNat_of_lt hnarrow
      unfold memoryDomain
      rw [← hnumber]
      exact isPart_of (by decide) (by decide) (by decide) rfl
    · cases h
  · unfold nics at h
    split at h
    · split at h
      · cases h
      · obtain ⟨⟨adapter, index⟩, -, rfl⟩ := List.mem_map.mp h
        exact isPart_of (by decide) (by decide) (by decide) rfl
    · cases h

/-! No two records share a key. -/

/-- The keys of records that are named by their positions. -/
theorem keys_zipIdx {α : Type} {items : List α} {make : Nat → α → MemberRecord}
    {keyOf : Nat → MemberKey} (h : ∀ index item, (make index item).key = keyOf index) :
    (items.zipIdx.map fun (item, index) => make index item).map MemberRecord.key =
      (List.range items.length).map keyOf := by
  rw [List.map_map, List.range_eq_range', ← List.zipIdx_map_snd 0 items, List.map_map]
  exact List.map_congr_left fun pair _ => h pair.2 pair.1

theorem nodup_named {kind : MemberKind} {stem : Str} {length : Nat} {count : Nat → Nat}
    (hcount : ∀ first < length, ∀ second < length, count first = count second → first = second) :
    ((List.range length).map fun index =>
      (⟨kind, stem ++ str "-" ++ decimal (count index)⟩ : MemberKey)).Nodup := by
  refine List.Nodup.map_on (fun first hfirst second hsecond hsame => ?_) List.nodup_range
  have hname := congrArg MemberKey.id hsame
  exact hcount first (List.mem_range.mp hfirst) second (List.mem_range.mp hsecond)
    (dashed_injective hname).2

theorem number_injOn {length : Nat} (hlength : length < 2 ^ 32) :
    ∀ first < length, ∀ second < length,
      (number first).toNat = (number second).toNat → first = second := by
  intro first hfirst second hsecond h
  unfold number at h
  rw [UInt32.toNat_ofNat', UInt32.toNat_ofNat', Nat.mod_eq_of_lt (by omega),
    Nat.mod_eq_of_lt (by omega)] at h
  omega

theorem keys_cpuPackages : (cpuPackages platform options text domain).map MemberRecord.key =
    (List.range (packages platform).length).map fun index =>
      ⟨.cpuPackage, text ++ str "-cpu" ++ str "-" ++ decimal (number index).toNat⟩ :=
  keys_zipIdx fun index entry => by
    simp only [cpuPackage, partOf, baseMember, List.append_assoc]
    rfl

theorem keys_memoryDomains (hasked : options.includeMemory = true) :
    (memoryDomains platform options text domain).map MemberRecord.key =
      (List.range (numaNodeCount platform).toNat).map fun index =>
        ⟨.memoryDomain, text ++ str "-numa" ++ str "-" ++ decimal index⟩ := by
  unfold memoryDomains
  rw [if_pos hasked, List.map_map]
  refine List.map_congr_left fun index _ => ?_
  simp only [Function.comp, memoryDomain, partOf, baseMember, List.append_assoc]
  rfl

theorem keys_nics (hasked : options.includeNics = true) {found : List AdapterEntry}
    (hfound : adapters platform = some found) :
    (nics platform options text domain).map MemberRecord.key =
      (List.range (physicalAdapters found).length).map fun index =>
        ⟨.nic, text ++ str "-nic" ++ str "-" ++ decimal (number index).toNat⟩ := by
  unfold nics
  rw [if_pos hasked, hfound]
  refine keys_zipIdx fun index adapter => ?_
  simp only [nic, partOf, baseMember, List.append_assoc]
  rfl

theorem nodup_cpuPackages (h : Discoverable platform options) :
    ((cpuPackages platform options text domain).map MemberRecord.key).Nodup := by
  have hcounted := h.counted
  have hsome : (packages platform).length ≤ (reached platform).length :=
    List.length_filter_le _ _
  rw [keys_cpuPackages]
  exact nodup_named (number_injOn (by omega))

theorem nodup_memoryDomains :
    ((memoryDomains platform options text domain).map MemberRecord.key).Nodup := by
  by_cases hasked : options.includeMemory = true
  · rw [keys_memoryDomains hasked]
    exact @nodup_named _ _ _ id fun first _ second _ hsame => hsame
  · simp [memoryDomains, hasked]

theorem nodup_nics (h : Discoverable platform options) :
    ((nics platform options text domain).map MemberRecord.key).Nodup := by
  have hcounted := h.counted
  by_cases hasked : options.includeNics = true
  · cases hfound : adapters platform with
    | none => simp [nics, hasked, hfound]
    | some found =>
      have hsome : (physicalAdapters found).length ≤ found.length := List.length_filter_le _ _
      rw [keys_nics hasked hfound]
      rw [hfound] at hcounted
      simp only [Option.getD_some] at hcounted
      exact nodup_named (number_injOn (by omega))
  · simp [nics, hasked]

/-- Records of different kinds have different keys. -/
theorem disjoint_kinds {first second : List MemberRecord}
    (h : ∀ left ∈ first, ∀ right ∈ second, left.key.kind ≠ right.key.kind) :
    (first.map MemberRecord.key).Disjoint (second.map MemberRecord.key) := by
  intro key hfirst hsecond
  obtain ⟨left, hleft, rfl⟩ := List.mem_map.mp hfirst
  obtain ⟨right, hright, hsame⟩ := List.mem_map.mp hsecond
  exact h left hleft right hright (congrArg MemberKey.kind hsame.symm)

theorem kind_cpuPackages : ∀ record ∈ cpuPackages platform options text domain,
    record.key.kind = .cpuPackage := by
  intro record hrecord
  obtain ⟨pair, -, rfl⟩ := List.mem_map.mp hrecord
  rfl

theorem kind_memoryDomains : ∀ record ∈ memoryDomains platform options text domain,
    record.key.kind = .memoryDomain := by
  intro record hrecord
  unfold memoryDomains at hrecord
  split at hrecord
  · obtain ⟨index, -, rfl⟩ := List.mem_map.mp hrecord
    rfl
  · cases hrecord

theorem kind_nics : ∀ record ∈ nics platform options text domain, record.key.kind = .nic := by
  intro record hrecord
  unfold nics at hrecord
  split at hrecord
  · split at hrecord
    · cases hrecord
    · obtain ⟨pair, -, rfl⟩ := List.mem_map.mp hrecord
      rfl
  · cases hrecord

theorem nodup_parts (h : Discoverable platform options) :
    ((parts platform options text domain).map MemberRecord.key).Nodup := by
  unfold parts
  rw [List.map_append, List.map_append]
  refine ((nodup_cpuPackages h).append nodup_memoryDomains (disjoint_kinds ?_)).append
    (nodup_nics h) ?_
  · intro left hleft right hright
    rw [kind_cpuPackages left hleft, kind_memoryDomains right hright]
    decide
  · rw [← List.map_append]
    refine disjoint_kinds fun left hleft right hright => ?_
    rw [kind_nics right hright]
    rcases List.mem_append.mp hleft with hleft | hleft
    · rw [kind_cpuPackages left hleft]
      decide
    · rw [kind_memoryDomains left hleft]
      decide

/-! The order of the records. -/

theorem part_of_mem {record : MemberRecord} (h : record ∈ parts platform options text domain) :
    record.key.kind ∈ [MemberKind.cpuPackage, .memoryDomain, .nic] ∧
      record.parent = some ⟨.node, text⟩ ∧ record.failureDomains = [domain] := by
  obtain ⟨kind, suffix, reading, details, rfl, hkind, -⟩ := (isPart_of_mem h).made
  exact ⟨hkind, rfl, rfl⟩

theorem node_lt (id : Str) {key : MemberKey}
    (h : key.kind ∈ [MemberKind.cpuPackage, .memoryDomain, .nic]) :
    compare (⟨.node, id⟩ : MemberKey) key = .lt := by
  obtain ⟨kind, name⟩ := key
  simp only [List.mem_cons, List.not_mem_nil, or_false] at h
  rcases h with rfl | rfl | rfl <;> rfl

theorem orderedInsert_of_forall {α : Type} {rel : α → α → Prop} [DecidableRel rel] {first : α}
    {rest : List α} (h : ∀ other ∈ rest, rel first other) :
    List.orderedInsert rel first rest = first :: rest := by
  cases rest with
  | nil => rfl
  | cons other rest => rw [List.orderedInsert, if_pos (h other List.mem_cons_self)]

/-- The node comes before its parts. -/
theorem members_eq : members platform options text domain =
    node platform options text domain ::
      Synthetic.sortBy (·.key) (parts platform options text domain) := by
  unfold members Synthetic.sortBy
  rw [List.insertionSort_cons]
  refine orderedInsert_of_forall fun record hrecord => ?_
  have hmem := (List.mem_insertionSort _).mp hrecord
  have hlt : compare (node platform options text domain).key record.key = .lt :=
    node_lt text (part_of_mem hmem).1
  simp only [hlt]
  rfl

theorem publicationOrder_of_ranked {members : List MemberRecord}
    (h : ∀ record ∈ members, publicationRank record = 1) : publicationOrder members = members := by
  unfold publicationOrder
  refine List.Pairwise.insertionSort_eq (List.pairwise_of_forall_mem_list fun left hleft right
    hright => ?_)
  rw [h left hleft, h right hright]

/-! The fabric finds the records valid as they travel. -/

theorem valid_measured (h : Discoverable platform options) (reading : ClockReading) :
    validateEvidence (measured platform options reading) = none :=
  validateEvidence_eq_none.mpr
    { lifetime := h.lifetime
      expires := h.expires
      dated := fun _ => h.dated reading
      undated := fun hunknown => by cases hunknown }

theorem asserted_measured (h : Discoverable platform options) (reading : ClockReading) :
    validateAsserted (measured platform options reading) = none := by
  unfold validateAsserted
  rw [valid_measured h reading, ite_self]

theorem evident_part (h : Discoverable platform options) {record : MemberRecord}
    (hpart : IsPart platform options (nodeIdText platform options) domain record) :
    Synthetic.Evident record.carried := by
  obtain ⟨kind, suffix, reading, details, rfl, hkind, hdetails, hplain, hlength⟩ := hpart.made
  have hshort := h.short
  have hname := @validateIdentity_between [] _ suffix h.identity (by simp) hplain
    (by rw [List.nil_append, List.length_append]; omega)
  rw [List.nil_append] at hname
  exact
    { identity := hname
      kind := hdetails
      source := by
        intro source hsource
        obtain rfl := Option.some.inj hsource
        exact h.source
      evidence := valid_measured h reading
      present := fun _ hunknown => by cases hunknown
      health := rfl
      readiness := rfl
      reachability := rfl
      capabilities := fun capability hmem => by cases hmem }

theorem validateLabel_decimal (number : UInt32) :
    (validateLabel (decimal number.toNat)).ok = true := by
  have hne : decimal number.toNat ≠ [] := by
    simp [decimal, Nat.toDigits_ne_nil]
  have hshort : ¬ (decimal number.toNat).length > kMaxIdentityLength := by
    have hlength := length_number number
    simp only [kMaxIdentityLength]
    omega
  have hindex : (decimal number.toNat).findIdx? (fun u => u < 0x20 ∨ u > 0x7E) = none := by
    rw [List.findIdx?_eq_none_iff]
    intro byte hbyte
    have hrange := range_of_mem_decimal hbyte
    simp only [decide_eq_false_iff_not, UInt8.lt_iff_toNat_lt, gt_iff_lt]
    change ¬ (byte.toNat < 32 ∨ 126 < byte.toNat)
    omega
  simp only [validateLabel, hne, hshort, hindex, if_false]
  rfl

theorem valid_capability (h : Discoverable platform options) {id : String}
    {reading : ClockReading} {value : Str} (hid : (validateIdentity (str id)).ok = true)
    (hvalue : (validateLabel value).ok = true) :
    validateCapability (capability platform options id reading value).carried = none := by
  have hname := @Synthetic.value_ofText .capability (str id) hid
  have hevidence := valid_measured h reading
  simp only [validateCapability, firstError_cons, firstError_nil, errorIf_eq_none, and_true]
  refine ⟨?_, ?_, hevidence⟩
  · simp [capability, CapabilityRef.carried, hname, hid]
  · simp [capability, CapabilityRef.carried, hvalue]

theorem evident_node (h : Discoverable platform options) :
    Synthetic.Evident (node platform options (nodeIdText platform options) domain).carried where
  identity := h.identity
  kind := rfl
  source := by
    intro source hsource
    obtain rfl := Option.some.inj hsource
    exact h.source
  evidence := valid_measured h .node
  present := fun _ hunknown => by cases hunknown
  health := rfl
  readiness := rfl
  reachability := asserted_measured h .reachability
  capabilities := by
    intro carried hmem
    obtain ⟨capability, hcapability, rfl⟩ := List.mem_map.mp hmem
    change capability ∈ capabilities platform options at hcapability
    unfold capabilities at hcapability
    rcases List.mem_cons.mp hcapability with rfl | hnuma
    · exact valid_capability h (by decide) (by decide)
    · split at hnuma
      · obtain rfl := List.mem_singleton.mp hnuma
        exact valid_capability h (by decide) (validateLabel_decimal _)
      · cases hnuma

end Discovery

end RackFabric
