import RackFabric.Library.Tables
import RackFabric.Model.Graph

/-! What the stores do to each field of the graph. -/
namespace RackFabric
open Std SecondaryIndex Tables

namespace RackGraph

/-! Every record is stored under the key that it names. -/

/-- The records that the queries about failure domains read. -/
structure DomainsKeyed (graph : RackGraph) : Prop where
  members : ∀ {key : MemberKey} {record : MemberRecord},
    graph.members[key]? = some record → record.key = key
  failureDomains : ∀ {id : FailureDomainId} {record : FailureDomainRecord},
    graph.failureDomains[id]? = some record → record.id = id

structure Keyed (graph : RackGraph) : Prop extends DomainsKeyed graph where
  relationships : ∀ {key : RelationshipKey} {record : RelationshipRecord},
    graph.relationships[key]? = some record → record.key = key

section Members
variable (graph : RackGraph) (key : MemberKey) (existing : Option MemberRecord)
  (record : MemberRecord)

@[simp] theorem members_storeMember :
    (graph.storeMember key existing record).members = graph.members.insert key record := by
  cases existing <;> rfl

@[simp] theorem relationships_storeMember :
    (graph.storeMember key existing record).relationships = graph.relationships := by
  cases existing <;> rfl

@[simp] theorem failureDomains_storeMember :
    (graph.storeMember key existing record).failureDomains = graph.failureDomains := by
  cases existing <;> rfl

@[simp] theorem relationshipsByMember_storeMember :
    (graph.storeMember key existing record).relationshipsByMember =
      graph.relationshipsByMember := by
  cases existing <;> rfl

@[simp] theorem childrenByDomain_storeMember :
    (graph.storeMember key existing record).childrenByDomain = graph.childrenByDomain := by
  cases existing <;> rfl

/-- An index over the members and the keys it files a member under. -/
structure MemberIndex (κ : Type) [Ord κ] [TransOrd κ] where
  index : RackGraph → Index κ MemberKey
  keysOf : MemberRecord → List κ
  /-- A store moves the member from its old keys to its new ones. -/
  index_storeMember : ∀ (graph : RackGraph) (key : MemberKey) (existing : Option MemberRecord)
    (record : MemberRecord),
    index (graph.storeMember key existing record) =
      file (existing.elim (index graph) fun old => unfile (index graph) (keysOf old) old.key)
        (keysOf record) record.key
  index_storeRelationship : ∀ (graph : RackGraph) (existing : Option RelationshipRecord)
    (record : RelationshipRecord), index (graph.storeRelationship existing record) = index graph
  index_dropRelationship : ∀ (graph : RackGraph) (key : RelationshipKey),
    index (graph.dropRelationship key) = index graph
  index_addMember : ∀ (graph : RackGraph) (record : MemberRecord),
    index (graph.indexAddMember record) = file (index graph) (keysOf record) record.key
  index_addRelationship : ∀ (graph : RackGraph) (record : RelationshipRecord),
    index (graph.indexAddRelationship record) = index graph
  index_clear : ∀ (graph : RackGraph), index graph.clearIndexes = ∅

def byKind : MemberIndex MemberKind where
  index := membersByKind
  keysOf := MemberRecord.kindKeys
  index_storeMember _ _ existing _ := by cases existing <;> rfl
  index_storeRelationship _ existing _ := by cases existing <;> rfl
  index_dropRelationship graph key := by
    unfold dropRelationship
    cases graph.relationships[key]? <;> rfl
  index_addMember _ _ := rfl
  index_addRelationship _ _ := rfl
  index_clear _ := rfl

def byFailureDomain : MemberIndex FailureDomainId where
  index := membersByFailureDomain
  keysOf := MemberRecord.failureDomains
  index_storeMember _ _ existing _ := by cases existing <;> rfl
  index_storeRelationship _ existing _ := by cases existing <;> rfl
  index_dropRelationship graph key := by
    unfold dropRelationship
    cases graph.relationships[key]? <;> rfl
  index_addMember _ _ := rfl
  index_addRelationship _ _ := rfl
  index_clear _ := rfl

def byPowerDomain : MemberIndex PowerDomainId where
  index := membersByPowerDomain
  keysOf := MemberRecord.powerKeys
  index_storeMember _ _ existing _ := by cases existing <;> rfl
  index_storeRelationship _ existing _ := by cases existing <;> rfl
  index_dropRelationship graph key := by
    unfold dropRelationship
    cases graph.relationships[key]? <;> rfl
  index_addMember _ _ := rfl
  index_addRelationship _ _ := rfl
  index_clear _ := rfl

def byCoolingDomain : MemberIndex CoolingDomainId where
  index := membersByCoolingDomain
  keysOf := MemberRecord.coolingKeys
  index_storeMember _ _ existing _ := by cases existing <;> rfl
  index_storeRelationship _ existing _ := by cases existing <;> rfl
  index_dropRelationship graph key := by
    unfold dropRelationship
    cases graph.relationships[key]? <;> rfl
  index_addMember _ _ := rfl
  index_addRelationship _ _ := rfl
  index_clear _ := rfl

def byOwnerBoot : MemberIndex AgentBootId where
  index := membersByOwnerBoot
  keysOf := MemberRecord.ownerKeys
  index_storeMember _ _ existing _ := by cases existing <;> rfl
  index_storeRelationship _ existing _ := by cases existing <;> rfl
  index_dropRelationship graph key := by
    unfold dropRelationship
    cases graph.relationships[key]? <;> rfl
  index_addMember _ _ := rfl
  index_addRelationship _ _ := rfl
  index_clear _ := rfl

def byParent : MemberIndex MemberKey where
  index := childrenByParent
  keysOf := MemberRecord.parentKeys
  index_storeMember _ _ existing _ := by cases existing <;> rfl
  index_storeRelationship _ existing _ := by cases existing <;> rfl
  index_dropRelationship graph key := by
    unfold dropRelationship
    cases graph.relationships[key]? <;> rfl
  index_addMember _ _ := rfl
  index_addRelationship _ _ := rfl
  index_clear _ := rfl

variable {graph key existing record} {κ : Type} [Ord κ] [TransOrd κ]

theorem MemberIndex.storeMember_eq (view : MemberIndex κ) (hkeyed : graph.Keyed)
    (hkey : record.key = key) :
    view.index (graph.storeMember key graph.members[key]? record) =
      file (unfile (view.index graph) (keysAt graph.members view.keysOf key) key)
        (view.keysOf record) key := by
  rw [view.index_storeMember, hkey]
  unfold keysAt
  cases hold : graph.members[key]? with
  | none => rfl
  | some old => simp [hkeyed.members hold]

/-- No key of the index is in use without an entry. -/
def unpinned : κ → Prop := fun _ => False

/-- The index holds the pairs that the members ask for, and every pinned key. -/
def MemberIndex.Mirrored (view : MemberIndex κ) (pinned : κ → Prop) (graph : RackGraph) : Prop :=
  Mirrors (view.index graph) (Filed graph.members view.keysOf) pinned

theorem MemberIndex.storeMember_mirrored [LawfulEqOrd κ] (view : MemberIndex κ)
    (h : view.Mirrored unpinned graph) (hkeyed : graph.Keyed)
    (hkey : record.key = key) :
    view.Mirrored unpinned (graph.storeMember key graph.members[key]? record) := by
  unfold MemberIndex.Mirrored at h ⊢
  rw [view.storeMember_eq hkeyed hkey, members_storeMember]
  exact h.replace record

/-- What leaves the index and the members alone leaves the mirror alone. -/
theorem MemberIndex.Mirrored.of_eq {view : MemberIndex κ} {pinned : κ → Prop}
    {other : RackGraph} (h : view.Mirrored pinned graph)
    (hindex : view.index other = view.index graph) (hmembers : other.members = graph.members) :
    view.Mirrored pinned other := by
  unfold MemberIndex.Mirrored at h ⊢
  rwa [hindex, hmembers]

/-! Two members are stored over the records of their keys in either order. -/

theorem Keyed.storeMember (h : graph.Keyed) (hkey : record.key = key) :
    (graph.storeMember key existing record).Keyed where
  members hfound := by
    rw [members_storeMember] at hfound
    rcases getElem?_insert_cases hfound with ⟨rfl, rfl⟩ | ⟨-, hold⟩
    · exact hkey
    · exact h.members hold
  relationships hfound := h.relationships (by simpa using hfound)
  failureDomains hfound := h.failureDomains (by simpa using hfound)

def enroll (graph : RackGraph) (record : MemberRecord) : RackGraph :=
  graph.storeMember record.key graph.members[record.key]? record

@[simp] theorem members_enroll (graph : RackGraph) (record : MemberRecord) :
    (graph.enroll record).members = graph.members.insert record.key record :=
  members_storeMember ..

theorem getElem?_members_enroll {record : MemberRecord} {key : MemberKey} (hne : key ≠ record.key) :
    (graph.enroll record).members[key]? = graph.members[key]? := by
  simp [ExtTreeMap.getElem?_insert, hne.symm]

section Order
variable {first second : MemberRecord} (hkeyed : graph.Keyed) (hne : first.key ≠ second.key)
include hkeyed hne

theorem MemberIndex.index_enroll_enroll [LawfulEqOrd κ] (view : MemberIndex κ) :
    view.index ((graph.enroll first).enroll second) =
      file (unfile (file (unfile (view.index graph)
          (keysAt graph.members view.keysOf first.key) first.key) (view.keysOf first) first.key)
          (keysAt graph.members view.keysOf second.key) second.key)
        (view.keysOf second) second.key := by
  have hkeys : keysAt (graph.enroll first).members view.keysOf second.key =
      keysAt graph.members view.keysOf second.key := by
    unfold keysAt
    rw [getElem?_members_enroll hne.symm]
  unfold enroll at hkeys ⊢
  rw [view.storeMember_eq (hkeyed.storeMember rfl) rfl, hkeys, view.storeMember_eq hkeyed rfl]

theorem MemberIndex.enroll_comm [LawfulEqOrd κ] (view : MemberIndex κ) :
    view.index ((graph.enroll first).enroll second) =
      view.index ((graph.enroll second).enroll first) := by
  rw [view.index_enroll_enroll hkeyed hne, view.index_enroll_enroll hkeyed hne.symm,
    replace_comm _ _ _ _ _ hne]

theorem enroll_comm : (graph.enroll first).enroll second = (graph.enroll second).enroll first := by
  apply RackGraph.ext
  · simp only [members_enroll]
    exact insert_comm _ _ _ hne
  · simp [enroll]
  · simp [enroll]
  · simp [enroll]
  · exact byKind.enroll_comm hkeyed hne
  · exact byFailureDomain.enroll_comm hkeyed hne
  · exact byPowerDomain.enroll_comm hkeyed hne
  · exact byCoolingDomain.enroll_comm hkeyed hne
  · exact byOwnerBoot.enroll_comm hkeyed hne
  · exact byParent.enroll_comm hkeyed hne
  · simp [enroll]

end Order

end Members

section Relationships
variable (graph : RackGraph) (existing : Option RelationshipRecord) (record : RelationshipRecord)
  (key : RelationshipKey)

@[simp] theorem members_storeRelationship :
    (graph.storeRelationship existing record).members = graph.members := by
  cases existing <;> rfl

@[simp] theorem relationships_storeRelationship :
    (graph.storeRelationship existing record).relationships =
      graph.relationships.insert record.key record := by
  cases existing <;> rfl

@[simp] theorem failureDomains_storeRelationship :
    (graph.storeRelationship existing record).failureDomains = graph.failureDomains := by
  cases existing <;> rfl

@[simp] theorem childrenByDomain_storeRelationship :
    (graph.storeRelationship existing record).childrenByDomain = graph.childrenByDomain := by
  cases existing <;> rfl

@[simp] theorem members_dropRelationship :
    (graph.dropRelationship key).members = graph.members := by
  unfold dropRelationship
  cases graph.relationships[key]? <;> rfl

@[simp] theorem relationships_dropRelationship :
    (graph.dropRelationship key).relationships = graph.relationships.erase key := by
  unfold dropRelationship
  cases graph.relationships[key]? <;> rfl

@[simp] theorem failureDomains_dropRelationship :
    (graph.dropRelationship key).failureDomains = graph.failureDomains := by
  unfold dropRelationship
  cases graph.relationships[key]? <;> rfl

@[simp] theorem childrenByDomain_dropRelationship :
    (graph.dropRelationship key).childrenByDomain = graph.childrenByDomain := by
  unfold dropRelationship
  cases graph.relationships[key]? <;> rfl

variable {graph existing record key}

theorem relationshipsByMember_clear (hkeyed : graph.Keyed) :
    (graph.clearRelationship graph.relationships[key]?).relationshipsByMember =
      unfile graph.relationshipsByMember
        (keysAt graph.relationships RelationshipRecord.endpoints key) key := by
  unfold keysAt clearRelationship
  cases hold : graph.relationships[key]? with
  | none => rfl
  | some old =>
    have hkey := hkeyed.relationships hold
    simp only [indexRemoveRelationship, hkey, Option.map_some, Option.getD_some]
    apply unfile_congr
    intro member
    split <;> simp_all [RelationshipRecord.endpoints]

theorem relationshipsByMember_store (hkeyed : graph.Keyed) :
    (graph.storeRelationship graph.relationships[record.key]? record).relationshipsByMember =
      file (unfile graph.relationshipsByMember
        (keysAt graph.relationships RelationshipRecord.endpoints record.key) record.key)
        record.endpoints record.key := by
  rw [← relationshipsByMember_clear hkeyed]
  rfl

theorem relationshipsByMember_drop (hkeyed : graph.Keyed) :
    (graph.dropRelationship key).relationshipsByMember =
      unfile graph.relationshipsByMember
        (keysAt graph.relationships RelationshipRecord.endpoints key) key := by
  rw [← relationshipsByMember_clear hkeyed]
  rfl

def RelationshipsMirrored (graph : RackGraph) : Prop :=
  Mirrors graph.relationshipsByMember
    (Filed graph.relationships RelationshipRecord.endpoints) unpinned

theorem relationshipsMirrored_store (h : graph.RelationshipsMirrored) (hkeyed : graph.Keyed) :
    (graph.storeRelationship graph.relationships[record.key]? record).RelationshipsMirrored := by
  unfold RelationshipsMirrored at h ⊢
  rw [relationshipsByMember_store hkeyed, relationships_storeRelationship]
  exact h.replace record

theorem relationshipsMirrored_drop (h : graph.RelationshipsMirrored) (hkeyed : graph.Keyed) :
    (graph.dropRelationship key).RelationshipsMirrored := by
  unfold RelationshipsMirrored at h ⊢
  rw [relationshipsByMember_drop hkeyed, relationships_dropRelationship]
  exact h.discard

end Relationships

section Domains
variable (graph : RackGraph) (existing : Option FailureDomainRecord)
  (record : FailureDomainRecord)

@[simp] theorem members_storeFailureDomain :
    (graph.storeFailureDomain existing record).members = graph.members := by
  cases existing <;> rfl

@[simp] theorem relationships_storeFailureDomain :
    (graph.storeFailureDomain existing record).relationships = graph.relationships := by
  cases existing <;> rfl

@[simp] theorem failureDomains_storeFailureDomain :
    (graph.storeFailureDomain existing record).failureDomains =
      graph.failureDomains.insert record.id record := by
  cases existing <;> rfl

@[simp] theorem relationshipsByMember_storeFailureDomain :
    (graph.storeFailureDomain existing record).relationshipsByMember =
      graph.relationshipsByMember := by
  cases existing <;> rfl

@[simp] theorem membersByKind_storeFailureDomain :
    (graph.storeFailureDomain existing record).membersByKind = graph.membersByKind := by
  cases existing <;> rfl

@[simp] theorem membersByPowerDomain_storeFailureDomain :
    (graph.storeFailureDomain existing record).membersByPowerDomain =
      graph.membersByPowerDomain := by
  cases existing <;> rfl

@[simp] theorem membersByCoolingDomain_storeFailureDomain :
    (graph.storeFailureDomain existing record).membersByCoolingDomain =
      graph.membersByCoolingDomain := by
  cases existing <;> rfl

@[simp] theorem membersByOwnerBoot_storeFailureDomain :
    (graph.storeFailureDomain existing record).membersByOwnerBoot =
      graph.membersByOwnerBoot := by
  cases existing <;> rfl

@[simp] theorem childrenByParent_storeFailureDomain :
    (graph.storeFailureDomain existing record).childrenByParent = graph.childrenByParent := by
  cases existing <;> rfl

variable {graph record}

theorem childrenByDomain_store (hkeyed : graph.Keyed) :
    (graph.storeFailureDomain graph.failureDomains[record.id]? record).childrenByDomain =
      file (unfile graph.childrenByDomain
        (keysAt graph.failureDomains FailureDomainRecord.parents record.id) record.id)
        record.parents record.id := by
  unfold keysAt
  cases hold : graph.failureDomains[record.id]? with
  | none => rfl
  | some old =>
    simp [storeFailureDomain, clearFailureDomain, indexRemoveFailureDomain,
      indexAddFailureDomain, hkeyed.failureDomains hold]

theorem membersByFailureDomain_store (hkeyed : graph.Keyed) :
    (graph.storeFailureDomain graph.failureDomains[record.id]? record).membersByFailureDomain =
      if graph.failureDomains[record.id]?.isSome then
        touch (graph.membersByFailureDomain.erase record.id) record.id
      else touch graph.membersByFailureDomain record.id := by
  cases hold : graph.failureDomains[record.id]? with
  | none => rfl
  | some old =>
    simp [storeFailureDomain, clearFailureDomain, indexRemoveFailureDomain,
      indexAddFailureDomain, hkeyed.failureDomains hold]

def DomainChildrenMirrored (graph : RackGraph) : Prop :=
  Mirrors graph.childrenByDomain
    (Filed graph.failureDomains FailureDomainRecord.parents) unpinned

theorem domainChildrenMirrored_store (h : graph.DomainChildrenMirrored) (hkeyed : graph.Keyed) :
    (graph.storeFailureDomain graph.failureDomains[record.id]? record).DomainChildrenMirrored := by
  unfold DomainChildrenMirrored at h ⊢
  rw [childrenByDomain_store hkeyed, failureDomains_storeFailureDomain]
  exact h.replace record

end Domains

end RackGraph

end RackFabric
