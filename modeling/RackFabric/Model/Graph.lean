import RackFabric.Library.Reachability
import RackFabric.Library.SecondaryIndex
import RackFabric.Model.Topology

/-! The canonical records of the rack, which refer to each other, and the
indexes derived from them. -/
namespace RackFabric
open Std SecondaryIndex Reachability

@[ext]
structure RackGraph where
  members : ExtTreeMap MemberKey MemberRecord := ∅
  relationships : ExtTreeMap RelationshipKey RelationshipRecord := ∅
  failureDomains : ExtTreeMap FailureDomainId FailureDomainRecord := ∅
  relationshipsByMember : Index MemberKey RelationshipKey := ∅
  membersByKind : Index MemberKind MemberKey := ∅
  membersByFailureDomain : Index FailureDomainId MemberKey := ∅
  membersByPowerDomain : Index PowerDomainId MemberKey := ∅
  membersByCoolingDomain : Index CoolingDomainId MemberKey := ∅
  membersByOwnerBoot : Index AgentBootId MemberKey := ∅
  childrenByParent : Index MemberKey MemberKey := ∅
  childrenByDomain : Index FailureDomainId FailureDomainId := ∅

/-! The keys under which the indexes file a record. -/

def MemberRecord.kindKeys (record : MemberRecord) : List MemberKind := [record.key.kind]

def MemberRecord.powerKeys (record : MemberRecord) : List PowerDomainId :=
  record.powerDomain.toList

def MemberRecord.coolingKeys (record : MemberRecord) : List CoolingDomainId :=
  record.coolingDomain.toList

def MemberRecord.ownerKeys (record : MemberRecord) : List AgentBootId :=
  record.ownerBoot.toList

def MemberRecord.parentKeys (record : MemberRecord) : List MemberKey := record.parent.toList

def RelationshipRecord.endpoints (record : RelationshipRecord) : List MemberKey :=
  [record.key.source, record.key.target]

namespace RackGraph

/-! Index maintenance. -/

def indexAddMember (graph : RackGraph) (record : MemberRecord) : RackGraph :=
  { graph with
    membersByKind := file graph.membersByKind record.kindKeys record.key
    membersByFailureDomain :=
      file graph.membersByFailureDomain record.failureDomains record.key
    membersByPowerDomain := file graph.membersByPowerDomain record.powerKeys record.key
    membersByCoolingDomain := file graph.membersByCoolingDomain record.coolingKeys record.key
    membersByOwnerBoot := file graph.membersByOwnerBoot record.ownerKeys record.key
    childrenByParent := file graph.childrenByParent record.parentKeys record.key }

def indexRemoveMember (graph : RackGraph) (record : MemberRecord) : RackGraph :=
  { graph with
    membersByKind := unfile graph.membersByKind record.kindKeys record.key
    membersByFailureDomain :=
      unfile graph.membersByFailureDomain record.failureDomains record.key
    membersByPowerDomain := unfile graph.membersByPowerDomain record.powerKeys record.key
    membersByCoolingDomain := unfile graph.membersByCoolingDomain record.coolingKeys record.key
    membersByOwnerBoot := unfile graph.membersByOwnerBoot record.ownerKeys record.key
    childrenByParent := unfile graph.childrenByParent record.parentKeys record.key }

def indexAddRelationship (graph : RackGraph) (record : RelationshipRecord) : RackGraph :=
  { graph with
    relationshipsByMember := file graph.relationshipsByMember record.endpoints record.key }

def indexRemoveRelationship (graph : RackGraph) (record : RelationshipRecord) : RackGraph :=
  { graph with
    relationshipsByMember :=
      unfile graph.relationshipsByMember
        (if record.key.target = record.key.source then [record.key.source] else record.endpoints)
        record.key }

/-- A published domain is a key of the member index even before it has members. -/
def indexAddFailureDomain (graph : RackGraph) (record : FailureDomainRecord) : RackGraph :=
  { graph with
    childrenByDomain := file graph.childrenByDomain record.parents record.id
    membersByFailureDomain := touch graph.membersByFailureDomain record.id }

/-- The members filed under the domain go with its key. -/
def indexRemoveFailureDomain (graph : RackGraph) (record : FailureDomainRecord) : RackGraph :=
  { graph with
    childrenByDomain := unfile graph.childrenByDomain record.parents record.id
    membersByFailureDomain := graph.membersByFailureDomain.erase record.id }

def clearIndexes (graph : RackGraph) : RackGraph :=
  { members := graph.members
    relationships := graph.relationships
    failureDomains := graph.failureDomains }

def rebuildIndexes (graph : RackGraph) : RackGraph :=
  let withMembers := graph.members.toList.foldl
    (fun graph entry => graph.indexAddMember entry.2) graph.clearIndexes
  let withRelationships := graph.relationships.toList.foldl
    (fun graph entry => graph.indexAddRelationship entry.2) withMembers
  graph.failureDomains.toList.foldl
    (fun graph entry => graph.indexAddFailureDomain entry.2) withRelationships

/-! The stores: the old record leaves the indexes, the new one enters them, and
then the record is assigned to its key. -/

def clearMember (graph : RackGraph) (existing : Option MemberRecord) : RackGraph :=
  match existing with
  | none => graph
  | some existing => graph.indexRemoveMember existing

def storeMember (graph : RackGraph) (key : MemberKey) (existing : Option MemberRecord)
    (record : MemberRecord) : RackGraph :=
  let filed := (graph.clearMember existing).indexAddMember record
  { filed with members := filed.members.insert key record }

def clearRelationship (graph : RackGraph) (existing : Option RelationshipRecord) : RackGraph :=
  match existing with
  | none => graph
  | some existing => graph.indexRemoveRelationship existing

def storeRelationship (graph : RackGraph) (existing : Option RelationshipRecord)
    (record : RelationshipRecord) : RackGraph :=
  let filed := (graph.clearRelationship existing).indexAddRelationship record
  { filed with relationships := filed.relationships.insert record.key record }

def dropRelationship (graph : RackGraph) (key : RelationshipKey) : RackGraph :=
  let cleared := graph.clearRelationship graph.relationships[key]?
  { cleared with relationships := cleared.relationships.erase key }

def clearFailureDomain (graph : RackGraph) (existing : Option FailureDomainRecord) :
    RackGraph :=
  match existing with
  | none => graph
  | some existing => graph.indexRemoveFailureDomain existing

def storeFailureDomain (graph : RackGraph) (existing : Option FailureDomainRecord)
    (record : FailureDomainRecord) : RackGraph :=
  let filed := (graph.clearFailureDomain existing).indexAddFailureDomain record
  { filed with failureDomains := filed.failureDomains.insert record.id record }

/-! Cycle checks. -/

def parentOf (graph : RackGraph) (key : MemberKey) : Option MemberKey :=
  graph.members[key]?.bind (·.parent)

/-- Walks up the parent chain; a repeat is a cycle that was there before. -/
def chainMeets (graph : RackGraph) (child : MemberKey) :
    Nat → MemberKey → ExtTreeSet MemberKey → Bool
  | 0, _, _ => true
  | fuel + 1, current, visited =>
      if visited.contains current then true
      else if current = child then true
      else match graph.parentOf current with
        | none => false
        | some parent => graph.chainMeets child fuel parent (visited.insert current)

def containsCycle (graph : RackGraph) (parent child : MemberKey) : Bool :=
  if parent = child then true
  else graph.chainMeets child (graph.members.size + 1) parent ∅

/-- The containers of a member, read from the relationship index. -/
def containersOf (graph : RackGraph) (key : MemberKey) : List MemberKey :=
  (entries graph.relationshipsByMember key).toList.filterMap fun relationship =>
    if relationship.cls = .contains ∧ relationship.target = key then some relationship.source
    else none

def relationshipContainsCycle (graph : RackGraph) (parent child : MemberKey) : Bool :=
  if parent = child then true
  else searchEager graph.containersOf child
    (searchFuel graph.containersOf graph.relationshipsByMember.keys) [parent] ∅

def parentsOf (graph : RackGraph) (id : FailureDomainId) : List FailureDomainId :=
  match graph.failureDomains[id]? with
  | none => []
  | some record => record.parents

def domainContainsCycle (graph : RackGraph) (parent child : FailureDomainId) : Bool :=
  if parent = child then true
  else search graph.parentsOf child
    (searchFuel graph.parentsOf graph.failureDomains.keys) [parent] ∅

/-- The domains met from a queue of domains, each expanded once. -/
def collectDomains (graph : RackGraph) :
    Nat → List FailureDomainId → ExtTreeSet FailureDomainId → ExtTreeSet FailureDomainId
  | fuel + 1, current :: pending, result =>
      if result.contains current then graph.collectDomains fuel pending result
      else graph.collectDomains fuel (pending ++ graph.parentsOf current) (result.insert current)
  | _, _, result => result

/-- Every failure domain a member belongs to, transitive parents included. -/
def failureDomainsOf (graph : RackGraph) (key : MemberKey) : List FailureDomainId :=
  match graph.members[key]? with
  | none => []
  | some record =>
      let fuel := record.failureDomains.length +
        searchFuel graph.parentsOf graph.failureDomains.keys
      (graph.collectDomains fuel record.failureDomains ∅).toList

end RackGraph

end RackFabric
