import RackFabric.Model.Domains
import RackFabric.Model.State

/-! The queries about members and relationships. -/
namespace RackFabric
open Std SecondaryIndex Reachability Worklist

namespace RackGraph

def childMembersOf (graph : RackGraph) (parent : MemberKey) : List MemberKey :=
  (entries graph.childrenByParent parent).toList

/-- The queue starts with the member, which is marked and is not part of the result. -/
def descendants (graph : RackGraph) (parent : MemberKey) : List MemberKey :=
  let fuel := searchFuel graph.childMembersOf graph.childrenByParent.keys
  let start : Spread MemberKey MemberKey :=
    { pending := [parent], visited := ExtTreeSet.insert ∅ parent, gathered := ∅ }
  (spread graph.childMembersOf (fun child => [child]) fuel start).gathered.toList

end RackGraph

namespace RackState

/-- The members of one kind are looked up, all of them are listed. -/
def membersOfKind (state : RackState) : Option MemberKind → List MemberRecord
  | some kind => lookup state.membersByKind state.members kind
  | none => state.memberRecords

def relationshipsTouching (state : RackState) (key : MemberKey) : List RelationshipRecord :=
  lookup state.relationshipsByMember state.relationships key

def findRelationship (state : RackState) (key : RelationshipKey) : Option RelationshipRecord :=
  state.relationships[key.canonical]?

end RackState

end RackFabric
