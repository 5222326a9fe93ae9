import RackFabric.Library.BinarySearch
import RackFabric.Library.Worklist
import RackFabric.Model.Graph

/-! The queries about failure domains. -/
namespace RackFabric
open Std SecondaryIndex Reachability Worklist BinarySearch

namespace RackGraph

def childrenOf (graph : RackGraph) (id : FailureDomainId) : List FailureDomainId :=
  (entries graph.childrenByDomain id).toList

def membersOf (graph : RackGraph) (id : FailureDomainId) : List MemberKey :=
  (entries graph.membersByFailureDomain id).toList

/-- The queue starts with the domain; its children are queued once each, and their
members are added to its own. -/
def membersInFailureDomain (graph : RackGraph) (id : FailureDomainId) (includeNested : Bool) :
    List MemberKey :=
  let direct := (graph.membersOf id).foldl ExtTreeSet.insert ∅
  if includeNested then
    let fuel := searchFuel graph.childrenOf graph.childrenByDomain.keys
    let start : Spread FailureDomainId MemberKey :=
      { pending := [id], visited := ExtTreeSet.insert ∅ id, gathered := direct }
    (spread graph.childrenOf graph.membersOf fuel start).gathered.toList
  else direct.toList

def membersAffectedBy (graph : RackGraph) (id : FailureDomainId) : List MemberKey :=
  graph.membersInFailureDomain id true

def sharesFailureDomain (graph : RackGraph) (left right : MemberKey) : Bool :=
  let leftDomains := graph.failureDomainsOf left
  if leftDomains.isEmpty then false
  else
    let rightDomains := graph.failureDomainsOf right
    if rightDomains.isEmpty then false
    else leftDomains.any (binarySearch rightDomains)

end RackGraph

end RackFabric
