import RackFabric.Model.Member

/-! Relationships between members, and the failure domains they belong to. -/
namespace RackFabric
open Std Enumeration

inductive RelationshipClass where
  | contains | attachedTo | connectedTo | reachableThrough | sameNode | sameNumaDomain
  | sameSwitchDomain | samePowerDomain | sameCoolingDomain | sameFailureDomain
  | storageLocal | nicLocal | acceleratorPeer
deriving DecidableEq

instance : Enum8 RelationshipClass where
  values := [.contains, .attachedTo, .connectedTo, .reachableThrough, .sameNode,
    .sameNumaDomain, .sameSwitchDomain, .samePowerDomain, .sameCoolingDomain,
    .sameFailureDomain, .storageLocal, .nicLocal, .acceleratorPeer]

namespace RelationshipClass

instance : Ord RelationshipClass := ⟨byNumber⟩

instance : TransOrd RelationshipClass := inferInstanceAs (TransCmp byNumber)

instance : LawfulEqOrd RelationshipClass := inferInstanceAs (LawfulEqCmp byNumber)

/-- Symmetric classes carry no direction. -/
def isSymmetric : RelationshipClass → Bool
  | .connectedTo | .sameNode | .sameNumaDomain | .sameSwitchDomain | .samePowerDomain
  | .sameCoolingDomain | .sameFailureDomain | .acceleratorPeer => true
  | _ => false

def toStr : RelationshipClass → Str
  | .contains => str "contains"
  | .attachedTo => str "attached_to"
  | .connectedTo => str "connected_to"
  | .reachableThrough => str "reachable_through"
  | .sameNode => str "same_node"
  | .sameNumaDomain => str "same_numa_domain"
  | .sameSwitchDomain => str "same_switch_domain"
  | .samePowerDomain => str "same_power_domain"
  | .sameCoolingDomain => str "same_cooling_domain"
  | .sameFailureDomain => str "same_failure_domain"
  | .storageLocal => str "storage_local"
  | .nicLocal => str "nic_local"
  | .acceleratorPeer => str "accelerator_peer"

end RelationshipClass

structure RelationshipKey where
  cls : RelationshipClass := .contains
  source : MemberKey := {}
  target : MemberKey := {}
deriving DecidableEq

namespace RelationshipKey

/-- Orders the endpoints of a symmetric class, so that both orders are one key. -/
def canonicalize (cls : RelationshipClass) (source target : MemberKey) : RelationshipKey :=
  if cls.isSymmetric ∧ compare target source = .lt then ⟨cls, target, source⟩
  else ⟨cls, source, target⟩

def canonical (key : RelationshipKey) : RelationshipKey :=
  canonicalize key.cls key.source key.target

def toStr (key : RelationshipKey) : Str :=
  key.cls.toStr ++ str "(" ++ key.source.toStr ++ str " -> " ++ key.target.toStr ++ str ")"

@[simp] theorem canonical_canonical (key : RelationshipKey) :
    key.canonical.canonical = key.canonical := by
  unfold canonical canonicalize
  by_cases h : key.cls.isSymmetric ∧ compare key.target key.source = .lt
  · have hback : compare key.source key.target ≠ .lt := by
      rw [OrientedCmp.gt_of_lt h.2]
      decide
    simp [h, hback]
  · simp [h]

theorem cls_canonical (key : RelationshipKey) : key.canonical.cls = key.cls := by
  unfold canonical canonicalize
  split <;> rfl

/-- Which endpoint comes first does not matter for what holds of both. -/
theorem canonical_endpoints (holds : MemberKey → Prop) (key : RelationshipKey) :
    (holds key.canonical.source ∧ holds key.canonical.target) ↔
      (holds key.source ∧ holds key.target) := by
  unfold canonical canonicalize
  split
  · exact and_comm
  · exact Iff.rfl

instance : Ord RelationshipKey :=
  ⟨compareLex (compareOn cls) (compareLex (compareOn source) (compareOn target))⟩

instance : TransOrd RelationshipKey :=
  inferInstanceAs (TransCmp
    (compareLex (compareOn cls) (compareLex (compareOn source) (compareOn target))))

instance : LawfulEqOrd RelationshipKey where
  eq_of_compare {left right} h := by
    change compareLex (compareOn cls) (compareLex (compareOn source) (compareOn target))
      left right = .eq at h
    rw [compareLex_eq_eq, compareLex_eq_eq] at h
    have hcls : left.cls = right.cls := eq_of_compareOn h.1
    have hsource : left.source = right.source := eq_of_compareOn h.2.1
    have htarget : left.target = right.target := eq_of_compareOn h.2.2
    cases left
    cases right
    simp_all

end RelationshipKey

structure RelationshipRecord extends Observation where
  key : RelationshipKey := {}
  generation : TopologyGeneration := {}
  ownerWorker : Option WorkerId := none
  ownerBoot : Option AgentBootId := none
  link : Option LinkId := none
  capacity : Option Quantity := none
  source : Option Str := none
deriving DecidableEq

inductive FailureDomainKind where
  | unknown | node | chassis | powerFeed | pdu | switch | networkPath | coolingZone
  | storageEnclosure | rack | other
deriving DecidableEq

instance : Enum8 FailureDomainKind where
  values := [.unknown, .node, .chassis, .powerFeed, .pdu, .switch, .networkPath,
    .coolingZone, .storageEnclosure, .rack, .other]

/-- Components expected to fail together. Domains nest under several parents. -/
structure FailureDomainRecord extends Observation where
  id : FailureDomainId := default
  kind : FailureDomainKind := .unknown
  lifecycle : MemberLifecycle := .declared
  parents : List FailureDomainId := []
  generation : FailureDomainGeneration := {}
  ownerWorker : Option WorkerId := none
  ownerBoot : Option AgentBootId := none
  label : Option Str := none
  source : Option Str := none
deriving DecidableEq

end RackFabric
