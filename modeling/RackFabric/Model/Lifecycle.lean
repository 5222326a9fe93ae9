import RackFabric.Library.Enumeration
import RackFabric.Model.Text

/-! Lifecycle and state enumerations. -/
namespace RackFabric
open Enumeration

inductive RackLifecycle where
  | undeclared | declared | discovering | partiallyKnown | ready | degraded
  | revalidationRequired | retired
deriving DecidableEq

instance : Enum8 RackLifecycle where
  values := [.undeclared, .declared, .discovering, .partiallyKnown, .ready, .degraded,
    .revalidationRequired, .retired]

def RackLifecycle.toStr : RackLifecycle → Str
  | .undeclared => str "UNDECLARED"
  | .declared => str "DECLARED"
  | .discovering => str "DISCOVERING"
  | .partiallyKnown => str "PARTIAL"
  | .ready => str "READY"
  | .degraded => str "DEGRADED"
  | .revalidationRequired => str "REVALIDATION_REQUIRED"
  | .retired => str "RETIRED"

inductive MemberLifecycle where
  | unknown | declared | present | unavailable | superseded | removed | retired
deriving DecidableEq

instance : Enum8 MemberLifecycle where
  values := [.unknown, .declared, .present, .unavailable, .superseded, .removed, .retired]

def MemberLifecycle.toStr : MemberLifecycle → Str
  | .unknown => str "UNKNOWN"
  | .declared => str "DECLARED"
  | .present => str "PRESENT"
  | .unavailable => str "UNAVAILABLE"
  | .superseded => str "SUPERSEDED"
  | .removed => str "REMOVED"
  | .retired => str "RETIRED"

/-- The member is part of the current rack composition. -/
def isCurrentMember (value : MemberLifecycle) : Bool :=
  value = .present ∨ value = .unavailable

inductive PublisherState where
  | unknown | registered | active | lost | fenced
deriving DecidableEq

instance : Enum8 PublisherState where
  values := [.unknown, .registered, .active, .lost, .fenced]

inductive HealthState where
  | unknown | healthy | degraded | unhealthy | notApplicable
deriving DecidableEq, Inhabited

instance : Enum8 HealthState where
  values := [.unknown, .healthy, .degraded, .unhealthy, .notApplicable]

def HealthState.toStr : HealthState → Str
  | .unknown => str "UNKNOWN"
  | .healthy => str "HEALTHY"
  | .degraded => str "DEGRADED"
  | .unhealthy => str "UNHEALTHY"
  | .notApplicable => str "NOT_APPLICABLE"

def isPositiveHealth (value : HealthState) : Bool :=
  value = .healthy ∨ value = .notApplicable

inductive ReadinessState where
  | unknown | ready | notReady
deriving DecidableEq, Inhabited

instance : Enum8 ReadinessState where
  values := [.unknown, .ready, .notReady]

inductive ReachabilityState where
  | unknown | reachable | unreachable
deriving DecidableEq, Inhabited

instance : Enum8 ReachabilityState where
  values := [.unknown, .reachable, .unreachable]

inductive ThrottleState where
  | unknown | none | throttled | severelyThrottled
deriving DecidableEq, Inhabited

instance : Enum8 ThrottleState where
  values := [.unknown, .none, .throttled, .severelyThrottled]

/-- Why a member or rack requires revalidation. -/
inductive RevalidationReason where
  | none | ownerProcessLost | coordinatorRestarted | evidenceExpired | superseded
deriving DecidableEq

instance : Enum8 RevalidationReason where
  values := [.none, .ownerProcessLost, .coordinatorRestarted, .evidenceExpired, .superseded]

def RevalidationReason.toStr : RevalidationReason → Str
  | .none => str "NONE"
  | .ownerProcessLost => str "OWNER_PROCESS_LOST"
  | .coordinatorRestarted => str "COORDINATOR_RESTARTED"
  | .evidenceExpired => str "EVIDENCE_EXPIRED"
  | .superseded => str "SUPERSEDED"

end RackFabric
