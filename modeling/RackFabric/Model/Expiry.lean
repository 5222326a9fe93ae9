import Mathlib.Logic.Function.Basic
import RackFabric.Model.Runtime

/-! The expiry of leases as callers interleave with it. A call selects the overdue
boots under the lock, and fences each of them under the lock of its own. -/
namespace RackFabric

def Mutation.isExpiry : Mutation → Bool
  | .expirePublishers _ => true
  | _ => false

/-- A call to the fabric that is not an expiry. -/
abbrev PlainMutation := { mutation : Mutation // mutation.isExpiry = false }

structure Expiry where
  fabric : RackState
  clock : Timestamp := ⟨0⟩
  /-- What each call of `expire_publishers` has selected and not fenced yet. -/
  selected : Nat → List AgentBootId := fun _ => []

inductive ExpiryEvent where
  | advance (now : Timestamp)
  | select (caller : Nat)
  | fence (caller : Nat)
  | mutate (mutation : PlainMutation)

namespace Expiry

/-- The request of the expiry, under the epoch that it reads. -/
def fenceRequest (fabric : RackState) (boot : AgentBootId) : FencePublisherRequest where
  coordinatorEpoch := fabric.generations.coordinatorEpoch
  boot := some boot
  reason := .ownerProcessLost

def select (expiry : Expiry) (caller : Nat) : Expiry :=
  match expiry.selected caller with
  | [] =>
      { expiry with
        selected :=
          Function.update expiry.selected caller (expiry.fabric.expiredBoots expiry.clock) }
  | _ :: _ => expiry

def fence (expiry : Expiry) (caller : Nat) : Expiry :=
  match expiry.selected caller with
  | [] => expiry
  | boot :: rest =>
      { expiry with
        fabric :=
          (expiry.fabric.fencePublisher expiry.clock (fenceRequest expiry.fabric boot)).1
        selected := Function.update expiry.selected caller rest }

/-- The clock does not go back. -/
def step (options : RackFabricOptions) (expiry : Expiry) : ExpiryEvent → Expiry
  | .advance now => { expiry with clock := expiry.clock.max now }
  | .select caller => expiry.select caller
  | .fence caller => expiry.fence caller
  | .mutate mutation =>
      { expiry with fabric := expiry.fabric.step options ⟨expiry.clock, mutation⟩ }

end Expiry

end RackFabric
