import RackFabric.Library.Enumeration

/-! Generation counters. Zero is unset and the increment is checked. -/
namespace RackFabric
open Std

/-- What a generation counts; generations of different tags never mix. -/
inductive GenerationTag where
  | rack | member | membership | topology | failureDomain | constraint | powerEnvelope
  | coolingEnvelope | health | capability | publication | snapshot | coordinatorEpoch

structure Generation (tag : GenerationTag) where
  value : UInt64 := 0
deriving DecidableEq

namespace Generation
variable {tag : GenerationTag}

def first : Generation tag := ⟨1⟩

def isUnset (generation : Generation tag) : Bool := generation.value = 0

def isSet (generation : Generation tag) : Bool := generation.value ≠ 0

/-- Checked increment: nothing at the representable maximum. -/
def next (generation : Generation tag) : Option (Generation tag) :=
  if generation.value = 0xFFFFFFFFFFFFFFFF then none else some ⟨generation.value + 1⟩

/-- The next generation of a counter that starts at its first value. -/
def advance (generation : Generation tag) : Option (Generation tag) :=
  if generation.isUnset then some first else generation.next

/-- Advances where possible; an exhausted counter stays where it is. -/
def bump (generation : Generation tag) : Generation tag :=
  generation.advance.getD generation

instance : LT (Generation tag) := ⟨fun left right => left.value < right.value⟩

instance (left right : Generation tag) : Decidable (left < right) :=
  inferInstanceAs (Decidable (left.value < right.value))

instance : LE (Generation tag) := ⟨fun left right => left.value ≤ right.value⟩

theorem ext_value {left right : Generation tag} (h : left.value = right.value) : left = right := by
  cases left
  cases right
  simpa using h

instance : Ord (Generation tag) := ⟨compareOn value⟩

instance : TransOrd (Generation tag) := inferInstanceAs (TransCmp (compareOn value))

instance : LawfulEqOrd (Generation tag) where
  eq_of_compare h := ext_value (Enumeration.eq_of_compareOn h)

theorem advance_eq_next (generation : Generation tag) : generation.advance = generation.next := by
  unfold advance
  split
  · rename_i h
    have hzero : generation.value = 0 := by simpa [isUnset] using h
    simp [next, hzero, first]
  · rfl

theorem toNat_of_next {generation following : Generation tag}
    (h : generation.next = some following) :
    following.value.toNat = generation.value.toNat + 1 := by
  unfold next at h
  split at h
  · cases h
  · rename_i hmax
    cases h
    have hlt := generation.value.toNat_lt
    have hne : generation.value.toNat ≠ 18446744073709551615 := by
      intro heq
      exact hmax (UInt64.toNat_inj.mp heq)
    rw [UInt64.toNat_add, UInt64.toNat_one]
    omega

theorem lt_of_next {generation following : Generation tag}
    (h : generation.next = some following) : generation < following := by
  have := toNat_of_next h
  change generation.value < following.value
  rw [UInt64.lt_iff_toNat_lt]
  omega

theorem lt_trans {first second third : Generation tag} (hfirst : first < second)
    (hsecond : second < third) : first < third :=
  UInt64.lt_trans hfirst hsecond

theorem lt_irrefl (generation : Generation tag) : ¬ generation < generation :=
  UInt64.lt_irrefl _

theorem le_refl (generation : Generation tag) : generation ≤ generation :=
  UInt64.le_refl _

theorem le_trans {first second third : Generation tag} (hfirst : first ≤ second)
    (hsecond : second ≤ third) : first ≤ third :=
  UInt64.le_trans hfirst hsecond

theorem le_of_lt {first second : Generation tag} (h : first < second) : first ≤ second :=
  UInt64.le_of_lt h

theorem lt_of_lt_of_le {first second third : Generation tag} (hfirst : first < second)
    (hsecond : second ≤ third) : first < third :=
  UInt64.lt_of_lt_of_le hfirst hsecond

theorem lt_of_le_of_lt {first second third : Generation tag} (hfirst : first ≤ second)
    (hsecond : second < third) : first < third :=
  UInt64.lt_of_le_of_lt hfirst hsecond

theorem lt_of_le_of_ne {first second : Generation tag} (hle : first ≤ second)
    (hne : first ≠ second) : first < second :=
  UInt64.lt_of_le_of_ne hle fun hvalue => hne (ext_value hvalue)

theorem eq_of_not_lt {left right : Generation tag} (hleft : ¬ left < right)
    (hright : ¬ right < left) : left = right :=
  ext_value (UInt64.le_antisymm (UInt64.not_lt.mp hright) (UInt64.not_lt.mp hleft))

/-- Nothing is past an exhausted counter. -/
theorem not_lt_of_next {generation following : Generation tag} (h : generation.next = none) :
    ¬ generation < following := by
  unfold next at h
  split at h
  · rename_i hmax
    change ¬ generation.value < following.value
    rw [UInt64.lt_iff_toNat_lt, hmax]
    have hlt := following.value.toNat_lt
    have hmaximum : (0xFFFFFFFFFFFFFFFF : UInt64).toNat = 18446744073709551615 := rfl
    omega
  · cases h

end Generation

abbrev RackGeneration := Generation .rack
abbrev MemberGeneration := Generation .member
abbrev MembershipGeneration := Generation .membership
abbrev TopologyGeneration := Generation .topology
abbrev FailureDomainGeneration := Generation .failureDomain
abbrev ConstraintGeneration := Generation .constraint
abbrev PowerEnvelopeGeneration := Generation .powerEnvelope
abbrev CoolingEnvelopeGeneration := Generation .coolingEnvelope
abbrev HealthGeneration := Generation .health
abbrev CapabilityGeneration := Generation .capability
abbrev PublicationGeneration := Generation .publication
abbrev SnapshotGeneration := Generation .snapshot
abbrev CoordinatorEpoch := Generation .coordinatorEpoch

/-- The generations that a snapshot binds. -/
structure GenerationSet where
  rack : RackGeneration := {}
  membership : MembershipGeneration := {}
  topology : TopologyGeneration := {}
  failureDomains : FailureDomainGeneration := {}
  constraints : ConstraintGeneration := {}
  power : PowerEnvelopeGeneration := {}
  cooling : CoolingEnvelopeGeneration := {}
  health : HealthGeneration := {}
  capabilities : CapabilityGeneration := {}
  coordinatorEpoch : CoordinatorEpoch := {}
deriving DecidableEq

end RackFabric
