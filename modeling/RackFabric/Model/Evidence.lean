import RackFabric.Library.Enumeration
import RackFabric.Model.Text

/-! Evidence: how an observation was obtained, when, and for how long the claim
remains defensible. -/
namespace RackFabric
open Enumeration

inductive EvidenceProvenance where
  | unknown | measured | reported | derived | estimated | synthetic | reconstructed
deriving DecidableEq

instance : Enum8 EvidenceProvenance where
  values := [.unknown, .measured, .reported, .derived, .estimated, .synthetic, .reconstructed]

def EvidenceProvenance.toStr : EvidenceProvenance → Str
  | .unknown => str "UNKNOWN"
  | .measured => str "MEASURED"
  | .reported => str "REPORTED"
  | .derived => str "DERIVED"
  | .estimated => str "ESTIMATED"
  | .synthetic => str "SYNTHETIC"
  | .reconstructed => str "RECONSTRUCTED"

def isPhysicalProvenance (value : EvidenceProvenance) : Bool :=
  value = .measured ∨ value = .reported ∨ value = .derived

inductive Freshness where
  | unknown | fresh | stale | revalidationRequired
deriving DecidableEq

def Freshness.toStr : Freshness → Str
  | .unknown => str "UNKNOWN"
  | .fresh => str "FRESH"
  | .stale => str "STALE"
  | .revalidationRequired => str "REVALIDATION_REQUIRED"

inductive Durability where
  | durable | ephemeral
deriving DecidableEq

instance : Enum8 Durability where
  values := [.durable, .ephemeral]

/-- Milliseconds since the Unix epoch; zero is unknown. -/
structure Timestamp where
  unixMillis : Int64 := 0
deriving DecidableEq

namespace Timestamp

def unknown : Timestamp := {}

def known (timestamp : Timestamp) : Bool := 0 < timestamp.unixMillis

def max (left right : Timestamp) : Timestamp :=
  if left.unixMillis < right.unixMillis then right else left

end Timestamp

/-- A `std::chrono::milliseconds` count. -/
abbrev Millis := Int64

/-- What decides freshness, whatever the observed value is. -/
structure Observation where
  provenance : EvidenceProvenance := .unknown
  observedAt : Timestamp := .unknown
  ttl : Millis := 0
  durability : Durability := .durable
  revalidationRequired : Bool := false
deriving DecidableEq

namespace Observation

def hasEvidence (evidence : Observation) : Bool :=
  evidence.provenance ≠ .unknown

/-- A durable declaration without a lifetime does not age.  An observation from
the future is not evidence about the present. -/
def freshnessAt (evidence : Observation) (now : Timestamp) : Freshness :=
  if evidence.revalidationRequired then .revalidationRequired
  else if !evidence.hasEvidence ∨ !evidence.observedAt.known then .unknown
  else if evidence.durability = .durable ∧ evidence.ttl = 0 then .fresh
  else if evidence.ttl ≤ 0 then .stale
  else if !now.known then .unknown
  else
    let age := now.unixMillis - evidence.observedAt.unixMillis
    if age < 0 then .stale
    else if age ≤ evidence.ttl then .fresh else .stale

def isCurrentAt (evidence : Observation) (now : Timestamp) : Bool :=
  evidence.freshnessAt now = .fresh

end Observation

/-- An observation of a value. The default asserts nothing. -/
structure EvidenceValue (α : Type) [Inhabited α] extends Observation where
  value : α := default
deriving DecidableEq

/-- A `double` as its bits, so that records compare and encode by content.  The
operators follow IEEE 754. -/
structure Double where
  bits : UInt64 := 0
deriving DecidableEq

namespace Double

def model (x : Double) : Float.Model := Float.Model.ofBits x.bits

def isFinite (x : Double) : Bool := x.model.isFinite

def lt (x y : Double) : Bool := x.model.lt y.model

def ge (x y : Double) : Bool := y.model.le x.model

def operatorEq (x y : Double) : Bool := x.model.beq y.model

def sub (x y : Double) : Double := ⟨(x.model.sub y.model).toBits⟩

end Double

inductive QuantityUnit where
  | none | watts | celsius | bytes | count | bytesPerSecond | gigabitsPerSecond | megahertz
  | volts | amperes
deriving DecidableEq

instance : Enum8 QuantityUnit where
  values := [.none, .watts, .celsius, .bytes, .count, .bytesPerSecond, .gigabitsPerSecond,
    .megahertz, .volts, .amperes]

/-- A measurement with its unit. No precision is invented for it. -/
structure Quantity extends Observation where
  value : Double := {}
  unit : QuantityUnit := .none
  uncertainty : Option Double := none
deriving DecidableEq

/-- Equality of two optional values under the equality of the values. -/
def optionEq {α : Type} (eq : α → α → Bool) : Option α → Option α → Bool
  | none, none => true
  | some left, some right => eq left right
  | _, _ => false

def Quantity.operatorEq (left right : Quantity) : Bool :=
  left.value.operatorEq right.value && left.unit = right.unit &&
    optionEq Double.operatorEq left.uncertainty right.uncertainty &&
    left.toObservation = right.toObservation

end RackFabric
