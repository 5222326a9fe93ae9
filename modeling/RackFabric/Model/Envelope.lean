import RackFabric.Model.Member

/-! Power and cooling envelopes. Headroom is derived, never declared. -/
namespace RackFabric

structure PowerDomainBudget where
  domain : PowerDomainId := default
  limit : Option Quantity := none
  observedDraw : Option Quantity := none
  headroom : Option Quantity := none
deriving DecidableEq

structure PowerEnvelopeRecord extends Observation where
  generation : PowerEnvelopeGeneration := {}
  rackLimit : Option Quantity := none
  rackObservedDraw : Option Quantity := none
  rackHeadroom : Option Quantity := none
  domainBudgets : List PowerDomainBudget := []
  ownerWorker : Option WorkerId := none
  ownerBoot : Option AgentBootId := none
  source : Option Str := none
deriving DecidableEq

structure CoolingZoneRecord where
  zone : CoolingDomainId := default
  designThermalLimit : Option Quantity := none
  observedTemperature : Option Quantity := none
  coolingCapacity : Option Quantity := none
  thermalHeadroom : Option Quantity := none
  throttling : Option (EvidenceValue ThrottleState) := none
deriving DecidableEq

structure CoolingEnvelopeRecord extends Observation where
  generation : CoolingEnvelopeGeneration := {}
  zones : List CoolingZoneRecord := []
  ownerWorker : Option WorkerId := none
  ownerBoot : Option AgentBootId := none
  source : Option Str := none
deriving DecidableEq

/-- The headroom between two quantities, when both are current and comparable. -/
def deriveHeadroom (limit load : Option Quantity) (now : Timestamp) : Option Quantity :=
  match limit, load with
  | some limit, some load =>
      if limit.unit = load.unit ∧ limit.isCurrentAt now ∧ load.isCurrentAt now then
        let headroom : Quantity :=
          { value := limit.value.sub load.value
            unit := limit.unit
            provenance := .derived
            observedAt := limit.observedAt.max load.observedAt
            ttl := if load.ttl < limit.ttl then load.ttl else limit.ttl
            durability := .ephemeral }
        if headroom.value.ge {} then some headroom else none
      else none
  | _, _ => none

/-- `recompute_power_derived` on a published envelope. -/
def PowerEnvelopeRecord.recomputeDerived (envelope : PowerEnvelopeRecord) (now : Timestamp) :
    PowerEnvelopeRecord :=
  { envelope with
    rackHeadroom := deriveHeadroom envelope.rackLimit envelope.rackObservedDraw now
    domainBudgets := envelope.domainBudgets.map fun budget =>
      { budget with headroom := deriveHeadroom budget.limit budget.observedDraw now } }

/-- `recompute_cooling_derived` on a published envelope. -/
def CoolingEnvelopeRecord.recomputeDerived (envelope : CoolingEnvelopeRecord)
    (now : Timestamp) : CoolingEnvelopeRecord :=
  { envelope with
    zones := envelope.zones.map fun zone =>
      { zone with thermalHeadroom := deriveHeadroom zone.coolingCapacity zone.designThermalLimit now } }

end RackFabric
