import RackFabric.Properties.Recovery

/-! The registration capacity. The limit counts the records of the publisher table,
and the record of a dead incarnation stays in it. -/
namespace RackFabric
open Std RackState Tables

namespace RackState
variable {options : RackFabricOptions} {state : RackState}

def livePublishers (state : RackState) : Nat :=
  state.publishers.toList.countP fun entry => entry.2.state ≠ .lost ∧ entry.2.state ≠ .fenced

structure Enrols (state : RackState) (request : RegisterPublisherRequest) (boot : AgentBootId) :
    Prop where
  worker : request.worker.isSome
  named : request.boot = some boot
  label : ∀ label ∈ request.label, (validateLabel label).ok
  epoch : request.coordinatorEpoch = state.generations.coordinatorEpoch
  rack : ∃ rack, state.rack = some rack ∧ request.rack = some rack.id ∧ rack.retired = false
  not_fenced : boot ∉ state.fencedBoots
  new : boot ∉ state.publishers

def RefusedFull (options : RackFabricOptions) (state : RackState) (now : Timestamp)
    (request : RegisterPublisherRequest) : Prop :=
  (registerPublisher options state now request).2.explanation.code =
    str "PUBLISHER_LIMIT_EXCEEDED"

/-- Only the limit can stand in the way of such a registration. -/
theorem admitRegistration_of_enrols {request : RegisterPublisherRequest} {boot : AgentBootId}
    (h : state.Enrols request boot) :
    admitRegistration options state request =
      if options.limits.maxConnections ≤ state.publishers.size then
        .error (.because .rejectLimitExceeded "PUBLISHER_LIMIT_EXCEEDED" boot.value
          "the publisher limit has been reached")
      else .ok (request.worker.getD default, boot) := by
  obtain ⟨worker, hworker⟩ := Option.isSome_iff_exists.mp h.worker
  obtain ⟨rack, hrack, hnamed, hretired⟩ := h.rack
  have habsent : state.publishers.contains boot = false := by
    simpa [← ExtTreeMap.contains_iff_mem] using h.new
  have hunfenced : state.fencedBoots.contains boot = false := by
    simpa [← ExtTreeMap.contains_iff_mem] using h.not_fenced
  have hnew : state.publishers[boot]? = none :=
    ExtTreeMap.getElem?_eq_none_of_contains_eq_false habsent
  have hlabel : (request.label.any fun label => !(validateLabel label).ok) = false := by
    have hvalid := h.label
    cases hlabel : request.label <;> simp_all
  unfold admitRegistration
  by_cases hfull : options.limits.maxConnections ≤ state.publishers.size <;>
    simp [h.named, hworker, hrack, hnamed, hretired, h.epoch, habsent, hunfenced, hnew, hlabel,
      hfull, require, refuseIf, bind, Except.bind, pure, Except.pure]

theorem refusedFull_iff {request : RegisterPublisherRequest} {boot : AgentBootId}
    (h : state.Enrols request boot) (now : Timestamp) :
    RefusedFull options state now request ↔
      options.limits.maxConnections ≤ state.publishers.size := by
  have hnew : state.publishers[boot]? = none := ExtTreeMap.getElem?_eq_none h.new
  unfold RefusedFull registerPublisher
  rw [admitRegistration_of_enrols h]
  by_cases hfull : options.limits.maxConnections ≤ state.publishers.size
  · rw [if_pos hfull]
    exact iff_of_true rfl hfull
  · rw [if_neg hfull]
    simp only [hnew]
    exact iff_of_false (by simp only [accept, makeResult]; decide) hfull

/-- No mutation takes a record out of the publisher table: capacity that is lost
does not come back. -/
theorem size_publishers_run (options : RackFabricOptions) (state : RackState)
    (inputs : List Input) :
    state.publishers.size ≤ (Execution.run (step options) state inputs).publishers.size := by
  induction inputs generalizing state with
  | nil => exact Nat.le_refl _
  | cons input inputs ih =>
    have hfollowed := publishers_followed (@perform_transition options state input)
    exact hfollowed.size_le.trans (ih _)

end RackState

namespace Deployment

def SparesCapacity (deployment : Deployment) : Prop :=
  ∀ now request boot, deployment.live.Enrols request boot →
    RefusedFull deployment.options deployment.live now request →
      deployment.options.limits.maxConnections ≤ deployment.live.livePublishers

/-- When a new boot may register, the table has room for it, or no room without
the dead either. -/
def HasRoom (deployment : Deployment) : Prop :=
  (∃ request boot, deployment.live.Enrols request boot) →
    deployment.live.publishers.size < deployment.options.limits.maxConnections ∨
      deployment.options.limits.maxConnections ≤ deployment.live.livePublishers

theorem sparesCapacity_iff (deployment : Deployment) :
    deployment.SparesCapacity ↔ deployment.HasRoom := by
  constructor
  · rintro hspares ⟨request, boot, henrols⟩
    rw [or_iff_not_imp_left, Nat.not_lt]
    intro hfull
    exact hspares {} request boot henrols ((refusedFull_iff henrols {}).mpr hfull)
  · intro hroom now request boot henrols hrefused
    have hfull := (refusedFull_iff henrols now).mp hrefused
    exact (hroom ⟨request, boot, henrols⟩).resolve_left (Nat.not_lt.mpr hfull)

/-- The dead incarnations of a run consume no capacity exactly when none of its
states has a full table that the dead ones help to fill. -/
theorem capacity_spared_iff (file : Option Bytes) (options : RackFabricOptions)
    (operations : List Operation) :
    Execution.Always step SparesCapacity (start file options) operations ↔
      Execution.Always step HasRoom (start file options) operations :=
  forall_congr' fun _ => forall_congr' fun _ => sparesCapacity_iff _

def single : RackFabricOptions :=
  { Scenario.defaults with limits := { maxConnections := 1 } }

def replacedIncarnation : List Operation :=
  [.mutate Scenario.declareRack, .mutate (Scenario.registerPublisher Scenario.bootA),
    .mutate { mutation := .fencePublisher { coordinatorEpoch := .first
                                            boot := some Scenario.bootA } }]

/-- The only publisher is fenced, and its successor is refused for the limit. -/
theorem fenced_boot_takes_capacity :
    ¬ Execution.Always step SparesCapacity (start none single) replacedIncarnation := by
  intro h
  have hspares := h replacedIncarnation (List.prefix_refl _)
  let request : RegisterPublisherRequest :=
    { rack := some Scenario.rack, worker := some (.ofText (str "worker"))
      boot := some Scenario.bootB, coordinatorEpoch := .first }
  have henrols :
      (Execution.run step (start none single) replacedIncarnation).live.Enrols request
        Scenario.bootB := by
    have hrack : (Execution.run step (start none single) replacedIncarnation).live.rack.any
        (fun rack => rack.id = Scenario.rack && !rack.retired) = true := by decide +kernel
    obtain ⟨rack, hfound, hchecked⟩ := (Option.any_eq_true _ _).mp hrack
    simp only [Bool.and_eq_true, decide_eq_true_eq, Bool.not_eq_true'] at hchecked
    exact {
      worker := rfl
      named := rfl
      label := by simp [request]
      epoch := by decide +kernel
      rack := ⟨rack, hfound, by rw [hchecked.1], hchecked.2⟩
      not_fenced := by decide +kernel
      new := by decide +kernel }
  have hlive := hspares {} request Scenario.bootB henrols (by
    unfold RefusedFull
    decide +kernel)
  revert hlive
  decide +kernel

end Deployment

end RackFabric
