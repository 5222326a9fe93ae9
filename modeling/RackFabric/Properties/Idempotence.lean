import RackFabric.Properties.Recovery

/-! A fence that is repeated changes nothing, as long as the publisher of every
fenced boot is marked as fenced. -/
namespace RackFabric
open Std RackState Tables

namespace RackState
variable {options : RackFabricOptions} {state : RackState}

def FencesOnce (state : RackState) : Prop :=
  ∀ boot ∈ state.fencedBoots, ∀ now (request : FencePublisherRequest),
    request.boot = some boot → request.coordinatorEpoch = state.generations.coordinatorEpoch →
      (state.fencePublisher now request).2.outcome = .noChange ∧
        (state.fencePublisher now request).1 = state

def MarksFenced (state : RackState) : Prop :=
  ∀ boot record, boot ∈ state.fencedBoots → state.publishers[boot]? = some record →
    record.state = .fenced

theorem fencePublisher_of_unmarked {boot : AgentBootId} {record : PublisherRecord}
    {request : FencePublisherRequest} (now : Timestamp) (hboot : request.boot = some boot)
    (hepoch : request.coordinatorEpoch = state.generations.coordinatorEpoch)
    (hfound : state.publishers[boot]? = some record) (hstate : record.state ≠ .fenced) :
    state.fencePublisher now request =
      (state.commitFence boot record request.reason now).accept "PUBLISHER_FENCED" boot.value := by
  simp [fencePublisher, admitFence, hboot, hepoch, hfound, hstate, require, refuseIf, bind,
    Except.bind, pure, Except.pure]

theorem fencePublisher_of_marked {boot : AgentBootId} {request : FencePublisherRequest}
    (now : Timestamp) (hboot : request.boot = some boot)
    (hepoch : request.coordinatorEpoch = state.generations.coordinatorEpoch)
    (hfenced : boot ∈ state.fencedBoots)
    (hmarked : ∀ record, state.publishers[boot]? = some record → record.state = .fenced) :
    state.fencePublisher now request =
      state.refuse (.unchanged "PUBLISHER_ALREADY_FENCED" boot.value) := by
  cases hfound : state.publishers[boot]? with
  | none =>
    simp [fencePublisher, admitFence, hboot, hepoch, hfound, hfenced, require, refuseIf, bind,
      Except.bind]
  | some record =>
    simp [fencePublisher, admitFence, hboot, hepoch, hfound, hmarked record hfound, require,
      refuseIf, bind, Except.bind]

theorem fencesOnce_iff : state.FencesOnce ↔ state.MarksFenced := by
  constructor
  · intro honce boot record hboot hfound
    by_contra hstate
    let request : FencePublisherRequest :=
      { coordinatorEpoch := state.generations.coordinatorEpoch, boot := some boot }
    have hunchanged := (honce boot hboot {} request rfl rfl).1
    rw [fencePublisher_of_unmarked {} rfl rfl hfound hstate] at hunchanged
    cases hunchanged
  · intro hmarked boot hboot now request hnamed hepoch
    rw [fencePublisher_of_marked now hnamed hepoch hboot fun record => hmarked boot record hboot]
    exact ⟨rfl, rfl⟩

theorem Settles.marksFenced {before after : RackState} (h : Settles before after)
    (hbefore : before.MarksFenced) : after.MarksFenced := by
  intro boot record hboot hfound
  rcases h.settled hboot hfound with hfenced | ⟨hold, old, hrecord, hsame⟩
  · exact hfenced
  · exact hsame.trans (hbefore boot old hold hrecord)

theorem mem_publishers_advancePublication {boot : AgentBootId} (publisher : Option PublisherRef) :
    boot ∈ (state.advancePublication publisher).publishers ↔ boot ∈ state.publishers := by
  cases publisher with
  | none => rfl
  | some found => exact ExtTreeMap.mem_modify

/-- The retirement of the rack leaves no publisher marked as fenced. -/
theorem unmarked_of_retirement {rack : RackRecord} {next : RackGeneration} {now : Timestamp}
    {publisher : Option PublisherRef} {boot : AgentBootId} {record : PublisherRecord}
    (hfound : ((state.commitRackRetirement rack next now).advancePublication
      publisher).publishers[boot]? = some record) : record.state ≠ .fenced := by
  have hlost : ∀ record, (state.commitRackRetirement rack next now).publishers[boot]? =
      some record → record.state = .lost := by
    intro record hrecord
    obtain ⟨old, -, rfl⟩ := getElem?_map_cases hrecord
    rfl
  cases publisher with
  | none => simp [hlost record hfound]
  | some found =>
    simp only [advancePublication, ExtTreeMap.getElem?_modify] at hfound
    split at hfound
    · obtain ⟨old, -, rfl⟩ := Option.map_eq_some_iff.mp hfound
      exact PublisherState.noConfusion
    · simp [hlost record hfound]

/-- It fences every publisher all the same. -/
theorem marksFenced_retirement_iff {rack : RackRecord} {next : RackGeneration} {now : Timestamp}
    (publisher : Option PublisherRef) :
    ((state.commitRackRetirement rack next now).advancePublication publisher).MarksFenced ↔
      state.publishers = ∅ := by
  rw [ExtTreeMap.eq_empty_iff_forall_not_mem]
  have hmem : ∀ boot, boot ∈ ((state.commitRackRetirement rack next now).advancePublication
      publisher).publishers ↔ boot ∈ state.publishers := by
    intro boot
    rw [mem_publishers_advancePublication]
    exact ExtTreeMap.mem_map
  constructor
  · intro hmarked boot hboot
    obtain ⟨record, hfound⟩ := Option.isSome_iff_exists.mp
      (ExtTreeMap.mem_iff_isSome_getElem?.mp ((hmem boot).mpr hboot))
    refine unmarked_of_retirement hfound (hmarked boot record ?_ hfound)
    rw [fencedBoots_advancePublication, fenced_of_retirement]
    exact Or.inl hboot
  · intro hnone boot record _ hfound
    refine absurd ((hmem boot).mp ?_) (hnone boot)
    simp [ExtTreeMap.mem_iff_isSome_getElem?, hfound]

/-- A retirement of the rack finds no publisher. -/
def RetiresAlone (state : RackState) : Mutation → Prop
  | .retireRack request =>
      (∃ admitted, admitRackRetirement state request = .ok admitted) → state.publishers = ∅
  | _ => True

theorem step_marksFenced_iff (state : RackState) (input : Input) (h : state.MarksFenced) :
    (step options state input).MarksFenced ↔ state.RetiresAlone input.mutation := by
  obtain ⟨now, mutation⟩ := input
  cases mutation with
  | retireRack request =>
    simp only [step, perform, retireRack, RetiresAlone]
    cases hadmitted : admitRackRetirement state request with
    | error refusal => simpa [refuse] using h
    | ok admitted =>
      rw [forall_prop_of_true ⟨_, rfl⟩]
      exact marksFenced_retirement_iff admitted.2.1
  | _ =>
    exact iff_of_true ((step_settles state _ fun _ heq => by cases heq).marksFenced h) trivial

end RackState

namespace Deployment

/-- The retirement of the rack finds no publisher, and a file that is loaded holds
no fenced boot among its publishers. -/
def KeepsMarks (deployment : Deployment) : Operation → Prop
  | .mutate input => deployment.live.RetiresAlone input.mutation
  | .load now readable =>
      ∀ loaded, loadState deployment.options now deployment.file readable = .ok loaded →
        ∀ boot ∈ loaded.fencedBoots, boot ∉ loaded.publishers
  | _ => True

/-- Every publisher that is recovered is lost. -/
theorem marksFenced_loaded_iff {options : RackFabricOptions} {now : Timestamp}
    {file : Option Bytes} {readable : Bool} {loaded : RackState}
    (h : loadState options now file readable = .ok loaded) :
    loaded.MarksFenced ↔ ∀ boot ∈ loaded.fencedBoots, boot ∉ loaded.publishers := by
  obtain ⟨candidate, epoch, -, -, -, rfl⟩ := loadState_ok h
  constructor
  · intro hmarked boot hboot hmem
    obtain ⟨record, hfound⟩ := Option.isSome_iff_exists.mp
      (ExtTreeMap.mem_iff_isSome_getElem?.mp hmem)
    have hfenced := hmarked boot record hboot hfound
    obtain ⟨old, -, rfl⟩ := getElem?_map_cases hfound
    cases hfenced
  · intro hapart boot record hboot hfound
    refine absurd ?_ (hapart boot hboot)
    simp [ExtTreeMap.mem_iff_isSome_getElem?, hfound]

theorem step_marksFenced_iff (deployment : Deployment) (operation : Operation)
    (h : deployment.live.MarksFenced) :
    (deployment.step operation).live.MarksFenced ↔ deployment.KeepsMarks operation := by
  cases operation with
  | restart options =>
    refine iff_of_true (fun boot record hboot => ?_) trivial
    simp [step, start, RackState.fresh] at hboot
  | mutate input => exact RackState.step_marksFenced_iff deployment.live input h
  | save options outcome =>
    refine iff_of_true ?_ trivial
    simp only [step]
    split <;> exact h
  | load now readable =>
    simp only [step, KeepsMarks]
    cases hloaded : loadState deployment.options now deployment.file readable with
    | error failure => simpa using h
    | ok loaded => simpa using marksFenced_loaded_iff hloaded

/-- Fencing is idempotent in every state of a run exactly when no step of it leaves
a fenced boot with a publisher that is not marked as fenced. -/
theorem fencing_idempotent_iff (file : Option Bytes) (options : RackFabricOptions)
    (operations : List Operation) :
    Execution.Always step (fun deployment => deployment.live.FencesOnce) (start file options)
        operations ↔
      Execution.EachStep step KeepsMarks (start file options) operations := by
  have hstart : (start file options).live.MarksFenced := by
    intro boot record hboot
    simp [start, RackState.fresh] at hboot
  simp only [fencesOnce_iff]
  exact Execution.always_iff_eachStep step (fun _ => True) (fun _ _ _ => trivial)
    (fun deployment operation _ h => step_marksFenced_iff deployment operation h) trivial hstart
    operations

def rackRetiredByOperator : List Operation :=
  [.mutate Scenario.declareRack, .mutate (Scenario.registerPublisher Scenario.bootA),
    .mutate { mutation := .retireRack { authority := Scenario.operator } }]

/-- The retirement of the rack fences the boot, and a fence request fences it again. -/
theorem retired_boot_fenced_again :
    ¬ Execution.Always step (fun deployment => deployment.live.FencesOnce)
      (start none Scenario.defaults) rackRetiredByOperator := by
  intro h
  have honce := h rackRetiredByOperator (List.prefix_refl _)
  have hfenced : Scenario.bootA ∈
      (Execution.run step (start none Scenario.defaults) rackRetiredByOperator).live.fencedBoots := by
    decide +kernel
  have hunchanged := (honce Scenario.bootA hfenced {} { coordinatorEpoch := .first
                                                        boot := some Scenario.bootA } rfl
    (by decide +kernel)).1
  revert hunchanged
  decide +kernel

end Deployment

end RackFabric
