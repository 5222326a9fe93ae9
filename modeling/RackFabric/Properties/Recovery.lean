import RackFabric.Model.Deployment
import RackFabric.Properties.Authority
import RackFabric.Properties.StateFile

/-! A load revokes all earlier authority exactly when the file it finds records
every epoch that was in force before. -/
namespace RackFabric
open Std RackState

namespace RackState
variable {options : RackFabricOptions} {state : RackState}

/-! No mutation changes the coordinator epoch. -/

theorem epoch_admitted {now : Timestamp} {publisher : Option PublisherRef} {mutation : Mutation}
    {committed : RackState} (h : Admitted options state now publisher mutation committed) :
    committed.generations.coordinatorEpoch = state.generations.coordinatorEpoch := by
  cases h <;> rfl

theorem epoch_fencePublisher (now : Timestamp) (request : FencePublisherRequest) :
    (state.fencePublisher now request).1.generations.coordinatorEpoch =
      state.generations.coordinatorEpoch := by
  unfold fencePublisher
  split <;> rfl

theorem epoch_transition {now : Timestamp} {mutation : Mutation} {after : RackState}
    {outcome : Option MutationOutcome}
    (h : Transition options state now mutation after outcome) :
    after.generations.coordinatorEpoch = state.generations.coordinatorEpoch := by
  cases h with
  | noted refusal => rw [generations_noteRefusal]
  | committed htoken hauthority hadmitted =>
    rw [generations_advancePublication]
    exact epoch_admitted hadmitted
  | stopped => rw [generations_noteRefusal]
  | expired later =>
    have hfence : ∀ (before : RackState) now request,
        before.generations.coordinatorEpoch = state.generations.coordinatorEpoch →
          (before.fencePublisher now request).1.generations.coordinatorEpoch =
            state.generations.coordinatorEpoch := by
      intro before now request hsame
      rw [epoch_fencePublisher, hsame]
    exact expirePublishers_induction hfence rfl later
  | _ => rfl

theorem epoch_step (state : RackState) (input : Input) :
    (step options state input).generations.coordinatorEpoch =
      state.generations.coordinatorEpoch :=
  epoch_transition (perform_transition state input)

theorem epoch_run (state : RackState) (inputs : List Input) :
    (Execution.run (step options) state inputs).generations.coordinatorEpoch =
      state.generations.coordinatorEpoch := by
  induction inputs generalizing state with
  | nil => rfl
  | cons input inputs ih => rw [Execution.run_cons, ih, epoch_step]

end RackState

/-! What a successful load puts in force. -/

theorem loadState_ok {options : RackFabricOptions} {now : Timestamp} {file : Option Bytes}
    {readable : Bool} {loaded : RackState}
    (h : loadState options now file readable = .ok loaded) :
    ∃ candidate epoch, readCandidate options file readable = .ok candidate ∧
      (candidate.checkInvariants now).ok = true ∧
      candidate.generations.coordinatorEpoch.advance = some epoch ∧
      loaded = applyRecoveryPolicy candidate epoch := by
  unfold loadState at h
  cases hcandidate : readCandidate options file readable with
  | error failure => simp [hcandidate, bind, Except.bind] at h
  | ok candidate =>
    simp only [hcandidate, bind, Except.bind] at h
    split at h
    · cases h
    · rename_i hgate
      cases hepoch : candidate.generations.coordinatorEpoch.advance with
      | none => simp [hepoch] at h
      | some epoch =>
        simp only [hepoch, Except.ok.injEq] at h
        exact ⟨candidate, epoch, rfl, by simpa using hgate, hepoch, h.symm⟩

namespace Deployment

/-- None of the authority that the earlier incarnation accepts survives the load. -/
structure Superseded (earlier : Deployment) (options : RackFabricOptions) (loaded : RackState) :
    Prop where
  epoch_lt : earlier.epoch < loaded.generations.coordinatorEpoch
  refused : ∀ {token : AuthorityToken} {rackScoped : Bool} {publisher : Option PublisherRef},
    earlier.live.checkAuthority token rackScoped = .ok publisher →
      ∀ inputs rackScoped' publisher',
        (Execution.run (RackState.step options) loaded inputs).checkAuthority token rackScoped' ≠
          .ok publisher'

theorem superseded_of_lt {earlier : Deployment} {options : RackFabricOptions} {loaded : RackState}
    (h : earlier.epoch < loaded.generations.coordinatorEpoch) :
    Superseded earlier options loaded where
  epoch_lt := h
  refused := by
    intro token rackScoped publisher hearlier inputs rackScoped' publisher' hlater
    have hold := epoch_of_authorized hearlier
    have hnew := epoch_of_authorized hlater
    rw [epoch_run] at hnew
    rw [epoch, ← hold, hnew] at h
    exact UInt64.lt_irrefl _ h

/-- The new epoch is the successor of the recorded one. -/
theorem lt_loaded_iff {epoch recorded next : CoordinatorEpoch} (h : recorded.advance = some next) :
    epoch < next ↔ ¬ recorded < epoch := by
  rw [Generation.advance_eq_next] at h
  have hnext := Generation.toNat_of_next h
  change epoch.value < next.value ↔ ¬ recorded.value < epoch.value
  rw [UInt64.lt_iff_toNat_lt, UInt64.lt_iff_toNat_lt]
  omega

variable (file : Option Bytes) (options : RackFabricOptions)

def after (operations : List Operation) : Deployment :=
  Execution.run step (start file options) operations

theorem after_concat (operations : List Operation) (operation : Operation) :
    after file options (operations ++ [operation]) =
      step (after file options operations) operation :=
  Execution.run_concat ..

theorem after_mutate (input : Input) :
    after file options [.mutate input] =
      ⟨file, options, (RackState.fresh options).step options input⟩ := rfl

structure Loading (operations before : List Operation) (now : Timestamp) (readable : Bool)
    (candidate loaded : RackState) : Prop where
  occurs : before ++ [.load now readable] <+: operations
  candidate : readCandidate (after file options before).options (after file options before).file
    readable = .ok candidate
  loaded : loadState (after file options before).options now (after file options before).file
    readable = .ok loaded

/-- Recovery revokes all earlier authority in a run exactly when every load that
succeeds in it finds a file written under the latest epoch in force so far. -/
theorem recovery_revokes_iff (operations : List Operation) :
    (∀ before now readable candidate loaded,
      Loading file options operations before now readable candidate loaded →
        (∀ boot ∈ candidate.fencedBoots, boot ∈ loaded.fencedBoots) ∧
          ∀ earlier, earlier <+: before →
            Superseded (after file options earlier) (after file options before).options loaded) ↔
      ∀ before now readable candidate loaded,
        Loading file options operations before now readable candidate loaded →
          ∀ earlier, earlier <+: before →
            ¬ candidate.generations.coordinatorEpoch < (after file options earlier).epoch := by
  refine forall_congr' fun before => forall_congr' fun now => forall_congr' fun readable =>
    forall_congr' fun candidate => forall_congr' fun loaded => forall_congr' fun hloading => ?_
  obtain ⟨found, next, hfound, -, hnext, rfl⟩ := loadState_ok hloading.loaded
  obtain rfl := Except.ok.inj (hloading.candidate.symm.trans hfound)
  have hfenced : ∀ boot ∈ candidate.fencedBoots,
      boot ∈ (applyRecoveryPolicy candidate next).fencedBoots := fun _ hboot => hboot
  rw [and_iff_right hfenced]
  refine forall_congr' fun earlier => forall_congr' fun _ => ?_
  rw [← lt_loaded_iff hnext]
  exact ⟨fun hsuperseded => hsuperseded.epoch_lt, fun hlt => superseded_of_lt hlt⟩

/-- A rack that is saved once and loaded by two incarnations. -/
def restartedTwice : List Operation :=
  [.mutate Scenario.declareRack, .save {} .completed, .restart Scenario.defaults,
    .load ⟨2000⟩ true, .restart Scenario.defaults, .load ⟨3000⟩ true]

def restorableAt (now : Timestamp) (payload : Bytes) : Bool :=
  match decodeStatePayload payload Scenario.defaults.limits with
  | .error _ => false
  | .ok decoded =>
      payload.length = 162 && ((adoptCandidate Scenario.defaults decoded).checkInvariants now).ok &&
        decoded.generations.coordinatorEpoch = .first

theorem load_of_restorable {now : Timestamp} {payload : Bytes}
    (h : restorableAt now payload = true) :
    payload.length = 162 ∧
    ∃ decoded, decodeStatePayload payload Scenario.defaults.limits = .ok decoded ∧
      readCandidate Scenario.defaults (some (encodeFile payload)) true =
        .ok (adoptCandidate Scenario.defaults decoded) ∧
      loadState Scenario.defaults now (some (encodeFile payload)) true =
        .ok (applyRecoveryPolicy (adoptCandidate Scenario.defaults decoded) ⟨2⟩) := by
  unfold restorableAt at h
  cases hdecoded : decodeStatePayload payload Scenario.defaults.limits with
  | error error => simp [hdecoded] at h
  | ok decoded =>
    simp only [hdecoded, Bool.and_eq_true, decide_eq_true_eq] at h
    obtain ⟨⟨hlength, hgate⟩, hepoch⟩ := h
    have hsize : payload.length + 80 ≤ Scenario.defaults.limits.maxPersistedBytes.toNat := by
      rw [hlength]
      decide
    refine ⟨hlength, decoded, rfl, readCandidate_encodeFile hsize hdecoded, ?_⟩
    exact loadState_encodeFile hsize hdecoded hgate (by rw [hepoch]; rfl)

/-- The second incarnation runs under the epoch of the first one. -/
theorem restart_repeats_epoch :
    ¬ ∀ before now readable candidate loaded,
      Loading none Scenario.defaults restartedTwice before now readable candidate loaded →
        (∀ boot ∈ candidate.fencedBoots, boot ∈ loaded.fencedBoots) ∧
          ∀ earlier, earlier <+: before →
            Superseded (after none Scenario.defaults earlier)
              (after none Scenario.defaults before).options loaded := by
  intro h
  have hrestorable : (encodeStatePayload (Scenario.run [Scenario.declareRack])).toOption.any
      (fun payload => restorableAt ⟨2000⟩ payload && restorableAt ⟨3000⟩ payload) = true := by
    decide +kernel
  cases hpayload : encodeStatePayload (Scenario.run [Scenario.declareRack]) with
  | error error => simp [hpayload, Except.toOption] at hrestorable
  | ok payload =>
    simp only [hpayload, Except.toOption, Option.any_some, Bool.and_eq_true] at hrestorable
    obtain ⟨hlength, decoded, hdecoded, hcandidate, hfirst⟩ := load_of_restorable hrestorable.1
    obtain ⟨-, decoded', hdecoded', -, hsecond⟩ := load_of_restorable hrestorable.2
    obtain rfl := Except.ok.inj (hdecoded.symm.trans hdecoded')
    have hbound : ¬ (min ({} : PersistenceOptions).maxBytes
        Scenario.defaults.limits.maxPersistedBytes).toNat < payload.length := by
      rw [hlength]
      decide
    have hsave : saveState (Scenario.run [Scenario.declareRack]) Scenario.defaults.limits {} =
        .ok (encodeFile payload) := by
      simp only [saveState, hpayload, gt_iff_lt, hbound, if_false]
    have hsaved : step ⟨none, Scenario.defaults, Scenario.run [Scenario.declareRack]⟩
        (.save {} .completed) =
          ⟨some (encodeFile payload), Scenario.defaults, Scenario.run [Scenario.declareRack]⟩ := by
      simp only [step, hsave]
      rfl
    have hrestarted : after none Scenario.defaults (restartedTwice.take 3) =
        start (some (encodeFile payload)) Scenario.defaults := by
      rw [show restartedTwice.take 3 =
          [.mutate Scenario.declareRack] ++ [.save {} .completed] ++ [.restart Scenario.defaults]
        from rfl, after_concat, after_concat, after_mutate]
      rw [show (RackState.fresh Scenario.defaults).step Scenario.defaults Scenario.declareRack =
        Scenario.run [Scenario.declareRack] from rfl, hsaved]
      rfl
    have hloaded : after none Scenario.defaults (restartedTwice.take 4) =
        ⟨some (encodeFile payload), Scenario.defaults,
          applyRecoveryPolicy (adoptCandidate Scenario.defaults decoded) ⟨2⟩⟩ := by
      rw [show restartedTwice.take 4 = restartedTwice.take 3 ++ [.load ⟨2000⟩ true] from rfl,
        after_concat, hrestarted]
      simp only [step, start, hfirst]
    have hagain : after none Scenario.defaults (restartedTwice.take 5) =
        start (some (encodeFile payload)) Scenario.defaults := by
      rw [show restartedTwice.take 5 = restartedTwice.take 4 ++ [.restart Scenario.defaults]
        from rfl, after_concat, hloaded]
      rfl
    have hloading : Loading none Scenario.defaults restartedTwice (restartedTwice.take 5) ⟨3000⟩
        true (adoptCandidate Scenario.defaults decoded)
        (applyRecoveryPolicy (adoptCandidate Scenario.defaults decoded) ⟨2⟩) := by
      refine ⟨List.prefix_refl _, ?_, ?_⟩
      · rw [hagain]
        exact hcandidate
      · rw [hagain]
        exact hsecond
    obtain ⟨-, hsuperseded⟩ := h _ _ _ _ _ hloading
    have hlt := (hsuperseded (restartedTwice.take 4) ⟨_, rfl⟩).epoch_lt
    rw [hloaded] at hlt
    exact UInt64.lt_irrefl _ hlt

end Deployment

end RackFabric
