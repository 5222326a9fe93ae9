import RackFabric.Library.Retention
import RackFabric.Properties.Growth
import RackFabric.Properties.Names
import RackFabric.Properties.Saveable

/-! The retained snapshots of a run are the last ones that it published, as it published
them, and no two published snapshots share an identity. -/
namespace RackFabric
open Std RackState Retention

namespace RackState
variable {options : RackFabricOptions} {state after : RackState}

/-- The identity of a snapshot tells its generation, whichever rack it is of. -/
theorem generation_of_snapshotIdText {first second : RackRecord}
    {left right : SnapshotGeneration}
    (h : snapshotIdText first left = snapshotIdText second right) : left = right := by
  have hdecimal := congrArg afterDash h
  unfold snapshotIdText at hdecimal
  rw [afterDash_decimal, afterDash_decimal] at hdecimal
  exact Generation.ext_value (UInt64.toNat_inj.mp (decimal_injective hdecimal))

/-- A step publishes nothing and leaves the table, or retains what it publishes. -/
theorem retention_step (state : RackState) (input : Input) :
    (published options state input = none ∧
      (step options state input).retention = state.retention) ∨
    ∃ snapshot publisher, published options state input = some snapshot ∧
      admitSnapshot state publisher input.now = .ok snapshot ∧
      (step options state input).retention = (retainSnapshot options state snapshot).retention := by
  by_cases hsnapshot : ∃ request, input.mutation = .publishSnapshot request
  · obtain ⟨now, mutation⟩ := input
    obtain ⟨request, rfl⟩ := hsnapshot
    simp only [published, step, perform, publishSnapshot]
    cases hauthority : state.checkAuthority request.authority true with
    | error refusal => exact Or.inl ⟨rfl, rfl⟩
    | ok publisher =>
      cases hadmitted : admitSnapshot state publisher now with
      | error refusal =>
        simp only [hadmitted]
        exact Or.inl ⟨trivial, rfl⟩
      | ok snapshot =>
        simp only [hadmitted]
        exact Or.inr ⟨snapshot, publisher, rfl, hadmitted, retention_advancePublication _⟩
  · have hother : ∀ request, input.mutation ≠ .publishSnapshot request :=
      fun request heq => hsnapshot ⟨request, heq⟩
    have hnone : published options state input = none := by
      unfold published
      split
      · rename_i request heq
        exact absurd heq (hother request)
      · rfl
    rcases retention_transition (perform_transition state input) with
      hsame | ⟨request, -, -, -, heq, -⟩
    · exact Or.inl ⟨hnone, hsame⟩
    · exact absurd heq (hother request)

def publications (options : RackFabricOptions) : RackState → List Input → List RackSnapshot
  | _, [] => []
  | state, input :: inputs =>
      (published options state input).toList ++
        publications options (step options state input) inputs

theorem publications_concat (state : RackState) (inputs : List Input) (input : Input) :
    publications options state (inputs ++ [input]) =
      publications options state inputs ++
        (published options (Execution.run (step options) state inputs) input).toList := by
  induction inputs generalizing state with
  | nil => simp [publications]
  | cons head inputs ih =>
    rw [List.cons_append, publications, ih, Execution.run_cons, publications, List.append_assoc]

def snapshotNumber (generation : SnapshotGeneration) : Nat := generation.value.toNat

theorem compare_lt_iff_number (left right : SnapshotGeneration) :
    compare left right = .lt ↔ snapshotNumber left < snapshotNumber right := by
  change compareOfLessAndEq left.value right.value = .lt ↔ left.value.toNat < right.value.toNat
  rw [← UInt64.lt_iff_toNat_lt, compareOfLessAndEq]
  split
  · rename_i hlt
    exact iff_of_true rfl hlt
  · rename_i hnot
    refine iff_of_false ?_ hnot
    split <;> exact fun h => by cases h

/-- The state retains the last snapshots of the history, each named after its generation. -/
structure Retains (options : RackFabricOptions) (state : RackState)
    (history : List RackSnapshot) : Prop where
  published : snapshotNumber state.snapshotGeneration = history.length
  kept : Keeps snapshotNumber RackSnapshot.generation options.limits.maxRetainedSnapshots
    state.snapshots history
  named : ∀ snapshot ∈ history, ∃ rack : RackRecord,
    snapshot.id.value = snapshotIdText rack snapshot.generation

theorem retains_fresh (options : RackFabricOptions) : Retains options (fresh options) [] where
  published := rfl
  kept := keeps_empty
  named := by simp

theorem snapshots_retainSnapshot (snapshot : RackSnapshot) :
    (retainSnapshot options state snapshot).snapshots =
      retain options.limits.maxRetainedSnapshots state.snapshots snapshot.generation snapshot := by
  unfold retainSnapshot retain evict
  dsimp only
  cases state.snapshots.minKey? <;> rfl

theorem Retains.publish {history : List RackSnapshot} (h : Retains options state history)
    (hlimit : 1 ≤ options.limits.maxRetainedSnapshots) {publisher : Option PublisherRef}
    {now : Timestamp} {snapshot : RackSnapshot}
    (hadmitted : admitSnapshot state publisher now = .ok snapshot) :
    Retains options (retainSnapshot options state snapshot) (history ++ [snapshot]) := by
  obtain ⟨rack, id, -, hnext, -⟩ := admitSnapshot_ok hadmitted
  obtain ⟨named, -, htext⟩ := admitSnapshot_text hadmitted
  rw [Generation.advance_eq_next] at hnext
  have hnumber : snapshotNumber snapshot.generation = history.length + 1 := by
    rw [← h.published]
    exact Generation.toNat_of_next hnext
  constructor
  · rw [List.length_append]
    exact hnumber
  · rw [snapshots_retainSnapshot]
    exact h.kept.retain compare_lt_iff_number hlimit hnumber
  · intro found hfound
    rcases List.mem_append.mp hfound with hold | hnew
    · exact h.named found hold
    · obtain rfl := List.mem_singleton.mp hnew
      exact ⟨named, htext⟩

theorem Retains.of_retention {history : List RackSnapshot} (h : Retains options state history)
    (hsame : after.retention = state.retention) : Retains options after history := by
  obtain ⟨hsnapshots, hgeneration⟩ := Prod.mk.inj hsame
  constructor
  · rw [hgeneration]
    exact h.published
  · rw [hsnapshots]
    exact h.kept
  · exact h.named

theorem retains_run (options : RackFabricOptions)
    (hlimit : 1 ≤ options.limits.maxRetainedSnapshots) (inputs : List Input) :
    Retains options (Execution.run (step options) (fresh options) inputs)
      (publications options (fresh options) inputs) := by
  induction inputs using List.reverseRecOn with
  | nil => exact retains_fresh options
  | append_singleton inputs input ih =>
    rw [Execution.run_concat, publications_concat]
    rcases @retention_step options (Execution.run (step options) (fresh options) inputs) input with
      ⟨hnone, hsame⟩ | ⟨snapshot, publisher, hpublished, hadmitted, hretention⟩
    · rw [hnone, Option.toList_none, List.append_nil]
      exact ih.of_retention hsame
    · rw [hpublished, Option.toList_some]
      exact (ih.publish hlimit hadmitted).of_retention hretention

/-- Snapshots of one history are of different generations, so of different identities. -/
theorem Retains.nodup_ids {history : List RackSnapshot} (h : Retains options state history) :
    (history.map RackSnapshot.id).Nodup := by
  rw [List.nodup_iff_getElem?_ne_getElem?]
  intro i j hlt hlength hsame
  rw [List.length_map] at hlength
  rw [List.getElem?_map, List.getElem?_map, List.getElem?_eq_getElem (by omega),
    List.getElem?_eq_getElem hlength, Option.map_some, Option.map_some] at hsame
  obtain ⟨first, hfirst⟩ := h.named _ (List.getElem_mem (by omega : i < history.length))
  obtain ⟨second, hsecond⟩ := h.named _ (List.getElem_mem hlength)
  have hid := Option.some.inj hsame
  rw [hid] at hfirst
  have hgeneration := generation_of_snapshotIdText (hfirst.symm.trans hsecond)
  have hi := h.kept.numbered _ _ (List.getElem?_eq_getElem (by omega : i < history.length))
  have hj := h.kept.numbered _ _ (List.getElem?_eq_getElem hlength)
  rw [hgeneration] at hi
  omega

/-- Whatever else a run does, it retains the last snapshots that it published, each under
its own generation and as it was published. -/
theorem retention_exact (options : RackFabricOptions)
    (hlimit : 1 ≤ options.limits.maxRetainedSnapshots) (inputs : List Input) :
    let history := publications options (fresh options) inputs
    let last := recent options.limits.maxRetainedSnapshots history
    (Execution.run (step options) (fresh options) inputs).snapshots.toList =
        last.map (fun snapshot => (snapshot.generation, snapshot)) ∧
      last.length = min history.length options.limits.maxRetainedSnapshots ∧
      (history.map RackSnapshot.id).Nodup := by
  have hretains := retains_run options hlimit inputs
  exact ⟨hretains.kept.toList_eq compare_lt_iff_number, length_recent _ _, hretains.nodup_ids⟩

def twoRetained : RackFabricOptions :=
  { Scenario.defaults with limits := { Scenario.defaults.limits with maxRetainedSnapshots := 2 } }

/-- A third snapshot sends the first one away. -/
def threeSnapshots : List Input :=
  [Scenario.declareRack, publishSnapshotInput, publishSnapshotInput, publishSnapshotInput]

theorem two_of_three_retained :
    1 ≤ twoRetained.limits.maxRetainedSnapshots ∧
      let history := publications twoRetained (fresh twoRetained) threeSnapshots
      let last := recent twoRetained.limits.maxRetainedSnapshots history
      (Execution.run (step twoRetained) (fresh twoRetained) threeSnapshots).snapshots.toList =
          last.map (fun snapshot => (snapshot.generation, snapshot)) ∧
        last.length = min history.length twoRetained.limits.maxRetainedSnapshots ∧
        (history.map RackSnapshot.id).Nodup :=
  ⟨by decide, retention_exact twoRetained (by decide) threeSnapshots⟩

example : (publications twoRetained (fresh twoRetained) threeSnapshots).map
    (·.generation.value) = [1, 2, 3] := by
  decide +kernel

end RackState

end RackFabric
