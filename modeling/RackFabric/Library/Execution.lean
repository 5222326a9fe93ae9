import Mathlib.Data.List.Induction
import Mathlib.Data.List.Infix
import Mathlib.Tactic.Common

/-! Runs of a deterministic machine whose steps take an input. Properties of a
run are stated over its prefixes, so they speak of every state it visits. -/
namespace Execution

variable {σ α : Type} (step : σ → α → σ)

def run (state : σ) (inputs : List α) : σ :=
  inputs.foldl step state

/-- The property holds in every state of the run, its first and last included. -/
def Always (holds : σ → Prop) (state : σ) (inputs : List α) : Prop :=
  ∀ before, before <+: inputs → holds (run step state before)

/-- The condition holds of every input at the state that receives it. -/
def EachStep (condition : σ → α → Prop) (state : σ) (inputs : List α) : Prop :=
  ∀ before input, before ++ [input] <+: inputs → condition (run step state before) input

def Permanent (holds : σ → Prop) (state : σ) (inputs : List α) : Prop :=
  ∀ before between, before ++ between <+: inputs →
    holds (run step state before) → holds (run step state (before ++ between))

def Ordered (relates : σ → σ → Prop) (state : σ) (inputs : List α) : Prop :=
  ∀ before between, before ++ between <+: inputs →
    relates (run step state before) (run step state (before ++ between))

def AtMostOnce (event : σ → α → Prop) (state : σ) (inputs : List α) : Prop :=
  ∀ before first between second, before ++ [first] ++ between ++ [second] <+: inputs →
    event (run step state before) first →
      ¬ event (run step state (before ++ [first] ++ between)) second

@[simp] theorem run_nil (state : σ) : run step state [] = state := rfl

@[simp] theorem run_cons (state : σ) (input : α) (inputs : List α) :
    run step state (input :: inputs) = run step (step state input) inputs := rfl

theorem run_append (state : σ) (left right : List α) :
    run step state (left ++ right) = run step (run step state left) right := by
  simp [run]

@[simp] theorem run_concat (state : σ) (inputs : List α) (input : α) :
    run step state (inputs ++ [input]) = step (run step state inputs) input := by
  simp [run]

theorem always_nil (holds : σ → Prop) (state : σ) :
    Always step holds state [] ↔ holds state := by
  simp [Always]

theorem always_cons (holds : σ → Prop) (state : σ) (input : α) (inputs : List α) :
    Always step holds state (input :: inputs) ↔
      holds state ∧ Always step holds (step state input) inputs := by
  constructor
  · intro h
    refine ⟨h [] List.nil_prefix, fun before hbefore => ?_⟩
    exact h (input :: before) (by simpa using hbefore)
  · rintro ⟨hnow, hlater⟩ before hbefore
    cases before with
    | nil => exact hnow
    | cons first before =>
      obtain ⟨rfl, hrest⟩ := List.cons_prefix_cons.mp hbefore
      exact hlater before hrest

instance {holds : σ → Prop} [DecidablePred holds] (state : σ) (inputs : List α) :
    Decidable (Always step holds state inputs) :=
  decidable_of_iff (∀ before ∈ inputs.inits, holds (run step state before)) (by simp [Always])

theorem eachStep_nil (condition : σ → α → Prop) (state : σ) :
    EachStep step condition state [] := by
  intro before input h
  simp at h

theorem eachStep_cons (condition : σ → α → Prop) (state : σ) (input : α) (inputs : List α) :
    EachStep step condition state (input :: inputs) ↔
      condition state input ∧ EachStep step condition (step state input) inputs := by
  constructor
  · intro h
    refine ⟨h [] input (by simp), fun before next hbefore => ?_⟩
    exact h (input :: before) next (by simpa using hbefore)
  · rintro ⟨hnow, hlater⟩ before next hbefore
    cases before with
    | nil =>
      obtain rfl : next = input := (List.cons_prefix_cons.mp hbefore).1
      exact hnow
    | cons first before =>
      obtain ⟨rfl, hrest⟩ := List.cons_prefix_cons.mp hbefore
      exact hlater before next hrest

/-- An invariant that every step preserves holds along the run. -/
theorem invariant {holds : σ → Prop} (hstep : ∀ state input, holds state → holds (step state input))
    {state : σ} (h : holds state) (inputs : List α) : holds (run step state inputs) := by
  induction inputs generalizing state with
  | nil => exact h
  | cons input inputs ih => exact ih (hstep state input h)

/-- What the steps that meet the condition preserve holds along a run of such steps. -/
theorem invariant_of_eachStep {holds : σ → Prop} {condition : σ → α → Prop}
    (hstep : ∀ state input, holds state → condition state input → holds (step state input))
    {state : σ} (h : holds state) (inputs : List α)
    (hmet : EachStep step condition state inputs) : holds (run step state inputs) := by
  induction inputs generalizing state with
  | nil => exact h
  | cons input inputs ih =>
    rw [eachStep_cons] at hmet
    exact ih (hstep state input h hmet.1) hmet.2

/-- When an admissible step keeps the property exactly under its condition, a run of
such steps keeps it throughout exactly when each of them meets the condition. -/
theorem always_iff_eachStep_of (known : σ → Prop) {holds : σ → Prop}
    {admissible condition : σ → α → Prop}
    (hknown : ∀ state input, known state → known (step state input))
    (hexact : ∀ state input, known state → admissible state input → holds state →
      (holds (step state input) ↔ condition state input))
    {state : σ} (h : known state) (hstart : holds state) (inputs : List α)
    (hadmissible : EachStep step admissible state inputs) :
    Always step holds state inputs ↔ EachStep step condition state inputs := by
  induction inputs generalizing state with
  | nil => simp [always_nil, eachStep_nil, hstart]
  | cons input inputs ih =>
    rw [eachStep_cons] at hadmissible
    rw [always_cons, eachStep_cons]
    have hiff := hexact state input h hadmissible.1 hstart
    constructor
    · rintro ⟨-, hlater⟩
      have hnext : holds (step state input) := hlater [] List.nil_prefix
      exact ⟨hiff.mp hnext, (ih (hknown _ _ h) hnext hadmissible.2).mp hlater⟩
    · rintro ⟨hnow, hlater⟩
      have hnext := hiff.mpr hnow
      exact ⟨hstart, (ih (hknown _ _ h) hnext hadmissible.2).mpr hlater⟩

theorem always_iff_eachStep (known : σ → Prop) {holds : σ → Prop} {condition : σ → α → Prop}
    (hknown : ∀ state input, known state → known (step state input))
    (hexact : ∀ state input, known state → holds state →
      (holds (step state input) ↔ condition state input))
    {state : σ} (h : known state) (hstart : holds state) (inputs : List α) :
    Always step holds state inputs ↔ EachStep step condition state inputs := by
  have hevery : EachStep step (fun _ _ => True) state inputs := fun _ _ _ => trivial
  exact always_iff_eachStep_of step known hknown
    (fun state input hstate _ => hexact state input hstate) h hstart inputs hevery

/-- Two conditions that agree wherever the invariant holds, which the steps that meet the
first of them keep, are met by the same runs. -/
theorem eachStep_iff_of_invariant (known : σ → Prop) {condition condition' : σ → α → Prop}
    (hiff : ∀ state input, known state → (condition state input ↔ condition' state input))
    (hknown : ∀ state input, known state → condition state input → known (step state input))
    {state : σ} (h : known state) (inputs : List α) :
    EachStep step condition state inputs ↔ EachStep step condition' state inputs := by
  induction inputs generalizing state with
  | nil => simp [eachStep_nil]
  | cons input inputs ih =>
    rw [eachStep_cons, eachStep_cons]
    constructor
    · rintro ⟨hnow, hlater⟩
      exact ⟨(hiff state input h).mp hnow, (ih (hknown state input h hnow)).mp hlater⟩
    · rintro ⟨hnow, hlater⟩
      have hmet := (hiff state input h).mpr hnow
      exact ⟨hmet, (ih (hknown state input h hmet)).mpr hlater⟩

def outputs {β : Type} (emit : σ → α → List β) : σ → List α → List β
  | _, [] => []
  | state, input :: inputs => emit state input ++ outputs emit (step state input) inputs

section Outputs
variable {β : Type} (emit : σ → α → List β)

theorem outputs_append (state : σ) (left right : List α) :
    outputs step emit state (left ++ right) =
      outputs step emit state left ++ outputs step emit (run step state left) right := by
  induction left generalizing state with
  | nil => rfl
  | cons input left ih =>
    simp only [List.cons_append, outputs, ih, List.append_assoc, run_cons]

theorem outputs_concat (state : σ) (inputs : List α) (input : α) :
    outputs step emit state (inputs ++ [input]) =
      outputs step emit state inputs ++ emit (run step state inputs) input := by
  rw [outputs_append, outputs, outputs, List.append_nil]

theorem mem_outputs_iff {state : σ} {inputs : List α} {output : β} :
    output ∈ outputs step emit state inputs ↔
      ∃ before input, before ++ [input] <+: inputs ∧ output ∈ emit (run step state before) input := by
  constructor
  · intro hmem
    induction inputs using List.reverseRecOn with
    | nil => cases hmem
    | append_singleton inputs input ih =>
      rw [outputs_concat, List.mem_append] at hmem
      rcases hmem with hearlier | hnow
      · obtain ⟨before, other, hbefore, hother⟩ := ih hearlier
        exact ⟨before, other, hbefore.trans (List.prefix_append _ _), hother⟩
      · exact ⟨inputs, input, List.prefix_refl _, hnow⟩
  · rintro ⟨before, input, ⟨later, rfl⟩, hmem⟩
    rw [outputs_append, outputs_concat]
    exact List.mem_append_left _ (List.mem_append_right _ hmem)

end Outputs

def occurrences (condition : σ → α → Bool) (state : σ) (inputs : List α) : Nat :=
  (outputs step (fun state input => if condition state input then [input] else []) state
    inputs).length

@[simp] theorem occurrences_nil (condition : σ → α → Bool) (state : σ) :
    occurrences step condition state [] = 0 := rfl

theorem occurrences_concat (condition : σ → α → Bool) (state : σ) (inputs : List α) (input : α) :
    occurrences step condition state (inputs ++ [input]) =
      occurrences step condition state inputs + (condition (run step state inputs) input).toNat := by
  unfold occurrences
  rw [outputs_concat, List.length_append]
  cases condition (run step state inputs) input <;> rfl

/-- For a preorder it is enough to compare each state with the next one. -/
theorem ordered_iff_eachStep (relates : σ → σ → Prop) (hrefl : ∀ state, relates state state)
    (htrans : ∀ {first second third}, relates first second → relates second third →
      relates first third)
    (state : σ) (inputs : List α) :
    Ordered step relates state inputs ↔
      EachStep step (fun state input => relates state (step state input)) state inputs := by
  constructor
  · intro h before input hbefore
    simpa using h before [input] hbefore
  · intro h before between hbefore
    induction between using List.reverseRecOn with
    | nil => simpa using hrefl _
    | append_singleton between input ih =>
      rw [← List.append_assoc] at hbefore ⊢
      rw [run_concat]
      exact htrans (ih ((List.prefix_append _ _).trans hbefore)) (h _ _ hbefore)

theorem permanent_iff_eachStep (holds : σ → Prop) (state : σ) (inputs : List α) :
    Permanent step holds state inputs ↔
      EachStep step (fun state input => holds state → holds (step state input)) state inputs :=
  ordered_iff_eachStep step (fun now later => holds now → holds later) (fun _ h => h)
    (fun hfirst hsecond h => hsecond (hfirst h)) state inputs

/-- An event that passes a point of no return happens once. -/
theorem atMostOnce_of_passed {event : σ → α → Prop} (passed : σ → Prop) {state : σ}
    {inputs : List α}
    (hpass : EachStep step (fun state input => event state input → passed (step state input))
      state inputs)
    (hkeep : Permanent step passed state inputs)
    (hblock : EachStep step (fun state input => event state input → ¬ passed state)
      state inputs) :
    AtMostOnce step event state inputs := by
  intro before first between second hinitial hfirst hsecond
  have hbetween := (List.prefix_append _ [second]).trans hinitial
  have hpassed := hpass before first ((List.prefix_append _ between).trans hbetween) hfirst
  rw [← run_concat step] at hpassed
  exact hblock _ second hinitial hsecond (hkeep _ between hbetween hpassed)

theorem eachStep_forall {ι : Type} (condition : ι → σ → α → Prop) (state : σ) (inputs : List α) :
    (∀ index, EachStep step (condition index) state inputs) ↔
      EachStep step (fun state input => ∀ index, condition index state input) state inputs :=
  ⟨fun h before input hbefore index => h index before input hbefore,
    fun h index before input hbefore => h before input hbefore index⟩

theorem eachStep_congr {condition condition' : σ → α → Prop} {state : σ} {inputs : List α}
    (h : ∀ before input, before ++ [input] <+: inputs →
      (condition (run step state before) input ↔ condition' (run step state before) input)) :
    EachStep step condition state inputs ↔ EachStep step condition' state inputs :=
  ⟨fun hall before input hbefore => (h before input hbefore).mp (hall before input hbefore),
    fun hall before input hbefore => (h before input hbefore).mpr (hall before input hbefore)⟩

/-- An operation that decides on the state, and then acts on its decision alone. -/
structure Operation (σ δ : Type) where
  choose : σ → δ
  act : δ → σ → σ

def Operation.enact {δ : Type} (operation : Operation σ δ) (state : σ) : σ :=
  operation.act (operation.choose state) state

/-- Neither decision depends on the other operation having run. -/
structure Independent {δ ε : Type} (first : Operation σ δ) (second : Operation σ ε) (state : σ) :
    Prop where
  left : first.choose (second.enact state) = first.choose state
  right : second.choose (first.enact state) = second.choose state

/-- Independent operations commute where what they decided to do commutes. -/
theorem Independent.enact_comm {δ ε : Type} {first : Operation σ δ} {second : Operation σ ε}
    {state : σ} (h : Independent first second state)
    (hact : second.act (second.choose state) (first.act (first.choose state) state) =
      first.act (first.choose state) (second.act (second.choose state) state)) :
    second.enact (first.enact state) = first.enact (second.enact state) := by
  have hleft : first.enact (second.enact state) =
      first.act (first.choose state) (second.enact state) := by
    rw [Operation.enact, h.left]
  have hright : second.enact (first.enact state) =
      second.act (second.choose state) (first.enact state) := by
    rw [Operation.enact, h.right]
  rw [hleft, hright]
  exact hact

end Execution
