import RackFabric.Library.ByteReader

/-! Runs of a reader, with the events of the parts that it is put together from. -/
namespace ByteReader
open Reader

variable {γ ε α β δ : Type}

def Reader.recoded (f : ε → ε) (reader : Reader γ ε α) : Reader γ ε α := fun config input =>
  match reader config input with
  | .error error => .error (f error)
  | .ok result => .ok result

abbrev Parts (γ ε δ : Type) :=
  (α : Type) → Reader γ ε α → List UInt8 → List δ → Except ε (α × List UInt8) → Prop

/-- A run of a reader. Whatever it takes off the input, it takes through one of the parts. -/
inductive Run (parts : Parts γ ε δ) (config : γ) :
    {α : Type} → Reader γ ε α → List UInt8 → List δ → Except ε (α × List UInt8) → Prop
  | pure {α : Type} {value : α} {input : List UInt8} :
      Run parts config (Pure.pure value) input [] (.ok (value, input))
  | fail {α : Type} {error : ε} {input : List UInt8} :
      Run parts config (Reader.fail error : Reader γ ε α) input [] (.error error)
  | view {α : Type} (part : γ → α) {input : List UInt8} :
      Run parts config (fun config input => .ok (part config, input)) input []
        (.ok (part config, input))
  | part {α : Type} {reader : Reader γ ε α} {input : List UInt8} {events : List δ}
      {outcome : Except ε (α × List UInt8)} (h : parts α reader input events outcome) :
      Run parts config reader input events outcome
  | stop {α β : Type} {reader : Reader γ ε α} {next : α → Reader γ ε β} {input : List UInt8}
      {events : List δ} {error : ε} (h : Run parts config reader input events (.error error)) :
      Run parts config (reader >>= next) input events (.error error)
  | step {α β : Type} {reader : Reader γ ε α} {next : α → Reader γ ε β} {input rest : List UInt8}
      {events later : List δ} {value : α} {outcome : Except ε (β × List UInt8)}
      (h : Run parts config reader input events (.ok (value, rest)))
      (hnext : Run parts config (next value) rest later outcome) :
      Run parts config (reader >>= next) input (events ++ later) outcome
  | recoded {α : Type} {f : ε → ε} {reader : Reader γ ε α} {input : List UInt8}
      {events : List δ} {outcome : Except ε (α × List UInt8)}
      (h : Run parts config reader input events outcome) :
      Run parts config (reader.recoded f) input events (outcome.mapError f)

/-- On every input the reader has a run, to the end that the reader comes to. -/
def Traceable (parts : Parts γ ε δ) (config : γ) (reader : Reader γ ε α) : Prop :=
  ∀ input, ∃ events, Run parts config reader input events (reader config input)

structure Guarded (parts : Parts γ ε δ) (config : γ) (reader : Reader γ ε α)
    (property : α → Prop) : Prop where
  traced : Traceable parts config reader
  ensured : Ensures config reader property

section Runs
variable {parts : Parts γ ε δ} {config : γ} {reader : Reader γ ε α} {next : α → Reader γ ε β}
  {input rest : List UInt8} {events : List δ} {outcome : Except ε (α × List UInt8)}

theorem reader_bind_of_error {error : ε} (h : reader config input = .error error) :
    (reader >>= next) config input = .error error := by
  simp only [bind, h]

theorem reader_bind_of_ok {value : α} (h : reader config input = .ok (value, rest)) :
    (reader >>= next) config input = next value config rest := by
  simp only [bind, h]

theorem recoded_eq_mapError (f : ε → ε) :
    reader.recoded f config input = (reader config input).mapError f := by
  unfold Reader.recoded
  cases reader config input <;> rfl

/-- A run ends as the reader does. -/
theorem Run.outcome_eq
    (hparts : ∀ {α : Type} {reader : Reader γ ε α} {input events outcome},
      parts α reader input events outcome → reader config input = outcome)
    (h : Run parts config reader input events outcome) : reader config input = outcome := by
  induction h with
  | pure => rfl
  | fail => rfl
  | view => rfl
  | part h => exact hparts h
  | stop _ ih => exact reader_bind_of_error ih
  | step _ _ ih ihnext => rw [reader_bind_of_ok ih, ihnext]
  | recoded _ ih => rw [recoded_eq_mapError, ih]

/-- What the events of the parts have in common, the events of a run have. -/
theorem Run.forall_events {property : δ → Prop}
    (hparts : ∀ {α : Type} {reader : Reader γ ε α} {input events outcome},
      parts α reader input events outcome → ∀ event ∈ events, property event)
    (h : Run parts config reader input events outcome) : ∀ event ∈ events, property event := by
  induction h with
  | pure => simp
  | fail => simp
  | view => simp
  | part h => exact hparts h
  | stop _ ih => exact ih
  | step _ _ ih ihnext => exact List.forall_mem_append.mpr ⟨ih, ihnext⟩
  | recoded _ ih => exact ih

theorem Guarded.mono {property property' : α → Prop} (h : Guarded parts config reader property)
    (himp : ∀ value, property value → property' value) :
    Guarded parts config reader property' :=
  ⟨h.traced, h.ensured.mono himp⟩

theorem Traceable.part
    (h : ∀ input, ∃ events, parts α reader input events (reader config input)) :
    Traceable parts config reader := by
  intro input
  obtain ⟨events, hpart⟩ := h input
  exact ⟨events, .part hpart⟩

theorem Traceable.guarded (h : Traceable parts config reader) :
    Guarded parts config reader fun _ => True :=
  ⟨h, .trivial reader⟩

variable {property : α → Prop} {wanted : β → Prop}

theorem Guarded.pure {value : β} (h : wanted value) :
    Guarded parts config (Pure.pure value : Reader γ ε β) wanted :=
  ⟨fun _ => ⟨_, .pure⟩, .pure h⟩

theorem Guarded.fail (error : ε) :
    Guarded parts config (Reader.fail error : Reader γ ε β) wanted :=
  ⟨fun _ => ⟨_, .fail⟩, .fail error⟩

/-- What is read of the configuration is known. -/
theorem Guarded.view (part : γ → β) :
    Guarded parts config (fun config input => .ok (part config, input) : Reader γ ε β)
      fun value => value = part config where
  traced := fun _ => ⟨_, .view part⟩
  ensured := by
    intro input value rest hread
    cases hread
    rfl

theorem Guarded.bind (h : Guarded parts config reader property)
    (hnext : ∀ value, property value → Guarded parts config (next value) wanted) :
    Guarded parts config (reader >>= next) wanted where
  traced := by
    intro input
    obtain ⟨events, hrun⟩ := h.traced input
    cases hread : reader config input with
    | error error =>
      rw [hread] at hrun
      rw [reader_bind_of_error hread]
      exact ⟨events, .stop hrun⟩
    | ok found =>
      obtain ⟨value, rest⟩ := found
      have hvalue := h.ensured input value rest hread
      obtain ⟨later, hlater⟩ := (hnext value hvalue).traced rest
      rw [hread] at hrun
      rw [reader_bind_of_ok hread]
      exact ⟨events ++ later, .step hrun hlater⟩
  ensured := h.ensured.bind fun value hvalue => (hnext value hvalue).ensured

/-- A field of which nothing needs to be known. -/
theorem Guarded.skip (h : Traceable parts config reader)
    (hnext : ∀ value, Guarded parts config (next value) wanted) :
    Guarded parts config (reader >>= next) wanted :=
  h.guarded.bind fun value _ => hnext value

theorem Guarded.orFail {value : Option β} {error : ε}
    (h : ∀ found, value = some found → wanted found) :
    Guarded parts config (Reader.orFail value error : Reader γ ε β) wanted := by
  cases value with
  | none => exact .fail error
  | some found => exact .pure (h found rfl)

theorem Guarded.recoded (h : Guarded parts config reader property) (f : ε → ε) :
    Guarded parts config (reader.recoded f) property where
  traced := by
    intro input
    obtain ⟨events, hrun⟩ := h.traced input
    rw [recoded_eq_mapError]
    exact ⟨events, .recoded hrun⟩
  ensured := by
    intro input value rest hread
    rw [recoded_eq_mapError] at hread
    cases hfound : reader config input with
    | error error => rw [hfound] at hread; cases hread
    | ok found =>
      rw [hfound] at hread
      exact h.ensured input value rest (hfound.trans hread)

theorem Guarded.repeated (h : Guarded parts config reader property) (count : Nat) :
    Guarded parts config (reader.repeated count) fun values =>
      values.length = count ∧ ∀ value ∈ values, property value := by
  induction count with
  | zero => exact .pure ⟨rfl, by simp⟩
  | succ count ih =>
    refine h.bind fun value hvalue => ih.bind fun values hvalues => .pure ?_
    exact ⟨by simp [hvalues.1], List.forall_mem_cons.mpr ⟨hvalue, hvalues.2⟩⟩

theorem Traceable.pure (value : α) : Traceable parts config (Pure.pure value : Reader γ ε α) :=
  fun _ => ⟨_, .pure⟩

theorem Traceable.fail (error : ε) : Traceable parts config (Reader.fail error : Reader γ ε α) :=
  fun _ => ⟨_, .fail⟩

theorem Traceable.orFail (value : Option α) (error : ε) :
    Traceable parts config (Reader.orFail value error : Reader γ ε α) :=
  (Guarded.orFail fun _ _ => trivial).traced

theorem Traceable.bind (h : Traceable parts config reader)
    (hnext : ∀ value, Traceable parts config (next value)) :
    Traceable parts config (reader >>= next) :=
  (Guarded.skip h fun value => (hnext value).guarded).traced

theorem Traceable.map (h : Traceable parts config reader) (f : α → β) :
    Traceable parts config (do return f (← reader)) :=
  h.bind fun value => .pure (f value)

end Runs

end ByteReader
