import RackFabric.Library.LittleEndian

/-! Readers of byte strings that stop at their first error, with two kinds of
facts about them: what they read back, and what they let through. -/
namespace ByteReader

def Reader (γ ε α : Type) : Type :=
  γ → List UInt8 → Except ε (α × List UInt8)

variable {γ ε α β : Type}

instance : Monad (Reader γ ε) where
  pure value := fun _ input => .ok (value, input)
  bind reader next := fun config input =>
    match reader config input with
    | .error error => .error error
    | .ok (value, rest) => next value config rest

namespace Reader

def fail (error : ε) : Reader γ ε α := fun _ _ => .error error

def config : Reader γ ε γ := fun config input => .ok (config, input)

def remaining : Reader γ ε Nat := fun _ input => .ok (input.length, input)

def take (size : Nat) (error : ε) : Reader γ ε (List UInt8) := fun _ input =>
  if size > input.length then .error error else .ok (input.take size, input.drop size)

def orFail (value : Option α) (error : ε) : Reader γ ε α :=
  match value with
  | none => fail error
  | some value => pure value

def repeated (reader : Reader γ ε α) : Nat → Reader γ ε (List α)
  | 0 => pure []
  | count + 1 => do
      let value ← reader
      let values ← repeated reader count
      return value :: values

end Reader

open Reader

def Reads (config : γ) (reader : Reader γ ε α) (bytes : List UInt8) (value : α) : Prop :=
  ∀ rest, reader config (bytes ++ rest) = .ok (value, rest)

def Ensures (config : γ) (reader : Reader γ ε α) (property : α → Prop) : Prop :=
  ∀ input value rest, reader config input = .ok (value, rest) → property value

section Rules
variable {config : γ} {reader : Reader γ ε α} {next : α → Reader γ ε β}

theorem reader_bind_eq_ok {input : List UInt8} {result : β × List UInt8} :
    (reader >>= next) config input = .ok result ↔
      ∃ value rest, reader config input = .ok (value, rest) ∧
        next value config rest = .ok result := by
  change (match reader config input with
    | .error error => Except.error error
    | .ok (value, rest) => next value config rest) = .ok result ↔ _
  cases reader config input with
  | error error => simp
  | ok found =>
    obtain ⟨value, rest⟩ := found
    simp

theorem Reads.pure (value : α) : Reads config (Pure.pure value : Reader γ ε α) [] value :=
  fun _ => rfl

theorem Reads.bind {bytes bytes' : List UInt8} {value : α} {result : β}
    (hfirst : Reads config reader bytes value) (hnext : Reads config (next value) bytes' result) :
    Reads config (reader >>= next) (bytes ++ bytes') result := by
  intro rest
  rw [reader_bind_eq_ok]
  exact ⟨value, bytes' ++ rest, by rw [List.append_assoc, hfirst], hnext rest⟩

theorem Reads.map {bytes : List UInt8} {value : α} (f : α → β)
    (h : Reads config reader bytes value) :
    Reads config (do return f (← reader)) bytes (f value) := by
  intro rest
  rw [reader_bind_eq_ok]
  exact ⟨value, rest, h rest, rfl⟩

/-- A reader that does not look at the input. -/
theorem Reads.ofConfig (config : γ) :
    Reads config (Reader.config : Reader γ ε γ) [] config :=
  fun _ => rfl

theorem Reads.then {bytes : List UInt8} {value : α} {result : β}
    (hfirst : Reads config reader bytes value) (hnext : Reads config (next value) [] result) :
    Reads config (reader >>= next) bytes result := by
  intro rest
  rw [reader_bind_eq_ok]
  exact ⟨value, rest, hfirst rest, hnext rest⟩

theorem Reads.take (error : ε) (bytes : List UInt8) :
    Reads config (Reader.take bytes.length error) bytes bytes := by
  intro rest
  simp [Reader.take]

theorem Reads.orFail {value : Option α} {found : α} (error : ε) (h : value = some found) :
    Reads config (Reader.orFail value error) [] found := by
  subst h
  exact .pure found

theorem Reads.repeated {write : α → List UInt8} (values : List α)
    (h : ∀ value ∈ values, Reads config reader (write value) value) :
    Reads config (reader.repeated values.length) (values.flatMap write) values := by
  induction values with
  | nil => exact .pure []
  | cons value values ih =>
    obtain ⟨hvalue, hvalues⟩ := List.forall_mem_cons.mp h
    exact hvalue.bind ((ih hvalues).map (List.cons value))

variable {property : α → Prop} {wanted : β → Prop}

theorem Ensures.trivial (reader : Reader γ ε α) : Ensures config reader fun _ => True :=
  fun _ _ _ _ => True.intro

theorem Ensures.mono (h : Ensures config reader property) {property' : α → Prop}
    (himp : ∀ value, property value → property' value) : Ensures config reader property' :=
  fun input value rest hread => himp value (h input value rest hread)

theorem Ensures.ofConfig :
    Ensures config (Reader.config : Reader γ ε γ) fun found => found = config := by
  intro input found rest hread
  cases hread
  rfl

theorem Ensures.pure {value : α} (h : property value) :
    Ensures config (Pure.pure value : Reader γ ε α) property := by
  intro input found rest hfound
  cases hfound
  exact h

theorem Ensures.fail (error : ε) : Ensures config (Reader.fail error : Reader γ ε α) property := by
  intro input value rest hread
  cases hread

theorem Ensures.bind (hfirst : Ensures config reader property)
    (hnext : ∀ value, property value → Ensures config (next value) wanted) :
    Ensures config (reader >>= next) wanted := by
  intro input result rest hread
  obtain ⟨value, middle, hvalue, hresult⟩ := reader_bind_eq_ok.mp hread
  exact hnext value (hfirst input value middle hvalue) middle result rest hresult

/-- Nothing needs to be known of a value that is passed on as it is. -/
theorem Ensures.skip (hnext : ∀ value, Ensures config (next value) wanted) :
    Ensures config (reader >>= next) wanted :=
  (Ensures.trivial reader).bind fun value _ => hnext value

theorem Ensures.take (size : Nat) (error : ε) :
    Ensures config (Reader.take size error) fun bytes => bytes.length = size := by
  intro input value rest hread
  unfold Reader.take at hread
  split at hread
  · cases hread
  · cases hread
    simp only [List.length_take]
    omega

theorem Ensures.orFail {value : Option α} {error : ε}
    (h : ∀ found, value = some found → property found) :
    Ensures config (Reader.orFail value error) property := by
  cases value with
  | none => exact .fail error
  | some found => exact .pure (h found rfl)

theorem Ensures.repeated (h : Ensures config reader property) (count : Nat) :
    Ensures config (reader.repeated count) fun values => ∀ value ∈ values, property value := by
  induction count with
  | zero => exact .pure (by simp)
  | succ count ih =>
    refine h.bind fun value hvalue => ih.bind fun values hvalues => .pure ?_
    exact List.forall_mem_cons.mpr ⟨hvalue, hvalues⟩

end Rules

end ByteReader
