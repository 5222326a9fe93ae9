import RackFabric.Library.ByteReader

/-! Calls to a writer that a reader takes back. Each call is written as its bytes while it is
within its bounds, and nothing is known of the calls when one of them is not. -/
namespace ByteReader
open Reader

variable {γ ε α β ω : Type}

/-- When every call is within its bounds, their bytes are read back as the value. -/
def Restores (spell : ω → List UInt8) (fits : ω → Prop) (config : γ) (reader : Reader γ ε α)
    (calls : List ω) (value : α) : Prop :=
  (∀ call ∈ calls, fits call) → Reads config reader (calls.flatMap spell) value

section Rules
variable {spell : ω → List UInt8} {fits : ω → Prop} {config : γ} {reader : Reader γ ε α}
  {next : α → Reader γ ε β} {calls later : List ω} {value : α} {result : β}

theorem Restores.pure (value : α) :
    Restores spell fits config (Pure.pure value : Reader γ ε α) [] value :=
  fun _ => .pure value

theorem Restores.append (hfirst : Restores spell fits config reader calls value)
    (hnext : Restores spell fits config (next value) later result) :
    Restores spell fits config (reader >>= next) (calls ++ later) result := by
  intro hfits
  obtain ⟨hcalls, hlater⟩ := List.forall_mem_append.mp hfits
  rw [List.flatMap_append]
  exact (hfirst hcalls).bind (hnext hlater)

theorem Restores.cons {call : ω} (hfirst : Restores spell fits config reader [call] value)
    (hnext : Restores spell fits config (next value) later result) :
    Restores spell fits config (reader >>= next) (call :: later) result :=
  hfirst.append hnext

/-- The last reader of several. -/
theorem Restores.map (f : α → β) (h : Restores spell fits config reader calls value) :
    Restores spell fits config (do return f (← reader)) calls (f value) :=
  fun hfits => (h hfits).map f

theorem Restores.then (hfirst : Restores spell fits config reader calls value)
    (hnext : Reads config (next value) [] result) :
    Restores spell fits config (reader >>= next) calls result :=
  fun hfits => (hfirst hfits).then hnext

theorem Restores.of_reads {call : ω} (h : fits call → Reads config reader (spell call) value) :
    Restores spell fits config reader [call] value := by
  intro hfits
  rw [List.flatMap_singleton]
  exact h (hfits call List.mem_cons_self)

theorem Restores.repeated {write : α → List ω} (carry : α → α) {values : List α}
    (h : ∀ value ∈ values, Restores spell fits config reader (write value) (carry value)) :
    Restores spell fits config (reader.repeated values.length) (values.flatMap write)
      (values.map carry) := by
  induction values with
  | nil => exact .pure []
  | cons value values ih =>
    obtain ⟨hvalue, hvalues⟩ := List.forall_mem_cons.mp h
    exact hvalue.append ((ih hvalues).map (List.cons (carry value)))

/-- Where every value is written as a byte at least, there are no more values than bytes. -/
theorem length_le_of_written {write : α → List ω} {values : List α}
    (h : ∀ value ∈ values, 0 < ((write value).flatMap spell).length) :
    values.length ≤ ((values.flatMap write).flatMap spell).length := by
  induction values with
  | nil => simp
  | cons value values ih =>
    obtain ⟨hvalue, hvalues⟩ := List.forall_mem_cons.mp h
    have hrest := ih hvalues
    rw [List.flatMap_cons, List.flatMap_append, List.length_append, List.length_cons]
    omega

/-- A number of a fixed width. -/
theorem Reads.number {width number : Nat} (error : ε) (ofNat : Nat → α)
    (h : number < 256 ^ width) :
    Reads config (do return ofNat (LittleEndian.decode (← Reader.take width error)) :
      Reader γ ε α) (LittleEndian.encode width number) (ofNat number) := by
  have htake : Reads config (Reader.take width error : Reader γ ε (List UInt8))
      (LittleEndian.encode width number) (LittleEndian.encode width number) := by
    have hread : Reads config (Reader.take (LittleEndian.encode width number).length error :
        Reader γ ε (List UInt8)) _ _ := .take error (LittleEndian.encode width number)
    rwa [LittleEndian.length_encode] at hread
  have hread := htake.map fun bytes => ofNat (LittleEndian.decode bytes)
  rwa [LittleEndian.decode_encode h] at hread

end Rules

end ByteReader
