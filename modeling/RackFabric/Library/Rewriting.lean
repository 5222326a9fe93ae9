import RackFabric.Library.ByteReader

/-! Readers whose values are written back. A reader may accept inputs that it refuses under
a stricter configuration. What it takes off the input is what is written for its value
exactly when the stricter configuration accepts it too. -/
namespace ByteReader
open Reader

structure Rewriting (γ ω : Type) where
  lenient : γ
  strict : γ
  spell : ω → List UInt8
  fits : ω → Prop

variable {γ ε α β ω : Type}

/-- The reader takes as many bytes as are written for its value. -/
structure Rewrites (setting : Rewriting γ ω) (reader : Reader γ ε α)
    (written : List ω → α → Prop) : Prop where
  taken : ∀ {input : List UInt8} {value : α} {rest : List UInt8},
    reader setting.lenient input = .ok (value, rest) →
      ∃ bytes calls, input = bytes ++ rest ∧ written calls value ∧
        (∀ call ∈ calls, setting.fits call) ∧
        bytes.length = (calls.flatMap setting.spell).length ∧
        (reader setting.strict input = .ok (value, rest) ↔ bytes = calls.flatMap setting.spell)
  narrower : ∀ {input : List UInt8} {result : α × List UInt8},
    reader setting.strict input = .ok result → reader setting.lenient input = .ok result

abbrev Writes (setting : Rewriting γ ω) (reader : Reader γ ε α) (write : α → List ω) : Prop :=
  Rewrites setting reader fun calls value => calls = write value

section Rules
variable {setting : Rewriting γ ω} {reader : Reader γ ε α} {next : α → Reader γ ε β}
  {written : List ω → α → Prop} {outcome : List ω → β → Prop} {write : α → List ω}

/-- A reader that is the same under both configurations. -/
theorem Rewrites.of_same (hsame : reader setting.strict = reader setting.lenient)
    (h : ∀ {input value rest}, reader setting.lenient input = .ok (value, rest) →
      ∃ calls, input = calls.flatMap setting.spell ++ rest ∧ written calls value ∧
        ∀ call ∈ calls, setting.fits call) : Rewrites setting reader written where
  taken hread := by
    obtain ⟨calls, hinput, hwritten, hfits⟩ := h hread
    rw [hsame]
    exact ⟨_, calls, hinput, hwritten, hfits, rfl, iff_of_true hread rfl⟩
  narrower hread := hsame ▸ hread

theorem Rewrites.pure {value : β} (h : outcome [] value) :
    Rewrites setting (Pure.pure value : Reader γ ε β) outcome := by
  refine .of_same rfl fun hread => ?_
  cases hread
  exact ⟨[], rfl, h, by simp⟩

theorem Rewrites.fail (error : ε) : Rewrites setting (Reader.fail error : Reader γ ε β) outcome :=
  .of_same rfl fun hread => by cases hread

theorem Rewrites.orFail {value : Option β} {error : ε}
    (h : ∀ found, value = some found → outcome [] found) :
    Rewrites setting (Reader.orFail value error : Reader γ ε β) outcome := by
  cases value with
  | none => exact .fail error
  | some found => exact .pure (h found rfl)

theorem Rewrites.bind (hfirst : Rewrites setting reader written)
    (hnext : ∀ calls value, written calls value →
      Rewrites setting (next value) fun later result => outcome (calls ++ later) result) :
    Rewrites setting (reader >>= next) outcome where
  taken {input result rest} hread := by
    obtain ⟨value, middle, hvalue, hresult⟩ := reader_bind_eq_ok.mp hread
    obtain ⟨bytes, calls, rfl, hwritten, hfits, hlength, hiff⟩ := hfirst.taken hvalue
    obtain ⟨bytes', calls', rfl, houtcome, hfits', hlength', hiff'⟩ :=
      (hnext calls value hwritten).taken hresult
    refine ⟨bytes ++ bytes', calls ++ calls', by rw [List.append_assoc], houtcome,
      List.forall_mem_append.mpr ⟨hfits, hfits'⟩, ?_, ?_⟩
    · rw [List.flatMap_append, List.length_append, List.length_append, hlength, hlength']
    rw [List.flatMap_append, reader_bind_eq_ok]
    constructor
    · rintro ⟨other, between, hother, hlater⟩
      -- the strict configuration reads no other value
      have hsame := (hfirst.narrower hother).symm.trans hvalue
      obtain ⟨rfl, rfl⟩ := Prod.mk.inj (Except.ok.inj hsame)
      rw [hiff.mp hother, hiff'.mp hlater]
    · intro hbytes
      obtain ⟨hhead, htail⟩ := List.append_inj hbytes hlength
      exact ⟨value, bytes' ++ rest, hiff.mpr hhead, hiff'.mpr htail⟩
  narrower {input result} hread := by
    obtain ⟨value, middle, hvalue, hresult⟩ := reader_bind_eq_ok.mp hread
    have hlenient := hfirst.narrower hvalue
    obtain ⟨_, calls, _, hwritten, _⟩ := hfirst.taken hlenient
    exact reader_bind_eq_ok.mpr
      ⟨value, middle, hlenient, (hnext calls value hwritten).narrower hresult⟩

/-- A field of a record, before the fields that follow. -/
theorem Rewrites.field (hfirst : Writes setting reader write)
    (hnext : ∀ value,
      Rewrites setting (next value) fun later result => outcome (write value ++ later) result) :
    Rewrites setting (reader >>= next) outcome :=
  hfirst.bind fun _ value hcalls => hcalls ▸ hnext value

theorem Rewrites.map {write' : β → List ω} (hfirst : Writes setting reader write) (f : α → β)
    (h : ∀ value, write value = write' (f value)) :
    Writes setting (do return f (← reader)) write' :=
  hfirst.field fun value => .pure (by simpa using h value)

/-- A part of the configuration that the two have in common. -/
theorem Rewrites.ofConfig {δ : Type} (part : γ → δ) (h : part setting.strict = part setting.lenient)
    {rest : δ → Reader γ ε β} (hrest : Rewrites setting (rest (part setting.lenient)) outcome) :
    Rewrites setting ((fun config input => .ok (part config, input) : Reader γ ε δ) >>= rest)
      outcome where
  taken hread := by
    obtain ⟨_, _, hvalue, hresult⟩ := reader_bind_eq_ok.mp hread
    obtain ⟨rfl, rfl⟩ := Prod.mk.inj (Except.ok.inj hvalue)
    obtain ⟨bytes, calls, hinput, houtcome, hfits, hlength, hiff⟩ := hrest.taken hresult
    refine ⟨bytes, calls, hinput, houtcome, hfits, hlength, ?_⟩
    rw [← hiff]
    change rest (part setting.strict) _ _ = _ ↔ _
    rw [h]
  narrower {input result} hread := by
    change rest (part setting.strict) setting.strict input = .ok result at hread
    rw [h] at hread
    exact hrest.narrower hread

/-- How much of the input is left is seen without taking any of it. -/
theorem Rewrites.remaining :
    Rewrites setting (Reader.remaining : Reader γ ε Nat) fun calls _ => calls = [] := by
  refine .of_same rfl fun hread => ?_
  cases hread
  exact ⟨[], rfl, rfl, by simp⟩

theorem Rewrites.mono {outcome : List ω → α → Prop} (hreader : Rewrites setting reader written)
    (h : ∀ calls value, written calls value → outcome calls value) :
    Rewrites setting reader outcome where
  taken hread := by
    obtain ⟨bytes, calls, hinput, hwritten, hrest⟩ := hreader.taken hread
    exact ⟨bytes, calls, hinput, h calls _ hwritten, hrest⟩
  narrower hread := hreader.narrower hread

/-- The calls that write a value back are within their bounds. -/
theorem Rewrites.fitting (hreader : Rewrites setting reader written) :
    Rewrites setting reader fun calls value =>
      written calls value ∧ ∀ call ∈ calls, setting.fits call where
  taken hread := by
    obtain ⟨bytes, calls, hinput, hwritten, hfits, hrest⟩ := hreader.taken hread
    exact ⟨bytes, calls, hinput, ⟨hwritten, hfits⟩, hfits, hrest⟩
  narrower hread := hreader.narrower hread

/-- Other calls that write the same bytes. -/
theorem Rewrites.respell {outcome : List ω → α → Prop} (hreader : Rewrites setting reader written)
    (h : ∀ calls value, written calls value → ∃ calls', outcome calls' value ∧
      calls'.flatMap setting.spell = calls.flatMap setting.spell ∧
        ∀ call ∈ calls', setting.fits call) : Rewrites setting reader outcome where
  taken hread := by
    obtain ⟨bytes, calls, hinput, hwritten, -, hlength, hiff⟩ := hreader.taken hread
    obtain ⟨calls', houtcome, hspelled, hfits⟩ := h calls _ hwritten
    exact ⟨bytes, calls', hinput, houtcome, hfits, hspelled ▸ hlength, hspelled ▸ hiff⟩
  narrower hread := hreader.narrower hread

/-- An error that is reported as another one. -/
theorem Rewrites.withError {ε' : Type} (hreader : Rewrites setting reader written)
    {other : Reader γ ε' α}
    (h : ∀ config input result,
      other config input = .ok result ↔ reader config input = .ok result) :
    Rewrites setting other written where
  taken hread := by
    obtain ⟨bytes, calls, hinput, hwritten, hfits, hlength, hiff⟩ :=
      hreader.taken ((h _ _ _).mp hread)
    exact ⟨bytes, calls, hinput, hwritten, hfits, hlength, (h _ _ _).trans hiff⟩
  narrower hread := (h _ _ _).mpr (hreader.narrower ((h _ _ _).mp hread))

theorem Rewrites.repeated (hreader : Writes setting reader write) (count : Nat) :
    Rewrites setting (reader.repeated count)
      fun calls values => calls = values.flatMap write ∧ values.length = count := by
  induction count with
  | zero => exact .pure ⟨rfl, rfl⟩
  | succ count ih =>
    refine hreader.field fun value => ih.bind fun calls values hvalues => .pure ?_
    obtain ⟨rfl, rfl⟩ := hvalues
    simp

theorem take_eq_ok {size : Nat} {error : ε} {config : γ} {input bytes rest : List UInt8}
    (h : Reader.take size error config input = .ok (bytes, rest)) :
    input = bytes ++ rest ∧ bytes.length = size := by
  unfold Reader.take at h
  split at h
  · cases h
  · obtain ⟨rfl, rfl⟩ := Prod.mk.inj (Except.ok.inj h)
    exact ⟨(List.take_append_drop size input).symm, by rw [List.length_take]; omega⟩

/-- The bytes of a call that is already known are taken as they are. -/
theorem Rewrites.take {size : Nat} {error : ε} {outcome : List ω → List UInt8 → Prop}
    (h : ∀ bytes, bytes.length = size → ∃ calls, calls.flatMap setting.spell = bytes ∧
      outcome calls bytes ∧ ∀ call ∈ calls, setting.fits call) :
    Rewrites setting (Reader.take size error : Reader γ ε (List UInt8)) outcome := by
  refine .of_same rfl fun {input bytes rest} hread => ?_
  obtain ⟨rfl, hlength⟩ := take_eq_ok hread
  obtain ⟨calls, hspelled, houtcome, hfits⟩ := h bytes hlength
  exact ⟨calls, by rw [hspelled], houtcome, hfits⟩

/-- A number of a fixed width, which one call writes. -/
theorem Rewrites.number {width : Nat} {error : ε} (ofNat : Nat → α) {call : α → ω}
    (hspell : ∀ value, value < 256 ^ width →
      setting.spell (call (ofNat value)) = LittleEndian.encode width value)
    (hfits : ∀ value, setting.fits (call value)) :
    Writes setting (do return ofNat (LittleEndian.decode (← Reader.take width error)) :
      Reader γ ε α) fun value => [call value] := by
  refine .of_same rfl fun {input value rest} hread => ?_
  obtain ⟨bytes, middle, htake, hvalue⟩ := reader_bind_eq_ok.mp hread
  obtain ⟨rfl, rfl⟩ := Prod.mk.inj (Except.ok.inj hvalue)
  obtain ⟨rfl, hlength⟩ := take_eq_ok htake
  have hbelow : LittleEndian.decode bytes < 256 ^ width := hlength ▸ LittleEndian.decode_lt bytes
  refine ⟨_, ?_, rfl, by simpa using hfits _⟩
  rw [List.flatMap_singleton, hspell _ hbelow, ← hlength, LittleEndian.encode_decode]

/-- A whole input that is read to its end is what is written exactly when it is read under
the strict configuration, and every call of the writer is within its bounds. -/
theorem Writes.whole (h : Writes setting reader write) {input : List UInt8} {value : α}
    (hread : reader setting.lenient input = .ok (value, [])) :
    (∀ call ∈ write value, setting.fits call) ∧
      (reader setting.strict input = .ok (value, []) ↔
        input = (write value).flatMap setting.spell) := by
  obtain ⟨bytes, calls, hinput, rfl, hfits, -, hiff⟩ := h.taken hread
  rw [List.append_nil] at hinput
  exact ⟨hfits, hinput ▸ hiff⟩

end Rules

end ByteReader
