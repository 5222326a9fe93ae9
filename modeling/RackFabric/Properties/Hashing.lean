import RackFabric.Library.Sha2
import RackFabric.Model.Hashing

/-! The incremental hash object computes SHA-256. The object refines the byte-by-byte
machine, and the machine chains the blocks of what it was fed. -/
namespace RackFabric.Sha256

/-! The operations on words. -/

theorem toBitVec_rotr (x : UInt32) {count : Nat} (hpos : 0 < count) (hlt : count < 32) :
    (rotr x (UInt32.ofNat count)).toBitVec = x.toBitVec.rotateRight count := by
  have hcount : ((UInt32.ofNat count).toBitVec % 32).toNat = count := by
    simp
    omega
  have hrest : ((32 - UInt32.ofNat count).toBitVec % 32).toNat = 32 - count := by
    simp
    omega
  rw [rotr, UInt32.toBitVec_or, UInt32.toBitVec_shiftRight, UInt32.toBitVec_shiftLeft,
    BitVec.ushiftRight_eq', BitVec.shiftLeft_eq', hcount, hrest, BitVec.rotateRight_def,
    Nat.mod_eq_of_lt hlt]

theorem toBitVec_xor_rotr (x : UInt32) {first second third : Nat}
    (hfirst : 0 < first ∧ first < 32) (hsecond : 0 < second ∧ second < 32)
    (hthird : 0 < third ∧ third < 32) :
    (rotr x (UInt32.ofNat first) ^^^ rotr x (UInt32.ofNat second) ^^^
        rotr x (UInt32.ofNat third)).toBitVec =
      x.toBitVec.rotateRight first ^^^ x.toBitVec.rotateRight second ^^^
        x.toBitVec.rotateRight third := by
  rw [UInt32.toBitVec_xor, UInt32.toBitVec_xor, toBitVec_rotr x hfirst.1 hfirst.2,
    toBitVec_rotr x hsecond.1 hsecond.2, toBitVec_rotr x hthird.1 hthird.2]

theorem toBitVec_xor_shift (x : UInt32) {first second : Nat} (shift : UInt32)
    (hfirst : 0 < first ∧ first < 32) (hsecond : 0 < second ∧ second < 32) :
    (rotr x (UInt32.ofNat first) ^^^ rotr x (UInt32.ofNat second) ^^^ (x >>> shift)).toBitVec =
      x.toBitVec.rotateRight first ^^^ x.toBitVec.rotateRight second ^^^
        (x.toBitVec >>> (shift.toBitVec % 32)) := by
  rw [UInt32.toBitVec_xor, UInt32.toBitVec_xor, toBitVec_rotr x hfirst.1 hfirst.2,
    toBitVec_rotr x hsecond.1 hsecond.2, UInt32.toBitVec_shiftRight]

@[simp] theorem toBitVec_bigSigma0 (x : UInt32) :
    (bigSigma0 x).toBitVec = Sha2.bigSigma0 x.toBitVec :=
  toBitVec_xor_rotr x (by decide) (by decide) (by decide)

@[simp] theorem toBitVec_bigSigma1 (x : UInt32) :
    (bigSigma1 x).toBitVec = Sha2.bigSigma1 x.toBitVec :=
  toBitVec_xor_rotr x (by decide) (by decide) (by decide)

@[simp] theorem toBitVec_smallSigma0 (x : UInt32) :
    (smallSigma0 x).toBitVec = Sha2.smallSigma0 x.toBitVec :=
  toBitVec_xor_shift x 3 (by decide) (by decide)

@[simp] theorem toBitVec_smallSigma1 (x : UInt32) :
    (smallSigma1 x).toBitVec = Sha2.smallSigma1 x.toBitVec :=
  toBitVec_xor_shift x 10 (by decide) (by decide)

theorem toBitVec_constants : constants.map UInt32.toBitVec = Sha2.constants := by
  decide +kernel

/-! The transformation of one block. -/

theorem toBitVec_word (a b c d : UInt8) :
    ((a.toUInt32 <<< 24) ||| (b.toUInt32 <<< 16) ||| (c.toUInt32 <<< 8) ||| d.toUInt32).toBitVec =
      a.toBitVec ++ b.toBitVec ++ c.toBitVec ++ d.toBitVec := by
  rw [← BitVec.setWidth_eq (a.toBitVec ++ b.toBitVec ++ c.toBitVec ++ d.toBitVec),
    BitVec.setWidth_append_append_append_eq_shiftLeft_setWidth_or]
  rfl

theorem map_words {count : Nat} {block : Bytes} (h : block.length = 4 * count) :
    (words block).map UInt32.toBitVec = (List.range count).map (Sha2.wordAt block) := by
  induction count generalizing block with
  | zero =>
    have hnil : block = [] := List.length_eq_zero_iff.mp h
    subst hnil
    rfl
  | succ count ih =>
    match block, h with
    | a :: b :: c :: d :: rest, h =>
      have hrest : rest.length = 4 * count := by
        simp only [List.length_cons] at h
        omega
      rw [words, List.map_cons, ih hrest, toBitVec_word, List.range_succ_eq_map, List.map_cons,
        List.map_map]
      congr 1

def extended (w : List UInt32) (i : Nat) : List UInt32 :=
  w ++ [smallSigma1 (w.getD (i + 14) 0) + w.getD (i + 9) 0 + smallSigma0 (w.getD (i + 1) 0) +
    w.getD i 0]

theorem getD_of_map {w : List UInt32} {f : Nat → Sha2.Word} {count i : Nat}
    (h : w.map UInt32.toBitVec = (List.range count).map f) (hi : i < count) :
    (w.getD i 0).toBitVec = f i := by
  have hget : (w.map UInt32.toBitVec)[i]? = some (f i) := by
    rw [h, List.getElem?_map, List.getElem?_range hi]
    rfl
  rw [List.getElem?_map] at hget
  obtain ⟨value, hvalue, hword⟩ := Option.map_eq_some_iff.mp hget
  rw [List.getD_eq_getElem?_getD, hvalue, Option.getD_some, hword]

theorem map_extended {w : List UInt32} {block : Bytes} {i : Nat}
    (h : w.map UInt32.toBitVec = (List.range (i + 16)).map (Sha2.schedule block)) :
    (extended w i).map UInt32.toBitVec =
      (List.range (i + 1 + 16)).map (Sha2.schedule block) := by
  have hword : Sha2.schedule block (i + 16) =
      Sha2.smallSigma1 (Sha2.schedule block (i + 14)) + Sha2.schedule block (i + 9) +
        Sha2.smallSigma0 (Sha2.schedule block (i + 1)) + Sha2.schedule block i := by
    rw [Sha2.schedule, if_neg (by omega)]
    rfl
  rw [extended, List.map_append, h, Nat.add_right_comm, @List.range_succ (i + 16),
    List.map_append]
  congr 1
  simp only [List.map_cons, List.map_nil, UInt32.toBitVec_add, toBitVec_smallSigma0,
    toBitVec_smallSigma1, getD_of_map h (show i + 14 < i + 16 by omega),
    getD_of_map h (show i + 9 < i + 16 by omega), getD_of_map h (show i + 1 < i + 16 by omega),
    getD_of_map h (show i < i + 16 by omega), hword]

theorem map_schedule {block : Bytes} (h : block.length = 64) :
    (schedule block).map UInt32.toBitVec = (List.range 64).map (Sha2.schedule block) := by
  have hrun : ∀ count, ((List.range count).foldl extended (words block)).map UInt32.toBitVec =
      (List.range (count + 16)).map (Sha2.schedule block) := by
    intro count
    induction count with
    | zero =>
      rw [List.range_zero, List.foldl_nil, @map_words 16 block h]
      apply List.map_congr_left
      intro t ht
      rw [Sha2.schedule, if_pos (List.mem_range.mp ht)]
    | succ count ih =>
      rw [List.range_succ, List.foldl_append]
      exact map_extended ih
  exact hrun 48

def State.words (s : State) : Sha2.Words where
  a := s.a.toBitVec
  b := s.b.toBitVec
  c := s.c.toBitVec
  d := s.d.toBitVec
  e := s.e.toBitVec
  f := s.f.toBitVec
  g := s.g.toBitVec
  h := s.h.toBitVec

theorem words_round (s : State) (constant word : UInt32) :
    (round s (constant, word)).words =
      Sha2.round s.words constant.toBitVec word.toBitVec := by
  simp only [round, State.words, Sha2.round, Sha2.ch, Sha2.maj, UInt32.toBitVec_add,
    UInt32.toBitVec_xor, UInt32.toBitVec_and, UInt32.toBitVec_not, toBitVec_bigSigma0,
    toBitVec_bigSigma1]

theorem words_rounds (s : State) (inputs : List (UInt32 × UInt32)) :
    (inputs.foldl round s).words =
      (inputs.map fun input => (input.1.toBitVec, input.2.toBitVec)).foldl
        (fun v input => Sha2.round v input.1 input.2) s.words := by
  induction inputs generalizing s with
  | nil => rfl
  | cons input inputs ih =>
    rw [List.foldl_cons, ih, words_round]
    rfl

theorem zip_constants {block : Bytes} (h : block.length = 64) :
    ((constants.zip (schedule block)).map fun input => (input.1.toBitVec, input.2.toBitVec)) =
      (List.range 64).map fun t => (Sha2.constants.getD t 0, Sha2.schedule block t) := by
  have hconstants : Sha2.constants = (List.range 64).map fun t => Sha2.constants.getD t 0 := by
    have hlength : Sha2.constants.length = 64 := by
      rw [← toBitVec_constants]
      rfl
    apply List.ext_getElem
    · rw [hlength, List.length_map, List.length_range]
    · intro t ht _
      rw [List.getElem_map, List.getElem_range, List.getD_eq_getElem?_getD,
        List.getElem?_eq_getElem ht, Option.getD_some]
  calc (constants.zip (schedule block)).map (fun input => (input.1.toBitVec, input.2.toBitVec))
      = (constants.map UInt32.toBitVec).zip ((schedule block).map UInt32.toBitVec) :=
        List.zip_map.symm
    _ = ((List.range 64).map fun t => Sha2.constants.getD t 0).zip
          ((List.range 64).map (Sha2.schedule block)) := by
        rw [toBitVec_constants, map_schedule h, ← hconstants]
    _ = (List.range 64).map fun t => (Sha2.constants.getD t 0, Sha2.schedule block t) :=
        List.zip_map'

theorem words_transform (s : State) {block : Bytes} (h : block.length = 64) :
    (transform s block).words = Sha2.compress s.words block := by
  have hrounds : ((constants.zip (schedule block)).foldl round s).words =
      (List.range 64).foldl
        (fun v t => Sha2.round v (Sha2.constants.getD t 0) (Sha2.schedule block t)) s.words := by
    rw [words_rounds, zip_constants h, List.foldl_map]
  rw [Sha2.compress, ← hrounds, Sha2.Words.mk.injEq]
  simp only [transform, State.words, UInt32.toBitVec_add, BitVec.add_comm, and_self]

theorem words_initial : ({} : State).words = Sha2.initial := by
  decide +kernel

/-! The byte-by-byte machine. -/

theorem absorb_short (hasher : Hasher) (data : Bytes)
    (h : hasher.buffer.length + data.length < 64) :
    data.foldl absorb hasher = { hasher with buffer := hasher.buffer ++ data } := by
  induction data generalizing hasher with
  | nil => simp
  | cons byte data ih =>
    rw [List.length_cons] at h
    have habsorb : absorb hasher byte = { hasher with buffer := hasher.buffer ++ [byte] } := by
      simp only [absorb, List.length_append, List.length_singleton]
      rw [if_neg (by omega)]
    rw [List.foldl_cons, habsorb, ih]
    · simp
    · simp only [List.length_append, List.length_singleton]
      omega

theorem absorb_full (hasher : Hasher) {data : Bytes} (hdata : data ≠ [])
    (h : hasher.buffer.length + data.length = 64) :
    data.foldl absorb hasher =
      { hasher with state := transform hasher.state (hasher.buffer ++ data), buffer := [] } := by
  have hsplit := List.dropLast_append_getLast hdata
  have hpos := List.length_pos_iff.mpr hdata
  rw [← hsplit, List.foldl_append, absorb_short hasher data.dropLast, hsplit]
  · have hlength : (hasher.buffer ++ data.dropLast ++ [data.getLast hdata]).length = 64 := by
      rw [List.append_assoc, hsplit, List.length_append, h]
    rw [List.foldl_cons, List.foldl_nil]
    simp only [absorb]
    rw [if_pos hlength, List.append_assoc, hsplit]
  · rw [List.length_dropLast]
    omega

theorem foldl_absorb_bitCount (data : Bytes) (hasher : Hasher) (count : UInt64) :
    data.foldl absorb { hasher with bitCount := count } =
      { data.foldl absorb hasher with bitCount := count } := by
  induction data generalizing hasher with
  | nil => rfl
  | cons byte data ih =>
    have habsorb : absorb { hasher with bitCount := count } byte =
        { absorb hasher byte with bitCount := count } := by
      simp only [absorb]
      split <;> rfl
    rw [List.foldl_cons, List.foldl_cons, habsorb, ih]

theorem update_append (hasher : Hasher) (first second : Bytes) :
    update (update hasher first) second = update hasher (first ++ second) := by
  simp only [update, foldl_absorb_bitCount, List.foldl_append, List.length_append,
    UInt64.ofNat_add]
  congr 1
  grind

@[simp] theorem update_nil (hasher : Hasher) : update hasher [] = hasher := by
  simp [update]

/-- The machine has chained the full blocks of the message and keeps the rest. -/
structure Fed (message : Bytes) (hasher : Hasher) : Prop where
  state : hasher.state.words = BlockHash.chain 64 Sha2.compress Sha2.initial message
  buffer : hasher.buffer = BlockHash.rest 64 message

theorem fed_nil : Fed [] {} where
  state := by
    rw [BlockHash.chain_nil]
    exact words_initial
  buffer := BlockHash.rest_nil.symm

theorem Fed.absorb {message : Bytes} {hasher : Hasher} (h : Fed message hasher) (byte : UInt8) :
    Fed (message ++ [byte]) (absorb hasher byte) := by
  have hlength : hasher.buffer.length = message.length % 64 := by
    rw [h.buffer, BlockHash.length_rest]
  have hlt : message.length % 64 < 64 := Nat.mod_lt _ (by decide)
  unfold Sha256.absorb
  simp only [List.length_append, List.length_singleton]
  split
  · rename_i hfull
    rw [h.buffer] at hfull
    change (BlockHash.rest 64 message).length + [byte].length = 64 at hfull
    obtain ⟨hstate, hrest⟩ :=
      BlockHash.append_of_full Sha2.compress Sha2.initial (by decide) hfull
    constructor
    · rw [hstate, ← h.state, ← h.buffer]
      apply words_transform
      rw [List.length_append, h.buffer]
      exact hfull
    · exact hrest.symm
  · rename_i hshort
    rw [h.buffer] at hshort
    have hroom : (BlockHash.rest 64 message).length + [byte].length < 64 := by
      rw [BlockHash.length_rest] at hshort ⊢
      simp only [List.length_singleton]
      omega
    obtain ⟨hstate, hrest⟩ := BlockHash.append_of_short Sha2.compress Sha2.initial hroom
    constructor
    · rw [hstate, ← h.state]
    · rw [hrest, ← h.buffer]

theorem Fed.foldl {message : Bytes} {hasher : Hasher} (h : Fed message hasher) (data : Bytes) :
    Fed (message ++ data) (data.foldl Sha256.absorb hasher) := by
  induction data generalizing message hasher with
  | nil =>
    rw [List.append_nil]
    exact h
  | cons byte data ih =>
    rw [List.append_cons]
    exact ih (h.absorb byte)

theorem Fed.update {message : Bytes} {hasher : Hasher} (h : Fed message hasher) (data : Bytes) :
    Fed (message ++ data) (update hasher data) :=
  ⟨(h.foldl data).state, (h.foldl data).buffer⟩

theorem reverse_encode (count value : Nat) :
    (LittleEndian.encode count value).reverse = Sha2.bigEndian count value := by
  induction count generalizing value with
  | zero => rfl
  | succ count ih =>
    rw [LittleEndian.encode, List.reverse_cons, ih, Sha2.bigEndian, Sha2.bigEndian,
      List.range_succ, List.map_append]
    congr 1
    · apply List.map_congr_left
      intro i hi
      have hi := List.mem_range.mp hi
      rw [Nat.div_div_eq_div_mul, ← Nat.pow_succ',
        show count + 1 - 1 - i = (count - 1 - i).succ by omega]
    · simp only [List.map_cons, List.map_nil, Nat.add_sub_cancel, Nat.sub_self, Nat.pow_zero,
        Nat.div_one]
      rw [UInt8.ofNat_mod_size]

theorem digestBytes_eq (s : State) : digestBytes s = s.words.bytes := by
  simp only [digestBytes, List.flatMap_cons, List.flatMap_nil, bigEndian32, reverse_encode]
  rfl

/-- The padded message leaves nothing over, and its chain is the hash. -/
theorem Fed.finish {message : Bytes} {hasher : Hasher} (h : Fed message hasher)
    (hcount : hasher.bitCount.toNat = 8 * message.length) :
    finish hasher = Sha2.sha256 message := by
  have hmarked := h.update [0x80]
  have hlength : (Sha256.update hasher [0x80]).buffer.length = (message.length + 1) % 64 := by
    rw [hmarked.buffer, BlockHash.length_rest, List.length_append, List.length_singleton]
  have hzeros : (120 - (Sha256.update hasher [0x80]).buffer.length) % 64 =
      Sha2.zeros message.length := by
    rw [hlength, Sha2.zeros]
    omega
  have hpadded := (hmarked.update (List.replicate (Sha2.zeros message.length) 0)).update
    (Sha2.bigEndian 8 (8 * message.length))
  unfold Sha256.finish
  simp only [hzeros, reverse_encode, hcount]
  rw [digestBytes_eq, hpadded.state]
  rfl

/-! The object of the code refines the machine. -/

theorem lengthBytes_eq (bitCount : UInt64) :
    Object.lengthBytes bitCount = Sha2.bigEndian 8 bitCount.toNat := by
  apply List.map_congr_left
  intro i hi
  have hi := List.mem_range.mp hi
  have hshift : (UInt64.ofNat (7 - i) * 8).toNat % 64 = 8 * (7 - i) := by
    simp
    omega
  apply UInt8.toNat_inj.mp
  rw [UInt64.toNat_toUInt8, UInt64.toNat_and, UInt64.toNat_shiftRight, hshift,
    Nat.shiftRight_eq_div_pow, Nat.pow_mul]
  simp [Nat.and_two_pow_sub_one_eq_mod _ 8]

namespace Object

def view (object : Object) : Hasher where
  state := object.state
  buffer := object.held
  bitCount := object.bitCount

theorem length_held (object : Object) : object.held.length = object.bufferLength := by
  have hbuffer := object.length_buffer
  have hlt := object.bufferLength_lt
  rw [held, List.length_take]
  omega

theorem view_absorbTaken (object : Object) {data : Bytes} (h : data ≠ []) :
    (object.absorbTaken data).view = (data.take (object.take data)).foldl absorb object.view := by
  have htake := object.take_le data
  have hpos := object.take_pos h
  have hlength : (data.take (object.take data)).length = object.take data := by
    rw [List.length_take]
    omega
  have hheld := object.length_held
  unfold absorbTaken
  split
  · rename_i hfull
    have hne : data.take (object.take data) ≠ [] := by
      intro hnil
      rw [hnil] at hlength
      simp at hlength
      omega
    have hfilled : object.filled data = object.held ++ data.take (object.take data) := by
      rw [filled, List.drop_of_length_le (by rw [object.length_buffer]; omega), List.append_nil]
    rw [absorb_full object.view hne (by simp only [view]; omega)]
    simp only [view, held, List.take_zero, hfilled]
  · rename_i hshort
    rw [absorb_short object.view _ (by simp only [view]; omega)]
    simp only [view, Hasher.mk.injEq, true_and, and_true]
    change (object.filled data).take (object.bufferLength + object.take data) = _
    rw [filled, List.take_append_of_le_length, List.take_of_length_le]
    · simp only [List.length_append]
      omega
    · simp only [List.length_append]
      omega

theorem view_absorbAll (object : Object) (data : Bytes) :
    (object.absorbAll data).view = data.foldl absorb object.view := by
  fun_induction absorbAll object data with
  | case1 object => rfl
  | case2 object data hdata ih =>
    rw [ih, view_absorbTaken object hdata, ← List.foldl_append, List.take_append_drop]

theorem view_update (object : Object) (data : Bytes) :
    (object.update data).view = Sha256.update object.view data := by
  rw [update, view_absorbAll]
  exact foldl_absorb_bitCount data object.view _

theorem view_updates (chunks : List Bytes) (object : Object) :
    (chunks.foldl update object).view = Sha256.update object.view chunks.flatten := by
  induction chunks generalizing object with
  | nil => exact (update_nil object.view).symm
  | cons chunk chunks ih =>
    rw [List.foldl_cons, ih, view_update, update_append, List.flatten_cons]

def missing (object : Object) : Nat := (120 - object.bufferLength) % 64

theorem missing_update (object : Object) (h : object.bufferLength ≠ 56) :
    (object.update [0x00]).missing + 1 = object.missing := by
  have hlt := object.bufferLength_lt
  have hview : (object.update [0x00]).held.length = (absorb object.view 0x00).buffer.length := by
    change (object.update [0x00]).view.buffer.length = _
    rw [view_update]
    rfl
  rw [length_held] at hview
  simp only [missing, hview, absorb, view, List.length_append, List.length_singleton, length_held]
  split
  · simp only [List.length_nil]
    omega
  · simp only [List.length_append, List.length_singleton, length_held]
    omega

/-- The padding loop ends: it writes what is missing. -/
theorem padTo56_eq (fuel : Nat) (object : Object) (h : object.missing < fuel) :
    ∃ padded, padTo56 fuel object = some padded ∧
      padded.view = Sha256.update object.view (List.replicate object.missing 0) := by
  induction fuel generalizing object with
  | zero => omega
  | succ fuel ih =>
    unfold padTo56
    split
    · rename_i hfull
      refine ⟨object, rfl, ?_⟩
      rw [missing, hfull]
      exact (update_nil object.view).symm
    · rename_i hlength
      have hmissing := object.missing_update hlength
      obtain ⟨padded, hpadded, hview⟩ := ih (object.update [0x00]) (by omega)
      refine ⟨padded, hpadded, ?_⟩
      rw [hview, view_update, update_append, ← hmissing, List.replicate_succ]
      rfl

/-- Finishing the object is finishing the machine. -/
theorem finish_eq (object : Object) {fuel : Nat} (h : 64 ≤ fuel) :
    object.finish fuel = some (toHex (Sha256.finish object.view)) := by
  have hlt : (object.update [0x80]).missing < fuel := by
    unfold missing
    omega
  obtain ⟨padded, hpadded, hview⟩ := padTo56_eq fuel (object.update [0x80]) hlt
  have hmissing : (120 - (Sha256.update object.view [0x80]).buffer.length) % 64 =
      (object.update [0x80]).missing := by
    rw [← view_update, missing]
    simp only [view, length_held]
  have hstate : (padded.update (lengthBytes object.bitCount)).state =
      (Sha256.update
        (Sha256.update (Sha256.update object.view [0x80])
          (List.replicate (object.update [0x80]).missing 0))
        (LittleEndian.encode 8 object.view.bitCount.toNat).reverse).state := by
    rw [reverse_encode, ← view_update, ← hview, ← lengthBytes_eq, ← view_update]
    rfl
  rw [Sha256.finish]
  simp only [hmissing]
  rw [← hstate, finish, hpadded]
  rfl

end Object

theorem toHex_eq (data : Bytes) : toHex data = Sha2.lowerHex data := by
  have hbyte : ∀ value : Fin 256,
      [hexDigit (UInt8.ofFin value >>> 4), hexDigit (UInt8.ofFin value &&& 0x0F)] =
        [(Sha2.hexDigits.getD (value.val / 16) '0').toUInt8,
          (Sha2.hexDigits.getD (value.val % 16) '0').toUInt8] := by decide +kernel
  unfold toHex Sha2.lowerHex
  congr 1
  funext byte
  exact hbyte byte.toFin

/-- What the machine is fed in one piece. -/
theorem hash_eq (data : Bytes) (h : data.length < 2 ^ 61) :
    hash data = Sha2.lowerHex (Sha2.sha256 data) := by
  have hcount : (update {} data).bitCount.toNat = 8 * data.length := by
    change ((0 : UInt64) + UInt64.ofNat data.length * 8).toNat = 8 * data.length
    rw [UInt64.zero_add, UInt64.toNat_mul, UInt64.toNat_ofNat']
    change data.length % 2 ^ 64 * 8 % 2 ^ 64 = 8 * data.length
    omega
  rw [hash, toHex_eq, (fed_nil.update data).finish hcount, List.nil_append]

example : hash [0x61, 0x62, 0x63] =
    toHex [0xBA, 0x78, 0x16, 0xBF, 0x8F, 0x01, 0xCF, 0xEA, 0x41, 0x41, 0x40, 0xDE, 0x5D, 0xAE,
      0x22, 0x23, 0xB0, 0x03, 0x61, 0xA3, 0x96, 0x17, 0x7A, 0x9C, 0xB4, 0x10, 0xFF, 0x61, 0xF2,
      0x00, 0x15, 0xAD] := by
  decide +kernel

/-- However the data is cut, the object answers with the hash of all of it. -/
theorem incremental_hash (chunks : List Bytes) (fuel : Nat)
    (hlength : chunks.flatten.length < 2 ^ 61) (hfuel : 64 ≤ fuel) :
    (chunks.foldl Object.update {}).finish fuel =
      some (Sha2.lowerHex (Sha2.sha256 chunks.flatten)) := by
  rw [Object.finish_eq _ hfuel, Object.view_updates, ← hash_eq chunks.flatten hlength]
  rfl

theorem incremental_hash_abc :
    ([[0x61], [], [0x62, 0x63]] : List Bytes).flatten.length < 2 ^ 61 ∧
      ([[0x61], [], [0x62, 0x63]].foldl Object.update {}).finish 64 =
        some (Sha2.lowerHex (Sha2.sha256 [0x61, 0x62, 0x63])) :=
  ⟨by decide, incremental_hash [[0x61], [], [0x62, 0x63]] 64 (by decide) (by decide)⟩

end RackFabric.Sha256
