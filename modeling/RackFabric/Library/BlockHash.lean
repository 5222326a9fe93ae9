import Mathlib.Algebra.Order.Ring.Nat
import Mathlib.Data.List.Basic
import Mathlib.Tactic.Common

/-! Hashes that chain a compression function over blocks of one size, and the machine
that is fed one symbol at a time and keeps the unfinished block. -/
namespace BlockHash

variable {α σ : Type} {size : Nat}

def blocks (size : Nat) (message : List α) : List (List α) :=
  (List.range (message.length / size)).map fun i => (message.drop (size * i)).take size

def rest (size : Nat) (message : List α) : List α :=
  message.drop (size * (message.length / size))

def chain (size : Nat) (compress : σ → List α → σ) (initial : σ) (message : List α) : σ :=
  (blocks size message).foldl compress initial

@[simp] theorem rest_nil : rest size ([] : List α) = [] := by
  simp [rest]

@[simp] theorem chain_nil (compress : σ → List α → σ) (initial : σ) :
    chain size compress initial [] = initial := by
  simp [chain, blocks]

@[simp] theorem length_rest (message : List α) :
    (rest size message).length = message.length % size := by
  have h := Nat.div_add_mod message.length size
  simp only [rest, List.length_drop]
  omega

theorem block_within {length i : Nat} (h : i < length / size) : size * i + size ≤ length := by
  calc size * i + size = size * (i + 1) := rfl
    _ ≤ size * (length / size) := Nat.mul_le_mul_left size h
    _ ≤ length := Nat.mul_div_le length size

/-- Full blocks are not affected by what is appended. -/
theorem block_append (message tail : List α) {i : Nat} (h : i < message.length / size) :
    ((message ++ tail).drop (size * i)).take size = (message.drop (size * i)).take size := by
  have hroom := block_within h
  rw [List.drop_append_of_le_length (by omega), List.take_append_of_le_length]
  simp only [List.length_drop]
  omega

theorem div_of_short {length more : Nat} (h : length % size + more < size) :
    (length + more) / size = length / size := by
  have hsplit := Nat.div_add_mod length size
  rw [Nat.div_eq_iff (by omega)]
  have hcomm := Nat.mul_comm size (length / size)
  omega

theorem div_of_full {length more : Nat} (hsize : 0 < size) (h : length % size + more = size) :
    (length + more) / size = length / size + 1 := by
  have hsplit := Nat.div_add_mod length size
  have hcomm := Nat.mul_comm size (length / size)
  have hsum : length + more = (length / size + 1) * size := by
    rw [Nat.add_mul]
    omega
  rw [hsum, Nat.mul_div_cancel _ hsize]

/-- An append that does not fill the block changes only what is left over. -/
theorem append_of_short (compress : σ → List α → σ) (initial : σ) {message tail : List α}
    (h : (rest size message).length + tail.length < size) :
    chain size compress initial (message ++ tail) = chain size compress initial message ∧
      rest size (message ++ tail) = rest size message ++ tail := by
  rw [length_rest] at h
  have hdiv : (message ++ tail).length / size = message.length / size := by
    rw [List.length_append, div_of_short h]
  constructor
  · have hblocks : blocks size (message ++ tail) = blocks size message := by
      unfold blocks
      rw [hdiv]
      apply List.map_congr_left
      intro i hi
      exact block_append message tail (List.mem_range.mp hi)
    rw [chain, hblocks, chain]
  · rw [rest, hdiv, List.drop_append_of_le_length (Nat.mul_div_le message.length size), rest]

/-- An append that fills the block compresses it. -/
theorem append_of_full (compress : σ → List α → σ) (initial : σ) {message tail : List α}
    (hsize : 0 < size) (h : (rest size message).length + tail.length = size) :
    chain size compress initial (message ++ tail) =
        compress (chain size compress initial message) (rest size message ++ tail) ∧
      rest size (message ++ tail) = [] := by
  have hfull := h
  rw [length_rest] at h
  have hdiv : (message ++ tail).length / size = message.length / size + 1 := by
    rw [List.length_append, div_of_full hsize h]
  have hdrop : (message ++ tail).drop (size * (message.length / size)) =
      rest size message ++ tail := by
    rw [List.drop_append_of_le_length (Nat.mul_div_le message.length size), rest]
  constructor
  · have hblocks : blocks size (message ++ tail) =
        blocks size message ++ [rest size message ++ tail] := by
      unfold blocks
      rw [hdiv, List.range_succ, List.map_append, List.map_singleton, hdrop]
      congr 1
      · apply List.map_congr_left
        intro i hi
        exact block_append message tail (List.mem_range.mp hi)
      · rw [List.take_of_length_le]
        rw [List.length_append, hfull]
    rw [chain, hblocks, List.foldl_append, chain]
    rfl
  · apply List.length_eq_zero_iff.mp
    rw [length_rest, List.length_append, ← Nat.mod_add_mod, h, Nat.mod_self]

end BlockHash
