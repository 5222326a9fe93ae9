import RackFabric.Library.BlockHash
import Mathlib.Data.Nat.NthRoot.Defs
import Mathlib.Data.Nat.Prime.Basic
import Mathlib.Order.Bounds.Basic

/-! SHA-256 as FIPS 180-4 states it, for messages of whole bytes. -/
namespace Sha2

abbrev Word := BitVec 32

def ch (x y z : Word) : Word := (x &&& y) ^^^ (~~~x &&& z)

def maj (x y z : Word) : Word := (x &&& y) ^^^ (x &&& z) ^^^ (y &&& z)

def bigSigma0 (x : Word) : Word := x.rotateRight 2 ^^^ x.rotateRight 13 ^^^ x.rotateRight 22

def bigSigma1 (x : Word) : Word := x.rotateRight 6 ^^^ x.rotateRight 11 ^^^ x.rotateRight 25

def smallSigma0 (x : Word) : Word := x.rotateRight 7 ^^^ x.rotateRight 18 ^^^ (x >>> 3)

def smallSigma1 (x : Word) : Word := x.rotateRight 17 ^^^ x.rotateRight 19 ^^^ (x >>> 10)

def primes : List Nat := (List.range 312).filter fun n => n.Prime

/-- The first thirty-two bits of the fractional part of a root of a prime. -/
def rootFraction (degree : Nat) (prime : Nat) : Word :=
  BitVec.ofNat 32 (Nat.nthRoot degree (prime * 2 ^ (32 * degree)))

def constants : List Word := primes.map (rootFraction 3)

def bigEndian (count value : Nat) : List UInt8 :=
  (List.range count).map fun i => UInt8.ofNat (value / 256 ^ (count - 1 - i))

/-- Zero bytes between the mark and the length. -/
def zeros (length : Nat) : Nat := (119 - length % 64) % 64

def pad (message : List UInt8) : List UInt8 :=
  message ++ [0x80] ++ List.replicate (zeros message.length) 0 ++ bigEndian 8 (8 * message.length)

def wordAt (block : List UInt8) (t : Nat) : Word :=
  (block.getD (4 * t) 0).toBitVec ++ (block.getD (4 * t + 1) 0).toBitVec ++
    (block.getD (4 * t + 2) 0).toBitVec ++ (block.getD (4 * t + 3) 0).toBitVec

def schedule (block : List UInt8) (t : Nat) : Word :=
  if t < 16 then wordAt block t
  else
    smallSigma1 (schedule block (t - 2)) + schedule block (t - 7) +
      smallSigma0 (schedule block (t - 15)) + schedule block (t - 16)
termination_by t

/-- The eight chained words, and the working variables of the rounds. -/
structure Words where
  a : Word
  b : Word
  c : Word
  d : Word
  e : Word
  f : Word
  g : Word
  h : Word
deriving DecidableEq

def initial : Words where
  a := rootFraction 2 2
  b := rootFraction 2 3
  c := rootFraction 2 5
  d := rootFraction 2 7
  e := rootFraction 2 11
  f := rootFraction 2 13
  g := rootFraction 2 17
  h := rootFraction 2 19

def round (v : Words) (constant word : Word) : Words :=
  let t1 := v.h + bigSigma1 v.e + ch v.e v.f v.g + constant + word
  let t2 := bigSigma0 v.a + maj v.a v.b v.c
  { a := t1 + t2, b := v.a, c := v.b, d := v.c, e := v.d + t1, f := v.e, g := v.f, h := v.g }

def compress (hash : Words) (block : List UInt8) : Words :=
  let v := (List.range 64).foldl
    (fun v t => round v (constants.getD t 0) (schedule block t)) hash
  { a := v.a + hash.a, b := v.b + hash.b, c := v.c + hash.c, d := v.d + hash.d
    e := v.e + hash.e, f := v.f + hash.f, g := v.g + hash.g, h := v.h + hash.h }

def Words.bytes (hash : Words) : List UInt8 :=
  [hash.a, hash.b, hash.c, hash.d, hash.e, hash.f, hash.g, hash.h].flatMap
    fun word => bigEndian 4 word.toNat

def sha256 (message : List UInt8) : List UInt8 :=
  (BlockHash.chain 64 compress initial (pad message)).bytes

def hexDigits : List Char :=
  ['0', '1', '2', '3', '4', '5', '6', '7', '8', '9', 'a', 'b', 'c', 'd', 'e', 'f']

def lowerHex (bytes : List UInt8) : List UInt8 :=
  bytes.flatMap fun byte =>
    [(hexDigits.getD (byte.toNat / 16) '0').toUInt8, (hexDigits.getD (byte.toNat % 16) '0').toUInt8]

@[simp] theorem length_bigEndian (count value : Nat) : (bigEndian count value).length = count := by
  simp [bigEndian]

/-- In bits: the mark's seven zeros and the zero bytes are the least `k` that makes
`length + 1 + k` leave 448 modulo 512. -/
theorem isLeast_zeros (length : Nat) :
    IsLeast {k | (8 * length + 1 + k) % 512 = 448} (8 * zeros length + 7) := by
  unfold zeros
  constructor
  · simp only [Set.mem_ofPred_eq]
    omega
  · intro k hk
    simp only [Set.mem_ofPred_eq] at hk
    omega

theorem length_pad_mod (message : List UInt8) : (pad message).length % 64 = 0 := by
  simp only [pad, zeros, List.length_append, List.length_replicate, length_bigEndian,
    List.length_singleton]
  omega

end Sha2
