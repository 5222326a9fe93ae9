import RackFabric.Model.Codec

/-! The checksums of the durable formats: CRC-32C and SHA-256. -/
namespace RackFabric

/-- The entry of the reflected Castagnoli table for one byte. -/
def crc32cEntry (index : UInt32) : UInt32 :=
  (List.range 8).foldl
    (fun crc _ => if crc &&& 1 ≠ 0 then (crc >>> 1) ^^^ 0x82F63B78 else crc >>> 1) index

def crc32c (data : Bytes) (seed : UInt32 := 0) : UInt32 :=
  ~~~ data.foldl (fun crc byte => crc32cEntry ((crc ^^^ byte.toUInt32) &&& 0xFF) ^^^ (crc >>> 8))
    (~~~ seed)

namespace Sha256

/-- Fractional parts of the cube roots of the first 64 primes. -/
def constants : List UInt32 :=
  [0x428A2F98, 0x71374491, 0xB5C0FBCF, 0xE9B5DBA5, 0x3956C25B, 0x59F111F1, 0x923F82A4,
   0xAB1C5ED5, 0xD807AA98, 0x12835B01, 0x243185BE, 0x550C7DC3, 0x72BE5D74, 0x80DEB1FE,
   0x9BDC06A7, 0xC19BF174, 0xE49B69C1, 0xEFBE4786, 0x0FC19DC6, 0x240CA1CC, 0x2DE92C6F,
   0x4A7484AA, 0x5CB0A9DC, 0x76F988DA, 0x983E5152, 0xA831C66D, 0xB00327C8, 0xBF597FC7,
   0xC6E00BF3, 0xD5A79147, 0x06CA6351, 0x14292967, 0x27B70A85, 0x2E1B2138, 0x4D2C6DFC,
   0x53380D13, 0x650A7354, 0x766A0ABB, 0x81C2C92E, 0x92722C85, 0xA2BFE8A1, 0xA81A664B,
   0xC24B8B70, 0xC76C51A3, 0xD192E819, 0xD6990624, 0xF40E3585, 0x106AA070, 0x19A4C116,
   0x1E376C08, 0x2748774C, 0x34B0BCB5, 0x391C0CB3, 0x4ED8AA4A, 0x5B9CCA4F, 0x682E6FF3,
   0x748F82EE, 0x78A5636F, 0x84C87814, 0x8CC70208, 0x90BEFFFA, 0xA4506CEB, 0xBEF9A3F7,
   0xC67178F2]

def rotr (value count : UInt32) : UInt32 :=
  (value >>> count) ||| (value <<< (32 - count))

def bigSigma0 (x : UInt32) : UInt32 := rotr x 2 ^^^ rotr x 13 ^^^ rotr x 22

def bigSigma1 (x : UInt32) : UInt32 := rotr x 6 ^^^ rotr x 11 ^^^ rotr x 25

def smallSigma0 (x : UInt32) : UInt32 := rotr x 7 ^^^ rotr x 18 ^^^ (x >>> 3)

def smallSigma1 (x : UInt32) : UInt32 := rotr x 17 ^^^ rotr x 19 ^^^ (x >>> 10)

/-- Big-endian words of a block. -/
def words : Bytes → List UInt32
  | a :: b :: c :: d :: rest =>
      ((a.toUInt32 <<< 24) ||| (b.toUInt32 <<< 16) ||| (c.toUInt32 <<< 8) ||| d.toUInt32) ::
        words rest
  | _ => []

def schedule (block : Bytes) : List UInt32 :=
  (List.range 48).foldl
    (fun w i => w ++
      [smallSigma1 (w.getD (i + 14) 0) + w.getD (i + 9) 0 + smallSigma0 (w.getD (i + 1) 0) +
        w.getD i 0])
    (words block)

structure State where
  a : UInt32 := 0x6A09E667
  b : UInt32 := 0xBB67AE85
  c : UInt32 := 0x3C6EF372
  d : UInt32 := 0xA54FF53A
  e : UInt32 := 0x510E527F
  f : UInt32 := 0x9B05688C
  g : UInt32 := 0x1F83D9AB
  h : UInt32 := 0x5BE0CD19

def round (s : State) (input : UInt32 × UInt32) : State :=
  let t1 := s.h + bigSigma1 s.e + ((s.e &&& s.f) ^^^ (~~~ s.e &&& s.g)) + input.1 + input.2
  let t2 := bigSigma0 s.a + ((s.a &&& s.b) ^^^ (s.a &&& s.c) ^^^ (s.b &&& s.c))
  { a := t1 + t2, b := s.a, c := s.b, d := s.c, e := s.d + t1, f := s.e, g := s.f, h := s.g }

def transform (s : State) (block : Bytes) : State :=
  let t := (constants.zip (schedule block)).foldl round s
  { a := s.a + t.a, b := s.b + t.b, c := s.c + t.c, d := s.d + t.d
    e := s.e + t.e, f := s.f + t.f, g := s.g + t.g, h := s.h + t.h }

structure Hasher where
  state : State := {}
  buffer : Bytes := []
  bitCount : UInt64 := 0

/-- The buffer is transformed as soon as it holds a block. -/
def absorb (hasher : Hasher) (byte : UInt8) : Hasher :=
  let buffer := hasher.buffer ++ [byte]
  if buffer.length = 64 then { hasher with state := transform hasher.state buffer, buffer := [] }
  else { hasher with buffer := buffer }

def update (hasher : Hasher) (data : Bytes) : Hasher :=
  let absorbed := data.foldl absorb hasher
  { absorbed with bitCount := hasher.bitCount + UInt64.ofNat data.length * 8 }

def bigEndian32 (value : UInt32) : Bytes := (LittleEndian.encode 4 value.toNat).reverse

def digestBytes (s : State) : Bytes :=
  [s.a, s.b, s.c, s.d, s.e, s.f, s.g, s.h].flatMap bigEndian32

end Sha256

/-- The lower-case digit of a nibble. -/
def hexDigit (nibble : UInt8) : UInt8 :=
  if nibble < 10 then 0x30 + nibble else 0x57 + nibble

def toHex (data : Bytes) : Str :=
  data.flatMap fun (byte : UInt8) => [hexDigit (byte >>> 4), hexDigit (byte &&& 0x0F)]

/-- The value of a lower-case digit. -/
def nibble (digit : UInt8) : UInt8 :=
  if digit ≤ 0x39 then digit - 0x30 else digit - 0x61 + 10

def fromHex : Str → Bytes
  | high :: low :: rest => (nibble high <<< 4 ||| nibble low) :: fromHex rest
  | _ => []

theorem nibbles_of_byte (byte : UInt8) :
    nibble (hexDigit (byte >>> 4)) <<< 4 ||| nibble (hexDigit (byte &&& 0x0F)) = byte := by
  have h : ∀ value : Fin 256,
      nibble (hexDigit (UInt8.ofFin value >>> 4)) <<< 4 |||
        nibble (hexDigit (UInt8.ofFin value &&& 0x0F)) = UInt8.ofFin value := by decide +kernel
  exact h byte.toFin

@[simp] theorem fromHex_toHex (data : Bytes) : fromHex (toHex data) = data := by
  induction data with
  | nil => rfl
  | cons byte data ih =>
    change (nibble (hexDigit (byte >>> 4)) <<< 4 ||| nibble (hexDigit (byte &&& 0x0F))) ::
      fromHex (toHex data) = byte :: data
    rw [nibbles_of_byte, ih]

namespace Sha256

/-- The padding byte, zeros up to the length field, and the bit count. -/
def finish (hasher : Hasher) : Bytes :=
  let marked := update hasher [0x80]
  let zeros := (120 - marked.buffer.length) % 64
  let padded := update marked (List.replicate zeros 0)
  digestBytes (update padded (LittleEndian.encode 8 hasher.bitCount.toNat).reverse).state

def hash (data : Bytes) : Str := toHex (finish (update {} data))

@[simp] theorem length_finish (hasher : Hasher) : (finish hasher).length = 32 := by
  simp [finish, digestBytes, bigEndian32]

end Sha256

/-- The bytes written before a failure are hashed all the same. -/
def computeSnapshotDigest (snapshot : RackSnapshot) (limits : ResourceLimits) : Str :=
  let writer : ByteWriter := { limits := limits, maxBytes := limits.maxPayloadBytes }
  Sha256.hash (writer.writeAll (encodeSnapshot snapshot)).buffer

end RackFabric
