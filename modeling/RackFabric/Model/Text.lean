import Mathlib.Algebra.Ring.Nat
import Mathlib.Tactic.Common

/-! Byte strings and the texts the runtime writes. -/
namespace RackFabric

/-- A `std::string` is the sequence of its bytes. -/
abbrev Str := List UInt8

abbrev Bytes := List UInt8

def str (text : String) : Str :=
  text.toList.map fun c => UInt8.ofNat c.toNat

/-- `std::to_string` of an unsigned value. -/
def decimal (value : Nat) : Str :=
  (Nat.toDigits 10 value).map fun c => UInt8.ofNat c.toNat

end RackFabric
