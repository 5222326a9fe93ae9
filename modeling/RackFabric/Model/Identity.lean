import RackFabric.Library.Enumeration
import RackFabric.Model.Text

/-! Textual identities are bounded and validated where they are built. -/
namespace RackFabric
open Std

def kMaxIdentityLength : Nat := 128

inductive IdentityStatus where
  | ok | empty | tooLong | invalidCharacter | reserved
deriving DecidableEq

structure IdentityValidation where
  status : IdentityStatus := .ok
  position : Nat := 0
deriving DecidableEq

def IdentityValidation.ok (validation : IdentityValidation) : Bool :=
  validation.status = .ok

/-- ASCII letters, digits and the separators `-`, `_`, `.`, `:`, `@` and `+`. -/
def isIdentityChar (u : UInt8) : Bool :=
  (0x30 ≤ u ∧ u ≤ 0x39) ∨ (0x61 ≤ u ∧ u ≤ 0x7A) ∨ (0x41 ≤ u ∧ u ≤ 0x5A) ∨
    u ∈ str "-_.:@+"

/-- The position of the first pair of dots, `value.find("..")`. -/
def findDotDot : Str → Option Nat
  | first :: second :: rest =>
      if first = 0x2E ∧ second = 0x2E then some 0
      else (findDotDot (second :: rest)).map (· + 1)
  | _ => none

def validateIdentity (value : Str) : IdentityValidation :=
  if value = [] then ⟨.empty, 0⟩
  else if value.length > kMaxIdentityLength then ⟨.tooLong, kMaxIdentityLength⟩
  else match value.findIdx? (fun u => !isIdentityChar u) with
    | some position => ⟨.invalidCharacter, position⟩
    | none =>
        if value = str "." ∨ value = str ".." then ⟨.reserved, 0⟩
        else match findDotDot value with
          | some position => ⟨.reserved, position⟩
          | none => {}

/-- Labels may hold any printable ASCII byte. -/
def validateLabel (value : Str) : IdentityValidation :=
  if value = [] then ⟨.empty, 0⟩
  else if value.length > kMaxIdentityLength then ⟨.tooLong, kMaxIdentityLength⟩
  else match value.findIdx? (fun u => u < 0x20 ∨ u > 0x7E) with
    | some position => ⟨.invalidCharacter, position⟩
    | none => {}

theorem ne_nil_of_validateIdentity {value : Str} (h : (validateIdentity value).ok = true) :
    value ≠ [] := by
  rintro rfl
  simp [validateIdentity, IdentityValidation.ok] at h

theorem length_le_of_validateIdentity {value : Str} (h : (validateIdentity value).ok = true) :
    value.length ≤ kMaxIdentityLength := by
  by_contra hlong
  have hne := ne_nil_of_validateIdentity h
  simp [validateIdentity, hne, Nat.lt_of_not_le hlong, IdentityValidation.ok] at h

/-- What an identity names; identities of different tags never mix. -/
inductive IdentityTag where
  | rack | rackEpoch | worker | agentBoot | powerDomain | coolingDomain | switch
  | failureDomain | link | capability | snapshot
deriving DecidableEq

/-- An identity is unset or valid, so an invalid text never travels as one. -/
structure StrongId (tag : IdentityTag) where
  value : Str
  unset_or_valid : value = [] ∨ (validateIdentity value).ok = true
deriving DecidableEq

namespace StrongId
variable {tag : IdentityTag}

/-- The unset identity. -/
instance : Inhabited (StrongId tag) := ⟨⟨[], .inl rfl⟩⟩

/-- Text that is not a valid identity yields the unset identity. -/
def ofText (value : Str) : StrongId tag :=
  if h : (validateIdentity value).ok = true then ⟨value, .inr h⟩ else default

def parse (value : Str) : Option (StrongId tag) :=
  if h : (validateIdentity value).ok = true then some ⟨value, .inr h⟩ else none

def isSet (id : StrongId tag) : Bool :=
  id.value ≠ []

theorem ext_value {left right : StrongId tag} (h : left.value = right.value) : left = right := by
  cases left
  cases right
  simpa using h

theorem isSet_iff_valid (id : StrongId tag) :
    id.isSet = true ↔ (validateIdentity id.value).ok = true := by
  constructor
  · intro h
    exact id.unset_or_valid.resolve_left (by simpa [isSet] using h)
  · intro h
    simpa [isSet] using ne_nil_of_validateIdentity h

theorem parse_value (id : StrongId tag) :
    parse id.value = if id.isSet then some id else none := by
  unfold parse
  by_cases h : (validateIdentity id.value).ok = true
  · simp [h, id.isSet_iff_valid.mpr h]
  · simp [h, mt id.isSet_iff_valid.mp h]

theorem eq_of_parse {value : Str} {id : StrongId tag} (h : parse value = some id) :
    id.value = value ∧ id.isSet = true := by
  unfold parse at h
  split at h
  · rename_i hvalid
    cases h
    exact ⟨rfl, (isSet_iff_valid _).mpr hvalid⟩
  · cases h

theorem length_value_le (id : StrongId tag) : id.value.length ≤ kMaxIdentityLength := by
  rcases id.unset_or_valid with h | h
  · simp [h]
  · exact length_le_of_validateIdentity h

instance : Ord (StrongId tag) := ⟨compareOn value⟩

instance : TransOrd (StrongId tag) := inferInstanceAs (TransCmp (compareOn value))

instance : LawfulEqOrd (StrongId tag) where
  eq_of_compare h := ext_value (Enumeration.eq_of_compareOn h)

end StrongId

abbrev RackId := StrongId .rack
abbrev RackEpochId := StrongId .rackEpoch
abbrev WorkerId := StrongId .worker
abbrev AgentBootId := StrongId .agentBoot
abbrev PowerDomainId := StrongId .powerDomain
abbrev CoolingDomainId := StrongId .coolingDomain
abbrev SwitchId := StrongId .switch
abbrev FailureDomainId := StrongId .failureDomain
abbrev LinkId := StrongId .link
abbrev CapabilityId := StrongId .capability
abbrev SnapshotId := StrongId .snapshot

end RackFabric
