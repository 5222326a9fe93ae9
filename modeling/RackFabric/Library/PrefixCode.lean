import Mathlib.Data.List.Basic
import Mathlib.Tactic.Common

/-! Codes whose words can be told apart from whatever follows them, and how they
compose. A word may determine a view of its value only, and only where the value
is valid. -/
namespace PrefixCode

variable {α β γ δ ι : Type}

/-- Two words that begin the same text have the same view and leave the same rest. -/
def Determines (valid : α → Prop) (encode : α → List γ) (view : α → β) : Prop :=
  ∀ ⦃left right : α⦄ ⦃restLeft restRight : List γ⦄, valid left → valid right →
    encode left ++ restLeft = encode right ++ restRight →
    view left = view right ∧ restLeft = restRight

namespace Determines
variable {valid valid' : α → Prop} {encode first second : α → List γ} {view : α → β}

theorem mono (h : Determines valid encode view) (hvalid : ∀ value, valid' value → valid value) :
    Determines valid' encode view :=
  fun _ _ _ _ hleft hright hsame => h (hvalid _ hleft) (hvalid _ hright) hsame

theorem comp (h : Determines valid encode view) (field : ι → α) :
    Determines (fun value => valid (field value)) (fun value => encode (field value))
      (fun value => view (field value)) :=
  fun _ _ _ _ hleft hright hsame => h hleft hright hsame

theorem narrow {view' : α → δ} (h : Determines valid encode view)
    (hview : ∀ left right, view left = view right → view' left = view' right) :
    Determines valid encode view' := by
  intro left right restLeft restRight hleft hright hsame
  obtain ⟨hvalue, hrest⟩ := h hleft hright hsame
  exact ⟨hview left right hvalue, hrest⟩

/-- Words of one width are told apart by their letters. -/
theorem of_width (width : Nat) (hwidth : ∀ value, (encode value).length = width)
    (hletters : ∀ left right, valid left → valid right → encode left = encode right →
      view left = view right) :
    Determines valid encode view := by
  intro left right restLeft restRight hleft hright hsame
  have hlength : (encode left).length = (encode right).length := by rw [hwidth, hwidth]
  obtain ⟨hword, hrest⟩ := List.append_inj hsame hlength
  exact ⟨hletters left right hleft hright hword, hrest⟩

theorem append {view' : α → δ} (hfirst : Determines valid first view)
    (hsecond : Determines valid second view') :
    Determines valid (fun value => first value ++ second value)
      (fun value => (view value, view' value)) := by
  intro left right restLeft restRight hleft hright hsame
  rw [List.append_assoc, List.append_assoc] at hsame
  obtain ⟨hview, hrest⟩ := hfirst hleft hright hsame
  obtain ⟨hview', hrest⟩ := hsecond hleft hright hrest
  exact ⟨Prod.ext hview hview', hrest⟩

/-- The first word is the key to how the second is read. -/
theorem keyed {key : α → ι} (hkey : Determines valid first key)
    (hvalue : ∀ k, Determines (fun value => valid value ∧ key value = k) second view) :
    Determines valid (fun value => first value ++ second value) view := by
  intro left right restLeft restRight hleft hright hsame
  rw [List.append_assoc, List.append_assoc] at hsame
  obtain ⟨hsamekey, hrest⟩ := hkey hleft hright hsame
  exact hvalue (key right) ⟨hleft, hsamekey⟩ ⟨hright, rfl⟩ hrest

/-- A list of known length is read element by element. -/
theorem flatMap (h : Determines valid encode id) (length : Nat) :
    Determines (fun values : List α => (∀ value ∈ values, valid value) ∧ values.length = length)
      (fun values => values.flatMap encode) id := by
  induction length with
  | zero =>
    rintro left right restLeft restRight ⟨-, hleft⟩ ⟨-, hright⟩ hsame
    obtain rfl := List.eq_nil_of_length_eq_zero hleft
    obtain rfl := List.eq_nil_of_length_eq_zero hright
    exact ⟨rfl, hsame⟩
  | succ length ih =>
    rintro left right restLeft restRight ⟨hleft, hlength⟩ ⟨hright, hlength'⟩ hsame
    obtain ⟨first, left, rfl⟩ := List.exists_cons_of_length_eq_add_one hlength
    obtain ⟨first', right, rfl⟩ := List.exists_cons_of_length_eq_add_one hlength'
    rw [List.forall_mem_cons] at hleft hright
    simp only [List.flatMap_cons, List.append_assoc] at hsame
    obtain ⟨hfirst, hrest⟩ := h hleft.1 hright.1 hsame
    obtain ⟨hlater, hrest⟩ := ih ⟨hleft.2, Nat.succ.inj hlength⟩
      ⟨hright.2, Nat.succ.inj hlength'⟩ hrest
    exact ⟨congrArg₂ List.cons hfirst hlater, hrest⟩

end Determines

end PrefixCode
