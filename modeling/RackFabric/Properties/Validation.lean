import RackFabric.Model.Authorize

/-! What the validators of evidence, quantities and member records let pass. -/
namespace RackFabric

@[simp] theorem firstError_cons (error : Option String) (errors : List (Option String)) :
    firstError (error :: errors) = none ↔ error = none ∧ firstError errors = none := by
  simp [firstError]

@[simp] theorem firstError_nil : firstError [] = none := rfl

structure Observation.Valid (evidence : Observation) : Prop where
  lifetime : ttlIsValid evidence.ttl = true
  expires : evidence.durability = .ephemeral → evidence.ttl ≠ 0
  dated : evidence.provenance ≠ .unknown → evidence.observedAt.known = true
  undated : evidence.provenance = .unknown → evidence.observedAt.known = false

theorem validateEvidence_eq_none {evidence : Observation} :
    validateEvidence evidence = none ↔ evidence.Valid := by
  simp only [validateEvidence, firstError_cons, firstError_nil, errorIf_eq_none, and_true,
    Bool.not_eq_false', decide_eq_false_iff_not, not_and, Bool.not_eq_true, Bool.not_eq_true']
  constructor
  · rintro ⟨hlifetime, hexpires, hdated, hundated⟩
    exact ⟨hlifetime, hexpires, fun hprovenance => by simpa using hdated hprovenance, hundated⟩
  · intro h
    exact ⟨h.lifetime, h.expires, fun hprovenance => by simpa using h.dated hprovenance, h.undated⟩

structure Quantity.Valid (quantity : Quantity) : Prop where
  measured : quantity.unit ≠ .none
  finite : quantity.value.isFinite = true
  nonnegative : quantity.value.lt {} = false
  uncertainty : validateUncertainty quantity.uncertainty = none
  evidence : quantity.toObservation.Valid

theorem validateQuantity_eq_none {quantity : Quantity} {unit : QuantityUnit} :
    validateQuantity quantity unit = none ↔ quantity.unit = unit ∧ quantity.Valid := by
  simp only [validateQuantity, firstError_cons, firstError_nil, errorIf_eq_none, and_true,
    validateEvidence_eq_none, Bool.not_eq_false', decide_eq_false_iff_not, ne_eq, not_not]
  constructor
  · rintro ⟨hmeasured, hfinite, hnonnegative, hunit, huncertainty, hevidence⟩
    exact ⟨hunit, hmeasured, hfinite, hnonnegative, huncertainty, hevidence⟩
  · rintro ⟨hunit, h⟩
    exact ⟨h.measured, h.finite, h.nonnegative, hunit, h.uncertainty, h.evidence⟩

theorem validateQuantity_own {quantity : Quantity} :
    validateQuantity quantity quantity.unit = none ↔ quantity.Valid := by
  rw [validateQuantity_eq_none, and_iff_right rfl]

/-! Texts. -/

theorem length_le_of_validateLabel {value : Str} (h : (validateLabel value).ok = true) :
    value.length ≤ kMaxIdentityLength := by
  by_contra hlong
  have hne : value ≠ [] := by
    rintro rfl
    simp at hlong
  simp [validateLabel, hne, Nat.lt_of_not_le hlong, IdentityValidation.ok] at h

theorem forall_label_ok {label : Option Str}
    (h : (label.any fun text => !(validateLabel text).ok) = false) :
    ∀ text ∈ label, (validateLabel text).ok = true := by
  rintro text rfl
  simpa using h

theorem firstError_map_eq_none {α : Type} {check : α → Option String} {values : List α} :
    firstError (values.map check) = none ↔ ∀ value ∈ values, check value = none := by
  induction values with
  | nil => simp
  | cons value values ih => rw [List.map_cons, firstError_cons, ih, List.forall_mem_cons]

end RackFabric
