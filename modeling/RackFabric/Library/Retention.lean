import RackFabric.Library.Tables

/-! A table that retains the last records of a history: each record is stored under its
own key, the keys are numbered, and a full table gives up its least key first. -/
namespace Retention
open Std Tables

section History
variable {κ ρ : Type} {number : κ → Nat} {keyOf : ρ → κ} {limit : Nat} {history : List ρ}

def recent (limit : Nat) (history : List ρ) : List ρ :=
  history.drop (history.length - limit)

@[simp] theorem length_recent (limit : Nat) (history : List ρ) :
    (recent limit history).length = min history.length limit := by
  simp only [recent, List.length_drop]
  omega

/-- What was given up before is not missed later. -/
theorem recent_recent_concat (limit : Nat) (history : List ρ) (record : ρ) :
    recent limit (recent limit history ++ [record]) = recent limit (history ++ [record]) := by
  have hlength := length_recent limit history
  have hdrop : recent limit history ++ [record] =
      (history ++ [record]).drop (history.length - limit) :=
    (List.drop_append_of_le_length (Nat.sub_le _ _)).symm
  rw [hdrop]
  unfold recent
  rw [List.drop_drop, List.length_drop, List.length_append, List.length_singleton]
  congr 1
  omega

def Numbered (number : κ → Nat) (keyOf : ρ → κ) (history : List ρ) : Prop :=
  ∀ i record, history[i]? = some record → number (keyOf record) = i + 1

theorem numbered_nil : Numbered number keyOf [] := by
  intro i record h
  simp at h

theorem Numbered.concat (h : Numbered number keyOf history) {record : ρ}
    (hrecord : number (keyOf record) = history.length + 1) :
    Numbered number keyOf (history ++ [record]) := by
  intro i found hfound
  by_cases hi : i < history.length
  · rw [List.getElem?_append_left hi] at hfound
    exact h i found hfound
  · rw [List.getElem?_append_right (by omega), List.getElem?_singleton] at hfound
    split at hfound
    · cases hfound
      omega
    · cases hfound

theorem Numbered.bounds (h : Numbered number keyOf history) {record : ρ}
    (hmem : record ∈ history) :
    1 ≤ number (keyOf record) ∧ number (keyOf record) ≤ history.length := by
  obtain ⟨i, hi⟩ := List.mem_iff_getElem?.mp hmem
  have hnumber := h i record hi
  have hlt : i < history.length := by
    by_contra hge
    rw [List.getElem?_eq_none (by omega)] at hi
    cases hi
  omega

theorem Numbered.mem_recent (h : Numbered number keyOf history) {record : ρ} :
    record ∈ recent limit history ↔
      record ∈ history ∧ history.length < number (keyOf record) + limit := by
  simp only [recent, List.mem_iff_getElem?, List.getElem?_drop]
  constructor
  · rintro ⟨i, hi⟩
    have hnumber := h _ _ hi
    exact ⟨⟨_, hi⟩, by omega⟩
  · rintro ⟨⟨i, hi⟩, hlate⟩
    have hnumber := h _ _ hi
    refine ⟨i - (history.length - limit), ?_⟩
    rw [← hi]
    congr 1
    omega

end History

variable {κ ρ : Type} [Ord κ] [TransOrd κ] [LawfulEqOrd κ] {number : κ → Nat} {keyOf : ρ → κ}
  {limit : Nat} {table : ExtTreeMap κ ρ} {history : List ρ}

def evict (limit : Nat) (table : ExtTreeMap κ ρ) : ExtTreeMap κ ρ :=
  if table.size ≥ limit then
    match table.minKey? with
    | none => table
    | some oldest => table.erase oldest
  else table

def retain (limit : Nat) (table : ExtTreeMap κ ρ) (key : κ) (record : ρ) : ExtTreeMap κ ρ :=
  (evict limit table).insert key record

structure Keeps (number : κ → Nat) (keyOf : ρ → κ) (limit : Nat) (table : ExtTreeMap κ ρ)
    (history : List ρ) : Prop where
  numbered : Numbered number keyOf history
  stored : ∀ key record, table[key]? = some record ↔
    record ∈ history ∧ history.length < number key + limit ∧ keyOf record = key

omit [LawfulEqOrd κ] in
theorem keeps_empty : Keeps number keyOf limit (∅ : ExtTreeMap κ ρ) [] where
  numbered := numbered_nil
  stored key record := by simp

/-- In the order of the keys the table is the last part of the history. -/
theorem Keeps.toList_eq (h : Keeps number keyOf limit table history)
    (hordered : ∀ left right : κ, compare left right = .lt ↔ number left < number right) :
    table.toList = (recent limit history).map fun record => (keyOf record, record) := by
  have hsorted : ((recent limit history).map fun record => (keyOf record, record)).Pairwise
      fun left right => compare left.1 right.1 = .lt := by
    rw [List.pairwise_map, List.pairwise_iff_getElem]
    intro i j hi hj hlt
    rw [hordered]
    simp only [recent, List.getElem_drop]
    rw [h.numbered _ _ (List.getElem?_eq_getElem _), h.numbered _ _ (List.getElem?_eq_getElem _)]
    omega
  have hdistinct : ∀ {entries : List (κ × ρ)},
      entries.Pairwise (fun left right => compare left.1 right.1 = .lt) → entries.Nodup := by
    intro entries hpairwise
    refine hpairwise.imp fun hlt heq => ?_
    rw [heq, compare_self] at hlt
    cases hlt
  have hsame : ∀ entry, entry ∈ table.toList ↔
      entry ∈ (recent limit history).map fun record => (keyOf record, record) := by
    rintro ⟨key, record⟩
    rw [ExtTreeMap.mem_toList_iff_getElem?_eq_some, h.stored]
    simp only [List.mem_map, Prod.mk.injEq]
    constructor
    · rintro ⟨hmem, hlate, rfl⟩
      exact ⟨record, h.numbered.mem_recent.mpr ⟨hmem, hlate⟩, rfl, rfl⟩
    · rintro ⟨found, hfound, rfl, rfl⟩
      obtain ⟨hmem, hlate⟩ := h.numbered.mem_recent.mp hfound
      exact ⟨hmem, hlate, rfl⟩
  refine List.Perm.eq_of_pairwise (fun left right _ _ hlt hgt => ?_)
    ExtTreeMap.ordered_keys_toList hsorted
    ((List.perm_ext_iff_of_nodup (hdistinct ExtTreeMap.ordered_keys_toList)
      (hdistinct hsorted)).mpr hsame)
  rw [hordered] at hlt hgt
  omega

theorem Keeps.size_eq (h : Keeps number keyOf limit table history)
    (hordered : ∀ left right : κ, compare left right = .lt ↔ number left < number right) :
    table.size = min history.length limit := by
  rw [← ExtTreeMap.length_toList, h.toList_eq hordered, List.length_map, length_recent]

/-- The least key of a table with room for a record is that of its first one. -/
theorem Keeps.number_minKey (h : Keeps number keyOf limit table history)
    (hordered : ∀ left right : κ, compare left right = .lt ↔ number left < number right)
    (hlimit : 1 ≤ limit) (hfull : limit ≤ history.length) {oldest : κ}
    (holdest : table.minKey? = some oldest) : number oldest + limit = history.length + 1 := by
  obtain ⟨hmem, hleast⟩ := ExtTreeMap.minKey?_eq_some_iff_mem_and_forall.mp holdest
  obtain ⟨record, hrecord⟩ := Option.isSome_iff_exists.mp
    (ExtTreeMap.mem_iff_isSome_getElem?.mp hmem)
  obtain ⟨-, hlate, -⟩ := (h.stored oldest record).mp hrecord
  have hlt : history.length - limit < history.length := by omega
  have hfirst := List.getElem?_eq_getElem hlt
  have hnumber := h.numbered _ _ hfirst
  have hstored := (h.stored _ _).mpr ⟨List.mem_of_getElem? hfirst, by omega, rfl⟩
  have hle := hleast _ (ExtTreeMap.mem_iff_isSome_getElem?.mpr (by rw [hstored]; rfl))
  have hnot : ¬ number (keyOf history[history.length - limit]) < number oldest := by
    intro hless
    rw [← hordered, ← OrientedCmp.gt_iff_lt] at hless
    rw [hless] at hle
    cases hle
  omega

theorem Keeps.getElem?_evict (h : Keeps number keyOf limit table history)
    (hordered : ∀ left right : κ, compare left right = .lt ↔ number left < number right)
    (hlimit : 1 ≤ limit) (key : κ) (record : ρ) :
    (evict limit table)[key]? = some record ↔
      record ∈ history ∧ history.length + 1 < number key + limit ∧ keyOf record = key := by
  have hsize := h.size_eq hordered
  unfold evict
  split
  · rename_i hfull
    cases holdest : table.minKey? with
    | none =>
      rw [ExtTreeMap.minKey?_eq_none_iff] at holdest
      simp [holdest] at hfull
      omega
    | some oldest =>
      have hnumber := h.number_minKey hordered hlimit (by omega) holdest
      rw [ExtTreeMap.getElem?_erase]
      split
      · rename_i hkey
        obtain rfl := LawfulEqCmp.compare_eq_iff_eq.mp hkey
        simp only [reduceCtorEq, false_iff, not_and]
        omega
      · rename_i hkey
        rw [h.stored]
        refine and_congr_right fun hmem => and_congr_left fun hfound => ?_
        have hother : number key ≠ number oldest := by
          intro heq
          have hnot := (hordered oldest key).not.mpr (by omega)
          have hnot' := (hordered key oldest).not.mpr (by omega)
          cases hcompare : compare oldest key with
          | lt => exact hnot hcompare
          | eq => exact hkey hcompare
          | gt => exact hnot' (OrientedCmp.gt_iff_lt.mp hcompare)
        omega
  · rw [h.stored]
    refine and_congr_right fun hmem => and_congr_left fun hfound => ?_
    obtain ⟨hone, -⟩ := h.numbered.bounds hmem
    rw [hfound] at hone
    omega

/-- Storing the next record of the history gives up the oldest one retained. -/
theorem Keeps.retain (h : Keeps number keyOf limit table history)
    (hordered : ∀ left right : κ, compare left right = .lt ↔ number left < number right)
    (hlimit : 1 ≤ limit) {record : ρ}
    (hnext : number (keyOf record) = history.length + 1) :
    Keeps number keyOf limit (Retention.retain limit table (keyOf record) record)
      (history ++ [record]) where
  numbered := h.numbered.concat hnext
  stored key found := by
    have hother : found ∈ history → keyOf found ≠ keyOf record := by
      intro hmem heq
      have hbound := h.numbered.bounds hmem
      rw [heq] at hbound
      omega
    simp only [Retention.retain, ExtTreeMap.getElem?_insert, List.mem_append,
      List.mem_singleton, List.length_append, List.length_singleton]
    split
    · rename_i hkey
      obtain rfl := LawfulEqCmp.compare_eq_iff_eq.mp hkey
      constructor
      · intro hsame
        obtain rfl := Option.some.inj hsame
        exact ⟨Or.inr rfl, by omega, rfl⟩
      · rintro ⟨hmem | rfl, -, heq⟩
        · exact absurd heq (hother hmem)
        · rfl
    · rename_i hkey
      rw [h.getElem?_evict hordered hlimit]
      constructor
      · rintro ⟨hmem, hlate, heq⟩
        exact ⟨Or.inl hmem, hlate, heq⟩
      · rintro ⟨hmem | rfl, hlate, heq⟩
        · exact ⟨hmem, hlate, heq⟩
        · exact absurd (LawfulEqCmp.compare_eq_iff_eq.mpr heq) hkey

end Retention
