import Mathlib.Data.List.Sigma
import Mathlib.Data.List.Sort
import RackFabric.Library.Tables

/-! Tables that are filled with records, each under its own key. What is filed may differ
from the record in what the table stamps on it, which a view leaves out. -/
namespace Filing
open Std Tables

variable {κ ρ : Type} {keyOf : ρ → κ} {view : ρ → ρ} {records : List ρ}

/-- Among records with distinct keys, none before a record has its key. -/
theorem fresh_of_perm {done others : List ρ} {record : ρ} (hnodup : (records.map keyOf).Nodup)
    (hperm : (done ++ record :: others).Perm records) :
    ∀ existing ∈ done, keyOf existing ≠ keyOf record := by
  have hkeys := (hperm.map keyOf).nodup_iff.mpr hnodup
  rw [List.map_append, List.map_cons, List.nodup_append] at hkeys
  intro existing hexisting
  exact hkeys.2.2 _ (List.mem_map_of_mem hexisting) _ (by simp)

variable [Ord κ] [TransOrd κ]

structure Files (keyOf : ρ → κ) (view : ρ → ρ) (table : ExtTreeMap κ ρ) (records : List ρ) :
    Prop where
  keyed : ∀ {key : κ} {stored : ρ}, table[key]? = some stored → keyOf stored = key
  listed : (table.toList.map fun entry => view entry.2).Perm records

variable {table : ExtTreeMap κ ρ}

theorem Files.empty : Files keyOf view ∅ [] where
  keyed := by simp
  listed := by simp

theorem Files.size_eq (h : Files keyOf view table records) : table.size = records.length := by
  have hlength := h.listed.length_eq
  rwa [List.length_map, ExtTreeMap.length_toList] at hlength

theorem Files.perm (h : Files keyOf view table records) {other : List ρ}
    (hperm : records.Perm other) : Files keyOf view table other where
  keyed := h.keyed
  listed := h.listed.trans hperm

variable [LawfulEqOrd κ]

theorem toList_insert_perm {table : ExtTreeMap κ ρ} {key : κ} {record : ρ} (h : key ∉ table) :
    (table.insert key record).toList.Perm ((key, record) :: table.toList) := by
  have hnodup (stored : ExtTreeMap κ ρ) : stored.toList.Nodup :=
    ExtTreeMap.distinct_keys_toList.imp fun hne heq => hne (by simp [heq])
  have hnew : (key, record) ∉ table.toList := by
    intro hmem
    have hfound := ExtTreeMap.mem_toList_iff_getElem?_eq_some.mp hmem
    exact h (mem_iff_exists.mpr ⟨record, hfound⟩)
  rw [List.perm_ext_iff_of_nodup (hnodup _) (List.nodup_cons.mpr ⟨hnew, hnodup _⟩)]
  rintro ⟨other, found⟩
  rw [ExtTreeMap.mem_toList_iff_getElem?_eq_some, List.mem_cons,
    ExtTreeMap.mem_toList_iff_getElem?_eq_some, ExtTreeMap.getElem?_insert]
  by_cases hsame : key = other
  · subst hsame
    have hnone : table[key]? = none := by
      by_contra hsome
      obtain ⟨existing, hexisting⟩ := Option.ne_none_iff_exists'.mp hsome
      exact h (mem_iff_exists.mpr ⟨existing, hexisting⟩)
    simp [hnone, eq_comm]
  · have hother : other ≠ key := fun heq => hsame heq.symm
    simp [hsame, hother]

theorem Files.insert (h : Files keyOf view table records) (stored : ρ) {record : ρ}
    (hnew : keyOf stored ∉ table) (hview : view stored = record) :
    Files keyOf view (table.insert (keyOf stored) stored) (records ++ [record]) where
  keyed hfound := by
    rcases getElem?_insert_cases hfound with ⟨rfl, rfl⟩ | ⟨-, hold⟩
    · rfl
    · exact h.keyed hold
  listed := by
    refine ((toList_insert_perm hnew).map _).trans ?_
    rw [List.map_cons, hview]
    exact (h.listed.cons record).trans (List.perm_append_singleton record records).symm

theorem Files.found (h : Files keyOf view table records)
    (hkey : ∀ record, keyOf (view record) = keyOf record) {record : ρ} (hmem : record ∈ records) :
    ∃ stored, table[keyOf record]? = some stored ∧ view stored = record := by
  obtain ⟨⟨key, stored⟩, hentry, rfl⟩ := List.mem_map.mp (h.listed.mem_iff.mpr hmem)
  have hfound := ExtTreeMap.mem_toList_iff_getElem?_eq_some.mp hentry
  refine ⟨stored, ?_, rfl⟩
  rw [hkey, h.keyed hfound]
  exact hfound

theorem Files.mem_iff (h : Files keyOf view table records)
    (hkey : ∀ record, keyOf (view record) = keyOf record) {key : κ} :
    key ∈ table ↔ ∃ record ∈ records, keyOf record = key := by
  constructor
  · intro hmem
    obtain ⟨stored, hfound⟩ := mem_iff_exists.mp hmem
    have hentry := ExtTreeMap.mem_toList_iff_getElem?_eq_some.mpr hfound
    refine ⟨view stored, h.listed.mem_iff.mp (List.mem_map_of_mem hentry), ?_⟩
    rw [hkey, h.keyed hfound]
  · rintro ⟨record, hmem, rfl⟩
    obtain ⟨stored, hfound, -⟩ := h.found hkey hmem
    exact mem_iff_exists.mpr ⟨stored, hfound⟩

theorem Files.not_mem (h : Files keyOf view table records)
    (hkey : ∀ record, keyOf (view record) = keyOf record) {key : κ}
    (hnew : ∀ record ∈ records, keyOf record ≠ key) : key ∉ table := by
  intro hmem
  obtain ⟨record, hrecord, heq⟩ := (h.mem_iff hkey).mp hmem
  exact hnew record hrecord heq

/-- Records in the order of their keys are listed by the table as they are. -/
theorem Files.toList_eq (h : Files keyOf view table records)
    (hkey : ∀ record, keyOf (view record) = keyOf record)
    (hsorted : records.Pairwise fun left right => compare (keyOf left) (keyOf right) = .lt) :
    (table.toList.map fun entry => view entry.2) = records := by
  refine List.Perm.eq_of_pairwise (fun left right _ _ hlt hgt => ?_) ?_ hsorted h.listed
  · rw [OrientedCmp.gt_of_lt hlt] at hgt
    cases hgt
  · rw [List.pairwise_map]
    refine ExtTreeMap.ordered_keys_toList.imp_of_mem fun {left right} hleft hright hlt => ?_
    rw [hkey, hkey, h.keyed (ExtTreeMap.mem_toList_iff_getElem?_eq_some.mp hleft),
      h.keyed (ExtTreeMap.mem_toList_iff_getElem?_eq_some.mp hright)]
    exact hlt

theorem length_lt_of_perm {done others : List ρ} {record : ρ}
    (hperm : (done ++ record :: others).Perm records) : done.length < records.length := by
  rw [← hperm.length_eq, List.length_append, List.length_cons]
  omega

/-- Sorting records with distinct keys puts them in strict order. -/
theorem pairwise_sorted (hnodup : (records.map keyOf).Nodup) :
    (records.insertionSort fun left right => (compare (keyOf left) (keyOf right)).isLE).Pairwise
      fun left right => compare (keyOf left) (keyOf right) = .lt := by
  have htotal : Std.Total fun left right : ρ => (compare (keyOf left) (keyOf right)).isLE = true :=
    ⟨fun left right => by
      rw [@OrientedCmp.eq_swap κ compare _ (keyOf right) (keyOf left)]
      cases compare (keyOf left) (keyOf right) <;> simp⟩
  have htrans : IsTrans ρ fun left right => (compare (keyOf left) (keyOf right)).isLE = true :=
    ⟨fun _ _ _ => TransCmp.isLE_trans⟩
  have hsorted := List.pairwise_insertionSort
    (fun left right : ρ => (compare (keyOf left) (keyOf right)).isLE = true) records
  have hkeys := ((List.perm_insertionSort
    (fun left right : ρ => (compare (keyOf left) (keyOf right)).isLE = true) records).map
      keyOf).nodup_iff.mpr hnodup
  refine (hsorted.and (List.pairwise_map.mp hkeys)).imp fun ⟨hle, hne⟩ => ?_
  cases hcompare : compare (keyOf _) (keyOf _) with
  | lt => rfl
  | eq => exact absurd (LawfulEqCmp.compare_eq_iff_eq.mp hcompare) hne
  | gt => simp [hcompare] at hle

/-- Lists that tell which numbered entry they come from have no element in common. -/
theorem nodup_flatMap_zipIdx {α β : Type} {entries : List α} {listed : α × Nat → List β}
    (hnodup : ∀ entry, (listed entry).Nodup) {index : β → Nat}
    (hindex : ∀ entry, ∀ element ∈ listed entry, index element = entry.2) :
    (entries.zipIdx.flatMap listed).Nodup := by
  refine List.nodup_flatMap.mpr ⟨fun entry _ => hnodup entry, ?_⟩
  refine (List.pairwise_map.mp (List.nodup_zipIdx_map_snd entries)).imp
    fun {left right} hne element hleft hright => hne ?_
  rw [← hindex left element hleft, hindex right element hright]

end Filing
