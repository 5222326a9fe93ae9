import Mathlib.Algebra.BigOperators.Group.Finset.Piecewise
import RackFabric.Library.Tables

/-! Amounts that the records of a table carry, and their total over the table. A step
that adds to the amount of a key adds as much to the total. -/
namespace Totals
open Std Tables

variable {κ ρ M : Type} [Ord κ] [TransOrd κ] [AddCommMonoid M] (amount : ρ → M)

/-- What the record of the key carries; a key without a record carries nothing. -/
def held (table : ExtTreeMap κ ρ) (key : κ) : M :=
  (table[key]?.map amount).getD 0

def total (table : ExtTreeMap κ ρ) : M :=
  (table.toList.map fun entry => amount entry.2).sum

variable {amount} {table later : ExtTreeMap κ ρ}

theorem held_of_found {key : κ} {record : ρ} (h : table[key]? = some record) :
    held amount table key = amount record := by
  simp [held, h]

theorem held_of_new {key : κ} (h : table[key]? = none) : held amount table key = 0 := by
  simp [held, h]

variable [LawfulEqOrd κ]

theorem held_map {revise : ρ → ρ} (h : ∀ record, amount (revise record) = amount record)
    (key : κ) : held amount (table.map fun _ => revise) key = held amount table key := by
  simp only [held, ExtTreeMap.getElem?_map, Option.map_map]
  congr 2
  funext record
  exact h record

theorem total_eq_sum_keys : total amount table = (table.keys.map (held amount table)).sum := by
  unfold total
  rw [← ExtTreeMap.map_fst_toList_eq_keys, List.map_map]
  congr 1
  apply List.map_congr_left
  rintro ⟨key, record⟩ hentry
  exact (held_of_found (ExtTreeMap.mem_toList_iff_getElem?_eq_some.mp hentry)).symm

variable [DecidableEq κ]

theorem held_insert (key other : κ) (record : ρ) :
    held amount (table.insert key record) other =
      if other = key then amount record else held amount table other := by
  by_cases hsame : other = key
  · simp [held, hsame]
  · simp [held, ExtTreeMap.getElem?_insert, hsame, Ne.symm hsame]

/-- Records that carry nothing may be added, and the others revised in what they do not carry. -/
theorem held_insert_kept {key : κ} {record : ρ} (h : held amount table key = amount record)
    (other : κ) : held amount (table.insert key record) other = held amount table other := by
  rw [held_insert]
  split
  · rename_i hsame
    rw [hsame, h]
  · rfl

theorem held_modify {key : κ} {revise : ρ → ρ} {more : M} (hmem : key ∈ table)
    (h : ∀ record, amount (revise record) = amount record + more) (other : κ) :
    held amount (table.modify key revise) other =
      held amount table other + if key = other then more else 0 := by
  by_cases hsame : key = other
  · subst hsame
    obtain ⟨record, hfound⟩ := mem_iff_exists.mp hmem
    simp [held, hfound, h]
  · simp [held, ExtTreeMap.getElem?_modify, hsame]

theorem held_modify_kept (key : κ) {revise : ρ → ρ}
    (h : ∀ record, amount (revise record) = amount record) (other : κ) :
    held amount (table.modify key revise) other = held amount table other := by
  by_cases hsame : key = other
  · subst hsame
    simp only [held, ExtTreeMap.getElem?_modify_self, Option.map_map]
    congr 2
    funext record
    exact h record
  · simp [held, ExtTreeMap.getElem?_modify, hsame]

theorem total_eq_sum (keys : Finset κ) (h : ∀ key ∈ table, key ∈ keys) :
    total amount table = ∑ key ∈ keys, held amount table key := by
  have hnodup : table.keys.Nodup :=
    ExtTreeMap.distinct_keys.imp fun hne heq => hne (by simp [heq])
  rw [total_eq_sum_keys, ← List.sum_toFinset _ hnodup]
  apply Finset.sum_subset
  · intro key hkey
    exact h key (ExtTreeMap.mem_keys.mp (List.mem_toFinset.mp hkey))
  · intro key _ hkey
    apply held_of_new
    by_contra hsome
    obtain ⟨record, hfound⟩ := Option.ne_none_iff_exists'.mp hsome
    apply hkey
    exact List.mem_toFinset.mpr (ExtTreeMap.mem_keys.mpr (mem_iff_exists.mpr ⟨record, hfound⟩))

/-- What is added to one key is added to the total. -/
theorem total_add {added : Option κ} {more : M}
    (h : ∀ key, held amount later key =
      held amount table key + if added = some key then more else 0) :
    total amount later = total amount table + if added.isSome then more else 0 := by
  let keys := (table.keys ++ later.keys ++ added.toList).toFinset
  have hmem (key : κ) : key ∈ keys ↔ key ∈ table ∨ key ∈ later ∨ added = some key := by
    simp [keys]
  rw [total_eq_sum keys fun key hkey => (hmem key).mpr (Or.inl hkey),
    total_eq_sum keys fun key hkey => (hmem key).mpr (Or.inr (Or.inl hkey)),
    Finset.sum_congr rfl fun key _ => h key, Finset.sum_add_distrib]
  congr 1
  cases added with
  | none => simp
  | some key =>
    have hkey : key ∈ keys := (hmem key).mpr (Or.inr (Or.inr rfl))
    simp only [Option.some.injEq, Option.isSome_some, if_true]
    rw [Finset.sum_ite_eq, if_pos hkey]

end Totals
