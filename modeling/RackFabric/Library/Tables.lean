import Mathlib.Data.List.Dedup
import Mathlib.Data.List.Perm.Subperm
import Mathlib.Tactic.Common

/-! Tables that are revised in place. Two states of a table are related when each
record of the first is followed by one of the second under the same key. -/
namespace Tables
open Std

variable {κ ρ : Type} [Ord κ] [TransOrd κ]

variable {follows comes : ρ → ρ → Prop}

theorem mem_iff_exists {table : ExtTreeMap κ ρ} {key : κ} :
    key ∈ table ↔ ∃ record, table[key]? = some record := by
  rw [ExtTreeMap.mem_iff_isSome_getElem?, Option.isSome_iff_exists]

/-- Every record of the table has a successor in the later one. -/
def Followed (follows : ρ → ρ → Prop) (table later : ExtTreeMap κ ρ) : Prop :=
  ∀ (key : κ) (record : ρ), table[key]? = some record →
    ∃ successor, later[key]? = some successor ∧ follows record successor

theorem Followed.refl (hrefl : ∀ record, follows record record) (table : ExtTreeMap κ ρ) :
    Followed follows table table :=
  fun _ record hfound => ⟨record, hfound, hrefl record⟩

theorem Followed.trans (htrans : ∀ first second third, follows first second →
      follows second third → follows first third)
    {first second third : ExtTreeMap κ ρ} (hfirst : Followed follows first second)
    (hsecond : Followed follows second third) : Followed follows first third := by
  intro key record hfound
  obtain ⟨between, hbetween, hleft⟩ := hfirst key record hfound
  obtain ⟨successor, hsuccessor, hright⟩ := hsecond key between hbetween
  exact ⟨successor, hsuccessor, htrans _ _ _ hleft hright⟩

theorem Followed.mono {weaker : ρ → ρ → Prop} {table later : ExtTreeMap κ ρ}
    (h : Followed follows table later)
    (himp : ∀ {record successor}, follows record successor → weaker record successor) :
    Followed weaker table later := by
  intro key record hfound
  obtain ⟨successor, hsuccessor, hfollows⟩ := h key record hfound
  exact ⟨successor, hsuccessor, himp hfollows⟩

/-- Every record of the later table comes of one of the table, under the same key. -/
def Descended (comes : ρ → ρ → Prop) (table later : ExtTreeMap κ ρ) : Prop :=
  ∀ (key : κ) (record : ρ), later[key]? = some record →
    ∃ existing, table[key]? = some existing ∧ comes existing record

theorem Descended.refl (hrefl : ∀ record, comes record record) (table : ExtTreeMap κ ρ) :
    Descended comes table table :=
  fun _ record hfound => ⟨record, hfound, hrefl record⟩

theorem Descended.trans (htrans : ∀ {first second third}, comes first second →
      comes second third → comes first third)
    {first second third : ExtTreeMap κ ρ} (hfirst : Descended comes first second)
    (hsecond : Descended comes second third) : Descended comes first third := by
  intro key record hfound
  obtain ⟨between, hbetween, hright⟩ := hsecond key record hfound
  obtain ⟨existing, hexisting, hleft⟩ := hfirst key between hbetween
  exact ⟨existing, hexisting, htrans hleft hright⟩

/-- What holds of the records and is kept by what they become holds of the later ones. -/
theorem Descended.forall {table later : ExtTreeMap κ ρ} {holds : ρ → Prop}
    (h : Descended comes table later)
    (hkept : ∀ {existing record}, comes existing record → holds existing → holds record)
    (hold : ∀ (key : κ) (record : ρ), table[key]? = some record → holds record) :
    ∀ (key : κ) (record : ρ), later[key]? = some record → holds record := by
  intro key record hfound
  obtain ⟨existing, hexisting, hcomes⟩ := h key record hfound
  exact hkept hcomes (hold key existing hexisting)

def sizeWith [DecidableEq κ] (table : ExtTreeMap κ ρ) (keys : List κ) : Nat :=
  (keys ++ table.keys).dedup.length

theorem size_le_sizeWith [DecidableEq κ] (table : ExtTreeMap κ ρ) (keys : List κ) :
    table.size ≤ sizeWith table keys := by
  rw [sizeWith, ← ExtTreeMap.length_keys]
  refine (List.subperm_of_subset ExtTreeMap.nodup_keys fun key hkey => ?_).length_le
  exact List.mem_dedup.mpr (List.mem_append_right keys hkey)

variable [LawfulEqOrd κ]

theorem getElem?_insert_cases {table : ExtTreeMap κ ρ} {key other : κ} {record found : ρ}
    (h : (table.insert key record)[other]? = some found) :
    (other = key ∧ found = record) ∨ (other ≠ key ∧ table[other]? = some found) := by
  rw [ExtTreeMap.getElem?_insert] at h
  split at h
  · rename_i heq
    exact Or.inl ⟨(LawfulEqCmp.compare_eq_iff_eq.mp heq).symm, (Option.some.inj h).symm⟩
  · rename_i hne
    exact Or.inr ⟨fun heq => hne (by simp [heq]), h⟩

theorem getElem?_map_cases {table : ExtTreeMap κ ρ} {revise : ρ → ρ} {key : κ} {found : ρ}
    (h : (table.map fun _ => revise)[key]? = some found) :
    ∃ old, table[key]? = some old ∧ revise old = found := by
  rw [ExtTreeMap.getElem?_map] at h
  simpa [Option.map_eq_some_iff] using h

/-- Tables that file each record under its own key are determined by their records. -/
theorem eq_of_records {table other : ExtTreeMap κ ρ} {keyOf : ρ → κ}
    (htable : ∀ (key : κ) (record : ρ), table[key]? = some record → keyOf record = key)
    (hother : ∀ (key : κ) (record : ρ), other[key]? = some record → keyOf record = key)
    (h : table.toList.map Prod.snd = other.toList.map Prod.snd) : table = other := by
  have hmem (stored : ExtTreeMap κ ρ)
      (hstored : ∀ (key : κ) (record : ρ), stored[key]? = some record → keyOf record = key)
      (key : κ) (record : ρ) : stored[key]? = some record ↔
        record ∈ stored.toList.map Prod.snd ∧ keyOf record = key := by
    constructor
    · intro hfound
      have hentry := ExtTreeMap.mem_toList_iff_getElem?_eq_some.mpr hfound
      exact ⟨List.mem_map_of_mem hentry, hstored key record hfound⟩
    · rintro ⟨hrecord, rfl⟩
      obtain ⟨⟨stored_key, stored_record⟩, hentry, rfl⟩ := List.mem_map.mp hrecord
      have hfound := ExtTreeMap.mem_toList_iff_getElem?_eq_some.mp hentry
      exact (hstored _ _ hfound).symm ▸ hfound
  refine ExtTreeMap.ext_getElem? fun key => Option.ext fun record => ?_
  rw [hmem table htable, hmem other hother, h]

theorem Followed.insert (hrefl : ∀ record, follows record record) {table : ExtTreeMap κ ρ}
    {key : κ} {record : ρ}
    (hover : ∀ existing, table[key]? = some existing → follows existing record) :
    Followed follows table (table.insert key record) := by
  intro other existing hfound
  rw [ExtTreeMap.getElem?_insert]
  by_cases hsame : key = other
  · subst hsame
    exact ⟨record, by simp, hover existing hfound⟩
  · exact ⟨existing, by simp [hsame, hfound], hrefl existing⟩

theorem Followed.map {table : ExtTreeMap κ ρ} {revise : ρ → ρ}
    (hrevise : ∀ (key : κ) (record : ρ), table[key]? = some record → follows record (revise record)) :
    Followed follows table (table.map fun _ => revise) := by
  intro key record hfound
  exact ⟨revise record, by simp [ExtTreeMap.getElem?_map, hfound], hrevise key record hfound⟩

theorem Followed.modify (hrefl : ∀ record, follows record record) {table : ExtTreeMap κ ρ}
    {key : κ} {revise : ρ → ρ}
    (hrevise : ∀ record, table[key]? = some record → follows record (revise record)) :
    Followed follows table (table.modify key revise) := by
  intro other record hfound
  rw [ExtTreeMap.getElem?_modify]
  by_cases hsame : key = other
  · subst hsame
    exact ⟨revise record, by simp [hfound], hrevise record hfound⟩
  · exact ⟨record, by simp [hsame, hfound], hrefl record⟩

theorem Descended.insert (hrefl : ∀ record, comes record record) {table : ExtTreeMap κ ρ}
    {key : κ} {existing record : ρ} (hfound : table[key]? = some existing)
    (hcomes : comes existing record) : Descended comes table (table.insert key record) := by
  intro other found hother
  rcases getElem?_insert_cases hother with ⟨rfl, rfl⟩ | ⟨-, hkept⟩
  · exact ⟨existing, hfound, hcomes⟩
  · exact ⟨found, hkept, hrefl found⟩

theorem Descended.map {table : ExtTreeMap κ ρ} {revise : ρ → ρ}
    (hrevise : ∀ record, comes record (revise record)) :
    Descended comes table (table.map fun _ => revise) := by
  intro key record hfound
  obtain ⟨old, hold, rfl⟩ := getElem?_map_cases hfound
  exact ⟨old, hold, hrevise old⟩

theorem size_le_of_mem {table other : ExtTreeMap κ ρ} (h : ∀ key, key ∈ table → key ∈ other) :
    table.size ≤ other.size := by
  rw [← ExtTreeMap.length_keys, ← ExtTreeMap.length_keys]
  refine (List.subperm_of_subset ExtTreeMap.nodup_keys fun key hkey => ?_).length_le
  exact ExtTreeMap.mem_keys.mpr (h key (ExtTreeMap.mem_keys.mp hkey))

theorem Followed.size_le {table later : ExtTreeMap κ ρ} (h : Followed follows table later) :
    table.size ≤ later.size := by
  refine size_le_of_mem fun key hkey => ?_
  obtain ⟨record, hfound⟩ := mem_iff_exists.mp hkey
  obtain ⟨successor, hsuccessor, -⟩ := h key record hfound
  exact mem_iff_exists.mpr ⟨successor, hsuccessor⟩

theorem Descended.size_le {table later : ExtTreeMap κ ρ} (h : Descended comes table later) :
    later.size ≤ table.size := by
  refine size_le_of_mem fun key hkey => ?_
  obtain ⟨record, hfound⟩ := mem_iff_exists.mp hkey
  obtain ⟨existing, hexisting, -⟩ := h key record hfound
  exact mem_iff_exists.mpr ⟨existing, hexisting⟩

theorem size_eq_sizeWith [DecidableEq κ] {table later : ExtTreeMap κ ρ} {keys : List κ}
    (h : ∀ key, key ∈ later ↔ key ∈ keys ∨ key ∈ table) :
    later.size = sizeWith table keys := by
  rw [sizeWith, ← ExtTreeMap.length_keys]
  apply List.Perm.length_eq
  rw [List.perm_ext_iff_of_nodup ExtTreeMap.nodup_keys (List.nodup_dedup _)]
  intro key
  rw [ExtTreeMap.mem_keys, h, List.mem_dedup, List.mem_append, ExtTreeMap.mem_keys]

theorem size_insert_eq [DecidableEq κ] (table : ExtTreeMap κ ρ) (key : κ) (record : ρ) :
    (table.insert key record).size = sizeWith table [key] := by
  apply size_eq_sizeWith
  intro other
  rw [ExtTreeMap.mem_insert, LawfulEqCmp.compare_eq_iff_eq, List.mem_singleton, eq_comm]

/-- Keys that all belong to the table are no more than its records. -/
theorem size_le_of_subset {keys : ExtTreeSet κ} {table : ExtTreeMap κ ρ}
    (h : ∀ key ∈ keys, key ∈ table) : keys.size ≤ table.size := by
  rw [← ExtTreeSet.length_toList, ← ExtTreeMap.length_keys]
  have hnodup : keys.toList.Nodup :=
    ExtTreeSet.distinct_toList.imp fun hne heq => hne (by simp [heq])
  refine (List.subperm_of_subset hnodup fun key hkey => ?_).length_le
  exact ExtTreeMap.mem_keys.mpr (h key (ExtTreeSet.mem_toList.mp hkey))

theorem set_size_le {keys other : ExtTreeSet κ} (h : ∀ key ∈ keys, key ∈ other) :
    keys.size ≤ other.size := by
  rw [← ExtTreeSet.length_toList, ← ExtTreeSet.length_toList]
  have hnodup : keys.toList.Nodup :=
    ExtTreeSet.distinct_toList.imp fun hne heq => hne (by simp [heq])
  refine (List.subperm_of_subset hnodup fun key hkey => ?_).length_le
  exact ExtTreeSet.mem_toList.mpr (h key (ExtTreeSet.mem_toList.mp hkey))

/-! Sets that are filled from lists. -/

@[simp] theorem mem_fill {values : List κ} {keys : ExtTreeSet κ} {key : κ} :
    key ∈ values.foldl ExtTreeSet.insert keys ↔ key ∈ keys ∨ key ∈ values := by
  induction values generalizing keys with
  | nil => simp
  | cons value values ih =>
    rw [List.foldl_cons, ih, ExtTreeSet.mem_insert, LawfulEqCmp.compare_eq_iff_eq, List.mem_cons,
      @eq_comm _ value]
    tauto

theorem mem_fillFrom {β : Type} {sources : List β} {valuesOf : β → List κ} {keys : ExtTreeSet κ}
    {key : κ} :
    key ∈ sources.foldl (fun keys source => (valuesOf source).foldl ExtTreeSet.insert keys) keys ↔
      key ∈ keys ∨ ∃ source ∈ sources, key ∈ valuesOf source := by
  induction sources generalizing keys with
  | nil => simp
  | cons source sources ih =>
    rw [List.foldl_cons, ih, mem_fill, or_assoc]
    simp only [List.mem_cons, exists_eq_or_imp]

/-! Changes under two different keys commute. -/

theorem insert_comm (table : ExtTreeMap κ ρ) {key other : κ} (first second : ρ)
    (hne : key ≠ other) :
    (table.insert key first).insert other second =
      (table.insert other second).insert key first := by
  apply ExtTreeMap.ext_getElem?
  intro found
  simp only [ExtTreeMap.getElem?_insert, LawfulEqCmp.compare_eq_iff_eq]
  by_cases hkey : key = found
  · subst hkey
    simp [hne.symm]
  · simp [hkey]

theorem modify_comm (table : ExtTreeMap κ ρ) {key other : κ} (first second : ρ → ρ)
    (hne : key ≠ other) :
    (table.modify key first).modify other second =
      (table.modify other second).modify key first := by
  apply ExtTreeMap.ext_getElem?
  intro found
  simp only [ExtTreeMap.getElem?_modify]
  by_cases hkey : key = found
  · subst hkey
    simp [hne.symm]
  · by_cases hother : other = found
    · subst hother
      simp [hne]
    · simp [hkey, hother]

@[simp] theorem modify_id (table : ExtTreeMap κ ρ) (key : κ) : table.modify key id = table := by
  apply ExtTreeMap.ext_getElem?
  intro found
  rw [ExtTreeMap.getElem?_modify]
  split
  · rename_i h
    rw [LawfulEqCmp.compare_eq_iff_eq.mp h]
    simp
  · rfl

end Tables
