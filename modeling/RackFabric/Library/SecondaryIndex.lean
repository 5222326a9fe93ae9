import Mathlib.Data.List.Basic
import Mathlib.Tactic.Common

/-! Secondary indexes. An index files each value of a table under the keys that
its record names, and keeps one set of values for each key in use. Two indexes
that hold the same keys and the same members are equal, so an index maintained
by additions and removals can be compared with one built from the table. -/
namespace SecondaryIndex
open Std

abbrev Index (κ ν : Type) [Ord κ] [Ord ν] := ExtTreeMap κ (ExtTreeSet ν)

variable {κ ν ρ : Type}

section Filed
variable [Ord ν] [TransOrd ν]

def Filed (table : ExtTreeMap ν ρ) (keysOf : ρ → List κ) (key : κ) (value : ν) : Prop :=
  ∃ record, table[value]? = some record ∧ key ∈ keysOf record

def keysAt (table : ExtTreeMap ν ρ) (keysOf : ρ → List κ) (value : ν) : List κ :=
  (table[value]?.map keysOf).getD []

theorem mem_keysAt {table : ExtTreeMap ν ρ} {keysOf : ρ → List κ} {value : ν} {key : κ} :
    key ∈ keysAt table keysOf value ↔ Filed table keysOf key value := by
  unfold keysAt Filed
  cases table[value]? <;> simp

variable [LawfulEqOrd ν]

theorem filed_insert {table : ExtTreeMap ν ρ} {keysOf : ρ → List κ} {value found : ν}
    {record : ρ} {key : κ} :
    Filed (table.insert value record) keysOf key found ↔
      (found = value ∧ key ∈ keysOf record) ∨ (found ≠ value ∧ Filed table keysOf key found) := by
  unfold Filed
  rw [ExtTreeMap.getElem?_insert]
  by_cases h : value = found
  · subst h
    simp
  · simp [h, Ne.symm h]

theorem filed_erase {table : ExtTreeMap ν ρ} {keysOf : ρ → List κ} {value found : ν} {key : κ} :
    Filed (table.erase value) keysOf key found ↔
      found ≠ value ∧ Filed table keysOf key found := by
  unfold Filed
  rw [ExtTreeMap.getElem?_erase]
  by_cases h : value = found
  · subst h
    simp
  · simp [h, Ne.symm h]

/-- Revising the records without touching their keys files the same pairs. -/
theorem filed_map {table : ExtTreeMap ν ρ} {keysOf : ρ → List κ} {revise : ν → ρ → ρ}
    (h : ∀ value record, keysOf (revise value record) = keysOf record) (key : κ) (value : ν) :
    Filed (table.map revise) keysOf key value ↔ Filed table keysOf key value := by
  unfold Filed
  rw [ExtTreeMap.getElem?_map]
  cases table[value]? <;> simp [h]

end Filed

variable [Ord κ] [TransOrd κ] [Ord ν]

/-- The set filed under a key; a key that is not in use holds the empty set. -/
def entries (index : Index κ ν) (key : κ) : ExtTreeSet ν :=
  (index[key]?).getD ∅

@[simp] theorem entries_empty (key : κ) : entries (∅ : Index κ ν) key = ∅ := by
  simp [entries]

/-- Puts a key in use without filing anything under it. -/
def touch (index : Index κ ν) (key : κ) : Index κ ν :=
  index.insertIfNew key ∅

section
variable [LawfulEqOrd κ]

@[simp] theorem mem_touch {index : Index κ ν} {key other : κ} :
    other ∈ touch index key ↔ other = key ∨ other ∈ index := by
  simp [touch, @eq_comm _ other]

@[simp] theorem entries_touch (index : Index κ ν) (key other : κ) :
    entries (touch index key) other = entries index other := by
  unfold touch entries
  rw [ExtTreeMap.getElem?_insertIfNew]
  split
  · rename_i h
    obtain ⟨heq, hnot⟩ := h
    rw [LawfulEqCmp.compare_eq_iff_eq] at heq
    subst heq
    simp [ExtTreeMap.getElem?_eq_none hnot]
  · rfl

end

variable [TransOrd ν]

def add (index : Index κ ν) (key : κ) (value : ν) : Index κ ν :=
  index.insert key ((entries index key).insert value)

/-- Removing the last value of a key removes the key with it. -/
def remove (index : Index κ ν) (key : κ) (value : ν) : Index κ ν :=
  match index[key]? with
  | none => index
  | some set =>
      if (set.erase value).isEmpty then index.erase key
      else index.insert key (set.erase value)

def file (index : Index κ ν) (keys : List κ) (value : ν) : Index κ ν :=
  keys.foldl (fun index key => add index key value) index

def unfile (index : Index κ ν) (keys : List κ) (value : ν) : Index κ ν :=
  keys.foldl (fun index key => remove index key value) index

theorem mem_of_mem_entries {index : Index κ ν} {key : κ} {value : ν}
    (h : value ∈ entries index key) : key ∈ index := by
  rw [ExtTreeMap.mem_iff_isSome_getElem?]
  cases hk : index[key]? with
  | none => simp [entries, hk] at h
  | some set => rfl

structure Mirrors (index : Index κ ν) (holds : κ → ν → Prop) (pinned : κ → Prop) : Prop where
  entries_iff : ∀ key value, value ∈ entries index key ↔ holds key value
  key_iff : ∀ key, key ∈ index ↔ (∃ value, holds key value) ∨ pinned key

theorem Mirrors.congr {index : Index κ ν} {holds holds' : κ → ν → Prop}
    {pinned pinned' : κ → Prop} (h : Mirrors index holds pinned)
    (hholds : ∀ key value, holds' key value ↔ holds key value)
    (hpinned : ∀ key, pinned' key ↔ pinned key) : Mirrors index holds' pinned' where
  entries_iff key value := by rw [h.entries_iff, hholds]
  key_iff key := by simp only [h.key_iff, hholds, hpinned]

theorem Mirrors.empty : Mirrors (∅ : Index κ ν) (fun _ _ => False) (fun _ => False) where
  entries_iff := by simp
  key_iff := by simp

def lookup (index : Index κ ν) (table : ExtTreeMap ν ρ) (key : κ) : List ρ :=
  match index[key]? with
  | none => []
  | some values => values.toList.filterMap (table[·]?)

section Lookup
variable [LawfulEqOrd ν]

theorem lookup_eq (index : Index κ ν) (table : ExtTreeMap ν ρ) (key : κ) :
    lookup index table key = (entries index key).toList.filterMap (table[·]?) := by
  unfold lookup entries
  cases index[key]? with
  | none => simp
  | some values => rfl

/-- Strictly ordered lists of the same values are the same. -/
theorem ordered_ext {left right : List ν}
    (hleft : left.Pairwise fun first second => compare first second = .lt)
    (hright : right.Pairwise fun first second => compare first second = .lt)
    (h : ∀ value, value ∈ left ↔ value ∈ right) : left = right := by
  have hnodup {values : List ν}
      (hvalues : values.Pairwise fun first second => compare first second = .lt) :
      values.Nodup := by
    refine hvalues.imp fun {first second} hlt heq => ?_
    subst heq
    simp at hlt
  have hperm := (List.perm_ext_iff_of_nodup (hnodup hleft) (hnodup hright)).mpr h
  refine hperm.eq_of_pairwise (fun first second _ _ hlt hgt => ?_) hleft hright
  rw [OrientedCmp.gt_of_lt hlt] at hgt
  cases hgt

/-- A lookup in an index that mirrors a table finds what a scan of the table finds. -/
theorem Mirrors.lookup_eq_scan [DecidableEq κ] {index : Index κ ν} {table : ExtTreeMap ν ρ}
    {keysOf : ρ → List κ} {pinned : κ → Prop} (h : Mirrors index (Filed table keysOf) pinned)
    (key : κ) :
    lookup index table key =
      (table.toList.map Prod.snd).filter fun record => key ∈ keysOf record := by
  have hvalues : (entries index key).toList =
      (table.toList.filter fun entry => key ∈ keysOf entry.2).map Prod.fst := by
    apply ordered_ext ExtTreeSet.ordered_toList
    · rw [List.pairwise_map]
      exact ExtTreeMap.ordered_keys_toList.filter _
    · intro value
      rw [ExtTreeSet.mem_toList, h.entries_iff key value]
      simp [Filed, ExtTreeMap.mem_toList_iff_getElem?_eq_some]
  rw [lookup_eq, hvalues, List.filterMap_map, List.filter_map]
  refine List.filterMap_eq_map_iff_forall_eq_some.mpr fun entry hentry => ?_
  exact ExtTreeMap.mem_toList_iff_getElem?_eq_some.mp (List.mem_filter.mp hentry).1

end Lookup

variable [LawfulEqOrd κ]

@[simp] theorem mem_add {index : Index κ ν} {key other : κ} {value : ν} :
    other ∈ add index key value ↔ other = key ∨ other ∈ index := by
  simp [add, @eq_comm _ other]

theorem mem_entries_erase {index : Index κ ν} {key other : κ} {value : ν} :
    value ∈ entries (index.erase key) other ↔ other ≠ key ∧ value ∈ entries index other := by
  unfold entries
  rw [ExtTreeMap.getElem?_erase]
  by_cases heq : key = other
  · simp [heq]
  · simp [heq, Ne.symm heq]

@[simp] theorem mem_file {index : Index κ ν} {keys : List κ} {value : ν} {other : κ} :
    other ∈ file index keys value ↔ other ∈ index ∨ other ∈ keys := by
  unfold file
  induction keys generalizing index with
  | nil => simp
  | cons key keys ih =>
    simp only [List.foldl_cons, ih, mem_add, List.mem_cons]
    tauto

/-- Pinning a key that is not in use adds it with no entries. -/
theorem Mirrors.touch {index : Index κ ν} {holds : κ → ν → Prop} {pinned : κ → Prop}
    (h : Mirrors index holds pinned) (key : κ) :
    Mirrors (touch index key) holds (fun other => other = key ∨ pinned other) where
  entries_iff other value := by rw [entries_touch, h.entries_iff]
  key_iff other := by
    rw [mem_touch, h.key_iff]
    tauto

/-- Forgetting a key and putting it in use again loses what was filed under it. -/
theorem Mirrors.reset_iff {index : Index κ ν} {holds : κ → ν → Prop} {pinned : κ → Prop}
    (h : Mirrors index holds pinned) {key : κ} (hpinned : pinned key) :
    Mirrors (SecondaryIndex.touch (index.erase key) key) holds pinned ↔
      ∀ value, ¬ holds key value := by
  constructor
  · intro hreset value hvalue
    have hmem := (hreset.entries_iff key value).mpr hvalue
    rw [entries_touch, mem_entries_erase] at hmem
    exact hmem.1 rfl
  · intro hnone
    constructor
    · intro other value
      rw [entries_touch, mem_entries_erase, h.entries_iff]
      refine and_iff_right_of_imp fun hvalue => ?_
      rintro rfl
      exact hnone value hvalue
    · intro other
      rw [mem_touch, ExtTreeMap.mem_erase, h.key_iff]
      by_cases heq : other = key
      · simp [heq, hpinned]
      · simp [heq, Ne.symm heq]

def fileAll (index : Index κ ν) (keysOf : ρ → List κ) (valueOf : ρ → ν)
    (records : List ρ) : Index κ ν :=
  records.foldl (fun index record => file index (keysOf record) (valueOf record)) index

theorem mem_fileAll {index : Index κ ν} {keysOf : ρ → List κ} {valueOf : ρ → ν}
    {records : List ρ} {key : κ} :
    key ∈ fileAll index keysOf valueOf records ↔
      key ∈ index ∨ ∃ record ∈ records, key ∈ keysOf record := by
  unfold fileAll
  induction records generalizing index with
  | nil => simp
  | cons record records ih =>
    simp only [List.foldl_cons, ih, mem_file, List.mem_cons, exists_eq_or_imp, or_assoc]

/-- Touching the keys of a list pins them too. -/
theorem Mirrors.touchAll {index : Index κ ν} {holds : κ → ν → Prop} {pinned : κ → Prop}
    (h : Mirrors index holds pinned) (keys : List κ) :
    Mirrors (keys.foldl SecondaryIndex.touch index) holds (fun key => key ∈ keys ∨ pinned key) := by
  induction keys generalizing index pinned with
  | nil => exact h.congr (fun _ _ => Iff.rfl) (by simp)
  | cons key keys ih =>
    refine (ih (h.touch key)).congr (fun _ _ => Iff.rfl) fun other => ?_
    rw [List.mem_cons]
    tauto

variable [LawfulEqOrd ν]

theorem mem_entries_ext {left right : Index κ ν}
    (keys : ∀ key, key ∈ left ↔ key ∈ right)
    (values : ∀ key value, value ∈ entries left key ↔ value ∈ entries right key) :
    left = right := by
  apply ExtTreeMap.ext_getElem?
  intro key
  have hkey := keys key
  have hset : entries left key = entries right key :=
    ExtTreeSet.ext_mem fun value => values key value
  simp only [ExtTreeMap.mem_iff_isSome_getElem?] at hkey
  unfold entries at hset
  cases hl : left[key]? <;> cases hr : right[key]? <;> simp_all

@[simp] theorem mem_entries_add {index : Index κ ν} {key other : κ} {value found : ν} :
    found ∈ entries (add index key value) other ↔
      found ∈ entries index other ∨ (other = key ∧ found = value) := by
  by_cases hk : key = other
  · subst hk
    simp [add, entries, @eq_comm _ found, or_comm]
  · simp [add, entries, ExtTreeMap.getElem?_insert, hk, Ne.symm hk]

@[simp] theorem mem_entries_remove {index : Index κ ν} {key other : κ} {value found : ν} :
    found ∈ entries (remove index key value) other ↔
      found ∈ entries index other ∧ ¬ (other = key ∧ found = value) := by
  unfold remove
  cases hset : index[key]? with
  | none =>
    by_cases hk : other = key
    · subst hk
      simp [entries, hset]
    · simp [hk]
  | some set =>
    by_cases hk : key = other
    · subst hk
      by_cases hempty : (set.erase value).isEmpty
      · have hgone : ∀ found, found ∈ set → found = value := by
          intro found hf
          have := ExtTreeSet.isEmpty_iff.mp hempty
          by_contra hne
          have hmem : found ∈ set.erase value := by simp [hf, Ne.symm hne]
          simp [this] at hmem
        simp only [hempty, ↓reduceIte, entries, ExtTreeMap.getElem?_erase_self,
          Option.getD_none, ExtTreeSet.not_mem_empty, hset, Option.getD_some, true_and,
          false_iff, not_and, not_not]
        exact hgone found
      · simp [hempty, entries, hset, @eq_comm _ found, and_comm]
    · by_cases hempty : (set.erase value).isEmpty <;>
        simp [hempty, entries, ExtTreeMap.getElem?_insert, ExtTreeMap.getElem?_erase, hk,
          Ne.symm hk]

theorem mem_remove {index : Index κ ν} {key other : κ} {value : ν} :
    other ∈ remove index key value ↔
      other ∈ index ∧ (other = key → ∃ found, found ≠ value ∧ found ∈ entries index key) := by
  unfold remove
  cases hset : index[key]? with
  | none =>
    have hnot : key ∉ index := by
      simp [ExtTreeMap.mem_iff_isSome_getElem?, hset]
    constructor
    · intro h
      exact ⟨h, fun heq => absurd (heq ▸ h) hnot⟩
    · exact fun h => h.1
  | some set =>
    have hin : key ∈ index := by
      simp [ExtTreeMap.mem_iff_isSome_getElem?, hset]
    by_cases hempty : (set.erase value).isEmpty
    · have hnone : ∀ found, found ≠ value → found ∉ set := by
        intro found hne hf
        have hmem : found ∈ set.erase value := by simp [hf, Ne.symm hne]
        simp [ExtTreeSet.isEmpty_iff.mp hempty] at hmem
      simp only [hempty, ↓reduceIte, ExtTreeMap.mem_erase, entries, hset, Option.getD_some]
      constructor
      · rintro ⟨hne, h⟩
        exact ⟨h, fun heq => absurd (by simp [heq]) hne⟩
      · rintro ⟨h, himp⟩
        refine ⟨fun heq => ?_, h⟩
        obtain ⟨found, hne, hf⟩ := himp (LawfulEqCmp.compare_eq_iff_eq.mp heq).symm
        exact hnone found hne hf
    · have hsome : ∃ found, found ≠ value ∧ found ∈ set := by
        by_contra hnot
        apply hempty
        rw [ExtTreeSet.isEmpty_iff]
        apply ExtTreeSet.ext_mem
        intro found
        simp only [ExtTreeSet.mem_erase, ExtTreeSet.not_mem_empty, iff_false]
        rintro ⟨hne, hf⟩
        exact hnot ⟨found, fun heq => hne (by simp [heq]), hf⟩
      simp only [hempty, Bool.false_eq_true, ↓reduceIte, ExtTreeMap.mem_insert,
        LawfulEqCmp.compare_eq_iff_eq, entries, hset, Option.getD_some]
      constructor
      · rintro (rfl | h)
        · exact ⟨hin, fun _ => hsome⟩
        · exact ⟨h, fun _ => hsome⟩
      · exact fun h => Or.inr h.1

@[simp] theorem mem_entries_file {index : Index κ ν} {keys : List κ} {value found : ν}
    {other : κ} :
    found ∈ entries (file index keys value) other ↔
      found ∈ entries index other ∨ (other ∈ keys ∧ found = value) := by
  unfold file
  induction keys generalizing index with
  | nil => simp
  | cons key keys ih =>
    simp only [List.foldl_cons, ih, mem_entries_add, List.mem_cons]
    tauto

@[simp] theorem mem_entries_unfile {index : Index κ ν} {keys : List κ} {value found : ν}
    {other : κ} :
    found ∈ entries (unfile index keys value) other ↔
      found ∈ entries index other ∧ ¬ (other ∈ keys ∧ found = value) := by
  unfold unfile
  induction keys generalizing index with
  | nil => simp
  | cons key keys ih =>
    simp only [List.foldl_cons, ih, mem_entries_remove, List.mem_cons]
    tauto

theorem mem_unfile {index : Index κ ν} {keys : List κ} {value : ν} {other : κ} :
    other ∈ unfile index keys value ↔
      other ∈ index ∧
        (other ∈ keys → ∃ found, found ≠ value ∧ found ∈ entries index other) := by
  unfold unfile
  induction keys generalizing index with
  | nil => simp
  | cons key keys ih =>
    simp only [List.foldl_cons, ih, mem_remove, mem_entries_remove, List.mem_cons]
    constructor
    · rintro ⟨⟨hin, hkey⟩, hkeys⟩
      refine ⟨hin, ?_⟩
      rintro (rfl | hmem)
      · exact hkey rfl
      · obtain ⟨found, hne, hf, -⟩ := hkeys hmem
        exact ⟨found, hne, hf⟩
    · rintro ⟨hin, hall⟩
      refine ⟨⟨hin, ?_⟩, ?_⟩
      · rintro rfl
        exact hall (Or.inl rfl)
      · intro hmem
        obtain ⟨found, hne, hf⟩ := hall (Or.inr hmem)
        exact ⟨found, hne, hf, fun h => hne h.2⟩

/-- Only which keys are cleared matters, not their order or repetition. -/
theorem unfile_congr {index : Index κ ν} {keys keys' : List κ} {value : ν}
    (h : ∀ key, key ∈ keys ↔ key ∈ keys') :
    unfile index keys value = unfile index keys' value := by
  apply mem_entries_ext
  · intro key
    simp only [mem_unfile, h]
  · intro key found
    simp only [mem_entries_unfile, h]

/-! Moving one value leaves room for moving another. -/

theorem file_comm (index : Index κ ν) (keys others : List κ) (value found : ν) :
    file (file index keys value) others found = file (file index others found) keys value := by
  apply mem_entries_ext
  · intro key
    simp only [mem_file]
    tauto
  · intro key other
    simp only [mem_entries_file]
    tauto

theorem unfile_comm (index : Index κ ν) (keys others : List κ) (value found : ν) :
    unfile (unfile index keys value) others found =
      unfile (unfile index others found) keys value := by
  apply mem_entries_ext
  · intro key
    simp only [mem_unfile, mem_entries_unfile]
    by_cases hkeys : key ∈ keys
    · by_cases hothers : key ∈ others
      · simp only [hkeys, hothers, true_and, forall_const]
        grind
      · simp [hkeys, hothers]
    · simp [hkeys]
  · intro key other
    simp only [mem_entries_unfile]
    tauto

theorem unfile_file_comm (index : Index κ ν) (keys others : List κ) {value found : ν}
    (hne : value ≠ found) :
    unfile (file index keys value) others found =
      file (unfile index others found) keys value := by
  apply mem_entries_ext
  · intro key
    simp only [mem_unfile, mem_file, mem_entries_file]
    by_cases hkeys : key ∈ keys
    · simp only [hkeys, or_true, true_and, iff_true]
      exact fun _ => ⟨value, hne, Or.inr rfl⟩
    · simp [hkeys]
  · intro key other
    simp only [mem_entries_unfile, mem_entries_file]
    by_cases hvalue : other = value
    · subst hvalue
      simp [hne]
    · simp [hvalue]

/-- Two values move between their keys in either order. -/
theorem replace_comm (index : Index κ ν) (olds news olds' news' : List κ) {value found : ν}
    (hne : value ≠ found) :
    file (unfile (file (unfile index olds value) news value) olds' found) news' found =
      file (unfile (file (unfile index olds' found) news' found) olds value) news value := by
  rw [unfile_file_comm _ _ _ hne, unfile_comm, file_comm, unfile_file_comm _ _ _ hne.symm]

/-! An index mirrors a relation when it holds exactly its pairs, and has in use
exactly the keys of the relation and the pinned ones. -/

theorem Mirrors.unique {left right : Index κ ν} {holds : κ → ν → Prop} {pinned : κ → Prop}
    (hleft : Mirrors left holds pinned) (hright : Mirrors right holds pinned) :
    left = right := by
  apply mem_entries_ext
  · intro key
    rw [hleft.key_iff, hright.key_iff]
  · intro key value
    rw [hleft.entries_iff, hright.entries_iff]

theorem mem_entries_fileAll {index : Index κ ν} {keysOf : ρ → List κ} {valueOf : ρ → ν}
    {records : List ρ} {key : κ} {value : ν} :
    value ∈ entries (fileAll index keysOf valueOf records) key ↔
      value ∈ entries index key ∨
        ∃ record ∈ records, key ∈ keysOf record ∧ value = valueOf record := by
  unfold fileAll
  induction records generalizing index with
  | nil => simp
  | cons record records ih =>
    simp only [List.foldl_cons, ih, mem_entries_file, List.mem_cons, exists_eq_or_imp, or_assoc]

/-- Replacing the record of a value: its old keys are cleared, then its new keys
are filed. A pinned key that the value leaves behind with no other entry is the
one case where the index loses a key it should keep. -/
theorem Mirrors.replace_iff {index : Index κ ν} {table : ExtTreeMap ν ρ}
    {keysOf : ρ → List κ} {pinned : κ → Prop} {value : ν} (record : ρ)
    (h : Mirrors index (Filed table keysOf) pinned) :
    Mirrors (file (unfile index (keysAt table keysOf value) value) (keysOf record) value)
        (Filed (table.insert value record) keysOf) pinned ↔
      ∀ key, pinned key → Filed table keysOf key value → key ∉ keysOf record →
        ∃ other, other ≠ value ∧ Filed table keysOf key other := by
  constructor
  · intro hnew key hpinned hfiled hleaves
    have hkey := (hnew.key_iff key).mpr (Or.inr hpinned)
    rw [mem_file, mem_unfile] at hkey
    obtain ⟨other, hne, hother⟩ := (hkey.resolve_right hleaves).2 (mem_keysAt.mpr hfiled)
    exact ⟨other, hne, (h.entries_iff key other).mp hother⟩
  · intro hkept
    constructor
    · intro key found
      rw [mem_entries_file, mem_entries_unfile, h.entries_iff, mem_keysAt, filed_insert]
      by_cases hfound : found = value
      · subst hfound
        simp
      · simp [hfound]
    · intro key
      rw [mem_file, mem_unfile, h.key_iff]
      simp only [h.entries_iff, mem_keysAt, filed_insert]
      by_cases hnew : key ∈ keysOf record
      · simp only [hnew, or_true, true_iff]
        exact Or.inl ⟨value, Or.inl ⟨rfl, trivial⟩⟩
      · simp only [hnew, and_false, or_false, false_or]
        constructor
        · rintro ⟨⟨found, hfound⟩ | hpinned, hother⟩
          · by_cases heq : found = value
            · subst heq
              exact Or.inl (hother hfound)
            · exact Or.inl ⟨found, heq, hfound⟩
          · exact Or.inr hpinned
        · rintro (⟨found, hne, hfound⟩ | hpinned)
          · exact ⟨Or.inl ⟨found, hfound⟩, fun _ => ⟨found, hne, hfound⟩⟩
          · exact ⟨Or.inr hpinned, fun hfiled => hkept key hpinned hfiled hnew⟩

theorem Mirrors.replace {index : Index κ ν} {table : ExtTreeMap ν ρ}
    {keysOf : ρ → List κ} {value : ν} (record : ρ)
    (h : Mirrors index (Filed table keysOf) (fun _ => False)) :
    Mirrors (file (unfile index (keysAt table keysOf value) value) (keysOf record) value)
      (Filed (table.insert value record) keysOf) (fun _ => False) :=
  (h.replace_iff record).mpr fun _ hpinned => hpinned.elim

theorem Mirrors.discard {index : Index κ ν} {table : ExtTreeMap ν ρ}
    {keysOf : ρ → List κ} {value : ν}
    (h : Mirrors index (Filed table keysOf) (fun _ => False)) :
    Mirrors (unfile index (keysAt table keysOf value) value)
      (Filed (table.erase value) keysOf) (fun _ => False) where
  entries_iff key found := by
    rw [mem_entries_unfile, h.entries_iff, mem_keysAt, filed_erase]
    by_cases hfound : found = value
    · subst hfound
      simp
    · simp [hfound]
  key_iff key := by
    rw [mem_unfile, h.key_iff]
    simp only [h.entries_iff, mem_keysAt, filed_erase, or_false]
    constructor
    · rintro ⟨⟨found, hfound⟩, hother⟩
      by_cases heq : found = value
      · subst heq
        exact hother hfound
      · exact ⟨found, heq, hfound⟩
    · rintro ⟨found, hne, hfound⟩
      exact ⟨⟨found, hfound⟩, fun _ => ⟨found, hne, hfound⟩⟩

/-- Filing the whole table mirrors it, when each value is the one it is stored under. -/
theorem mirrors_fileAll {table : ExtTreeMap ν ρ} {keysOf : ρ → List κ} {valueOf : ρ → ν}
    (hkeyed : ∀ {value record}, table[value]? = some record → valueOf record = value) :
    Mirrors (fileAll (∅ : Index κ ν) (fun entry => keysOf entry.2) (fun entry => valueOf entry.2)
      table.toList) (Filed table keysOf) (fun _ => False) := by
  have hiff : ∀ key value, (∃ entry ∈ table.toList, key ∈ keysOf entry.2 ∧
      value = valueOf entry.2) ↔ Filed table keysOf key value := by
    intro key value
    constructor
    · rintro ⟨⟨stored, record⟩, hmem, hkey, rfl⟩
      have hfound := ExtTreeMap.mem_toList_iff_getElem?_eq_some.mp hmem
      exact ⟨record, (hkeyed hfound).symm ▸ hfound, hkey⟩
    · rintro ⟨record, hfound, hkey⟩
      exact ⟨(value, record), ExtTreeMap.mem_toList_iff_getElem?_eq_some.mpr hfound, hkey,
        (hkeyed hfound).symm⟩
  constructor
  · intro key value
    rw [mem_entries_fileAll, hiff]
    simp
  · intro key
    rw [mem_fileAll]
    simp only [← hiff, ExtTreeMap.not_mem_empty, false_or, or_false]
    exact ⟨fun ⟨entry, hmem, hkey⟩ => ⟨_, entry, hmem, hkey, rfl⟩,
      fun ⟨_, entry, hmem, hkey, _⟩ => ⟨entry, hmem, hkey⟩⟩

end SecondaryIndex
