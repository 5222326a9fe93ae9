import Mathlib.Logic.Function.Basic
import Mathlib.Tactic.Common

/-! A directory whose names lead to the contents of files. A handle goes on leading to
the contents it was opened on, whatever becomes of the name. -/
namespace Inodes

structure Disk (ν γ : Type) where
  directory : ν → Option Nat := fun _ => none
  contents : Nat → γ
  /-- The first contents that no file has had yet. -/
  fresh : Nat := 0

namespace Disk
variable {ν γ : Type}

def read (disk : Disk ν γ) (name : ν) : Option γ :=
  (disk.directory name).map disk.contents

def store (disk : Disk ν γ) (inode : Nat) (content : γ) : Disk ν γ :=
  { disk with contents := Function.update disk.contents inode content }

def handle (disk : Disk ν γ) (name : ν) : Nat :=
  (disk.directory name).getD disk.fresh

/-- No two names lead to one file, and no file is among the fresh ones. -/
structure Sound (disk : Disk ν γ) : Prop where
  unshared : ∀ {first second : ν} {inode : Nat}, disk.directory first = some inode →
    disk.directory second = some inode → first = second
  below : ∀ {name : ν} {inode : Nat}, disk.directory name = some inode → inode < disk.fresh

theorem sound_empty {contents : Nat → γ} : ({ contents := contents } : Disk ν γ).Sound where
  unshared hfirst := by cases hfirst
  below hfound := by cases hfound

section Store
variable {disk : Disk ν γ} {name other : ν} {inode : Nat} {content : γ}

@[simp] theorem directory_store : (disk.store inode content).directory = disk.directory := rfl

theorem read_store (h : disk.directory name = some inode) :
    (disk.store inode content).read name = some content := by
  rw [read, directory_store, h, Option.map_some]
  exact congrArg some (Function.update_self ..)

theorem Sound.store (h : disk.Sound) : (disk.store inode content).Sound :=
  ⟨h.unshared, h.below⟩

end Store

def Agrees (touched : ν → Prop) (before after : Disk ν γ) : Prop :=
  ∀ name, ¬ touched name →
    after.directory name = before.directory name ∧ after.read name = before.read name

theorem agrees_store {disk : Disk ν γ} {name : ν} {inode : Nat}
    (hreached : ∀ other, disk.directory other = some inode → other = name) (content : γ) :
    Agrees (· = name) disk (disk.store inode content) := by
  intro other hother
  refine ⟨rfl, ?_⟩
  rw [read, read, directory_store]
  cases hfound : disk.directory other with
  | none => rfl
  | some found =>
    have hdifferent : found ≠ inode := by
      rintro rfl
      exact hother (hreached other hfound)
    rw [Option.map_some, Option.map_some]
    exact congrArg some (Function.update_of_ne hdifferent ..)

variable [DecidableEq ν]

/-- An existing file is emptied; its name leads to the contents it led to before. -/
def create (disk : Disk ν γ) (name : ν) (empty : γ) : Disk ν γ :=
  match disk.directory name with
  | some inode => disk.store inode empty
  | none =>
      { directory := Function.update disk.directory name (some disk.fresh)
        contents := Function.update disk.contents disk.fresh empty
        fresh := disk.fresh + 1 }

def rename (disk : Disk ν γ) (source target : ν) : Disk ν γ :=
  match disk.directory source with
  | none => disk
  | some inode =>
      { disk with
        directory := Function.update (Function.update disk.directory source none) target
          (some inode) }

def unlink (disk : Disk ν γ) (name : ν) : Disk ν γ :=
  { disk with directory := Function.update disk.directory name none }

variable {disk : Disk ν γ} {name other : ν} {inode : Nat}

theorem directory_create_self (disk : Disk ν γ) (name : ν) (empty : γ) :
    (disk.create name empty).directory name = some (disk.handle name) := by
  unfold create handle
  split
  · rename_i inode hfound
    rw [directory_store, hfound]
    rfl
  · rename_i hnone
    rw [hnone]
    exact Function.update_self ..

theorem fresh_create (disk : Disk ν γ) (name : ν) (empty : γ) :
    disk.fresh ≤ (disk.create name empty).fresh := by
  unfold create
  split
  · exact Nat.le_refl _
  · exact Nat.le_succ _

/-- A name that leads to a file that is not new led there before. -/
theorem directory_create_cases {empty : γ} (hold : inode < disk.fresh)
    (h : (disk.create name empty).directory other = some inode) :
    disk.directory other = some inode := by
  unfold create at h
  split at h
  · exact h
  · simp only [Function.update_apply] at h
    split at h
    · cases h
      exact absurd hold (Nat.lt_irrefl _)
    · exact h

theorem agrees_create (h : disk.Sound) (name : ν) (empty : γ) :
    Agrees (· = name) disk (disk.create name empty) := by
  unfold create
  split
  · rename_i inode hfound
    exact agrees_store (fun other hother => h.unshared hother hfound) empty
  · intro other hother
    have hkept : Function.update disk.directory name (some disk.fresh) other =
        disk.directory other := Function.update_of_ne hother ..
    refine ⟨hkept, ?_⟩
    simp only [read, hkept]
    cases hfound : disk.directory other with
    | none => rfl
    | some found =>
      have hdifferent : found ≠ disk.fresh := Nat.ne_of_lt (h.below hfound)
      simp [Function.update_of_ne hdifferent]

theorem directory_rename (h : disk.directory name = some inode) :
    (disk.rename name other).directory =
      Function.update (Function.update disk.directory name none) other (some inode) := by
  unfold rename
  rw [h]

theorem directory_rename_cases {third : ν}
    (h : (disk.rename name other).directory third = some inode) :
    disk.directory name = some inode ∨ disk.directory third = some inode := by
  unfold rename at h
  split at h
  · exact Or.inr h
  · rename_i moved hmoved
    simp only [Function.update_apply] at h
    split at h
    · exact Or.inl (hmoved.trans h)
    · split at h
      · cases h
      · exact Or.inr h

theorem fresh_rename (disk : Disk ν γ) (name other : ν) :
    (disk.rename name other).fresh = disk.fresh := by
  unfold rename
  split <;> rfl

theorem contents_rename : (disk.rename name other).contents = disk.contents := by
  unfold rename
  split <;> rfl

theorem read_rename_self (h : disk.directory name = some inode) :
    (disk.rename name other).read other = disk.read name := by
  rw [read, read, directory_rename h, Function.update_self, contents_rename, h]

theorem agrees_rename (name other : ν) (disk : Disk ν γ) :
    Agrees (fun touched => touched = name ∨ touched = other) disk (disk.rename name other) := by
  intro third hthird
  rw [not_or] at hthird
  unfold rename
  split
  · exact ⟨rfl, rfl⟩
  · simp [read, Function.update_of_ne hthird.1, Function.update_of_ne hthird.2]

@[simp] theorem directory_unlink :
    (disk.unlink name).directory = Function.update disk.directory name none := rfl

theorem agrees_unlink (name : ν) (disk : Disk ν γ) :
    Agrees (· = name) disk (disk.unlink name) := by
  intro other hother
  simp [read, Function.update_of_ne hother, unlink]

theorem Sound.create (h : disk.Sound) (name : ν) (empty : γ) : (disk.create name empty).Sound := by
  unfold Disk.create
  split
  · exact h.store
  · constructor
    · intro first second inode hfirst hsecond
      simp only [Function.update_apply] at hfirst hsecond
      split at hfirst <;> split at hsecond
      · simp_all
      · cases hfirst
        exact absurd (h.below hsecond) (Nat.lt_irrefl _)
      · cases hsecond
        exact absurd (h.below hfirst) (Nat.lt_irrefl _)
      · exact h.unshared hfirst hsecond
    · intro other inode hother
      simp only [Function.update_apply] at hother
      split at hother
      · cases hother
        exact Nat.lt_succ_self _
      · exact Nat.lt_succ_of_lt (h.below hother)

theorem Sound.unlink (h : disk.Sound) : (disk.unlink name).Sound := by
  constructor
  · intro first second inode hfirst hsecond
    simp only [directory_unlink, Function.update_apply] at hfirst hsecond
    split at hfirst <;> split at hsecond
    · cases hfirst
    · cases hfirst
    · cases hsecond
    · exact h.unshared hfirst hsecond
  · intro other inode hother
    simp only [directory_unlink, Function.update_apply] at hother
    split at hother
    · cases hother
    · exact h.below hother

theorem Sound.rename (h : disk.Sound) (name other : ν) : (disk.rename name other).Sound := by
  cases hname : disk.directory name with
  | none =>
    unfold Disk.rename
    rw [hname]
    exact h
  | some moved =>
    have hleft : ∀ {third : ν} {inode : Nat}, third ≠ other →
        (disk.rename name other).directory third = some inode →
          third ≠ name ∧ disk.directory third = some inode := by
      intro third inode htarget hthird
      rw [directory_rename hname, Function.update_of_ne htarget, Function.update_apply] at hthird
      split at hthird
      · cases hthird
      · rename_i hsource
        exact ⟨hsource, hthird⟩
    have htarget : (disk.rename name other).directory other = some moved := by
      rw [directory_rename hname, Function.update_self]
    have hfresh : (disk.rename name other).fresh = disk.fresh := by
      unfold Disk.rename
      rw [hname]
    constructor
    · intro first second inode hfirst hsecond
      by_cases hfirstTarget : first = other <;> by_cases hsecondTarget : second = other
      · rw [hfirstTarget, hsecondTarget]
      · rw [hfirstTarget, htarget] at hfirst
        cases hfirst
        obtain ⟨hsource, hold⟩ := hleft hsecondTarget hsecond
        exact absurd (h.unshared hold hname) hsource
      · rw [hsecondTarget, htarget] at hsecond
        cases hsecond
        obtain ⟨hsource, hold⟩ := hleft hfirstTarget hfirst
        exact absurd (h.unshared hold hname) hsource
      · exact h.unshared (hleft hfirstTarget hfirst).2 (hleft hsecondTarget hsecond).2
    · intro third inode hthird
      rw [hfresh]
      by_cases hsame : third = other
      · rw [hsame, htarget] at hthird
        cases hthird
        exact h.below hname
      · exact h.below (hleft hsame hthird).2

end Disk

end Inodes
