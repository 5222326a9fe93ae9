import RackFabric.Library.Execution
import RackFabric.Model.Files
import RackFabric.Properties.Names

/-! Writing a file atomically, whatever else is written at the same time: the destination
is a register that each call sets at one moment, or not at all. -/
namespace RackFabric
open Inodes Disk

theorem makeTempPath_injective {first second : Str} {process other : Nat} {counter later : UInt64}
    (h : makeTempPath first process counter = makeTempPath second other later) :
    first = second ∧ process = other ∧ counter = later := by
  unfold makeTempPath at h
  obtain ⟨hfront, hcounter⟩ := dashed_injective h
  have hsplit : ∀ path : Str, path ++ str ".tmp-" = path ++ str ".tmp" ++ str "-" := by
    intro path
    rw [List.append_assoc]
    rfl
  rw [hsplit, hsplit] at hfront
  obtain ⟨hpath, hprocess⟩ := dashed_injective hfront
  exact ⟨List.append_cancel_right hpath, hprocess, UInt64.toNat_inj.mp hcounter⟩

theorem makeTempPath_ne_self (path : Str) (process : Nat) (counter : UInt64) :
    makeTempPath path process counter ≠ path := by
  intro h
  have hlength := congrArg List.length h
  simp only [makeTempPath, List.length_append] at hlength
  have hmark : (str ".tmp-").length = 5 := by decide
  omega

/-- No destination is the temporary file of another one. -/
def Apart (paths : Str → Prop) : Prop :=
  ∀ first second, paths first → paths second → ∀ process counter,
    makeTempPath first process counter ≠ second

theorem apart_single (path : Str) : Apart (· = path) := by
  intro first second hfirst hsecond process counter
  rw [hfirst, hsecond]
  exact makeTempPath_ne_self path process counter

namespace WriteCall

def Written (call : WriteCall) (disk : Disk Str Bytes) : Prop :=
  match call.phase with
  | .writing inode | .flushing inode => disk.directory call.target = some inode
  | .closing _ | .replacing => disk.read call.target = some call.data
  | _ => True

theorem Written.agree {call : WriteCall} {before after : Disk Str Bytes} {touched : Str → Prop}
    (h : call.Written before) (hagrees : Agrees touched before after)
    (hspared : ¬ touched call.target) : call.Written after := by
  obtain ⟨hdirectory, hread⟩ := hagrees call.target hspared
  unfold Written at h ⊢
  rw [hdirectory, hread]
  exact h

/-- The open file of a call is reached by its name only. -/
def Holds (call : WriteCall) (disk : Disk Str Bytes) : Prop :=
  ∀ inode, call.phase.handle = some inode →
    inode < disk.fresh ∧ ∀ name, disk.directory name = some inode → name = call.target

end WriteCall

namespace FileSystem

structure Orderly (paths : Str → Prop) (used : Nat) (files : FileSystem) : Prop where
  sound : files.disk.Sound
  counted : ∀ process, (files.counters process).toNat ≤ used
  issued : ∀ {id : Nat} {call : WriteCall}, files.calls id = some call →
    call.phase.live = true → call.atomicReplace = true →
      call.counter.toNat < (files.counters call.process).toNat
  distinct : ∀ {first second : Nat} {call other : WriteCall}, files.calls first = some call →
    files.calls second = some other → call.phase.live = true → other.phase.live = true →
      call.atomicReplace = true → other.atomicReplace = true → call.process = other.process →
        call.counter = other.counter → first = second
  managed : ∀ {id : Nat} {call : WriteCall}, files.calls id = some call → paths call.path
  replaces : ∀ {id : Nat} {call : WriteCall}, files.calls id = some call →
    call.phase = .replacing → call.atomicReplace = true
  holds : ∀ {id : Nat} {call : WriteCall}, files.calls id = some call → call.Holds files.disk
  written : ∀ {id : Nat} {call : WriteCall}, files.calls id = some call →
    call.atomicReplace = true → call.Written files.disk

variable {paths : Str → Prop} {used : Nat} {files : FileSystem} {id : Nat} {call : WriteCall}

theorem target_of_atomic (h : call.atomicReplace = true) :
    call.target = makeTempPath call.path call.process call.counter := by
  rw [WriteCall.target, if_pos h]

theorem target_of_direct (h : call.atomicReplace = false) : call.target = call.path := by
  rw [WriteCall.target, h]
  rfl

theorem Orderly.target_ne_path (h : Orderly paths used files) (hapart : Apart paths)
    (hfound : files.calls id = some call) (hatomic : call.atomicReplace = true) {path : Str}
    (hpath : paths path) : call.target ≠ path := by
  rw [target_of_atomic hatomic]
  exact hapart call.path path (h.managed hfound) hpath _ _

/-- Two calls in flight write different files, if one of them writes a temporary one. -/
theorem Orderly.target_ne (h : Orderly paths used files) (hapart : Apart paths)
    (hfound : files.calls id = some call) (hatomic : call.atomicReplace = true)
    (hlive : call.phase.live = true) {other : Nat} {second : WriteCall}
    (hother : files.calls other = some second) (hne : other ≠ id)
    (hotherLive : second.phase.live = true) : second.target ≠ call.target := by
  cases hsecond : second.atomicReplace with
  | false =>
    rw [target_of_direct hsecond]
    exact (h.target_ne_path hapart hfound hatomic (h.managed hother)).symm
  | true =>
    rw [target_of_atomic hsecond, target_of_atomic hatomic]
    intro hsame
    obtain ⟨-, hprocess, hcounter⟩ := makeTempPath_injective hsame
    exact hne (h.distinct hother hfound hotherLive hlive hsecond hatomic hprocess hcounter)

/-! What one call does to the disk. -/

inductive Touch (disk : Disk Str Bytes) (call : WriteCall) : Disk Str Bytes → Prop where
  | kept : Touch disk call disk
  | created : Touch disk call (disk.create call.target [])
  | stored {inode : Nat} (hhandle : call.phase.handle = some inode) (content : Bytes) :
      Touch disk call (disk.store inode content)
  | renamed (hatomic : call.atomicReplace = true) :
      Touch disk call (disk.rename call.target call.path)
  | unlinked : Touch disk call (disk.unlink call.target)

variable {after : Disk Str Bytes}

theorem Touch.sound (h : files.disk.Sound) (htouch : Touch files.disk call after) :
    after.Sound := by
  cases htouch with
  | kept => exact h
  | created => exact h.create _ _
  | stored => exact h.store
  | renamed => exact h.rename _ _
  | unlinked => exact h.unlink

theorem Touch.agrees (h : Orderly paths used files) (hfound : files.calls id = some call)
    (htouch : Touch files.disk call after) :
    Agrees (fun name => name = call.target ∨ call.atomicReplace = true ∧ name = call.path)
      files.disk after := by
  intro name hname
  rw [not_or] at hname
  cases htouch with
  | kept => exact ⟨rfl, rfl⟩
  | created => exact agrees_create h.sound call.target [] name hname.1
  | stored hhandle content =>
    exact agrees_store (h.holds hfound _ hhandle).2 content name hname.1
  | renamed hatomic =>
    refine agrees_rename call.target call.path files.disk name ?_
    rintro (hsource | htarget)
    · exact hname.1 hsource
    · exact hname.2 ⟨hatomic, htarget⟩
  | unlinked => exact agrees_unlink call.target files.disk name hname.1

theorem live_of_handle {phase : WritePhase} {inode : Nat} (h : phase.handle = some inode) :
    phase.live = true := by
  cases phase <;> first | rfl | cases h

theorem written_of_not_live {disk : Disk Str Bytes} (h : call.phase.live = false) :
    call.Written disk := by
  unfold WriteCall.Written
  cases hphase : call.phase <;> simp_all [WritePhase.live]

section Others
variable (h : Orderly paths used files) (hapart : Apart paths)
  (hfound : files.calls id = some call) (hlive : call.phase.live = true)
  (htouch : Touch files.disk call after) {other : Nat} {second : WriteCall}
  (hother : files.calls other = some second) (hne : other ≠ id)
include h hapart hfound hlive htouch hother hne

theorem holds_touched : second.Holds after := by
  intro inode hhandle
  obtain ⟨hbelow, hreached⟩ := h.holds hother inode hhandle
  cases htouch with
  | kept => exact ⟨hbelow, hreached⟩
  | created =>
    refine ⟨Nat.lt_of_lt_of_le hbelow (fresh_create ..), fun name hname => ?_⟩
    exact hreached name (directory_create_cases hbelow hname)
  | stored => exact ⟨hbelow, hreached⟩
  | renamed hatomic =>
    rw [fresh_rename]
    refine ⟨hbelow, fun name hname => ?_⟩
    rcases directory_rename_cases hname with hmoved | hkept
    · have hsame := hreached call.target hmoved
      exact absurd hsame.symm
        (h.target_ne hapart hfound hatomic hlive hother hne (live_of_handle hhandle))
    · exact hreached name hkept
  | unlinked =>
    refine ⟨hbelow, fun name hname => ?_⟩
    rw [directory_unlink, Function.update_apply] at hname
    split at hname
    · cases hname
    · exact hreached name hname

theorem written_touched (hatomic : second.atomicReplace = true) : second.Written after := by
  cases hsecond : second.phase.live with
  | false => exact written_of_not_live hsecond
  | true =>
    refine (h.written hother hatomic).agree (htouch.agrees h hfound) ?_
    rintro (hsame | ⟨-, hpath⟩)
    · exact h.target_ne hapart hother hatomic hsecond hfound hne.symm hlive hsame.symm
    · exact h.target_ne_path hapart hother hatomic (h.managed hfound) hpath

end Others

/-- A call goes on, and does what it can to the disk. -/
theorem Orderly.touched (h : Orderly paths used files) (hapart : Apart paths)
    (hfound : files.calls id = some call) (hlive : call.phase.live = true)
    (htouch : Touch files.disk call after) {phase : WritePhase}
    (hreplaces : phase = .replacing → call.atomicReplace = true)
    (hholds : { call with phase := phase }.Holds after)
    (hwritten : call.atomicReplace = true → { call with phase := phase }.Written after) :
    Orderly paths used ({ files with disk := after }.withPhase id call phase) := by
  have hcases : ∀ {other : Nat} {second : WriteCall},
      ({ files with disk := after }.withPhase id call phase).calls other = some second →
        (other = id ∧ second = { call with phase := phase }) ∨
          (other ≠ id ∧ files.calls other = some second) := by
    intro other second hother
    simp only [withPhase, Function.update_apply] at hother
    split at hother
    · rename_i hsame
      exact Or.inl ⟨hsame, (Option.some.inj hother).symm⟩
    · rename_i hdifferent
      exact Or.inr ⟨hdifferent, hother⟩
  constructor
  case sound => exact htouch.sound h.sound
  case counted => exact h.counted
  case issued =>
    intro other second hother hsecond hatomic
    rcases hcases hother with ⟨rfl, rfl⟩ | ⟨-, hold⟩
    · have hissued := h.issued hfound hlive hatomic
      exact hissued
    · exact h.issued hold hsecond hatomic
  case distinct =>
    intro first second one two hfirst hsecond hfirstLive hsecondLive hone htwo hprocess hcounter
    rcases hcases hfirst with ⟨rfl, rfl⟩ | ⟨-, hold⟩ <;>
      rcases hcases hsecond with ⟨rfl, rfl⟩ | ⟨-, hold'⟩
    · rfl
    · have hsame := h.distinct hfound hold' hlive hsecondLive hone htwo hprocess hcounter
      exact hsame
    · have hsame := h.distinct hold hfound hfirstLive hlive hone htwo hprocess hcounter
      exact hsame
    · exact h.distinct hold hold' hfirstLive hsecondLive hone htwo hprocess hcounter
  case managed =>
    intro other second hother
    rcases hcases hother with ⟨rfl, rfl⟩ | ⟨-, hold⟩
    · have hmanaged := h.managed hfound
      exact hmanaged
    · exact h.managed hold
  case replaces =>
    intro other second hother hphase
    rcases hcases hother with ⟨rfl, rfl⟩ | ⟨-, hold⟩
    · exact hreplaces hphase
    · exact h.replaces hold hphase
  case holds =>
    intro other second hother
    rcases hcases hother with ⟨rfl, rfl⟩ | ⟨hne, hold⟩
    · exact hholds
    · exact holds_touched h hapart hfound hlive htouch hold hne
  case written =>
    intro other second hother hatomic
    rcases hcases hother with ⟨rfl, rfl⟩ | ⟨hne, hold⟩
    · exact hwritten hatomic
    · exact written_touched h hapart hfound hlive htouch hold hne hatomic

theorem holds_of_closed {phase : WritePhase} {disk : Disk Str Bytes} (h : phase.handle = none) :
    { call with phase := phase }.Holds disk := by
  intro inode hhandle
  have hnone : phase.handle = some inode := hhandle
  rw [h] at hnone
  cases hnone

theorem holds_of_same {phase : WritePhase} {disk : Disk Str Bytes} (h : call.Holds disk)
    (hsame : phase.handle = call.phase.handle) : { call with phase := phase }.Holds disk :=
  fun inode hhandle => h inode (hsame ▸ hhandle)

theorem Orderly.proceed (h : Orderly paths used files) (hapart : Apart paths)
    (hfound : files.calls id = some call) (succeeds : Bool) :
    Orderly paths used (files.proceed id call succeeds) := by
  have hwritten := h.written hfound
  have hholds := h.holds hfound
  unfold WriteCall.Written at hwritten
  unfold FileSystem.proceed
  split
  case h_1 hphase =>
    have hlive : call.phase.live = true := by rw [hphase]; rfl
    split
    · have hdirectory := directory_create_self files.disk call.target ([] : Bytes)
      refine h.touched hapart hfound hlive .created nofun ?_ fun _ => hdirectory
      intro inode hhandle
      cases hhandle
      have hsound := h.sound.create call.target ([] : Bytes)
      exact ⟨hsound.below hdirectory, fun name hname => hsound.unshared hname hdirectory⟩
    · exact h.touched hapart hfound hlive .kept nofun (holds_of_closed rfl) fun _ => trivial
  case h_2 inode hphase =>
    have hlive : call.phase.live = true := by rw [hphase]; rfl
    rw [hphase] at hwritten
    split
    · exact h.touched hapart hfound hlive .kept nofun (holds_of_same hholds (by rw [hphase]; rfl))
        hwritten
    · exact h.touched hapart hfound hlive .kept nofun (holds_of_same hholds (by rw [hphase]; rfl))
        fun _ => trivial
  case h_3 inode hphase =>
    have hlive : call.phase.live = true := by rw [hphase]; rfl
    have hhandle : call.phase.handle = some inode := by rw [hphase]; rfl
    rw [hphase] at hwritten
    split
    · refine h.touched hapart hfound hlive (.stored hhandle call.data) nofun ?_ fun hatomic => ?_
      · intro found hopen
        exact holds_of_same hholds (by rw [hphase]; rfl) found hopen
      · exact read_store (hwritten hatomic)
    · exact h.touched hapart hfound hlive .kept nofun (holds_of_same hholds (by rw [hphase]; rfl))
        fun _ => trivial
  case h_4 inode hphase =>
    have hlive : call.phase.live = true := by rw [hphase]; rfl
    rw [hphase] at hwritten
    split
    · exact h.touched hapart hfound hlive .kept nofun (holds_of_closed rfl) fun _ => trivial
    · split
      · rename_i hatomic
        exact h.touched hapart hfound hlive .kept (fun _ => hatomic) (holds_of_closed rfl) hwritten
      · exact h.touched hapart hfound hlive .kept nofun (holds_of_closed rfl) fun _ => trivial
  case h_5 hphase =>
    have hlive : call.phase.live = true := by rw [hphase]; rfl
    split
    · exact h.touched hapart hfound hlive (.renamed (h.replaces hfound hphase)) nofun
        (holds_of_closed rfl) fun _ => trivial
    · exact h.touched hapart hfound hlive .kept nofun (holds_of_closed rfl) fun _ => trivial
  case h_6 inode detail hphase =>
    have hlive : call.phase.live = true := by rw [hphase]; rfl
    exact h.touched hapart hfound hlive .kept nofun (holds_of_closed rfl) fun _ => trivial
  case h_7 detail hphase =>
    have hlive : call.phase.live = true := by rw [hphase]; rfl
    split
    · exact h.touched hapart hfound hlive .unlinked nofun (holds_of_closed rfl) fun _ => trivial
    · exact h.touched hapart hfound hlive .kept nofun (holds_of_closed rfl) fun _ => trivial
  case h_8 => exact h
  case h_9 => exact h
  case h_10 => exact h

theorem withPhase_self (hfound : files.calls id = some call) :
    files.withPhase id call call.phase = files := by
  unfold withPhase
  rw [show some { call with phase := call.phase } = files.calls id from hfound.symm,
    Function.update_eq_self]

theorem Orderly.arrive (h : Orderly paths used files) (hapart : Apart paths)
    (hfound : files.calls id = some call) (length : Nat) :
    Orderly paths used (files.arrive call length) := by
  have hwritten := h.written hfound
  have hstored : ∀ {inode : Nat} (content : Bytes), call.phase.handle = some inode →
      (call.atomicReplace = true → call.Written (files.disk.store inode content)) →
        Orderly paths used { files with disk := files.disk.store inode content } := by
    intro inode content hhandle hkept
    have htouched := h.touched hapart hfound (live_of_handle hhandle) (.stored hhandle content)
      (h.replaces hfound) (h.holds hfound) hkept
    rwa [withPhase_self] at htouched
    exact hfound
  unfold FileSystem.arrive
  split
  case h_1 inode hphase =>
    refine hstored _ (by rw [hphase]; rfl) fun hatomic => ?_
    simp only [WriteCall.Written, hphase] at hwritten ⊢
    exact hwritten hatomic
  case h_2 inode hphase =>
    refine hstored _ (by rw [hphase]; rfl) fun hatomic => ?_
    simp only [WriteCall.Written, hphase] at hwritten ⊢
    exact hwritten hatomic
  case h_3 inode detail hphase =>
    refine hstored _ (by rw [hphase]; rfl) fun _ => ?_
    simp only [WriteCall.Written, hphase]
  case h_4 => exact h

theorem Orderly.later (h : Orderly paths used files) : Orderly paths (used + 1) files :=
  { h with counted := fun process => Nat.le_succ_of_le (h.counted process) }

theorem Orderly.start (h : Orderly paths used files) (hnew : files.calls id = none)
    {path : Str} (hpath : paths path) (hroom : used + 1 < 2 ^ 64) (process : Nat) (data : Bytes)
    (atomicReplace : Bool) :
    Orderly paths (used + 1) (files.step (.start id process path data atomicReplace)) := by
  have hcounted := h.counted process
  have hnext : (files.counters process + 1).toNat = (files.counters process).toNat + 1 := by
    rw [UInt64.toNat_add, UInt64.toNat_one]
    omega
  simp only [FileSystem.step, hnew]
  have hcases : ∀ {other : Nat} {second : WriteCall},
      Function.update files.calls id
          (some ⟨process, files.counters process, path, data, atomicReplace, .opening⟩) other =
        some second →
        (other = id ∧
          second = ⟨process, files.counters process, path, data, atomicReplace, .opening⟩) ∨
          (other ≠ id ∧ files.calls other = some second) := by
    intro other second hother
    rw [Function.update_apply] at hother
    split at hother
    · rename_i hsame
      exact Or.inl ⟨hsame, (Option.some.inj hother).symm⟩
    · rename_i hdifferent
      exact Or.inr ⟨hdifferent, hother⟩
  have hgrown : ∀ other, (files.counters other).toNat ≤
      ((if atomicReplace = true then
        Function.update files.counters process (files.counters process + 1)
        else files.counters) other).toNat := by
    intro other
    split
    · rw [Function.update_apply]
      split
      · rename_i hsame
        rw [hsame, hnext]
        exact Nat.le_succ _
      · exact Nat.le_refl _
    · exact Nat.le_refl _
  have hbounded : ∀ other, ((if atomicReplace = true then
      Function.update files.counters process (files.counters process + 1)
      else files.counters) other).toNat ≤ used + 1 := by
    intro other
    have hother := h.counted other
    split
    · rw [Function.update_apply]
      split <;> omega
    · exact Nat.le_succ_of_le hother
  constructor
  case sound => exact h.sound
  case counted => exact hbounded
  case issued =>
    intro other second hother hlive hatomic
    rcases hcases hother with ⟨rfl, rfl⟩ | ⟨-, hold⟩
    · obtain rfl : atomicReplace = true := hatomic
      simp only [if_true, Function.update_self, hnext]
      exact Nat.lt_succ_self _
    · exact Nat.lt_of_lt_of_le (h.issued hold hlive hatomic) (hgrown _)
  case distinct =>
    intro first second one two hfirst hsecond hfirstLive hsecondLive hone htwo hprocess hcounter
    rcases hcases hfirst with ⟨rfl, rfl⟩ | ⟨-, hold⟩ <;>
      rcases hcases hsecond with ⟨rfl, rfl⟩ | ⟨-, hold'⟩
    · rfl
    · have hissued := h.issued hold' hsecondLive htwo
      rw [← hprocess, ← hcounter] at hissued
      exact absurd hissued (Nat.lt_irrefl _)
    · have hissued := h.issued hold hfirstLive hone
      rw [hprocess, hcounter] at hissued
      exact absurd hissued (Nat.lt_irrefl _)
    · exact h.distinct hold hold' hfirstLive hsecondLive hone htwo hprocess hcounter
  case managed =>
    intro other second hother
    rcases hcases hother with ⟨rfl, rfl⟩ | ⟨-, hold⟩
    · exact hpath
    · exact h.managed hold
  case replaces =>
    intro other second hother hphase
    rcases hcases hother with ⟨rfl, rfl⟩ | ⟨-, hold⟩
    · cases hphase
    · exact h.replaces hold hphase
  case holds =>
    intro other second hother
    rcases hcases hother with ⟨rfl, rfl⟩ | ⟨-, hold⟩
    · intro inode hhandle
      cases hhandle
    · exact h.holds hold
  case written =>
    intro other second hother hatomic
    rcases hcases hother with ⟨rfl, rfl⟩ | ⟨-, hold⟩
    · trivial
    · exact h.written hold hatomic

theorem stopCall_eq (process : Nat) (call : WriteCall) :
    stopCall process call = call ∧ (call.phase.live = true → call.process ≠ process) ∨
      call.phase.live = true ∧ stopCall process call = { call with phase := .stopped } := by
  unfold stopCall
  split
  · rename_i hstops
    exact Or.inr ⟨hstops.1, rfl⟩
  · rename_i hspared
    exact Or.inl ⟨rfl, fun hlive hsame => hspared ⟨hlive, hsame⟩⟩

/-- A process that stops leaves its files behind, and its counter starts again. -/
theorem Orderly.stop (h : Orderly paths used files) (process : Nat) :
    Orderly paths used (files.step (.stop process)) := by
  have hcases : ∀ {other : Nat} {second : WriteCall},
      (files.calls other).map (stopCall process) = some second →
        (files.calls other = some second ∧
          (second.phase.live = true → second.process ≠ process)) ∨
        ∃ call, files.calls other = some call ∧ second = { call with phase := .stopped } := by
    intro other second hother
    obtain ⟨call, hcall, rfl⟩ := Option.map_eq_some_iff.mp hother
    rcases stopCall_eq process call with ⟨hkept, hlive⟩ | ⟨-, hstopped⟩
    · rw [hkept]
      exact Or.inl ⟨hcall, hlive⟩
    · exact Or.inr ⟨call, hcall, hstopped⟩
  constructor
  case sound => exact h.sound
  case counted =>
    intro other
    simp only [FileSystem.step, Function.update_apply]
    split
    · exact Nat.zero_le _
    · exact h.counted other
  case issued =>
    intro other second hother hlive hatomic
    rcases hcases hother with ⟨hold, hspared⟩ | ⟨call, -, rfl⟩
    · simp only [FileSystem.step]
      rw [Function.update_of_ne (hspared hlive)]
      exact h.issued hold hlive hatomic
    · cases hlive
  case distinct =>
    intro first second one two hfirst hsecond hfirstLive hsecondLive hone htwo hprocess hcounter
    rcases hcases hfirst with ⟨hold, -⟩ | ⟨call, -, rfl⟩
    · rcases hcases hsecond with ⟨hold', -⟩ | ⟨call, -, rfl⟩
      · exact h.distinct hold hold' hfirstLive hsecondLive hone htwo hprocess hcounter
      · cases hsecondLive
    · cases hfirstLive
  case managed =>
    intro other second hother
    rcases hcases hother with ⟨hold, -⟩ | ⟨call, hold, rfl⟩
    · exact h.managed hold
    · have hmanaged := h.managed hold
      exact hmanaged
  case replaces =>
    intro other second hother hphase
    rcases hcases hother with ⟨hold, -⟩ | ⟨call, -, rfl⟩
    · exact h.replaces hold hphase
    · cases hphase
  case holds =>
    intro other second hother
    rcases hcases hother with ⟨hold, -⟩ | ⟨call, -, rfl⟩
    · exact h.holds hold
    · exact holds_of_closed rfl
  case written =>
    intro other second hother hatomic
    rcases hcases hother with ⟨hold, -⟩ | ⟨call, -, rfl⟩
    · exact h.written hold hatomic
    · trivial

end FileSystem

def FileEvent.Managed (paths : Str → Prop) : FileEvent → Prop
  | .start _ _ path _ _ => paths path
  | _ => True

namespace FileSystem
variable {paths : Str → Prop} {used : Nat} {files : FileSystem}

theorem Orderly.step (h : Orderly paths used files) (hapart : Apart paths) {event : FileEvent}
    (hmanaged : event.Managed paths) (hroom : used + 1 < 2 ^ 64) :
    Orderly paths (used + 1) (files.step event) := by
  cases event with
  | start id process path data atomicReplace =>
    cases hnew : files.calls id with
    | none => exact h.start hnew hmanaged hroom process data atomicReplace
    | some call =>
      simp only [FileSystem.step, hnew]
      exact h.later
  | proceed id succeeds =>
    cases hfound : files.calls id with
    | none =>
      simp only [FileSystem.step, hfound]
      exact h.later
    | some call =>
      simp only [FileSystem.step, hfound]
      exact (h.proceed hapart hfound succeeds).later
  | arrive id length =>
    cases hfound : files.calls id with
    | none =>
      simp only [FileSystem.step, hfound]
      exact h.later
    | some call =>
      simp only [FileSystem.step, hfound]
      exact (h.arrive hapart hfound length).later
  | stop process => exact (h.stop process).later

/-! The destination as a register. -/

def installs (files : FileSystem) (path : Str) : FileEvent → Option (Nat × Bytes)
  | .proceed id true =>
      match files.calls id with
      | some call =>
          if call.phase = .replacing ∧ call.path = path then some (id, call.data) else none
      | none => none
  | _ => none

def installed (path : Str) (files : FileSystem) (events : List FileEvent) :
    List (Nat × Bytes) :=
  Execution.outputs step (fun files event => (files.installs path event).toList) files events

theorem installed_cons (path : Str) (files : FileSystem) (event : FileEvent)
    (events : List FileEvent) : installed path files (event :: events) =
      (files.installs path event).toList ++ installed path (files.step event) events := rfl

/-- The calls for the path write a temporary file first. -/
def Replaces (files : FileSystem) (path : Str) : Prop :=
  ∀ {id : Nat} {call : WriteCall}, files.calls id = some call → call.path = path →
    call.atomicReplace = true

end FileSystem

def FileEvent.Replaces (path : Str) : FileEvent → Prop
  | .start _ _ other _ atomicReplace => other = path → atomicReplace = true
  | _ => True

namespace FileSystem
variable {paths : Str → Prop} {used : Nat} {files : FileSystem} {path : Str} {id : Nat}
  {call : WriteCall}

/-- A call in flight enters its next phase; it returns well from the replacement of its
destination, or from closing the destination itself. -/
theorem proceed_cases (files : FileSystem) (id : Nat) (call : WriteCall) (succeeds : Bool) :
    call.phase.live = false ∧ files.proceed id call succeeds = files ∨
      call.phase.live = true ∧ ∃ disk phase,
        files.proceed id call succeeds = { files with disk := disk }.withPhase id call phase ∧
        (phase = .returned .ok [] ↔ succeeds = true ∧ (call.phase = .replacing ∨
          call.atomicReplace = false ∧ ∃ inode, call.phase = .closing inode)) := by
  unfold FileSystem.proceed
  cases hphase : call.phase with
  | opening =>
    right
    refine ⟨rfl, ?_⟩
    simp only
    split
    · exact ⟨_, _, rfl, by simp⟩
    · exact ⟨files.disk, _, rfl, by simp⟩
  | writing inode =>
    right
    refine ⟨rfl, files.disk, ?_⟩
    simp only
    split
    · exact ⟨_, rfl, by simp⟩
    · exact ⟨_, rfl, by simp⟩
  | flushing inode =>
    right
    refine ⟨rfl, ?_⟩
    simp only
    split
    · exact ⟨_, _, rfl, by simp⟩
    · exact ⟨files.disk, _, rfl, by simp⟩
  | closing inode =>
    right
    refine ⟨rfl, files.disk, ?_⟩
    simp only
    split
    · exact ⟨_, rfl, by simp_all⟩
    · split
      · exact ⟨_, rfl, by simp_all⟩
      · exact ⟨_, rfl, by simp_all⟩
  | replacing =>
    right
    refine ⟨rfl, ?_⟩
    simp only
    split
    · exact ⟨_, _, rfl, by simp_all⟩
    · exact ⟨files.disk, _, rfl, by simp_all⟩
  | abandoning inode detail =>
    right
    exact ⟨rfl, files.disk, _, rfl, by simp⟩
  | removing detail =>
    right
    refine ⟨rfl, ?_⟩
    simp only
    split
    · exact ⟨_, _, rfl, by simp⟩
    · exact ⟨files.disk, _, rfl, by simp⟩
  | returned status detail => exact Or.inl ⟨rfl, rfl⟩
  | unremoved detail => exact Or.inl ⟨rfl, rfl⟩
  | stopped => exact Or.inl ⟨rfl, rfl⟩

theorem calls_withPhase {disk : Disk Str Bytes} {phase : WritePhase} {other : Nat}
    {later : WriteCall}
    (h : ({ files with disk := disk }.withPhase id call phase).calls other = some later) :
    other = id ∧ later = { call with phase := phase } ∨
      other ≠ id ∧ files.calls other = some later := by
  simp only [withPhase, Function.update_apply] at h
  split at h
  · rename_i hsame
    exact Or.inl ⟨hsame, (Option.some.inj h).symm⟩
  · rename_i hdifferent
    exact Or.inr ⟨hdifferent, h⟩

theorem calls_arrive (length : Nat) : (files.arrive call length).calls = files.calls := by
  unfold FileSystem.arrive
  split <;> rfl

/-- A call keeps what it was started with. -/
theorem calls_step {event : FileEvent} {later : WriteCall}
    (h : (files.step event).calls id = some later) :
    (∃ call, files.calls id = some call ∧
      later = { call with phase := later.phase }) ∨
      ∃ process path data atomicReplace, files.calls id = none ∧
        event = .start id process path data atomicReplace ∧
        later = ⟨process, files.counters process, path, data, atomicReplace, .opening⟩ := by
  cases event with
  | start other process path data atomicReplace =>
    cases hnew : files.calls other with
    | some existing =>
      simp only [FileSystem.step, hnew] at h
      exact Or.inl ⟨later, h, rfl⟩
    | none =>
      simp only [FileSystem.step, hnew, Function.update_apply] at h
      split at h
      · rename_i hsame
        subst hsame
        exact Or.inr ⟨process, path, data, atomicReplace, hnew, rfl, (Option.some.inj h).symm⟩
      · exact Or.inl ⟨later, h, rfl⟩
  | proceed other succeeds =>
    left
    cases hfound : files.calls other with
    | none =>
      simp only [FileSystem.step, hfound] at h
      exact ⟨later, h, rfl⟩
    | some call =>
      simp only [FileSystem.step, hfound] at h
      rcases proceed_cases files other call succeeds with
        ⟨-, hsame⟩ | ⟨-, disk, phase, hphase, -⟩
      · rw [hsame] at h
        exact ⟨later, h, rfl⟩
      · rw [hphase] at h
        rcases calls_withPhase h with ⟨rfl, rfl⟩ | ⟨-, hold⟩
        · exact ⟨call, hfound, rfl⟩
        · exact ⟨later, hold, rfl⟩
  | arrive other length =>
    left
    cases hfound : files.calls other with
    | none =>
      simp only [FileSystem.step, hfound] at h
      exact ⟨later, h, rfl⟩
    | some call =>
      simp only [FileSystem.step, hfound, calls_arrive] at h
      exact ⟨later, h, rfl⟩
  | stop process =>
    left
    obtain ⟨call, hcall, rfl⟩ := Option.map_eq_some_iff.mp h
    rcases stopCall_eq process call with ⟨hkept, -⟩ | ⟨-, hstopped⟩
    · rw [hkept]
      exact ⟨call, hcall, rfl⟩
    · rw [hstopped]
      exact ⟨call, hcall, rfl⟩

theorem Replaces.step (h : files.Replaces path) {event : FileEvent} (hevent : event.Replaces path) :
    (files.step event).Replaces path := by
  intro id later hfound hpath
  rcases calls_step hfound with ⟨call, hcall, hlater⟩ | ⟨process, other, data, atomicReplace, -,
    rfl, rfl⟩
  · rw [hlater] at hpath ⊢
    have hatomic := h hcall hpath
    exact hatomic
  · exact hevent hpath

theorem Orderly.target_ne_replaced (h : Orderly paths used files) (hapart : Apart paths)
    (hpath : paths path) (hreplaces : files.Replaces path) (hfound : files.calls id = some call) :
    path ≠ call.target := by
  cases hatomic : call.atomicReplace with
  | true => exact (h.target_ne_path hapart hfound hatomic hpath).symm
  | false =>
    rw [target_of_direct hatomic]
    intro hsame
    rw [hreplaces hfound hsame.symm] at hatomic
    cases hatomic

theorem read_proceed (h : Orderly paths used files) (hapart : Apart paths) (hpath : paths path)
    (hreplaces : files.Replaces path) (hfound : files.calls id = some call) (succeeds : Bool) :
    (files.proceed id call succeeds).disk.read path =
      ((files.installs path (.proceed id succeeds)).map Prod.snd).or (files.disk.read path) := by
  have hspared := h.target_ne_replaced hapart hpath hreplaces hfound
  have hnone : call.phase ≠ .replacing →
      files.installs path (.proceed id succeeds) = none := by
    intro hphase
    cases succeeds <;> simp [installs, hfound, hphase]
  unfold FileSystem.proceed
  split
  case h_1 hphase =>
    rw [hnone (by simp [hphase])]
    split
    · exact (agrees_create h.sound call.target [] path hspared).2
    · rfl
  case h_2 inode hphase =>
    rw [hnone (by simp [hphase])]
    split <;> rfl
  case h_3 inode hphase =>
    rw [hnone (by simp [hphase])]
    split
    · exact (agrees_store (h.holds hfound inode (by rw [hphase]; rfl)).2 call.data path hspared).2
    · rfl
  case h_4 inode hphase =>
    rw [hnone (by simp [hphase])]
    split
    · rfl
    · split <;> rfl
  case h_5 hphase =>
    have hwritten := h.written hfound (h.replaces hfound hphase)
    rw [WriteCall.Written, hphase] at hwritten
    cases succeeds with
    | false => rfl
    | true =>
      simp only [installs, hfound, hphase, true_and, if_true]
      obtain ⟨inode, hdirectory, -⟩ := Option.map_eq_some_iff.mp hwritten
      split
      · rename_i hsame
        subst hsame
        exact (read_rename_self hdirectory).trans hwritten
      · rename_i hother
        refine (agrees_rename call.target call.path files.disk path ?_).2
        rintro (hsource | htarget)
        · exact hspared hsource
        · exact hother htarget.symm
  case h_6 inode detail hphase =>
    rw [hnone (by simp [hphase])]
    rfl
  case h_7 detail hphase =>
    rw [hnone (by simp [hphase])]
    split
    · exact (agrees_unlink call.target files.disk path hspared).2
    · rfl
  case h_8 status detail hphase =>
    rw [hnone (by simp [hphase])]
    rfl
  case h_9 detail hphase =>
    rw [hnone (by simp [hphase])]
    rfl
  case h_10 hphase =>
    rw [hnone (by simp [hphase])]
    rfl

theorem read_arrive (h : Orderly paths used files) (hapart : Apart paths) (hpath : paths path)
    (hreplaces : files.Replaces path) (hfound : files.calls id = some call) (length : Nat) :
    (files.arrive call length).disk.read path = files.disk.read path := by
  have hspared := h.target_ne_replaced hapart hpath hreplaces hfound
  have hstored : ∀ (inode : Nat) (content : Bytes), call.phase.handle = some inode →
      (files.disk.store inode content).read path = files.disk.read path :=
    fun inode content hhandle =>
      (agrees_store (h.holds hfound inode hhandle).2 content path hspared).2
  unfold FileSystem.arrive
  split
  case h_1 inode hphase => exact hstored inode _ (by rw [hphase]; rfl)
  case h_2 inode hphase => exact hstored inode _ (by rw [hphase]; rfl)
  case h_3 inode detail hphase => exact hstored inode _ (by rw [hphase]; rfl)
  case h_4 => rfl

theorem read_step (h : Orderly paths used files) (hapart : Apart paths) (hpath : paths path)
    (hreplaces : files.Replaces path) (event : FileEvent) :
    (files.step event).disk.read path =
      ((files.installs path event).map Prod.snd).or (files.disk.read path) := by
  cases event with
  | start id process other data atomicReplace =>
    simp only [FileSystem.step]
    cases files.calls id <;> rfl
  | proceed id succeeds =>
    cases hfound : files.calls id with
    | none =>
      have hnone : files.installs path (.proceed id succeeds) = none := by
        cases succeeds <;> simp [installs, hfound]
      simp only [FileSystem.step, hfound, hnone]
      rfl
    | some call =>
      simp only [FileSystem.step, hfound]
      exact read_proceed h hapart hpath hreplaces hfound succeeds
  | arrive id length =>
    cases hfound : files.calls id with
    | none =>
      simp only [FileSystem.step, hfound]
      rfl
    | some call =>
      simp only [FileSystem.step, hfound]
      exact read_arrive h hapart hpath hreplaces hfound length
  | stop process => rfl

/-- The log holds the calls that have returned well, each once, with what they wrote. -/
structure Logged (path : Str) (files : FileSystem) (log : List (Nat × Bytes)) : Prop where
  returned : ∀ {id : Nat} {call : WriteCall}, files.calls id = some call → call.path = path →
    (call.phase = .returned .ok [] ↔ (id, call.data) ∈ log)
  known : ∀ {id : Nat} {data : Bytes}, (id, data) ∈ log → ∃ call, files.calls id = some call ∧
    call.path = path ∧ call.data = data ∧ call.phase = .returned .ok []
  once : (log.map Prod.fst).Nodup

/-- The calls for the path that have returned well are the same. -/
def SameReturns (path : Str) (files after : FileSystem) (id : Nat) : Prop :=
  (∀ later, after.calls id = some later → later.path = path →
    (∃ call, files.calls id = some call ∧ call.path = path ∧ call.data = later.data ∧
      (later.phase = .returned .ok [] ↔ call.phase = .returned .ok [])) ∨
    files.calls id = none ∧ later.phase ≠ .returned .ok []) ∧
  ∀ call, files.calls id = some call → call.path = path → call.phase = .returned .ok [] →
    after.calls id = some call

theorem SameReturns.of_eq {after : FileSystem} (h : after.calls id = files.calls id) :
    SameReturns path files after id :=
  ⟨fun later hlater hpath => Or.inl ⟨later, h ▸ hlater, hpath, rfl, Iff.rfl⟩,
    fun _ hcall _ _ => h.trans hcall⟩

theorem Logged.kept {after : FileSystem} {log : List (Nat × Bytes)} (h : Logged path files log)
    (hsame : ∀ id, SameReturns path files after id) : Logged path after log where
  returned {id later} hfound hpath := by
    rcases (hsame id).1 later hfound hpath with ⟨call, hcall, hcallPath, hdata, hphase⟩ |
      ⟨hnone, hphase⟩
    · rw [hphase, ← hdata]
      exact h.returned hcall hcallPath
    · refine iff_of_false hphase fun hlogged => ?_
      obtain ⟨call, hcall, -⟩ := h.known hlogged
      rw [hnone] at hcall
      cases hcall
  known {id data} hlogged := by
    obtain ⟨call, hcall, hpath, hdata, hphase⟩ := h.known hlogged
    exact ⟨call, (hsame id).2 call hcall hpath hphase, hpath, hdata, hphase⟩
  once := h.once

/-- A call that has not returned well enters a phase that is no good return either. -/
theorem sameReturns_withPhase {disk : Disk Str Bytes} {phase : WritePhase}
    (hfound : files.calls id = some call) (hlive : call.phase.live = true)
    (hphase : call.path = path → phase ≠ .returned .ok []) (other : Nat) :
    SameReturns path files ({ files with disk := disk }.withPhase id call phase) other := by
  by_cases hother : other = id
  · subst hother
    have hbefore : call.phase ≠ .returned .ok [] := by
      intro hreturned
      rw [hreturned] at hlive
      cases hlive
    refine ⟨fun later hlater hpath => ?_, fun second hsecond _ hreturned => ?_⟩
    · obtain rfl : later = { call with phase := phase } := by
        simpa [withPhase, eq_comm] using hlater
      exact Or.inl ⟨call, hfound, hpath, rfl, iff_of_false (hphase hpath) hbefore⟩
    · obtain rfl := Option.some.inj (hfound.symm.trans hsecond)
      exact absurd hreturned hbefore
  · exact .of_eq (Function.update_of_ne hother ..)

theorem Logged.installed {disk : Disk Str Bytes} {log : List (Nat × Bytes)}
    (h : Logged path files log) (hfound : files.calls id = some call) (hpath : call.path = path)
    (hlive : call.phase.live = true) :
    Logged path ({ files with disk := disk }.withPhase id call (.returned .ok []))
      (log ++ [(id, call.data)]) := by
  have hbefore : call.phase ≠ .returned .ok [] := by
    intro hreturned
    rw [hreturned] at hlive
    cases hlive
  have hnew : ∀ data, (id, data) ∉ log := by
    intro data hlogged
    obtain ⟨second, hsecond, -, -, hreturned⟩ := h.known hlogged
    obtain rfl := Option.some.inj (hfound.symm.trans hsecond)
    exact hbefore hreturned
  constructor
  case returned =>
    intro other later hlater hlaterPath
    rw [List.mem_append, List.mem_singleton, Prod.mk.injEq]
    rcases calls_withPhase hlater with ⟨rfl, rfl⟩ | ⟨hne, hold⟩
    · exact iff_of_true rfl (Or.inr ⟨rfl, rfl⟩)
    · rw [h.returned hold hlaterPath]
      exact ⟨Or.inl, fun hlogged => hlogged.resolve_right fun hsame => hne hsame.1⟩
  case known =>
    intro other data hlogged
    rw [List.mem_append, List.mem_singleton, Prod.mk.injEq] at hlogged
    rcases hlogged with hold | ⟨rfl, rfl⟩
    · obtain ⟨second, hsecond, hother⟩ := h.known hold
      refine ⟨second, ?_, hother⟩
      have hne : other ≠ id := by
        rintro rfl
        exact hnew data hold
      exact (Function.update_of_ne hne ..).trans hsecond
    · exact ⟨_, Function.update_self .., hpath, rfl, rfl⟩
  case once =>
    rw [List.map_append, List.nodup_append]
    refine ⟨h.once, List.nodup_singleton _, fun other hother second hsecond => ?_⟩
    obtain ⟨⟨known, data⟩, hlogged, rfl⟩ := List.mem_map.mp hother
    rw [List.mem_singleton.mp hsecond]
    rintro rfl
    exact hnew data hlogged

theorem Logged.proceed {log : List (Nat × Bytes)} (h : Logged path files log)
    (hreplaces : files.Replaces path) (hfound : files.calls id = some call) (succeeds : Bool) :
    Logged path (files.proceed id call succeeds)
      (log ++ (files.installs path (.proceed id succeeds)).toList) := by
  rcases proceed_cases files id call succeeds with
    ⟨hdead, hsame⟩ | ⟨hlive, disk, phase, hnext, hreturned⟩
  · have hnone : files.installs path (.proceed id succeeds) = none := by
      have hphase : call.phase ≠ .replacing := by
        intro hphase
        rw [hphase] at hdead
        cases hdead
      cases succeeds <;> simp [installs, hfound, hphase]
    rw [hsame, hnone, Option.toList_none, List.append_nil]
    exact h
  · rw [hnext]
    by_cases hinstalls : succeeds = true ∧ call.phase = .replacing ∧ call.path = path
    · obtain ⟨rfl, hphase, hpath⟩ := hinstalls
      rw [hreturned.mpr ⟨rfl, Or.inl hphase⟩]
      simp only [installs, hfound, hphase, hpath, and_self, if_true, Option.toList_some]
      exact h.installed hfound hpath hlive
    · have hnone : files.installs path (.proceed id succeeds) = none := by
        cases succeeds with
        | false => rfl
        | true =>
          simp only [installs, hfound]
          exact if_neg fun hboth => hinstalls ⟨rfl, hboth⟩
      rw [hnone, Option.toList_none, List.append_nil]
      refine h.kept (sameReturns_withPhase hfound hlive fun hpath hphase => ?_)
      obtain ⟨hsucceeds, hreplacing | ⟨hdirect, -⟩⟩ := hreturned.mp hphase
      · exact hinstalls ⟨hsucceeds, hreplacing, hpath⟩
      · rw [hreplaces hfound hpath] at hdirect
        cases hdirect

theorem Logged.step {log : List (Nat × Bytes)} (h : Logged path files log)
    (hreplaces : files.Replaces path) (event : FileEvent) :
    Logged path (files.step event) (log ++ (files.installs path event).toList) := by
  cases event with
  | start id process other data atomicReplace =>
    rw [show files.installs path (.start id process other data atomicReplace) = none from rfl,
      Option.toList_none, List.append_nil]
    cases hnew : files.calls id with
    | some existing =>
      simp only [FileSystem.step, hnew]
      exact h
    | none =>
      refine h.kept fun second => ?_
      by_cases hsecond : second = id
      · subst hsecond
        refine ⟨fun later hlater _ => Or.inr ⟨hnew, ?_⟩, fun call hcall => ?_⟩
        · simp only [FileSystem.step, hnew, Function.update_self] at hlater
          rw [← Option.some.inj hlater]
          exact nofun
        · rw [hnew] at hcall
          cases hcall
      · apply SameReturns.of_eq
        simp only [FileSystem.step, hnew]
        exact Function.update_of_ne hsecond ..
  | proceed id succeeds =>
    cases hfound : files.calls id with
    | none =>
      have hnone : files.installs path (.proceed id succeeds) = none := by
        cases succeeds <;> simp [installs, hfound]
      simp only [FileSystem.step, hfound, hnone, Option.toList_none, List.append_nil]
      exact h
    | some call =>
      simp only [FileSystem.step, hfound]
      exact h.proceed hreplaces hfound succeeds
  | arrive id length =>
    rw [show files.installs path (.arrive id length) = none from rfl, Option.toList_none,
      List.append_nil]
    cases hfound : files.calls id with
    | none =>
      simp only [FileSystem.step, hfound]
      exact h
    | some call =>
      simp only [FileSystem.step, hfound]
      exact h.kept fun _ => .of_eq (by rw [calls_arrive])
  | stop process =>
    rw [show files.installs path (.stop process) = none from rfl, Option.toList_none,
      List.append_nil]
    refine h.kept fun id => ⟨fun later hlater hpath => ?_, fun call hcall _ hreturned => ?_⟩
    · obtain ⟨call, hcall, rfl⟩ := Option.map_eq_some_iff.mp hlater
      left
      rcases stopCall_eq process call with ⟨hkept, -⟩ | ⟨hlive, hstopped⟩
      · rw [hkept] at hpath ⊢
        exact ⟨call, hcall, hpath, rfl, Iff.rfl⟩
      · rw [hstopped] at hpath ⊢
        refine ⟨call, hcall, hpath, rfl, iff_of_false nofun fun hreturned => ?_⟩
        rw [hreturned] at hlive
        cases hlive
    · have hkept : stopCall process call = call := by
        rw [stopCall, hreturned]
        exact if_neg fun hstops => Bool.false_ne_true hstops.1
      simp only [FileSystem.step, hcall, Option.map_some, hkept]

/-! Runs. -/

def start (disk : Disk Str Bytes) : FileSystem := { disk := disk }

theorem orderly_start {disk : Disk Str Bytes} (h : disk.Sound) : Orderly paths 0 (start disk) where
  sound := h
  counted _ := Nat.le_refl _
  issued hfound := by cases hfound
  distinct hfound := by cases hfound
  managed hfound := by cases hfound
  replaces hfound := by cases hfound
  holds hfound := by cases hfound
  written hfound := by cases hfound

theorem run_register (hapart : Apart paths) (hpath : paths path) (events : List FileEvent)
    (h : Orderly paths used files) (hreplaces : files.Replaces path)
    {log : List (Nat × Bytes)} (hlogged : Logged path files log)
    (hmanaged : ∀ event ∈ events, event.Managed paths)
    (hatomic : ∀ event ∈ events, event.Replaces path) (hfew : used + events.length < 2 ^ 64) :
    (Execution.run step files events).disk.read path =
        ((installed path files events).getLast?.map Prod.snd).or (files.disk.read path) ∧
      Logged path (Execution.run step files events) (log ++ installed path files events) := by
  induction events generalizing files used log with
  | nil => exact ⟨rfl, by simpa [installed, Execution.outputs] using hlogged⟩
  | cons event events ih =>
    rw [List.length_cons] at hfew
    have hstep := h.step hapart (hmanaged event List.mem_cons_self) (by omega)
    obtain ⟨hread, hlater⟩ := ih hstep (hreplaces.step (hatomic event List.mem_cons_self))
      (hlogged.step hreplaces event)
      (fun other hother => hmanaged other (List.mem_cons_of_mem _ hother))
      (fun other hother => hatomic other (List.mem_cons_of_mem _ hother)) (by omega)
    rw [Execution.run_cons]
    constructor
    · rw [hread, read_step h hapart hpath hreplaces, installed_cons]
      cases files.installs path event with
      | none => simp
      | some entry =>
        rw [Option.toList_some, List.singleton_append, List.getLast?_cons]
        cases (installed path (files.step event) events).getLast? <;> rfl
    · rw [installed_cons, ← List.append_assoc]
      exact hlater

/-- However the calls of any processes interleave, fail and are cut short, the destination holds
what was there at first or all that one call wrote: that of the last call to replace it. A call
returns well exactly when it replaced the destination, which it does once. -/
theorem destination_is_register (hapart : Apart paths) (hpath : paths path)
    {disk : Disk Str Bytes} (hsound : disk.Sound) (events : List FileEvent)
    (hmanaged : ∀ event ∈ events, event.Managed paths)
    (hatomic : ∀ event ∈ events, event.Replaces path) (hfew : events.length < 2 ^ 64) :
    let files := Execution.run step (start disk) events
    let log := installed path (start disk) events
    files.disk.read path = (log.getLast?.map Prod.snd).or (disk.read path) ∧
      (log.map Prod.fst).Nodup ∧
      ∀ id call, files.calls id = some call → call.path = path →
        (call.phase = .returned .ok [] ↔ (id, call.data) ∈ log) := by
  intro files log
  have hlogged : Logged path (start disk) [] := by
    refine ⟨fun hfound => ?_, fun hlogged => ?_, List.nodup_nil⟩
    · cases hfound
    · cases hlogged
  have hreplaces : (start disk).Replaces path := fun hfound => by cases hfound
  obtain ⟨hread, hreturns⟩ := run_register hapart hpath events (orderly_start hsound) hreplaces
    hlogged hmanaged hatomic (by omega)
  rw [List.nil_append] at hreturns
  exact ⟨hread, hreturns.once, fun id call hfound => hreturns.returned hfound⟩

end FileSystem

namespace Scenario
open FileSystem

def stateFile : Str := str "rack.state"

/-- Two calls in flight at once, of which one is cut short. -/
def interleavedWrites : List FileEvent :=
  [.start 0 7 stateFile [1, 2] true, .start 1 7 stateFile [3] true, .proceed 0 true,
    .proceed 1 true, .proceed 0 true, .arrive 0 1, .proceed 1 true, .proceed 1 true,
    .proceed 0 true, .proceed 1 true, .proceed 1 true, .stop 7]

theorem interleavedWrites_register :
    let files := Execution.run step (start {contents := fun _ => []}) interleavedWrites
    let log := installed stateFile (start {contents := fun _ => []}) interleavedWrites
    files.disk.read stateFile = (log.getLast?.map Prod.snd).or none ∧
      (log.map Prod.fst).Nodup ∧
      ∀ id call, files.calls id = some call → call.path = stateFile →
        (call.phase = .returned .ok [] ↔ (id, call.data) ∈ log) :=
  destination_is_register (apart_single stateFile) rfl sound_empty interleavedWrites
    (by simp [interleavedWrites, FileEvent.Managed])
    (by simp [interleavedWrites, FileEvent.Replaces]) (by decide)

example : installed stateFile (start {contents := fun _ => []}) interleavedWrites = [(1, [3])] := by
  decide +kernel

end Scenario

end RackFabric
