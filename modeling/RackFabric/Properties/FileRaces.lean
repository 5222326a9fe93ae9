import RackFabric.Properties.Files
import RackFabric.Properties.Lineage

/-! Reading a file while others write it, and what the writers leave beside it. -/
namespace RackFabric
open Inodes Disk

def FileEvent.Writes (path : Str) (good : Bytes → Prop) : FileEvent → Prop
  | .start _ _ other data _ => other = path → good data
  | _ => True

namespace FileSystem
variable {paths : Str → Prop} {used : Nat} {files : FileSystem} {path : Str} {id : Nat}
  {call : WriteCall} {good : Bytes → Prop}

/-- The path holds nothing, or something that has the property, and so it stays. -/
structure Stocked (paths : Str → Prop) (path : Str) (good : Bytes → Prop) (used : Nat)
    (files : FileSystem) : Prop where
  orderly : Orderly paths used files
  replaces : files.Replaces path
  pending : ∀ {id : Nat} {call : WriteCall}, files.calls id = some call → call.path = path →
    good call.data
  content : ∀ {bytes : Bytes}, files.disk.read path = some bytes → good bytes

theorem good_of_installs (h : Stocked paths path good used files) {event : FileEvent}
    {entry : Nat × Bytes} (hinstalls : files.installs path event = some entry) :
    good entry.2 := by
  unfold installs at hinstalls
  split at hinstalls
  · split at hinstalls
    · rename_i call hfound
      split at hinstalls
      · rename_i hreplacing
        cases hinstalls
        exact h.pending hfound hreplacing.2
      · cases hinstalls
    · cases hinstalls
  · cases hinstalls

theorem Stocked.step (h : Stocked paths path good used files) (hapart : Apart paths)
    (hpath : paths path) {event : FileEvent} (hmanaged : event.Managed paths)
    (hreplaces : event.Replaces path) (hwrites : event.Writes path good)
    (hroom : used + 1 < 2 ^ 64) : Stocked paths path good (used + 1) (files.step event) := by
  constructor
  case orderly => exact h.orderly.step hapart hmanaged hroom
  case replaces => exact Replaces.step h.replaces hreplaces
  case pending =>
    intro id later hfound hlater
    rcases calls_step hfound with ⟨call, hcall, hsame⟩ | ⟨process, other, data, atomicReplace, -,
      rfl, rfl⟩
    · rw [hsame] at hlater ⊢
      have hgood := h.pending hcall hlater
      exact hgood
    · exact hwrites hlater
  case content =>
    intro bytes hread
    rw [read_step h.orderly hapart hpath h.replaces] at hread
    cases hinstalls : files.installs path event with
    | none =>
      rw [hinstalls] at hread
      exact h.content hread
    | some entry =>
      rw [hinstalls] at hread
      obtain rfl : entry.2 = bytes := Option.some.inj hread
      exact good_of_installs h hinstalls

theorem Stocked.run (h : Stocked paths path good used files) (hapart : Apart paths)
    (hpath : paths path) (events : List FileEvent)
    (hmanaged : ∀ event ∈ events, event.Managed paths)
    (hreplaces : ∀ event ∈ events, event.Replaces path)
    (hwrites : ∀ event ∈ events, event.Writes path good) (hfew : used + events.length < 2 ^ 64) :
    Stocked paths path good (used + events.length)
      (Execution.run FileSystem.step files events) := by
  induction events generalizing files used with
  | nil => exact h
  | cons event events ih =>
    rw [List.length_cons] at hfew
    have hstep := h.step hapart hpath (hmanaged event List.mem_cons_self)
      (hreplaces event List.mem_cons_self) (hwrites event List.mem_cons_self) (by omega)
    have hrun := ih hstep (fun other hother => hmanaged other (List.mem_cons_of_mem _ hother))
      (fun other hother => hreplaces other (List.mem_cons_of_mem _ hother))
      (fun other hother => hwrites other (List.mem_cons_of_mem _ hother)) (by omega)
    rw [List.length_cons, Execution.run_cons, Nat.add_comm events.length, ← Nat.add_assoc]
    exact hrun

theorem stocked_start {disk : Disk Str Bytes} (hsound : disk.Sound)
    (hcontent : ∀ {bytes : Bytes}, disk.read path = some bytes → good bytes) :
    Stocked paths path good 0 (start disk) where
  orderly := orderly_start hsound
  replaces hfound := by cases hfound
  pending hfound := by cases hfound
  content := hcontent

end FileSystem

/-! The reader. -/

def SavedBytes (bytes : Bytes) : Prop :=
  ∃ payload : Bytes, payload.length < 2 ^ 64 ∧ bytes = encodeFile payload

theorem savedBytes_encodeFile {payload : Bytes} (h : payload.length < 2 ^ 64) :
    SavedBytes (encodeFile payload) :=
  ⟨payload, h, rfl⟩

/-- A reader that finds saves only returns the payload of the one that it opens. -/
theorem opened_of_parsed {present sized opened : Option Bytes} {opens : Bool}
    {maxPersistedBytes : UInt64} {payload : Bytes}
    (hopened : ∀ bytes, opened = some bytes → SavedBytes bytes)
    (h : parseFileAt present sized opened opens maxPersistedBytes = .ok payload) :
    opened = some (encodeFile payload) := by
  unfold parseFileAt at h
  split at h
  · cases h
  rename_i data hdata
  unfold readFileAt at hdata
  split at hdata
  · cases hdata
  · cases hdata
  rename_i found
  split at hdata
  · cases hdata
  rename_i hfits
  split at hdata
  · rename_i bytes
    split at hdata
    · cases hdata
    rename_i hlong
    obtain rfl := Except.ok.inj hdata
    obtain ⟨written, hwritten, rfl⟩ := hopened bytes rfl
    have hmax := maxPersistedBytes.toNat_lt
    have hsmall : ((encodeFile written).take found.length).length < 2 ^ 64 := by
      rw [List.length_take]
      omega
    have hwhole := whole_of_parsed (List.take_prefix _ _) hwritten hsmall h
    have hlength := congrArg List.length hwhole
    rw [List.length_take, length_encodeFile] at hlength
    simp only [kHeaderBytes, kTrailerBytes] at hlength
    rw [hwhole] at h
    have hparsed := h.symm.trans (parseFile_encodeFile (by omega) (by omega))
    rw [Except.ok.inj hparsed]
  · cases hdata

/-- When nothing is replaced meanwhile, the reader finds what is there. -/
theorem parseFileAt_still (file : Option Bytes) (opens : Bool) (maxPersistedBytes : UInt64) :
    parseFileAt file file file opens maxPersistedBytes =
      parsePath file opens maxPersistedBytes := by
  cases file with
  | none => rfl
  | some bytes =>
    unfold parseFileAt parsePath readFileAt readFile
    by_cases hlong : bytes.length > maxPersistedBytes.toNat
    · simp [hlong, readStatus, bind, Except.bind]
    · cases opens <;> simp [hlong, readStatus, bind, Except.bind]

namespace FileSystem
variable {paths : Str → Prop} {path : Str}

/-- A reader looks for the file, asks for its size and opens it, and saves may replace it in
between. What it returns is the payload of the save that it has opened; and it reads as from a file
at rest when the file stays in place. -/
theorem read_returns_opened (hapart : Apart paths) (hpath : paths path) {disk : Disk Str Bytes}
    (hsound : disk.Sound)
    (hsaved : ∀ {bytes : Bytes}, disk.read path = some bytes → SavedBytes bytes)
    (before between after : List FileEvent)
    (hmanaged : ∀ event ∈ before ++ between ++ after, event.Managed paths)
    (hreplaces : ∀ event ∈ before ++ between ++ after, event.Replaces path)
    (hwrites : ∀ event ∈ before ++ between ++ after, event.Writes path SavedBytes)
    (hfew : (before ++ between ++ after).length < 2 ^ 64)
    (opens : Bool) (maxPersistedBytes : UInt64) :
    let found := fun events => (Execution.run step (start disk) events).disk.read path
    let read := parseFileAt (found before) (found (before ++ between))
      (found (before ++ between ++ after)) opens maxPersistedBytes
    (∀ payload, read = .ok payload →
      found (before ++ between ++ after) = some (encodeFile payload)) ∧
    (found (before ++ between) = found before →
      found (before ++ between ++ after) = found before →
        read = parsePath (found before) opens maxPersistedBytes) := by
  intro found read
  constructor
  · intro payload hread
    have hstart : Stocked paths path SavedBytes 0 (start disk) := stocked_start hsound hsaved
    have hrun := hstart.run hapart hpath (before ++ between ++ after) hmanaged hreplaces hwrites
      (by omega)
    exact opened_of_parsed (fun bytes hbytes => hrun.content hbytes) hread
  · intro hsized hopened
    have hstill := parseFileAt_still (found before) opens maxPersistedBytes
    simp only [read, hsized, hopened]
    exact hstill

end FileSystem

/-! What is left on the disk. -/

def Temporary (paths : Str → Prop) (name : Str) : Prop :=
  ∃ path, paths path ∧ ∃ (process : Nat) (counter : UInt64),
    name = makeTempPath path process counter

/-- The call may have a temporary file: it has opened it and not returned, it was stopped, or it
could not remove it. -/
def WritePhase.leaves : WritePhase → Bool
  | .opening | .returned _ _ => false
  | _ => true

namespace FileSystem
variable {paths : Str → Prop} {used : Nat} {files : FileSystem} {id : Nat} {call : WriteCall}

theorem touch_proceed (h : Orderly paths used files) (hfound : files.calls id = some call)
    (succeeds : Bool) : Touch files.disk call (files.proceed id call succeeds).disk := by
  unfold FileSystem.proceed
  split
  case h_1 =>
    split
    · exact .created
    · exact .kept
  case h_2 => split <;> exact .kept
  case h_3 inode hphase =>
    split
    · exact .stored (by rw [hphase]; rfl) call.data
    · exact .kept
  case h_4 =>
    split
    · exact .kept
    · split <;> exact .kept
  case h_5 hphase =>
    split
    · exact .renamed (h.replaces hfound hphase)
    · exact .kept
  case h_6 => exact .kept
  case h_7 =>
    split
    · exact .unlinked
    · exact .kept
  case h_8 => exact .kept
  case h_9 => exact .kept
  case h_10 => exact .kept

theorem touch_arrive (length : Nat) : Touch files.disk call (files.arrive call length).disk := by
  unfold FileSystem.arrive
  split
  case h_1 inode hphase => exact .stored (by rw [hphase]; rfl) _
  case h_2 inode hphase => exact .stored (by rw [hphase]; rfl) _
  case h_3 inode detail hphase => exact .stored (by rw [hphase]; rfl) _
  case h_4 => exact .kept

/-- A file that is there after a call has gone on was there, or it is that of the call. -/
theorem leaves_proceed (hfound : files.calls id = some call) {name : Str}
    (hpath : call.path ≠ name) (hdirect : call.atomicReplace = false → call.target ≠ name)
    {succeeds : Bool} (hleft : (files.proceed id call succeeds).disk.directory name ≠ none) :
    (call.target = name ∧ ∃ phase, phase.leaves = true ∧
        (files.proceed id call succeeds).calls id = some { call with phase := phase }) ∨
      files.disk.directory name ≠ none ∧
        (call.target = name → call.phase.leaves = true →
          (files.proceed id call succeeds).calls id = some call) := by
  have hnow : ∀ {disk : Disk Str Bytes} {phase : WritePhase}, phase.leaves = true →
      ∃ later, later.leaves = true ∧
        ({ files with disk := disk }.withPhase id call phase).calls id =
          some { call with phase := later } :=
    fun {_ phase} hleaves => ⟨phase, hleaves, Function.update_self ..⟩
  have hkept : ∀ {phase : WritePhase}, phase.leaves = true →
      files.disk.directory name ≠ none →
        (call.target = name ∧ ∃ later, later.leaves = true ∧
            (files.withPhase id call phase).calls id = some { call with phase := later }) ∨
          files.disk.directory name ≠ none ∧
            (call.target = name → call.phase.leaves = true →
              (files.withPhase id call phase).calls id = some call) := by
    intro phase hleaves hthere
    by_cases hname : call.target = name
    · exact Or.inl ⟨hname, phase, hleaves, Function.update_self ..⟩
    · exact Or.inr ⟨hthere, fun hsame => absurd hsame hname⟩
  revert hleft
  unfold FileSystem.proceed
  split
  case h_1 hphase =>
    split
    · intro hleft
      by_cases hname : call.target = name
      · exact Or.inl ⟨hname, hnow rfl⟩
      · have hagrees : (files.disk.create call.target []).directory name =
            files.disk.directory name := by
          unfold Disk.create
          split
          · rfl
          · exact Function.update_of_ne (Ne.symm hname) ..
        exact Or.inr ⟨fun hnone => hleft (hagrees.trans hnone), fun hsame => absurd hsame hname⟩
    · intro hleft
      refine Or.inr ⟨hleft, fun _ hleaves => ?_⟩
      rw [hphase] at hleaves
      cases hleaves
  case h_2 => split <;> exact hkept rfl
  case h_3 => split <;> exact hkept rfl
  case h_4 =>
    split
    · exact hkept rfl
    · split
      · exact hkept rfl
      · rename_i hatomic
        intro hleft
        exact Or.inr ⟨hleft, fun hsame =>
          absurd hsame (hdirect (Bool.eq_false_iff.mpr hatomic))⟩
  case h_5 =>
    split
    · intro hleft
      have hname : call.target ≠ name := by
        rintro rfl
        apply hleft
        change (files.disk.rename call.target call.path).directory call.target = none
        unfold Disk.rename
        split
        · assumption
        · simp [Function.update_of_ne hpath.symm]
      refine Or.inr ⟨fun hnone => hleft ?_, fun hsame => absurd hsame hname⟩
      have hagrees := agrees_rename call.target call.path files.disk name
        (not_or.mpr ⟨hname.symm, hpath.symm⟩)
      exact hagrees.1.trans hnone
    · exact hkept rfl
  case h_6 => exact hkept rfl
  case h_7 =>
    split
    · intro hleft
      have hname : call.target ≠ name := by
        rintro rfl
        exact hleft (Function.update_self ..)
      refine Or.inr ⟨fun hnone => hleft ?_, fun hsame => absurd hsame hname⟩
      exact (agrees_unlink call.target files.disk name hname.symm).1.trans hnone
    · exact hkept rfl
  case h_8 => exact fun hleft => Or.inr ⟨hleft, fun _ _ => hfound⟩
  case h_9 => exact fun hleft => Or.inr ⟨hleft, fun _ _ => hfound⟩
  case h_10 => exact fun hleft => Or.inr ⟨hleft, fun _ _ => hfound⟩

def Accounted (paths : Str → Prop) (files : FileSystem) : Prop :=
  ∀ name, Temporary paths name → files.disk.directory name ≠ none →
    ∃ id call, files.calls id = some call ∧ call.target = name ∧ call.phase.leaves = true

theorem Accounted.proceed (h : Accounted paths files) (horderly : Orderly paths used files)
    (hapart : Apart paths) (hfound : files.calls id = some call) (succeeds : Bool) :
    Accounted paths (files.proceed id call succeeds) := by
  intro name htemporary hleft
  obtain ⟨path, hpath, process, counter, hname⟩ := htemporary
  have hfar : ∀ {other : Str}, paths other → other ≠ name := by
    intro other hother hsame
    exact hapart path other hpath hother process counter (hname.symm.trans hsame.symm)
  have hmanaged := horderly.managed hfound
  have hdirect : call.atomicReplace = false → call.target ≠ name := by
    intro hdirect
    rw [target_of_direct hdirect]
    exact hfar hmanaged
  rcases leaves_proceed hfound (hfar hmanaged) hdirect hleft with
    ⟨htarget, phase, hleaves, hcall⟩ | ⟨hthere, hsame⟩
  · exact ⟨id, _, hcall, htarget, hleaves⟩
  · obtain ⟨other, owner, howner, htarget, hleaves⟩ :=
      h name ⟨path, hpath, process, counter, hname⟩ hthere
    by_cases hself : other = id
    · subst hself
      obtain rfl := Option.some.inj (hfound.symm.trans howner)
      exact ⟨other, call, hsame htarget hleaves, htarget, hleaves⟩
    · refine ⟨other, owner, ?_, htarget, hleaves⟩
      rcases proceed_cases files id call succeeds with ⟨-, hstill⟩ | ⟨-, disk, phase, hphase, -⟩
      · rw [hstill]
        exact howner
      · rw [hphase]
        exact (Function.update_of_ne hself ..).trans howner

theorem directory_arrive (length : Nat) :
    (files.arrive call length).disk.directory = files.disk.directory := by
  unfold FileSystem.arrive
  split <;> rfl

theorem Accounted.step (h : Accounted paths files) (horderly : Orderly paths used files)
    (hapart : Apart paths) (event : FileEvent) : Accounted paths (files.step event) := by
  cases event with
  | start id process path data atomicReplace =>
    cases hnew : files.calls id with
    | some call =>
      simp only [FileSystem.step, hnew]
      exact h
    | none =>
      simp only [FileSystem.step, hnew]
      intro name htemporary hleft
      obtain ⟨other, owner, howner, hrest⟩ := h name htemporary hleft
      have hdifferent : other ≠ id := by
        rintro rfl
        rw [hnew] at howner
        cases howner
      exact ⟨other, owner, (Function.update_of_ne hdifferent ..).trans howner, hrest⟩
  | proceed id succeeds =>
    cases hfound : files.calls id with
    | none =>
      simp only [FileSystem.step, hfound]
      exact h
    | some call =>
      simp only [FileSystem.step, hfound]
      exact h.proceed horderly hapart hfound succeeds
  | arrive id length =>
    cases hfound : files.calls id with
    | none =>
      simp only [FileSystem.step, hfound]
      exact h
    | some call =>
      simp only [FileSystem.step, hfound]
      intro name htemporary hleft
      rw [directory_arrive] at hleft
      rw [calls_arrive]
      exact h name htemporary hleft
  | stop process =>
    intro name htemporary hleft
    obtain ⟨other, owner, howner, htarget, hleaves⟩ := h name htemporary hleft
    have hstopped : (files.step (.stop process)).calls other = some (stopCall process owner) := by
      simp only [FileSystem.step, howner, Option.map_some]
    refine ⟨other, _, hstopped, ?_⟩
    rcases stopCall_eq process owner with ⟨hkept, -⟩ | ⟨-, hcut⟩
    · rw [hkept]
      exact ⟨htarget, hleaves⟩
    · rw [hcut]
      exact ⟨htarget, rfl⟩

/-- No event touches a file that is neither managed nor a temporary one. -/
theorem agrees_step (horderly : Orderly paths used files) (event : FileEvent) :
    Agrees (fun name => paths name ∨ Temporary paths name) files.disk (files.step event).disk := by
  have htouched : ∀ {id : Nat} {call : WriteCall} {after : Disk Str Bytes},
      files.calls id = some call → Touch files.disk call after →
        Agrees (fun name => paths name ∨ Temporary paths name) files.disk after := by
    intro id call after hfound htouch name hname
    rw [not_or] at hname
    have hmanaged := horderly.managed hfound
    apply htouch.agrees horderly hfound name
    rintro (rfl | ⟨-, rfl⟩)
    · cases hatomic : call.atomicReplace with
      | true =>
        exact hname.2 ⟨call.path, hmanaged, call.process, call.counter, target_of_atomic hatomic⟩
      | false =>
        rw [target_of_direct hatomic] at hname
        exact hname.1 hmanaged
    · exact hname.1 hmanaged
  have hstill : Agrees (fun name => paths name ∨ Temporary paths name) files.disk files.disk :=
    fun _ _ => ⟨rfl, rfl⟩
  cases event with
  | start id process path data atomicReplace =>
    cases hnew : files.calls id with
    | none =>
      simp only [FileSystem.step, hnew]
      exact hstill
    | some call =>
      simp only [FileSystem.step, hnew]
      exact hstill
  | proceed id succeeds =>
    cases hfound : files.calls id with
    | none =>
      simp only [FileSystem.step, hfound]
      exact hstill
    | some call =>
      simp only [FileSystem.step, hfound]
      exact htouched hfound (touch_proceed horderly hfound succeeds)
  | arrive id length =>
    cases hfound : files.calls id with
    | none =>
      simp only [FileSystem.step, hfound]
      exact hstill
    | some call =>
      simp only [FileSystem.step, hfound]
      exact htouched hfound (touch_arrive length)
  | stop process => exact hstill

theorem run_leaves (hapart : Apart paths) (events : List FileEvent)
    (horderly : Orderly paths used files) (h : Accounted paths files)
    (hmanaged : ∀ event ∈ events, event.Managed paths) (hfew : used + events.length < 2 ^ 64) :
    Accounted paths (Execution.run step files events) ∧
      Agrees (fun name => paths name ∨ Temporary paths name) files.disk
        (Execution.run step files events).disk := by
  induction events generalizing files used with
  | nil => exact ⟨h, fun _ _ => ⟨rfl, rfl⟩⟩
  | cons event events ih =>
    rw [List.length_cons] at hfew
    have hstep := horderly.step hapart (hmanaged event List.mem_cons_self) (by omega)
    obtain ⟨haccounted, hagrees⟩ := ih hstep (h.step horderly hapart event)
      (fun other hother => hmanaged other (List.mem_cons_of_mem _ hother)) (by omega)
    refine ⟨haccounted, fun name hname => ?_⟩
    have hnow := agrees_step horderly event name hname
    have hlater := hagrees name hname
    exact ⟨hlater.1.trans hnow.1, hlater.2.trans hnow.2⟩

/-- However the calls interleave, fail and are cut short, a temporary file that is left is that of
a call that has not returned, that a crash has stopped, or that could not remove it after an I/O
error; and no file is touched but the destinations and their temporary files. -/
theorem leftovers_accounted (hapart : Apart paths) {disk : Disk Str Bytes} (hsound : disk.Sound)
    (hclean : ∀ name, Temporary paths name → disk.directory name = none)
    (events : List FileEvent) (hmanaged : ∀ event ∈ events, event.Managed paths)
    (hfew : events.length < 2 ^ 64) :
    let files := Execution.run step (start disk) events
    Accounted paths files ∧
      ∀ name, ¬ paths name → ¬ Temporary paths name → files.disk.read name = disk.read name := by
  intro files
  obtain ⟨haccounted, hagrees⟩ := run_leaves hapart events (orderly_start hsound)
    (fun name htemporary hleft => absurd (hclean name htemporary) hleft) hmanaged (by omega)
  exact ⟨haccounted, fun name hpath htemporary => (hagrees name (not_or.mpr ⟨hpath, htemporary⟩)).2⟩

end FileSystem

namespace Scenario
open FileSystem

/-- A save that is there, one that replaces it while it is read, and one that is cut short. -/
def savesBefore : List FileEvent :=
  [.start 0 7 stateFile (encodeFile [1, 2]) true, .proceed 0 true, .proceed 0 true,
    .proceed 0 true, .proceed 0 true, .proceed 0 true]

def savesMeanwhile : List FileEvent :=
  [.start 1 7 stateFile (encodeFile [3]) true, .proceed 1 true, .proceed 1 true, .proceed 1 true,
    .proceed 1 true, .proceed 1 true]

def savesAfter : List FileEvent := [.start 2 9 stateFile (encodeFile [4]) true, .proceed 2 true]

theorem savesBefore_read :
    let found := fun events => (Execution.run step
      (start {contents := fun _ => []}) events).disk.read stateFile
    let read := parseFileAt (found savesBefore) (found (savesBefore ++ savesMeanwhile))
      (found (savesBefore ++ savesMeanwhile ++ savesAfter)) true 1000
    (∀ payload, read = .ok payload →
      found (savesBefore ++ savesMeanwhile ++ savesAfter) = some (encodeFile payload)) ∧
    (found (savesBefore ++ savesMeanwhile) = found savesBefore →
      found (savesBefore ++ savesMeanwhile ++ savesAfter) = found savesBefore →
        read = parsePath (found savesBefore) true 1000) := by
  refine read_returns_opened (apart_single stateFile) rfl sound_empty (fun hread => ?_) savesBefore
    savesMeanwhile savesAfter ?_ ?_ ?_ (by decide) true 1000
  · cases hread
  · simp [savesBefore, savesMeanwhile, savesAfter, FileEvent.Managed]
  · simp [savesBefore, savesMeanwhile, savesAfter, FileEvent.Replaces]
  · simp [savesBefore, savesMeanwhile, savesAfter, FileEvent.Writes, savedBytes_encodeFile]

/-- A read that a shorter save overtakes fails. -/
example : parseFileAt (some (encodeFile [1, 2])) (some (encodeFile [1, 2]))
    (some (encodeFile [3])) true 1000 = .error (.ioError, str "short read") := by
  decide +kernel

/-- After a save that is completed, one whose file cannot be removed and one that a crash stops. -/
def savesLeft : List FileEvent :=
  savesBefore ++
    [.start 1 7 stateFile (encodeFile [3]) true, .proceed 1 true, .proceed 1 false,
      .proceed 1 true, .proceed 1 false, .start 2 9 stateFile (encodeFile [4]) true,
      .proceed 2 true, .stop 9]

theorem savesLeft_leaves :
    let files := Execution.run step (start {contents := fun _ => []}) savesLeft
    Accounted (· = stateFile) files ∧
      ∀ name, ¬ name = stateFile → ¬ Temporary (· = stateFile) name →
        files.disk.read name = none :=
  leftovers_accounted (apart_single stateFile) sound_empty (fun _ _ => rfl) savesLeft
    (by simp [savesLeft, savesBefore, FileEvent.Managed]) (by decide)

end Scenario

end RackFabric
