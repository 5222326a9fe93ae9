import RackFabric.Library.Execution
import RackFabric.Model.Registry

/-! What the registry of connections tells of the sessions that are still running. A
session finds its entry by the handle of its connection, and closes the connection first. -/
namespace RackFabric

def SessionStage.captured : SessionStage → Option Handle
  | .spawned | .ended => none
  | .greeting handle | .serving handle | .closing handle | .leaving handle => some handle

namespace SessionRegistry
variable {registry : SessionRegistry} {session : Nat}

/-! The handles of open connections, and those that the threads have read. -/

structure Sound (registry : SessionRegistry) : Prop where
  entries : ∀ entry ∈ registry.sessionConnections ++ registry.stopped,
    entry < registry.totalConnections
  nodup : (registry.sessionConnections ++ registry.stopped).Nodup
  /-- No two open connections share a handle. -/
  apart : ∀ first second, registry.handle first = registry.handle second →
    registry.handle first ≠ kInvalidHandle → first = second
  unused : ∀ session, registry.totalConnections ≤ session →
    registry.handle session = kInvalidHandle ∧ registry.stage session = .spawned
  /-- Before it is served, only `stop` closes a connection. -/
  spawned : ∀ session < registry.totalConnections, registry.stage session = .spawned →
    registry.handle session = kInvalidHandle → session ∈ registry.stopped
  read : ∀ session handle, (registry.stage session).captured = some handle →
    (registry.handle session = kInvalidHandle ∨ registry.handle session = handle) ∧
      (handle = kInvalidHandle → session ∈ registry.stopped)

theorem sound_initial : ({} : SessionRegistry).Sound where
  entries := by simp
  nodup := List.nodup_nil
  apart := fun _ _ _ hopen => absurd rfl hopen
  unused := fun _ _ => ⟨rfl, rfl⟩
  spawned := fun _ hlt => absurd hlt (Nat.not_lt_zero _)
  read := fun _ _ h => by cases h

namespace Sound

theorem lt_of_stage (h : registry.Sound) (hstage : registry.stage session ≠ .spawned) :
    session < registry.totalConnections := by
  by_contra hle
  exact hstage (h.unused session (Nat.le_of_not_lt hle)).2

theorem disjoint (h : registry.Sound) (hentry : session ∈ registry.sessionConnections) :
    session ∉ registry.stopped :=
  fun hstopped => (List.nodup_append.mp h.nodup).2.2 session hentry session hstopped rfl

theorem withStage (h : registry.Sound) {stage : SessionStage}
    (hlt : session < registry.totalConnections) (hstage : stage ≠ .spawned)
    (hread : ∀ handle, stage.captured = some handle →
      (registry.handle session = kInvalidHandle ∨ registry.handle session = handle) ∧
        (handle = kInvalidHandle → session ∈ registry.stopped)) :
    (registry.withStage session stage).Sound where
  entries := h.entries
  nodup := h.nodup
  apart := h.apart
  unused := by
    intro other hother
    have hne : other ≠ session := by
      rintro rfl
      exact absurd hlt (Nat.not_lt.mpr hother)
    refine ⟨(h.unused other hother).1, ?_⟩
    change Function.update registry.stage session stage other = .spawned
    rw [Function.update_of_ne hne]
    exact (h.unused other hother).2
  spawned := by
    intro other hother hspawned
    change Function.update registry.stage session stage other = .spawned at hspawned
    by_cases hne : other = session
    · subst hne
      rw [Function.update_self] at hspawned
      exact absurd hspawned hstage
    · rw [Function.update_of_ne hne] at hspawned
      exact h.spawned other hother hspawned
  read := by
    intro other handle hcaptured
    change (Function.update registry.stage session stage other).captured = some handle at hcaptured
    by_cases hne : other = session
    · subst hne
      rw [Function.update_self] at hcaptured
      exact hread handle hcaptured
    · rw [Function.update_of_ne hne] at hcaptured
      exact h.read other handle hcaptured

/-- A stage that keeps the handle the thread has read. -/
theorem withStage_of_captured (h : registry.Sound) {stage : SessionStage}
    (hcaptured : stage.captured = (registry.stage session).captured)
    (hstage : registry.stage session ≠ .spawned) (hnext : stage ≠ .spawned) :
    (registry.withStage session stage).Sound :=
  h.withStage (h.lt_of_stage hstage) hnext fun handle hread =>
    h.read session handle (hcaptured ▸ hread)

theorem closeConnection (h : registry.Sound)
    (hspawned : registry.stage session = .spawned → session ∈ registry.stopped) :
    (registry.closeConnection session).Sound where
  entries := h.entries
  nodup := h.nodup
  apart := by
    intro first second hsame hopen
    change Function.update registry.handle session kInvalidHandle first =
      Function.update registry.handle session kInvalidHandle second at hsame
    change Function.update registry.handle session kInvalidHandle first ≠ kInvalidHandle at hopen
    have hfirst : first ≠ session := by
      rintro rfl
      exact hopen (Function.update_self ..)
    rw [Function.update_of_ne hfirst] at hsame hopen
    by_cases hsecond : second = session
    · subst hsecond
      rw [Function.update_self] at hsame
      exact absurd hsame hopen
    · rw [Function.update_of_ne hsecond] at hsame
      exact h.apart first second hsame hopen
  unused := by
    intro other hother
    refine ⟨?_, (h.unused other hother).2⟩
    change Function.update registry.handle session kInvalidHandle other = kInvalidHandle
    by_cases hne : other = session
    · rw [hne, Function.update_self]
    · rw [Function.update_of_ne hne]
      exact (h.unused other hother).1
  spawned := by
    intro other hother hstage hclosed
    change Function.update registry.handle session kInvalidHandle other = kInvalidHandle at hclosed
    by_cases hne : other = session
    · subst hne
      exact hspawned hstage
    · rw [Function.update_of_ne hne] at hclosed
      exact h.spawned other hother hstage hclosed
  read := by
    intro other handle hcaptured
    refine ⟨?_, (h.read other handle hcaptured).2⟩
    change Function.update registry.handle session kInvalidHandle other = kInvalidHandle ∨
      Function.update registry.handle session kInvalidHandle other = handle
    by_cases hne : other = session
    · rw [hne, Function.update_self]
      exact Or.inl rfl
    · rw [Function.update_of_ne hne]
      exact (h.read other handle hcaptured).1

/-- Entries may be taken out of the registry at any time. -/
theorem withEntries (h : registry.Sound) {entries : List Nat}
    (hsublist : entries.Sublist registry.sessionConnections) (openConnections : Nat) :
    { registry with sessionConnections := entries, openConnections }.Sound where
  entries := fun entry hentry => h.entries entry <| by
    rcases List.mem_append.mp hentry with hmem | hmem
    · exact List.mem_append_left _ (hsublist.mem hmem)
    · exact List.mem_append_right _ hmem
  nodup := h.nodup.sublist (hsublist.append_right _)
  apart := h.apart
  unused := h.unused
  spawned := h.spawned
  read := h.read

end Sound

theorem Sound.register (h : registry.Sound) {handle : Handle} (hfree : registry.Free handle) :
    (registry.register handle).Sound := by
  obtain ⟨hvalid, hunused⟩ := hfree
  have hself : (registry.register handle).handle registry.totalConnections = handle :=
    Function.update_self ..
  have hother {other : Nat} (hne : other ≠ registry.totalConnections) :
      (registry.register handle).handle other = registry.handle other :=
    Function.update_of_ne hne ..
  have hclosed {other : Nat} (hne : other ≠ registry.totalConnections)
      (hsame : registry.handle other = handle) : False := by
    by_cases hlt : other < registry.totalConnections
    · exact hunused other hlt hsame
    · exact hvalid (hsame ▸ (h.unused other (Nat.le_of_not_lt hlt)).1)
  refine ⟨?_, ?_, ?_, ?_, ?_, ?_⟩
  · intro entry hentry
    simp only [SessionRegistry.register, List.append_assoc, List.mem_append,
      List.mem_singleton] at hentry
    have hknown := h.entries entry
    simp only [List.mem_append] at hknown
    rcases hentry with hmem | rfl | hmem
    · exact Nat.lt_succ_of_lt (hknown (Or.inl hmem))
    · exact Nat.lt_succ_self _
    · exact Nat.lt_succ_of_lt (hknown (Or.inr hmem))
  · have hperm : (registry.sessionConnections ++ [registry.totalConnections] ++
        registry.stopped).Perm
        (registry.totalConnections :: (registry.sessionConnections ++ registry.stopped)) := by
      rw [List.append_assoc]
      exact List.perm_middle
    refine hperm.nodup_iff.mpr (List.nodup_cons.mpr ⟨fun hmem => ?_, h.nodup⟩)
    exact absurd (h.entries _ hmem) (Nat.lt_irrefl _)
  · intro first second hsame hopen
    by_cases hfirst : first = registry.totalConnections
    · subst hfirst
      by_contra hne
      rw [hself, hother (Ne.symm hne)] at hsame
      exact hclosed (Ne.symm hne) hsame.symm
    · by_cases hsecond : second = registry.totalConnections
      · subst hsecond
        rw [hself, hother hfirst] at hsame
        exact (hclosed hfirst hsame).elim
      · rw [hother hfirst] at hsame hopen
        rw [hother hsecond] at hsame
        exact h.apart first second hsame hopen
  · intro session hsession
    change registry.totalConnections + 1 ≤ session at hsession
    rw [hother (by omega)]
    exact h.unused session (by omega)
  · intro session hsession hstage hinvalid
    by_cases hne : session = registry.totalConnections
    · subst hne
      rw [hself] at hinvalid
      exact absurd hinvalid hvalid
    · rw [hother hne] at hinvalid
      have hlt : session < registry.totalConnections + 1 := hsession
      exact h.spawned session (by omega) hstage hinvalid
  · intro session read hread
    by_cases hne : session = registry.totalConnections
    · subst hne
      have hspawned := (h.unused _ (Nat.le_refl _)).2
      change (registry.stage registry.totalConnections).captured = some read at hread
      rw [hspawned] at hread
      cases hread
    · rw [hother hne]
      exact h.read session read hread

/-- Every step keeps the registry sound, whatever becomes of the sessions. -/
theorem Sound.step (h : registry.Sound) (maxConnections : Nat) (event : RegistryEvent) :
    (registry.step maxConnections event).Sound := by
  cases event with
  | check =>
    simp only [SessionRegistry.step, check]
    split
    · exact { h with }
    · exact h
  | acceptNone =>
    simp only [SessionRegistry.step, acceptNone]
    split
    · exact { h with }
    · exact h
  | accept handle =>
    simp only [SessionRegistry.step, accept]
    split
    · split
      · exact h
      · rename_i hfree
        split
        · exact { h with }
        · exact { h.register (not_not.mp hfree) with }
    · exact h
  | start session =>
    simp only [SessionRegistry.step, SessionRegistry.start]
    split
    · rename_i hready
      refine h.withStage hready.1 (by simp) fun handle hread => ?_
      cases hread
      exact ⟨Or.inr rfl, h.spawned session hready.1 hready.2⟩
    · exact h
  | hello session =>
    simp only [SessionRegistry.step, hello]
    split
    · rename_i handle hstage
      exact h.withStage_of_captured (by rw [hstage]; rfl) (by simp [hstage]) (by simp)
    · exact h
  | reject session =>
    simp only [SessionRegistry.step, reject]
    split
    · rename_i handle hstage
      exact h.withStage_of_captured (by rw [hstage]; rfl) (by simp [hstage]) (by simp)
    · exact h
  | leave session =>
    simp only [SessionRegistry.step, leave]
    split
    · rename_i handle hstage
      exact h.withStage_of_captured (by rw [hstage]; rfl) (by simp [hstage]) (by simp)
    · exact h
  | close session =>
    simp only [SessionRegistry.step, close]
    split
    · rename_i handle hstage
      have hclosed : (registry.closeConnection session).Sound :=
        h.closeConnection (by simp [hstage])
      have hkept : (registry.closeConnection session).stage session = .closing handle := hstage
      exact hclosed.withStage_of_captured (by rw [hkept]; rfl) (by simp [hkept]) (by simp)
    · exact h
  | endSession session =>
    simp only [SessionRegistry.step, endSession]
    split
    · rename_i handle hstage
      have hended : (registry.withStage session .ended).Sound :=
        h.withStage (h.lt_of_stage (by simp [hstage])) (by simp) (fun _ hread => by cases hread)
      exact hended.withEntries List.eraseP_sublist _
    · exact h
  | destroy session =>
    simp only [SessionRegistry.step, destroy]
    split
    · rename_i hended
      exact h.closeConnection (by simp [hended.1])
    · exact h
  | stop => exact { h with }
  | takeOver =>
    simp only [SessionRegistry.step, takeOver]
    split
    · have hperm : (registry.stopped ++ registry.sessionConnections).Perm
          (registry.sessionConnections ++ registry.stopped) := List.perm_append_comm
      have hkept {entry : Nat} (hentry : entry ∈ registry.stopped) :
          entry ∈ registry.stopped ++ registry.sessionConnections := List.mem_append_left _ hentry
      exact {
        entries := fun entry hentry => h.entries entry (hperm.mem_iff.mp hentry)
        nodup := hperm.nodup_iff.mpr h.nodup
        apart := h.apart
        unused := h.unused
        spawned := fun session hlt hstage hclosed => hkept (h.spawned session hlt hstage hclosed)
        read := fun session handle hread =>
          ⟨(h.read session handle hread).1, fun hinvalid => hkept ((h.read _ _ hread).2 hinvalid)⟩ }
    · exact h
  | stopClose session =>
    simp only [SessionRegistry.step, stopClose]
    split
    · rename_i hstopped
      exact h.closeConnection fun _ => hstopped
    · exact h

/-! The sessions that are still running. -/

structure Tracked (registry : SessionRegistry) : Prop where
  running : ∀ entry ∈ registry.sessionConnections, registry.stage entry ≠ .ended
  held : ∀ session < registry.totalConnections, registry.stage session ≠ .ended →
    session ∈ registry.sessionConnections ∨ session ∈ registry.stopped

theorem tracked_initial : ({} : SessionRegistry).Tracked where
  running := by simp
  held := fun _ hlt => absurd hlt (Nat.not_lt_zero _)

theorem Tracked.withStage (h : registry.Tracked) {stage : SessionStage}
    (hbefore : registry.stage session ≠ .ended) (hafter : stage ≠ .ended) :
    (registry.withStage session stage).Tracked := by
  have hstage (other : Nat) : (registry.withStage session stage).stage other = .ended ↔
      registry.stage other = .ended := by
    change Function.update registry.stage session stage other = .ended ↔ _
    by_cases hne : other = session
    · subst hne
      rw [Function.update_self]
      exact iff_of_false hafter hbefore
    · rw [Function.update_of_ne hne]
  constructor
  · intro entry hentry
    rw [ne_eq, hstage]
    exact h.running entry hentry
  · intro other hlt hrunning
    rw [ne_eq, hstage] at hrunning
    exact h.held other hlt hrunning

theorem Tracked.register (h : registry.Tracked) (hsound : registry.Sound) (handle : Handle) :
    (registry.register handle).Tracked := by
  have hspawned := (hsound.unused _ (Nat.le_refl registry.totalConnections)).2
  constructor
  · intro entry hentry
    change registry.stage entry ≠ .ended
    rcases List.mem_append.mp hentry with hmem | hnew
    · exact h.running entry hmem
    · rw [List.mem_singleton.mp hnew, hspawned]
      simp
  · intro session hlt hrunning
    have hbound : session < registry.totalConnections + 1 := hlt
    by_cases hnew : session = registry.totalConnections
    · left
      exact List.mem_append_right _ (List.mem_singleton.mpr hnew)
    · rcases h.held session (by omega) hrunning with hmem | hstopped
      · exact Or.inl (List.mem_append_left _ hmem)
      · exact Or.inr hstopped

/-- Only the end of a session can lose track of a session. -/
theorem Tracked.step (h : registry.Tracked) (hsound : registry.Sound) (maxConnections : Nat)
    {event : RegistryEvent} (hevent : ∀ session, event ≠ .endSession session) :
    (registry.step maxConnections event).Tracked := by
  cases event with
  | check =>
    simp only [SessionRegistry.step, check]
    split
    · exact { h with }
    · exact h
  | acceptNone =>
    simp only [SessionRegistry.step, acceptNone]
    split
    · exact { h with }
    · exact h
  | accept handle =>
    simp only [SessionRegistry.step, accept]
    split
    · split
      · exact h
      · split
        · exact { h with }
        · exact { h.register hsound handle with }
    · exact h
  | start session =>
    simp only [SessionRegistry.step, SessionRegistry.start]
    split
    · rename_i hready
      exact h.withStage (by simp [hready.2]) (by simp)
    · exact h
  | hello session =>
    simp only [SessionRegistry.step, hello]
    split
    · rename_i handle hstage
      exact h.withStage (by simp [hstage]) (by simp)
    · exact h
  | reject session =>
    simp only [SessionRegistry.step, reject]
    split
    · rename_i handle hstage
      exact h.withStage (by simp [hstage]) (by simp)
    · exact h
  | leave session =>
    simp only [SessionRegistry.step, leave]
    split
    · rename_i handle hstage
      exact h.withStage (by simp [hstage]) (by simp)
    · exact h
  | close session =>
    simp only [SessionRegistry.step, close]
    split
    · rename_i handle hstage
      have hclosed : (registry.closeConnection session).Tracked := { h with }
      have hkept : (registry.closeConnection session).stage session = .closing handle := hstage
      exact hclosed.withStage (by simp [hkept]) (by simp)
    · exact h
  | endSession session => exact absurd rfl (hevent session)
  | destroy session =>
    simp only [SessionRegistry.step, destroy]
    split
    · exact { h with }
    · exact h
  | stop => exact { h with }
  | takeOver =>
    simp only [SessionRegistry.step, takeOver]
    split
    · refine ⟨by simp, fun session hlt hrunning => Or.inr ?_⟩
      rcases h.held session hlt hrunning with hmem | hstopped
      · exact List.mem_append_right _ hmem
      · exact List.mem_append_left _ hstopped
    · exact h
  | stopClose session =>
    simp only [SessionRegistry.step, stopClose]
    split
    · exact { h with }
    · exact h

/-! The end of a session. -/

/-- After the end of a session the registry does not hold its connection, and holds that of
every other session that has not ended. -/
def EndsTracked (maxConnections : Nat) (registry : SessionRegistry) (event : RegistryEvent) :
    Prop :=
  ∀ session handle, event = .endSession session → registry.stage session = .leaving handle →
    session ∉ (registry.step maxConnections event).sessionConnections ∧
      ∀ other < registry.totalConnections, other ≠ session → registry.stage other ≠ .ended →
        other ∈ (registry.step maxConnections event).sessionConnections

/-- The connection is still open, or `stop` has taken it over and no entry has the handle
that the session looks for; and `stop` has taken over no other session that is running. -/
def Recognized (registry : SessionRegistry) (event : RegistryEvent) : Prop :=
  ∀ session handle, event = .endSession session → registry.stage session = .leaving handle →
    (registry.handle session ≠ kInvalidHandle ∨ session ∈ registry.stopped ∧
      ∀ entry ∈ registry.sessionConnections, registry.handle entry ≠ handle) ∧
      ∀ other ∈ registry.stopped, other ≠ session → registry.stage other = .ended

theorem entries_endSession {maxConnections : Nat} {handle : Handle}
    (hstage : registry.stage session = .leaving handle) :
    (registry.step maxConnections (.endSession session)).sessionConnections =
      registry.erase handle := by
  simp only [SessionRegistry.step, endSession, hstage]

/-- An entry with another handle stays. -/
theorem mem_erase_of_ne {entry : Nat} {handle : Handle}
    (hentry : entry ∈ registry.sessionConnections) (hne : registry.handle entry ≠ handle) :
    entry ∈ registry.erase handle :=
  (List.mem_eraseP_of_neg (by simpa using hne)).mpr hentry

/-- Some entry with the handle goes when there is one. -/
theorem erased_of_mem (hsound : registry.Sound) {entry : Nat} {handle : Handle}
    (hentry : entry ∈ registry.sessionConnections) (hhandle : registry.handle entry = handle) :
    ∃ erased ∈ registry.sessionConnections, registry.handle erased = handle ∧
      erased ∉ registry.erase handle := by
  obtain ⟨erased, before, after, -, hfound, hsplit, hrest⟩ :=
    List.exists_of_eraseP hentry (p := fun entry => registry.handle entry = handle)
      (by simpa using hhandle)
  have hnodup := (List.nodup_append.mp hsound.nodup).1
  rw [hsplit] at hnodup
  refine ⟨erased, ?_, by simpa using hfound, ?_⟩
  · rw [hsplit]
    simp
  · rw [erase, hrest]
    exact (List.nodup_cons.mp (List.perm_middle.nodup_iff.mp hnodup)).1

/-- A session whose connection is open is the only one with its handle. -/
theorem Sound.handle_ne (h : registry.Sound) {handle : Handle} {other : Nat}
    (hstage : registry.stage session = .leaving handle)
    (hopen : registry.handle session ≠ kInvalidHandle) (hne : other ≠ session) :
    registry.handle other ≠ handle := by
  intro hsame
  have hread := (h.read session handle (by rw [hstage]; rfl)).1
  have hown : registry.handle session = handle := hread.resolve_left hopen
  exact hne (h.apart session other (hown.trans hsame.symm) hopen).symm

theorem endsTracked_of_recognized {maxConnections : Nat} {event : RegistryEvent}
    (hsound : registry.Sound) (htracked : registry.Tracked) (h : registry.Recognized event) :
    registry.EndsTracked maxConnections event := by
  rintro session handle rfl hstage
  obtain ⟨hconnection, hothers⟩ := h session handle rfl hstage
  rw [entries_endSession hstage]
  have hheld (other : Nat) (hlt : other < registry.totalConnections) (hne : other ≠ session)
      (hrunning : registry.stage other ≠ .ended) : other ∈ registry.sessionConnections :=
    (htracked.held other hlt hrunning).resolve_right fun hstopped =>
      hrunning (hothers other hstopped hne)
  cases hconnection with
  | inl hopen =>
    have hapart {other : Nat} (hne : other ≠ session) : registry.handle other ≠ handle :=
      hsound.handle_ne hstage hopen hne
    refine ⟨fun hmem => ?_, fun other hlt hne hrunning =>
      mem_erase_of_ne (hheld other hlt hne hrunning) (hapart hne)⟩
    have hentry : session ∈ registry.sessionConnections := List.mem_of_mem_eraseP hmem
    have hread := (hsound.read session handle (by rw [hstage]; rfl)).1
    obtain ⟨erased, -, hhandle, hgone⟩ :=
      erased_of_mem hsound hentry (hread.resolve_left hopen)
    have hself : erased = session := by
      by_contra hne
      exact hapart hne hhandle
    exact hgone (hself ▸ hmem)
  | inr hclosed =>
    refine ⟨fun hmem => ?_, fun other hlt hne hrunning => ?_⟩
    · exact hsound.disjoint (List.mem_of_mem_eraseP hmem) hclosed.1
    · have hentry := hheld other hlt hne hrunning
      exact mem_erase_of_ne hentry (hclosed.2 other hentry)

theorem recognized_of_endsTracked {maxConnections : Nat} {event : RegistryEvent}
    (hsound : registry.Sound) (htracked : registry.Tracked)
    (h : registry.EndsTracked maxConnections event) : registry.Recognized event := by
  rintro session handle rfl hstage
  obtain ⟨hgone, hothers⟩ := h session handle rfl hstage
  rw [entries_endSession hstage] at hgone hothers
  constructor
  · by_cases hopen : registry.handle session = kInvalidHandle
    · right
      -- An entry of its own, closed by now, would not have been found.
      have hentry : session ∉ registry.sessionConnections := by
        intro hmem
        have hlive : registry.handle session ≠ handle := by
          intro hsame
          have hstopped := (hsound.read session handle (by rw [hstage]; rfl)).2
            (hsame.symm.trans hopen)
          exact hsound.disjoint hmem hstopped
        exact hgone (mem_erase_of_ne hmem hlive)
      have hlt : session < registry.totalConnections := hsound.lt_of_stage (by simp [hstage])
      have hstopped := (htracked.held session hlt (by simp [hstage])).resolve_left hentry
      refine ⟨hstopped, fun entry hmem hsame => ?_⟩
      obtain ⟨erased, herased, -, hmissing⟩ := erased_of_mem hsound hmem hsame
      have hne : erased ≠ session := by
        rintro rfl
        exact hentry herased
      exact hmissing (hothers erased (hsound.entries _ (List.mem_append_left _ herased)) hne
        (htracked.running erased herased))
    · exact Or.inl hopen
  · intro other hstopped hne
    by_contra hrunning
    have hmem := hothers other (hsound.entries _ (List.mem_append_right _ hstopped)) hne hrunning
    exact hsound.disjoint (List.mem_of_mem_eraseP hmem) hstopped

theorem Tracked.endSession (h : registry.Tracked) {maxConnections : Nat} {session : Nat}
    (htracked : registry.EndsTracked maxConnections (.endSession session)) :
    (registry.step maxConnections (.endSession session)).Tracked := by
  by_cases hleaving : ∃ handle, registry.stage session = .leaving handle
  · obtain ⟨handle, hstage⟩ := hleaving
    obtain ⟨hgone, hothers⟩ := htracked session handle rfl hstage
    rw [entries_endSession hstage] at hgone hothers
    have hstep : registry.step maxConnections (.endSession session) =
        { registry.withStage session .ended with
          sessionConnections := registry.erase handle
          openConnections := registry.openConnections - 1 } := by
      simp only [SessionRegistry.step, SessionRegistry.endSession, hstage]
    have hother {other : Nat} (hne : other ≠ session) :
        Function.update registry.stage session .ended other = registry.stage other :=
      Function.update_of_ne hne ..
    rw [hstep]
    constructor
    · intro entry hentry
      have hne : entry ≠ session := by
        rintro rfl
        exact hgone hentry
      change Function.update registry.stage session .ended entry ≠ .ended
      rw [hother hne]
      exact h.running entry (List.mem_of_mem_eraseP hentry)
    · intro other hlt hrunning
      change Function.update registry.stage session .ended other ≠ .ended at hrunning
      have hne : other ≠ session := by
        rintro rfl
        exact hrunning (Function.update_self ..)
      rw [hother hne] at hrunning
      exact Or.inl (hothers other hlt hne hrunning)
  · have hsame : registry.step maxConnections (.endSession session) = registry := by
      simp only [SessionRegistry.step, SessionRegistry.endSession]
      split
      · rename_i handle hstage
        exact absurd ⟨handle, hstage⟩ hleaving
      · rfl
    rw [hsame]
    exact h

/-- The registry tracks the sessions at every end of one exactly when each session that
ends is recognized. -/
theorem registry_tracks_iff (maxConnections : Nat) (events : List RegistryEvent) :
    Execution.EachStep (step maxConnections) (EndsTracked maxConnections) {} events ↔
      Execution.EachStep (step maxConnections) Recognized {} events := by
  refine Execution.eachStep_iff_of_invariant (step maxConnections)
    (fun registry => registry.Sound ∧ registry.Tracked) ?_ ?_
    ⟨sound_initial, tracked_initial⟩ events
  · intro registry event hknown
    exact ⟨recognized_of_endsTracked hknown.1 hknown.2,
      endsTracked_of_recognized hknown.1 hknown.2⟩
  · intro registry event hknown hends
    refine ⟨hknown.1.step maxConnections event, ?_⟩
    by_cases hend : ∃ session, event = .endSession session
    · obtain ⟨session, rfl⟩ := hend
      exact hknown.2.endSession hends
    · exact hknown.2.step hknown.1 maxConnections fun session heq => hend ⟨session, heq⟩

end SessionRegistry

namespace Scenario
open SessionRegistry

/-- A peer closes; before its session ends, the system gives the handle to a new connection. -/
def reusedHandle : List RegistryEvent :=
  [.check, .accept 5, .start 0, .hello 0, .leave 0, .close 0, .check, .accept 5, .endSession 0]

/-- The entry of the new session goes, and that of the ended one stays. -/
theorem reused_handle_confused :
    (Execution.run (step 64) {} reusedHandle).sessionConnections = [0] ∧
      ¬ Execution.EachStep (step 64) (EndsTracked 64) {} reusedHandle := by
  refine ⟨by decide, fun h => ?_⟩
  have hend := h (reusedHandle.dropLast) (.endSession 0) (by decide) 0 5 rfl (by decide)
  exact absurd hend.1 (by decide)

end Scenario

end RackFabric
