import RackFabric.Model.Startup
import RackFabric.Properties.Durability
import RackFabric.Properties.Recovery
import RackFabric.Properties.Sessions

/-! The startup of the command loads the state file after the rack is declared and
after the first sessions are accepted. Both orders show in what it serves. -/
namespace RackFabric
open Std RackState

def RackState.Serves (state : RackState) (rack epoch : Str) : Prop :=
  state.rack.map (fun record => (record.id.value, record.epoch.value)) = some (rack, epoch)

/-- A load of the file takes effect, with this candidate. -/
structure Restorable (options : RackFabricOptions) (now : Timestamp) (file : Option Bytes)
    (readable : Bool) (candidate : RackState) : Prop where
  read : readCandidate options file readable = .ok candidate
  gate : (candidate.checkInvariants now).ok = true
  epoch : candidate.generations.coordinatorEpoch.advance.isSome

section
variable {options : RackFabricOptions} {now : Timestamp} {file : Option Bytes} {readable : Bool}

theorem Restorable.loads {candidate : RackState}
    (h : Restorable options now file readable candidate) :
    ∃ epoch, loadState options now file readable = .ok (applyRecoveryPolicy candidate epoch) := by
  obtain ⟨epoch, hepoch⟩ := Option.isSome_iff_exists.mp h.epoch
  exact ⟨epoch, by simp [loadState, h.read, h.gate, hepoch, bind, Except.bind]⟩

theorem restorable_of_loaded {loaded : RackState}
    (h : loadState options now file readable = .ok loaded) :
    ∃ candidate epoch, Restorable options now file readable candidate ∧
      loaded = applyRecoveryPolicy candidate epoch := by
  obtain ⟨candidate, epoch, hread, hgate, hepoch, hloaded⟩ := loadState_ok h
  exact ⟨candidate, epoch, ⟨hread, hgate, by simp [hepoch]⟩, hloaded⟩

theorem readCandidate_unreadable (candidate : RackState) :
    readCandidate options file false ≠ .ok candidate := by
  cases file with
  | none => simp [readCandidate, readFile, bind, Except.bind]
  | some bytes =>
    by_cases hsize : bytes.length > options.limits.maxPersistedBytes.toNat
    · simp [readCandidate, readFile, hsize, bind, Except.bind]
    · simp [readCandidate, readFile, hsize, bind, Except.bind]

theorem Restorable.isSome {candidate : RackState}
    (h : Restorable options now file readable candidate) : file.isNone = false := by
  cases file with
  | none =>
    have hread := h.read
    simp [readCandidate, readFile, bind, Except.bind] at hread
  | some bytes => rfl

end

theorem serves_applyRecoveryPolicy {candidate : RackState} {epoch : CoordinatorEpoch}
    {rack rackEpoch : Str} :
    (applyRecoveryPolicy candidate epoch).Serves rack rackEpoch ↔
      candidate.Serves rack rackEpoch := Iff.rfl

/-! The rack of the arguments is declared first. -/

/-- The rack is declared exactly when its label is valid. -/
theorem declareAtStart_ok {options : RackFabricOptions} {now : Timestamp} {rack : RackId}
    {epoch : RackEpochId} {label : Str} {fabric : RackState} (hset : epoch.isSet = true) :
    declareAtStart (.fresh options) now rack epoch (some label) = .ok fabric ↔
      (validateLabel label).ok = true ∧
        fabric = (fresh options).commitDeclaration rack epoch (some label) now := by
  have hvalid := epoch.isSet_iff_valid.mp hset
  have hnone : (fresh options).rack = none := rfl
  have hauthority : (fresh options).checkAuthority
      { coordinatorEpoch := (fresh options).generations.coordinatorEpoch, rack := some rack }
      false = .ok none := rfl
  cases hlabel : (validateLabel label).ok with
  | false =>
    have hrefused : ((fresh options).declareRack now
        { authority := { coordinatorEpoch := (fresh options).generations.coordinatorEpoch
                         rack := some rack }
          epoch := some epoch, label := some label, redeclare := false }).2.outcome =
        .rejectInvalidInput := by
      simp [declareRack, admitDeclaration, require, refuseIf, hvalid, hlabel, bind, Except.bind,
        outcome_refuse, Refusal.because]
    simp [declareAtStart, hrefused, MutationOutcome.isAccepted]
  | true =>
    have hdeclared : (fresh options).declareRack now
        { authority := { coordinatorEpoch := (fresh options).generations.coordinatorEpoch
                         rack := some rack }
          epoch := some epoch, label := some label, redeclare := false } =
        ((fresh options).commitDeclaration rack epoch (some label) now).accept "RACK_DECLARED"
          rack.value := by
      simp [declareRack, admitDeclaration, require, refuseIf, hvalid, hlabel, hauthority, hnone,
        bind, Except.bind, pure, Except.pure]
    simp [declareAtStart, hdeclared, accept, makeResult, MutationOutcome.isAccepted, eq_comm]

structure MainOptions.Valid (options : MainOptions) : Prop where
  rack : (validateIdentity options.rack).ok = true
  rackEpoch : (validateIdentity options.rackEpoch).ok = true
  rackLabel : (validateLabel options.rackLabel).ok = true

/-- The server starts exactly when the arguments are valid and the listener is
bound, and the rack of the arguments is then declared. -/
theorem startCoordinator_ok {options : MainOptions} {bindError : Option Str} {now : Timestamp}
    {fabric : RackState} {rack : RackId} {epoch : RackEpochId}
    (hrack : StrongId.parse options.rack = some rack)
    (hepoch : StrongId.parse options.rackEpoch = some epoch) :
    startCoordinator options.coordinator bindError now = .ok fabric ↔
      bindError = none ∧ (validateLabel options.rackLabel).ok = true ∧
        fabric = (fresh {}).commitDeclaration rack epoch (some options.rackLabel) now := by
  cases bindError with
  | some error => simp [startCoordinator, MainOptions.coordinator]
  | none =>
    have hdeclare := @declareAtStart_ok {} now rack epoch options.rackLabel fabric
      (StrongId.eq_of_parse hepoch).2
    simpa [startCoordinator, MainOptions.coordinator, hrack, hepoch, agreeOrDeclare, fresh] using
      hdeclare

/-- A startup completes with the declared rack when there is nothing to load, and
with the state of the file otherwise. -/
theorem coordinatorMain_ok {options : MainOptions} {bindError : Option Str}
    {started loaded : Timestamp} {file : Option Bytes} {readable : Bool} {served : RackState} :
    coordinatorMain options bindError started loaded file readable = .ok served ↔
      ∃ rack epoch, StrongId.parse options.rack = some rack ∧
        StrongId.parse options.rackEpoch = some epoch ∧ bindError = none ∧
        (validateLabel options.rackLabel).ok = true ∧
        if options.statePath.isEmpty ∨ file.isNone then
          (fresh {}).commitDeclaration rack epoch (some options.rackLabel) started = served
        else loadState {} loaded file readable = .ok served := by
  unfold coordinatorMain
  cases hrack : (StrongId.parse options.rack : Option RackId) with
  | none => simp [MainOptions.coordinator, hrack]
  | some rack =>
    cases hepoch : (StrongId.parse options.rackEpoch : Option RackEpochId) with
    | none => simp [MainOptions.coordinator, hrack, hepoch]
    | some epoch =>
      have hnamed :
          ¬ (options.coordinator.rack.isNone ∨ options.coordinator.rackEpoch.isNone) := by
        simp [MainOptions.coordinator, hrack, hepoch]
      have hstart := fun fabric => @startCoordinator_ok options bindError started fabric rack epoch
        hrack hepoch
      simp only [hnamed, if_false]
      cases hstarted : startCoordinator options.coordinator bindError started with
      | error error =>
        simp only [hstarted, reduceCtorEq, false_iff] at hstart
        simp only [reduceCtorEq, Option.some.injEq, false_iff]
        rintro ⟨_, _, rfl, rfl, hbound, hlabel, -⟩
        exact hstart _ ⟨hbound, hlabel, rfl⟩
      | ok fabric =>
        obtain ⟨hbound, hlabel, rfl⟩ := (hstart fabric).mp hstarted
        have hfabric : options.coordinator.fabric = {} := rfl
        simp only [hbound, hlabel, hfabric, Option.some.injEq, true_and]
        split
        · simp
        · cases loadState {} loaded file readable <;> simp

/-- The state file describes the rack of the arguments, if it is loaded at all. -/
def FileAgrees (options : MainOptions) (bindError : Option Str) (now : Timestamp)
    (file : Option Bytes) (readable : Bool) : Prop :=
  options.Valid → bindError = none → options.statePath ≠ [] →
    ∀ candidate, Restorable {} now file readable candidate →
      candidate.Serves options.rack options.rackEpoch

theorem parse_of_valid {tag : IdentityTag} {value : Str} (h : (validateIdentity value).ok = true) :
    ∃ id : StrongId tag, StrongId.parse value = some id := by
  simp [StrongId.parse, h]

/-- A completed startup serves the rack of the arguments exactly when the state
file agrees with them: what the file describes is not compared with the arguments. -/
theorem startup_serves_rack_iff (options : MainOptions) (bindError : Option Str)
    (started loaded : Timestamp) (file : Option Bytes) (readable : Bool) :
    (∀ served, coordinatorMain options bindError started loaded file readable = .ok served →
      served.Serves options.rack options.rackEpoch) ↔
      FileAgrees options bindError loaded file readable := by
  constructor
  · intro h hvalid hbound hpath candidate hrestorable
    obtain ⟨rack, hrack⟩ := @parse_of_valid .rack _ hvalid.rack
    obtain ⟨epoch, hepoch⟩ := @parse_of_valid .rackEpoch _ hvalid.rackEpoch
    obtain ⟨next, hloaded⟩ := hrestorable.loads
    have hserved : coordinatorMain options bindError started loaded file readable =
        .ok (applyRecoveryPolicy candidate next) := by
      refine coordinatorMain_ok.mpr ⟨rack, epoch, hrack, hepoch, hbound, hvalid.rackLabel, ?_⟩
      rw [if_neg (by simp [hpath, hrestorable.isSome])]
      exact hloaded
    exact serves_applyRecoveryPolicy.mp (h _ hserved)
  · intro h served hserved
    obtain ⟨rack, epoch, hrack, hepoch, hbound, hlabel, hstate⟩ := coordinatorMain_ok.mp hserved
    obtain ⟨hrackValue, hrackSet⟩ := StrongId.eq_of_parse hrack
    obtain ⟨hepochValue, hepochSet⟩ := StrongId.eq_of_parse hepoch
    split at hstate
    · subst hstate
      simp [Serves, commitDeclaration, hrackValue, hepochValue]
    · rename_i hfile
      obtain ⟨candidate, next, hrestorable, rfl⟩ := restorable_of_loaded hstate
      have hvalid : options.Valid :=
        ⟨hrackValue ▸ rack.isSet_iff_valid.mp hrackSet,
          hepochValue ▸ epoch.isSet_iff_valid.mp hepochSet, hlabel⟩
      exact serves_applyRecoveryPolicy.mpr
        (h hvalid hbound (by simp_all) candidate hrestorable)

namespace Scenario

/-- The file that an earlier process has saved: its rack, and no publisher. -/
def earlierFile : Option Bytes :=
  Server.savedFile persisting none (run [declareRack])

def isEarlier (payload : Bytes) : Bool :=
  Deployment.restorableAt ⟨2000⟩ payload &&
    (decodeStatePayload payload defaults.limits).toOption.any fun decoded =>
      decoded.publishers.isEmpty &&
        decoded.rack.map (fun rack => (rack.id.value, rack.epoch.value)) =
          some (str "rack-a", str "epoch-1")

theorem earlierFile_restorable :
    ∃ candidate, Restorable defaults ⟨2000⟩ earlierFile true candidate ∧
      candidate.publishers = ∅ ∧ candidate.Serves (str "rack-a") (str "epoch-1") := by
  have hearlier : (encodeStatePayload (run [declareRack])).toOption.any isEarlier = true := by
    decide +kernel
  obtain ⟨payload, hpayload, hmatches⟩ := ok_of_any hearlier
  simp only [isEarlier, Bool.and_eq_true] at hmatches
  obtain ⟨hrestorable, hdescribed⟩ := hmatches
  obtain ⟨hlength, decoded, hdecoded, hread, hloaded⟩ := Deployment.load_of_restorable hrestorable
  have hsaved : saveState (run [declareRack]) defaults.limits {} = .ok (encodeFile payload) :=
    saveState_ok hpayload (by rw [hlength]; decide) (by omega)
  have hfile : earlierFile = some (encodeFile payload) := by
    simp only [earlierFile, Server.savedFile]
    rw [show persisting.fabric.limits = defaults.limits from rfl, hsaved]
    rfl
  obtain ⟨candidate, epoch, hcandidate, -⟩ := restorable_of_loaded hloaded
  obtain rfl := Except.ok.inj (hread.symm.trans hcandidate.read)
  rw [hdecoded] at hdescribed
  simp only [Except.toOption, Option.any_some, Bool.and_eq_true, decide_eq_true_eq,
    ExtTreeMap.isEmpty_iff] at hdescribed
  exact ⟨adoptCandidate defaults decoded, hfile ▸ hcandidate, hdescribed.1, hdescribed.2⟩

/-- The process that is asked for another rack serves the rack of the file. -/
theorem another_rack_served :
    ¬ ∀ served, coordinatorMain { statePath := str "state" } none ⟨1000⟩ ⟨2000⟩ earlierFile true =
        .ok served → served.Serves (str "rack-demo") (str "epoch-demo") := by
  intro h
  obtain ⟨candidate, hrestorable, -, hdescribed⟩ := earlierFile_restorable
  obtain ⟨epoch, hloaded⟩ := hrestorable.loads
  have hpath : ¬ ((str "state").isEmpty ∨ earlierFile.isNone) := by
    simp [hrestorable.isSome, str]
  have hserved : coordinatorMain { statePath := str "state" } none ⟨1000⟩ ⟨2000⟩ earlierFile true =
      .ok (applyRecoveryPolicy candidate epoch) := by
    refine coordinatorMain_ok.mpr
      ⟨.ofText (str "rack-demo"), .ofText (str "epoch-demo"), by decide, by decide, rfl,
        by decide, ?_⟩
    rw [if_neg hpath]
    exact hloaded
  have hasked := h _ hserved
  rw [serves_applyRecoveryPolicy, Serves, hdescribed] at hasked
  exact absurd hasked (by decide)

end Scenario

/-! Sessions are served while the file is loaded. -/

def Command.grants (options : CoordinatorOptions) (fabric : RackState) (now : Timestamp) :
    Command → Bool
  | .register _ _ request =>
      (registerPublisher options.fabric fabric now request).2.outcome.isAccepted
  | .heartbeat request => (fabric.heartbeat now request).2.outcome.isAccepted
  | command => command.accepts options fabric now

def Server.grants (options : CoordinatorOptions) (server : Server) (session : Nat)
    (now : Timestamp) (request : Request) : Bool :=
  (server.threads session).pending.isEmpty &&
    (admitRequest server.fabric (server.threads session).session request).toOption.any
      (·.grants options server.fabric now)

/-- What is in the first state is in the later one: the later state comes of it by
mutations, and by restarts from a file that holds it. -/
inductive Reflects (options : RackFabricOptions) (state : RackState) : RackState → Prop where
  | refl : Reflects options state state
  | step {later : RackState} (input : Input) (h : Reflects options state later) :
      Reflects options state (later.step options input)
  | restart {later candidate : RackState} (epoch : CoordinatorEpoch)
      (h : Reflects options state later) (hread : candidate.Restores later) :
      Reflects options state (applyRecoveryPolicy candidate epoch)

/-- A registration is among the things that stay. -/
theorem Reflects.mem_publishers {options : RackFabricOptions} {state later : RackState}
    {boot : AgentBootId} (h : Reflects options state later) (hmem : boot ∈ state.publishers) :
    boot ∈ later.publishers := by
  induction h with
  | refl => exact hmem
  | step input h ih => exact mem_publishers_step ih input
  | @restart later candidate epoch h hread ih =>
    change boot ∈ candidate.publishers.map _
    rw [hread.publishers]
    exact ExtTreeMap.mem_map.mpr ih

namespace Startup
variable {options : CoordinatorOptions} {server : Server}

def after (options : CoordinatorOptions) (server : Server) (events : List StartupEvent) :
    Startup :=
  Execution.run (step options) { server := server } events

theorem after_concat (events : List StartupEvent) (event : StartupEvent) :
    after options server (events ++ [event]) = (after options server events).step options event :=
  Execution.run_concat _ _ _ _

def received (options : CoordinatorOptions) (server : Server) (before : List StartupEvent)
    (session : Nat) (now : Timestamp) (request : Request) : RackState :=
  (after options server (before ++ [.serve (.receive session now request)])).server.fabric

/-- A request is accepted after the first events, and its session has answered it
within the run. -/
def Acknowledged (options : CoordinatorOptions) (server : Server)
    (events before : List StartupEvent) (session : Nat) (now : Timestamp) (request : Request) :
    Prop :=
  (after options server before).server.grants options session now request = true ∧
    ∃ served, before ++ [.serve (.receive session now request)] ++ served <+: events ∧
      ((after options server
        (before ++ [.serve (.receive session now request)] ++ served)).server.threads
          session).pending = []

theorem Acknowledged.of_run {events before served all : List StartupEvent} {session : Nat}
    {now : Timestamp} {request : Request}
    (hgranted : (after options server before).server.grants options session now request = true)
    (hall : before ++ [.serve (.receive session now request)] ++ served = all)
    (hinitial : all <+: events)
    (hdone : ((after options server all).server.threads session).pending = []) :
    Acknowledged options server events before session now request := by
  subst hall
  exact ⟨hgranted, served, hinitial, hdone⟩

/-- Once startup is complete, every acknowledged update is in the state. -/
def KeepsAcknowledged (options : CoordinatorOptions) (server : Server)
    (events : List StartupEvent) : Prop :=
  (after options server events).phase = .completed →
    ∀ before session now request, Acknowledged options server events before session now request →
      Reflects options.fabric (received options server before session now request)
        (after options server events).server.fabric

/-- A load that takes effect has read back all that was accepted before, and that is
acknowledged in the run. -/
def LoadsAcknowledged (options : CoordinatorOptions) (server : Server)
    (events : List StartupEvent) : Prop :=
  ∀ earlier readAt readable between,
    (earlier ++ .read readAt readable :: between) ++ [.install] <+: events →
      (after options server earlier).phase = .started →
        ∀ before session now request,
          Acknowledged options server events before session now request →
            before ++ [.serve (.receive session now request)] <+:
                earlier ++ .read readAt readable :: between →
              ∃ copied, Server.Holds options (after options server earlier).server.file copied ∧
                Reflects options.fabric (received options server before session now request) copied

/-- A candidate that waits for the lock was read from the file that was there. -/
theorem read_of_loading {events : List StartupEvent} {candidate : RackState}
    (h : (after options server events).phase = .loading candidate) :
    ∃ earlier now readable between, events = earlier ++ .read now readable :: between ∧
      (after options server earlier).phase = .started ∧
      loadState options.fabric now (after options server earlier).server.file readable =
        .ok candidate := by
  induction events using List.reverseRecOn with
  | nil => cases h
  | append_singleton events event ih =>
    have hearlier : (after options server events).phase = .loading candidate →
        ∃ earlier now readable between,
          events ++ [event] = earlier ++ .read now readable :: between ∧
            (after options server earlier).phase = .started ∧
            loadState options.fabric now (after options server earlier).server.file readable =
              .ok candidate := by
      intro hloading
      obtain ⟨earlier, now, readable, between, rfl, hread⟩ := ih hloading
      exact ⟨earlier, now, readable, between ++ [event], by simp, hread⟩
    rw [after_concat] at h
    cases event with
    | serve event => exact hearlier h
    | install =>
      simp only [step, install] at h
      split at h
      · cases h
      · exact hearlier h
    | read now readable =>
      simp only [step, read] at h
      split at h
      · rename_i hstarted
        split at h
        · cases h
        · split at h
          · cases h
          · rename_i loaded hloaded
            cases h
            exact ⟨events, now, readable, [], rfl, hstarted, hloaded⟩
      · exact hearlier h

/-- The state is replaced only when a load takes effect. -/
theorem fabric_step_cases (startup : Startup) (event : StartupEvent) :
    (startup.step options event).server.fabric = startup.server.fabric ∨
      (∃ input, (startup.step options event).server.fabric =
        startup.server.fabric.step options.fabric input) ∨
      ∃ candidate, event = .install ∧ startup.phase = .loading candidate ∧
        (startup.step options event).server.fabric = candidate := by
  cases event with
  | serve event => exact (Server.fabric_step event).imp_right Or.inl
  | read now readable =>
    left
    simp only [step, read]
    split
    · split
      · rfl
      · split <;> rfl
    · rfl
  | install =>
    simp only [step, install]
    split
    · rename_i candidate hloading
      exact Or.inr (Or.inr ⟨candidate, trivial, hloading, rfl⟩)
    · exact Or.inl rfl

/-- A load restores the state that the file holds. -/
theorem reflects_loaded {state copied loaded : RackState} {now : Timestamp} {file : Option Bytes}
    {readable : Bool} (hreflects : Reflects options.fabric state copied)
    (hholds : Server.Holds options file copied)
    (hloaded : loadState options.fabric now file readable = .ok loaded) :
    Reflects options.fabric state loaded := by
  obtain ⟨candidate, hread, hrestores⟩ := hholds
  obtain ⟨found, epoch, hrestorable, rfl⟩ := restorable_of_loaded hloaded
  obtain rfl : candidate = found := by
    have hfound := hrestorable.read
    cases readable with
    | true => exact Except.ok.inj (hread.symm.trans hfound)
    | false => exact absurd hfound (readCandidate_unreadable _)
  exact hreflects.restart epoch hrestores

/-- Startup loses no acknowledged update in a run whose load, when it takes effect, has
read back what was accepted before. -/
theorem startup_keeps_acknowledged (options : CoordinatorOptions) (server : Server)
    (events : List StartupEvent) (hloads : LoadsAcknowledged options server events) :
    KeepsAcknowledged options server events := by
  intro _ before session now request hacknowledged
  obtain ⟨-, served, hserved, -⟩ := id hacknowledged
  have hkept : ∀ seen, before ++ [.serve (.receive session now request)] <+: seen →
      seen <+: events → Reflects options.fabric (received options server before session now request)
        (after options server seen).server.fabric := by
    intro seen hseen hinitial
    induction seen using List.reverseRecOn with
    | nil => simp at hseen
    | append_singleton seen event ih =>
      rcases List.prefix_concat_iff.mp hseen with heq | hearlier
      · rw [← heq]
        exact .refl
      · have hbefore := ih hearlier ((List.prefix_append _ _).trans hinitial)
        rw [after_concat]
        rcases fabric_step_cases (after options server seen) event with
          hsame | ⟨input, hstep⟩ | ⟨candidate, rfl, hloading, hinstalled⟩
        · rw [hsame]
          exact hbefore
        · rw [hstep]
          exact hbefore.step input
        · obtain ⟨earlier, readAt, readable, between, rfl, hstarted, hloaded⟩ :=
            read_of_loading hloading
          obtain ⟨copied, hholds, hreflects⟩ := hloads earlier readAt readable between hinitial
            hstarted before session now request hacknowledged hearlier
          rw [hinstalled]
          exact reflects_loaded hreflects hholds hloaded
  exact hkept events ((List.prefix_append _ _).trans hserved) (List.prefix_refl _)

theorem install_read {startup : Startup} {now : Timestamp} {readable : Bool} {loaded : RackState}
    (hstarted : startup.phase = .started) (hpath : options.persistencePath ≠ [])
    (hfile : startup.server.file.isNone = false)
    (hloaded : loadState options.fabric now startup.server.file readable = .ok loaded) :
    (startup.step options (.read now readable)).step options .install =
      { server := { startup.server with fabric := loaded }, phase := .completed } := by
  have hread : startup.step options (.read now readable) =
      { startup with phase := .loading loaded } := by
    simp [step, read, hstarted, hpath, hfile, hloaded]
  rw [hread]
  rfl

/-- No session is served before the load is over. -/
theorem loadsAcknowledged_of_first {loads served : List StartupEvent}
    (hloads : ∀ event, .serve event ∉ loads) (hserved : .install ∉ served) :
    LoadsAcknowledged options server (loads ++ served) := by
  intro earlier readAt readable between hinitial _ before session now request _ hbefore
  generalize earlier ++ .read readAt readable :: between = seen at hinitial hbefore
  have hmem : .serve (.receive session now request) ∈ seen := hbefore.subset (by simp)
  exfalso
  rcases List.prefix_or_prefix_of_prefix hinitial (List.prefix_append loads served) with hin | hover
  · exact hloads _ (hin.subset (List.mem_append_left _ hmem))
  · obtain ⟨rest, hrest⟩ := hover
    rw [← hrest, List.prefix_append_right_inj] at hinitial
    rcases List.eq_nil_or_concat' rest with rfl | ⟨rest, event, rfl⟩
    · rw [List.append_nil] at hrest
      exact hloads _ (hrest ▸ List.mem_append_left _ hmem)
    · rw [← List.append_assoc] at hrest
      have hlast := List.singleton_injective (List.append_inj' hrest rfl).2
      exact hserved (hinitial.subset (by simp [hlast]))

end Startup

namespace Scenario
open Startup

def recovering : StartOptions where
  rack := some rack
  rackEpoch := some (.ofText (str "epoch-1"))
  rackLabel := some (str "rack_fabric_coordinator")
  persistencePath := str "state"

/-- A session registers and publishes before the load. -/
def earlySession : List ServerEvent :=
  joins 0 bootA ++ [publishDomain 0 bootA "row-1", .respond 0]

def lateLoad : List StartupEvent :=
  earlySession.map .serve ++ [.read ⟨2000⟩ true, .install]

/-- The session connects once the load has taken effect. -/
def earlyLoad : List StartupEvent :=
  [.read ⟨2000⟩ true, .install] ++ earlySession.map .serve

theorem earlyLoad_keeps_acknowledged :
    KeepsAcknowledged recovering.toCoordinatorOptions
      { fabric := run [declareRack], file := earlierFile } earlyLoad :=
  startup_keeps_acknowledged _ _ earlyLoad
    (loadsAcknowledged_of_first (by simp) (by simp [earlySession, joins, publishDomain]))

theorem grants_withFile {options : CoordinatorOptions} (server : Server) (file : Option Bytes)
    (session : Nat) (now : Timestamp) (request : Request) :
    { server with file := file }.grants options session now request =
      server.grants options session now request := rfl

/-- A run that saves nothing carries its state file along. -/
theorem run_withFile {options : CoordinatorOptions} (server : Server) (file : Option Bytes)
    {events : List ServerEvent} (h : ∀ event ∈ events, ∀ session, event ≠ .replace session) :
    Execution.run (Server.step options) { server with file := file } events =
      { Execution.run (Server.step options) server events with file := file } := by
  induction events using List.reverseRecOn with
  | nil => rfl
  | append_singleton events event ih =>
    rw [Execution.run_concat, Execution.run_concat, ih fun event hmem => h event (by simp [hmem])]
    generalize Execution.run (Server.step options) server events = reached
    cases event with
    | receive session now request =>
      simp only [Server.step, Server.receive]
      split <;> rfl
    | copy session =>
      simp only [Server.step, Server.copy]
      split <;> rfl
    | replace session => exact absurd rfl (h _ (by simp) session)
    | respond session =>
      simp only [Server.step, Server.respond]
      split <;> rfl
    | call input => rfl

theorem after_serve {options : CoordinatorOptions} (server : Server) (events : List ServerEvent) :
    after options server (events.map .serve) =
      { server := Execution.run (Server.step options) server events } := by
  induction events using List.reverseRecOn with
  | nil => rfl
  | append_singleton events event ih =>
    rw [List.map_append, List.map_singleton, after_concat, ih, Execution.run_concat]
    rfl

def startedFabric : RackState :=
  (fresh {}).commitDeclaration rack (.ofText (str "epoch-1"))
    (some (str "rack_fabric_coordinator")) ⟨1000⟩

theorem launch_recovering :
    launch recovering none ⟨1000⟩ earlierFile =
      .ok { fabric := startedFabric, file := earlierFile } := by
  have hdeclared : declareAtStart (fresh {}) ⟨1000⟩ rack (.ofText (str "epoch-1"))
      (some (str "rack_fabric_coordinator")) = .ok startedFabric :=
    (declareAtStart_ok (by decide)).mpr ⟨by decide, rfl⟩
  have hstarted : startCoordinator recovering none ⟨1000⟩ = .ok startedFabric := hdeclared
  rw [launch, hstarted]
  rfl

def early (events : List ServerEvent) : Server :=
  Execution.run (Server.step recovering.toCoordinatorOptions)
    { fabric := startedFabric, file := none } events

theorem early_served {events : List ServerEvent}
    (h : ∀ event ∈ events, ∀ session, event ≠ .replace session) :
    after recovering.toCoordinatorOptions { fabric := startedFabric, file := earlierFile }
        (events.map .serve) =
      { server := { early events with file := earlierFile } } := by
  rw [after_serve]
  exact congrArg (Startup.mk · .started)
    (run_withFile { fabric := startedFabric, file := none } earlierFile h)

theorem lateLoad_installs {loaded : RackState}
    (hloaded : loadState defaults ⟨2000⟩ earlierFile true = .ok loaded)
    (hfile : earlierFile.isNone = false) :
    after recovering.toCoordinatorOptions { fabric := startedFabric, file := earlierFile }
        lateLoad =
      { server := { early earlySession with file := earlierFile, fabric := loaded }
        phase := .completed } := by
  have hserved := @early_served earlySession (by simp [earlySession, joins, publishDomain])
  have hlate : lateLoad = earlySession.map .serve ++ [.read ⟨2000⟩ true] ++ [.install] := by
    simp [lateLoad]
  have hpath : recovering.persistencePath ≠ [] := by decide
  have hload : loadState recovering.fabric ⟨2000⟩ earlierFile true = .ok loaded := hloaded
  rw [hlate, after_concat, after_concat, hserved]
  generalize early earlySession = reached
  generalize earlierFile = file at hfile hload
  exact install_read rfl hpath hfile hload

def registration : Request where
  type := .register
  message := some { worker := some (.ofText (str "worker")), boot := some bootA }

theorem registration_acknowledged :
    Acknowledged recovering.toCoordinatorOptions
      { fabric := startedFabric, file := earlierFile } lateLoad [] 0 ⟨1000⟩ registration := by
  have hgranted :
      (early []).grants recovering.toCoordinatorOptions 0 ⟨1000⟩ registration = true := by
    decide +kernel
  have hinitial : earlySession.map .serve <+: lateLoad := by
    unfold lateLoad
    exact List.prefix_append _ _
  have hdone : ((early earlySession).threads 0).pending.isEmpty = true := by decide +kernel
  have hserved := @early_served earlySession (by simp [earlySession, joins, publishDomain])
  rw [← grants_withFile _ earlierFile] at hgranted
  refine @Acknowledged.of_run _ _ _ _ ((earlySession.drop 1).map .serve)
    (earlySession.map .serve) _ _ _ hgranted ?_ hinitial ?_
  · simp [earlySession, joins, registration]
  · rw [hserved]
    exact List.isEmpty_iff.mp hdone

/-- The load drops a registration that was answered as accepted. -/
theorem late_load_loses_update :
    ¬ ∀ server, launch recovering none ⟨1000⟩ earlierFile = .ok server →
      KeepsAcknowledged recovering.toCoordinatorOptions server lateLoad := by
  intro h
  obtain ⟨candidate, hrestorable, hpublishers, -⟩ := earlierFile_restorable
  obtain ⟨epoch, hloaded⟩ := hrestorable.loads
  have hcompleted := lateLoad_installs hloaded hrestorable.isSome
  have hphase := congrArg Startup.phase hcompleted
  have hfabric := congrArg (·.server.fabric) hcompleted
  have hreflects := h _ launch_recovering hphase _ _ _ _ registration_acknowledged
  have hregistered : received recovering.toCoordinatorOptions
      { fabric := startedFabric, file := earlierFile } [] 0 ⟨1000⟩ registration =
        (early (earlySession.take 1)).fabric :=
    congrArg (·.server.fabric)
      (@early_served (earlySession.take 1) (by simp [earlySession, joins, publishDomain]))
  rw [hregistered] at hreflects
  have hmem : bootA ∈ (early (earlySession.take 1)).fabric.publishers := by decide +kernel
  have hkept := hreflects.mem_publishers hmem
  rw [hfabric] at hkept
  change bootA ∈ candidate.publishers.map _ at hkept
  simp [hpublishers] at hkept

end Scenario

end RackFabric
