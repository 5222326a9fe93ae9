import RackFabric.Library.CopyReplace
import RackFabric.Model.Server
import RackFabric.Properties.Currency
import RackFabric.Properties.Indexes
import RackFabric.Properties.RoundTrip
import RackFabric.Properties.Serving
import RackFabric.Properties.StateFile

/-! An answered mutation is in the state file, as long as every save can be read
back and no save replaces the file of a later one. -/
namespace RackFabric
open CopyReplace RackState

/-! What a request leaves to be done. -/

def Command.accepts (options : CoordinatorOptions) (fabric : RackState) (now : Timestamp) :
    Command → Bool
  | .mutation submitted =>
      (fabric.submit options.fabric now submitted).2.any (·.outcome.isAccepted)
  | .snapshot request =>
      (publishSnapshot options.fabric fabric now request).1.2.outcome.isAccepted
  | _ => false

section
variable {options : CoordinatorOptions} {fabric : RackState} {session : Session} {now : Timestamp}

theorem accepted_iff_published (options : RackFabricOptions) (state : RackState) (now : Timestamp)
    (request : SnapshotRequest) :
    (publishSnapshot options state now request).1.2.outcome.isAccepted =
      (publishSnapshot options state now request).2.isSome := by
  have hrefused : ∀ refusal : Refusal, (state.refuse refusal).2.outcome.isAccepted = false :=
    fun refusal => decide_eq_false refusal.not_accepted
  unfold publishSnapshot
  split
  · exact hrefused _
  · split
    · exact hrefused _
    · rfl

/-- Every accepted mutation is saved once. -/
theorem count_persist_execute
    (hpersist : persistIfConfigured options = [.persist]) (command : Command) :
    (execute options fabric session now command).actions.count .persist =
      (command.accepts options fabric now).toNat := by
  have hfinish : ∀ result : MutationResult,
      (finishMutation options result).count .persist = result.outcome.isAccepted.toNat := by
    intro result
    unfold finishMutation replyResult
    split <;> simp_all
  cases command with
  | mutation mutation =>
    simp only [execute, Command.accepts]
    cases (fabric.submit options.fabric now mutation).2 with
    | none => rfl
    | some result => simpa using hfinish result
  | snapshot request =>
    simp only [execute, Command.accepts]
    have hpublished := accepted_iff_published options.fabric fabric now request
    generalize publishSnapshot options.fabric fabric now request = published at hpublished ⊢
    obtain ⟨⟨after, result⟩, snapshot⟩ := published
    cases snapshot with
    | none => simp_all [replyResult]
    | some snapshot => simp_all [hfinish result]
  | hello | register | query | heartbeat => simp [execute, Command.accepts, replyResult]

end

namespace Server
variable {options : CoordinatorOptions} {server : Server}

def commits (options : CoordinatorOptions) (server : Server) (session : Nat) (now : Timestamp)
    (request : Request) : Bool :=
  (server.threads session).pending.isEmpty &&
    (admitRequest server.fabric (server.threads session).session request).toOption.any
      (·.accepts options server.fabric now)

/-- What an event is to the copies that the sessions take of the fabric. -/
def act (options : CoordinatorOptions) (server : Server) : ServerEvent → Act Nat
  | .receive session now request =>
      if server.commits options session now request then .change session else .other
  | .copy session =>
      if (server.threads session).pending.head? = some .persist then .copy session else .other
  | .replace session => .replace session
  | _ => .other

def acts (options : CoordinatorOptions) (server : Server) : List ServerEvent → List (Act Nat)
  | [] => []
  | event :: events => server.act options event :: acts options (server.step options event) events

/-- The state can be saved, and what is written can be read back. -/
structure Saves (options : RackFabricOptions) (state : RackState) : Prop where
  decodable : state.Decodable
  fits : ∃ payload, encodeStatePayload state = .ok payload ∧
    kHeaderBytes + payload.length + kTrailerBytes ≤ options.limits.maxPersistedBytes.toNat ∧
    payload.length ≤ 512 * 1024 * 1024

def SavesCopy (options : CoordinatorOptions) (server : Server) : ServerEvent → Prop
  | .replace session => ∀ copied ∈ (server.threads session).copy, Saves options.fabric copied
  | _ => True

def Holds (options : CoordinatorOptions) (file : Option Bytes) (state : RackState) : Prop :=
  ∃ candidate, readCandidate options.fabric file true = .ok candidate ∧ candidate.Restores state

/-! The fabric of a coordinator is one that a run of mutations builds. -/

theorem fabric_serve (session : Session) (now : Timestamp) (request : Request)
    (fabric : RackState) :
    (serve options fabric session now request).fabric = fabric ∨
      ∃ mutation, (serve options fabric session now request).fabric =
        fabric.step options.fabric ⟨now, mutation⟩ := by
  unfold serve
  split
  · exact Or.inl rfl
  · exact fabric_execute _

theorem fabric_step (event : ServerEvent) :
    (server.step options event).fabric = server.fabric ∨
      ∃ input, (server.step options event).fabric = server.fabric.step options.fabric input := by
  cases event with
  | receive session now request =>
    simp only [step, receive]
    split
    · exact (fabric_serve _ _ _ _).imp_right fun ⟨mutation, h⟩ => ⟨⟨now, mutation⟩, h⟩
    · exact Or.inl rfl
  | copy session =>
    simp only [step, copy]
    split <;> exact Or.inl rfl
  | replace session =>
    simp only [step, replace]
    split <;> exact Or.inl rfl
  | respond session =>
    simp only [step, respond]
    split <;> exact Or.inl rfl
  | call input => exact Or.inr ⟨input, rfl⟩

theorem fabric_run (options : CoordinatorOptions) (file : Option Bytes)
    (events : List ServerEvent) :
    ∃ inputs, (Execution.run (step options) (start options file) events).fabric =
      Execution.run (RackState.step options.fabric) (fresh options.fabric) inputs := by
  refine @Execution.invariant _ _ (step options)
    (fun server => ∃ inputs, server.fabric =
      Execution.run (RackState.step options.fabric) (fresh options.fabric) inputs)
    (fun server event ⟨inputs, h⟩ => ?_) _ ⟨[], rfl⟩ events
  rcases @fabric_step options server event with hsame | ⟨input, hstep⟩
  · exact ⟨inputs, hsame.trans h⟩
  · refine ⟨inputs ++ [input], ?_⟩
    rw [hstep, h, Execution.run_concat]

/-- The indexes are rebuilt; the records are those that were decoded. -/
theorem restores_adoptCandidate (options : RackFabricOptions) (state : RackState) :
    (adoptCandidate options state.persisted).Restores state where
  rack := rfl
  generations := rfl
  members := RackGraph.members_rebuildIndexes
  relationships := RackGraph.relationships_rebuildIndexes
  failureDomains := RackGraph.failureDomains_rebuildIndexes
  power := rfl
  cooling := rfl
  publishers := rfl
  fencedBoots := rfl
  snapshots := rfl

/-- A file that a save has written is read back as the state that was copied. -/
theorem holds_savedFile {inputs : List Input} {copied : RackState}
    (hcopied : copied = Execution.run (RackState.step options.fabric) (fresh options.fabric) inputs)
    (hsaves : Saves options.fabric copied) (file : Option Bytes) :
    Holds options (savedFile options file copied) copied := by
  obtain ⟨hdecodable, payload, hpayload, hsize, hbound⟩ := hsaves
  simp only [kHeaderBytes, kTrailerBytes] at hsize
  have hkeyed : copied.Keyed := hcopied ▸ (wellFormed_run options.fabric inputs).toKeyed
  have hledger : copied.Ledger := hcopied ▸ ledger_run options.fabric inputs
  have hlimits : copied.limits = options.fabric.limits :=
    hcopied ▸ (bound_run options.fabric inputs).limits
  have hdecoded := decode_encode hkeyed hledger hdecodable hpayload
  rw [hlimits] at hdecoded
  have hread := readCandidate_encodeFile (by omega) hdecoded
  have hwritten : savedFile options file copied = some (encodeFile payload) := by
    have hsaved : saveState copied options.fabric.limits {} = .ok (encodeFile payload) :=
      saveState_ok hpayload (by omega) hbound
    simp only [savedFile, hsaved]
    rfl
  rw [hwritten]
  exact ⟨_, hread, restores_adoptCandidate _ _⟩

/-! The threads and the file, seen through the moments of their copies. -/

/-- What is left to do for the change of a thread. -/
def Matches (past : Nat → RackState) (thread : Thread) : Phase → Prop
  | .idle => .persist ∉ thread.pending ∧ thread.copy = none
  | .changed _ => thread.pending.count .persist = 1 ∧ thread.copy = none
  | .copied _ copy =>
      (∃ rest, thread.pending = .persist :: rest ∧ .persist ∉ rest) ∧
        thread.copy = some (past copy)

structure Coupled (options : CoordinatorOptions) (past : Nat → RackState) (server : Server)
    (desk : Desk Nat) : Prop where
  threads : ∀ session, Matches past (server.threads session) (desk.phase session)
  file : desk.stored ≠ 0 → Holds options server.file (past desk.stored)

variable {past : Nat → RackState} {thread : Thread} {phase : Phase} {desk : Desk Nat}

theorem Matches.idle_of_done (h : Matches past thread phase) (hdone : thread.pending = []) :
    phase = .idle := by
  cases phase with
  | idle => rfl
  | changed change =>
    have hcount := h.1
    simp [hdone] at hcount
  | copied change copy =>
    obtain ⟨⟨rest, hpending, -⟩, -⟩ := h
    simp [hdone] at hpending

/-- A response that is sent is not a save. -/
theorem Matches.respond {message : Reply} {rest : List Action} (h : Matches past thread phase)
    (hpending : thread.pending = .reply message :: rest) :
    Matches past { thread with pending := rest } phase := by
  cases phase with
  | idle => exact ⟨fun hmem => h.1 (by simp [hpending, hmem]), h.2⟩
  | changed change => exact ⟨by simpa [hpending] using h.1, h.2⟩
  | copied change copy =>
    obtain ⟨⟨others, hcopied, -⟩, -⟩ := h
    simp [hpending] at hcopied

/-- One thread moves on, with what the file holds. -/
theorem Coupled.update {after : Server} {later : Desk Nat} {session : Nat}
    (h : Coupled options past server desk) (hnew : Matches past thread phase)
    (hthreads : after.threads = Function.update server.threads session thread)
    (hphase : later.phase = Function.update desk.phase session phase)
    (hfile : later.stored ≠ 0 → Holds options after.file (past later.stored)) :
    Coupled options past after later := by
  refine ⟨fun other => ?_, hfile⟩
  rw [hthreads, hphase]
  by_cases hother : other = session
  · subst hother
    simpa using hnew
  · simpa [Function.update_of_ne hother] using h.threads other

theorem count_persist_serve (hpersist : persistIfConfigured options = [.persist])
    (fabric : RackState) (session : Session) (now : Timestamp) (request : Request) :
    (serve options fabric session now request).actions.count .persist =
      ((admitRequest fabric session request).toOption.any (·.accepts options fabric now)).toNat := by
  unfold serve
  cases admitRequest fabric session request with
  | error refusal => simp [Except.toOption]
  | ok command => exact count_persist_execute hpersist command

theorem receive_of_busy {session : Nat} {now : Timestamp} {request : Request}
    (h : (server.threads session).pending.isEmpty = false) :
    server.receive options session now request = server := by
  simp [Server.receive, h]

theorem receive_of_free {session : Nat} {now : Timestamp} {request : Request}
    (h : (server.threads session).pending.isEmpty = true) :
    server.receive options session now request =
      { server.withThread session
          { session := (serve options server.fabric (server.threads session).session now
              request).session
            correlation := request.correlation
            pending := (serve options server.fabric (server.threads session).session now
              request).actions } with
        fabric :=
          (serve options server.fabric (server.threads session).session now request).fabric } := by
  simp [Server.receive, h]

theorem Coupled.receive (h : Coupled options past server desk)
    (hpersist : persistIfConfigured options = [.persist]) (session : Nat) (now : Timestamp)
    (request : Request) :
    Coupled options past (server.receive options session now request)
      (desk.step (server.act options (.receive session now request))) := by
  cases hfree : (server.threads session).pending.isEmpty with
  | false =>
    have hother : server.act options (.receive session now request) = .other := by
      simp [act, commits, hfree]
    rw [hother, receive_of_busy hfree]
    exact ⟨h.threads, h.file⟩
  | true =>
    have hidle := (h.threads session).idle_of_done (List.isEmpty_iff.mp hfree)
    have hcount := count_persist_serve hpersist server.fabric (server.threads session).session now
      request
    rw [receive_of_free hfree]
    cases hcommits : (admitRequest server.fabric (server.threads session).session request).toOption.any
        (·.accepts options server.fabric now) with
    | false =>
      have hother : server.act options (.receive session now request) = .other := by
        simp [act, commits, hcommits]
      rw [hother]
      refine @Coupled.update _ _ _ _ .idle _ _ _ _ h ⟨?_, rfl⟩ rfl ?_ h.file
      · exact List.count_eq_zero.mp (by simpa [hcommits] using hcount)
      · rw [← hidle, Function.update_eq_self]
        rfl
    | true =>
      have hchange : server.act options (.receive session now request) = .change session := by
        simp [act, commits, hfree, hcommits]
      rw [hchange, Desk.step_change hidle]
      refine @Coupled.update _ _ _ _ (.changed _) _ _ _ _ h ⟨?_, rfl⟩ rfl rfl h.file
      simpa [hcommits] using hcount

theorem copy_of_saving {session : Nat} {rest : List Action}
    (hpending : (server.threads session).pending = .persist :: rest)
    (hcopy : (server.threads session).copy = none) :
    server.copy session =
      server.withThread session { server.threads session with copy := some server.fabric } := by
  simp [Server.copy, hpending, hcopy]

theorem copy_of_copied {session : Nat} {copied : RackState}
    (hcopy : (server.threads session).copy = some copied) : server.copy session = server := by
  simp only [Server.copy]
  split
  · rename_i hnone
    simp [hcopy] at hnone
  · rfl

theorem copy_of_not_saving {session : Nat}
    (h : (server.threads session).pending.head? ≠ some .persist) : server.copy session = server := by
  simp only [Server.copy]
  split
  · rename_i hpending _
    simp [hpending] at h
  · rfl

/-- A save copies the state of the moment. -/
theorem Coupled.copy (h : Coupled options past server desk) (hnow : past desk.now = server.fabric)
    (session : Nat) :
    Coupled options past (server.copy session) (desk.step (server.act options (.copy session))) := by
  by_cases hsaving : (server.threads session).pending.head? = some .persist
  · have hact : server.act options (.copy session) = .copy session := if_pos hsaving
    obtain ⟨rest, hpending⟩ := List.head?_eq_some_iff.mp hsaving
    have hthread := h.threads session
    rw [hact]
    cases hphase : desk.phase session with
    | idle =>
      rw [hphase] at hthread
      exact absurd (by simp [hpending]) hthread.1
    | changed change =>
      rw [hphase] at hthread
      have hrest : .persist ∉ rest := by
        have hcount := hthread.1
        rw [hpending] at hcount
        exact List.count_eq_zero.mp (by simpa using hcount)
      rw [copy_of_saving hpending hthread.2, Desk.step_copy hphase]
      have hcopied : Matches past
          { server.threads session with copy := some server.fabric } (.copied change desk.now) :=
        ⟨⟨rest, hpending, hrest⟩, congrArg some hnow.symm⟩
      exact h.update hcopied rfl rfl h.file
    | copied change copy =>
      rw [hphase] at hthread
      rw [copy_of_copied hthread.2]
      have hrests : desk.step (.copy session) = { desk with now := desk.now + 1 } := by
        simp [Desk.step, hphase]
      rw [hrests]
      exact ⟨h.threads, h.file⟩
  · have hact : server.act options (.copy session) = .other := if_neg hsaving
    rw [hact, copy_of_not_saving hsaving]
    exact ⟨h.threads, h.file⟩

theorem replace_of_copied {session : Nat} {copied : RackState}
    (hcopy : (server.threads session).copy = some copied) :
    server.replace options session =
      { server.withThread session
          { server.threads session with
            pending := (server.threads session).pending.tail, copy := none } with
        file := savedFile options server.file copied } := by
  simp only [Server.replace, hcopy]

theorem replace_of_none {session : Nat} (hcopy : (server.threads session).copy = none) :
    server.replace options session = server := by
  simp only [Server.replace, hcopy]

/-- A save leaves the state of its copy in the file. -/
theorem Coupled.replace (h : Coupled options past server desk) (session : Nat)
    (hreached : ∀ moment, ∃ inputs, past moment =
      Execution.run (RackState.step options.fabric) (fresh options.fabric) inputs)
    (hsaves : SavesCopy options server (.replace session)) :
    Coupled options past (server.replace options session)
      (desk.step (server.act options (.replace session))) := by
  have hthread := h.threads session
  change Coupled options past _ (desk.step (.replace session))
  cases hphase : desk.phase session with
  | idle =>
    rw [hphase] at hthread
    rw [replace_of_none hthread.2, Desk.step_replace_of_not_copied (by simp [hphase])]
    exact ⟨h.threads, h.file⟩
  | changed change =>
    rw [hphase] at hthread
    rw [replace_of_none hthread.2, Desk.step_replace_of_not_copied (by simp [hphase])]
    exact ⟨h.threads, h.file⟩
  | copied change copy =>
    rw [hphase] at hthread
    obtain ⟨⟨rest, hpending, hrest⟩, hcopy⟩ := hthread
    obtain ⟨inputs, hinputs⟩ := hreached copy
    rw [replace_of_copied hcopy, Desk.step_replace hphase]
    refine @Coupled.update _ _ _ _ .idle _ _ _ _ h ⟨?_, rfl⟩ rfl rfl fun _ => ?_
    · simpa [hpending] using hrest
    · exact holds_savedFile hinputs (hsaves _ hcopy) server.file

theorem Coupled.respond (h : Coupled options past server desk) (session : Nat) :
    Coupled options past (server.respond options session)
      (desk.step (server.act options (.respond session))) := by
  change Coupled options past _ { desk with now := desk.now + 1 }
  unfold Server.respond
  dsimp only
  split
  · rename_i message rest hpending
    have hphase : desk.phase = Function.update desk.phase session (desk.phase session) := by
      rw [Function.update_eq_self]
    exact h.update ((h.threads session).respond hpending) rfl hphase h.file
  · exact ⟨h.threads, h.file⟩

theorem Coupled.step (h : Coupled options past server desk)
    (hpersist : persistIfConfigured options = [.persist]) (hnow : past desk.now = server.fabric)
    (hreached : ∀ moment, ∃ inputs, past moment =
      Execution.run (RackState.step options.fabric) (fresh options.fabric) inputs)
    {event : ServerEvent} (hsaves : SavesCopy options server event) :
    Coupled options past (server.step options event) (desk.step (server.act options event)) := by
  cases event with
  | receive session now request => exact h.receive hpersist session now request
  | copy session => exact h.copy hnow session
  | replace session => exact h.replace session hreached hsaves
  | respond session => exact h.respond session
  | call input => exact ⟨h.threads, h.file⟩

/-! Whole runs. -/

theorem acts_append (server : Server) (before later : List ServerEvent) :
    acts options server (before ++ later) = acts options server before ++
      acts options (Execution.run (step options) server before) later := by
  induction before generalizing server with
  | nil => rfl
  | cons event before ih => simp [acts, ih]

@[simp] theorem length_acts (server : Server) (events : List ServerEvent) :
    (acts options server events).length = events.length := by
  induction events generalizing server with
  | nil => rfl
  | cons event events ih => simp [acts, ih]

theorem coupled_start (file : Option Bytes) : Coupled options past (start options file) {} :=
  ⟨fun _ => ⟨List.not_mem_nil, rfl⟩, fun h => absurd rfl h⟩

def after (options : CoordinatorOptions) (file : Option Bytes) (events : List ServerEvent) :
    Server :=
  Execution.run (step options) (start options file) events

theorem after_concat (file : Option Bytes) (events : List ServerEvent) (event : ServerEvent) :
    after options file (events ++ [event]) = (after options file events).step options event :=
  Execution.run_concat _ _ _ _

theorem coupled_run (hpersist : persistIfConfigured options = [.persist]) {file : Option Bytes}
    {events : List ServerEvent}
    (hsaves : Execution.EachStep (step options) (SavesCopy options) (start options file) events)
    (before : List ServerEvent) (hbefore : before <+: events) :
    Coupled options (fun moment => (after options file (events.take moment)).fabric)
      (after options file before)
      (Execution.run Desk.step {} (acts options (start options file) before)) := by
  induction before using List.reverseRecOn with
  | nil => exact coupled_start file
  | append_singleton before event ih =>
    have hinitial : before <+: events := (List.prefix_append before [event]).trans hbefore
    have hmoment : events.take before.length = before := (List.prefix_iff_eq_take.mp hinitial).symm
    rw [after_concat, acts_append]
    simp only [acts]
    rw [Execution.run_concat]
    refine (ih hinitial).step hpersist ?_ (fun moment => fabric_run options file _)
      (hsaves before event hbefore)
    rw [Desk.now_run, length_acts, Nat.zero_add, hmoment]

/-- Once a session has answered for its mutation, the file holds the fabric as it
was right after the mutation or at a later moment. -/
def Durable (options : CoordinatorOptions) (file : Option Bytes) (events : List ServerEvent) :
    Prop :=
  ∀ before session now request later,
    events = before ++ .receive session now request :: later →
      (after options file before).commits options session now request = true →
        ((after options file events).threads session).pending = [] →
          ∃ seen, seen <+: later ∧
            Holds options (after options file events).file
              (after options file (before ++ .receive session now request :: seen)).fabric

/-- Answered mutations are durable in every run whose saves replace the file in
the order of their copies, and can be read back. -/
theorem answered_mutations_durable (options : CoordinatorOptions) (file : Option Bytes)
    (events : List ServerEvent) (hpersist : options.persistAfterMutation = true)
    (hpath : options.persistencePath ≠ [])
    (horder : Execution.EachStep Desk.step Desk.InOrder {}
      (acts options (start options file) events))
    (hsaves : Execution.EachStep (step options) (SavesCopy options) (start options file) events) :
    Durable options file events := by
  have hconfigured : persistIfConfigured options = [.persist] := by
    simp [persistIfConfigured, hpersist, hpath]
  intro before session now request later hevents hcommits hdone
  subst hevents
  have hbefore := coupled_run hconfigured hsaves before (List.prefix_append _ _)
  have hafter := coupled_run hconfigured hsaves _ (List.prefix_refl _)
  have hfree : ((after options file before).threads session).pending = [] := by
    simp only [commits, Bool.and_eq_true] at hcommits
    exact List.isEmpty_iff.mp hcommits.1
  have hacts : acts options (start options file) (before ++ .receive session now request :: later) =
      acts options (start options file) before ++ .change session ::
        acts options ((after options file before).step options (.receive session now request))
          later := by
    rw [acts_append, ← after]
    simp [acts, act, hcommits]
  rw [hacts] at horder
  have hstored := Desk.change_le_stored horder ((hbefore.threads session).idle_of_done hfree)
    (by rw [← hacts]; exact (hafter.threads session).idle_of_done hdone)
  rw [← hacts, length_acts] at hstored
  generalize hdesk : Execution.run Desk.step {} (acts options (start options file)
    (before ++ .receive session now request :: later)) = desk at hafter hstored
  have hfile := hafter.file (by omega)
  refine ⟨later.take (desk.stored - (before.length + 1)), List.take_prefix _ _, ?_⟩
  have hmoment : (before ++ ServerEvent.receive session now request :: later).take desk.stored =
      before ++ .receive session now request :: later.take (desk.stored - (before.length + 1)) := by
    obtain ⟨rest, hrest⟩ := Nat.exists_eq_add_of_le hstored
    rw [hrest, Nat.add_sub_cancel_left, Nat.add_assoc, List.take_length_add_append, Nat.add_comm 1,
      List.take_succ_cons]
  rw [hmoment] at hfile
  exact hfile

end Server

namespace Scenario
open Server

def persisting : CoordinatorOptions where
  persistencePath := str "state"
  persistAfterMutation := true

def joins (session : Nat) (boot : AgentBootId) : List ServerEvent :=
  [.receive session ⟨1000⟩
      { type := .register
        message := some { worker := some (.ofText (str "worker")), boot := some boot } },
    .respond session]

def publishDomain (session : Nat) (boot : AgentBootId) (name : String) : ServerEvent :=
  .receive session ⟨1000⟩
    { type := .publishFailureDomain
      message := some { authority := { boot := some boot }, record := { id := .ofText (str name) } } }

def savedPublication : List ServerEvent :=
  [.call declareRack] ++ joins 0 bootA ++
    [publishDomain 0 bootA "row-1", .copy 0, .replace 0, .respond 0]

/-- The save of the first session is overtaken by that of the second one. -/
def overtakenSave : List ServerEvent :=
  [.call declareRack] ++ joins 0 bootA ++ joins 1 bootB ++
    [publishDomain 0 bootA "row-1", .copy 0, publishDomain 1 bootB "row-2", .copy 1, .replace 1,
      .respond 1, .replace 0, .respond 0]

def isSaved (state : RackState) : Bool :=
  state.isReadBack && (encodeStatePayload state).toOption.any fun payload =>
    kHeaderBytes + payload.length + kTrailerBytes ≤ 512 * 1024 * 1024

theorem saves_of_isSaved {state : RackState} (h : isSaved state = true) :
    Saves defaults state := by
  simp only [isSaved, Bool.and_eq_true] at h
  obtain ⟨payload, hpayload, hsize⟩ := ok_of_any h.2
  have hbound : kHeaderBytes + payload.length + kTrailerBytes ≤ 512 * 1024 * 1024 := by
    simpa using hsize
  exact ⟨decodable_of_isReadBack h.1, payload, hpayload, hbound, by omega⟩

theorem savesCopy_of_isSaved {server : Server} {session : Nat}
    (h : (server.threads session).copy.all isSaved = true) :
    SavesCopy persisting server (.replace session) :=
  fun copied hcopied => saves_of_isSaved (by simpa [Option.mem_def.mp hcopied] using h)

theorem savedPublication_durable : Durable persisting none savedPublication := by
  have hacts : acts persisting (start persisting none) savedPublication =
      [.other, .other, .other, .change 0, .copy 0, .replace 0, .other] := by decide +kernel
  refine answered_mutations_durable persisting none savedPublication rfl (by decide) ?_ ?_
  · rw [hacts]
    simp [Execution.eachStep_cons, Execution.eachStep_nil, Desk.InOrder, Desk.step]
  · simp only [savedPublication, joins, List.cons_append, List.nil_append, Execution.eachStep_cons]
    exact ⟨trivial, trivial, trivial, trivial, trivial, savesCopy_of_isSaved (by decide +kernel),
      trivial, Execution.eachStep_nil _ _ _⟩

def toldAccepted (server : Server) (session : Nat) : Bool :=
  server.sent.any fun (receiver, response) =>
    match response.reply with
    | .result message => receiver = session && message.accepted
    | _ => false

theorem overtakenSave_saves :
    Execution.EachStep (step persisting) (SavesCopy persisting) (start persisting none)
      overtakenSave := by
  simp only [overtakenSave, joins, List.cons_append, List.nil_append, Execution.eachStep_cons]
  exact ⟨trivial, trivial, trivial, trivial, trivial, trivial, trivial, trivial, trivial,
    savesCopy_of_isSaved (by decide +kernel), trivial, savesCopy_of_isSaved (by decide +kernel),
    trivial, Execution.eachStep_nil _ _ _⟩

/-- In the end the file holds the copy of the first session. -/
theorem overtakenSave_file :
    Holds persisting (after persisting none overtakenSave).file
      (after persisting none (overtakenSave.take 6)).fabric := by
  have hcoupled := coupled_run rfl overtakenSave_saves overtakenSave (List.prefix_refl _)
  have hacts : acts persisting (start persisting none) overtakenSave =
      [.other, .other, .other, .other, .other, .change 0, .copy 0, .change 1, .copy 1,
        .replace 1, .other, .replace 0, .other] := by decide +kernel
  rw [hacts] at hcoupled
  exact hcoupled.file (by decide)

/-- The renamed copy is the older one: both publications are answered as accepted,
and the second one is not in the file. -/
theorem overtaken_save_loses_mutation :
    toldAccepted (after persisting none overtakenSave) 1 = true ∧
      ((after persisting none overtakenSave).threads 0).pending = [] ∧
      ((after persisting none overtakenSave).threads 1).pending = [] ∧
      ¬ Durable persisting none overtakenSave := by
  have hdone : ((after persisting none overtakenSave).threads 1).pending = [] :=
    List.isEmpty_iff.mp (by decide +kernel)
  refine ⟨by decide +kernel, List.isEmpty_iff.mp (by decide +kernel), hdone, fun hdurable => ?_⟩
  obtain ⟨seen, hseen, candidate, hread, hlater⟩ :=
    hdurable (overtakenSave.take 7) 1 _ _ (overtakenSave.drop 8) rfl (by decide +kernel) hdone
  obtain ⟨stored, hstored, hearlier⟩ := overtakenSave_file
  obtain rfl : stored = candidate := Except.ok.inj (hstored.symm.trans hread)
  have hsame := hearlier.failureDomains.symm.trans hlater.failureDomains
  have hmissing : ¬ ((.ofText (str "row-2") : FailureDomainId) ∈
      (after persisting none (overtakenSave.take 6)).fabric.failureDomains) := by decide +kernel
  have hpresent : ∀ seen ∈ (overtakenSave.drop 8).inits,
      (.ofText (str "row-2") : FailureDomainId) ∈ (after persisting none
        (overtakenSave.take 7 ++ publishDomain 1 bootB "row-2" :: seen)).fabric.failureDomains := by
    decide +kernel
  rw [hsame] at hmissing
  exact hmissing (hpresent seen ((List.mem_inits _ _).mpr hseen))

end Scenario

end RackFabric
