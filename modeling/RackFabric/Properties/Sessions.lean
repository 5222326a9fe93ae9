import RackFabric.Model.Sessions
import RackFabric.Properties.Authority
import RackFabric.Properties.Serving

/-! A session speaks for the boot that it has registered, and no other session
ever does. -/
namespace RackFabric
open Std RackState

/-! Registration. -/

section Registration
variable {options : RackFabricOptions} {state : RackState} {now : Timestamp}

theorem admitRegistration_boot {request : RegisterPublisherRequest} {worker : WorkerId}
    {boot : AgentBootId} (h : admitRegistration options state request = .ok (worker, boot)) :
    request.boot = some boot := by
  unfold admitRegistration at h
  simp only [bind_eq_ok, refuseIf_eq_ok, require_eq_ok, exists_and_left, exists_const] at h
  obtain ⟨_, -, _, -, named, hboot, -, _, -, -, -, -, -, _, -, hpair⟩ := h
  cases hpair
  exact hboot

/-- A registration is accepted for a boot that is not known yet. -/
theorem registered_of_accepted {request : RegisterPublisherRequest} {boot : AgentBootId}
    (hboot : request.boot = some boot)
    (haccepted : (registerPublisher options state now request).2.outcome.isAccepted = true) :
    boot ∉ state.publishers ∧
      boot ∈ (registerPublisher options state now request).1.publishers := by
  unfold registerPublisher at haccepted ⊢
  cases hadmitted : admitRegistration options state request with
  | error refusal =>
    rw [hadmitted] at haccepted
    exact absurd (of_decide_eq_true haccepted) refusal.not_accepted
  | ok pair =>
    obtain ⟨worker, named⟩ := pair
    obtain rfl := Option.some.inj (hboot.symm.trans (admitRegistration_boot hadmitted))
    rw [hadmitted] at haccepted
    cases hfound : state.publishers[boot]? with
    | some existing =>
      simp only [hfound] at haccepted
      exact absurd (of_decide_eq_true haccepted) (Refusal.not_accepted _)
    | none =>
      simp only [hfound]
      refine ⟨fun hmem => ?_, ?_⟩
      · simp [ExtTreeMap.mem_iff_isSome_getElem?, hfound] at hmem
      · simp [accept]

theorem mem_publishers_step {boot : AgentBootId} (h : boot ∈ state.publishers) (input : Input) :
    boot ∈ (step options state input).publishers := by
  rw [ExtTreeMap.mem_iff_isSome_getElem?, Option.isSome_iff_exists] at h ⊢
  obtain ⟨record, hfound⟩ := h
  obtain ⟨later, hlater, -⟩ :=
    publishers_followed (perform_transition state input) boot record hfound
  exact ⟨later, hlater⟩

end Registration

theorem mem_publishers_execute {options : CoordinatorOptions} {fabric : RackState}
    {session : Session} {now : Timestamp} {boot : AgentBootId} (h : boot ∈ fabric.publishers)
    (command : Command) :
    boot ∈ (execute options fabric session now command).fabric.publishers := by
  rcases @fabric_execute options _ _ _ command with hsame | ⟨mutation, hstep⟩
  · rwa [hsame]
  · rw [hstep]
    exact mem_publishers_step h _

/-! What a session lets through. -/

/-- The command was admitted for the session: it speaks for the boot of the session,
or asks for that boot to be registered. -/
structure Command.SpeaksFor (command : Command) (session : Session) : Prop where
  submission : ∀ mutation, command.submission = some mutation →
    ∃ boot, session.boot = some boot ∧ mutation.submittedBy = some boot
  registration : ∀ worker boot request, command = .register worker boot request →
    request.boot = some boot ∧ ∀ bound, session.boot = some bound → bound = boot

theorem admitMutation_submission {fabric : RackState} {boot : AgentBootId} {request : Request}
    {command : Command} (h : admitMutation fabric boot request = .ok command) :
    ∃ mutation, command.submission = some mutation ∧ mutation.submittedBy = some boot := by
  unfold admitMutation at h
  split at h
  case h_15 => cases h
  all_goals
    obtain ⟨⟨message, token⟩, hpresented, h⟩ := bind_eq_ok.mp h
    obtain ⟨-, -, rfl⟩ := presented_ok hpresented
    cases h
    exact ⟨_, rfl, rfl⟩

theorem speaksFor_of_silent {session : Session} {command : Command}
    (hsubmission : command.submission = none)
    (hregistration : ∀ worker boot request, command ≠ .register worker boot request) :
    command.SpeaksFor session where
  submission mutation h := by
    rw [hsubmission] at h
    cases h
  registration worker boot request h := absurd h (hregistration worker boot request)

theorem admitRegister_speaksFor {fabric : RackState} {session : Session}
    {message : Option RegisterMessage} {command : Command}
    (h : admitRegister fabric session message = .ok command) : command.SpeaksFor session := by
  obtain ⟨found, -, h⟩ := bind_eq_ok.mp h
  split at h
  · rename_i boot worker _ _
    split at h
    · cases h
    · rename_i hbound
      split at h
      · cases h
      · cases h
        constructor
        · intro mutation hsubmission
          cases hsubmission
        · rintro _ _ _ ⟨⟩
          refine ⟨rfl, fun bound hsession => ?_⟩
          simpa [hsession] using hbound
  · cases h

theorem admit_speaksFor {fabric : RackState} {session : Session} {request : Request}
    {command : Command} (h : admitRequest fabric session request = .ok command) :
    command.SpeaksFor session := by
  unfold admitRequest at h
  split at h
  · cases h
  · split at h
    · obtain ⟨hello, -, h⟩ := bind_eq_ok.mp h
      split at h
      · cases h
      · cases h
        exact speaksFor_of_silent rfl fun _ _ _ h => by cases h
    · exact admitRegister_speaksFor h
    · obtain ⟨message, -, h⟩ := bind_eq_ok.mp h
      cases h
      exact speaksFor_of_silent rfl fun _ _ _ h => by cases h
    · split at h
      · split at h
        · cases h
        · rename_i boot hboot
          obtain ⟨mutation, hsubmission, hspeaks⟩ := admitMutation_submission h
          refine ⟨fun found hfound => ?_, fun worker named registration hregister => ?_⟩
          · obtain rfl := Option.some.inj (hsubmission.symm.trans hfound)
            exact ⟨boot, hboot, hspeaks⟩
          · rw [hregister] at hsubmission
            cases hsubmission
      · cases h

/-! One event. -/

namespace Coordinator
variable {options : CoordinatorOptions} {coordinator : Coordinator}

def start (fabric : RackState) : Coordinator := { fabric := fabric }

def Binds (options : CoordinatorOptions) (coordinator : Coordinator) (connection : Nat)
    (boot : AgentBootId) : CoordinatorEvent → Prop
  | .call caller now =>
      caller = connection ∧ ∃ session worker request,
        coordinator.connections connection =
          .serving session (some (.register worker boot request)) ∧
        (registerPublisher options.fabric coordinator.fabric now
          request).2.outcome.isAccepted = true
  | _ => False

structure Sound (coordinator : Coordinator) : Prop where
  known : ∀ {connection boot}, coordinator.boundTo connection = some boot →
    boot ∈ coordinator.fabric.publishers
  distinct : ∀ {first second boot}, coordinator.boundTo first = some boot →
    coordinator.boundTo second = some boot → first = second
  speaks : ∀ {connection session command},
    coordinator.connections connection = .serving session (some command) →
      command.SpeaksFor session

theorem boundTo_moved (fabric : RackState) (connection other : Nat) (next : Connection) :
    (coordinator.moved fabric connection next).boundTo other =
      if other = connection then next.boot else coordinator.boundTo other := by
  simp only [boundTo, moved, Function.update_apply]
  split <;> rfl

theorem connections_moved (fabric : RackState) (connection other : Nat) (next : Connection) :
    (coordinator.moved fabric connection next).connections other =
      if other = connection then next else coordinator.connections other := by
  simp only [moved, Function.update_apply]

/-- A connection that is bound to nothing else than before breaks nothing. -/
theorem Sound.moved (h : coordinator.Sound) {connection : Nat} {next : Connection}
    {fabric : RackState}
    (hpublishers : ∀ boot, boot ∈ coordinator.fabric.publishers → boot ∈ fabric.publishers)
    (hbound : ∀ boot, next.boot = some boot → coordinator.boundTo connection = some boot)
    (hspeaks : ∀ session command, next = .serving session (some command) →
      command.SpeaksFor session) :
    (coordinator.moved fabric connection next).Sound := by
  have hbefore : ∀ {other boot},
      (coordinator.moved fabric connection next).boundTo other = some boot →
        coordinator.boundTo other = some boot := by
    intro other boot hother
    rw [boundTo_moved] at hother
    split at hother
    · rename_i hsame
      exact hsame ▸ hbound boot hother
    · exact hother
  refine ⟨fun hboot => hpublishers _ (h.known (hbefore hboot)),
    fun hfirst hsecond => h.distinct (hbefore hfirst) (hbefore hsecond), ?_⟩
  intro other session command hfound
  rw [connections_moved] at hfound
  split at hfound
  · exact hspeaks session command hfound
  · exact h.speaks hfound

theorem sound_start (fabric : RackState) : (start fabric).Sound where
  known h := by cases h
  distinct h := by cases h
  speaks h := by cases h

/-- A boot that the fabric did not know is bound to one session. -/
theorem Sound.bind (h : coordinator.Sound) {connection : Nat} {session : Session}
    {boot : AgentBootId} {fabric : RackState} (hsession : session.boot = some boot)
    (hpublishers : ∀ boot, boot ∈ coordinator.fabric.publishers → boot ∈ fabric.publishers)
    (hnew : boot ∉ coordinator.fabric.publishers) (hregistered : boot ∈ fabric.publishers) :
    (coordinator.moved fabric connection (.serving session none)).Sound := by
  have hbefore : ∀ {other named},
      (coordinator.moved fabric connection (.serving session none)).boundTo other = some named →
        (other = connection ∧ named = boot) ∨
          (named ≠ boot ∧ coordinator.boundTo other = some named) := by
    intro other named hother
    rw [boundTo_moved] at hother
    split at hother
    · exact Or.inl ⟨‹_›, Option.some.inj (hother.symm.trans hsession)⟩
    · exact Or.inr ⟨fun heq => hnew (heq ▸ h.known hother), hother⟩
  refine ⟨fun hbound => ?_, fun hfirst hsecond => ?_, fun hfound => ?_⟩
  · rcases hbefore hbound with ⟨-, rfl⟩ | ⟨-, hkept⟩
    · exact hregistered
    · exact hpublishers _ (h.known hkept)
  · rcases hbefore hfirst with ⟨rfl, rfl⟩ | ⟨hother, hkept⟩
    · rcases hbefore hsecond with ⟨rfl, -⟩ | ⟨hne, -⟩
      · rfl
      · exact absurd rfl hne
    · rcases hbefore hsecond with ⟨-, rfl⟩ | ⟨-, hkept'⟩
      · exact absurd rfl hother
      · exact h.distinct hkept hkept'
  · rw [connections_moved] at hfound
    split at hfound
    · cases hfound
    · exact h.speaks hfound

/-- A call leaves the session as it is, or it is a registration that is accepted. -/
theorem session_execute (fabric : RackState) (session : Session) (now : Timestamp)
    (command : Command) :
    (execute options fabric session now command).session = session ∨
      ∃ worker boot request, command = .register worker boot request ∧
        (registerPublisher options.fabric fabric now request).2.outcome.isAccepted = true ∧
        (execute options fabric session now command).session = ⟨some boot, some worker⟩ := by
  cases command with
  | register worker boot request =>
    simp only [execute]
    split
    · rename_i haccepted
      exact Or.inr ⟨worker, boot, request, rfl, haccepted, rfl⟩
    · exact Or.inl rfl
  | hello | query | mutation | heartbeat => exact Or.inl rfl
  | snapshot request =>
    simp only [execute]
    generalize publishSnapshot options.fabric fabric now request = published
    obtain ⟨⟨after, result⟩, snapshot⟩ := published
    cases snapshot with
    | none => exact Or.inl rfl
    | some snapshot =>
      dsimp only
      split <;> exact Or.inl rfl

theorem sound_call (h : coordinator.Sound) (connection : Nat) (now : Timestamp) :
    (coordinator.call options connection now).Sound := by
  unfold call
  split
  · rename_i session command hserving
    have hpublishers : ∀ boot, boot ∈ coordinator.fabric.publishers →
        boot ∈ (execute options coordinator.fabric session now command).fabric.publishers :=
      fun _ hmem => mem_publishers_execute hmem command
    rcases @session_execute options coordinator.fabric session now command with
      hsame | ⟨worker, boot, request, rfl, haccepted, hsession⟩
    · refine h.moved hpublishers (fun boot hboot => ?_) (by simp)
      rw [hsame] at hboot
      rw [boundTo, hserving]
      exact hboot
    · obtain ⟨hboot, -⟩ := (h.speaks hserving).registration worker boot request rfl
      obtain ⟨hnew, hregistered⟩ := registered_of_accepted hboot haccepted
      exact h.bind (by rw [hsession]) hpublishers hnew hregistered
  · exact h

theorem sound_step (coordinator : Coordinator) (event : CoordinatorEvent) (h : coordinator.Sound) :
    (step options coordinator event).Sound := by
  cases event with
  | accept connection =>
    simp only [step, accept]
    split
    · exact h.moved (fun _ => id) (fun _ h => by cases h) (by simp)
    · exact h
  | receive connection request =>
    simp only [step, receive]
    split
    · refine h.moved (fun _ => id) (fun boot hboot => ?_) fun session command hnext => ?_
      · split at hboot <;> cases hboot
      · split at hnext <;> cases hnext
    · rename_i session hserving
      split
      · exact h
      · rename_i command hadmitted
        refine h.moved (fun _ => id) (fun boot hboot => ?_) fun found submitted hnext => ?_
        · rw [boundTo, hserving]
          exact hboot
        · cases hnext
          exact admit_speaksFor hadmitted
    · exact h
  | call connection now => exact sound_call h connection now
  | disconnect connection =>
    simp only [step, disconnect]
    split
    · exact h
    · exact h.moved (fun _ => id) (fun _ h => by cases h) (by simp)
  | embedded input =>
    exact ⟨fun hbound => mem_publishers_step (h.known hbound) input, h.distinct, h.speaks⟩

theorem sound_run (options : CoordinatorOptions) (fabric : RackState)
    (events : List CoordinatorEvent) :
    (Execution.run (step options) (start fabric) events).Sound :=
  Execution.invariant (step options) sound_step (sound_start fabric) events

/-! A whole run. -/

/-- The session has registered the boot, and its connection is open ever since. -/
def Registered (options : CoordinatorOptions) (fabric : RackState)
    (events : List CoordinatorEvent) (connection : Nat) (boot : AgentBootId) : Prop :=
  ∃ earlier event later, events = earlier ++ [event] ++ later ∧
    Binds options (Execution.run (step options) (start fabric) earlier) connection boot event ∧
    ∀ between, between <+: later →
      (Execution.run (step options) (start fabric) (earlier ++ [event] ++ between)).boundTo
        connection = some boot

theorem boundTo_call (coordinator : Coordinator) (caller connection : Nat) (now : Timestamp)
    {boot : AgentBootId}
    (h : (coordinator.call options caller now).boundTo connection = some boot) :
    coordinator.boundTo connection = some boot ∨
      Binds options coordinator connection boot (.call caller now) := by
  unfold call at h
  split at h
  · rename_i session command hserving
    rw [boundTo_moved] at h
    split at h
    · rename_i hsame
      subst hsame
      rcases @session_execute options coordinator.fabric session now command with
        hkept | ⟨worker, named, request, rfl, haccepted, hsession⟩
      · rw [hkept] at h
        refine Or.inl ?_
        rw [boundTo, hserving]
        exact h
      · rw [hsession] at h
        obtain rfl : named = boot := Option.some.inj h
        exact Or.inr ⟨rfl, session, worker, request, hserving, haccepted⟩
    · exact Or.inl h
  · exact Or.inl h

/-- Only an accepted registration binds a session. -/
theorem boundTo_step (coordinator : Coordinator) (event : CoordinatorEvent) {connection : Nat}
    {boot : AgentBootId} (h : (step options coordinator event).boundTo connection = some boot) :
    coordinator.boundTo connection = some boot ∨
      Binds options coordinator connection boot event := by
  cases event with
  | accept caller =>
    refine Or.inl ?_
    simp only [step, accept] at h
    split at h
    · rw [boundTo_moved] at h
      split at h
      · cases h
      · exact h
    · exact h
  | receive caller request =>
    refine Or.inl ?_
    simp only [step, receive] at h
    split at h
    · rw [boundTo_moved] at h
      split at h
      · split at h <;> cases h
      · exact h
    · rename_i session hserving
      split at h
      · exact h
      · rw [boundTo_moved] at h
        split at h
        · rename_i hsame
          rw [hsame, boundTo, hserving]
          exact h
        · exact h
    · exact h
  | call caller now => exact boundTo_call coordinator caller connection now h
  | disconnect caller =>
    refine Or.inl ?_
    simp only [step, disconnect] at h
    split at h
    · exact h
    · rw [boundTo_moved] at h
      split at h
      · cases h
      · exact h
  | embedded input => exact Or.inl h

theorem registered_run (options : CoordinatorOptions) (fabric : RackState)
    (events : List CoordinatorEvent) {connection : Nat} {boot : AgentBootId}
    (h : (Execution.run (step options) (start fabric) events).boundTo connection = some boot) :
    Registered options fabric events connection boot := by
  induction events using List.reverseRecOn with
  | nil => cases h
  | append_singleton events event ih =>
    have hnow := h
    rw [Execution.run_concat] at h
    rcases boundTo_step _ event h with hbefore | hbinds
    · obtain ⟨earlier, registration, later, rfl, hbinds, hopen⟩ := ih hbefore
      refine ⟨earlier, registration, later ++ [event], by simp, hbinds, ?_⟩
      intro between hinitial
      rcases List.prefix_concat_iff.mp hinitial with rfl | hshorter
      · rw [← List.append_assoc]
        exact hnow
      · exact hopen between hshorter
    · refine ⟨events, event, [], by simp, hbinds, fun between hinitial => ?_⟩
      rw [List.prefix_nil.mp hinitial, List.append_nil]
      exact hnow

/-- A registration that binds a session is the first one of its boot. -/
theorem publishers_of_binds (h : coordinator.Sound) {event : CoordinatorEvent} {connection : Nat}
    {boot : AgentBootId} (hbinds : Binds options coordinator connection boot event) :
    boot ∉ coordinator.fabric.publishers ∧
      boot ∈ (step options coordinator event).fabric.publishers := by
  cases event with
  | call caller now =>
    obtain ⟨rfl, session, worker, request, hserving, haccepted⟩ := hbinds
    obtain ⟨hboot, -⟩ := (h.speaks hserving).registration worker boot request rfl
    simpa only [step, call, hserving, moved, execute] using registered_of_accepted hboot haccepted
  | accept | receive | disconnect | embedded => cases hbinds

theorem mem_publishers_event {boot : AgentBootId} (coordinator : Coordinator)
    (event : CoordinatorEvent) (h : boot ∈ coordinator.fabric.publishers) :
    boot ∈ (step options coordinator event).fabric.publishers := by
  cases event with
  | call caller now =>
    simp only [step, call]
    split
    · exact mem_publishers_execute h _
    · exact h
  | embedded input => exact mem_publishers_step h input
  | accept caller =>
    simp only [step, accept]
    split <;> exact h
  | receive caller request =>
    simp only [step, receive]
    split
    · exact h
    · split <;> exact h
    · exact h
  | disconnect caller =>
    simp only [step, disconnect]
    split <;> exact h

/-- However sessions interleave, no boot is bound to two of them, now or later, and
what a session submits carries the boot that it has registered itself. -/
theorem session_speaks_for_own_boot (options : CoordinatorOptions) (fabric : RackState)
    (events : List CoordinatorEvent) :
    Execution.Always (step options)
        (fun coordinator => ∀ first second boot, coordinator.boundTo first = some boot →
          coordinator.boundTo second = some boot → first = second) (start fabric) events ∧
      (∀ boot, Execution.AtMostOnce (step options)
        (fun coordinator event => ∃ connection, Binds options coordinator connection boot event)
        (start fabric) events) ∧
      ∀ before connection session command mutation, before <+: events →
        (Execution.run (step options) (start fabric) before).connections connection =
          .serving session (some command) →
        command.submission = some mutation →
        ∃ boot, mutation.submittedBy = some boot ∧
          Registered options fabric before connection boot := by
  refine ⟨fun before _ first second boot hfirst hsecond => ?_, fun boot => ?_, ?_⟩
  · exact (sound_run options fabric before).distinct hfirst hsecond
  · refine Execution.atMostOnce_of_passed (step options)
      (fun coordinator => boot ∈ coordinator.fabric.publishers) ?_ ?_ ?_
    · rintro before event - ⟨connection, hbinds⟩
      exact (publishers_of_binds (sound_run options fabric before) hbinds).2
    · rw [Execution.permanent_iff_eachStep]
      exact fun before event _ h => mem_publishers_event _ event h
    · rintro before event - ⟨connection, hbinds⟩
      exact (publishers_of_binds (sound_run options fabric before) hbinds).1
  · intro before connection session command mutation _ hserving hsubmission
    obtain ⟨boot, hsession, hspeaks⟩ :=
      ((sound_run options fabric before).speaks hserving).submission mutation hsubmission
    refine ⟨boot, hspeaks, registered_run options fabric before ?_⟩
    rw [boundTo, hserving]
    exact hsession

end Coordinator

end RackFabric
