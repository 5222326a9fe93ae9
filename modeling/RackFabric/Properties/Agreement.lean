import RackFabric.Model.Agent
import RackFabric.Properties.Authority
import RackFabric.Properties.Serving

/-! The agent and the coordinator each count the publications of the agent's
boot. They agree until an accepted heartbeat, which only the agent counts. -/
namespace RackFabric
open Std RackState

namespace Link
variable {options : CoordinatorOptions} {link : Link}

/-- The agent counts as the coordinator does, so its next mutation is in sequence. -/
def InStep (link : Link) : Prop :=
  ∃ record, link.fabric.publishers[link.agent.boot]? = some record ∧
    link.agent.publicationGeneration = record.publicationGeneration ∧
    checkSequence link.agent.token link.agent.boot record = .ok ()

/-- An exchange gets its result, and no other party acts as the agent's boot. -/
def Completed (options : CoordinatorOptions) (link : Link) : LinkEvent → Prop
  | .exchange now sent => ∃ completed, link.completion options now sent = .ok completed
  | .other input => input.mutation.submittedBy ≠ some link.agent.boot

def heartbeatToken (link : Link) : AuthorityToken :=
  { tokenFor link.fabric link.agent.boot link.agent.token with publicationGeneration := none }

/-- The fabric grants a heartbeat while the agent can still count on. -/
def Overtakes (link : Link) : LinkEvent → Prop
  | .exchange _ .heartbeat =>
      (∃ publisher, link.fabric.checkAuthority link.heartbeatToken false = .ok publisher) ∧
        link.agent.publicationGeneration.next ≠ none
  | _ => False

def mutation (link : Link) : AgentRequest → Mutation
  | .failureDomain record =>
      .publishFailureDomain
        { authority := tokenFor link.fabric link.agent.boot link.agent.token, record := record }
  | .member record =>
      .publishMember
        { authority := tokenFor link.fabric link.agent.boot link.agent.token, record := record }
  | .heartbeat => .heartbeat { authority := link.heartbeatToken }

theorem inStep_iff {record : PublisherRecord}
    (hfound : link.fabric.publishers[link.agent.boot]? = some record) :
    link.InStep ↔ link.agent.publicationGeneration = record.publicationGeneration := by
  constructor
  · rintro ⟨other, hother, hsame, -⟩
    obtain rfl := Option.some.inj (hother.symm.trans hfound)
    exact hsame
  · intro hsame
    have hirrefl := Generation.lt_irrefl record.publicationGeneration
    refine ⟨record, hfound, hsame, ?_⟩
    simp [checkSequence, Agent.token, hsame, hirrefl]

/-! One exchange. -/

def command (link : Link) : AgentRequest → Command
  | .heartbeat => .heartbeat { authority := link.heartbeatToken }
  | sent => .mutation (link.mutation sent)

theorem admit_request (hsession : link.session.boot = some link.agent.boot) (sent : AgentRequest) :
    admitRequest link.fabric link.session (link.agent.nextCorrelation.request sent) =
      .ok (link.command sent) := by
  have hboot : link.agent.nextCorrelation.token.boot = some link.agent.boot := rfl
  cases sent with
  | failureDomain record =>
    rw [admit_of_registered hsession rfl rfl]
    simp only [admitMutation, Agent.request]
    rw [presented_of_boot]
    · rfl
    · exact hboot
  | member record =>
    rw [admit_of_registered hsession rfl rfl]
    simp only [admitMutation, Agent.request]
    rw [presented_of_boot]
    · rfl
    · exact hboot
  | heartbeat =>
    rw [admit_of_registered hsession rfl rfl]
    simp only [admitMutation, Agent.request]
    rw [presented_of_boot]
    · rfl
    · exact hboot

theorem submit_request (link : Link) (now : Timestamp) (sent : AgentRequest) :
    ∃ after result,
      link.fabric.submit options.fabric now (link.mutation sent) = (after, some result) := by
  cases sent <;> exact ⟨_, _, rfl⟩

theorem serve_request (hsession : link.session.boot = some link.agent.boot) {now : Timestamp}
    {sent : AgentRequest} {after : RackState} {result : MutationResult}
    (hsubmit : link.fabric.submit options.fabric now (link.mutation sent) = (after, some result)) :
    let request := link.agent.nextCorrelation.request sent
    let reaction := serve options link.fabric link.session now request
    reaction.fabric = after ∧ reaction.session = link.session ∧
      responses options link.fabric link.session now request =
        send options.limits request.correlation (.reply (.result (toResult result))) := by
  simp only [responses, serve, admit_request hsession]
  cases sent with
  | failureDomain record | member record => simp [command, execute, hsubmit]
  | heartbeat =>
    obtain ⟨rfl, hresult⟩ := Prod.ext_iff.mp hsubmit
    obtain rfl := Option.some.inj hresult
    refine ⟨rfl, rfl, ?_⟩
    simp only [command, execute, replyResult, List.flatMap_singleton]

/-- The agent counts an accepted result of whatever request. -/
theorem agent_of_completion (hsession : link.session.boot = some link.agent.boot) {now : Timestamp}
    {sent : AgentRequest} {after : RackState} {result : MutationResult}
    (hsubmit : link.fabric.submit options.fabric now (link.mutation sent) = (after, some result))
    {agent : Agent} {taken : MutationResult}
    (hcompletion : link.completion options now sent = .ok (agent, taken)) :
    agent.boot = link.agent.boot ∧ agent.publicationGeneration =
      if result.outcome = .accepted then
        link.agent.publicationGeneration.next.getD link.agent.publicationGeneration
      else link.agent.publicationGeneration := by
  unfold completion at hcompletion
  simp only [(serve_request hsession hsubmit).2.2, send_reply] at hcompletion
  split at hcompletion
  · simp only [Agent.exchange, ne_eq, not_true_eq_false, if_false, Agent.takeResult, bind,
      Except.bind] at hcompletion
    split at hcompletion
    · obtain ⟨rfl, -⟩ := Prod.ext_iff.mp (Except.ok.inj hcompletion)
      by_cases haccepted : result.outcome = .accepted
      · simp [toResult, MutationOutcome.isAccepted, haccepted, Agent.nextCorrelation]
      · simp [toResult, MutationOutcome.isAccepted, haccepted, Agent.nextCorrelation]
    · cases hcompletion
  · cases hcompletion

theorem heartbeat_accepted_iff (now : Timestamp) :
    (link.fabric.heartbeat now { authority := link.heartbeatToken }).2.outcome = .accepted ↔
      ∃ publisher, link.fabric.checkAuthority link.heartbeatToken false = .ok publisher := by
  constructor
  · intro h
    have hbeat := @heartbeat_transition {} link.fabric now { authority := link.heartbeatToken }
    exact authority_of_accepted rfl (congrArg some h) hbeat
  · rintro ⟨publisher, hauthority⟩
    rcases checkAuthority_ok hauthority with ⟨hnone, -⟩ | ⟨found, rfl, -⟩
    · cases hnone
    · simp [heartbeat, hauthority, accept, makeResult]

theorem getD_next_eq_self_iff {tag : GenerationTag} (generation : Generation tag) :
    generation.next.getD generation = generation ↔ generation.next = none := by
  cases hnext : generation.next with
  | none => simp
  | some next =>
    have hne : next ≠ generation := by
      rintro rfl
      exact Generation.lt_irrefl next (Generation.lt_of_next hnext)
    simp [hne]

/-- A completed exchange keeps both counts in step, except when the agent counts a
heartbeat. -/
theorem inStep_exchange (hsession : link.session.boot = some link.agent.boot) (hinStep : link.InStep)
    {now : Timestamp} {sent : AgentRequest}
    (hcompleted : link.Completed options (.exchange now sent)) :
    (link.step options (.exchange now sent)).InStep ↔ ¬ link.Overtakes (.exchange now sent) := by
  obtain ⟨⟨agent, taken⟩, hcompletion⟩ := hcompleted
  obtain ⟨after, result, hsubmit⟩ := @submit_request options link now sent
  obtain ⟨hboot, hcount⟩ := agent_of_completion hsession hsubmit hcompletion
  obtain ⟨record, hfound, hsame, -⟩ := hinStep
  have htransition := @perform_transition options.fabric link.fabric
    ⟨now, link.mutation sent⟩
  rw [perform_eq_submit, hsubmit] at htransition
  obtain ⟨later, hlater, hgeneration⟩ := generation_transition htransition hfound
  have hstep : link.step options (.exchange now sent) = ⟨agent, link.session, after⟩ := by
    obtain ⟨hfabric, hkept, -⟩ := serve_request hsession hsubmit
    simp only [step, hcompletion, hfabric, hkept]
  rw [hstep, inStep_iff (hboot ▸ hlater), hcount, hgeneration, hsame]
  cases sent with
  | failureDomain record | member record =>
    simp [mutation, Mutation.spendsPublication, Mutation.submittedBy, tokenFor, Overtakes]
  | heartbeat =>
    have haccepted : result.outcome = .accepted ↔
        ∃ publisher, link.fabric.checkAuthority link.heartbeatToken false = .ok publisher := by
      obtain ⟨-, hresult⟩ := Prod.ext_iff.mp hsubmit
      rw [← Option.some.inj hresult, heartbeat_accepted_iff]
    simp only [Overtakes, ← haccepted, hsame]
    by_cases h : result.outcome = .accepted
    · simp [h, mutation, Mutation.spendsPublication, getD_next_eq_self_iff]
    · simp [h]

theorem inStep_other (hinStep : link.InStep) {input : Input}
    (hother : link.Completed options (.other input)) :
    (link.step options (.other input)).InStep := by
  obtain ⟨record, hfound, hsame, -⟩ := hinStep
  have htransition := @perform_transition options.fabric link.fabric input
  obtain ⟨later, hlater, hgeneration⟩ := generation_transition htransition hfound
  rw [if_neg (fun hspent => hother hspent.2.1)] at hgeneration
  have hfollowed : (link.step options (.other input)).fabric.publishers[link.agent.boot]? =
    some later := hlater
  rw [inStep_iff hfollowed, hgeneration]
  exact hsame

/-! The handshake. -/

theorem exchange_ok {request : Request} {arrived : List Response} {reply : Reply}
    (h : Agent.exchange request arrived = .ok reply) :
    ∃ rest, arrived = ⟨request.correlation, reply⟩ :: rest := by
  unfold Agent.exchange at h
  split at h
  · cases h
  · rename_i response rest
    split at h
    · cases h
    · rename_i hcorrelation
      cases h
      exact ⟨rest, by rw [← not_not.mp hcorrelation]⟩

def registration (agent : Agent) (fabric : RackState) (rack : RackId) :
    RegisterPublisherRequest where
  rack := some rack
  worker := some agent.worker
  boot := some agent.boot
  coordinatorEpoch := fabric.generations.coordinatorEpoch
  label := if agent.label.isEmpty then none else some agent.label

theorem admit_registerRequest (agent : Agent) (fabric : RackState) (rack : RackId) :
    admitRequest fabric {} (agent.registerRequest rack) =
      .ok (.register agent.worker agent.boot (registration agent fabric rack)) := by
  simp [admitRequest, Agent.registerRequest, admitRegister, decoded, registration, bind, Except.bind,
    pure, Except.pure]

theorem registered_of_accepted {options : RackFabricOptions} {fabric : RackState}
    {now : Timestamp} {request : RegisterPublisherRequest}
    (haccepted : (registerPublisher options fabric now request).2.outcome = .accepted)
    {boot : AgentBootId} (hboot : request.boot = some boot) :
    ∃ record, (registerPublisher options fabric now request).1.publishers[boot]? = some record := by
  unfold registerPublisher at haccepted ⊢
  split at haccepted
  · rename_i refusal _
    exact absurd haccepted refusal.not_accepted
  · rename_i worker named hadmitted
    obtain rfl : named = boot :=
      Option.some.inj ((registered_not_fenced hadmitted).1.symm.trans hboot)
    split at haccepted
    · cases haccepted
    · exact ⟨_, ExtTreeMap.getElem?_insert_self⟩

theorem takeRegisterAck_ok {agent registered : Agent} {reply : Reply}
    (h : agent.takeRegisterAck reply = .ok registered) :
    ∃ ack, reply = .registerAck ack ∧ ack.accepted = true ∧ registered.boot = agent.boot ∧
      registered.publicationGeneration = ack.publicationGeneration := by
  cases reply with
  | registerAck ack =>
    simp only [Agent.takeRegisterAck] at h
    split at h
    · cases h
    · rename_i haccepted
      cases h
      exact ⟨ack, rfl, by simpa using haccepted, rfl, rfl⟩
  | error message =>
    simp only [Agent.takeRegisterAck] at h
    split at h <;> cases h
  | helloAck _ | result _ | snapshotResponse _ => cases h

/-- An accepted registration binds the session, and both parties count alike. -/
theorem inStep_registered {fabric : RackState} {now : Timestamp} {agent registered : Agent}
    {rack : RackId} {reply : Reply}
    (hreply : Agent.exchange (agent.registerRequest rack)
      (responses options fabric {} now (agent.registerRequest rack)) = .ok reply)
    (hregistered : agent.takeRegisterAck reply = .ok registered) :
    let reaction := serve options fabric {} now (agent.registerRequest rack)
    reaction.session.boot = some registered.boot ∧
      Link.InStep ⟨registered, reaction.session, reaction.fabric⟩ := by
  obtain ⟨ack, rfl, haccepted, hboot, hgeneration⟩ := takeRegisterAck_ok hregistered
  obtain ⟨rest, harrived⟩ := exchange_ok hreply
  simp only [responses, serve, admit_registerRequest, execute, List.flatMap_singleton]
    at harrived ⊢
  have hnamed : (registration agent fabric rack).boot = some agent.boot := rfl
  have hregister := fun haccepted =>
    @registered_of_accepted options.fabric fabric now _ haccepted agent.boot hnamed
  generalize registerPublisher options.fabric fabric now (registration agent fabric rack) = made
    at harrived hregister ⊢
  cases mem_send (harrived ▸ List.mem_cons_self)
  have hchecked : made.2.outcome.isAccepted = true := haccepted
  obtain ⟨record, hfound⟩ := hregister (of_decide_eq_true hchecked)
  rw [if_pos hchecked, hboot]
  refine ⟨rfl, (inStep_iff (hboot.symm ▸ hfound)).mpr ?_⟩
  simp [hgeneration, registerAck, hchecked, hfound]

theorem start_ok {fabric : RackState} {now : Timestamp} {agent : Agent}
    (h : start options fabric now agent = .ok link) :
    link.session.boot = some link.agent.boot ∧ link.InStep := by
  unfold start at h
  simp only [bind, Except.bind] at h
  split at h
  · cases h
  split at h
  · cases h
  split at h
  · cases h
  rename_i reply hreply
  split at h
  · cases h
  rename_i registered hregistered
  cases h
  exact inStep_registered hreply hregistered

theorem session_step (link : Link) (event : LinkEvent)
    (h : link.session.boot = some link.agent.boot) :
    (link.step options event).session.boot = some (link.step options event).agent.boot := by
  cases event with
  | other input => exact h
  | exchange now sent =>
    obtain ⟨after, result, hsubmit⟩ := @submit_request options link now sent
    have hkept := (serve_request h hsubmit).2.1
    simp only [step]
    split
    · rw [hkept]
      exact h
    · rename_i agent taken hcompletion
      simpa only [hkept, (agent_of_completion h hsubmit hcompletion).1] using h

/-- From a registration on, the agent stays in step through completed exchanges
exactly when the fabric grants none of its heartbeats. -/
theorem generations_agree_iff (options : CoordinatorOptions) (fabric : RackState)
    (now : Timestamp) (agent : Agent) (link : Link)
    (hstart : start options fabric now agent = .ok link) (events : List LinkEvent)
    (hcompleted : Execution.EachStep (step options) (Completed options) link events) :
    Execution.Always (step options) InStep link events ↔
      Execution.EachStep (step options) (fun link event => ¬ link.Overtakes event) link events := by
  obtain ⟨hsession, hinStep⟩ := start_ok hstart
  refine Execution.always_iff_eachStep_of (step options)
    (fun link => link.session.boot = some link.agent.boot) session_step ?_ hsession hinStep events
    hcompleted
  intro link event hsession hcompleted hinStep
  cases event with
  | exchange now sent => exact inStep_exchange hsession hinStep hcompleted
  | other input => exact iff_of_true (inStep_other hinStep hcompleted) not_false

end Link

namespace Scenario

def agent : Agent where
  worker := .ofText (str "worker")
  boot := bootA

def connect : Except Str Link :=
  Link.start {} (run [declareRack]) ⟨1000⟩ agent

end Scenario

namespace Link

theorem completed_of_isSome {options : CoordinatorOptions} {link : Link} {now : Timestamp}
    {sent : AgentRequest} (h : (link.completion options now sent).toOption.isSome = true) :
    Execution.EachStep (step options) (Completed options) link [.exchange now sent] := by
  rw [Execution.eachStep_cons]
  exact ⟨ok_of_isSome h, Execution.eachStep_nil _ _ _⟩

theorem publishing_agent_agrees :
    ∃ link, Scenario.connect = .ok link ∧
      let events := [LinkEvent.exchange ⟨1000⟩ (.member { key := Scenario.node "node-a" })]
      (Execution.Always (step {}) InStep link events ↔
        Execution.EachStep (step {}) (fun link event => ¬ link.Overtakes event) link events) := by
  obtain ⟨link, hconnect, hcompletes⟩ :=
    @ok_of_any _ _ Scenario.connect (fun link => (link.completion {} ⟨1000⟩
      (.member { key := Scenario.node "node-a" })).toOption.isSome) (by decide +kernel)
  exact ⟨link, hconnect, generations_agree_iff {} _ _ _ link hconnect _
    (completed_of_isSome hcompletes)⟩

def countsApart (link : Link) : Bool :=
  link.fabric.publishers[link.agent.boot]?.all fun record =>
    link.agent.publicationGeneration ≠ record.publicationGeneration

theorem not_inStep_of_countsApart {link : Link} (h : link.countsApart = true) : ¬ link.InStep := by
  rintro ⟨record, hfound, hsame, -⟩
  simp [countsApart, hfound, hsame] at h

/-- The agent counts the heartbeat, so its next publication is refused as ahead. -/
theorem heartbeat_outruns_coordinator :
    ∃ link, Scenario.connect = .ok link ∧
      Execution.EachStep (step {}) (Completed {}) link [.exchange ⟨1000⟩ .heartbeat] ∧
      ¬ Execution.Always (step {}) InStep link [.exchange ⟨1000⟩ .heartbeat] := by
  obtain ⟨link, hconnect, hcheck⟩ := @ok_of_any _ _ Scenario.connect
    (fun link => (link.completion {} ⟨1000⟩ .heartbeat).toOption.isSome &&
      (link.step {} (.exchange ⟨1000⟩ .heartbeat)).countsApart) (by decide +kernel)
  rw [Bool.and_eq_true] at hcheck
  refine ⟨link, hconnect, completed_of_isSome hcheck.1, fun halways => ?_⟩
  have hinStep : (link.step {} (.exchange ⟨1000⟩ .heartbeat)).InStep :=
    halways [.exchange ⟨1000⟩ .heartbeat] (List.prefix_refl _)
  exact not_inStep_of_countsApart hcheck.2 hinStep

end Link

end RackFabric
