import RackFabric.Library.Retention
import RackFabric.Properties.Correlation
import RackFabric.Properties.Startup

/-! What an agent reports, against what the coordinator has done for it. -/
namespace RackFabric
open RackState

namespace Conversation
variable {options : CoordinatorOptions} {conversation : Conversation} {link : Link}

/-! What the exchanges come to. -/

def completes (conversation : Conversation) :
    ConversationEvent → Option (Numbered Request × MutationResult)
  | .receive =>
      match conversation.waiting, conversation.responses with
      | some waiting, response :: _ =>
          match conversation.answer waiting.message response.message with
          | .ok (_, result) => some (waiting, result)
          | .error _ => none
      | _, _ => none
  | _ => none

def completions (options : CoordinatorOptions) (conversation : Conversation)
    (events : List ConversationEvent) : List (Numbered Request × MutationResult) :=
  Execution.outputs (step options) (fun conversation event => (conversation.completes event).toList)
    conversation events

def grants (options : CoordinatorOptions) (conversation : Conversation) :
    ConversationEvent → Option Nat
  | .serve now =>
      match conversation.requests with
      | request :: _ =>
          if (admitRequest conversation.fabric conversation.session
              request.message).toOption.any (·.grants options conversation.fabric now) then
            some request.number
          else none
      | [] => none
  | _ => none

def granted (options : CoordinatorOptions) (conversation : Conversation)
    (events : List ConversationEvent) : List Nat :=
  Execution.outputs (step options)
    (fun conversation event => (conversation.grants options event).toList) conversation events

def acceptedOf (type : MessageType) (completed : Numbered Request × MutationResult) : Bool :=
  completed.1.message.type = type && completed.2.outcome.isAccepted

/-! What an agent sends. -/

def OfAgent (type : MessageType) : Prop :=
  type = .publishFailureDomain ∨ type = .publishNode ∨ type = .heartbeat

theorem issued_send (type : MessageType) (message : Option type.Message) :
    (conversation.send type message).issued = conversation.issued ∨
      ∃ request : Request, request.type = type ∧
        (conversation.send type message).issued = conversation.issued ++ [request] := by
  unfold send
  split
  · exact Or.inl rfl
  · exact Or.inr ⟨_, rfl, rfl⟩

theorem issued_cases (options : CoordinatorOptions) (conversation : Conversation)
    (event : ConversationEvent) :
    (conversation.step options event).issued = conversation.issued ∨
      ∃ request : Request, OfAgent request.type ∧
        (conversation.step options event).issued = conversation.issued ++ [request] := by
  have hsend : ∀ (type : MessageType) (message : Option type.Message), OfAgent type →
      (conversation.send type message).issued = conversation.issued ∨
        ∃ request : Request, OfAgent request.type ∧
          (conversation.send type message).issued = conversation.issued ++ [request] := by
    intro type message htype
    rcases @issued_send conversation type message with hsame | ⟨request, rfl, hissued⟩
    · exact Or.inl hsame
    · exact Or.inr ⟨request, htype, hissued⟩
  cases event with
  | publishDomain record => exact hsend _ _ (Or.inl rfl)
  | publishMember record => exact hsend _ _ (Or.inr (Or.inl rfl))
  | beat =>
    simp only [step, sendBeat]
    split
    · exact Or.inl rfl
    · exact hsend .heartbeat _ (Or.inr (Or.inr rfl))
  | serve now =>
    simp only [step, serve]
    split <;> exact Or.inl rfl
  | receive =>
    left
    simp only [step, receive]
    split
    · split
      · unfold abandon
        split <;> rfl
      · unfold record
        split <;> rfl
    · rfl
  | fail error =>
    left
    simp only [step, fail]
    split
    · rfl
    · unfold abandon
      split <;> rfl
  | prepare => exact Or.inl rfl
  | loseRequest => exact Or.inl rfl
  | loseResponse => exact Or.inl rfl
  | other input => exact Or.inl rfl

theorem ofAgent_run (events : List ConversationEvent) :
    ∀ request ∈ (after options link events).issued, OfAgent request.type := by
  induction events using List.reverseRecOn with
  | nil => simp [after, start]
  | append_singleton events event ih =>
    rw [after_concat]
    rcases issued_cases options (after options link events) event with hsame |
      ⟨request, htype, hissued⟩
    · rw [hsame]
      exact ih
    · rw [hissued]
      intro other hother
      rcases List.mem_append.mp hother with hearlier | hnew
      · exact ih other hearlier
      · rw [List.mem_singleton.mp hnew]
        exact htype

theorem ofAgent_waiting {events : List ConversationEvent} {waiting : Numbered Request}
    (h : (after options link events).waiting = some waiting) : OfAgent waiting.message.type :=
  ofAgent_run events _ (List.mem_of_getElem? ((counted_run options link events).waiting _ h).1)

/-! What the agent keeps. -/

/-- The report tells the acceptances of each type, and the last results of publications. -/
structure Tallied (retained : Nat) (completed : List (Numbered Request × MutationResult))
    (report : AgentReport) : Prop where
  members : report.membersPublished = completed.countP (acceptedOf .publishNode)
  failureDomains :
    report.failureDomainsPublished = completed.countP (acceptedOf .publishFailureDomain)
  heartbeats : report.heartbeatsSent = completed.countP (acceptedOf .heartbeat)
  results : report.results = Retention.recent retained
    ((completed.filter fun entry => entry.1.message.type ≠ .heartbeat).map Prod.snd)

variable {retained : Nat} {completed : List (Numbered Request × MutationResult)}
  {waiting : Numbered Request} {result : MutationResult}

theorem Tallied.of_kept {report later : AgentReport} (h : Tallied retained completed report)
    (hmembers : later.membersPublished = report.membersPublished)
    (hdomains : later.failureDomainsPublished = report.failureDomainsPublished)
    (hbeats : later.heartbeatsSent = report.heartbeatsSent)
    (hresults : later.results = report.results) : Tallied retained completed later :=
  ⟨hmembers.trans h.members, hdomains.trans h.failureDomains, hbeats.trans h.heartbeats,
    hresults.trans h.results⟩

theorem Tallied.record (h : Tallied conversation.maxRetainedResults completed conversation.report)
    (htype : OfAgent waiting.message.type) (agent : Agent) :
    Tallied conversation.maxRetainedResults (completed ++ [(waiting, result)])
      (conversation.record waiting.message.type agent result).report := by
  have hresults := Retention.recent_recent_concat conversation.maxRetainedResults
    ((completed.filter fun entry => entry.1.message.type ≠ .heartbeat).map Prod.snd) result
  rw [← h.results] at hresults
  unfold Retention.recent at hresults
  rcases htype with htype | htype | htype
  · simp only [Conversation.record, htype, AgentReport.ofDomain, AgentReport.remember,
      AgentReport.setError]
    constructor <;> split <;>
      simp_all [List.countP_append, acceptedOf, h.members, h.failureDomains, h.heartbeats,
        Retention.recent]
  · simp only [Conversation.record, htype, AgentReport.ofMember, AgentReport.remember,
      AgentReport.setError]
    constructor <;> split <;>
      simp_all [List.countP_append, acceptedOf, h.members, h.failureDomains, h.heartbeats,
        Retention.recent]
  · simp only [Conversation.record, htype, AgentReport.ofHeartbeat, AgentReport.setError]
    constructor <;> split <;>
      simp_all [List.countP_append, acceptedOf, h.members, h.failureDomains, h.heartbeats,
        h.results, Retention.recent]

theorem maxRetainedResults_step (conversation : Conversation) (event : ConversationEvent) :
    (conversation.step options event).maxRetainedResults = conversation.maxRetainedResults := by
  have hsend : ∀ (type : MessageType) (message : Option type.Message),
      (conversation.send type message).maxRetainedResults = conversation.maxRetainedResults := by
    intro type message
    unfold send
    split <;> rfl
  cases event with
  | publishDomain record => exact hsend _ _
  | publishMember record => exact hsend _ _
  | beat =>
    simp only [step, sendBeat]
    split
    · rfl
    · exact hsend .heartbeat _
  | serve now =>
    simp only [step, serve]
    split <;> rfl
  | receive =>
    simp only [step, receive]
    split
    · split
      · unfold abandon
        split <;> rfl
      · unfold Conversation.record
        split <;> rfl
    · rfl
  | fail error =>
    simp only [step, fail]
    split
    · rfl
    · unfold abandon
      split <;> rfl
  | prepare => rfl
  | loseRequest => rfl
  | loseResponse => rfl
  | other input => rfl

/-- An exchange is completed by the answer that reaches it. -/
theorem completes_eq_some (options : CoordinatorOptions) {event : ConversationEvent}
    (h : conversation.completes event = some (waiting, result)) :
    event = .receive ∧ ∃ response rest agent, conversation.waiting = some waiting ∧
      conversation.responses = response :: rest ∧
        conversation.answer waiting.message response.message = .ok (agent, result) ∧
          conversation.step options event = { conversation with responses := rest }.record
            waiting.message.type agent result := by
  cases event with
  | receive =>
    cases hwaiting : conversation.waiting with
    | none => simp [completes, hwaiting] at h
    | some asked =>
      cases hresponses : conversation.responses with
      | nil => simp [completes, hwaiting, hresponses] at h
      | cons response rest =>
        cases hanswer : conversation.answer asked.message response.message with
        | error error => simp [completes, hwaiting, hresponses, hanswer] at h
        | ok taken =>
          obtain ⟨agent, found⟩ := taken
          simp only [completes, hwaiting, hresponses, hanswer, Option.some.injEq,
            Prod.mk.injEq] at h
          obtain ⟨rfl, rfl⟩ := h
          refine ⟨rfl, response, rest, agent, rfl, rfl, hanswer, ?_⟩
          simp only [step, receive, hwaiting, hresponses, hanswer]
  | _ => cases h

theorem kept_of_completes_none (options : CoordinatorOptions) {event : ConversationEvent}
    (h : conversation.completes event = none) :
    (conversation.step options event).kept = conversation.kept := by
  rcases kept_step conversation event with hkept | ⟨rfl, waiting, response, agent, result, hwaiting,
    hhead, hanswer⟩
  · exact hkept
  · obtain ⟨rest, hresponses⟩ := List.head?_eq_some_iff.mp hhead
    simp [completes, hwaiting, hresponses, hanswer] at h

theorem tallied_step {event : ConversationEvent}
    (h : Tallied conversation.maxRetainedResults completed conversation.report)
    (htype : ∀ waiting, conversation.waiting = some waiting → OfAgent waiting.message.type) :
    Tallied conversation.maxRetainedResults
      (completed ++ (conversation.completes event).toList)
      (conversation.step options event).report := by
  cases hcompletes : conversation.completes event with
  | none =>
    have hkept := kept_of_completes_none options hcompletes
    simp only [kept, Prod.mk.injEq] at hkept
    rw [Option.toList_none, List.append_nil]
    exact h.of_kept hkept.2.1 hkept.2.2.1 hkept.2.2.2.1 hkept.1
  | some entry =>
    obtain ⟨waiting, result⟩ := entry
    obtain ⟨rfl, response, rest, agent, hwaiting, -, -, hstep⟩ :=
      completes_eq_some options hcompletes
    rw [hstep]
    have hrecord := @Tallied.record { conversation with responses := rest } completed waiting
      result h (htype waiting hwaiting) agent
    exact hrecord

theorem tallied_run (events : List ConversationEvent) :
    Tallied (start link).maxRetainedResults (completions options (start link) events)
        (after options link events).report ∧
      (after options link events).maxRetainedResults = (start link).maxRetainedResults := by
  induction events using List.reverseRecOn with
  | nil => exact ⟨⟨rfl, rfl, rfl, List.drop_nil.symm⟩, rfl⟩
  | append_singleton events event ih =>
    obtain ⟨htallied, hretained⟩ := ih
    rw [after_concat, maxRetainedResults_step, completions, Execution.outputs_concat]
    refine ⟨?_, hretained⟩
    rw [← hretained] at htallied ⊢
    exact tallied_step htallied fun waiting hwaiting => ofAgent_waiting hwaiting

/-! No exchange is completed twice. -/

/-- The numbers of the exchanges so far are below that of the one that goes on. -/
structure Past (numbers : List Nat) (conversation : Conversation) : Prop where
  issued : ∀ number ∈ numbers, number < conversation.issued.length
  waiting : ∀ number ∈ numbers, ∀ waiting, conversation.waiting = some waiting →
    number < waiting.number
  once : numbers.Nodup

theorem Past.moves {numbers : List Nat} {event : ConversationEvent} {after : Conversation}
    (h : Past numbers conversation) (hmoves : Moves options conversation event after) :
    Past numbers after := by
  cases hmoves with
  | quiet hcorrelation hissued hwaiting hrequests hresponses =>
    exact ⟨hissued ▸ h.issued, fun number hnumber waiting hsome =>
      h.waiting number hnumber waiting (hwaiting waiting hsome), h.once⟩
  | served now request hcorrelation hissued hwaiting hrequests hresponses =>
    exact ⟨hissued ▸ h.issued, hwaiting ▸ h.waiting, h.once⟩
  | sent request hcorrelation hrequest hissued hwaiting hrequests hresponses =>
    refine ⟨fun number hnumber => ?_, fun number hnumber waiting hsome => ?_, h.once⟩
    · rw [hissued, List.length_append]
      exact Nat.lt_add_right _ (h.issued number hnumber)
    · obtain rfl := Option.some.inj (hwaiting.symm.trans hsome)
      exact h.issued number hnumber

theorem waiting_record (type : MessageType) (agent : Agent) :
    (conversation.record type agent result).waiting = none := by
  unfold Conversation.record
  split <;> rfl

theorem past_run (events : List ConversationEvent) :
    Past ((completions options (start link) events).map fun entry => entry.1.number)
      (after options link events) := by
  induction events using List.reverseRecOn with
  | nil =>
    exact ⟨by simp [completions, Execution.outputs], by simp [completions, Execution.outputs],
      List.nodup_nil⟩
  | append_singleton events event ih =>
    rw [after_concat, completions, Execution.outputs_concat, List.map_append]
    have hmoved := ih.moves (@moves_step options (after options link events) event)
    change Past (_ ++ ((after options link events).completes event).toList.map _) _
    cases hcompletes : (after options link events).completes event with
    | none =>
      rw [Option.toList_none, List.map_nil, List.append_nil]
      exact hmoved
    | some entry =>
      obtain ⟨waiting, result⟩ := entry
      obtain ⟨rfl, response, rest, agent, hwaiting, -, -, hstep⟩ :=
        completes_eq_some options hcompletes
      have hissued := (List.getElem?_eq_some_iff.mp
        ((counted_run options link events).waiting waiting hwaiting).1).1
      have hgrown := (@issued_step options (after options link events) .receive).length_le
      refine ⟨fun number hnumber => ?_, fun number hnumber other hother => ?_, ?_⟩
      · rcases List.mem_append.mp hnumber with hearlier | hnow
        · exact hmoved.issued number hearlier
        · rw [List.mem_singleton.mp hnow]
          exact Nat.lt_of_lt_of_le hissued hgrown
      · rw [hstep, waiting_record] at hother
        cases hother
      · rw [List.nodup_append]
        refine ⟨ih.once, List.nodup_singleton _, fun number hearlier other hnow => ?_⟩
        rw [List.mem_singleton.mp hnow]
        exact Nat.ne_of_lt (ih.waiting number hearlier waiting hwaiting)

/-! No acceptance is reported that the fabric has not given. -/

theorem admitMutation_ofAgent {fabric : RackState} {boot : AgentBootId} {request : Request}
    {command : Command} (htype : OfAgent request.type)
    (h : admitMutation fabric boot request = .ok command) :
    (∃ mutation, command = .mutation mutation) ∨ ∃ beat, command = .heartbeat beat := by
  obtain ⟨type, isResponse, correlation, message⟩ := request
  rcases htype with rfl | rfl | rfl
  · obtain ⟨presented, -, hcommand⟩ := bind_eq_ok.mp h
    exact Or.inl ⟨_, (Except.ok.inj hcommand).symm⟩
  · obtain ⟨presented, -, hcommand⟩ := bind_eq_ok.mp h
    exact Or.inl ⟨_, (Except.ok.inj hcommand).symm⟩
  · obtain ⟨presented, -, hcommand⟩ := bind_eq_ok.mp h
    exact Or.inr ⟨_, (Except.ok.inj hcommand).symm⟩

theorem admitRequest_ofAgent {fabric : RackState} {session : Session} {request : Request}
    {command : Command} (htype : OfAgent request.type)
    (h : admitRequest fabric session request = .ok command) :
    (∃ mutation, command = .mutation mutation) ∨ ∃ beat, command = .heartbeat beat := by
  have hmutation : request.type.isMutation = true := by
    rcases htype with htype | htype | htype <;> rw [htype] <;> rfl
  have hclient : request.isResponse = false := by
    unfold admitRequest at h
    split at h
    · cases h
    · rename_i hclient
      exact Bool.eq_false_iff.mpr hclient
  cases hboot : session.boot with
  | none =>
    unfold admitRequest at h
    rw [if_neg (by simp [hclient])] at h
    split at h
    · cases hmutation
    · cases hmutation
    · cases hmutation
    · simp [hmutation, hboot, refuseRequest] at h
  | some boot =>
    rw [admit_of_registered hboot hclient hmutation] at h
    exact admitMutation_ofAgent htype h

theorem outcome_of_taken {agent later : Agent} {reply : Reply}
    (h : agent.takeResult reply = .ok (later, result)) :
    ∃ message, reply = .result message ∧ result.outcome = message.outcome := by
  unfold Agent.takeResult at h
  split at h
  · split at h <;> cases h
  · rename_i message
    split at h
    · cases h
      exact ⟨message, rfl, rfl⟩
    · cases h
  · cases h

/-- An acceptance that answers a request of the agent comes of the fabric. -/
theorem granted_of_answer {fabric : RackState} {session : Session} {now : Timestamp}
    {request : Request} {response : Response} {message : ResultMessage}
    (htype : OfAgent request.type)
    (hanswer : response ∈ RackFabric.responses options fabric session now request)
    (hreply : response.reply = .result message) (haccepted : message.outcome.isAccepted = true) :
    (admitRequest fabric session request).toOption.any (·.grants options fabric now) = true := by
  unfold RackFabric.responses RackFabric.serve at hanswer
  cases hcommand : admitRequest fabric session request with
  | error refusal =>
    simp only [hcommand, List.flatMap_singleton] at hanswer
    rw [mem_send hanswer] at hreply
    cases hreply
  | ok command =>
    simp only [hcommand] at hanswer
    rw [Except.toOption, Option.any_some]
    rcases admitRequest_ofAgent htype hcommand with ⟨mutation, rfl⟩ | ⟨beat, rfl⟩
    · simp only [execute] at hanswer
      simp only [Command.grants, Command.accepts]
      cases hsubmit : (fabric.submit options.fabric now mutation).2 with
      | none =>
        rw [hsubmit] at hanswer
        cases hanswer
      | some submitted =>
        simp only [hsubmit, Option.map_some, Option.getD_some,
          flatMap_send_finishMutation] at hanswer
        rw [mem_send hanswer] at hreply
        cases hreply
        exact haccepted
    · simp only [execute, replyResult, List.flatMap_singleton] at hanswer
      rw [mem_send hanswer] at hreply
      cases hreply
      exact haccepted

theorem mem_granted {events : List ConversationEvent} {request : Numbered Request}
    {response : Response} {message : ResultMessage} (htype : OfAgent request.message.type)
    (hanswered : Answered options link events request response)
    (hreply : response.reply = .result message) (haccepted : message.outcome.isAccepted = true) :
    request.number ∈ granted options (start link) events := by
  obtain ⟨before, now, hbefore, hhead, hanswer⟩ := hanswered
  refine (Execution.mem_outputs_iff (step options) _).mpr ⟨before, .serve now, hbefore, ?_⟩
  have hgranted := granted_of_answer htype hanswer hreply haccepted
  obtain ⟨rest, hrequests⟩ := List.head?_eq_some_iff.mp hhead
  change request.number ∈ ((after options link before).grants options (.serve now)).toList
  simp [grants, hrequests, hgranted]

/-- The answer that completes an exchange in time is that to its request. -/
theorem answered_of_completed {before : List ConversationEvent} {response : Numbered Response}
    {agent : Agent} (hwaiting : (after options link before).waiting = some waiting)
    (hresponse : response ∈ (after options link before).responses)
    (hnear : waiting.number < response.number + 2 ^ 64)
    (hanswer : (after options link before).answer waiting.message response.message =
      .ok (agent, result)) : Answered options link before waiting response.message := by
  have hcounted := counted_run options link before
  obtain ⟨hissued, hlast⟩ := hcounted.waiting waiting hwaiting
  obtain ⟨request, earlier, now, hearlier, hhead, hserved⟩ := answered_run hresponse
  have hasked := getElem?_of_prefix
    (@issued_run options link _ _ ((List.prefix_append _ _).trans hearlier))
    ((counted_run options link earlier).requests _ (List.mem_of_mem_head? hhead))
  by_cases hsame : response.number = waiting.number
  · rw [hsame] at hasked hhead
    obtain rfl := Option.some.inj (hissued.symm.trans hasked)
    exact ⟨earlier, now, hearlier, hhead, hserved⟩
  · have hbound : response.number < (after options link before).issued.length :=
      (List.getElem?_eq_some_iff.mp hasked).1
    have hbelow : response.number < waiting.number := by omega
    have hcorrelation := (answer_ok hanswer).1
    rw [correlation_of_responses hserved, hcounted.issued hasked, hcounted.issued hissued]
      at hcorrelation
    exact absurd hcorrelation (correlation_ne hbelow hnear)

theorem countP_acceptedOf_le (completed : List (Numbered Request × MutationResult)) :
    completed.countP (acceptedOf .publishNode) +
        completed.countP (acceptedOf .publishFailureDomain) +
        completed.countP (acceptedOf .heartbeat) ≤
      (completed.filter fun entry => entry.2.outcome.isAccepted).length := by
  induction completed with
  | nil => exact Nat.le_refl 0
  | cons entry completed ih =>
    have hentry : (if acceptedOf .publishNode entry then 1 else 0) +
        (if acceptedOf .publishFailureDomain entry then 1 else 0) +
        (if acceptedOf .heartbeat entry then 1 else 0) ≤
          if entry.2.outcome.isAccepted then 1 else 0 := by
      unfold acceptedOf
      cases entry.2.outcome.isAccepted with
      | false => simp
      | true => cases entry.1.message.type <;> decide
    rw [List.countP_cons, List.countP_cons, List.countP_cons, List.filter_cons]
    cases haccepted : entry.2.outcome.isAccepted with
    | false =>
      simp only [haccepted, Bool.false_eq_true, if_false] at hentry ⊢
      omega
    | true =>
      simp only [haccepted, if_true, List.length_cons] at hentry ⊢
      omega

/-- In every conversation, with answers that are late or lost, the report counts the completed
exchanges that were accepted and keeps the last results of publications; and what it counts are
different requests that the fabric has accepted. -/
theorem report_accounts (options : CoordinatorOptions) (link : Link)
    (events : List ConversationEvent) (hintime : InTime options link events) :
    let report := (after options link events).report
    let completed := completions options (start link) events
    let counted := (completed.filter fun entry => entry.2.outcome.isAccepted).map (·.1.number)
    Tallied (start link).maxRetainedResults completed report ∧
      counted.Nodup ∧ counted ⊆ granted options (start link) events ∧
      report.membersPublished + report.failureDomainsPublished + report.heartbeatsSent ≤
        (granted options (start link) events).length := by
  intro report completed counted
  have htallied := (@tallied_run options link events).1
  have hnodup : counted.Nodup :=
    (@past_run options link events).once.sublist (List.filter_sublist.map _)
  have hgranted : counted ⊆ granted options (start link) events := by
    intro number hnumber
    obtain ⟨⟨waiting, result⟩, hentry, rfl⟩ := List.mem_map.mp hnumber
    obtain ⟨hcompleted, haccepted⟩ := List.mem_filter.mp hentry
    obtain ⟨before, event, hbefore, hcompletes⟩ :=
      (Execution.mem_outputs_iff (step options) _).mp hcompleted
    obtain ⟨rfl, response, rest, agent, hwaiting, hresponses, hanswer, -⟩ :=
      completes_eq_some options (Option.mem_toList.mp hcompletes)
    have hhead : (after options link before).responses.head? = some response :=
      List.head?_eq_some_iff.mpr ⟨rest, hresponses⟩
    have hnear := hintime before hbefore waiting response hwaiting hhead
    have hanswered := answered_of_completed hwaiting (hresponses ▸ List.mem_cons_self) hnear hanswer
    obtain ⟨message, hreply, houtcome⟩ := outcome_of_taken (answer_ok hanswer).2
    rw [houtcome] at haccepted
    obtain ⟨earlier, now, hearlier, hserved⟩ := hanswered
    exact mem_granted (ofAgent_waiting hwaiting)
      ⟨earlier, now, hearlier.trans ((List.prefix_append _ _).trans hbefore), hserved⟩ hreply
      haccepted
  refine ⟨htallied, hnodup, hgranted, ?_⟩
  rw [htallied.members, htallied.failureDomains, htallied.heartbeats]
  have hcounted : counted.length =
      (completed.filter fun entry => entry.2.outcome.isAccepted).length := List.length_map _
  exact Nat.le_trans (hcounted ▸ countP_acceptedOf_le completed)
    (hnodup.subperm hgranted).length_le

end Conversation

namespace Scenario
open Conversation

/-- A publication that is answered, and another whose answer is late. -/
def tallied : List ConversationEvent :=
  [.publishDomain { id := .ofText (str "row-1") }, .serve ⟨1000⟩, .receive,
    .publishDomain { id := .ofText (str "row-2") }, .fail (str "receive timed out"),
    .serve ⟨1001⟩]

theorem tallied_accounts :
    ∃ link, connect = .ok link ∧
      let report := (after {} link tallied).report
      let completed := completions {} (start link) tallied
      let counted := (completed.filter fun entry => entry.2.outcome.isAccepted).map (·.1.number)
      Tallied (start link).maxRetainedResults completed report ∧
        counted.Nodup ∧ counted ⊆ granted {} (start link) tallied ∧
        report.membersPublished + report.failureDomainsPublished + report.heartbeatsSent ≤
          (granted {} (start link) tallied).length := by
  obtain ⟨link, hconnect, -⟩ := @ok_of_any _ _ connect (fun _ => true) (by decide +kernel)
  exact ⟨link, hconnect, report_accounts {} link tallied (inTime_of_length (by decide))⟩

end Scenario

end RackFabric
