import RackFabric.Model.Conversation
import RackFabric.Properties.Agreement

/-! A result is the answer to the request of its own exchange, because the agent
numbers its requests and the coordinator repeats the number. -/
namespace RackFabric
open RackState

theorem getElem?_of_prefix {α : Type} {left right : List α} {position : Nat} {value : α}
    (h : left <+: right) (hfound : left[position]? = some value) :
    right[position]? = some value := by
  obtain ⟨rest, rfl⟩ := h
  rw [List.getElem?_append_left (List.getElem?_eq_some_iff.mp hfound).1, hfound]

/-- Every response to a request carries the correlation of the request. -/
theorem correlation_of_responses {options : CoordinatorOptions} {fabric : RackState}
    {session : Session} {now : Timestamp} {request : Request} {response : Response}
    (h : response ∈ responses options fabric session now request) :
    response.correlation = request.correlation := by
  obtain ⟨action, -, hsent⟩ := List.mem_flatMap.mp h
  cases action with
  | persist => cases hsent
  | reply message =>
    simp only [send] at hsent
    split at hsent
    · rw [List.mem_singleton.mp hsent]
    · cases hsent

theorem correlation_takeResult {agent later : Agent} {reply : Reply} {result : MutationResult}
    (h : agent.takeResult reply = .ok (later, result)) : later.correlation = agent.correlation := by
  unfold Agent.takeResult at h
  split at h
  · split at h <;> cases h
  · split at h
    · cases h
      split <;> rfl
    · cases h
  · cases h

namespace Conversation
variable {options : CoordinatorOptions} {conversation : Conversation} {link : Link}

theorem answer_ok {request : Request} {response : Response} {agent : Agent}
    {result : MutationResult} (h : conversation.answer request response = .ok (agent, result)) :
    response.correlation = request.correlation ∧
      conversation.agent.takeResult response.reply = .ok (agent, result) := by
  obtain ⟨reply, hreply, htaken⟩ := bind_eq_ok.mp h
  obtain ⟨rest, harrived⟩ := Link.exchange_ok hreply
  obtain rfl := (List.cons.inj harrived).1
  exact ⟨rfl, htaken⟩

/-- A response with another correlation is an error. -/
theorem answer_mismatch {request : Request} {response : Response}
    (h : response.correlation ≠ request.correlation) :
    conversation.answer request response =
      .error (str "the coordinator response correlation does not match the request") := by
  simp [answer, Agent.exchange, h, bind, Except.bind]

/-- What a step does to the messages: it may take some away, send one request, or
answer one. -/
inductive Moves (options : CoordinatorOptions) (before : Conversation) :
    ConversationEvent → Conversation → Prop where
  | quiet {event : ConversationEvent} {after : Conversation}
      (hcorrelation : after.agent.correlation = before.agent.correlation)
      (hissued : after.issued = before.issued)
      (hwaiting : ∀ waiting, after.waiting = some waiting → before.waiting = some waiting)
      (hrequests : after.requests ⊆ before.requests)
      (hresponses : after.responses ⊆ before.responses) : Moves options before event after
  | sent {event : ConversationEvent} {after : Conversation} (request : Request)
      (hcorrelation : after.agent.correlation = before.agent.correlation + 1)
      (hrequest : request.correlation = after.agent.correlation)
      (hissued : after.issued = before.issued ++ [request])
      (hwaiting : after.waiting = some ⟨before.issued.length, request⟩)
      (hrequests : after.requests = before.requests ++ [⟨before.issued.length, request⟩])
      (hresponses : after.responses = before.responses) : Moves options before event after
  | served {after : Conversation} (now : Timestamp) (request : Numbered Request)
      (hcorrelation : after.agent.correlation = before.agent.correlation)
      (hissued : after.issued = before.issued)
      (hwaiting : after.waiting = before.waiting)
      (hrequests : before.requests = request :: after.requests)
      (hresponses : after.responses = before.responses ++
        (RackFabric.responses options before.fabric before.session now request.message).map
          (⟨request.number, ·⟩)) : Moves options before (.serve now) after

variable {event : ConversationEvent}

theorem Moves.refl : Moves options conversation event conversation :=
  .quiet rfl rfl (fun _ h => h) (List.Subset.refl _) (List.Subset.refl _)

theorem moves_send (type : MessageType) (message : Option type.Message) :
    Moves options conversation event (conversation.send type message) := by
  unfold send
  split
  · exact .refl
  · exact .sent { type := type, correlation := conversation.agent.nextCorrelation.correlation
                  message := message } rfl rfl rfl rfl rfl rfl

/-- An exchange that ends leaves the messages that are in flight. -/
theorem moves_abandon {before : Conversation} (type : MessageType) (error : Str)
    (hcorrelation : conversation.agent.correlation = before.agent.correlation)
    (hissued : conversation.issued = before.issued)
    (hrequests : conversation.requests ⊆ before.requests)
    (hresponses : conversation.responses ⊆ before.responses) :
    Moves options before event (conversation.abandon type error) := by
  unfold abandon
  split <;> exact .quiet hcorrelation hissued (by simp) hrequests hresponses

theorem moves_record {before : Conversation} (type : MessageType) {agent : Agent}
    (result : MutationResult) (hcorrelation : agent.correlation = before.agent.correlation)
    (hissued : conversation.issued = before.issued)
    (hrequests : conversation.requests ⊆ before.requests)
    (hresponses : conversation.responses ⊆ before.responses) :
    Moves options before event (conversation.record type agent result) := by
  unfold record
  split <;> exact .quiet hcorrelation hissued (by simp) hrequests hresponses

theorem moves_receive : Moves options conversation event conversation.receive := by
  unfold receive
  split
  · rename_i waiting response rest _ hresponses
    have hrest : rest ⊆ conversation.responses := by
      rw [hresponses]
      exact List.subset_cons_self _ _
    split
    · exact moves_abandon _ _ rfl rfl (List.Subset.refl _) hrest
    · rename_i agent result hanswer
      exact moves_record _ _ (correlation_takeResult (answer_ok hanswer).2) rfl
        (List.Subset.refl _) hrest
  · exact .refl

theorem moves_step (conversation : Conversation) (event : ConversationEvent) :
    Moves options conversation event (conversation.step options event) := by
  cases event with
  | publishDomain record => exact moves_send _ _
  | publishMember record => exact moves_send _ _
  | prepare => exact .quiet rfl rfl (fun _ h => h) (List.Subset.refl _) (List.Subset.refl _)
  | beat =>
    simp only [step, sendBeat]
    split
    · exact .refl
    · rename_i message _
      cases @moves_send options conversation .beat .heartbeat (some message) with
      | quiet hcorrelation hissued hwaiting hrequests hresponses =>
        exact .quiet hcorrelation hissued hwaiting hrequests hresponses
      | sent request hcorrelation hrequest hissued hwaiting hrequests hresponses =>
        exact .sent request hcorrelation hrequest hissued hwaiting hrequests hresponses
  | serve now =>
    simp only [step, serve]
    split
    · exact .refl
    · rename_i request rest hrequests
      exact .served now request rfl rfl rfl hrequests rfl
  | receive => exact moves_receive
  | fail error =>
    simp only [step, fail]
    split
    · exact .refl
    · exact moves_abandon _ _ rfl rfl (List.Subset.refl _) (List.Subset.refl _)
  | loseRequest =>
    exact .quiet rfl rfl (fun _ h => h) (List.tail_subset _) (List.Subset.refl _)
  | loseResponse =>
    exact .quiet rfl rfl (fun _ h => h) (List.Subset.refl _) (List.tail_subset _)
  | other input => exact .quiet rfl rfl (fun _ h => h) (List.Subset.refl _) (List.Subset.refl _)

/-! The requests are numbered, on both sides of the wire. -/

/-- The correlation of a request tells its number up to the width of the counter. -/
structure Counted (first : UInt64) (conversation : Conversation) : Prop where
  next : conversation.agent.correlation = first + UInt64.ofNat conversation.issued.length
  issued : ∀ {number : Nat} {request : Request}, conversation.issued[number]? = some request →
    request.correlation = first + UInt64.ofNat (number + 1)
  requests : ∀ request ∈ conversation.requests,
    conversation.issued[request.number]? = some request.message
  waiting : ∀ waiting, conversation.waiting = some waiting →
    conversation.issued[waiting.number]? = some waiting.message ∧
      waiting.number + 1 = conversation.issued.length

theorem ofNat_succ (number : Nat) :
    UInt64.ofNat (number + 1) = UInt64.ofNat number + 1 := by
  simp [UInt64.ofNat_add]

theorem Counted.moves {first : UInt64} {after : Conversation} (h : Counted first conversation)
    (hmoves : Moves options conversation event after) : Counted first after := by
  cases hmoves with
  | quiet hcorrelation hissued hwaiting hrequests hresponses =>
    exact ⟨by rw [hcorrelation, hissued, h.next], hissued ▸ h.issued,
      fun request hmem => hissued ▸ h.requests request (hrequests hmem),
      fun waiting hsome => hissued ▸ h.waiting waiting (hwaiting waiting hsome)⟩
  | served now request hcorrelation hissued hwaiting hrequests hresponses =>
    exact ⟨by rw [hcorrelation, hissued, h.next], hissued ▸ h.issued,
      fun later hmem => hissued ▸ h.requests later (hrequests ▸ List.mem_cons_of_mem _ hmem),
      fun waiting hsome => hissued ▸ h.waiting waiting (hwaiting ▸ hsome)⟩
  | sent request hcorrelation hrequest hissued hwaiting hrequests hresponses =>
    have hlength : after.issued.length = conversation.issued.length + 1 := by simp [hissued]
    have hnext : after.agent.correlation = first + UInt64.ofNat after.issued.length := by
      rw [hcorrelation, h.next, hlength, ofNat_succ, UInt64.add_assoc]
    have hlast : after.issued[conversation.issued.length]? = some request := by simp [hissued]
    have hgrown : conversation.issued <+: after.issued := ⟨[request], hissued.symm⟩
    refine ⟨hnext, fun {number earlier} hfound => ?_, fun earlier hmem => ?_,
      fun waiting hsome => ?_⟩
    · rcases Nat.lt_or_ge number conversation.issued.length with hlt | hge
      · rw [hissued, List.getElem?_append_left hlt] at hfound
        exact h.issued hfound
      · have hbound := (List.getElem?_eq_some_iff.mp hfound).1
        obtain rfl : number = conversation.issued.length := by omega
        obtain rfl := Option.some.inj (hlast.symm.trans hfound)
        rw [hrequest, hnext, hlength]
    · rw [hrequests, List.mem_append, List.mem_singleton] at hmem
      rcases hmem with hmem | rfl
      · exact getElem?_of_prefix hgrown (h.requests earlier hmem)
      · exact hlast
    · obtain rfl := Option.some.inj (hwaiting.symm.trans hsome)
      exact ⟨hlast, hlength.symm⟩

/-! Whole runs. -/

def after (options : CoordinatorOptions) (link : Link) (events : List ConversationEvent) :
    Conversation :=
  Execution.run (step options) (start link) events

theorem after_concat (events : List ConversationEvent) (event : ConversationEvent) :
    after options link (events ++ [event]) = (after options link events).step options event :=
  Execution.run_concat _ _ _ _

theorem counted_run (options : CoordinatorOptions) (link : Link) (events : List ConversationEvent) :
    Counted link.agent.correlation (after options link events) := by
  refine Execution.invariant (step options)
    (fun conversation event h => h.moves (@moves_step options conversation event)) ?_ events
  exact ⟨by simp [start], by simp [start], by simp [start], by simp [start]⟩

theorem issued_step (conversation : Conversation) (event : ConversationEvent) :
    conversation.issued <+: (conversation.step options event).issued := by
  cases @moves_step options conversation event with
  | quiet _ hissued => rw [hissued]
  | served _ _ _ hissued => rw [hissued]
  | sent request _ _ hissued =>
    rw [hissued]
    exact List.prefix_append _ _

theorem issued_run {before events : List ConversationEvent} (h : before <+: events) :
    (after options link before).issued <+: (after options link events).issued := by
  obtain ⟨later, rfl⟩ := h
  induction later using List.reverseRecOn with
  | nil => simp
  | append_singleton later event ih =>
    rw [← List.append_assoc, after_concat]
    exact ih.trans (issued_step _ event)

/-- Every request takes one event. -/
theorem length_issued_le (options : CoordinatorOptions) (link : Link)
    (events : List ConversationEvent) :
    (after options link events).issued.length ≤ events.length := by
  induction events using List.reverseRecOn with
  | nil => exact Nat.le_refl _
  | append_singleton events event ih =>
    rw [after_concat, List.length_append, List.length_singleton]
    cases @moves_step options (after options link events) event with
    | quiet _ hissued => rw [hissued]; omega
    | served _ _ _ hissued => rw [hissued]; omega
    | sent request _ _ hissued =>
      rw [hissued, List.length_append, List.length_singleton]
      omega

def Answered (options : CoordinatorOptions) (link : Link) (events : List ConversationEvent)
    (request : Numbered Request) (response : Response) : Prop :=
  ∃ before now, before ++ [.serve now] <+: events ∧
    (after options link before).requests.head? = some request ∧
    response ∈ RackFabric.responses options (after options link before).fabric
      (after options link before).session now request.message

/-- Every response in flight is the answer to the request of its number. -/
theorem answered_run {events : List ConversationEvent} {response : Numbered Response}
    (h : response ∈ (after options link events).responses) :
    ∃ request, Answered options link events ⟨response.number, request⟩ response.message := by
  induction events using List.reverseRecOn with
  | nil => simp [after, start] at h
  | append_singleton events event ih =>
    have hearlier : response ∈ (after options link events).responses →
        ∃ request, Answered options link (events ++ [event]) ⟨response.number, request⟩
          response.message := by
      intro hmem
      obtain ⟨request, before, now, hbefore, hanswered⟩ := ih hmem
      exact ⟨request, before, now, hbefore.trans (List.prefix_append _ _), hanswered⟩
    rw [after_concat] at h
    generalize hreached : (after options link events).step options event = reached at h
    cases hreached ▸ @moves_step options (after options link events) event with
    | quiet _ _ _ _ hresponses => exact hearlier (hresponses h)
    | sent _ _ _ _ _ _ hresponses => exact hearlier (hresponses ▸ h)
    | served now request _ _ _ hrequests hresponses =>
      rw [hresponses, List.mem_append, List.mem_map] at h
      rcases h with hold | ⟨answer, hanswer, rfl⟩
      · exact hearlier hold
      · exact ⟨request.message, events, now, List.prefix_refl _, by simp [hrequests], hanswer⟩

/-- The answer to the request of the exchange, and no other one, gives its result. A
response to another request is an error of the exchange. -/
def AttributesAnswers (options : CoordinatorOptions) (link : Link)
    (events : List ConversationEvent) : Prop :=
  ∀ before, before ++ [.receive] <+: events → ∀ waiting response,
    (after options link before).waiting = some waiting →
      (after options link before).responses.head? = some response →
        let answer := (after options link before).answer waiting.message response.message
        (∀ agent result, answer = .ok (agent, result) →
          Answered options link before waiting response.message) ∧
        (response.number ≠ waiting.number → answer =
          .error (str "the coordinator response correlation does not match the request"))

/-- No response arrives when 2^64 requests or more have been sent after its own. -/
def InTime (options : CoordinatorOptions) (link : Link) (events : List ConversationEvent) : Prop :=
  ∀ before, before ++ [.receive] <+: events → ∀ waiting response,
    (after options link before).waiting = some waiting →
      (after options link before).responses.head? = some response →
        waiting.number < response.number + 2 ^ 64

/-- Two numbers below the width of the counter have different correlations. -/
theorem correlation_ne {first : UInt64} {earlier later : Nat} (hlt : earlier < later)
    (hnear : later < earlier + 2 ^ 64) :
    first + UInt64.ofNat (earlier + 1) ≠ first + UInt64.ofNat (later + 1) := by
  intro h
  have hsame := congrArg UInt64.toNat ((UInt64.add_right_inj first).mp h)
  simp only [UInt64.toNat_ofNat'] at hsame
  omega

theorem answers_attributed (options : CoordinatorOptions) (link : Link)
    (events : List ConversationEvent) (hintime : InTime options link events) :
    AttributesAnswers options link events := by
  intro before hbefore waiting response hwaiting hresponse
  have hcounted := counted_run options link before
  obtain ⟨hissued, hlast⟩ := hcounted.waiting waiting hwaiting
  obtain ⟨request, earlier, now, hearlier, hhead, hanswer⟩ :=
    answered_run (List.mem_of_mem_head? hresponse)
  have hserved := (counted_run options link earlier).requests _ (List.mem_of_mem_head? hhead)
  have hasked : (after options link before).issued[response.number]? = some request :=
    getElem?_of_prefix (issued_run ((List.prefix_append _ _).trans hearlier)) hserved
  by_cases hsame : response.number = waiting.number
  · rw [hsame, hissued] at hasked
    obtain rfl := Option.some.inj hasked
    refine ⟨fun _ _ _ => ⟨earlier, now, hearlier, ?_, hanswer⟩, fun hother => absurd hsame hother⟩
    rw [hhead, hsame]
  · have hbound := (List.getElem?_eq_some_iff.mp hasked).1
    have hcorrelation : response.message.correlation ≠ waiting.message.correlation := by
      rw [correlation_of_responses hanswer, hcounted.issued hasked, hcounted.issued hissued]
      exact correlation_ne (by omega) (hintime before hbefore waiting response hwaiting hresponse)
    have herror := @answer_mismatch (after options link before) _ _ hcorrelation
    refine ⟨fun agent result hok => ?_, fun _ => herror⟩
    rw [herror] at hok
    cases hok

/-- A run that is shorter than the counter is wide. -/
theorem inTime_of_length {events : List ConversationEvent} (h : events.length ≤ 2 ^ 64) :
    InTime options link events := by
  intro before hbefore waiting response hwaiting _
  have hlast := ((counted_run options link before).waiting waiting hwaiting).2
  have hissued := length_issued_le options link before
  have hlength := hbefore.length_le
  simp only [List.length_append, List.length_singleton] at hlength
  omega

def kept (conversation : Conversation) :
    List MutationResult × Nat × Nat × Nat × PublicationGeneration :=
  (conversation.report.results, conversation.report.membersPublished,
    conversation.report.failureDomainsPublished, conversation.report.heartbeatsSent,
    conversation.agent.publicationGeneration)

theorem kept_send (type : MessageType) (message : Option type.Message) :
    (conversation.send type message).kept = conversation.kept := by
  unfold send
  split <;> rfl

theorem kept_abandon (type : MessageType) (error : Str) :
    (conversation.abandon type error).kept = conversation.kept := by
  unfold abandon
  split <;> rfl

/-- Nothing but an answered exchange leaves a result with the agent. -/
theorem kept_step (conversation : Conversation) (event : ConversationEvent) :
    (conversation.step options event).kept = conversation.kept ∨
      event = .receive ∧ ∃ waiting response agent result,
        conversation.waiting = some waiting ∧ conversation.responses.head? = some response ∧
          conversation.answer waiting.message response.message = .ok (agent, result) := by
  cases event with
  | publishDomain record => exact Or.inl (kept_send _ _)
  | publishMember record => exact Or.inl (kept_send _ _)
  | beat =>
    simp only [step, sendBeat]
    split
    · exact Or.inl rfl
    · exact Or.inl (@kept_send conversation .heartbeat (some _))
  | serve now =>
    simp only [step, serve]
    split <;> exact Or.inl rfl
  | receive =>
    simp only [step, receive]
    split
    · rename_i waiting response rest hwaiting hresponses
      split
      · exact Or.inl (@kept_abandon { conversation with responses := rest } _ _)
      · rename_i agent result hanswer
        exact Or.inr ⟨trivial, waiting, response, agent, result, hwaiting, by simp [hresponses],
          hanswer⟩
    · exact Or.inl rfl
  | fail error =>
    simp only [step, fail]
    split
    · exact Or.inl rfl
    · exact Or.inl (kept_abandon _ _)
  | prepare => exact Or.inl rfl
  | loseRequest => exact Or.inl rfl
  | loseResponse => exact Or.inl rfl
  | other input => exact Or.inl rfl

end Conversation

namespace Scenario
open Conversation

/-- A publication that is answered after its exchange has ended. -/
def lateAnswer : List ConversationEvent :=
  [.publishDomain { id := .ofText (str "row-1") }, .fail (str "receive timed out"),
    .serve ⟨1000⟩, .publishDomain { id := .ofText (str "row-2") }, .receive]

theorem lateAnswer_attributed :
    ∃ link, connect = .ok link ∧ AttributesAnswers {} link lateAnswer := by
  obtain ⟨link, hconnect, -⟩ := @ok_of_any _ _ connect (fun _ => true) (by decide +kernel)
  exact ⟨link, hconnect, answers_attributed {} link lateAnswer (inTime_of_length (by decide))⟩

def row : FailureDomainRecord := { id := .ofText (str "row-1") }

def unread : List ConversationEvent :=
  [.publishDomain row, .serve ⟨1000⟩, .fail (str "receive timed out")]

/-- One publication after the other has no answer for as long as it waits. -/
def unanswered (rounds : Nat) : List ConversationEvent :=
  (List.replicate rounds [.publishDomain row, .fail (str "receive timed out")]).flatten

/-- The one response in flight would be taken by a request of the same correlation. -/
def isUnread (conversation : Conversation) : Bool :=
  conversation.waiting.isNone && conversation.connected && conversation.issued.length = 1 &&
    match conversation.responses with
    | [response] =>
        response.number = 0 && response.message.correlation = conversation.agent.correlation &&
          (conversation.agent.takeResult response.message.reply).toOption.isSome
    | _ => false

structure Unanswered (before : Conversation) (rounds : Nat) (after : Conversation) : Prop where
  agent : after.agent =
    { before.agent with correlation := before.agent.correlation + UInt64.ofNat rounds }
  waiting : after.waiting = none
  connected : after.connected = true
  responses : after.responses = before.responses
  issued : after.issued.length = before.issued.length + rounds

theorem unanswered_rounds {options : CoordinatorOptions} {before : Conversation}
    (hwaiting : before.waiting = none) (hconnected : before.connected = true) (rounds : Nat) :
    Unanswered before rounds
      (Execution.run (Conversation.step options) before (unanswered rounds)) := by
  induction rounds with
  | zero => exact ⟨by simp [unanswered], hwaiting, hconnected, rfl, rfl⟩
  | succ rounds ih =>
    have hnext : unanswered (rounds + 1) = unanswered rounds ++
        [.publishDomain row, .fail (str "receive timed out")] := by
      simp [unanswered, List.replicate_succ']
    rw [hnext, Execution.run_append]
    generalize Execution.run (Conversation.step options) before (unanswered rounds) = reached at ih
    have hfree : ¬ (reached.waiting.isSome ∨ !reached.connected) := by
      simp [ih.waiting, ih.connected]
    simp only [Execution.run_cons, Execution.run_nil, Conversation.step, publishDomain,
      Conversation.send, hfree, if_false, fail, abandon, reduceCtorEq]
    exact ⟨by simp [Agent.nextCorrelation, ih.agent, ofNat_succ, UInt64.add_assoc], rfl,
      ih.connected, ih.responses, by simp [ih.issued, Nat.add_assoc]⟩

/-- What the next publication waits for. -/
theorem sent_of_free {conversation : Conversation} (type : MessageType)
    (message : Option type.Message) (hwaiting : conversation.waiting = none)
    (hconnected : conversation.connected = true) :
    ∃ request, (conversation.send type message).waiting =
        some ⟨conversation.issued.length, request⟩ ∧
      request.correlation = conversation.agent.correlation + 1 ∧
      (conversation.send type message).agent = conversation.agent.nextCorrelation ∧
      (conversation.send type message).responses = conversation.responses := by
  have hfree : ¬ (conversation.waiting.isSome ∨ !conversation.connected) := by
    simp [hwaiting, hconnected]
  unfold Conversation.send
  rw [if_neg hfree]
  exact ⟨_, rfl, rfl, rfl, rfl⟩

/-- The result that is taken from a reply does not depend on the correlation. -/
theorem takeResult_correlation {agent : Agent} {reply : Reply} (correlation : UInt64)
    (h : (agent.takeResult reply).toOption.isSome = true) :
    ∃ later result, { agent with correlation := correlation }.takeResult reply =
      .ok (later, result) := by
  unfold Agent.takeResult at h ⊢
  split at h
  · split at h <;> cases h
  · split at h
    · rename_i message hdecodes
      have hsame : Agent.decodes { agent with correlation := correlation }
          [message.code, message.detail] = true := hdecodes
      rw [if_pos hsame]
      exact ⟨_, _, rfl⟩
    · cases h
  · cases h

/-- After 2^64 requests the counter is back at the correlation of an earlier one, whose
answer is still in flight. -/
theorem wrapped_counter_misattributes :
    ¬ ∀ link, connect = .ok link → ∀ events, AttributesAnswers {} link events := by
  intro h
  obtain ⟨link, hconnect, hunread⟩ := @ok_of_any _ _ connect
    (fun link => isUnread (Conversation.after {} link unread)) (by decide +kernel)
  obtain ⟨rounds, hwrap⟩ : ∃ rounds : Nat, UInt64.ofNat rounds + 1 = 0 := ⟨2 ^ 64 - 1, by decide⟩
  have hattributed := h link hconnect
    (unread ++ unanswered rounds ++ [.publishDomain row] ++ [.receive])
    (unread ++ unanswered rounds ++ [.publishDomain row]) (List.prefix_refl _)
  have hafter : Conversation.after {} link (unread ++ unanswered rounds ++ [.publishDomain row]) =
      (Execution.run (Conversation.step {}) (Conversation.after {} link unread)
        (unanswered rounds)).step {} (.publishDomain row) := by
    rw [Conversation.after_concat, Conversation.after, Execution.run_append]
    rfl
  rw [hafter] at hattributed
  generalize Conversation.after {} link unread = base at hunread hattributed
  simp only [isUnread, Bool.and_eq_true, decide_eq_true_eq, Option.isNone_iff_eq_none] at hunread
  obtain ⟨⟨⟨hwaiting, hconnected⟩, hissued⟩, hresponses⟩ := hunread
  have hrounds := @unanswered_rounds {} base hwaiting hconnected rounds
  generalize Execution.run (Conversation.step {}) base (unanswered rounds) = reached
    at hrounds hattributed
  split at hresponses
  · rename_i response hone
    simp only [Bool.and_eq_true, decide_eq_true_eq] at hresponses
    obtain ⟨⟨hnumber, hcorrelation⟩, htaken⟩ := hresponses
    obtain ⟨request, hsent, hrequest, hagent, hkept⟩ := sent_of_free .publishFailureDomain
      (some { authority := reached.agent.token, record := row }) hrounds.waiting hrounds.connected
    obtain ⟨-, hlate⟩ := hattributed _ response hsent
      (by rw [show (reached.step {} (.publishDomain row)).responses = _ from hkept,
        hrounds.responses, hone]; rfl)
    have hsame : response.message.correlation = request.correlation := by
      rw [hrequest, hrounds.agent, hcorrelation, UInt64.add_assoc, hwrap, UInt64.add_zero]
    obtain ⟨later, result, hok⟩ := takeResult_correlation
      (reached.agent.correlation + 1) htaken
    have hanswer : (reached.step {} (.publishDomain row)).answer request response.message =
        .ok (later, result) := by
      have htaker : (reached.step {} (.publishDomain row)).agent =
          { base.agent with correlation := reached.agent.correlation + 1 } := by
        rw [show (reached.step {} (.publishDomain row)).agent = _ from hagent, hrounds.agent]
        rfl
      simp only [Conversation.answer, Agent.exchange, hsame, ne_eq, not_true, if_false, htaker]
      exact hok
    have hearlier : response.number ≠ reached.issued.length := by
      rw [hnumber, hrounds.issued, hissued]
      omega
    rw [hlate hearlier] at hanswer
    cases hanswer
  · cases hresponses

end Scenario

end RackFabric
