import RackFabric.Model.Coordinator
import RackFabric.Properties.Transitions

/-! What a served request does to the fabric, and what is sent for it. -/
namespace RackFabric
open RackState

variable {options : CoordinatorOptions} {fabric : RackState} {session : Session}
  {now : Timestamp} {correlation : UInt64}

/-- A submission is a step of the runtime that keeps its explanation. -/
theorem perform_eq_submit (options : RackFabricOptions) (state : RackState) (now : Timestamp)
    (mutation : Mutation) :
    state.perform options ⟨now, mutation⟩ =
      ((state.submit options now mutation).1,
        (state.submit options now mutation).2.map (·.outcome)) := by
  cases mutation <;> rfl

theorem step_eq_submit (options : RackFabricOptions) (state : RackState) (now : Timestamp)
    (mutation : Mutation) :
    state.step options ⟨now, mutation⟩ = (state.submit options now mutation).1 := by
  rw [step, perform_eq_submit]

/-- A request takes the fabric at most one step further. -/
theorem fabric_execute (command : Command) :
    (execute options fabric session now command).fabric = fabric ∨
      ∃ mutation, (execute options fabric session now command).fabric =
        fabric.step options.fabric ⟨now, mutation⟩ := by
  cases command with
  | hello | query => exact Or.inl rfl
  | register worker boot request => exact Or.inr ⟨.registerPublisher request, rfl⟩
  | mutation mutation => exact Or.inr ⟨mutation, (step_eq_submit _ _ _ _).symm⟩
  | heartbeat request => exact Or.inr ⟨.heartbeat request, rfl⟩
  | snapshot request =>
    refine Or.inr ⟨.publishSnapshot request, ?_⟩
    rw [step_eq_submit]
    simp only [execute, submit]
    generalize publishSnapshot options.fabric fabric now request = published
    obtain ⟨⟨after, result⟩, snapshot⟩ := published
    cases snapshot with
    | none => rfl
    | some snapshot =>
      dsimp only
      split <;> rfl

theorem presented_of_boot {α : Type} {boot : AgentBootId} {name : String}
    {authority : α → AuthorityToken} {message : α} (h : (authority message).boot = some boot) :
    presented fabric boot name authority (some message) =
      .ok (message, tokenFor fabric boot (authority message)) := by
  simp [presented, decoded, checkSessionIdentity, h, bind, Except.bind, pure, Except.pure]

/-- A message that is handed on presents the boot of the session. -/
theorem presented_ok {α : Type} {boot : AgentBootId} {name : String}
    {authority : α → AuthorityToken} {payload : Option α} {message : α} {token : AuthorityToken}
    (h : presented fabric boot name authority payload = .ok (message, token)) :
    payload = some message ∧ (authority message).boot = some boot ∧
      token = tokenFor fabric boot (authority message) := by
  unfold presented decoded checkSessionIdentity at h
  cases payload with
  | none => cases h
  | some found =>
    simp only [bind, Except.bind] at h
    cases hclaimed : (authority found).boot with
    | none => simp [hclaimed, refuseRequest] at h
    | some claimed =>
      by_cases hsame : claimed = boot
      · simp only [hclaimed, hsame, ne_eq, not_true_eq_false, if_false, pure, Except.pure,
          Except.ok.injEq, Prod.mk.injEq] at h
        obtain ⟨rfl, rfl⟩ := h
        exact ⟨rfl, hsame ▸ hclaimed, rfl⟩
      · simp [hclaimed, hsame, refuseRequest] at h

/-- A registered session hands a mutation on. -/
theorem admit_of_registered {boot : AgentBootId} {request : Request}
    (hboot : session.boot = some boot) (hrequest : request.isResponse = false)
    (htype : request.type.isMutation = true) :
    admitRequest fabric session request = admitMutation fabric boot request := by
  unfold admitRequest
  rw [if_neg (by simp [hrequest])]
  split
  · cases htype
  · cases htype
  · cases htype
  · simp [htype, hboot]

theorem ok_of_isSome {ε α : Type} {result : Except ε α} (h : result.toOption.isSome = true) :
    ∃ value, result = .ok value := by
  cases result with
  | error error => cases h
  | ok value => exact ⟨value, rfl⟩

theorem ok_of_any {ε α : Type} {result : Except ε α} {check : α → Bool}
    (h : result.toOption.any check = true) : ∃ value, result = .ok value ∧ check value = true := by
  cases result with
  | error error => cases h
  | ok value => exact ⟨value, rfl, h⟩

/-! Sending. -/

@[simp] theorem send_persist (limits : ResourceLimits) : send limits correlation .persist = [] :=
  rfl

@[simp] theorem flatMap_send_persistIfConfigured (limits : ResourceLimits) :
    (persistIfConfigured options).flatMap (send limits correlation) = [] := by
  unfold persistIfConfigured
  split <;> simp

/-- Persistence sends nothing: a finished mutation is answered by its result. -/
@[simp] theorem flatMap_send_finishMutation (limits : ResourceLimits) (result : MutationResult) :
    (finishMutation options result).flatMap (send limits correlation) =
      send limits correlation (.reply (.result (toResult result))) := by
  unfold finishMutation replyResult
  split <;> simp

theorem send_reply (limits : ResourceLimits) (message : Reply) :
    send limits correlation (.reply message) =
      if (Response.encode limits ⟨correlation, message⟩).isSome then [⟨correlation, message⟩]
      else [] := rfl

theorem mem_send {limits : ResourceLimits} {message : Reply} {response : Response}
    (h : response ∈ send limits correlation (.reply message)) :
    response = ⟨correlation, message⟩ := by
  rw [send_reply] at h
  split at h <;> simp_all

end RackFabric
