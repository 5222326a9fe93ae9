import RackFabric.Properties.Growth

/-! The retirement of the rack is terminal: only fences go through afterwards, and
a fence brings nothing back. -/
namespace RackFabric
open Std RackState RackGraph Tables

def Rejects {α : Type} (check : Except Refusal α) : Prop :=
  ∃ refusal, check = .error refusal ∧ refusal.outcome.isRejection = true

namespace Rejects
variable {α β : Type} {rest : α → Except Refusal β}

theorem bind {first : Except Refusal α} (h : Rejects first) : Rejects (first >>= rest) := by
  obtain ⟨refusal, rfl, hrejection⟩ := h
  exact ⟨refusal, rfl, hrejection⟩

theorem refuseIf {check : Bool} {refusal : Refusal} {rest : Unit → Except Refusal β}
    (hrejection : refusal.outcome.isRejection = true) (h : check = false → Rejects (rest ())) :
    Rejects (RackFabric.refuseIf check refusal >>= rest) := by
  cases check with
  | false => exact h rfl
  | true => exact ⟨refusal, rfl, hrejection⟩

theorem require {wanted : Option α} {refusal : Refusal}
    (hrejection : refusal.outcome.isRejection = true)
    (h : ∀ found, wanted = some found → Rejects (rest found)) :
    Rejects (RackFabric.require wanted refusal >>= rest) := by
  cases wanted with
  | none => exact ⟨refusal, rfl, hrejection⟩
  | some found => exact h found rfl

end Rejects

def Mutation.fences : Mutation → Bool
  | .fencePublisher _ | .expirePublishers _ => true
  | _ => false

namespace RackState
variable {options : RackFabricOptions} {state : RackState} {rack : RackRecord}

theorem checkRack_rejection {token : AuthorityToken} {refusal : Refusal}
    (h : state.checkRack token = .error refusal) : refusal.outcome.isRejection = true := by
  unfold checkRack at h
  cases hrack : state.rack with
  | none =>
    rw [hrack] at h
    cases h
    rfl
  | some rack =>
    cases hnamed : token.rack with
    | none =>
      rw [hrack, hnamed] at h
      cases h
      rfl
    | some named =>
      simp only [hrack, hnamed, require, refuseIf, bind, Except.bind] at h
      split at h
      · cases h
        rfl
      · cases h

section Refused
variable (hrack : state.rack = some rack) (hretired : rack.retired = true)
include hrack hretired

theorem checkAuthority_rejects (token : AuthorityToken) (rackScoped : Bool) :
    Rejects (state.checkAuthority token rackScoped) := by
  unfold checkAuthority
  refine .refuseIf rfl fun _ => ?_
  cases hchecked : if rackScoped then state.checkRack token else .ok () with
  | error refusal =>
    cases rackScoped with
    | false => cases hchecked
    | true => exact ⟨refusal, rfl, checkRack_rejection hchecked⟩
  | ok => exact .refuseIf rfl fun hlive => by simp [hrack, hretired] at hlive

theorem admitRegistration_rejects (request : RegisterPublisherRequest) :
    Rejects (admitRegistration options state request) := by
  unfold admitRegistration
  refine .require rfl fun rackId _ => .require rfl fun worker _ => .require rfl fun boot _ => ?_
  refine .refuseIf rfl fun _ => .require rfl fun found hfound => .refuseIf rfl fun _ => ?_
  obtain rfl := Option.some.inj (hrack.symm.trans hfound)
  exact .refuseIf rfl fun hlive => by simp [hretired] at hlive

theorem admitDeclaration_rejects (request : DeclareRackRequest) :
    Rejects (admitDeclaration state request) := by
  unfold admitDeclaration
  refine .require rfl fun epoch _ => .refuseIf rfl fun _ => .refuseIf rfl fun _ => ?_
  exact .require rfl fun named _ => (checkAuthority_rejects hrack hretired _ false).bind

/-- Nothing but a fence changes a rack that is retired. -/
theorem refused_when_retired (input : Input) (hother : input.mutation.fences = false) :
    ∃ outcome, state.perform options input = (state, some outcome) ∧
      (outcome.isRejection = true ∨ outcome = .noChange) := by
  obtain ⟨now, mutation⟩ := input
  have hunder : ∀ (token : AuthorityToken) body, ∃ outcome,
      ((state.underAuthority token body).1, some (state.underAuthority token body).2.outcome) =
        (state, some outcome) ∧ (outcome.isRejection = true ∨ outcome = .noChange) := by
    intro token body
    obtain ⟨refusal, hrefused, hrejection⟩ := checkAuthority_rejects hrack hretired token true
    refine ⟨refusal.outcome, ?_, Or.inl hrejection⟩
    simp [underAuthority, hrefused, refuse, makeResult]
  cases mutation with
  | registerPublisher request =>
    obtain ⟨refusal, hrefused, hrejection⟩ :=
      @admitRegistration_rejects options state rack hrack hretired request
    refine ⟨refusal.outcome, ?_, Or.inl hrejection⟩
    simp [perform, registerPublisher, hrefused, refuse, makeResult]
  | declareRack request =>
    obtain ⟨refusal, hrefused, hrejection⟩ := admitDeclaration_rejects hrack hretired request
    refine ⟨refusal.outcome, ?_, Or.inl hrejection⟩
    simp [perform, declareRack, hrefused, refuse, makeResult]
  | retireRack request =>
    refine ⟨.noChange, ?_, Or.inr rfl⟩
    simp [perform, retireRack, admitRackRetirement, hrack, hretired, require, refuseIf, bind,
      Except.bind, refuse, makeResult, Refusal.unchanged]
  | revalidateMembers request =>
    obtain ⟨refusal, hrefused, hrejection⟩ :=
      checkAuthority_rejects hrack hretired request.authority true
    refine ⟨refusal.outcome, ?_, Or.inl hrejection⟩
    simp [perform, revalidateMembers, hrefused, refuse, makeResult]
  | heartbeat request =>
    obtain ⟨refusal, hrefused, hrejection⟩ :=
      checkAuthority_rejects hrack hretired request.authority false
    refine ⟨refusal.outcome, ?_, Or.inl hrejection⟩
    simp [perform, heartbeat, hrefused, refuse, makeResult]
  | publishSnapshot request =>
    obtain ⟨refusal, hrefused, hrejection⟩ :=
      checkAuthority_rejects hrack hretired request.authority true
    refine ⟨refusal.outcome, ?_, Or.inl hrejection⟩
    simp [perform, publishSnapshot, hrefused, refuse, makeResult]
  | fencePublisher | expirePublishers => cases hother
  | _ => exact hunder _ _

end Refused

/-! What the fences after the retirement leave. -/

def clearedPower (envelope : PowerEnvelopeRecord) : PowerEnvelopeRecord :=
  { envelope with revalidationRequired := true, rackObservedDraw := none, rackHeadroom := none }

def clearedCooling (envelope : CoolingEnvelopeRecord) : CoolingEnvelopeRecord :=
  { envelope with
    revalidationRequired := true
    zones := envelope.zones.map fun zone =>
      { zone with observedTemperature := none, thermalHeadroom := none, throttling := none } }

/-- The later state is the earlier one, but for what fences flag and clear. -/
structure Sealed (earlier later : RackState) : Prop where
  rack : later.rack = earlier.rack
  members : ∀ key : MemberKey,
    later.members[key]?.map (·.lifecycle) = earlier.members[key]?.map (·.lifecycle)
  relationships : ∀ key, key ∈ later.relationships ↔ key ∈ earlier.relationships
  failureDomains : ∀ id, id ∈ later.failureDomains ↔ id ∈ earlier.failureDomains
  power : later.power = earlier.power ∨ later.power = earlier.power.map clearedPower
  cooling : later.cooling = earlier.cooling ∨ later.cooling = earlier.cooling.map clearedCooling
  snapshots : later.snapshots = earlier.snapshots

theorem Sealed.refl (state : RackState) : Sealed state state :=
  ⟨rfl, fun _ => rfl, fun _ => Iff.rfl, fun _ => Iff.rfl, Or.inl rfl, Or.inl rfl, rfl⟩

theorem clearedPower_clearedPower (envelope : PowerEnvelopeRecord) :
    clearedPower (clearedPower envelope) = clearedPower envelope := rfl

theorem clearedCooling_clearedCooling (envelope : CoolingEnvelopeRecord) :
    clearedCooling (clearedCooling envelope) = clearedCooling envelope := by
  simp [clearedCooling]

/-- To clear twice is to clear once. -/
theorem cleared_trans {α : Type} {clear : α → α}
    (hclear : ∀ value, clear (clear value) = clear value) {first second third : Option α}
    (hfirst : second = first ∨ second = first.map clear)
    (hsecond : third = second ∨ third = second.map clear) :
    third = first ∨ third = first.map clear := by
  rcases hsecond with rfl | rfl
  · exact hfirst
  · rcases hfirst with rfl | rfl
    · exact Or.inr rfl
    · exact Or.inr (by simp [Option.map_map, Function.comp_def, hclear])

theorem Sealed.trans {first second third : RackState} (hfirst : Sealed first second)
    (hsecond : Sealed second third) : Sealed first third where
  rack := hsecond.rack.trans hfirst.rack
  members key := (hsecond.members key).trans (hfirst.members key)
  relationships key := (hsecond.relationships key).trans (hfirst.relationships key)
  failureDomains id := (hsecond.failureDomains id).trans (hfirst.failureDomains id)
  power := cleared_trans clearedPower_clearedPower hfirst.power hsecond.power
  cooling := cleared_trans clearedCooling_clearedCooling hfirst.cooling hsecond.cooling
  snapshots := hsecond.snapshots.trans hfirst.snapshots

theorem lifecycle_fenceMembers (reason : RevalidationReason) (keys : List MemberKey)
    (graph : RackGraph) (key : MemberKey) :
    (keys.foldl (fenceMember reason) graph).members[key]?.map (·.lifecycle) =
      graph.members[key]?.map (·.lifecycle) := by
  induction keys generalizing graph with
  | nil => rfl
  | cons first keys ih =>
    rw [List.foldl_cons, ih, members_fenceMember]
    split
    · rw [Option.map_map]
      rfl
    · rfl

theorem sealed_commitFence (boot : AgentBootId) (publisher : PublisherRecord)
    (reason : RevalidationReason) (now : Timestamp) :
    Sealed state (state.commitFence boot publisher reason now) where
  rack := rfl
  members := lifecycle_fenceMembers reason _ state.toRackGraph
  relationships key := by
    change key ∈ (fenceInGraph state.toRackGraph boot reason).relationships ↔ _
    rw [relationships_fenceInGraph, ExtTreeMap.mem_map]
  failureDomains id := by
    change id ∈ (fenceInGraph state.toRackGraph boot reason).failureDomains ↔ _
    rw [failureDomains_fenceInGraph, ExtTreeMap.mem_map]
  power := by
    change state.power.map (fencePower boot) = _ ∨ state.power.map (fencePower boot) = _
    cases state.power with
    | none => exact Or.inl rfl
    | some envelope =>
      simp only [Option.map_some, fencePower]
      split
      · exact Or.inr rfl
      · exact Or.inl rfl
  cooling := by
    change state.cooling.map (fenceCooling boot) = _ ∨ state.cooling.map (fenceCooling boot) = _
    cases state.cooling with
    | none => exact Or.inl rfl
    | some envelope =>
      simp only [Option.map_some, fenceCooling]
      split
      · exact Or.inr rfl
      · exact Or.inl rfl
  snapshots := rfl

theorem sealed_fencePublisher (now : Timestamp) (request : FencePublisherRequest) :
    Sealed state (state.fencePublisher now request).1 := by
  unfold fencePublisher
  split
  · exact .refl state
  · exact sealed_commitFence _ _ _ _

theorem sealed_expirePublishers (now : Timestamp) (later : AgentBootId → Timestamp) :
    Sealed state (state.expirePublishers now later) := by
  have hfence : ∀ (between : RackState) now request, Sealed state between →
      Sealed state (between.fencePublisher now request).1 :=
    fun _ now request hbetween => hbetween.trans (sealed_fencePublisher now request)
  exact expirePublishers_induction hfence (.refl state) later

theorem sealed_step (hrack : state.rack = some rack) (hretired : rack.retired = true)
    (input : Input) : Sealed state (step options state input) := by
  cases hfences : input.mutation.fences with
  | false =>
    obtain ⟨outcome, hperformed, -⟩ :=
      @refused_when_retired options state rack hrack hretired input hfences
    rw [step, hperformed]
    exact .refl state
  | true =>
    obtain ⟨now, mutation⟩ := input
    cases mutation with
    | fencePublisher request => exact sealed_fencePublisher now request
    | expirePublishers later => exact sealed_expirePublishers now later
    | _ => cases hfences

theorem sealed_run (hrack : state.rack = some rack) (hretired : rack.retired = true)
    (inputs : List Input) : Sealed state (Execution.run (step options) state inputs) := by
  induction inputs generalizing state with
  | nil => exact .refl state
  | cons input inputs ih =>
    have hstep := @sealed_step options state rack hrack hretired input
    exact hstep.trans (ih (hstep.rack.trans hrack))

structure OutOfService (rack : RackRecord) (state : RackState) : Prop where
  rack : ∃ final, state.rack = some final ∧ final.id = rack.id ∧ final.epoch = rack.epoch ∧
    final.retired = true
  members : ∀ (key : MemberKey) (record : MemberRecord),
    state.members[key]? = some record → record.lifecycle ≠ .present

theorem OutOfService.sealed {later : RackState} (h : OutOfService rack state)
    (hsealed : Sealed state later) : OutOfService rack later where
  rack := by
    rw [hsealed.rack]
    exact h.rack
  members key record hfound hpresent := by
    have hsame := hsealed.members key
    rw [hfound, Option.map_some] at hsame
    obtain ⟨old, hold, hlifecycle⟩ := Option.map_eq_some_iff.mp hsame.symm
    exact h.members key old hold (hlifecycle.trans hpresent)

theorem outOfService_of_retirement {request : RetireRackRequest} {now : Timestamp}
    (haccepted : (state.retireRack now request).2.outcome = .accepted) :
    ∃ rack, state.rack = some rack ∧ OutOfService rack (state.retireRack now request).1 := by
  unfold retireRack at haccepted ⊢
  cases hadmitted : admitRackRetirement state request with
  | error refusal =>
    rw [hadmitted] at haccepted
    exact absurd haccepted refusal.not_accepted
  | ok admitted =>
    obtain ⟨rack, publisher, next⟩ := admitted
    refine ⟨rack, (admitRackRetirement_next hadmitted).1, ?_⟩
    dsimp only [accept]
    constructor
    · exact ⟨{ rack with retired := true, generation := next },
        by cases publisher <;> rfl, rfl, rfl, rfl⟩
    · intro key record hfound
      rw [toRackGraph_advancePublication] at hfound
      obtain ⟨old, -, rfl⟩ := getElem?_map_cases hfound
      split
      · exact MemberLifecycle.noConfusion
      · assumption

/-- After an accepted retirement the rack stays retired, only fences go through,
and nothing changes but what they flag and clear. -/
theorem rack_retirement_terminal (options : RackFabricOptions) (before between : List Input)
    (now : Timestamp) (request : RetireRackRequest)
    (haccepted : ((Execution.run (step options) (fresh options) before).perform options
      ⟨now, .retireRack request⟩).2 = some .accepted) :
    let standing := Execution.run (step options) (fresh options) before
    let retired := Execution.run (step options) (fresh options)
      (before ++ [⟨now, .retireRack request⟩])
    let later := Execution.run (step options) (fresh options)
      (before ++ [⟨now, .retireRack request⟩] ++ between)
    (∃ rack, standing.rack = some rack ∧ OutOfService rack later) ∧ Sealed retired later ∧
      ∀ input : Input, input.mutation.fences = false →
        ∃ outcome, later.perform options input = (later, some outcome) ∧
          (outcome.isRejection = true ∨ outcome = .noChange) := by
  intro standing retired later
  have hretired : retired = (standing.retireRack now request).1 := Execution.run_concat ..
  have hlater : later = Execution.run (step options) retired between := Execution.run_append ..
  obtain ⟨rack, hrack, hout⟩ := outOfService_of_retirement (Option.some.inj haccepted)
  rw [← hretired] at hout
  obtain ⟨final, hfinal, -, -, hflag⟩ := hout.rack
  have hsealed : Sealed retired later := hlater ▸ sealed_run hfinal hflag between
  have hkept := hsealed.rack.trans hfinal
  exact ⟨⟨rack, hrack, hout.sealed hsealed⟩, hsealed, refused_when_retired hkept hflag⟩

/-- The publisher of a retired rack is fenced once more. -/
theorem fenced_after_retirement :
    let request : RetireRackRequest := { authority := Scenario.operator }
    let before := [Scenario.declareRack, Scenario.registerPublisher Scenario.bootA]
    let fence : Input :=
      { mutation := .fencePublisher
          { coordinatorEpoch := .first, boot := some Scenario.bootA } }
    Sealed (Scenario.run (before ++ [⟨⟨1000⟩, .retireRack request⟩]))
      (Scenario.run (before ++ [⟨⟨1000⟩, .retireRack request⟩] ++ [fence])) :=
  (rack_retirement_terminal Scenario.defaults _ _ _ _ (by decide +kernel)).2.1

end RackState

end RackFabric
