import RackFabric.Properties.Integrity
import RackFabric.Properties.Transitions

/-! Fencing revokes a boot for good, unless the rack is retired by the authority
of a boot that the retirement fences. -/
namespace RackFabric
open Std SecondaryIndex Relation RackState Tables

def PublisherState.Live (state : PublisherState) : Prop :=
  state = .registered ∨ state = .active

namespace RackState
variable {options : RackFabricOptions} {state : RackState} {publisher : Option PublisherRef}

/-! Who passes the authority check. -/

theorem checkPublisher_ok {token : AuthorityToken} {boot : AgentBootId} {found : PublisherRef}
    (h : state.checkPublisher token boot = .ok found) :
    found.boot = boot ∧ boot ∉ state.fencedBoots ∧
      state.publishers[boot]? = some found.record := by
  unfold checkPublisher at h
  simp only [bind_eq_ok, refuseIf_eq_ok, require_eq_ok, exists_and_left, exists_const,
    pure_eq_ok] at h
  obtain ⟨hfenced, record, hfound, -, -, ⟨⟩, -, rfl⟩ := h
  exact ⟨rfl, by simpa [← ExtTreeMap.contains_iff_mem] using hfenced, hfound⟩

theorem checkAuthority_ok {token : AuthorityToken} {rackScoped : Bool}
    (h : state.checkAuthority token rackScoped = .ok publisher) :
    (token.boot = none ∧ publisher = none) ∨
      ∃ found, publisher = some found ∧ token.boot = some found.boot ∧
        found.boot ∉ state.fencedBoots ∧
        state.publishers[found.boot]? = some found.record := by
  unfold checkAuthority at h
  simp only [bind_eq_ok, refuseIf_eq_ok, exists_and_left, exists_const] at h
  obtain ⟨-, _, -, -, h⟩ := h
  cases hboot : token.boot with
  | none =>
    rw [hboot] at h
    exact Or.inl ⟨rfl, (pure_eq_ok.mp h).symm⟩
  | some boot =>
    rw [hboot] at h
    simp only [bind_eq_ok, pure_eq_ok] at h
    obtain ⟨found, hfound, rfl⟩ := h
    obtain ⟨hsame, hfenced, hrecord⟩ := checkPublisher_ok hfound
    rw [← hsame] at hfenced hrecord
    exact Or.inr ⟨found, rfl, by rw [hsame], hfenced, hrecord⟩

theorem submitter_of_boot {token : AuthorityToken} {boot : AgentBootId} {rackScoped : Bool}
    (h : state.checkAuthority token rackScoped = .ok publisher) (hboot : token.boot = some boot) :
    ∃ found, publisher = some found ∧ found.boot = boot ∧
      state.publishers[boot]? = some found.record := by
  rcases checkAuthority_ok h with ⟨hnone, -⟩ | ⟨found, hsome, hnamed, -, hrecord⟩
  · rw [hboot] at hnone
    cases hnone
  · obtain rfl := Option.some.inj (hnamed.symm.trans hboot)
    exact ⟨found, hsome, rfl, hrecord⟩

theorem authorized_not_fenced {token : AuthorityToken} {rackScoped : Bool} {boot : AgentBootId}
    (h : state.checkAuthority token rackScoped = .ok publisher) (hboot : token.boot = some boot) :
    boot ∉ state.fencedBoots := by
  rcases checkAuthority_ok h with ⟨hnone, -⟩ | ⟨found, -, hsome, hfenced, -⟩
  · rw [hnone] at hboot
    cases hboot
  · rw [hsome] at hboot
    exact Option.some.inj hboot ▸ hfenced

theorem submitter_not_fenced {token : AuthorityToken} {rackScoped : Bool} {found : PublisherRef}
    (h : state.checkAuthority token rackScoped = .ok (some found)) :
    found.boot ∉ state.fencedBoots := by
  rcases checkAuthority_ok h with ⟨-, hnone⟩ | ⟨other, hsome, -, hfenced, -⟩
  · cases hnone
  · exact Option.some.inj hsome ▸ hfenced

/-! An accepted mutation was not submitted by a fenced boot. -/

theorem registered_not_fenced {request : RegisterPublisherRequest} {boot : AgentBootId}
    {worker : WorkerId} (h : admitRegistration options state request = .ok (worker, boot)) :
    request.boot = some boot ∧ boot ∉ state.fencedBoots := by
  unfold admitRegistration at h
  simp only [bind_eq_ok, refuseIf_eq_ok, require_eq_ok, exists_and_left, exists_const, pure_eq_ok,
    Prod.mk.injEq] at h
  obtain ⟨rackId, -, found, -, submitted, hboot, -, rack, -, -, -, hfenced, -, _, -, -, rfl⟩ := h
  exact ⟨hboot, by simpa [← ExtTreeMap.contains_iff_mem] using hfenced⟩

theorem not_fenced_of_accepted {now : Timestamp} {mutation : Mutation} {boot : AgentBootId}
    {after : RackState} {outcome : Option MutationOutcome}
    (hsubmitted : mutation.submittedBy = some boot) (haccepted : outcome = some .accepted)
    (h : Transition options state now mutation after outcome) : boot ∉ state.fencedBoots := by
  cases htoken : mutation.token with
  | some token =>
    obtain ⟨publisher, hauthority⟩ := authority_of_accepted htoken haccepted h
    have hboot : token.boot = some boot :=
      (Mutation.submittedBy_of_token htoken).symm.trans hsubmitted
    exact authorized_not_fenced hauthority hboot
  | none =>
    cases h with
    | refused hrefused => exact absurd (Option.some.inj haccepted) hrefused
    | noted _ hsome | committed hsome =>
      rw [htoken] at hsome
      cases hsome
    | registered hadmitted =>
      obtain ⟨hboot, hfenced⟩ := registered_not_fenced hadmitted
      exact Option.some.inj (hboot.symm.trans hsubmitted) ▸ hfenced
    | refreshed => cases haccepted
    | stopped | declared | redeclared | beat => cases htoken
    | fenced | expired => cases hsubmitted

/-! What a step does to the revoked boots. -/

/-- No fenced boot has a publisher that could still act. -/
def NoLiveFenced (state : RackState) : Prop :=
  ∀ boot record, boot ∈ state.fencedBoots → state.publishers[boot]? = some record →
    ¬ record.state.Live

structure Revokes (before after : RackState) : Prop where
  kept : ∀ {boot : AgentBootId}, boot ∈ before.fencedBoots → boot ∈ after.fencedBoots
  revoked : before.NoLiveFenced → after.NoLiveFenced

structure Settles (before after : RackState) : Prop where
  kept : ∀ {boot : AgentBootId}, boot ∈ before.fencedBoots → boot ∈ after.fencedBoots
  settled : ∀ {boot : AgentBootId} {record : PublisherRecord}, boot ∈ after.fencedBoots →
    after.publishers[boot]? = some record → record.state = .fenced ∨
      (boot ∈ before.fencedBoots ∧
        ∃ old, before.publishers[boot]? = some old ∧ record.state = old.state)

theorem Settles.revokes {before after : RackState} (h : Settles before after) :
    Revokes before after where
  kept := h.kept
  revoked hbefore := by
    intro boot record hboot hfound
    rcases h.settled hboot hfound with hfenced | ⟨hold, old, hrecord, hsame⟩
    · simp [hfenced, PublisherState.Live]
    · rw [hsame]
      exact hbefore boot old hold hrecord

theorem Settles.trans {before middle after : RackState} (hfirst : Settles before middle)
    (hsecond : Settles middle after) : Settles before after where
  kept h := hsecond.kept (hfirst.kept h)
  settled hboot hfound := by
    rcases hsecond.settled hboot hfound with hfenced | ⟨hmiddle, old, hold, hsame⟩
    · exact Or.inl hfenced
    · rw [hsame]
      exact hfirst.settled hmiddle hold

theorem Settles.of_eq {before after : RackState} (hpublishers : after.publishers = before.publishers)
    (hfenced : after.fencedBoots = before.fencedBoots) : Settles before after where
  kept h := by rwa [hfenced]
  settled hboot hfound := by
    rw [hfenced] at hboot
    rw [hpublishers] at hfound
    exact Or.inr ⟨hboot, _, hfound, rfl⟩

theorem Settles.refl (state : RackState) : Settles state state := .of_eq rfl rfl

/-- The record of a boot may change when it keeps its state, or is not fenced. -/
theorem Settles.modify {before after : RackState} {boot : AgentBootId}
    {revise : PublisherRecord → PublisherRecord}
    (hpublishers : after.publishers = before.publishers.modify boot revise)
    (hfenced : after.fencedBoots = before.fencedBoots)
    (hsafe : boot ∉ before.fencedBoots ∨ ∀ record, (revise record).state = record.state) :
    Settles before after where
  kept h := by rwa [hfenced]
  settled := by
    intro other record hother hfound
    rw [hfenced] at hother
    rw [hpublishers, ExtTreeMap.getElem?_modify] at hfound
    split at hfound
    · rename_i heq
      obtain rfl := LawfulEqCmp.compare_eq_iff_eq.mp heq
      obtain ⟨old, hold, rfl⟩ := Option.map_eq_some_iff.mp hfound
      rcases hsafe with hnot | hsame
      · exact absurd hother hnot
      · exact Or.inr ⟨hother, old, hold, hsame old⟩
    · exact Or.inr ⟨hother, record, hfound, rfl⟩

/-- The submitter of an accepted mutation was not fenced, so it may be active. -/
theorem settles_committed {committed : RackState} {token : AuthorityToken} {rackScoped : Bool}
    (hauthority : state.checkAuthority token rackScoped = .ok publisher)
    (hpublishers : committed.publishers = state.publishers)
    (hfenced : committed.fencedBoots = state.fencedBoots) :
    Settles state (committed.advancePublication publisher) := by
  refine (Settles.of_eq hpublishers hfenced).trans ?_
  cases publisher with
  | none => exact .of_eq rfl rfl
  | some found =>
    refine .modify rfl rfl (Or.inl ?_)
    rw [hfenced]
    exact submitter_not_fenced hauthority

theorem settles_noteRefusal {noted : RackState} (hpublishers : noted.publishers = state.publishers)
    (hfenced : noted.fencedBoots = state.fencedBoots) (refusal : Refusal) :
    Settles state (noted.noteRefusal publisher refusal) := by
  refine (Settles.of_eq hpublishers hfenced).trans ?_
  cases publisher with
  | none => exact .refl _
  | some found =>
    simp only [noteRefusal]
    split
    · exact .refl _
    · exact .modify rfl rfl (Or.inr fun _ => rfl)

/-- A registered boot was not fenced. -/
theorem settles_registered {request : RegisterPublisherRequest} {worker : WorkerId}
    {boot : AgentBootId} (hadmitted : admitRegistration options state request = .ok (worker, boot))
    (record : PublisherRecord) :
    Settles state { state with publishers := state.publishers.insert boot record } := by
  obtain ⟨-, hfenced⟩ := registered_not_fenced hadmitted
  refine ⟨id, fun {other} {found} hother hfound => ?_⟩
  rcases getElem?_insert_cases hfound with ⟨rfl, -⟩ | ⟨-, hold⟩
  · exact absurd hother hfenced
  · exact Or.inr ⟨hother, found, hold, rfl⟩

theorem settles_commitFence (boot : AgentBootId) (publisher : PublisherRecord)
    (reason : RevalidationReason) (now : Timestamp) :
    Settles state (state.commitFence boot publisher reason now) := by
  refine ⟨fun h => ExtTreeMap.mem_insert.mpr (Or.inr h), fun {other} {record} hother hfound => ?_⟩
  rcases getElem?_insert_cases hfound with ⟨-, rfl⟩ | ⟨hne, hold⟩
  · exact Or.inl rfl
  · have hfenced : other ∈ state.fencedBoots := by
      rcases ExtTreeMap.mem_insert.mp hother with heq | hmem
      · exact absurd (LawfulEqCmp.compare_eq_iff_eq.mp heq).symm hne
      · exact hmem
    exact Or.inr ⟨hfenced, record, hold, rfl⟩

theorem fencePublisher_settles (now : Timestamp) (request : FencePublisherRequest) :
    Settles state (state.fencePublisher now request).1 := by
  unfold fencePublisher
  split
  · exact .refl _
  · exact settles_commitFence _ _ _ _

/-- The submitter of an admitted retirement of the rack is the operator. -/
def KeepsFences (state : RackState) (input : Input) : Prop :=
  match input.mutation with
  | .retireRack request =>
      (∃ admitted, admitRackRetirement state request = .ok admitted) → request.authority.boot = none
  | _ => True

theorem mem_foldl_insert {κ ρ σ : Type} [Ord κ] [TransOrd κ] [LawfulEqOrd κ]
    (entries : List (κ × ρ)) (recordOf : κ → ρ → σ) (table : ExtTreeMap κ σ) (key : κ) :
    key ∈ entries.foldl (fun table entry => table.insert entry.1 (recordOf entry.1 entry.2)) table ↔
      key ∈ entries.map Prod.fst ∨ key ∈ table := by
  induction entries generalizing table with
  | nil => simp
  | cons entry entries ih =>
    rw [List.foldl_cons, ih, ExtTreeMap.mem_insert, LawfulEqCmp.compare_eq_iff_eq, List.map_cons,
      List.mem_cons, @eq_comm _ entry.1]
    tauto

/-- The retirement of the rack fences every publisher. -/
theorem fenced_of_retirement {rack : RackRecord} {next : RackGeneration} {now : Timestamp}
    {boot : AgentBootId} :
    boot ∈ (state.commitRackRetirement rack next now).fencedBoots ↔
      boot ∈ state.publishers ∨ boot ∈ state.fencedBoots := by
  refine (mem_foldl_insert state.publishers.toList
    (fun boot publisher => state.fencedRecord boot publisher now .superseded)
    state.fencedBoots boot).trans ?_
  rw [ExtTreeMap.map_fst_toList_eq_keys, ExtTreeMap.mem_keys]

theorem lost_of_retirement (state : RackState) (rack : RackRecord) (next : RackGeneration)
    (now : Timestamp) : (state.commitRackRetirement rack next now).NoLiveFenced := by
  intro boot record _ hfound
  obtain ⟨old, -, rfl⟩ := getElem?_map_cases hfound
  simp [PublisherState.Live]

/-- The submitter is active again after it has been fenced. -/
theorem live_of_retirement {rack : RackRecord} {next : RackGeneration} {now : Timestamp}
    {found : PublisherRef} (h : state.publishers[found.boot]? = some found.record) :
    ¬ ((state.commitRackRetirement rack next now).advancePublication (some found)).NoLiveFenced := by
  intro hnone
  have hmem : found.boot ∈ state.publishers := by
    simp [ExtTreeMap.mem_iff_isSome_getElem?, h]
  obtain ⟨record, hfound, hactive⟩ : ∃ record,
      ((state.commitRackRetirement rack next now).advancePublication
        (some found)).publishers[found.boot]? = some record ∧ record.state = .active := by
    simp [advancePublication, commitRackRetirement, ExtTreeMap.getElem?_map, h]
  have hfenced : found.boot ∈ (state.commitRackRetirement rack next now).fencedBoots :=
    fenced_of_retirement.mpr (Or.inl hmem)
  exact hnone _ _ hfenced hfound (Or.inr hactive)

theorem fencedBoots_advancePublication (committed : RackState) :
    (committed.advancePublication publisher).fencedBoots = committed.fencedBoots := by
  cases publisher <;> rfl

theorem retireRack_keeps (now : Timestamp) (request : RetireRackRequest) {boot : AgentBootId}
    (h : boot ∈ state.fencedBoots) : boot ∈ (state.retireRack now request).1.fencedBoots := by
  unfold retireRack
  split
  · exact h
  · rw [accept, fencedBoots_advancePublication, fenced_of_retirement]
    exact Or.inr h

theorem retireRack_revokes_iff (now : Timestamp) (request : RetireRackRequest)
    (h : state.NoLiveFenced) :
    (state.retireRack now request).1.NoLiveFenced ↔
      ((∃ admitted, admitRackRetirement state request = .ok admitted) →
        request.authority.boot = none) := by
  unfold retireRack
  cases hadmitted : admitRackRetirement state request with
  | error refusal =>
    refine iff_of_true h ?_
    rintro ⟨admitted, hok⟩
    cases hok
  | ok admitted =>
    obtain ⟨rack, publisher, next⟩ := admitted
    rw [forall_prop_of_true ⟨_, rfl⟩]
    rcases checkAuthority_ok (admitRackRetirement_ok hadmitted) with
      ⟨hnone, rfl⟩ | ⟨found, rfl, hsome, -, hrecord⟩
    · have hlost := lost_of_retirement state rack next now
      exact iff_of_true ((Settles.of_eq rfl rfl).revokes.revoked hlost) hnone
    · refine iff_of_false (live_of_retirement hrecord) ?_
      rw [hsome]
      exact Option.some_ne_none _

theorem boots_admitted {now : Timestamp} {mutation : Mutation} {committed : RackState}
    (hother : ∀ request, mutation ≠ .retireRack request)
    (h : Admitted options state now publisher mutation committed) :
    committed.publishers = state.publishers ∧ committed.fencedBoots = state.fencedBoots := by
  cases h with
  | rackRetirement => exact absurd rfl (hother _)
  | _ => exact ⟨rfl, rfl⟩

theorem settles_transition {now : Timestamp} {mutation : Mutation} {after : RackState}
    {outcome : Option MutationOutcome} (hother : ∀ request, mutation ≠ .retireRack request)
    (h : Transition options state now mutation after outcome) : Settles state after := by
  cases h with
  | refused => exact .refl _
  | noted refusal => exact settles_noteRefusal rfl rfl refusal
  | committed _ hauthority hadmitted =>
    obtain ⟨hpublishers, hfenced⟩ := boots_admitted hother hadmitted
    exact settles_committed hauthority hpublishers hfenced
  | @stopped _ publisher graph refusal =>
    apply @settles_noteRefusal state publisher { state with toRackGraph := graph } <;> rfl
  | refreshed hadmitted | registered hadmitted => exact settles_registered hadmitted _
  | declared | redeclared => exact .of_eq rfl rfl
  | beat hauthority => exact .modify rfl rfl (Or.inl (submitter_not_fenced hauthority))
  | fenced => exact settles_commitFence _ _ _ _
  | expired later =>
    have hfence : ∀ (between : RackState) now request, Settles state between →
        Settles state (between.fencePublisher now request).1 :=
      fun _ now request hbetween => hbetween.trans (fencePublisher_settles now request)
    exact expirePublishers_induction hfence (.refl state) later

/-- Every mutation but the retirement of the rack revokes without exception. -/
theorem step_settles (state : RackState) (input : Input)
    (hother : ∀ request, input.mutation ≠ .retireRack request) :
    Settles state (step options state input) :=
  settles_transition hother (perform_transition state input)

theorem step_keeps_fenced (state : RackState) (input : Input) {boot : AgentBootId}
    (h : boot ∈ state.fencedBoots) : boot ∈ (step options state input).fencedBoots := by
  by_cases hother : ∀ request, input.mutation ≠ .retireRack request
  · exact (step_settles state input hother).kept h
  · push Not at hother
    obtain ⟨request, hrequest⟩ := hother
    unfold step perform
    rw [hrequest]
    exact retireRack_keeps input.now request h

theorem step_revokes_iff (state : RackState) (input : Input) (h : state.NoLiveFenced) :
    (step options state input).NoLiveFenced ↔ KeepsFences state input := by
  obtain ⟨now, mutation⟩ := input
  cases mutation with
  | retireRack request => exact retireRack_revokes_iff now request h
  | _ =>
    exact iff_of_true
      ((step_settles state _ fun _ heq => by cases heq).revokes.revoked h) trivial

/-- From a state where the boot is fenced: it stays fenced, none of its records
is live, and none of its mutations is accepted. -/
def RevokedFrom (options : RackFabricOptions) (inputs : List Input) (boot : AgentBootId) : Prop :=
  ∀ before between, before ++ between <+: inputs →
    boot ∈ (Execution.run (step options) (fresh options) before).fencedBoots →
    let later := Execution.run (step options) (fresh options) (before ++ between)
    boot ∈ later.fencedBoots ∧
      (∀ record, later.publishers[boot]? = some record → ¬ record.state.Live) ∧
      ∀ input, before ++ between ++ [input] <+: inputs →
        input.mutation.submittedBy = some boot →
        (later.perform options input).2 ≠ some .accepted

theorem fenced_of_fenced (options : RackFabricOptions) (state : RackState) (inputs : List Input)
    {boot : AgentBootId} (h : boot ∈ state.fencedBoots) :
    boot ∈ (Execution.run (step options) state inputs).fencedBoots :=
  Execution.invariant (step options) (fun state input => step_keeps_fenced state input) h inputs

/-- Fencing is permanent in a run exactly when no boot retires the rack in it. -/
theorem fencing_permanent_iff (options : RackFabricOptions) (inputs : List Input) :
    (∀ boot, RevokedFrom options inputs boot) ↔
      Execution.EachStep (step options) KeepsFences (fresh options) inputs := by
  have hstart : (fresh options).NoLiveFenced := by
    intro boot record hboot
    simp [fresh] at hboot
  rw [← Execution.always_iff_eachStep (step options) (fun _ => True) (fun _ _ _ => trivial)
    (fun state input _ h => step_revokes_iff state input h) trivial hstart]
  constructor
  · intro h before hbefore boot record hboot hfound
    exact (h boot before [] (by simpa using hbefore) hboot).2.1 record (by simpa using hfound)
  · intro h boot before between hinitial hboot
    have hlater : boot ∈
        (Execution.run (step options) (fresh options) (before ++ between)).fencedBoots := by
      rw [Execution.run_append]
      exact fenced_of_fenced options _ between hboot
    refine ⟨hlater, fun record hfound => h _ hinitial _ _ hlater hfound, ?_⟩
    intro input _ hsubmitted haccepted
    exact not_fenced_of_accepted hsubmitted haccepted (perform_transition _ input) hlater

def rackRetiredByBootInputs : List Input :=
  [Scenario.declareRack,
    Scenario.registerPublisher Scenario.bootA,
    { mutation := .retireRack { authority := Scenario.process Scenario.bootA } },
    { mutation := .heartbeat { authority := Scenario.operator } }]

/-- The boot that retires the rack is fenced with the others, and active afterwards. -/
theorem rack_retirement_revives_boot :
    ¬ ∀ boot, RevokedFrom Scenario.defaults rackRetiredByBootInputs boot := by
  intro h
  have hfenced : Scenario.bootA ∈ (Scenario.run (rackRetiredByBootInputs.take 3)).fencedBoots := by
    decide +kernel
  have hactive : (Scenario.run rackRetiredByBootInputs).publishers[Scenario.bootA]?.map (·.state) =
      some .active := by
    decide +kernel
  obtain ⟨record, hfound, hstate⟩ := Option.map_eq_some_iff.mp hactive
  exact (h Scenario.bootA (rackRetiredByBootInputs.take 3) (rackRetiredByBootInputs.drop 3)
    (List.prefix_refl _) hfenced).2.1 record hfound (Or.inr hstate)

end RackState

end RackFabric
