import RackFabric.Properties.Authority

/-! A lease that has run out is enforced once the publisher has been fenced. -/
namespace RackFabric
open Std Tables RackState

namespace PublisherRecord

def Overdue (record : PublisherRecord) (now : Timestamp) : Prop :=
  0 < record.leaseMillis.toInt ∧
    record.leaseMillis.toInt < now.unixMillis.toInt - record.lastSeenAt.unixMillis.toInt

abbrev Revoked (record : PublisherRecord) : Prop :=
  record.state = .lost ∨ record.state = .fenced

end PublisherRecord

namespace RackState
variable {options : RackFabricOptions} {state : RackState}

def Ended (state : RackState) : Prop :=
  state.rack.any (·.retired) = true

/-- The publishers are registered under the epoch in force, and those of fenced
boots are revoked while the rack goes on. -/
structure Roster (state : RackState) : Prop where
  epochs : ∀ {boot : AgentBootId} {record : PublisherRecord},
    state.publishers[boot]? = some record →
      record.coordinatorEpoch = state.generations.coordinatorEpoch
  revoked : ∀ {boot : AgentBootId} {record : PublisherRecord}, boot ∈ state.fencedBoots →
    state.publishers[boot]? = some record → record.Revoked ∨ state.Ended

namespace Roster

theorem of_eq {after : RackState} (h : state.Roster)
    (hpublishers : after.publishers = state.publishers)
    (hfenced : after.fencedBoots = state.fencedBoots)
    (hrack : state.Ended → after.Ended)
    (hepoch : after.generations.coordinatorEpoch = state.generations.coordinatorEpoch) :
    after.Roster where
  epochs hfound := (h.epochs (hpublishers ▸ hfound)).trans hepoch.symm
  revoked hmem hfound := (h.revoked (hfenced ▸ hmem) (hpublishers ▸ hfound)).imp_right hrack

/-- A publisher that is not fenced, or whose state is kept, may be revised. -/
theorem modify (h : state.Roster) {boot : AgentBootId}
    {revise : PublisherRecord → PublisherRecord}
    (hepoch : ∀ record, (revise record).coordinatorEpoch = record.coordinatorEpoch)
    (hfree : boot ∉ state.fencedBoots ∨ state.Ended ∨
      ∀ record, (revise record).state = record.state) :
    { state with publishers := state.publishers.modify boot revise }.Roster where
  epochs hfound := by
    rw [ExtTreeMap.getElem?_modify] at hfound
    split at hfound
    · obtain ⟨old, hold, rfl⟩ := Option.map_eq_some_iff.mp hfound
      exact (hepoch old).trans (h.epochs hold)
    · exact h.epochs hfound
  revoked {other record} hmem hfound := by
    rw [ExtTreeMap.getElem?_modify] at hfound
    split at hfound
    · rename_i heq
      obtain rfl := LawfulEqCmp.compare_eq_iff_eq.mp heq
      obtain ⟨old, hold, rfl⟩ := Option.map_eq_some_iff.mp hfound
      rcases hfree with hfree | hended | hstate
      · exact absurd hmem hfree
      · exact Or.inr hended
      · unfold PublisherRecord.Revoked
        rw [hstate]
        exact h.revoked hmem hold
    · exact h.revoked hmem hfound

theorem insert (h : state.Roster) {boot : AgentBootId} {publisher : PublisherRecord}
    (hepoch : publisher.coordinatorEpoch = state.generations.coordinatorEpoch)
    (hfree : boot ∉ state.fencedBoots) :
    { state with publishers := state.publishers.insert boot publisher }.Roster where
  epochs hfound := by
    rcases getElem?_insert_cases hfound with ⟨-, rfl⟩ | ⟨-, hold⟩
    · exact hepoch
    · exact h.epochs hold
  revoked hmem hfound := by
    rcases getElem?_insert_cases hfound with ⟨rfl, -⟩ | ⟨-, hold⟩
    · exact absurd hmem hfree
    · exact h.revoked hmem hold

theorem noteRefusal (h : state.Roster) (publisher : Option PublisherRef) (refusal : Refusal) :
    (state.noteRefusal publisher refusal).Roster := by
  cases publisher with
  | none => exact h
  | some found =>
    simp only [RackState.noteRefusal]
    split
    · exact h
    · exact h.modify (fun _ => rfl) (Or.inr (Or.inr fun _ => rfl))

theorem advancePublication (h : state.Roster) (publisher : Option PublisherRef)
    (hfree : ∀ found, publisher = some found → found.boot ∉ state.fencedBoots ∨ state.Ended) :
    (state.advancePublication publisher).Roster := by
  cases publisher with
  | none => exact h.of_eq rfl rfl id rfl
  | some found =>
    refine h.modify (fun _ => rfl) ?_
    rcases hfree found rfl with hfree | hended
    · exact Or.inl hfree
    · exact Or.inr (Or.inl hended)

theorem commitFence (h : state.Roster) {boot : AgentBootId} {publisher : PublisherRecord}
    (hfound : state.publishers[boot]? = some publisher) (reason : RevalidationReason)
    (now : Timestamp) : (state.commitFence boot publisher reason now).Roster where
  epochs hother := by
    rcases getElem?_insert_cases hother with ⟨-, rfl⟩ | ⟨-, hold⟩
    · have hepoch := h.epochs hfound
      exact hepoch
    · exact h.epochs hold
  revoked hmem hother := by
    rcases getElem?_insert_cases hother with ⟨-, rfl⟩ | ⟨hne, hold⟩
    · exact Or.inl (Or.inr rfl)
    · refine h.revoked ?_ hold
      rcases ExtTreeMap.mem_insert.mp hmem with heq | hold'
      · exact absurd (LawfulEqCmp.compare_eq_iff_eq.mp heq).symm hne
      · exact hold'

theorem fencePublisher (h : state.Roster) (now : Timestamp) (request : FencePublisherRequest) :
    (state.fencePublisher now request).1.Roster := by
  unfold RackState.fencePublisher
  split
  · exact h
  · rename_i boot publisher hadmitted
    exact h.commitFence (admitFence_ok hadmitted) request.reason now

theorem commitRackRetirement (h : state.Roster) (rack : RackRecord) (next : RackGeneration)
    (now : Timestamp) : (state.commitRackRetirement rack next now).Roster where
  epochs hfound := by
    obtain ⟨old, hold, rfl⟩ := getElem?_map_cases hfound
    have hepoch := h.epochs hold
    exact hepoch
  revoked _ _ := Or.inr rfl

theorem committed (h : state.Roster) {now : Timestamp} {token : AuthorityToken}
    {publisher : Option PublisherRef} {mutation : Mutation} {committed : RackState}
    (hauthority : state.checkAuthority token true = .ok publisher)
    (hadmitted : Admitted options state now publisher mutation committed) :
    (committed.advancePublication publisher).Roster := by
  have hfree : ∀ found, publisher = some found → found.boot ∉ state.fencedBoots := by
    rintro found rfl
    exact (authorized_of_ok hauthority).not_fenced
  cases hadmitted with
  | rackRetirement hretired =>
    exact (h.commitRackRetirement _ _ _).advancePublication _ fun _ _ => Or.inr rfl
  | _ =>
    refine advancePublication ?_ _ fun found hfound => Or.inl (hfree found hfound)
    exact h.of_eq rfl rfl id rfl

theorem transition (h : state.Roster) {now : Timestamp} {mutation : Mutation}
    {after : RackState} {outcome : Option MutationOutcome}
    (htransition : Transition options state now mutation after outcome) : after.Roster := by
  cases htransition with
  | refused => exact h
  | noted refusal => exact h.noteRefusal _ refusal
  | committed htoken hauthority hadmitted => exact h.committed hauthority hadmitted
  | @stopped _ _ graph refusal _ _ =>
    have hgraph : { state with toRackGraph := graph }.Roster := h.of_eq rfl rfl id rfl
    exact hgraph.noteRefusal _ refusal
  | refreshed hadmitted hfound =>
    have hepoch := h.epochs hfound
    exact h.insert hepoch (registered_not_fenced hadmitted).2
  | registered hadmitted => exact h.insert rfl (registered_not_fenced hadmitted).2
  | declared hadmitted hnone =>
    refine h.of_eq rfl rfl (fun hended => ?_) rfl
    simp [Ended, hnone] at hended
  | redeclared hadmitted hsome =>
    refine h.of_eq rfl rfl (fun hended => ?_) rfl
    simpa [Ended, hsome, commitRedeclaration] using hended
  | beat hauthority =>
    exact h.modify (fun _ => rfl) (Or.inl (authorized_of_ok hauthority).not_fenced)
  | fenced hadmitted => exact h.commitFence (admitFence_ok hadmitted) _ _
  | expired later =>
    exact expirePublishers_induction (fun _ now request h => h.fencePublisher now request) h later

end Roster

theorem roster_run (options : RackFabricOptions) (inputs : List Input) :
    (Execution.run (step options) (fresh options) inputs).Roster := by
  refine Execution.invariant (step options)
    (fun state input h => h.transition (perform_transition state input)) ?_ inputs
  constructor <;> simp [fresh]

def Leased (options : RackFabricOptions) (state : RackState) (input : Input) : Prop :=
  ∀ boot record, input.mutation.submittedBy = some boot →
    state.publishers[boot]? = some record → record.Overdue input.now →
    (state.perform options input).2 ≠ some .accepted ∧ state.step options input = state

def Expired (state : RackState) (now : Timestamp) : Prop :=
  state.Ended ∨ ∀ (boot : AgentBootId) (record : PublisherRecord),
    state.publishers[boot]? = some record → record.Overdue now → record.Revoked

theorem not_authorized_of_revoked {token : AuthorityToken} {rackScoped : Bool}
    {publisher : Option PublisherRef} {boot : AgentBootId} {record : PublisherRecord}
    (hboot : token.boot = some boot) (hfound : state.publishers[boot]? = some record)
    (hrevoked : state.Ended ∨ record.Revoked) :
    state.checkAuthority token rackScoped ≠ .ok publisher := by
  intro hauthority
  rcases checkAuthority_ok hauthority with ⟨hnone, -⟩ | ⟨found, rfl, hsome, -⟩
  · rw [hnone] at hboot
    cases hboot
  · have hauthorized := authorized_of_ok hauthority
    obtain rfl := Option.some.inj (hsome.symm.trans hboot)
    obtain rfl := Option.some.inj (hauthorized.recorded.symm.trans hfound)
    rcases hrevoked with hended | hlost | hfenced
    · have hgoing := hauthorized.not_retired
      rw [hended] at hgoing
      cases hgoing
    · exact hauthorized.live.1 hlost
    · exact hauthorized.live.2 hfenced

theorem not_registered_of_revoked {request : RegisterPublisherRequest} {worker : WorkerId}
    {boot : AgentBootId} {record : PublisherRecord}
    (hfound : state.publishers[boot]? = some record) (hrevoked : state.Ended ∨ record.Revoked) :
    admitRegistration options state request ≠ .ok (worker, boot) := by
  intro hadmitted
  unfold admitRegistration at hadmitted
  simp only [bind_eq_ok, refuseIf_eq_ok, require_eq_ok, exists_and_left, exists_const, pure_eq_ok,
    Prod.mk.injEq] at hadmitted
  obtain ⟨_, -, _, -, _, -, -, rack, hrack, -, hgoing, -, -, _, hregistered, rfl, rfl⟩ := hadmitted
  rw [hfound] at hregistered
  simp only [admitRegistered, refuseIf_bind_eq_ok, decide_eq_false_iff_not] at hregistered
  rcases hrevoked with hended | hrevoked
  · simp [Ended, hrack, hgoing] at hended
  · exact hregistered.1 hrevoked

/-- Whoever is revoked can only be refused, and leaves the state as it is. -/
theorem refused_of_revoked {now : Timestamp} {mutation : Mutation} {after : RackState}
    {outcome : Option MutationOutcome} {boot : AgentBootId} {record : PublisherRecord}
    (hsubmitted : mutation.submittedBy = some boot)
    (hfound : state.publishers[boot]? = some record) (hrevoked : state.Ended ∨ record.Revoked)
    (h : Transition options state now mutation after outcome) :
    outcome ≠ some .accepted ∧ after = state := by
  have hauthority {token rackScoped publisher} (htoken : mutation.token = some token) :
      state.checkAuthority token rackScoped ≠ .ok publisher :=
    not_authorized_of_revoked ((Mutation.submittedBy_of_token htoken).symm.trans hsubmitted)
      hfound hrevoked
  cases h with
  | refused hrefused => exact ⟨fun haccepted => hrefused (Option.some.inj haccepted), rfl⟩
  | noted _ htoken hok | committed htoken hok => exact absurd hok (hauthority htoken)
  | stopped hok | beat hok => exact absurd hok (hauthority rfl)
  | declared hadmitted | redeclared hadmitted =>
    obtain ⟨_, hok⟩ := admitDeclaration_ok hadmitted
    exact absurd hok (hauthority rfl)
  | refreshed hadmitted | registered hadmitted =>
    obtain rfl := Option.some.inj ((registered_not_fenced hadmitted).1.symm.trans hsubmitted)
    exact absurd hadmitted (not_registered_of_revoked hfound hrevoked)
  | fenced | expired => cases hsubmitted

def heartbeatOf (state : RackState) (boot : AgentBootId) : Mutation :=
  .heartbeat { authority :=
    { coordinatorEpoch := state.generations.coordinatorEpoch, boot := some boot } }

/-- A publisher that is not revoked is still heard. -/
theorem live_heartbeat_accepted (h : state.Roster) (now : Timestamp) {boot : AgentBootId}
    {record : PublisherRecord} (hfound : state.publishers[boot]? = some record)
    (hended : ¬ state.Ended) (hlive : ¬ record.Revoked) :
    (state.perform options ⟨now, state.heartbeatOf boot⟩).2 = some .accepted := by
  have hfree : boot ∉ state.fencedBoots := fun hmem =>
    (h.revoked hmem hfound).elim hlive hended
  have hunfenced : state.fencedBoots.contains boot = false := by
    simpa [← ExtTreeMap.contains_iff_mem] using hfree
  have hpublisher (token : AuthorityToken) (hsequence : token.publicationGeneration = none) :
      state.checkPublisher token boot = .ok ⟨boot, record⟩ := by
    unfold checkPublisher checkSequence
    simp only [bind_eq_ok, refuseIf_eq_ok, require_eq_ok, pure_eq_ok, exists_and_left,
      exists_const, hsequence]
    exact ⟨hunfenced, record, hfound, decide_eq_false hlive, by simp [h.epochs hfound], trivial,
      rfl⟩
  have hauthority : state.checkAuthority
      { coordinatorEpoch := state.generations.coordinatorEpoch, boot := some boot } false =
        .ok (some ⟨boot, record⟩) := by
    unfold checkAuthority
    simp only [bind_eq_ok, refuseIf_eq_ok, pure_eq_ok, exists_and_left, exists_const]
    exact ⟨by simp, (), rfl, by simpa [Ended] using hended, _, hpublisher _ rfl, rfl⟩
  simp [perform, heartbeatOf, heartbeat, hauthority, accept, makeResult]

/-- The lease is enforced on every mutation exactly when each publisher whose
lease has run out has been fenced, or the rack is retired. -/
theorem lease_enforced_iff (options : RackFabricOptions) (inputs : List Input) (now : Timestamp) :
    let state := Execution.run (step options) (fresh options) inputs
    (∀ mutation, state.Leased options ⟨now, mutation⟩) ↔ state.Expired now := by
  intro state
  constructor
  · intro h
    by_cases hended : state.Ended
    · exact Or.inl hended
    refine Or.inr fun boot record hfound hoverdue => ?_
    by_contra hlive
    exact (h (state.heartbeatOf boot) boot record rfl hfound hoverdue).1
      (live_heartbeat_accepted (roster_run options inputs) now hfound hended hlive)
  · intro h mutation boot record hsubmitted hfound hoverdue
    have hrevoked : state.Ended ∨ record.Revoked :=
      h.imp_right fun h => h boot record hfound hoverdue
    exact refused_of_revoked hsubmitted hfound hrevoked (perform_transition state _)

def registeredInputs : List Input :=
  [Scenario.declareRack, Scenario.registerPublisher Scenario.bootA]

def lateHeartbeat : Input where
  now := ⟨20000⟩
  mutation := .heartbeat { authority := Scenario.process Scenario.bootA }

/-- The lease of five seconds has run out long before the heartbeat. -/
theorem overdue_heartbeat_accepted :
    ¬ (Scenario.run registeredInputs).Leased Scenario.defaults lateHeartbeat := by
  intro h
  have hregistered : (Scenario.run registeredInputs).publishers[Scenario.bootA]?.map
      (fun record => (record.leaseMillis, record.lastSeenAt)) = some (5000, ⟨1000⟩) := by
    decide +kernel
  have haccepted : ((Scenario.run registeredInputs).perform Scenario.defaults lateHeartbeat).2 =
      some .accepted := by
    decide +kernel
  obtain ⟨record, hfound, hlease⟩ := Option.map_eq_some_iff.mp hregistered
  obtain ⟨hmillis, hseen⟩ := Prod.mk.inj hlease
  have hoverdue : record.Overdue lateHeartbeat.now := by
    unfold PublisherRecord.Overdue
    rw [hmillis, hseen]
    decide
  exact (h Scenario.bootA record rfl hfound hoverdue).1 haccepted

end RackState

end RackFabric
