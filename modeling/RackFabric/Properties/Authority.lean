import RackFabric.Properties.Fencing
import RackFabric.Properties.Transitions

/-! What the authority check has established, and what a run does to the records
of the publishers. -/
namespace RackFabric
open Std Tables RackState

/-- The record keeps its publication generation and the epoch of its registration;
its other fields may change at will. -/
structure PublisherRecord.Keeps (record successor : PublisherRecord) : Prop where
  generation : successor.publicationGeneration = record.publicationGeneration
  epoch : successor.coordinatorEpoch = record.coordinatorEpoch

theorem PublisherRecord.Keeps.refl (record : PublisherRecord) : record.Keeps record :=
  ⟨rfl, rfl⟩

theorem PublisherRecord.Keeps.trans (first second third : PublisherRecord)
    (hfirst : first.Keeps second) (hsecond : second.Keeps third) : first.Keeps third :=
  ⟨hsecond.generation.trans hfirst.generation, hsecond.epoch.trans hfirst.epoch⟩

/-- The record goes on: its publication generation has not gone back, and it is
registered under the same epoch. -/
structure PublisherRecord.Continues (record successor : PublisherRecord) : Prop where
  generation : record.publicationGeneration ≤ successor.publicationGeneration
  epoch : successor.coordinatorEpoch = record.coordinatorEpoch

namespace PublisherRecord.Continues

theorem refl (record : PublisherRecord) : record.Continues record :=
  ⟨Generation.le_refl _, rfl⟩

theorem trans (first second third : PublisherRecord) (hfirst : first.Continues second)
    (hsecond : second.Continues third) : first.Continues third :=
  ⟨Generation.le_trans hfirst.generation hsecond.generation, hsecond.epoch.trans hfirst.epoch⟩

theorem of_keeps {record successor : PublisherRecord} (h : record.Keeps successor) :
    record.Continues successor :=
  ⟨h.generation ▸ Generation.le_refl _, h.epoch⟩

end PublisherRecord.Continues

def Mutation.spendsPublication : Mutation → Bool
  | .registerPublisher _ | .declareRack _ | .fencePublisher _ | .heartbeat _
  | .expirePublishers _ => false
  | _ => true

namespace RackState
variable {options : RackFabricOptions} {state : RackState}

/-- An accepted token carries the epoch in force. -/
theorem epoch_of_authorized {token : AuthorityToken} {rackScoped : Bool}
    {publisher : Option PublisherRef}
    (h : state.checkAuthority token rackScoped = .ok publisher) :
    token.coordinatorEpoch = state.generations.coordinatorEpoch := by
  unfold checkAuthority at h
  simp only [bind_eq_ok, refuseIf_eq_ok, exists_and_left, exists_const] at h
  simpa using h.1

/-- The publisher behind an accepted token is live under the epoch in force, and
the token does not name another publication generation than the current one. -/
structure Authorized (state : RackState) (token : AuthorityToken) (found : PublisherRef) :
    Prop where
  boot : token.boot = some found.boot
  epoch : token.coordinatorEpoch = state.generations.coordinatorEpoch
  not_retired : state.rack.any (·.retired) = false
  not_fenced : found.boot ∉ state.fencedBoots
  recorded : state.publishers[found.boot]? = some found.record
  live : found.record.state ≠ .lost ∧ found.record.state ≠ .fenced
  registered : found.record.coordinatorEpoch = state.generations.coordinatorEpoch
  sequenced : ∀ generation, token.publicationGeneration = some generation →
    generation = found.record.publicationGeneration

theorem sequenced_of_ok {token : AuthorityToken} {boot : AgentBootId} {record : PublisherRecord}
    (h : checkSequence token boot record = .ok ()) {generation : PublicationGeneration}
    (hpresented : token.publicationGeneration = some generation) :
    generation = record.publicationGeneration := by
  unfold checkSequence at h
  simp only [hpresented, refuseIf_bind_eq_ok, refuseIf_eq_ok, decide_eq_false_iff_not] at h
  exact Generation.eq_of_not_lt h.1 h.2

theorem authorized_of_ok {token : AuthorityToken} {rackScoped : Bool} {found : PublisherRef}
    (h : state.checkAuthority token rackScoped = .ok (some found)) :
    state.Authorized token found := by
  have hepoch := epoch_of_authorized h
  unfold checkAuthority at h
  simp only [bind_eq_ok, refuseIf_eq_ok, exists_and_left, exists_const] at h
  obtain ⟨-, _, -, hretired, h⟩ := h
  cases hboot : token.boot with
  | none =>
    rw [hboot] at h
    cases h
  | some boot =>
    rw [hboot] at h
    simp only [bind_eq_ok, pure_eq_ok, Option.some.injEq] at h
    obtain ⟨found, hfound, rfl⟩ := h
    unfold checkPublisher at hfound
    simp only [bind_eq_ok, refuseIf_eq_ok, require_eq_ok, exists_and_left, exists_const,
      pure_eq_ok] at hfound
    obtain ⟨hfenced, record, hrecord, hlive, hregistered, ⟨⟩, hsequence, rfl⟩ := hfound
    exact {
      boot := hboot
      epoch := hepoch
      not_retired := hretired
      not_fenced := by simpa [← ExtTreeMap.contains_iff_mem] using hfenced
      recorded := hrecord
      live := by simpa using hlive
      registered := by simpa using hregistered
      sequenced := fun _ => sequenced_of_ok hsequence }

theorem authorized_of_accepted {now : Timestamp} {mutation : Mutation} {token : AuthorityToken}
    {boot : AgentBootId} {after : RackState} {outcome : Option MutationOutcome}
    (htoken : mutation.token = some token) (hboot : token.boot = some boot)
    (haccepted : outcome = some .accepted)
    (h : Transition options state now mutation after outcome) :
    ∃ found, state.Authorized token found ∧ found.boot = boot := by
  obtain ⟨publisher, hauthority⟩ := authority_of_accepted htoken haccepted h
  rcases checkAuthority_ok hauthority with ⟨hnone, -⟩ | ⟨found, rfl, hsome, -⟩
  · rw [hnone] at hboot
    cases hboot
  · exact ⟨found, authorized_of_ok hauthority, Option.some.inj (hsome.symm.trans hboot)⟩

/-! What becomes of the publishers: only a mutation that spends a publication
advances one. -/

theorem publishers_noteRefusal (publisher : Option PublisherRef) (refusal : Refusal) :
    Followed PublisherRecord.Keeps state.publishers
      (state.noteRefusal publisher refusal).publishers := by
  cases publisher with
  | none => exact Followed.refl .refl _
  | some found =>
    simp only [noteRefusal]
    split
    · exact Followed.refl .refl _
    · exact Followed.modify .refl fun record _ => ⟨rfl, rfl⟩

theorem publishers_admitted {now : Timestamp} {publisher : Option PublisherRef}
    {mutation : Mutation} {committed : RackState}
    (h : Admitted options state now publisher mutation committed) :
    Followed PublisherRecord.Keeps state.publishers committed.publishers := by
  cases h with
  | rackRetirement => exact Followed.map fun key record _ => ⟨rfl, rfl⟩
  | _ => exact Followed.refl .refl _

theorem spendsPublication_of_admitted {now : Timestamp} {publisher : Option PublisherRef}
    {mutation : Mutation} {committed : RackState}
    (h : Admitted options state now publisher mutation committed) :
    mutation.spendsPublication = true := by
  cases h <;> rfl

theorem publishers_commitFence {boot : AgentBootId} {publisher : PublisherRecord}
    (hfound : state.publishers[boot]? = some publisher) (reason : RevalidationReason)
    (now : Timestamp) :
    Followed PublisherRecord.Keeps state.publishers
      (state.commitFence boot publisher reason now).publishers := by
  refine Followed.insert .refl fun existing hexisting => ?_
  rw [hfound] at hexisting
  cases hexisting
  exact ⟨rfl, rfl⟩

theorem publishers_fencePublisher (now : Timestamp) (request : FencePublisherRequest) :
    Followed PublisherRecord.Keeps state.publishers
      (state.fencePublisher now request).1.publishers := by
  unfold fencePublisher
  split
  · exact Followed.refl .refl _
  · rename_i boot publisher hadmitted
    exact publishers_commitFence (admitFence_ok hadmitted) request.reason now

/-- A step keeps every publisher, or it commits a mutation and then advances the
publication it was accepted under. -/
theorem publishers_transition {now : Timestamp} {mutation : Mutation} {after : RackState}
    {outcome : Option MutationOutcome} (h : Transition options state now mutation after outcome) :
    (Followed PublisherRecord.Keeps state.publishers after.publishers ∧
      (mutation.spendsPublication = true → outcome ≠ some .accepted)) ∨
    ∃ token publisher, ∃ committed : RackState, mutation.token = some token ∧
      state.checkAuthority token true = .ok publisher ∧ mutation.spendsPublication = true ∧
      outcome = some .accepted ∧
      Followed PublisherRecord.Keeps state.publishers committed.publishers ∧
      after = committed.advancePublication publisher := by
  have hsame : Followed PublisherRecord.Keeps state.publishers state.publishers :=
    Followed.refl .refl _
  cases h with
  | refused hrefused => exact Or.inl ⟨hsame, fun _ => by simpa using hrefused⟩
  | noted refusal =>
    exact Or.inl ⟨publishers_noteRefusal _ refusal, fun _ => by simpa using refusal.not_accepted⟩
  | committed htoken hauthority hadmitted =>
    exact Or.inr ⟨_, _, _, htoken, hauthority, spendsPublication_of_admitted hadmitted, rfl,
      publishers_admitted hadmitted, rfl⟩
  | @stopped _ publisher graph refusal _ _ =>
    have hnoted := { state with toRackGraph := graph }.publishers_noteRefusal publisher refusal
    exact Or.inl ⟨hnoted, fun _ => by simpa using refusal.not_accepted⟩
  | refreshed hadmitted hfound =>
    refine Or.inl ⟨Followed.insert .refl fun existing hexisting => ?_, fun _ => by decide⟩
    rw [hfound] at hexisting
    cases hexisting
    exact ⟨rfl, rfl⟩
  | registered hadmitted hnew =>
    refine Or.inl ⟨Followed.insert .refl fun existing hexisting => ?_, fun h => by cases h⟩
    rw [hnew] at hexisting
    cases hexisting
  | beat =>
    exact Or.inl ⟨Followed.modify .refl fun record _ => ⟨rfl, rfl⟩, fun h => by cases h⟩
  | fenced hadmitted =>
    exact Or.inl ⟨publishers_commitFence (admitFence_ok hadmitted) _ _, fun h => by cases h⟩
  | expired later =>
    have hfence : ∀ (between : RackState) now request,
        Followed PublisherRecord.Keeps state.publishers between.publishers →
          Followed PublisherRecord.Keeps state.publishers
            (between.fencePublisher now request).1.publishers :=
      fun between now request hbetween =>
        hbetween.trans .trans (publishers_fencePublisher now request)
    exact Or.inl ⟨expirePublishers_induction hfence hsame later, fun h => by cases h⟩
  | declared | redeclared => exact Or.inl ⟨hsame, fun h => by cases h⟩

theorem le_getD_next {tag : GenerationTag} (generation : Generation tag) :
    generation ≤ generation.next.getD generation := by
  cases hnext : generation.next with
  | none => exact Generation.le_refl _
  | some next => exact Generation.le_of_lt (Generation.lt_of_next hnext)

theorem publishers_advancePublication (publisher : Option PublisherRef) :
    Followed PublisherRecord.Continues state.publishers
      (state.advancePublication publisher).publishers := by
  cases publisher with
  | none => exact Followed.refl .refl _
  | some found => exact Followed.modify .refl fun record _ => ⟨le_getD_next _, rfl⟩

/-- No mutation takes a publisher back. -/
theorem publishers_followed {now : Timestamp} {mutation : Mutation} {after : RackState}
    {outcome : Option MutationOutcome} (h : Transition options state now mutation after outcome) :
    Followed PublisherRecord.Continues state.publishers after.publishers := by
  rcases publishers_transition h with ⟨hkept, -⟩ | ⟨_, publisher, _, -, -, -, -, hkept, rfl⟩
  · exact hkept.mono .of_keeps
  · exact (hkept.mono .of_keeps).trans .trans (publishers_advancePublication publisher)

theorem generation_advancePublication {boot : AgentBootId} {record : PublisherRecord}
    (hfound : state.publishers[boot]? = some record) (publisher : Option PublisherRef) :
    ∃ later, (state.advancePublication publisher).publishers[boot]? = some later ∧
      later.publicationGeneration =
        if publisher.map (·.boot) = some boot then
          record.publicationGeneration.next.getD record.publicationGeneration
        else record.publicationGeneration := by
  cases publisher with
  | none => exact ⟨record, hfound, rfl⟩
  | some found =>
    by_cases hboot : found.boot = boot
    · subst hboot
      exact ⟨_, by simp [advancePublication, hfound]; rfl, by simp⟩
    · exact ⟨record, by simp [advancePublication, ExtTreeMap.getElem?_modify, hboot, hfound],
        by simp [hboot]⟩

/-- The publication generation of a boot advances with the accepted mutations
that the boot submits, and with nothing else. -/
theorem generation_transition {now : Timestamp} {mutation : Mutation} {after : RackState}
    {outcome : Option MutationOutcome} (h : Transition options state now mutation after outcome)
    {boot : AgentBootId} {record : PublisherRecord}
    (hfound : state.publishers[boot]? = some record) :
    ∃ later, after.publishers[boot]? = some later ∧
      later.publicationGeneration =
        if mutation.spendsPublication = true ∧ mutation.submittedBy = some boot ∧
          outcome = some .accepted
        then record.publicationGeneration.next.getD record.publicationGeneration
        else record.publicationGeneration := by
  rcases publishers_transition h with ⟨hkept, hrefused⟩ |
    ⟨token, publisher, committed, htoken, hauthority, hspends, haccepted, hkept, rfl⟩
  · obtain ⟨later, hlater, hkeeps⟩ := hkept boot record hfound
    refine ⟨later, hlater, ?_⟩
    rw [if_neg (fun hspent => hrefused hspent.1 hspent.2.2), hkeeps.generation]
  · obtain ⟨between, hbetween, hkeeps⟩ := hkept boot record hfound
    obtain ⟨later, hlater, hgeneration⟩ := generation_advancePublication hbetween publisher
    refine ⟨later, hlater, ?_⟩
    have hboot : publisher.map (·.boot) = token.boot := by
      rcases checkAuthority_ok hauthority with ⟨hnone, rfl⟩ | ⟨found, rfl, hsome, -⟩
      · simp [hnone]
      · simp [hsome]
    rw [hgeneration, hboot, hkeeps.generation, ← Mutation.submittedBy_of_token htoken]
    simp [hspends, haccepted]

theorem publishers_run (options : RackFabricOptions) (inputs : List Input) :
    Execution.Ordered (step options)
      (fun before after => Followed PublisherRecord.Continues before.publishers after.publishers)
      (fresh options) inputs := by
  refine (Execution.ordered_iff_eachStep (step options)
    (fun before after => Followed PublisherRecord.Continues before.publishers after.publishers)
    (fun state => Followed.refl .refl state.publishers)
    (fun hfirst hsecond => hfirst.trans .trans hsecond) (fresh options) inputs).mpr ?_
  exact fun before input _ => publishers_followed (perform_transition _ input)

end RackState

end RackFabric
