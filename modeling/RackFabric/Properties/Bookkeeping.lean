import Mathlib.Algebra.Group.Prod
import Mathlib.Data.UInt
import RackFabric.Library.Totals
import RackFabric.Properties.Authority

/-! What the records of the publishers count, against what a run has done for them. -/
namespace RackFabric
open Std Tables Totals

def Mutation.notesRefusals : Mutation → Bool
  | .registerPublisher _ | .declareRack _ | .retireRack _ | .fencePublisher _ | .heartbeat _
  | .expirePublishers _ | .publishSnapshot _ => false
  | _ => true

def PublisherRecord.booked (record : PublisherRecord) : UInt64 × UInt64 :=
  (record.acceptedMutations, record.rejectedMutations)

namespace RackState

def signer (state : RackState) (token : AuthorityToken) : Option AgentBootId :=
  match state.checkAuthority token true with
  | .ok publisher => publisher.map (·.boot)
  | .error _ => none

def credited (options : RackFabricOptions) (state : RackState) (input : Input) :
    Option AgentBootId :=
  if input.mutation.spendsPublication ∧ (state.perform options input).2 = some .accepted then
    input.mutation.submittedBy
  else none

/-- The boot that the step counts a refusal against: an unchanged request is none. -/
def charged (options : RackFabricOptions) (state : RackState) (input : Input) :
    Option AgentBootId :=
  if input.mutation.notesRefusals ∧ (state.perform options input).2 ≠ some .accepted ∧
      (state.perform options input).2 ≠ some .noChange then
    input.mutation.token.bind state.signer
  else none

def entry (credit charge : Option AgentBootId) (boot : AgentBootId) : UInt64 × UInt64 :=
  (if credit = some boot then 1 else 0, if charge = some boot then 1 else 0)

def Books (state after : RackState) (credit charge : Option AgentBootId) : Prop :=
  ∀ boot, held PublisherRecord.booked after.publishers boot =
    held PublisherRecord.booked state.publishers boot + entry credit charge boot

variable {options : RackFabricOptions} {state after committed : RackState}
  {publisher : Option PublisherRef} {token : AuthorityToken}

@[simp] theorem entry_none (boot : AgentBootId) : entry none none boot = 0 := by
  simp [entry]

theorem books_of_held (h : ∀ boot, held PublisherRecord.booked after.publishers boot =
    held PublisherRecord.booked state.publishers boot) : Books state after none none := by
  intro boot
  rw [h, entry_none, add_zero]

theorem Books.held_eq (h : Books state after none none) (boot : AgentBootId) :
    held PublisherRecord.booked after.publishers boot =
      held PublisherRecord.booked state.publishers boot := by
  rw [h boot, entry_none, add_zero]

theorem books_of_eq (h : after.publishers = state.publishers) : Books state after none none :=
  books_of_held fun boot => by rw [h]

/-! The bookkeeping itself. -/

theorem signer_of_ok (h : state.checkAuthority token true = .ok publisher) :
    state.signer token = publisher.map (·.boot) ∧ state.signer token = token.boot ∧
      ∀ found, publisher = some found → found.boot ∈ state.publishers := by
  have hsigner : state.signer token = publisher.map (·.boot) := by
    unfold signer
    rw [h]
  refine ⟨hsigner, ?_, ?_⟩
  · rw [hsigner]
    rcases checkAuthority_ok h with ⟨hnone, rfl⟩ | ⟨found, rfl, hsome, -⟩
    · exact hnone.symm
    · exact hsome.symm
  · rintro found rfl
    rcases checkAuthority_ok h with ⟨-, hnone⟩ | ⟨other, hsome, -, -, hfound⟩
    · cases hnone
    · cases hsome
      exact mem_iff_exists.mpr ⟨_, hfound⟩

theorem books_advancePublication (hkept : Books state committed none none)
    (hmem : ∀ found, publisher = some found → found.boot ∈ committed.publishers) :
    Books state (committed.advancePublication publisher) (publisher.map (·.boot)) none := by
  intro boot
  rw [← hkept.held_eq]
  cases publisher with
  | none => simp [advancePublication]
  | some found =>
    have hadvanced := @held_modify _ _ (UInt64 × UInt64) _ _ _ PublisherRecord.booked
      committed.publishers _ _ found.boot
      (fun record =>
        { record with
          publicationGeneration :=
            record.publicationGeneration.next.getD record.publicationGeneration
          state := .active
          acceptedMutations := record.acceptedMutations + 1 })
      (1, 0) (hmem found rfl) (fun record => by simp [PublisherRecord.booked]) boot
    refine hadvanced.trans ?_
    by_cases hsame : found.boot = boot <;> simp [entry, hsame]

theorem books_noteRefusal {refusal : Refusal} (hkept : committed.publishers = state.publishers)
    (hmem : ∀ found, publisher = some found → found.boot ∈ state.publishers) :
    Books state (committed.noteRefusal publisher refusal) none
      (if refusal.outcome = .noChange then none else publisher.map (·.boot)) := by
  cases publisher with
  | none =>
    simp only [noteRefusal, Option.map_none, ite_self]
    exact books_of_eq hkept
  | some found =>
    simp only [noteRefusal]
    split
    · exact books_of_eq hkept
    · intro boot
      have hnoted := @held_modify _ _ (UInt64 × UInt64) _ _ _ PublisherRecord.booked
        committed.publishers _ _ found.boot
        (fun record => { record with rejectedMutations := record.rejectedMutations + 1 })
        (0, 1) (hkept ▸ hmem found rfl) (fun record => by simp [PublisherRecord.booked]) boot
      refine hnoted.trans ?_
      rw [hkept]
      by_cases hsame : found.boot = boot <;> simp [entry, hsame]

def Booked (state : RackState) (token : AuthorityToken) (result : RackState × MutationResult) :
    Prop :=
  Books state result.1
    (if result.2.outcome = .accepted then state.signer token else none)
    (if result.2.outcome = .accepted ∨ result.2.outcome = .noChange then none
      else state.signer token)

theorem booked_accepted {code : String} {subject : Str}
    (hauthority : state.checkAuthority token true = .ok publisher)
    (hkept : Books state committed none none)
    (hmem : ∀ found, publisher = some found → found.boot ∈ committed.publishers) :
    Booked state token ((committed.advancePublication publisher).accept code subject) := by
  have hbooks := books_advancePublication hkept hmem
  simp only [Booked, accept, makeResult, true_or, if_true, (signer_of_ok hauthority).1]
  exact hbooks

theorem booked_noted {refusal : Refusal}
    (hauthority : state.checkAuthority token true = .ok publisher)
    (hkept : committed.publishers = state.publishers) :
    Booked state token ((committed.noteRefusal publisher refusal).refuse refusal) := by
  obtain ⟨hsigner, -, hmem⟩ := signer_of_ok hauthority
  have hbooks := @books_noteRefusal _ _ _ refusal hkept hmem
  simp only [Booked, refuse, makeResult, refusal.not_accepted, false_or, if_false, hsigner]
  exact hbooks

theorem booked_unauthorized {refusal : Refusal}
    (hauthority : state.checkAuthority token true = .error refusal) :
    Booked state token (state.refuse refusal) := by
  have hsigner : state.signer token = none := by
    unfold signer
    rw [hauthority]
  simp only [Booked, refuse, hsigner, ite_self]
  exact books_of_eq rfl

theorem underAuthority_booked {α : Type} {check : Option PublisherRef → Except Refusal α}
    (commit : α → RackState) {rest : α → Except Refusal (RackState × String × Str)}
    (hrest : ∀ value, ∃ code subject, rest value = .ok (commit value, code, subject))
    (hcommit : ∀ value, (commit value).publishers = state.publishers) :
    Booked state token (state.underAuthority token fun publisher => check publisher >>= rest) := by
  unfold underAuthority
  cases hauthority : state.checkAuthority token true with
  | error refusal => exact booked_unauthorized hauthority
  | ok publisher =>
    cases hcheck : check publisher with
    | error refusal =>
      simp only [hcheck, bind, Except.bind]
      exact booked_noted hauthority rfl
    | ok value =>
      obtain ⟨code, subject, hvalue⟩ := hrest value
      simp only [hcheck, bind, Except.bind, hvalue]
      refine booked_accepted hauthority (books_of_eq (hcommit value)) ?_
      rw [hcommit]
      exact (signer_of_ok hauthority).2.2

/-! Each mutation. -/

theorem revalidateMembers_booked (request : RevalidateMembersRequest) :
    Booked state request.authority (state.revalidateMembers request) := by
  unfold revalidateMembers
  cases hauthority : state.checkAuthority request.authority true with
  | error refusal => exact booked_unauthorized hauthority
  | ok publisher =>
    have hunchanged (kept : RackState) (hkept : kept.publishers = state.publishers) :
        Booked state request.authority
          (kept.refuse (.unchanged "NOTHING_TO_REVALIDATE" (str "<none>"))) :=
      books_of_eq hkept
    dsimp only
    split
    · exact hunchanged state rfl
    · cases revalidateTargets request.authority (state.revalidationTargets request)
        state.toRackGraph 0 with
      | mk graph verdict =>
        match verdict with
        | .error refusal => exact booked_noted hauthority rfl
        | .ok 0 => exact hunchanged _ rfl
        | .ok (count + 1) =>
          exact booked_accepted hauthority (books_of_eq rfl) (signer_of_ok hauthority).2.2

theorem publishHealth_booked (request : PublishHealthRequest) :
    Booked state request.authority (state.publishHealth request) := by
  unfold publishHealth
  apply underAuthority_booked fun revision => state.commitHealth revision.1 revision.2
  · exact fun ⟨_, _⟩ => ⟨_, _, rfl⟩
  · exact fun _ => rfl

theorem publishCapability_booked (request : PublishCapabilityRequest) :
    Booked state request.authority (publishCapability options state request) := by
  unfold publishCapability
  apply underAuthority_booked fun revision => state.commitCapability revision.1 revision.2
  · exact fun ⟨_, _⟩ => ⟨_, _, rfl⟩
  · exact fun _ => rfl

theorem withdrawEvidence_booked (request : WithdrawEvidenceRequest) :
    Booked state request.authority (state.withdrawEvidence request) := by
  unfold withdrawEvidence
  apply underAuthority_booked fun revision => state.commitRevision revision.1 revision.2
  · exact fun ⟨_, _⟩ => ⟨_, _, rfl⟩
  · exact fun _ => rfl

theorem markUnavailable_booked (request : MarkUnavailableRequest) :
    Booked state request.authority (state.markUnavailable request) := by
  unfold markUnavailable
  apply underAuthority_booked fun revision => state.commitRevision revision.1 revision.2
  · exact fun ⟨_, _⟩ => ⟨_, _, rfl⟩
  · exact fun _ => rfl

/-- An accepted publication is credited to the boot that has signed it. -/
theorem credited_eq {input : Input} (htoken : input.mutation.token = some token)
    (hspends : input.mutation.spendsPublication = true) :
    state.credited options input =
      if (state.perform options input).2 = some .accepted then state.signer token else none := by
  simp only [credited, hspends, true_and]
  split
  · rename_i haccepted
    rcases publishers_transition (perform_transition state input) with ⟨-, hrefused⟩ |
      ⟨other, publisher, -, hother, hauthority, -⟩
    · exact absurd haccepted (hrefused hspends)
    · obtain rfl := Option.some.inj (htoken.symm.trans hother)
      rw [(signer_of_ok hauthority).2.1, Mutation.submittedBy_of_token htoken]
  · rfl

theorem books_of_booked {input : Input} {result : RackState × MutationResult}
    (hnotes : input.mutation.notesRefusals = true) (htoken : input.mutation.token = some token)
    (hspends : input.mutation.spendsPublication = true)
    (hperform : state.perform options input = (result.1, some result.2.outcome))
    (h : Booked state token result) :
    Books state (state.perform options input).1 (state.credited options input)
      (state.charged options input) := by
  have hcharge : state.charged options input =
      if result.2.outcome = .accepted ∨ result.2.outcome = .noChange then none
      else state.signer token := by
    unfold charged
    simp only [hperform, htoken, hnotes, Option.some.injEq, Option.bind_some, true_and, ne_eq,
      ← not_or]
    by_cases hsettled : result.2.outcome = .accepted ∨ result.2.outcome = .noChange <;>
      simp [hsettled]
  rw [credited_eq htoken hspends, hcharge, hperform]
  simp only [Option.some.injEq]
  exact h

/-- A mutation that counts no refusals, and is accepted as a publication. -/
theorem books_of_committed {input : Input} (hnotes : input.mutation.notesRefusals = false)
    (htoken : input.mutation.token = some token)
    (hspends : input.mutation.spendsPublication = true)
    (hperform : state.perform options input =
      (committed.advancePublication publisher, some .accepted))
    (hauthority : state.checkAuthority token true = .ok publisher)
    (hkept : Books state committed none none)
    (hmem : ∀ found, publisher = some found → found.boot ∈ committed.publishers) :
    Books state (state.perform options input).1 (state.credited options input)
      (state.charged options input) := by
  rw [credited_eq htoken hspends, hperform, if_pos rfl, (signer_of_ok hauthority).1]
  simp only [charged, hnotes, Bool.false_eq_true, false_and, if_false]
  exact books_advancePublication hkept hmem

/-- A mutation that is neither credited nor charged to anyone. -/
theorem books_of_unbooked {input : Input} (hnotes : input.mutation.notesRefusals = false)
    (hspent : input.mutation.spendsPublication = false ∨
      (state.perform options input).2 ≠ some .accepted)
    (h : Books state (state.perform options input).1 none none) :
    Books state (state.perform options input).1 (state.credited options input)
      (state.charged options input) := by
  have hcredit : state.credited options input = none := by
    unfold credited
    rcases hspent with hspends | hrefused
    · simp [hspends]
    · simp [hrefused]
  rw [hcredit]
  simp only [charged, hnotes, Bool.false_eq_true, false_and, if_false]
  exact h

theorem books_of_refused {input : Input} (hnotes : input.mutation.notesRefusals = false)
    (refusal : Refusal) (hperform : state.perform options input = (state, some refusal.outcome)) :
    Books state (state.perform options input).1 (state.credited options input)
      (state.charged options input) := by
  apply books_of_unbooked hnotes
  · right
    rw [hperform]
    exact fun haccepted => refusal.not_accepted (Option.some.inj haccepted)
  · rw [hperform]
    exact books_of_eq rfl

theorem registerPublisher_books (now : Timestamp) (request : RegisterPublisherRequest) :
    Books state (registerPublisher options state now request).1 none none := by
  unfold registerPublisher
  cases admitRegistration options state request with
  | error refusal => exact books_of_eq rfl
  | ok pair =>
    cases hfound : state.publishers[pair.2]? with
    | some existing =>
      simp only [hfound]
      exact books_of_held (held_insert_kept ((held_of_found hfound).trans rfl))
    | none =>
      simp only [hfound]
      exact books_of_held (held_insert_kept (held_of_new hfound))

theorem declareRack_books (now : Timestamp) (request : DeclareRackRequest) :
    Books state (state.declareRack now request).1 none none := by
  unfold declareRack
  cases admitDeclaration state request with
  | error refusal => exact books_of_eq rfl
  | ok pair =>
    cases state.rack with
    | none => exact books_of_eq rfl
    | some rack =>
      dsimp only
      split <;> exact books_of_eq rfl

theorem heartbeat_books (now : Timestamp) (request : HeartbeatRequest) :
    Books state (state.heartbeat now request).1 none none := by
  unfold heartbeat
  split
  · exact books_of_eq rfl
  · exact books_of_eq rfl
  · exact books_of_held (held_modify_kept _ fun _ => rfl)

theorem fencePublisher_books (now : Timestamp) (request : FencePublisherRequest) :
    Books state (state.fencePublisher now request).1 none none := by
  unfold fencePublisher
  split
  · exact books_of_eq rfl
  · rename_i boot publisher hadmitted
    exact books_of_held (held_insert_kept ((held_of_found (admitFence_ok hadmitted)).trans rfl))

theorem retireRack_books (now : Timestamp) (request : RetireRackRequest) :
    Books state (state.perform options ⟨now, .retireRack request⟩).1
      (state.credited options ⟨now, .retireRack request⟩)
      (state.charged options ⟨now, .retireRack request⟩) := by
  cases hadmitted : admitRackRetirement state request with
  | error refusal =>
    apply books_of_refused rfl refusal
    simp [perform, retireRack, hadmitted, refuse, makeResult]
  | ok admitted =>
    obtain ⟨rack, publisher, next⟩ := admitted
    have hauthority := admitRackRetirement_ok hadmitted
    refine @books_of_committed _ _ (state.commitRackRetirement rack next now) publisher _ _ rfl rfl
      rfl ?_ hauthority (books_of_held (held_map fun _ => rfl)) ?_
    · simp [perform, retireRack, hadmitted, accept, makeResult]
    · intro found hfound
      rw [commitRackRetirement, ExtTreeMap.mem_map]
      exact (signer_of_ok hauthority).2.2 found hfound

theorem publishSnapshot_books (now : Timestamp) (request : SnapshotRequest) :
    Books state (state.perform options ⟨now, .publishSnapshot request⟩).1
      (state.credited options ⟨now, .publishSnapshot request⟩)
      (state.charged options ⟨now, .publishSnapshot request⟩) := by
  cases hauthority : state.checkAuthority request.authority true with
  | error refusal =>
    apply books_of_refused rfl refusal
    simp [perform, publishSnapshot, hauthority, refuse, makeResult]
  | ok publisher =>
    cases hadmitted : admitSnapshot state publisher now with
    | error refusal =>
      apply books_of_refused rfl refusal
      simp [perform, publishSnapshot, hauthority, hadmitted, refuse, makeResult]
    | ok snapshot =>
      refine @books_of_committed _ _ (retainSnapshot options state snapshot) publisher _ _ rfl rfl
        rfl ?_ hauthority (books_of_eq rfl) (signer_of_ok hauthority).2.2
      simp [perform, publishSnapshot, hauthority, hadmitted, accept, makeResult]

theorem Books.trans {between : RackState} (hfirst : Books state between none none)
    (hsecond : Books between after none none) : Books state after none none :=
  books_of_held fun boot => (hsecond.held_eq boot).trans (hfirst.held_eq boot)

/-- Every mutation books exactly its credit and its charge. -/
theorem books_perform (state : RackState) (input : Input) :
    Books state (state.perform options input).1 (state.credited options input)
      (state.charged options input) := by
  obtain ⟨now, mutation⟩ := input
  cases mutation with
  | registerPublisher request =>
    exact books_of_unbooked rfl (Or.inl rfl) (registerPublisher_books now request)
  | declareRack request =>
    exact books_of_unbooked rfl (Or.inl rfl) (declareRack_books now request)
  | heartbeat request => exact books_of_unbooked rfl (Or.inl rfl) (heartbeat_books now request)
  | fencePublisher request =>
    exact books_of_unbooked rfl (Or.inl rfl) (fencePublisher_books now request)
  | expirePublishers later =>
    refine books_of_unbooked rfl (Or.inl rfl) ?_
    have hfence : ∀ (between : RackState) now request, Books state between none none →
        Books state (between.fencePublisher now request).1 none none :=
      fun _ now request hbetween => hbetween.trans (fencePublisher_books now request)
    exact expirePublishers_induction hfence (books_of_eq rfl) later
  | publishMember request =>
    exact books_of_booked rfl rfl rfl rfl (underAuthority_booked state.commitMember
      (fun _ => ⟨_, _, rfl⟩) fun _ => rfl)
  | publishRelationship request =>
    exact books_of_booked rfl rfl rfl rfl (underAuthority_booked state.commitRelationship
      (fun _ => ⟨_, _, rfl⟩) fun _ => rfl)
  | publishFailureDomain request =>
    exact books_of_booked rfl rfl rfl rfl (underAuthority_booked state.commitFailureDomain
      (fun _ => ⟨_, _, rfl⟩) fun _ => rfl)
  | publishPowerEnvelope request =>
    exact books_of_booked rfl rfl rfl rfl (underAuthority_booked (state.commitPowerEnvelope · now)
      (fun _ => ⟨_, _, rfl⟩) fun _ => rfl)
  | publishCoolingEnvelope request =>
    exact books_of_booked rfl rfl rfl rfl (underAuthority_booked (state.commitCoolingEnvelope · now)
      (fun _ => ⟨_, _, rfl⟩) fun _ => rfl)
  | publishHealth request => exact books_of_booked rfl rfl rfl rfl (publishHealth_booked request)
  | publishCapability request =>
    exact books_of_booked rfl rfl rfl rfl (publishCapability_booked request)
  | withdrawEvidence request =>
    exact books_of_booked rfl rfl rfl rfl (withdrawEvidence_booked request)
  | withdrawRelationship request =>
    exact books_of_booked rfl rfl rfl rfl (underAuthority_booked
      (fun _ => state.commitRelationshipWithdrawal request.key.canonical)
      (fun _ => ⟨_, _, rfl⟩) fun _ => rfl)
  | markUnavailable request =>
    exact books_of_booked rfl rfl rfl rfl (markUnavailable_booked request)
  | retireMember request =>
    exact books_of_booked rfl rfl rfl rfl (underAuthority_booked
      (state.commitRetirement request.member) (fun _ => ⟨_, _, rfl⟩) fun _ => rfl)
  | revalidateMembers request =>
    exact books_of_booked rfl rfl rfl rfl (revalidateMembers_booked request)
  | retireRack request => exact retireRack_books now request
  | publishSnapshot request => exact publishSnapshot_books now request

/-! A run. -/

def credits (options : RackFabricOptions) (state : RackState) (inputs : List Input) :
    List AgentBootId :=
  Execution.outputs (step options) (fun state input => (credited options state input).toList) state
    inputs

def charges (options : RackFabricOptions) (state : RackState) (inputs : List Input) :
    List AgentBootId :=
  Execution.outputs (step options) (fun state input => (charged options state input).toList) state
    inputs

theorem count_toList (found : Option AgentBootId) (boot : AgentBootId) :
    found.toList.count boot = if found = some boot then 1 else 0 := by
  cases found with
  | none => simp
  | some other => simp [List.count_singleton]

theorem entry_eq (credit charge : Option AgentBootId) (boot : AgentBootId) :
    entry credit charge boot =
      (UInt64.ofNat (credit.toList.count boot), UInt64.ofNat (charge.toList.count boot)) := by
  rw [count_toList, count_toList]
  unfold entry
  congr 1 <;> split <;> rfl

theorem books_run (state : RackState) (inputs : List Input) (boot : AgentBootId) :
    held PublisherRecord.booked (Execution.run (step options) state inputs).publishers boot =
      held PublisherRecord.booked state.publishers boot +
        (UInt64.ofNat ((credits options state inputs).count boot),
          UInt64.ofNat ((charges options state inputs).count boot)) := by
  induction inputs using List.reverseRecOn with
  | nil => exact (add_zero _).symm
  | append_singleton inputs input ih =>
    rw [Execution.run_concat, step, books_perform, ih, entry_eq, add_assoc]
    simp only [credits, charges, Execution.outputs_concat, List.count_append, UInt64.ofNat_add,
      Prod.mk_add_mk]

/-! The publication generation. -/

theorem absent_noteRefusal {boot : AgentBootId} (h : state.publishers[boot]? = none)
    (publisher : Option PublisherRef) (refusal : Refusal) :
    (state.noteRefusal publisher refusal).publishers[boot]? = none := by
  cases publisher with
  | none => exact h
  | some found =>
    simp only [noteRefusal]
    split
    · exact h
    · by_cases hsame : found.boot = boot <;> simp [ExtTreeMap.getElem?_modify, hsame, h]

theorem absent_commitFence {boot other : AgentBootId} {publisher : PublisherRecord}
    (h : state.publishers[boot]? = none) (hfound : state.publishers[other]? = some publisher)
    (reason : RevalidationReason) (now : Timestamp) :
    (state.commitFence other publisher reason now).publishers[boot]? = none := by
  have hother : other ≠ boot := by
    rintro rfl
    rw [h] at hfound
    cases hfound
  simp [commitFence, ExtTreeMap.getElem?_insert, hother, h]

theorem absent_fencePublisher {boot : AgentBootId} (h : state.publishers[boot]? = none)
    (now : Timestamp) (request : FencePublisherRequest) :
    (state.fencePublisher now request).1.publishers[boot]? = none := by
  unfold fencePublisher
  split
  · exact h
  · rename_i hadmitted
    exact absent_commitFence h (admitFence_ok hadmitted) _ _

/-- A boot is first recorded when it registers, with the first publication generation. -/
theorem first_of_new {now : Timestamp} {mutation : Mutation} {outcome : Option MutationOutcome}
    (h : Transition options state now mutation after outcome) {boot : AgentBootId}
    {record : PublisherRecord} (hnew : state.publishers[boot]? = none)
    (hfound : after.publishers[boot]? = some record) : record.publicationGeneration = .first := by
  have habsent : after.publishers[boot]? = none → record.publicationGeneration = .first := by
    intro hnone
    rw [hnone] at hfound
    cases hfound
  cases h with
  | refused => exact habsent hnew
  | noted refusal => exact habsent (absent_noteRefusal hnew _ _)
  | @committed _ _ publisher committed _ _ hadmitted =>
    refine habsent ?_
    have hcommitted : committed.publishers[boot]? = none := by
      cases hadmitted with
      | rackRetirement => simp [commitRackRetirement, ExtTreeMap.getElem?_map, hnew]
      | _ => exact hnew
    cases publisher with
    | none => exact hcommitted
    | some found =>
      by_cases hsame : found.boot = boot <;>
        simp [advancePublication, ExtTreeMap.getElem?_modify, hsame, hcommitted]
  | @stopped _ publisher graph refusal =>
    exact habsent (@absent_noteRefusal { state with toRackGraph := graph } boot hnew _ _)
  | refreshed hadmitted hexisting =>
    rcases getElem?_insert_cases hfound with ⟨rfl, -⟩ | ⟨-, hold⟩
    · rw [hnew] at hexisting
      cases hexisting
    · rw [hnew] at hold
      cases hold
  | registered =>
    rcases getElem?_insert_cases hfound with ⟨-, rfl⟩ | ⟨-, hold⟩
    · rfl
    · rw [hnew] at hold
      cases hold
  | declared | redeclared => exact habsent hnew
  | @beat _ found =>
    refine habsent ?_
    by_cases hsame : found.boot = boot <;> simp [ExtTreeMap.getElem?_modify, hsame, hnew]
  | fenced hadmitted => exact habsent (absent_commitFence hnew (admitFence_ok hadmitted) _ _)
  | expired later =>
    have hfence : ∀ (between : RackState) now request, between.publishers[boot]? = none →
        (between.fencePublisher now request).1.publishers[boot]? = none :=
      fun _ now request hbetween => absent_fencePublisher hbetween now request
    exact habsent (expirePublishers_induction hfence hnew later)

theorem toNat_getD_next {tag : GenerationTag} (generation : Generation tag) :
    (generation.next.getD generation).value.toNat =
      min (generation.value.toNat + 1) (2 ^ 64 - 1) := by
  have hlt := generation.value.toNat_lt
  cases hnext : generation.next with
  | none =>
    have hmax : generation.value = 0xFFFFFFFFFFFFFFFF := by simpa [Generation.next] using hnext
    rw [Option.getD_none, hmax]
    rfl
  | some following =>
    have hfollowing := Generation.toNat_of_next hnext
    have hbound := following.value.toNat_lt
    rw [Option.getD_some, hfollowing]
    omega

theorem registered_of_credited {boot : AgentBootId} {input : Input}
    (h : state.credited options input = some boot) : boot ∈ state.publishers := by
  unfold credited at h
  split at h
  · rename_i haccepted
    rcases publishers_transition (perform_transition state input) with ⟨-, hrefused⟩ |
      ⟨token, publisher, -, htoken, hauthority, -⟩
    · exact absurd haccepted.2 (hrefused haccepted.1)
    · obtain ⟨hsigner, hboot, hmem⟩ := signer_of_ok hauthority
      rw [Mutation.submittedBy_of_token htoken, ← hboot, hsigner] at h
      obtain ⟨found, rfl, rfl⟩ := Option.map_eq_some_iff.mp h
      exact hmem found rfl
  · cases h

/-- The generation that a boot presents next counts the publications it was granted. -/
def Sequenced (state : RackState) (credits : List AgentBootId) : Prop :=
  ∀ boot, match state.publishers[boot]? with
    | none => credits.count boot = 0
    | some record => record.publicationGeneration.value.toNat =
        min (credits.count boot + 1) (2 ^ 64 - 1)

theorem sequenced_step {credits : List AgentBootId} (h : state.Sequenced credits) (input : Input) :
    (state.step options input).Sequenced (credits ++ (state.credited options input).toList) := by
  intro boot
  have htransition := @perform_transition options state input
  have hnow := h boot
  rw [List.count_append, count_toList]
  cases hfound : state.publishers[boot]? with
  | none =>
    rw [hfound] at hnow
    have hcredit : state.credited options input ≠ some boot := by
      intro hcredited
      obtain ⟨record, hrecord⟩ := mem_iff_exists.mp (registered_of_credited hcredited)
      rw [hfound] at hrecord
      cases hrecord
    split
    · simp [hnow, hcredit]
    · rename_i record hrecord
      rw [first_of_new htransition hfound hrecord]
      simp [hnow, hcredit, Generation.first]
  | some record =>
    rw [hfound] at hnow
    obtain ⟨later, hlater, hgeneration⟩ := generation_transition htransition hfound
    have hstep : (state.step options input).publishers[boot]? = some later := hlater
    have hcredit : state.credited options input = some boot ↔
        input.mutation.spendsPublication = true ∧ input.mutation.submittedBy = some boot ∧
          (state.perform options input).2 = some .accepted := by
      unfold credited
      split
      · rename_i haccepted
        simp [haccepted]
      · rename_i hrefused
        simp only [reduceCtorEq, false_iff]
        exact fun hspent => hrefused ⟨hspent.1, hspent.2.2⟩
    rw [hstep]
    dsimp only
    rw [hgeneration]
    simp only [← hcredit]
    split
    · rw [toNat_getD_next, hnow]
      omega
    · rw [hnow, Nat.add_zero]

theorem sequenced_run (options : RackFabricOptions) (inputs : List Input) :
    (Execution.run (step options) (fresh options) inputs).Sequenced
      (credits options (fresh options) inputs) := by
  induction inputs using List.reverseRecOn with
  | nil =>
    intro boot
    simp [fresh, credits, Execution.outputs]
  | append_singleton inputs input ih =>
    rw [Execution.run_concat, credits, Execution.outputs_concat]
    exact sequenced_step ih input

/-- Each record of a publisher tells the publications that its boot was granted, those that it
was refused, and with its generation the number of the next one. -/
structure Accounted (state : RackState) (credits charges : List AgentBootId) : Prop where
  accepted : ∀ boot record, state.publishers[boot]? = some record →
    record.acceptedMutations = UInt64.ofNat (credits.count boot)
  rejected : ∀ boot record, state.publishers[boot]? = some record →
    record.rejectedMutations = UInt64.ofNat (charges.count boot)
  sequenced : ∀ boot record, state.publishers[boot]? = some record →
    record.publicationGeneration.value.toNat = min (credits.count boot + 1) (2 ^ 64 - 1)
  registered : ∀ boot ∈ credits, boot ∈ state.publishers

/-- In every run each publisher is accounted for. -/
theorem publishers_accounted (options : RackFabricOptions) (inputs : List Input) :
    (Execution.run (step options) (fresh options) inputs).Accounted
      (credits options (fresh options) inputs) (charges options (fresh options) inputs) := by
  have hsequenced := sequenced_run options inputs
  have hbooks := fun boot => @books_run options (fresh options) inputs boot
  have hbooked (boot : AgentBootId) (record : PublisherRecord)
      (hfound : (Execution.run (step options) (fresh options) inputs).publishers[boot]? =
        some record) :
      record.booked = (UInt64.ofNat ((credits options (fresh options) inputs).count boot),
        UInt64.ofNat ((charges options (fresh options) inputs).count boot)) := by
    have hrun := hbooks boot
    rw [held_of_found hfound, held_of_new (by simp [fresh]), zero_add] at hrun
    exact hrun
  refine ⟨?_, ?_, ?_, ?_⟩
  · exact fun boot record hfound => congrArg Prod.fst (hbooked boot record hfound)
  · exact fun boot record hfound => congrArg Prod.snd (hbooked boot record hfound)
  · intro boot record hfound
    have hnow := hsequenced boot
    rwa [hfound] at hnow
  · intro boot hmem
    have hnow := hsequenced boot
    by_contra habsent
    rw [ExtTreeMap.getElem?_eq_none habsent] at hnow
    exact absurd hmem (List.count_eq_zero.mp hnow)

end RackState

end RackFabric
