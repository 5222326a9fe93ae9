import RackFabric.Model.Expiry
import RackFabric.Properties.Leases

/-! The expiry fences a publisher that is overdue, unless the publisher was heard
between its selection and its fencing. -/
namespace RackFabric
open Std Tables RackState

/-! What a mutation does to the leases of the publishers. -/

structure PublisherRecord.SameLease (before after : PublisherRecord) : Prop where
  seen : after.lastSeenAt = before.lastSeenAt
  lease : after.leaseMillis = before.leaseMillis

namespace PublisherRecord.SameLease

theorem refl (record : PublisherRecord) : record.SameLease record := ⟨rfl, rfl⟩

theorem trans (first second third : PublisherRecord) (h : first.SameLease second)
    (h' : second.SameLease third) : first.SameLease third :=
  ⟨h'.seen.trans h.seen, h'.lease.trans h.lease⟩

theorem overdue {before after : PublisherRecord} (h : before.SameLease after) {now : Timestamp}
    (hoverdue : before.Overdue now) : after.Overdue now := by
  unfold PublisherRecord.Overdue
  rw [h.seen, h.lease]
  exact hoverdue

end PublisherRecord.SameLease

/-- A heartbeat, or a registration, by which the fabric hears of the boot again. -/
def Mutation.Hears (mutation : Mutation) (boot : AgentBootId) (outcome : Option MutationOutcome) :
    Prop :=
  mutation.submittedBy = some boot ∧
    match mutation with
    | .heartbeat _ => outcome = some .accepted
    | .registerPublisher _ => outcome = some .noChange
    | _ => False

namespace RackState
variable {options : RackFabricOptions} {state : RackState}

theorem leases_noteRefusal (publisher : Option PublisherRef) (refusal : Refusal) :
    Followed PublisherRecord.SameLease state.publishers
      (state.noteRefusal publisher refusal).publishers := by
  cases publisher with
  | none => exact Followed.refl .refl _
  | some found =>
    simp only [noteRefusal]
    split
    · exact Followed.refl .refl _
    · exact Followed.modify .refl fun record _ => ⟨rfl, rfl⟩

theorem leases_advancePublication (publisher : Option PublisherRef) :
    Followed PublisherRecord.SameLease state.publishers
      (state.advancePublication publisher).publishers := by
  cases publisher with
  | none => exact Followed.refl .refl _
  | some found => exact Followed.modify .refl fun record _ => ⟨rfl, rfl⟩

theorem leases_admitted {now : Timestamp} {publisher : Option PublisherRef}
    {mutation : Mutation} {committed : RackState}
    (h : Admitted options state now publisher mutation committed) :
    Followed PublisherRecord.SameLease state.publishers committed.publishers := by
  cases h with
  | rackRetirement => exact Followed.map fun key record _ => ⟨rfl, rfl⟩
  | _ => exact Followed.refl .refl _

theorem leases_commitFence {boot : AgentBootId} {publisher : PublisherRecord}
    (hfound : state.publishers[boot]? = some publisher) (reason : RevalidationReason)
    (now : Timestamp) :
    Followed PublisherRecord.SameLease state.publishers
      (state.commitFence boot publisher reason now).publishers := by
  refine Followed.insert .refl fun existing hexisting => ?_
  obtain rfl := Option.some.inj (hfound.symm.trans hexisting)
  exact ⟨rfl, rfl⟩

theorem leases_fencePublisher (now : Timestamp) (request : FencePublisherRequest) :
    Followed PublisherRecord.SameLease state.publishers
      (state.fencePublisher now request).1.publishers := by
  unfold fencePublisher
  split
  · exact Followed.refl .refl _
  · rename_i boot publisher hadmitted
    exact leases_commitFence (admitFence_ok hadmitted) request.reason now

/-- A publisher that is not heard keeps its lease. -/
theorem lease_transition {now : Timestamp} {mutation : Mutation} {after : RackState}
    {outcome : Option MutationOutcome} (h : Transition options state now mutation after outcome)
    {boot : AgentBootId} {record : PublisherRecord} (hfound : state.publishers[boot]? = some record)
    (hunheard : ¬ mutation.Hears boot outcome) :
    ∃ later, after.publishers[boot]? = some later ∧ record.SameLease later := by
  cases h with
  | refused | declared | redeclared => exact ⟨record, hfound, .refl record⟩
  | noted refusal => exact leases_noteRefusal _ refusal boot record hfound
  | committed _ _ hadmitted =>
    exact (leases_admitted hadmitted).trans .trans (leases_advancePublication _) boot record hfound
  | @stopped _ publisher graph refusal _ _ =>
    exact { state with toRackGraph := graph }.leases_noteRefusal publisher refusal boot record
      hfound
  | @refreshed request worker named existing hadmitted hexisting =>
    have hother : named ≠ boot := by
      rintro rfl
      exact hunheard ⟨(registered_not_fenced hadmitted).1, rfl⟩
    exact ⟨record, by simp [ExtTreeMap.getElem?_insert, hother, hfound], .refl record⟩
  | registered hadmitted hnew =>
    refine (Followed.insert .refl fun existing hexisting => ?_) boot record hfound
    rw [hnew] at hexisting
    cases hexisting
  | @beat request found hauthority =>
    have hother : found.boot ≠ boot := by
      rintro rfl
      exact hunheard ⟨(authorized_of_ok hauthority).boot, rfl⟩
    exact ⟨record, by simp [ExtTreeMap.getElem?_modify, hother, hfound], .refl record⟩
  | fenced hadmitted => exact leases_commitFence (admitFence_ok hadmitted) _ _ boot record hfound
  | expired later =>
    have hfence : ∀ (between : RackState) now request,
        Followed PublisherRecord.SameLease state.publishers between.publishers →
          Followed PublisherRecord.SameLease state.publishers
            (between.fencePublisher now request).1.publishers :=
      fun between now request hbetween => hbetween.trans .trans (leases_fencePublisher now request)
    exact expirePublishers_induction hfence (Followed.refl .refl _) later boot record hfound

end RackState

namespace RackState

theorem overdue_of_leaseExpired {record : PublisherRecord} {clock : Timestamp}
    (hclock : 0 ≤ clock.unixMillis) (h : leaseExpired record clock = true) :
    record.Overdue clock := by
  simp only [leaseExpired, Timestamp.known, decide_eq_true_eq] at h
  obtain ⟨-, hseen, hlease, hlater⟩ := h
  rw [Int64.lt_iff_toInt_lt] at hseen hlease hlater
  rw [Int64.le_iff_toInt_le] at hclock
  have hzero : (0 : Int64).toInt = 0 := rfl
  have hseenBelow := record.lastSeenAt.unixMillis.toInt_lt
  have hclockBelow := clock.unixMillis.toInt_lt
  rw [hzero] at hseen hlease hclock
  -- Neither operand is negative, so the subtraction does not wrap.
  rw [Int64.toInt_sub, Int.bmod_eq_of_le (by omega) (by omega)] at hlater
  exact ⟨hlease, hlater⟩

theorem overdue_of_expiredBoots {state : RackState} {clock : Timestamp}
    (hclock : 0 ≤ clock.unixMillis) {boot : AgentBootId} (h : boot ∈ state.expiredBoots clock) :
    ∃ record, state.publishers[boot]? = some record ∧ record.Overdue clock := by
  simp only [expiredBoots, List.mem_map, List.mem_filter] at h
  obtain ⟨⟨named, record⟩, ⟨hmem, hexpired⟩, rfl⟩ := h
  exact ⟨record, ExtTreeMap.mem_toList_iff_getElem?_eq_some.mp hmem,
    overdue_of_leaseExpired hclock hexpired⟩

end RackState

theorem Timestamp.le_max_left (left right : Timestamp) :
    left.unixMillis ≤ (left.max right).unixMillis := by
  unfold Timestamp.max
  split
  · rename_i hlt
    exact Int64.le_of_lt hlt
  · exact Int64.le_refl _

theorem PublisherRecord.Overdue.later {record : PublisherRecord} {now later : Timestamp}
    (h : record.Overdue now) (hlater : now.unixMillis ≤ later.unixMillis) :
    record.Overdue later := by
  rw [Int64.le_iff_toInt_le] at hlater
  obtain ⟨hlease, hseen⟩ := h
  exact ⟨hlease, by omega⟩

theorem PublisherRecord.not_overdue_of_seen (record : PublisherRecord) {now : Timestamp}
    (hseen : record.lastSeenAt = now) : ¬ record.Overdue now := by
  rintro ⟨hlease, hlater⟩
  rw [hseen] at hlater
  omega

namespace RackState

theorem heard_of_heartbeat {options : RackFabricOptions} {state after : RackState}
    {now : Timestamp} {request : HeartbeatRequest} {outcome : Option MutationOutcome}
    (h : Transition options state now (.heartbeat request) after outcome) {boot : AgentBootId}
    (hboot : request.authority.boot = some boot) (haccepted : outcome = some .accepted) :
    ∃ record, after.publishers[boot]? = some record ∧ record.lastSeenAt = now ∧
      record.state = .active := by
  cases h with
  | refused hrefused => exact absurd (Option.some.inj haccepted) hrefused
  | noted refusal => exact absurd (Option.some.inj haccepted) refusal.not_accepted
  | committed _ _ hadmitted => cases hadmitted
  | @beat _ found hauthority =>
    have hauthorized := authorized_of_ok hauthority
    obtain rfl := Option.some.inj (hauthorized.boot.symm.trans hboot)
    exact ⟨{ found.record with lastSeenAt := now, state := .active },
      by simp [hauthorized.recorded], rfl, rfl⟩

theorem fencePublisher_active {state : RackState} (now : Timestamp) {boot : AgentBootId}
    {record : PublisherRecord} (hfound : state.publishers[boot]? = some record)
    (hactive : record.state = .active) :
    (state.fencePublisher now (Expiry.fenceRequest state boot)).2.outcome = .accepted := by
  have hadmitted : admitFence state (Expiry.fenceRequest state boot) = .ok (boot, record) := by
    unfold admitFence
    simp only [bind_eq_ok, refuseIf_eq_ok, require_eq_ok, exists_and_left, exists_const,
      pure_eq_ok]
    exact ⟨boot, rfl, by simp [Expiry.fenceRequest], record, hfound, by simp [hactive], rfl⟩
  unfold fencePublisher
  rw [hadmitted]
  rfl

end RackState

namespace Expiry
variable {options : RackFabricOptions}

def start (fabric : RackState) : Expiry := { fabric }

def Overdue (expiry : Expiry) (boot : AgentBootId) : Prop :=
  ∃ record, expiry.fabric.publishers[boot]? = some record ∧ record.Overdue expiry.clock

def FencesOverdue (expiry : Expiry) : ExpiryEvent → Prop
  | .fence caller =>
      ∀ boot rest, expiry.selected caller = boot :: rest →
        (expiry.fabric.fencePublisher expiry.clock
          (fenceRequest expiry.fabric boot)).2.outcome = .accepted →
        expiry.Overdue boot
  | _ => True

/-- The fabric does not hear of a boot that a call has selected and not fenced yet. -/
def Undisturbed (options : RackFabricOptions) (expiry : Expiry) : ExpiryEvent → Prop
  | .mutate mutation =>
      ∀ caller, ∀ boot ∈ expiry.selected caller,
        ¬ mutation.val.Hears boot
          (expiry.fabric.perform options ⟨expiry.clock, mutation.val⟩).2
  | _ => True

structure Pending (expiry : Expiry) : Prop where
  clock : 0 ≤ expiry.clock.unixMillis
  selected : ∀ caller, ∀ boot ∈ expiry.selected caller, expiry.Overdue boot

namespace Pending

theorem start (fabric : RackState) : (Expiry.start fabric).Pending where
  clock := Int64.le_refl 0
  selected _ _ h := by cases h

theorem advance {expiry : Expiry} (h : expiry.Pending) (now : Timestamp) :
    (expiry.step options (.advance now)).Pending where
  clock := Int64.le_trans h.clock (Timestamp.le_max_left _ _)
  selected caller boot hmem := by
    obtain ⟨record, hfound, hoverdue⟩ := h.selected caller boot hmem
    exact ⟨record, hfound, hoverdue.later (Timestamp.le_max_left _ _)⟩

theorem select {expiry : Expiry} (h : expiry.Pending) (caller : Nat) :
    (expiry.step options (.select caller)).Pending := by
  simp only [step, Expiry.select]
  split
  · refine ⟨h.clock, fun other boot hmem => ?_⟩
    by_cases heq : other = caller
    · subst heq
      simp only [Function.update_self] at hmem
      exact overdue_of_expiredBoots h.clock hmem
    · simp only [Function.update_of_ne heq] at hmem
      exact h.selected other boot hmem
  · exact h

/-- Whatever keeps the leases keeps the selected boots overdue. -/
theorem follow {expiry : Expiry} (h : expiry.Pending) {after : RackState}
    {selected : Nat → List AgentBootId}
    (hselected : ∀ caller, ∀ boot ∈ selected caller, boot ∈ expiry.selected caller)
    (hfollow : ∀ caller, ∀ boot ∈ expiry.selected caller, ∀ (record : PublisherRecord),
      expiry.fabric.publishers[boot]? = some record →
        ∃ later, after.publishers[boot]? = some later ∧ record.SameLease later) :
    Pending { expiry with fabric := after, selected := selected } where
  clock := h.clock
  selected caller boot hmem := by
    have hselected := hselected caller boot hmem
    obtain ⟨record, hfound, hoverdue⟩ := h.selected caller boot hselected
    obtain ⟨later, hlater, hsame⟩ := hfollow caller boot hselected record hfound
    exact ⟨later, hlater, hsame.overdue hoverdue⟩

theorem fence {expiry : Expiry} (h : expiry.Pending) (caller : Nat) :
    (expiry.step options (.fence caller)).Pending := by
  simp only [step, Expiry.fence]
  split
  · exact h
  · rename_i boot rest hcaller
    refine h.follow (fun other named hmem => ?_) fun _ named _ record hfound =>
      leases_fencePublisher _ _ named record hfound
    by_cases heq : other = caller
    · subst heq
      rw [Function.update_self] at hmem
      rw [hcaller]
      exact List.mem_cons_of_mem _ hmem
    · rwa [Function.update_of_ne heq] at hmem

theorem mutate {expiry : Expiry} (h : expiry.Pending) (mutation : PlainMutation)
    (hundisturbed : expiry.Undisturbed options (.mutate mutation)) :
    (expiry.step options (.mutate mutation)).Pending :=
  h.follow (fun _ _ hmem => hmem) fun caller boot hmem _ hfound =>
    lease_transition (perform_transition _ _) hfound (hundisturbed caller boot hmem)

theorem step {expiry : Expiry} (h : expiry.Pending) {event : ExpiryEvent}
    (hundisturbed : expiry.Undisturbed options event) :
    (expiry.step options event).Pending := by
  cases event with
  | advance now => exact h.advance now
  | select caller => exact h.select caller
  | fence caller => exact h.fence caller
  | mutate mutation => exact h.mutate mutation hundisturbed

theorem fencesOverdue {expiry : Expiry} (h : expiry.Pending) (event : ExpiryEvent) :
    expiry.FencesOverdue event := by
  cases event with
  | fence caller =>
    intro boot rest hcaller _
    exact h.selected caller boot (hcaller ▸ List.mem_cons_self)
  | _ => trivial

end Pending

/-- While no selected boot is heard, every boot that the expiry fences is overdue. -/
theorem fences_overdue (options : RackFabricOptions) (fabric : RackState)
    (events : List ExpiryEvent)
    (hundisturbed : Execution.EachStep (step options) (Undisturbed options) (start fabric) events) :
    Execution.EachStep (step options) FencesOverdue (start fabric) events := by
  suffices hsteps : ∀ {expiry : Expiry}, expiry.Pending →
      Execution.EachStep (step options) (Undisturbed options) expiry events →
        Execution.EachStep (step options) FencesOverdue expiry events from
    hsteps (Pending.start fabric) hundisturbed
  clear hundisturbed
  induction events with
  | nil => exact fun _ _ => Execution.eachStep_nil _ _ _
  | cons event events ih =>
    intro expiry h hundisturbed
    rw [Execution.eachStep_cons] at hundisturbed ⊢
    exact ⟨h.fencesOverdue event, ih (h.step hundisturbed.1) hundisturbed.2⟩

/-- The heartbeat of the boot that is fenced next does not save it. -/
theorem heard_boot_fenced {expiry : Expiry} {caller : Nat} {boot : AgentBootId}
    {rest : List AgentBootId} (hselected : expiry.selected caller = boot :: rest)
    {request : HeartbeatRequest} (hboot : request.authority.boot = some boot)
    (haccepted : (expiry.fabric.perform options ⟨expiry.clock, .heartbeat request⟩).2 =
      some .accepted) :
    ¬ Execution.EachStep (step options) FencesOverdue expiry
      [.mutate ⟨.heartbeat request, rfl⟩, .fence caller] := by
  intro h
  obtain ⟨record, hfound, hseen, hactive⟩ :=
    heard_of_heartbeat (perform_transition expiry.fabric ⟨expiry.clock, .heartbeat request⟩) hboot
      haccepted
  have hfence := h [.mutate ⟨.heartbeat request, rfl⟩] (.fence caller) (List.prefix_refl _)
  have hfenced := fencePublisher_active expiry.clock hfound hactive
  obtain ⟨later, hlater, hoverdue⟩ := hfence boot rest hselected hfenced
  obtain rfl := Option.some.inj (hfound.symm.trans hlater)
  exact record.not_overdue_of_seen hseen hoverdue

def quietEvents : List ExpiryEvent :=
  [.advance ⟨1000⟩, .mutate ⟨Scenario.declareRack.mutation, rfl⟩,
    .mutate ⟨(Scenario.registerPublisher Scenario.bootA).mutation, rfl⟩, .advance ⟨20000⟩,
    .select 0, .fence 0]

theorem silent_publisher_overdue :
    Execution.EachStep (step Scenario.defaults) FencesOverdue (start (fresh Scenario.defaults))
      quietEvents := by
  apply fences_overdue
  simp only [quietEvents, Execution.eachStep_cons]
  refine ⟨trivial, fun _ _ h => ?_, fun _ _ h => ?_, trivial, trivial, trivial,
    Execution.eachStep_nil _ _ _⟩ <;> cases h

/-- The heartbeat arrives between the selection of the publisher and its fencing. -/
def heardEvents : List ExpiryEvent :=
  [.advance ⟨1000⟩, .mutate ⟨Scenario.declareRack.mutation, rfl⟩,
    .mutate ⟨(Scenario.registerPublisher Scenario.bootA).mutation, rfl⟩, .advance ⟨20000⟩,
    .select 0,
    .mutate ⟨.heartbeat { authority := Scenario.process Scenario.bootA }, rfl⟩]

theorem heard_publisher_fenced :
    ¬ Execution.EachStep (step Scenario.defaults) FencesOverdue
      (start (fresh Scenario.defaults)) (heardEvents ++ [.fence 0]) := by
  intro h
  have hfence := h heardEvents (.fence 0) (List.prefix_refl _)
  have hselected : (Execution.run (step Scenario.defaults) (start (fresh Scenario.defaults))
      heardEvents).selected 0 = [Scenario.bootA] := by
    decide +kernel
  have hheard : (Execution.run (step Scenario.defaults) (start (fresh Scenario.defaults))
      heardEvents).fabric.publishers[Scenario.bootA]?.map
        (fun record => (record.leaseMillis, record.lastSeenAt)) = some (5000, ⟨20000⟩) := by
    decide +kernel
  have hclock : (Execution.run (step Scenario.defaults) (start (fresh Scenario.defaults))
      heardEvents).clock = ⟨20000⟩ := by
    decide +kernel
  obtain ⟨record, hfound, -, hoverdue⟩ := hfence Scenario.bootA [] hselected (by decide +kernel)
  obtain ⟨heard, hrecorded, hlease⟩ := Option.map_eq_some_iff.mp hheard
  obtain rfl := Option.some.inj (hrecorded.symm.trans hfound)
  obtain ⟨hmillis, hseen⟩ := Prod.mk.inj hlease
  rw [hmillis, hseen, hclock] at hoverdue
  revert hoverdue
  decide

/-! A single caller, whom nobody interrupts, is the expiry as one operation. -/

theorem run_fences (options : RackFabricOptions) (caller : Nat) (expiry : Expiry) :
    (Execution.run (step options) expiry
        ((expiry.selected caller).map fun _ => .fence caller)).fabric =
      (expiry.selected caller).foldl
        (fun fabric boot =>
          (fabric.fencePublisher expiry.clock (fenceRequest fabric boot)).1)
        expiry.fabric := by
  generalize hboots : expiry.selected caller = boots
  induction boots generalizing expiry with
  | nil => rfl
  | cons boot boots ih =>
    have hstep : expiry.step options (.fence caller) =
        { expiry with
          fabric := (expiry.fabric.fencePublisher expiry.clock
            (fenceRequest expiry.fabric boot)).1
          selected := Function.update expiry.selected caller boots } := by
      simp only [step, fence, hboots]
    rw [List.map_cons, Execution.run_cons, hstep, ih]
    · rfl
    · simp only [Function.update_self]

/-- The atomic expiry of the deployment is one of the interleavings. -/
theorem run_uninterrupted (options : RackFabricOptions) (caller : Nat) (fabric : RackState)
    (now : Timestamp) :
    let expiry : Expiry := { fabric, clock := now }
    (Execution.run (step options) expiry
        (.select caller :: (fabric.expiredBoots now).map fun _ => .fence caller)).fabric =
      fabric.expirePublishers now fun _ => now := by
  intro expiry
  have hselected : (expiry.step options (.select caller)).selected caller =
      fabric.expiredBoots now := by
    simp only [step, select, expiry, Function.update_self]
  rw [Execution.run_cons, ← hselected, run_fences, hselected]
  rfl

end Expiry

end RackFabric
