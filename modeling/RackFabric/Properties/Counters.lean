import RackFabric.Model.Counters
import RackFabric.Properties.Bookkeeping
import RackFabric.Properties.Durability
import RackFabric.Properties.Sessions

/-! The counters of a coordinator, against the records of the publishers. -/
namespace RackFabric
open Std Totals RackState

/-! What a step adds to all the records together. -/

namespace RackState
variable {options : RackFabricOptions} {state after : RackState}

def totalAccepted (state : RackState) : UInt64 :=
  total PublisherRecord.acceptedMutations state.publishers

def totalRejected (state : RackState) : UInt64 :=
  total PublisherRecord.rejectedMutations state.publishers

theorem held_acceptedMutations (state : RackState) (boot : AgentBootId) :
    held PublisherRecord.acceptedMutations state.publishers boot =
      (held PublisherRecord.booked state.publishers boot).1 := by
  unfold held
  cases state.publishers[boot]? <;> rfl

theorem held_rejectedMutations (state : RackState) (boot : AgentBootId) :
    held PublisherRecord.rejectedMutations state.publishers boot =
      (held PublisherRecord.booked state.publishers boot).2 := by
  unfold held
  cases state.publishers[boot]? <;> rfl

theorem totals_step (state : RackState) (input : Input) :
    (state.step options input).totalAccepted = state.totalAccepted +
        UInt64.ofNat (state.credited options input).isSome.toNat ∧
      (state.step options input).totalRejected = state.totalRejected +
        UInt64.ofNat (state.charged options input).isSome.toNat := by
  have hbooks := @books_perform options state input
  have hone (found : Option AgentBootId) :
      (if found.isSome then (1 : UInt64) else 0) = UInt64.ofNat found.isSome.toNat := by
    cases found <;> rfl
  rw [← hone, ← hone]
  constructor <;> refine total_add fun boot => ?_
  · rw [held_acceptedMutations, held_acceptedMutations]
    exact congrArg Prod.fst (hbooks boot)
  · rw [held_rejectedMutations, held_rejectedMutations]
    exact congrArg Prod.snd (hbooks boot)

theorem signer_of_operator {token : AuthorityToken} (h : token.boot = none) :
    state.signer token = none := by
  cases hauthority : state.checkAuthority token true with
  | error refusal =>
    unfold signer
    rw [hauthority]
  | ok publisher => rw [(signer_of_ok hauthority).2.1, h]

/-- Whoever presents no boot is neither credited nor charged. -/
theorem unbooked_of_operator {input : Input}
    (h : ∀ token, input.mutation.token = some token → token.boot = none) :
    state.credited options input = none ∧ state.charged options input = none := by
  cases htoken : input.mutation.token with
  | none =>
    constructor
    · have hspends : input.mutation.spendsPublication = false := by
        cases hmutation : input.mutation <;> rw [hmutation] at htoken <;> first | rfl | cases htoken
      simp [credited, hspends]
    · simp [charged, htoken]
  | some token =>
    have hboot := h token htoken
    constructor
    · simp [credited, Mutation.submittedBy_of_token htoken, hboot]
    · simp [charged, htoken, signer_of_operator hboot]

end RackState

/-! What a session adds. -/

def Command.call : Command → Option Mutation
  | .register _ _ request => some (.registerPublisher request)
  | command => command.submission

/-- An acceptance that no publisher is credited with: the rack is declared anew. -/
def Command.uncredited (options : CoordinatorOptions) (fabric : RackState) (now : Timestamp)
    (command : Command) : Bool :=
  command.accepts options fabric now &&
    !command.submission.any Mutation.spendsPublication

section Session
variable {options : CoordinatorOptions} {fabric : RackState} {session : Session}
  {now : Timestamp}

theorem fabric_execute_call (command : Command) :
    (execute options fabric session now command).fabric =
      match command.call with
      | none => fabric
      | some mutation => fabric.step options.fabric ⟨now, mutation⟩ := by
  cases command with
  | hello | query => rfl
  | register worker boot request => rfl
  | mutation mutation => exact (step_eq_submit _ _ _ _).symm
  | heartbeat request => rfl
  | snapshot request =>
    simp only [Command.call, Command.submission]
    rw [step_eq_submit]
    simp only [execute, submit]
    generalize publishSnapshot options.fabric fabric now request = published
    obtain ⟨⟨after, result⟩, snapshot⟩ := published
    cases snapshot with
    | none => rfl
    | some snapshot =>
      dsimp only
      split <;> rfl

def Command.refused (options : CoordinatorOptions) (fabric : RackState) (now : Timestamp) :
    Command → Bool
  | .mutation submitted =>
      (fabric.submit options.fabric now submitted).2.any (!·.outcome.isAccepted)
  | _ => false

/-- What a command adds to the counters. -/
theorem counters_execute (counters : Counters) (command : Command) :
    (counters.execute options fabric now command).acceptedMutations =
        counters.acceptedMutations + UInt64.ofNat (command.accepts options fabric now).toNat ∧
      (counters.execute options fabric now command).rejectedMutations =
        counters.rejectedMutations +
          UInt64.ofNat (command.refused options fabric now).toNat := by
  cases command with
  | mutation submitted =>
    simp only [Counters.execute, Command.accepts, Command.refused]
    cases (fabric.submit options.fabric now submitted).2 with
    | none => simp
    | some result => cases hresult : result.outcome.isAccepted <;>
        simp [Counters.finishMutation, hresult]
  | snapshot request =>
    have hpublished := accepted_iff_published options.fabric fabric now request
    simp only [Counters.execute, Command.accepts, Command.refused]
    generalize publishSnapshot options.fabric fabric now request = published at hpublished ⊢
    obtain ⟨⟨after, result⟩, snapshot⟩ := published
    cases snapshot <;> simp_all [Counters.finishMutation]
  | _ => simp [Counters.execute, Command.accepts, Command.refused]

/-- A refusal that is counted, and that no publisher is charged with. -/
def Command.uncharged (options : CoordinatorOptions) (fabric : RackState) (now : Timestamp)
    (command : Command) : Bool :=
  command.refused options fabric now &&
    !command.call.any fun mutation => (fabric.charged options.fabric ⟨now, mutation⟩).isSome

/-- A session credits its boot with every acceptance of a publication. -/
theorem credited_of_command {command : Command} (h : command.SpeaksFor session) :
    command.call.any (fun mutation =>
        (fabric.credited options.fabric ⟨now, mutation⟩).isSome) =
      (command.accepts options fabric now &&
        command.submission.any Mutation.spendsPublication) := by
  have hsubmission (mutation : Mutation) (hcall : command.submission = some mutation) :
      (fabric.credited options.fabric ⟨now, mutation⟩).isSome =
        (mutation.spendsPublication &&
          (fabric.perform options.fabric ⟨now, mutation⟩).2.any (·.isAccepted)) := by
    obtain ⟨boot, -, hboot⟩ := h.submission mutation hcall
    unfold credited
    rw [hboot]
    cases hspends : mutation.spendsPublication <;>
      cases houtcome : (fabric.perform options.fabric ⟨now, mutation⟩).2 <;>
        simp [MutationOutcome.isAccepted, apply_ite Option.isSome]
  cases command with
  | hello | query => rfl
  | register worker boot request => simp [Command.call, Command.accepts, credited,
      Mutation.spendsPublication]
  | heartbeat request => simp [Command.call, Command.submission, Command.accepts, credited,
      Mutation.spendsPublication]
  | mutation submitted =>
    simp only [Command.call, Command.submission, Command.accepts, Option.any_some]
    rw [hsubmission submitted rfl, perform_eq_submit, Option.any_map, Bool.and_comm]
  | snapshot request =>
    simp only [Command.call, Command.submission, Command.accepts, Option.any_some]
    rw [hsubmission _ rfl]
    simp [perform, Mutation.spendsPublication]

theorem ofNat_toNat_split (whole part : Bool) :
    UInt64.ofNat whole.toNat =
      UInt64.ofNat (whole && part).toNat + UInt64.ofNat (whole && !part).toNat := by
  cases whole <;> cases part <;> rfl

/-- Only a refusal is charged to anyone. -/
theorem charged_of_command (command : Command) :
    (command.call.any fun mutation =>
        (fabric.charged options.fabric ⟨now, mutation⟩).isSome) =
      (command.refused options fabric now && command.call.any fun mutation =>
        (fabric.charged options.fabric ⟨now, mutation⟩).isSome) := by
  cases command with
  | mutation submitted =>
    simp only [Command.call, Command.submission, Command.refused, Option.any_some]
    cases hcharged : (fabric.charged options.fabric ⟨now, submitted⟩).isSome with
    | false => simp
    | true =>
      unfold charged at hcharged
      split at hcharged
      · rename_i hrefused
        rw [perform_eq_submit] at hrefused
        cases hresult : (fabric.submit options.fabric now submitted).2 with
        | none =>
          -- The only mutation without a result is the expiry, which notes no refusal.
          cases submitted <;> first | exact absurd hrefused.1 Bool.false_ne_true | cases hresult
        | some result =>
          simpa [hresult, MutationOutcome.isAccepted] using hrefused.2.1
      · cases hcharged
  | hello | query => rfl
  | _ => simp [Command.call, Command.submission, charged, Mutation.notesRefusals]

theorem accepted_split {command : Command} (h : command.SpeaksFor session) :
    UInt64.ofNat (command.accepts options fabric now).toNat =
      UInt64.ofNat (command.call.any fun mutation =>
          (fabric.credited options.fabric ⟨now, mutation⟩).isSome).toNat +
        UInt64.ofNat (command.uncredited options fabric now).toNat := by
  rw [credited_of_command h]
  exact ofNat_toNat_split _ _

theorem refused_split (command : Command) :
    UInt64.ofNat (command.refused options fabric now).toNat =
      UInt64.ofNat (command.call.any fun mutation =>
          (fabric.charged options.fabric ⟨now, mutation⟩).isSome).toNat +
        UInt64.ofNat (command.uncharged options fabric now).toNat := by
  rw [charged_of_command]
  exact ofNat_toNat_split _ _

end Session

/-! A run of the coordinator. -/

def ServerEvent.PresentsNoBoot : ServerEvent → Prop
  | .call input => ∀ token, input.mutation.token = some token → token.boot = none
  | _ => True

namespace CountingServer
variable {options : CoordinatorOptions} {counting : CountingServer}

def served (counting : CountingServer) : ServerEvent → Option (Timestamp × Command)
  | .receive session now request =>
      let thread := counting.server.threads session
      if thread.pending.isEmpty then
        ((admitRequest counting.server.fabric thread.session request).toOption).map (now, ·)
      else none
  | _ => none

def uncredited (options : CoordinatorOptions) (counting : CountingServer) (event : ServerEvent) :
    Bool :=
  (counting.served event).any fun call => call.2.uncredited options counting.server.fabric call.1

def uncharged (options : CoordinatorOptions) (counting : CountingServer) (event : ServerEvent) :
    Bool :=
  (counting.served event).any fun call => call.2.uncharged options counting.server.fabric call.1

theorem fabric_copy (server : Server) (session : Nat) :
    (server.copy session).fabric = server.fabric := by
  unfold Server.copy
  dsimp only
  split <;> rfl

theorem fabric_replace (options : CoordinatorOptions) (server : Server) (session : Nat) :
    (server.replace options session).fabric = server.fabric := by
  unfold Server.replace
  dsimp only
  split <;> rfl

theorem fabric_respond (options : CoordinatorOptions) (server : Server) (session : Nat) :
    (server.respond options session).fabric = server.fabric := by
  unfold Server.respond
  dsimp only
  split <;> rfl

/-- The counters agree with the records of the publishers, up to what no publisher has a
part in. -/
structure Reconciled (counting : CountingServer) (uncredited uncharged : Nat) : Prop where
  accepted : counting.counters.acceptedMutations =
    counting.server.fabric.totalAccepted + UInt64.ofNat uncredited
  rejected : counting.counters.rejectedMutations =
    counting.server.fabric.totalRejected + UInt64.ofNat uncharged

/-- A step that adds nothing to either side. -/
theorem Reconciled.of_idle {uncreditedBefore unchargedBefore : Nat} {after : CountingServer}
    (h : counting.Reconciled uncreditedBefore unchargedBefore)
    (hfabric : after.server.fabric = counting.server.fabric)
    (haccepted : after.counters.acceptedMutations = counting.counters.acceptedMutations)
    (hrejected : after.counters.rejectedMutations = counting.counters.rejectedMutations) :
    after.Reconciled uncreditedBefore unchargedBefore where
  accepted := by rw [haccepted, hfabric, h.accepted]
  rejected := by rw [hrejected, hfabric, h.rejected]

/-- A command adds as much to the counters as to the records and to what is apart from them. -/
theorem Reconciled.execute {uncreditedBefore unchargedBefore : Nat} {after : CountingServer}
    {session : Session} {now : Timestamp} {command : Command}
    (h : counting.Reconciled uncreditedBefore unchargedBefore)
    (hspeaks : command.SpeaksFor session)
    (hfabric : after.server.fabric =
      (RackFabric.execute options counting.server.fabric session now command).fabric)
    (hcounters : after.counters =
      counting.counters.execute options counting.server.fabric now command) :
    after.Reconciled
      (uncreditedBefore + (command.uncredited options counting.server.fabric now).toNat)
      (unchargedBefore + (command.uncharged options counting.server.fabric now).toNat) := by
  obtain ⟨haccepted, hrejected⟩ :=
    @counters_execute options counting.server.fabric now counting.counters command
  have htotals : after.server.fabric.totalAccepted = counting.server.fabric.totalAccepted +
        UInt64.ofNat (command.call.any fun mutation =>
          (counting.server.fabric.credited options.fabric ⟨now, mutation⟩).isSome).toNat ∧
      after.server.fabric.totalRejected = counting.server.fabric.totalRejected +
        UInt64.ofNat (command.call.any fun mutation =>
          (counting.server.fabric.charged options.fabric ⟨now, mutation⟩).isSome).toNat := by
    rw [hfabric, fabric_execute_call]
    cases command.call with
    | none => simp
    | some mutation => exact totals_step counting.server.fabric ⟨now, mutation⟩
  constructor
  · rw [hcounters, haccepted, htotals.1, h.accepted, accepted_split hspeaks, UInt64.ofNat_add]
    ac_rfl
  · rw [hcounters, hrejected, htotals.2, h.rejected, refused_split, UInt64.ofNat_add]
    ac_rfl

theorem Reconciled.step {uncreditedBefore unchargedBefore : Nat}
    (h : counting.Reconciled uncreditedBefore unchargedBefore) {event : ServerEvent}
    (hcall : event.PresentsNoBoot) :
    (counting.step options event).Reconciled
      (uncreditedBefore + (counting.uncredited options event).toNat)
      (unchargedBefore + (counting.uncharged options event).toNat) := by
  have hidle (hserved : counting.served event = none)
      (hfabric : (counting.server.step options event).fabric = counting.server.fabric)
      (hcounters : (counting.step options event).counters = counting.counters) :
      (counting.step options event).Reconciled
        (uncreditedBefore + (counting.uncredited options event).toNat)
        (unchargedBefore + (counting.uncharged options event).toNat) := by
    simp only [uncredited, uncharged, hserved, Option.any_none, Bool.toNat_false, Nat.add_zero]
    exact h.of_idle hfabric (by rw [hcounters]) (by rw [hcounters])
  cases event with
  | receive session now request =>
    cases hfree : (counting.server.threads session).pending.isEmpty with
    | false =>
      apply hidle <;>
        simp [served, CountingServer.step, Server.step, Server.receive_of_busy, hfree]
    | true =>
      cases hadmitted : admitRequest counting.server.fabric
        (counting.server.threads session).session request with
      | error refusal =>
        simp only [uncredited, uncharged, served, hfree, hadmitted, if_true, Except.toOption,
          Option.map_none, Option.any_none, Bool.toNat_false, Nat.add_zero]
        apply h.of_idle
        · simp [CountingServer.step, Server.step, Server.receive_of_free hfree, serve, hadmitted]
        · simp only [CountingServer.step, hfree, if_true, Counters.serve, hadmitted]
          split <;> rfl
        · simp only [CountingServer.step, hfree, if_true, Counters.serve, hadmitted]
          split <;> rfl
      | ok command =>
        simp only [uncredited, uncharged, served, hfree, hadmitted, if_true, Except.toOption,
          Option.map_some, Option.any_some]
        apply h.execute (admit_speaksFor hadmitted)
        · simp [CountingServer.step, Server.step, Server.receive_of_free hfree, serve, hadmitted]
        · simp [CountingServer.step, hfree, Counters.serve, hadmitted]
  | copy session => exact hidle rfl (fabric_copy _ _) rfl
  | replace session => exact hidle rfl (fabric_replace _ _ _) rfl
  | respond session => exact hidle rfl (fabric_respond _ _ _) rfl
  | call input =>
    have hnone := @unbooked_of_operator options.fabric counting.server.fabric input hcall
    have htotals := @totals_step options.fabric counting.server.fabric input
    rw [hnone.1, hnone.2] at htotals
    have hzero : UInt64.ofNat (none : Option AgentBootId).isSome.toNat = 0 := rfl
    rw [hzero, add_zero, add_zero] at htotals
    constructor
    · exact h.accepted.trans (congrArg (· + _) htotals.1.symm)
    · exact h.rejected.trans (congrArg (· + _) htotals.2.symm)

/-- However the sessions interleave: as long as no caller in the process presents a boot, the
counters of the coordinator tell what its publishers were granted and refused. -/
theorem counters_reconcile (options : CoordinatorOptions) (file : Option Bytes)
    (events : List ServerEvent)
    (hcalls : Execution.EachStep (step options) (fun _ event => event.PresentsNoBoot)
      (start options file) events) :
    (Execution.run (step options) (start options file) events).Reconciled
      (Execution.occurrences (step options) (uncredited options) (start options file) events)
      (Execution.occurrences (step options) (uncharged options) (start options file) events) := by
  induction events using List.reverseRecOn with
  | nil => exact ⟨rfl, rfl⟩
  | append_singleton events event ih =>
    rw [Execution.run_concat, Execution.occurrences_concat, Execution.occurrences_concat]
    have hearlier := ih fun before input hbefore =>
      hcalls before input (hbefore.trans (List.prefix_append _ _))
    exact hearlier.step (hcalls events event (List.prefix_refl _))

theorem eachStep_of_mem {condition : ServerEvent → Prop} {events : List ServerEvent}
    (h : ∀ event ∈ events, condition event) (counting : CountingServer) :
    Execution.EachStep (step options) (fun _ event => condition event) counting events := by
  intro before event hbefore
  exact h event (hbefore.subset (by simp))

theorem savedPublication_reconciles :
    (Execution.run (step Scenario.persisting) (start Scenario.persisting none)
      Scenario.savedPublication).Reconciled
        (Execution.occurrences (step Scenario.persisting) (uncredited Scenario.persisting)
          (start Scenario.persisting none) Scenario.savedPublication)
        (Execution.occurrences (step Scenario.persisting) (uncharged Scenario.persisting)
          (start Scenario.persisting none) Scenario.savedPublication) := by
  apply counters_reconcile
  apply eachStep_of_mem
  intro event hmem
  simp only [Scenario.savedPublication, Scenario.joins, Scenario.publishDomain, List.cons_append,
    List.nil_append, List.mem_cons, List.not_mem_nil, or_false] at hmem
  rcases hmem with rfl | rfl | rfl | rfl | rfl | rfl | rfl
  · rintro token ⟨⟩
    rfl
  all_goals exact trivial

end CountingServer

end RackFabric
