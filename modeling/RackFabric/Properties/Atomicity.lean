import RackFabric.Properties.Fencing
import RackFabric.Properties.Transitions

/-! A rejection changes nothing, unless a revalidation stops at a target after it
has revalidated another one. -/
namespace RackFabric
open Std RackState

def PublisherRecord.uncounted (record : PublisherRecord) : PublisherRecord :=
  { record with rejectedMutations := 0 }

namespace RackState
variable {options : RackFabricOptions} {state : RackState} {publisher : Option PublisherRef}

/-- Nothing differs but the count of rejections of the publisher that presented
the request. -/
structure Untouched (presented : Option AgentBootId) (before after : RackState) : Prop where
  rest : { after with publishers := before.publishers } = before
  others : ∀ boot, presented ≠ some boot → after.publishers[boot]? = before.publishers[boot]?
  counted : ∀ boot, presented = some boot →
    after.publishers[boot]?.map PublisherRecord.uncounted =
      before.publishers[boot]?.map PublisherRecord.uncounted

theorem Untouched.refl (presented : Option AgentBootId) (state : RackState) :
    Untouched presented state state :=
  ⟨rfl, fun _ _ => rfl, fun _ _ => rfl⟩

theorem untouched_noteRefusal {token : AuthorityToken} {rackScoped : Bool} (refusal : Refusal)
    (h : state.checkAuthority token rackScoped = .ok publisher) :
    Untouched token.boot state (state.noteRefusal publisher refusal) := by
  rcases checkAuthority_ok h with ⟨-, rfl⟩ | ⟨found, rfl, hboot, -, -⟩
  · exact .refl ..
  · simp only [noteRefusal]
    split
    · exact .refl ..
    · refine ⟨rfl, fun boot hother => ?_, fun boot hsame => ?_⟩
      · have hne : found.boot ≠ boot := fun heq => hother (heq ▸ hboot)
        simp [ExtTreeMap.getElem?_modify, hne]
      · obtain rfl : found.boot = boot := Option.some.inj (hboot.symm.trans hsame)
        cases hrecord : state.publishers[found.boot]? <;>
          simp [hrecord, PublisherRecord.uncounted]

/-! A target of revalidate_members that is refused, and one that is changed. -/

def refusesTarget (graph : RackGraph) (token : AuthorityToken) (key : MemberKey) : Bool :=
  match graph.members[key]? with
  | none => true
  | some existing =>
      ownerConflict existing.ownerBoot token ||
        (existing.revalidationRequired && existing.generation.next.isNone)

def revalidatesTarget (graph : RackGraph) (token : AuthorityToken) (key : MemberKey) : Bool :=
  match graph.members[key]? with
  | none => false
  | some existing =>
      !ownerConflict existing.ownerBoot token && existing.revalidationRequired &&
        existing.generation.next.isSome

def StopsLate (graph : RackGraph) (token : AuthorityToken) (targets : List MemberKey) : Prop :=
  ∃ before due later, targets = before ++ due :: later ∧
    (∀ key ∈ before, refusesTarget graph token key = false) ∧
    revalidatesTarget graph token due = true ∧
    ∃ key ∈ later, refusesTarget graph token key = true

/-- The request is a revalidation that stops after its first change. -/
def Interrupted (state : RackState) (mutation : Mutation) : Prop :=
  ∃ request publisher, mutation = .revalidateMembers request ∧
    state.checkAuthority request.authority true = .ok publisher ∧
    StopsLate state.toRackGraph request.authority (state.revalidationTargets request)

section Targets
variable {graph : RackGraph} {token : AuthorityToken} {key : MemberKey} {targets : List MemberKey}

theorem not_stopsLate_nil : ¬ StopsLate graph token [] := by
  rintro ⟨before, due, later, h, -⟩
  exact absurd h (by simp)

theorem not_refused_of_revalidates (h : revalidatesTarget graph token key = true) :
    refusesTarget graph token key = false := by
  unfold revalidatesTarget at h
  unfold refusesTarget
  split at h
  · cases h
  · rename_i existing hfound
    simp only [Bool.and_eq_true, Bool.not_eq_true'] at h
    have hnext : existing.generation.next.isNone = false := by simpa using h.2
    simp [h.1.1, hnext]

theorem stopsLate_cons :
    StopsLate graph token (key :: targets) ↔
      refusesTarget graph token key = false ∧
        ((revalidatesTarget graph token key = true ∧
            ∃ later ∈ targets, refusesTarget graph token later = true) ∨
          StopsLate graph token targets) := by
  constructor
  · rintro ⟨before, due, later, hsplit, hbefore, hdue, hlater⟩
    cases before with
    | nil =>
      obtain ⟨rfl, rfl⟩ := List.cons.inj hsplit
      exact ⟨not_refused_of_revalidates hdue, Or.inl ⟨hdue, hlater⟩⟩
    | cons first before =>
      obtain ⟨rfl, rfl⟩ := List.cons.inj hsplit
      obtain ⟨hfirst, hbefore⟩ := List.forall_mem_cons.mp hbefore
      exact ⟨hfirst, Or.inr ⟨before, due, later, rfl, hbefore, hdue, hlater⟩⟩
  · rintro ⟨hkey, ⟨hdue, hlater⟩ | ⟨before, due, later, rfl, hbefore, hdue, hlater⟩⟩
    · exact ⟨[], key, targets, rfl, by simp, hdue, hlater⟩
    · exact ⟨key :: before, due, later, rfl, List.forall_mem_cons.mpr ⟨hkey, hbefore⟩, hdue,
        hlater⟩

def revalidatedRecord (existing : MemberRecord) (next : MemberGeneration) : MemberRecord :=
  { existing with
    revalidationRequired := false, revalidationReason := .none, generation := next }

/-- One target is refused, or left alone, or revalidated. -/
theorem revalidateTargets_cons (graph : RackGraph) (token : AuthorityToken) (key : MemberKey)
    (targets : List MemberKey) (revalidated : Nat) :
    (refusesTarget graph token key = true ∧ ∃ refusal,
      revalidateTargets token (key :: targets) graph revalidated = (graph, .error refusal) ∧
        refusal.outcome.isRejection = true) ∨
    (refusesTarget graph token key = false ∧ revalidatesTarget graph token key = false ∧
      revalidateTargets token (key :: targets) graph revalidated =
        revalidateTargets token targets graph revalidated) ∨
    (revalidatesTarget graph token key = true ∧ ∃ existing next,
      graph.members[key]? = some existing ∧ existing.revalidationRequired = true ∧
      existing.generation.next = some next ∧
      revalidateTargets token (key :: targets) graph revalidated =
        revalidateTargets token targets
          (graph.storeMember key (some existing) (revalidatedRecord existing next))
          (revalidated + 1)) := by
  unfold refusesTarget revalidatesTarget
  rw [revalidateTargets]
  cases hfound : graph.members[key]? with
  | none => exact Or.inl ⟨rfl, _, rfl, rfl⟩
  | some existing =>
    dsimp only
    by_cases hconflict : ownerConflict existing.ownerBoot token = true
    · refine Or.inl ⟨by simp [hconflict], ?_⟩
      simp only [hconflict, if_true]
      exact ⟨_, rfl, rfl⟩
    · by_cases hdue : existing.revalidationRequired = true
      · cases hnext : existing.generation.next with
        | none =>
          refine Or.inl ⟨by simp [hdue], ?_⟩
          simp only [hconflict, hdue, Bool.not_true, Bool.false_eq_true, if_false]
          exact ⟨_, rfl, rfl⟩
        | some next => simp [hconflict, hdue, hnext, revalidatedRecord]
      · simp [hconflict, hdue]

section Revalidated
variable {existing : MemberRecord} {next : MemberGeneration}

theorem refusesTarget_store (hfound : graph.members[key]? = some existing)
    (hdue : revalidatesTarget graph token key = true) (other : MemberKey) :
    refusesTarget (graph.storeMember key (some existing) (revalidatedRecord existing next)) token
        other = refusesTarget graph token other := by
  have hkept := not_refused_of_revalidates hdue
  by_cases hsame : key = other
  · subst hsame
    rw [hkept]
    simp only [refusesTarget, hfound, Bool.or_eq_false_iff] at hkept
    simp [refusesTarget, revalidatedRecord, hkept.1]
  · simp [refusesTarget, ExtTreeMap.getElem?_insert, hsame]

end Revalidated

theorem revalidateTargets_refused_iff (revalidated : Nat) :
    (∃ refusal, (revalidateTargets token targets graph revalidated).2 = .error refusal) ↔
      ∃ target ∈ targets, refusesTarget graph token target = true := by
  induction targets generalizing graph revalidated with
  | nil => simp [revalidateTargets]
  | cons key targets ih =>
    rw [List.exists_mem_cons_iff]
    rcases revalidateTargets_cons graph token key targets revalidated with
      ⟨hkey, refusal, hstop, -⟩ | ⟨hkey, -, hskip⟩ | ⟨hdue, existing, next, hfound, -, -, hgo⟩
    · simp [hstop, hkey]
    · rw [hskip, ih, hkey]
      simp
    · rw [hgo, ih]
      simp only [refusesTarget_store hfound hdue, not_refused_of_revalidates hdue,
        Bool.false_eq_true, false_or]

/-- A record that needs no revalidation stays as it is. -/
theorem revalidateTargets_keeps (token : AuthorityToken) {record : MemberRecord}
    (hfound : graph.members[key]? = some record) (hdone : record.revalidationRequired = false)
    (targets : List MemberKey) (revalidated : Nat) :
    (revalidateTargets token targets graph revalidated).1.members[key]? = some record := by
  induction targets generalizing graph revalidated with
  | nil => exact hfound
  | cons target targets ih =>
    rcases revalidateTargets_cons graph token target targets revalidated with
      ⟨-, refusal, hstop, -⟩ | ⟨-, -, hskip⟩ | ⟨-, existing, next, hexisting, hdue, -, hgo⟩
    · rw [hstop]
      exact hfound
    · rw [hskip]
      exact ih hfound _
    · have hne : target ≠ key := by
        rintro rfl
        rw [hfound] at hexisting
        cases hexisting
        exact absurd hdue (by simp [hdone])
      rw [hgo]
      exact ih (by simp [ExtTreeMap.getElem?_insert, hne, hfound]) _

/-- A refused revalidation leaves the graph alone unless it stops late. -/
theorem revalidateTargets_unchanged {after : RackGraph} {refusal : Refusal} {revalidated : Nat}
    (h : revalidateTargets token targets graph revalidated = (after, .error refusal))
    (hearly : ¬ StopsLate graph token targets) : after = graph := by
  induction targets generalizing revalidated with
  | nil => cases h
  | cons key targets ih =>
    rcases revalidateTargets_cons graph token key targets revalidated with
      ⟨-, other, hstop, -⟩ | ⟨hkey, -, hskip⟩ | ⟨hdue, existing, next, hfound, -, -, hgo⟩
    · rw [hstop] at h
      exact (Prod.mk.inj h).1.symm
    · rw [hskip] at h
      exact ih h fun hlate => hearly (stopsLate_cons.mpr ⟨hkey, Or.inr hlate⟩)
    · exfalso
      rw [hgo] at h
      have hrefused := (revalidateTargets_refused_iff (revalidated + 1)).mp
        ⟨refusal, congrArg Prod.snd h⟩
      simp only [refusesTarget_store hfound hdue] at hrefused
      exact hearly (stopsLate_cons.mpr ⟨not_refused_of_revalidates hdue, Or.inl ⟨hdue, hrefused⟩⟩)

/-- A late stop leaves the record that was revalidated first. -/
theorem revalidateTargets_changed (hlate : StopsLate graph token targets) (revalidated : Nat) :
    (revalidateTargets token targets graph revalidated).1.members ≠ graph.members := by
  induction targets generalizing revalidated with
  | nil => exact absurd hlate not_stopsLate_nil
  | cons key targets ih =>
    obtain ⟨hkey, hlate⟩ := stopsLate_cons.mp hlate
    rcases revalidateTargets_cons graph token key targets revalidated with
      ⟨hrefused, -⟩ | ⟨-, hidle, hskip⟩ | ⟨-, existing, next, hfound, hdue, -, hgo⟩
    · exact absurd hrefused (by simp [hkey])
    · rw [hskip]
      rcases hlate with ⟨hdue, -⟩ | hlate
      · exact absurd hdue (by simp [hidle])
      · exact ih hlate _
    · rw [hgo]
      intro hsame
      have hstored : (graph.storeMember key (some existing)
          (revalidatedRecord existing next)).members[key]? =
            some (revalidatedRecord existing next) := by simp
      have hkept := revalidateTargets_keeps token hstored rfl targets (revalidated + 1)
      rw [hsame, hfound, Option.some.injEq] at hkept
      rw [hkept] at hdue
      cases hdue

theorem revalidateTargets_rejection {after : RackGraph} {refusal : Refusal} {revalidated : Nat}
    (h : revalidateTargets token targets graph revalidated = (after, .error refusal)) :
    refusal.outcome.isRejection = true := by
  induction targets generalizing graph revalidated with
  | nil => cases h
  | cons key targets ih =>
    rcases revalidateTargets_cons graph token key targets revalidated with
      ⟨-, other, hstop, hrejection⟩ | ⟨-, -, hskip⟩ | ⟨-, existing, next, -, -, -, hgo⟩
    · rw [hstop] at h
      cases h
      exact hrejection
    · exact ih (hskip ▸ h)
    · exact ih (hgo ▸ h)

end Targets

def Atomic (options : RackFabricOptions) (state : RackState) (input : Input) : Prop :=
  ∀ outcome, (state.perform options input).2 = some outcome → outcome.isRejection = true →
    Untouched input.mutation.submittedBy state (state.step options input)

theorem revalidateMembers_stopped {request : RevalidateMembersRequest}
    (hauthority : state.checkAuthority request.authority true = .ok publisher)
    (hlate : StopsLate state.toRackGraph request.authority (state.revalidationTargets request)) :
    ∃ graph refusal, refusal.outcome.isRejection = true ∧ graph.members ≠ state.members ∧
      (state.revalidateMembers request).1 =
        { state with toRackGraph := graph }.noteRefusal publisher refusal ∧
      (state.revalidateMembers request).2.outcome = refusal.outcome := by
  obtain ⟨before, due, later, hsplit, -, -, last, hlast, hrefused⟩ := id hlate
  have hmem : last ∈ state.revalidationTargets request := by
    rw [hsplit]
    exact List.mem_append_right _ (List.mem_cons_of_mem _ hlast)
  obtain ⟨refusal, hverdict⟩ := (revalidateTargets_refused_iff 0).mpr ⟨last, hmem, hrefused⟩
  have hchanged := revalidateTargets_changed hlate 0
  have hempty : (state.revalidationTargets request).isEmpty = false :=
    List.isEmpty_eq_false_iff_exists_mem.mpr ⟨last, hmem⟩
  cases hresult : revalidateTargets request.authority (state.revalidationTargets request)
      state.toRackGraph 0 with
  | mk graph verdict =>
    rw [hresult] at hverdict hchanged
    subst hverdict
    refine ⟨graph, refusal, revalidateTargets_rejection hresult, hchanged, ?_⟩
    unfold revalidateMembers
    simp only [hauthority, hempty, hresult, Bool.false_eq_true, if_false]
    exact ⟨rfl, rfl⟩

theorem members_noteRefusal (publisher : Option PublisherRef) (refusal : Refusal) :
    (state.noteRefusal publisher refusal).members = state.members := by
  rw [toRackGraph_noteRefusal]

theorem atomic_iff (state : RackState) (input : Input) :
    Atomic options state input ↔ ¬ Interrupted state input.mutation := by
  constructor
  · rintro hatomic ⟨request, publisher, hmutation, hauthority, hlate⟩
    obtain ⟨graph, refusal, hrejection, hchanged, hafter, houtcome⟩ :=
      revalidateMembers_stopped hauthority hlate
    have hperform : state.perform options input =
        ((state.revalidateMembers request).1,
          some (state.revalidateMembers request).2.outcome) := by
      unfold perform
      rw [hmutation]
    have hrest := (hatomic refusal.outcome (by rw [hperform, houtcome]) hrejection).rest
    have hmembers := congrArg (fun after => after.members) hrest
    simp only [step, hperform, hafter, members_noteRefusal] at hmembers
    exact hchanged hmembers
  · intro hearly outcome houtcome hrejection
    have htransition : Transition options state input.now input.mutation _ _ :=
      perform_transition state input
    unfold step
    obtain ⟨now, mutation⟩ := input
    generalize state.perform options ⟨now, mutation⟩ = result at htransition houtcome ⊢
    obtain ⟨after, replied⟩ := result
    dsimp only at htransition houtcome hearly ⊢
    cases htransition with
    | refused => exact .refl ..
    | noted refusal htoken hauthority =>
      rw [Mutation.submittedBy_of_token htoken]
      exact untouched_noteRefusal refusal hauthority
    | stopped hauthority hstopped =>
      have hsame := revalidateTargets_unchanged hstopped fun hlate =>
        hearly ⟨_, _, rfl, hauthority, hlate⟩
      subst hsame
      exact untouched_noteRefusal _ hauthority
    | expired => cases houtcome
    | _ =>
      cases houtcome
      cases hrejection

theorem rejection_atomic_iff (options : RackFabricOptions) (inputs : List Input) :
    Execution.EachStep (step options) (Atomic options) (fresh options) inputs ↔
      Execution.EachStep (step options) (fun state input => ¬ Interrupted state input.mutation)
        (fresh options) inputs :=
  Execution.eachStep_congr _ fun _ input _ => atomic_iff _ input

/-- The second target of the revalidation does not exist. -/
def revalidatingInputs : List Input :=
  [Scenario.declareRack,
    Scenario.publishMember Scenario.operator { key := Scenario.node "a" },
    { mutation := .markUnavailable
        { authority := Scenario.operator, member := Scenario.node "a" } },
    { mutation := .revalidateMembers
        { authority := Scenario.operator, members := [Scenario.node "a", Scenario.node "b"] } }]

theorem stopped_revalidation_changes_member :
    ¬ Execution.EachStep (step Scenario.defaults) (Atomic Scenario.defaults)
      (fresh Scenario.defaults) revalidatingInputs := by
  intro h
  have houtcome : ((Scenario.run (revalidatingInputs.take 3)).perform Scenario.defaults
      revalidatingInputs[3]).2 = some .rejectUnknownMember := by
    decide +kernel
  have hchanged : (Scenario.run revalidatingInputs).members[Scenario.node "a"]? ≠
      (Scenario.run (revalidatingInputs.take 3)).members[Scenario.node "a"]? := by
    decide +kernel
  have hrest := (h (revalidatingInputs.take 3) revalidatingInputs[3] (List.prefix_refl _) _
    houtcome rfl).rest
  exact hchanged (congrArg (fun after => after.members[Scenario.node "a"]?) hrest)

end RackState

end RackFabric
