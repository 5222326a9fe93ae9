import RackFabric.Properties.Authority

/-! A publication generation is spent by the first mutation accepted under it,
except by a declaration of the rack. -/
namespace RackFabric
open Std Tables RackState

def Mutation.presents (mutation : Mutation) : Option (AgentBootId × PublicationGeneration) :=
  mutation.token.bind fun token => token.boot.bind fun boot =>
    token.publicationGeneration.map (boot, ·)

def Mutation.isHeartbeat : Mutation → Bool
  | .heartbeat _ => true
  | _ => false

theorem Mutation.presents_eq_some {mutation : Mutation} {token : AuthorityToken}
    {boot : AgentBootId} {generation : PublicationGeneration}
    (htoken : mutation.token = some token) :
    mutation.presents = some (boot, generation) ↔
      token.boot = some boot ∧ token.publicationGeneration = some generation := by
  simp [presents, htoken, Option.bind_eq_some_iff]

namespace RackState
variable {options : RackFabricOptions} {state : RackState}

def AcceptedUnder (options : RackFabricOptions)
    (publication : AgentBootId × PublicationGeneration) (state : RackState) (input : Input) :
    Prop :=
  input.mutation.presents = some publication ∧ input.mutation.isHeartbeat = false ∧
    (state.perform options input).2 = some .accepted

/-- A declaration passes its checks and does not spend the generation it presents. -/
def SpendsNothing (state : RackState) (mutation : Mutation) : Prop :=
  mutation.presents.isSome = true ∧ ∃ request named epoch, mutation = .declareRack request ∧
    admitDeclaration state request = .ok (named, epoch) ∧
      ∀ rack, state.rack = some rack →
        ∃ generation, admitOverRack rack named epoch request = .ok generation

def Spent (publication : AgentBootId × PublicationGeneration) (state : RackState) : Prop :=
  ∃ record, state.publishers[publication.1]? = some record ∧
    publication.2 < record.publicationGeneration

theorem spent_advancePublication {token : AuthorityToken} {found : PublisherRef}
    {generation : PublicationGeneration} {committed : RackState}
    (hauthorized : state.Authorized token found)
    (hpresented : token.publicationGeneration = some generation)
    (hbelow : generation.next ≠ none)
    (hfollowed : Followed PublisherRecord.Continues state.publishers committed.publishers) :
    (committed.advancePublication (some found)).Spent (found.boot, generation) := by
  obtain rfl := hauthorized.sequenced generation hpresented
  obtain ⟨record, hrecord, hcontinues⟩ := hfollowed _ _ hauthorized.recorded
  refine ⟨_, by simp [advancePublication, hrecord]; rfl, ?_⟩
  have hle := hcontinues.generation
  cases hnext : record.publicationGeneration.next with
  | none =>
    refine Generation.lt_of_le_of_ne (by simpa [hnext] using hle) fun hsame => hbelow ?_
    simpa [hnext] using congrArg Generation.next hsame
  | some next =>
    have hlt := Generation.lt_of_le_of_lt hle (Generation.lt_of_next hnext)
    simpa [hnext] using hlt

theorem spent_of_accepted {publication : AgentBootId × PublicationGeneration} {input : Input}
    (hbelow : publication.2.next ≠ none) (hspends : ¬ state.SpendsNothing input.mutation)
    (haccepted : AcceptedUnder options publication state input) :
    (state.step options input).Spent publication := by
  obtain ⟨boot, generation⟩ := publication
  obtain ⟨hpresents, hbeat, houtcome⟩ := haccepted
  have htransition : Transition options state input.now input.mutation _ _ :=
    perform_transition state input
  unfold step
  obtain ⟨now, mutation⟩ := input
  generalize state.perform options ⟨now, mutation⟩ = result at htransition houtcome ⊢
  obtain ⟨after, replied⟩ := result
  dsimp only at htransition houtcome hpresents hbeat hspends ⊢
  cases htransition with
  | refused hrefused => exact absurd (Option.some.inj houtcome) hrefused
  | noted refusal => exact absurd (Option.some.inj houtcome) refusal.not_accepted
  | @stopped _ _ _ refusal _ _ => exact absurd (Option.some.inj houtcome) refusal.not_accepted
  | committed htoken hauthority hadmitted =>
    obtain ⟨hboot, hgeneration⟩ := (Mutation.presents_eq_some htoken).mp hpresents
    rcases checkAuthority_ok hauthority with ⟨hnone, -⟩ | ⟨found, rfl, hsome, -⟩
    · rw [hnone] at hboot
      cases hboot
    · obtain rfl := Option.some.inj (hsome.symm.trans hboot)
      exact spent_advancePublication (authorized_of_ok hauthority) hgeneration hbelow
        ((publishers_admitted hadmitted).mono .of_keeps)
  | @declared request named epoch hadmitted hnone =>
    refine absurd ⟨by simp [hpresents], request, named, epoch, rfl, hadmitted, ?_⟩ hspends
    simp [hnone]
  | @redeclared request named epoch rack rackGeneration hadmitted hsome hover =>
    refine absurd ⟨by simp [hpresents], request, named, epoch, rfl, hadmitted, ?_⟩ hspends
    intro other hother
    obtain rfl := Option.some.inj (hsome.symm.trans hother)
    exact ⟨rackGeneration, hover⟩
  | beat => cases hbeat
  | refreshed | registered | fenced | expired => cases hpresents

theorem not_spent_of_accepted {publication : AgentBootId × PublicationGeneration} {input : Input}
    (haccepted : AcceptedUnder options publication state input) : ¬ state.Spent publication := by
  obtain ⟨boot, generation⟩ := publication
  obtain ⟨hpresents, -, houtcome⟩ := haccepted
  rintro ⟨record, hfound, hlt⟩
  cases htoken : input.mutation.token with
  | none => simp [Mutation.presents, htoken] at hpresents
  | some token =>
    obtain ⟨hboot, hgeneration⟩ := (Mutation.presents_eq_some htoken).mp hpresents
    obtain ⟨found, hauthorized, rfl⟩ :=
      authorized_of_accepted htoken hboot houtcome (perform_transition state input)
    obtain rfl := Option.some.inj (hauthorized.recorded.symm.trans hfound)
    obtain rfl := hauthorized.sequenced generation hgeneration
    exact Generation.lt_irrefl _ hlt

/-- In a run whose accepted declarations present no publication, every
publication is accepted at most once. -/
theorem publication_accepted_once (options : RackFabricOptions) (inputs : List Input)
    (hspends : Execution.EachStep (step options)
      (fun state input => ¬ state.SpendsNothing input.mutation) (fresh options) inputs)
    (boot : AgentBootId) (generation : PublicationGeneration) (hbelow : generation.next ≠ none) :
    Execution.AtMostOnce (step options) (AcceptedUnder options (boot, generation))
      (fresh options) inputs := by
  apply Execution.atMostOnce_of_passed (step options) (Spent (boot, generation))
  · intro before input hinitial haccepted
    exact spent_of_accepted hbelow (hspends before input hinitial) haccepted
  · rintro before between hinitial ⟨record, hfound, hlt⟩
    obtain ⟨later, hlater, hcontinues⟩ :=
      publishers_run options inputs before between hinitial boot record hfound
    exact ⟨later, hlater, Generation.lt_of_lt_of_le hlt hcontinues.generation⟩
  · exact fun before input _ haccepted => not_spent_of_accepted haccepted

def sequencedToken (boot : AgentBootId) (generation : PublicationGeneration) : AuthorityToken :=
  { Scenario.process boot with publicationGeneration := some generation }

theorem first_publication_accepted_once :
    let inputs := [Scenario.declareRack, Scenario.registerPublisher Scenario.bootA,
      Scenario.publishMember (sequencedToken Scenario.bootA .first) { key := Scenario.node "a" }]
    Execution.AtMostOnce (step Scenario.defaults)
      (AcceptedUnder Scenario.defaults (Scenario.bootA, .first)) (fresh Scenario.defaults)
      inputs :=
  publication_accepted_once Scenario.defaults _ (by
    simp only [Execution.eachStep_cons, Execution.eachStep_nil, and_true]
    refine ⟨fun h => absurd h.1 (by decide), ?_, ?_⟩
    · rintro ⟨-, request, named, epoch, hdeclare, -⟩
      cases hdeclare
    · rintro ⟨-, request, named, epoch, hdeclare, -⟩
      cases hdeclare) Scenario.bootA .first (by decide)

def redeclareRack (epoch : String) (generation : PublicationGeneration) : Input where
  mutation := .declareRack
    { authority := sequencedToken Scenario.bootA generation, epoch := some (.ofText (str epoch))
      redeclare := true }

/-- The last request repeats the one before the last but one. -/
def redeclaringInputs : List Input :=
  [Scenario.declareRack, Scenario.registerPublisher Scenario.bootA,
    redeclareRack "epoch-2" .first, redeclareRack "epoch-3" .first, redeclareRack "epoch-2" .first]

theorem redeclaration_accepted_again :
    ¬ ∀ boot generation, Generation.next generation ≠ none →
      Execution.AtMostOnce (step Scenario.defaults)
        (AcceptedUnder Scenario.defaults (boot, generation)) (fresh Scenario.defaults)
        redeclaringInputs := by
  intro h
  have hfirst : ((Scenario.run (redeclaringInputs.take 2)).perform Scenario.defaults
      redeclaringInputs[2]).2 = some .accepted := by
    decide +kernel
  have hagain : ((Scenario.run (redeclaringInputs.take 4)).perform Scenario.defaults
      redeclaringInputs[4]).2 = some .accepted := by
    decide +kernel
  exact h Scenario.bootA .first (by decide) (redeclaringInputs.take 2) redeclaringInputs[2]
    [redeclaringInputs[3]] redeclaringInputs[4] (List.prefix_refl _) ⟨by decide, rfl, hfirst⟩
    ⟨by decide, rfl, hagain⟩

end RackState

end RackFabric
