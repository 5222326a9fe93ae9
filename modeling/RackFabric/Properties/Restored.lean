import RackFabric.Model.Deployment
import RackFabric.Properties.Indexes
import RackFabric.Properties.RoundTrip
import RackFabric.Properties.Recovery

/-! What every state of a deployment has in common, whether its rack was built by
mutations or read from a file. -/
namespace RackFabric
open Std SecondaryIndex Reachability Relation RackGraph RackState Tables ByteReader

namespace RackGraph

structure Orderly (graph : RackGraph) : Prop extends Keyed graph where
  owners : byOwnerBoot.Mirrored unpinned graph

variable {graph after : RackGraph}

theorem Orderly.empty : Orderly {} where
  toKeyed := WellFormed.empty.toKeyed
  owners := mirrored_empty _ rfl

theorem Orderly.storeMember (h : graph.Orderly) {key : MemberKey} {record : MemberRecord}
    (hkey : record.key = key) :
    (graph.storeMember key graph.members[key]? record).Orderly where
  members hfound := by
    rw [members_storeMember] at hfound
    rcases getElem?_insert_cases hfound with ⟨rfl, rfl⟩ | ⟨-, hold⟩
    · exact hkey
    · exact h.members hold
  relationships hfound := h.relationships (by simpa using hfound)
  failureDomains hfound := h.failureDomains (by simpa using hfound)
  owners := byOwnerBoot.storeMember_mirrored h.owners h.toKeyed hkey

theorem Orderly.revise (h : graph.Orderly) {key : MemberKey} {existing record : MemberRecord}
    (hfound : graph.members[key]? = some existing) (hkey : record.key = existing.key) :
    (graph.storeMember key (some existing) record).Orderly := by
  rw [← hfound]
  exact h.storeMember (hkey.trans (h.members hfound))

theorem Orderly.storeRelationship (h : graph.Orderly) (existing : Option RelationshipRecord)
    (record : RelationshipRecord) : (graph.storeRelationship existing record).Orderly where
  members hfound := h.members (by simpa using hfound)
  relationships hfound := by
    rw [relationships_storeRelationship] at hfound
    rcases getElem?_insert_cases hfound with ⟨rfl, rfl⟩ | ⟨-, hold⟩
    · rfl
    · exact h.relationships hold
  failureDomains hfound := h.failureDomains (by simpa using hfound)
  owners := h.owners.of_eq (byOwnerBoot.index_storeRelationship ..) (members_storeRelationship ..)

theorem Orderly.storeFailureDomain (h : graph.Orderly) (existing : Option FailureDomainRecord)
    (record : FailureDomainRecord) : (graph.storeFailureDomain existing record).Orderly where
  members hfound := h.members (by simpa using hfound)
  relationships hfound := h.relationships (by simpa using hfound)
  failureDomains hfound := by
    rw [failureDomains_storeFailureDomain] at hfound
    rcases getElem?_insert_cases hfound with ⟨rfl, rfl⟩ | ⟨-, hold⟩
    · rfl
    · exact h.failureDomains hold
  owners := h.owners.of_eq (membersByOwnerBoot_storeFailureDomain graph existing record)
    (members_storeFailureDomain ..)

theorem Orderly.dropRelationship (h : graph.Orderly) (key : RelationshipKey) :
    (graph.dropRelationship key).Orderly where
  members hfound := h.members (by simpa using hfound)
  relationships hfound := by
    rw [relationships_dropRelationship, ExtTreeMap.getElem?_erase] at hfound
    split at hfound
    · cases hfound
    · exact h.relationships hfound
  failureDomains hfound := h.failureDomains (by simpa using hfound)
  owners := h.owners.of_eq (byOwnerBoot.index_dropRelationship ..) (members_dropRelationship ..)

theorem Orderly.upkeep (h : graph.Orderly) (hstep : graph.Upkeep after) : after.Orderly := by
  cases hstep with
  | store hfound hkept => exact h.revise hfound hkept.key
  | detach hfound => exact h.revise hfound rfl
  | unlink key => exact h.dropRelationship key
  | annotate hmembers hrelationships hdomains =>
    exact
      { members := fun hfound => by
          obtain ⟨old, hold, rfl⟩ := getElem?_map_cases hfound
          exact (hmembers old).key.trans (h.members hold)
        relationships := fun hfound => by
          obtain ⟨old, hold, rfl⟩ := getElem?_map_cases hfound
          exact (hrelationships old).trans (h.relationships hold)
        failureDomains := fun hfound => by
          obtain ⟨old, hold, rfl⟩ := getElem?_map_cases hfound
          exact (hdomains old).1.trans (h.failureDomains hold)
        owners := MemberIndex.annotate_mirrored h.owners rfl fun record => by
          simp [byOwnerBoot, MemberRecord.ownerKeys, (hmembers record).ownerBoot] }

theorem Orderly.maintained (h : graph.Orderly) (hsteps : ReflTransGen Upkeep graph after) :
    after.Orderly := by
  induction hsteps with
  | refl => exact h
  | tail _ hstep ih => exact ih.upkeep hstep

theorem Orderly.effect {options : RackFabricOptions} {state : RackState} {mutation : Mutation}
    (h : state.Orderly) (heffect : GraphEffect options state mutation after) :
    after.Orderly := by
  cases heffect with
  | maintained _ hsteps => exact h.maintained hsteps
  | enrolled _ _ => exact h.storeMember rfl
  | linked _ _ => exact h.storeRelationship ..
  | filed _ _ => exact h.storeFailureDomain ..
  | observed _ hadmitted =>
    have hrevision := revision_of_health h.toKeyed hadmitted
    rw [hrevision.key]
    exact h.revise hrevision.found (hrevision.key.trans (h.members hrevision.found).symm)
  | withdrawn _ hadmitted =>
    have hrevision := revision_of_withdrawal h.toKeyed hadmitted
    rw [hrevision.key]
    exact h.revise hrevision.found (hrevision.key.trans (h.members hrevision.found).symm)
  | @retired request _ record _ hadmitted =>
    obtain ⟨existing, hfound, -, -, hrecord⟩ := admitRetirement_ok hadmitted
    have hkey : record.key = request.member := by
      rw [hrecord]
      exact (h.members hfound : existing.key = request.member)
    rw [retireInGraph_eq, hkey]
    exact (h.maintained (maintained_trimmed _ request.member)).storeMember hkey

/-- A rebuilt owner index lists the members of each boot. -/
theorem Orderly.rebuilt (h : graph.Keyed) : graph.rebuildIndexes.Orderly where
  members hfound := h.members (by simpa using hfound)
  relationships hfound := h.relationships (by simpa using hfound)
  failureDomains hfound := h.failureDomains (by simpa using hfound)
  owners := byOwnerBoot.rebuilt h fun _ _ => rfl

end RackGraph

namespace RackState

theorem orderly_step {options : RackFabricOptions} (state : RackState) (input : Input)
    (h : state.Orderly) : (step options state input).Orderly :=
  h.effect (step_effect h.toKeyed input)

end RackState

/-! A file files its records under their own keys, whatever it holds. -/

section Decoded
variable {κ ρ : Type} [Ord κ] [TransOrd κ] [LawfulEqOrd κ]
  {limits : ResourceLimits}

theorem ensures_decodeDistinct_keyed {read : Decoder ρ} {keyOf : ρ → κ} {duplicate : String}
    (remaining : Nat) (table : ExtTreeMap κ ρ)
    (h : ∀ {key : κ} {record : ρ}, table[key]? = some record → keyOf record = key) :
    Ensures limits (decodeDistinct read keyOf duplicate remaining table)
      fun table => ∀ {key : κ} {record : ρ}, table[key]? = some record →
        keyOf record = key := by
  induction remaining generalizing table with
  | zero => exact .pure h
  | succ remaining ih =>
    refine .skip fun record => ?_
    split
    · exact .fail _
    · refine ih _ fun {key} {found} hfound => ?_
      rcases getElem?_insert_cases hfound with ⟨rfl, rfl⟩ | ⟨-, hold⟩
      · rfl
      · exact h hold

theorem ensures_decodeTable_keyed {read : Decoder ρ} {keyOf : ρ → κ}
    {maximum : ResourceLimits → Nat} {exceeded duplicate : String} :
    Ensures limits (decodeTable maximum maximum exceeded (decodeDistinct read keyOf duplicate))
      fun table => ∀ {key : κ} {record : ρ}, table[key]? = some record → keyOf record = key :=
  ensures_table fun count _ => ensures_decodeDistinct_keyed count ∅ (by simp)

theorem ensures_state_keyed : Ensures limits decodeState fun state => state.Keyed := by
  refine .skip fun _ => .skip fun _ => .skip fun _ => .skip fun _ => .skip fun _ => ?_
  refine ensures_decodeTable_keyed.bind fun _ members => ?_
  refine ensures_decodeTable_keyed.bind fun _ relationships => ?_
  refine ensures_decodeTable_keyed.bind fun _ failureDomains => ?_
  refine .skip fun _ => .skip fun _ => .skip fun _ => .skip fun _ => .skip fun _ => ?_
  exact .pure ⟨⟨members, failureDomains⟩, relationships⟩

end Decoded

theorem readCandidate_ok {options : RackFabricOptions} {file : Option Bytes} {readable : Bool}
    {candidate : RackState} (h : readCandidate options file readable = .ok candidate) :
    ∃ payload decoded, decodeStatePayload payload options.limits = .ok decoded ∧
      adoptCandidate options decoded = candidate := by
  unfold readCandidate at h
  simp only [bind, Except.bind] at h
  split at h
  · cases h
  · split at h
    · cases h
    · rename_i payload _
      cases hdecoded : decodeStatePayload payload options.limits with
      | error error => simp [hdecoded] at h
      | ok decoded =>
        exact ⟨payload, decoded, hdecoded, by simpa [hdecoded, pure, Except.pure] using h⟩

theorem keyed_of_decoded {payload : Bytes} {limits : ResourceLimits} {decoded : RackState}
    (h : decodeStatePayload payload limits = .ok decoded) : decoded.Keyed := by
  unfold decodeStatePayload at h
  split at h
  · cases h
  · rename_i hread
    cases h
    exact ensures_state_keyed _ _ _ hread
  · cases h

theorem orderly_recovered {candidate : RackState} (h : candidate.Keyed)
    (epoch : CoordinatorEpoch) : (applyRecoveryPolicy candidate epoch).Orderly := by
  refine Orderly.rebuilt ⟨⟨fun hfound => ?_, fun hfound => ?_⟩, fun hfound => ?_⟩
  · obtain ⟨old, hold, hrecovered⟩ := getElem?_map_cases hfound
    rw [← hrecovered, ← h.members hold]
    unfold recoverMember
    split <;> rfl
  · obtain ⟨old, hold, hrecovered⟩ := getElem?_map_cases hfound
    rw [← hrecovered, ← h.failureDomains hold]
    rfl
  · obtain ⟨old, hold, hrecovered⟩ := getElem?_map_cases hfound
    rw [← hrecovered, ← h.relationships hold]
    rfl

theorem orderly_loaded {options : RackFabricOptions} {now : Timestamp} {file : Option Bytes}
    {readable : Bool} {loaded : RackState}
    (h : loadState options now file readable = .ok loaded) : loaded.Orderly := by
  obtain ⟨candidate, epoch, hcandidate, -, -, rfl⟩ := loadState_ok h
  obtain ⟨payload, decoded, hdecoded, rfl⟩ := readCandidate_ok hcandidate
  exact orderly_recovered (Orderly.rebuilt (keyed_of_decoded hdecoded)).toKeyed epoch

namespace Deployment

theorem orderly_step (deployment : Deployment) (operation : Operation)
    (h : deployment.live.Orderly) : (step deployment operation).live.Orderly := by
  cases operation with
  | restart options => exact Orderly.empty
  | mutate input => exact RackState.orderly_step deployment.live input h
  | save options outcome =>
    simp only [step]
    split <;> exact h
  | load now readable =>
    simp only [step]
    split
    · exact h
    · rename_i hloaded
      exact orderly_loaded hloaded

theorem orderly_after (file : Option Bytes) (options : RackFabricOptions)
    (operations : List Operation) : (after file options operations).live.Orderly :=
  Execution.invariant step orderly_step (by exact Orderly.empty) operations

end Deployment

end RackFabric
