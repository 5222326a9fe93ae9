import RackFabric.Properties.Synthetic

/-! The relationships of a generated rack, whose keys tell what each of them links. -/
namespace RackFabric
open Filing

namespace RelationshipKey

/-- Endpoints in one order or the other give the same key of a symmetric class only. -/
theorem canonicalize_injective {cls cls' : RelationshipClass}
    {source target source' target' : MemberKey}
    (h : canonicalize cls source target = canonicalize cls' source' target') :
    cls = cls' ∧
      ((source = source' ∧ target = target') ∨ (source = target' ∧ target = source')) := by
  unfold canonicalize at h
  split at h <;> split at h
  · obtain ⟨rfl, rfl, rfl⟩ := RelationshipKey.mk.inj h
    exact ⟨rfl, Or.inl ⟨rfl, rfl⟩⟩
  · obtain ⟨rfl, rfl, rfl⟩ := RelationshipKey.mk.inj h
    exact ⟨rfl, Or.inr ⟨rfl, rfl⟩⟩
  · obtain ⟨rfl, rfl, rfl⟩ := RelationshipKey.mk.inj h
    exact ⟨rfl, Or.inr ⟨rfl, rfl⟩⟩
  · obtain ⟨rfl, rfl, rfl⟩ := RelationshipKey.mk.inj h
    exact ⟨rfl, Or.inl ⟨rfl, rfl⟩⟩

end RelationshipKey

namespace Synthetic

inductive LinkName where
  | connected (n : Nat)
  | reachable (n : Nat)
  | storage (n a : Nat)
  | peer (n a : Nat)

namespace LinkName

def cls : LinkName → RelationshipClass
  | connected _ => .connectedTo
  | reachable _ => .reachableThrough
  | storage _ _ => .storageLocal
  | peer _ _ => .acceleratorPeer

def source : LinkName → MemberName
  | connected n | reachable n | storage n _ => .node n
  | peer n a => .accelerator n a

def target (switchCount : Nat) : LinkName → MemberName
  | connected n | reachable n => .switch (n % switchCount)
  | storage n a => .accelerator n a
  | peer n a => .accelerator n (a + 1)

def key (switchCount : Nat) (name : LinkName) : RelationshipKey :=
  .canonicalize name.cls name.source.key (name.target switchCount).key

def node : LinkName → Nat
  | connected n | reachable n | storage n _ | peer n _ => n

theorem key_injective {switchCount : Nat} {left right : LinkName}
    (h : left.key switchCount = right.key switchCount) : left = right := by
  obtain ⟨hcls, hends⟩ := RelationshipKey.canonicalize_injective h
  have hends : (left.source = right.source ∧ left.target switchCount = right.target switchCount) ∨
      (left.source = right.target switchCount ∧ left.target switchCount = right.source) :=
    hends.imp
      (fun hsame => ⟨MemberName.key_injective hsame.1, MemberName.key_injective hsame.2⟩)
      (fun hcrossed => ⟨MemberName.key_injective hcrossed.1, MemberName.key_injective hcrossed.2⟩)
  cases left with
  | connected n =>
    cases right with
    | connected m => simp_all [source, target]
    | _ => cases hcls
  | reachable n =>
    cases right with
    | reachable m => simp_all [source, target]
    | _ => cases hcls
  | storage n a =>
    cases right with
    | storage m b => simp_all [source, target]
    | _ => cases hcls
  | peer n a =>
    cases right with
    | peer m b =>
      -- Crossed, each accelerator would be the one after the other.
      simp only [source, target, MemberName.accelerator.injEq] at hends
      obtain ⟨rfl, rfl⟩ : n = m ∧ a = b := by omega
      rfl
    | _ => cases hcls

end LinkName

section Links
variable (config : SyntheticRackConfig) (nodes : List NodeChoices) (links : List Bool)

def linkNames : List LinkName :=
  links.zipIdx.flatMap (fun (linked, n) => if linked then [.connected n, .reachable n] else []) ++
  nodes.zipIdx.flatMap (fun (choices, n) =>
    (List.range choices.addressed.length).map (.storage n)) ++
  if config.syntheticAcceleratorPeerLinks then
    nodes.zipIdx.flatMap fun (choices, n) =>
      (List.range (choices.addressed.length - 1)).map (.peer n)
  else []

variable {config nodes links}

theorem keys_relationships : (relationships config nodes links).map RelationshipRecord.key =
    (linkNames config nodes links).map (LinkName.key config.switchCount) := by
  unfold relationships linkNames nodeLinks storageLinks peerLinks
  simp only [List.map_append, List.map_flatMap, apply_ite (List.map RelationshipRecord.key),
    apply_ite (List.map (LinkName.key config.switchCount)), List.map_map, List.map_cons,
    List.map_nil]
  rfl

theorem nodup_linkNames : (linkNames config nodes links).Nodup := by
  have hlinked : (links.zipIdx.flatMap fun (linked, n) =>
      if linked then [LinkName.connected n, .reachable n] else []).Nodup := by
    refine @nodup_flatMap_zipIdx _ _ links _ (fun entry => ?_) LinkName.node
      (fun entry name hname => ?_)
    · dsimp only
      split <;> simp
    · simp only [List.mem_ite_nil_right, List.mem_cons, List.not_mem_nil, or_false] at hname
      rcases hname with ⟨-, rfl | rfl⟩ <;> rfl
  have hnumbered {name : Nat → Nat → LinkName} (hname : ∀ n, Function.Injective (name n))
      (hnode : ∀ n a, (name n a).node = n) (count : NodeChoices → Nat) :
      (nodes.zipIdx.flatMap fun (choices, n) =>
        (List.range (count choices)).map (name n)).Nodup := by
    refine @nodup_flatMap_zipIdx _ _ nodes _ (fun entry => List.nodup_range.map (hname entry.2))
      LinkName.node (fun entry link hlink => ?_)
    obtain ⟨a, -, rfl⟩ := List.mem_map.mp hlink
    exact hnode entry.2 a
  have hstorage := @hnumbered LinkName.storage (fun _ _ _ h => (LinkName.storage.inj h).2)
    (fun _ _ => rfl) (·.addressed.length)
  have hpeer := @hnumbered LinkName.peer (fun _ _ _ h => (LinkName.peer.inj h).2)
    (fun _ _ => rfl) (·.addressed.length - 1)
  have hpeers : (if config.syntheticAcceleratorPeerLinks then
      nodes.zipIdx.flatMap fun (choices, n) =>
        (List.range (choices.addressed.length - 1)).map (LinkName.peer n) else []).Nodup := by
    split
    · exact hpeer
    · exact List.nodup_nil
  simp only [linkNames, List.nodup_append, hlinked, hstorage, hpeers, true_and]
  constructor
  · rintro name hname other hother rfl
    simp only [List.mem_flatMap, List.mem_ite_nil_right, List.mem_map, List.mem_cons,
      List.not_mem_nil, or_false] at hname hother
    grind
  · rintro name hname other hother rfl
    simp only [List.mem_append, List.mem_flatMap, List.mem_ite_nil_right, List.mem_map,
      List.mem_cons, List.not_mem_nil, or_false] at hname hother
    grind

theorem nodup_relationships :
    ((relationships config nodes links).map RelationshipRecord.key).Nodup := by
  rw [keys_relationships]
  exact nodup_linkNames.map fun _ _ => LinkName.key_injective

/-- What holds of the links of every kind holds of every relationship. -/
theorem relationships_cases {holds : RelationshipRecord → Prop}
    (connected : ∀ n, links[n]? = some true → holds (relationship .connectedTo (nodeKey n)
      (switchKey (n % config.switchCount)) "synthetic:topology"))
    (reachable : ∀ n, links[n]? = some true → holds (relationship .reachableThrough (nodeKey n)
      (switchKey (n % config.switchCount)) "synthetic:topology"))
    (storage : ∀ n choices a, nodes[n]? = some choices → a < choices.addressed.length →
      holds (relationship .storageLocal (nodeKey n) (acceleratorKey n a) "synthetic:topology"))
    (peer : ∀ n choices a, nodes[n]? = some choices → a + 1 < choices.addressed.length →
      holds (relationship .acceleratorPeer (acceleratorKey n a) (acceleratorKey n (a + 1))
        "synthetic:peer-link")) :
    ∀ record ∈ relationships config nodes links, holds record := by
  intro record hmem
  simp only [relationships, nodeLinks, storageLinks, peerLinks, List.mem_append,
    List.mem_flatMap, List.mem_ite_nil_right, List.mem_map, List.mem_range, List.mem_cons,
    List.not_mem_nil, or_false] at hmem
  rcases hmem with (⟨⟨linked, n⟩, hentry, hlinked, hone⟩ | ⟨⟨choices, n⟩, hentry, a, ha, rfl⟩) |
    ⟨-, ⟨choices, n⟩, hentry, a, ha, rfl⟩
  · have hlink := List.mk_mem_zipIdx_iff_getElem?.mp hentry
    obtain rfl : linked = true := hlinked
    rcases hone with rfl | rfl
    · exact connected n hlink
    · exact reachable n hlink
  · exact storage n choices a (List.mk_mem_zipIdx_iff_getElem?.mp hentry) ha
  · exact peer n choices a (List.mk_mem_zipIdx_iff_getElem?.mp hentry) (by simp only at ha; omega)

end Links

end Synthetic

end RackFabric
