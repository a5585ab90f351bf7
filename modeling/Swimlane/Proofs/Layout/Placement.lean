import Mathlib.Data.List.Dedup
import Mathlib.Data.List.Nodup
import Mathlib.Data.List.Perm.Subperm
import Swimlane.Layout.Placement
import Swimlane.Proofs.Flowchart.Graph
import Swimlane.Proofs.Layout.Rank
import Swimlane.Proofs.Passes

/-!
# Every node is placed once

A node may be met on the visit of the groups, several times even, and it is looked up once
more by the group that it names; only the first placement counts.  So each node has one
placement (`map_nodeId_placements_perm`), nodes of one name together have one
(`map_nodeId_placements_dedup`), and its slot is made of a lane and a section of the
classification.
-/

namespace Swimlane

/-! ## First placements -/

/-- The first placements of the nodes of some placements. -/
structure AreFirst (done seen : List Placement) : Prop where
  nodup : (done.map (·.nodeId)).Nodup
  ids : ∀ id, id ∈ done.map (·.nodeId) ↔ id ∈ seen.map (·.nodeId)
  subset : done ⊆ seen

/-- A node has its first placement. -/
theorem areFirst_firstPlacements (ps : List Placement) : AreFirst (firstPlacements ps) ps := by
  refine foldl_of_seen ⟨List.nodup_nil, fun _ => Iff.rfl, List.nil_subset _⟩ ?_ ps
  intro done seen p h
  have hany : done.any (·.nodeId = p.nodeId) = true ↔ p.nodeId ∈ done.map (·.nodeId) := by
    rw [List.any_eq_true, List.mem_map]
    exact exists_congr fun q => and_congr_right fun _ => decide_eq_true_iff
  have hseen (id : Text) : id ∈ (seen ++ [p]).map (·.nodeId) ↔
      id ∈ done.map (·.nodeId) ∨ id = p.nodeId := by
    rw [List.map_append, List.map_singleton, List.mem_append, List.mem_singleton, h.ids id]
  split
  · next hold =>
    refine ⟨h.nodup, fun id => ?_, List.Subset.trans h.subset (List.subset_append_left _ _)⟩
    rw [hseen]
    exact (or_iff_left_of_imp fun heq => heq ▸ hany.1 hold).symm
  · next hnew =>
    refine ⟨nodup_map_append_singleton h.nodup fun hmem => hnew (hany.2 hmem), fun id => ?_, ?_⟩
    · rw [hseen, List.map_append, List.map_singleton, List.mem_append, List.mem_singleton]
    · exact List.append_subset.2 ⟨List.Subset.trans h.subset (List.subset_append_left _ _),
        List.subset_append_right _ _⟩

/-! ## Placements -/

variable {g : Graph} {c : Classification} {visits : List Visit}

/-- A node that exists is placed where a visit meets it. -/
theorem mem_visitPlacements_iff {p : Placement} : p ∈ visitPlacements g c visits ↔
    ∃ around, .meet p.nodeId around ∈ visits ∧ g.hasNode p.nodeId = true ∧
      p.slot = c.slot around := by
  rw [visitPlacements, List.mem_filterMap]
  constructor
  · rintro ⟨v, hv, hp⟩
    cases v with
    | enter x around => cases hp
    | meet id around =>
      obtain ⟨hnode, heq⟩ := Option.ite_none_right_eq_some.1 hp
      cases heq
      exact ⟨around, hv, hnode, rfl⟩
  · rintro ⟨around, hmeet, hnode, hslot⟩
    refine ⟨_, hmeet, ?_⟩
    show (if g.hasNode p.nodeId then some (⟨p.nodeId, c.slot around⟩ : Placement) else none) = _
    rw [if_pos hnode, ← hslot]

/-- Each identifier of a node is placed once. -/
theorem map_nodeId_placements_dedup (g : Graph) (c : Classification) (visits : List Visit) :
    ((placements g c visits).map (·.nodeId)).Perm (g.nodes.map (·.id)).dedup := by
  have hnodup := List.nodup_dedup (g.nodes.map (·.id))
  refine (List.perm_ext_iff_of_nodup (areFirst_firstPlacements _).nodup hnodup).2 fun id => ?_
  have hown : (g.nodes.map (ownPlacement g c)).map (·.nodeId) = g.nodes.map (·.id) := by
    simp [ownPlacement, Function.comp_def]
  rw [(areFirst_firstPlacements _).ids, List.map_append, hown, List.mem_append, List.mem_dedup]
  refine or_iff_right_of_imp fun hid => ?_
  obtain ⟨p, hp, rfl⟩ := List.mem_map.1 hid
  obtain ⟨around, -, hnode, -⟩ := mem_visitPlacements_iff.1 hp
  exact Graph.hasNode_iff.1 hnode

/-- Each node is placed once. -/
theorem map_nodeId_placements_perm (hids : (g.nodes.map (·.id)).Nodup) :
    ((placements g c visits).map (·.nodeId)).Perm (g.nodes.map (·.id)) := by
  have hplaced := map_nodeId_placements_dedup g c visits
  rwa [hids.dedup] at hplaced

/-! ## Slots -/

/-- The identifiers of a classification do not repeat. -/
theorem nodup_ids_entries (c : Classification) : (c.entries.map (·.1)).Nodup := by
  rw [List.Nodup, List.pairwise_map]
  refine c.ascending.imp fun {a b} (h : a.1 < b.1) heq => ?_
  rw [heq] at h
  exact List.lt_irrefl _ h

/-- A group has a role if it is among those with the role. -/
theorem role?_eq_some_iff {role : Role} {id : Text} :
    c.role? id = some role ↔ id ∈ (c.withRole role).map (·.1) := by
  simp only [Classification.withRole, List.mem_map, List.mem_mergeSort, List.mem_filter]
  rw [Classification.role?, Option.map_eq_some_iff]
  constructor
  · rintro ⟨info, hget, hinfo⟩
    exact ⟨(id, info), ⟨mem_of_lookup hget, decide_eq_true hinfo⟩, rfl⟩
  · rintro ⟨entry, ⟨hentry, hrole⟩, rfl⟩
    have hsome : (c.entries.lookup entry.1).isSome = true :=
      List.lookup_isSome_iff.2 ⟨entry, hentry, beq_self_eq_true entry.1⟩
    obtain ⟨info, hget⟩ := Option.isSome_iff_exists.1 hsome
    have hsame : (entry.1, info) = entry :=
      List.inj_on_of_nodup_map (nodup_ids_entries c) (mem_of_lookup hget) hentry rfl
    rw [← hsame] at hrole
    exact ⟨info, hget, of_decide_eq_true hrole⟩

/-- The nearest group with a role is among those with the role. -/
theorem mem_withRole_of_nearest? {role : Role} {around : List Text} {id : Text}
    (h : c.nearest? role around = some id) : id ∈ (c.withRole role).map (·.1) := by
  rw [Classification.nearest?] at h
  exact role?_eq_some_iff.1 (by simpa using List.find?_some h)

/-- No group is listed twice among those with a role. -/
theorem withRole_nodup (c : Classification) (role : Role) :
    ((c.withRole role).map (·.1)).Nodup := by
  have hfilter : ((c.entries.filter (·.2.role = role)).map (·.1)).Nodup :=
    (nodup_ids_entries c).sublist (List.Sublist.map _ List.filter_sublist)
  exact ((List.mergeSort_perm _ _).map Prod.fst).nodup_iff.2 hfilter

/-- A placement has the slot of some groups around its node. -/
theorem slot_of_mem_placements {p : Placement} (hp : p ∈ placements g c visits) :
    ∃ around, p.slot = c.slot around := by
  rcases List.mem_append.1 ((areFirst_firstPlacements _).subset hp) with hp | hp
  · obtain ⟨around, -, -, hslot⟩ := mem_visitPlacements_iff.1 hp
    exact ⟨around, hslot⟩
  · obtain ⟨n, -, rfl⟩ := List.mem_map.1 hp
    exact ⟨_, rfl⟩

end Swimlane
