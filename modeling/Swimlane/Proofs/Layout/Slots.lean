import Swimlane.Proofs.Flowchart.Forest
import Swimlane.Proofs.Flowchart.Visits
import Swimlane.Proofs.Layout.Drawing

/-!
# Nodes stand in the nearest lane and section

A node may be placed on the visit of the groups, by way of the lists of children, or by the
group that it names.  In a graph that was read from text both come to the same slot
(`placements_perm`), and that is made of the nearest lane and the nearest section around the
node, whatever else lies between them.
-/

namespace Swimlane

/-! ## The nearest group with a role -/

/-- From `start` outwards, the nearest group with the role is the given one; for none there is
no group with the role at all. -/
def Graph.IsNearest (g : Graph) (c : Classification) (role : Role) (start : Option Text) :
    Option Text → Prop
  | some id => g.LiesIn start id ∧ c.role? id = some role ∧
      ∀ other, g.LiesIn start other → c.role? other = some role → g.LiesIn (some id) other
  | none => ∀ id, g.LiesIn start id → c.role? id ≠ some role

namespace Graph

variable {g : Graph} {c : Classification} {role : Role}

/-- The search along the chain of groups finds the nearest one. -/
theorem IsConsistent.isNearest_nearest? (h : g.IsConsistent) (c : Classification) (role : Role)
    (start : Option Text) : g.IsNearest c role start (c.nearest? role (g.enclosing start)) := by
  induction start using h.enclosing_induction with
  | unknown start hnone =>
    rw [enclosing, chain_eq_nil hnone]
    intro id hlies
    obtain ⟨x, hx, heq⟩ := hlies.start_known
    exact absurd heq (hnone x hx)
  | group x hx ih =>
    rw [h.enclosing_group hx]
    by_cases hrole : c.role? x.id = some role
    · -- the search ends at the group itself
      have hfound : c.nearest? role (x.id :: g.enclosing x.parentId) = some x.id :=
        List.find?_cons_of_pos (decide_eq_true hrole)
      rw [hfound]
      exact ⟨.self hx, hrole, fun other hlies _ => hlies⟩
    · have hpassed : c.nearest? role (x.id :: g.enclosing x.parentId) =
          c.nearest? role (g.enclosing x.parentId) :=
        List.find?_cons_of_neg (by simpa using hrole)
      have houter {other : Text} (hlies : g.LiesIn (some x.id) other)
          (hother : c.role? other = some role) : g.LiesIn x.parentId other := by
        rcases (h.liesIn_group_iff hx).1 hlies with rfl | hlies
        · exact absurd hother hrole
        · exact hlies
      rw [hpassed]
      cases hnearest : c.nearest? role (g.enclosing x.parentId) with
      | none =>
        rw [hnearest] at ih
        exact fun id hlies hid => ih id (houter hlies hid) hid
      | some id =>
        rw [hnearest] at ih
        obtain ⟨hlies, hid, hfirst⟩ := ih
        exact ⟨.parent hx hlies, hid,
          fun other hother hrole' => hfirst other (houter hother hrole') hrole'⟩

/-- There is only one nearest group. -/
theorem IsConsistent.isNearest_iff (h : g.IsConsistent) {start nearest : Option Text} :
    g.IsNearest c role start nearest ↔ c.nearest? role (g.enclosing start) = nearest := by
  constructor
  · intro hnearest
    have hfound := h.isNearest_nearest? c role start
    cases hsearch : c.nearest? role (g.enclosing start) with
    | none =>
      rw [hsearch] at hfound
      cases nearest with
      | none => rfl
      | some id => exact absurd hnearest.2.1 (hfound id hnearest.1)
    | some id =>
      rw [hsearch] at hfound
      cases nearest with
      | none => exact absurd hfound.2.1 (hnearest id hfound.1)
      | some other =>
        have hinner := hfound.2.2 other hnearest.1 hnearest.2.1
        have houter := hnearest.2.2 id hfound.1 hfound.2.1
        rw [h.liesIn_antisymm hinner houter]
  · rintro rfl
    exact h.isNearest_nearest? c role start

/-! ## Placements -/

variable {visits : List Visit}

/-- Where what is listed names its list, every node is placed by the group that it names. -/
theorem ListsTruly.exists_own_of_mem_placements (hg : g.ListsTruly) (h : g.visits? = some visits)
    {p : Placement} (hp : p ∈ placements g c visits) : ∃ n ∈ g.nodes, ownPlacement g c n = p := by
  rcases List.mem_append.1 ((areFirst_firstPlacements _).subset hp) with hp | hp
  · obtain ⟨around, hmeet, -, hslot⟩ := mem_visitPlacements_iff.1 hp
    obtain ⟨n, hn, hid, haround⟩ := hg.agreesWith_of_visits h _ hmeet
    exact ⟨n, hn, by rw [ownPlacement, hid, haround, ← hslot]⟩
  · exact List.mem_map.1 hp

/-- Where what is listed names its list, it makes no difference to a node's slot whether it is
met on the visit. -/
theorem ListsTruly.placements_perm (hg : g.ListsTruly) (hids : (g.nodes.map (·.id)).Nodup)
    (c : Classification) (h : g.visits? = some visits) :
    (placements g c visits).Perm (g.nodes.map (ownPlacement g c)) := by
  have hown : (g.nodes.map (ownPlacement g c)).Nodup := by
    refine List.Nodup.of_map Placement.nodeId ?_
    rw [List.map_map]
    exact hids
  have hplaced : (placements g c visits).Nodup :=
    List.Nodup.of_map _ (areFirst_firstPlacements _).nodup
  refine (List.perm_ext_iff_of_nodup hplaced hown).2 fun p => ?_
  constructor
  · intro hp
    exact List.mem_map.2 (hg.exists_own_of_mem_placements h hp)
  · intro hp
    obtain ⟨n, hn, rfl⟩ := List.mem_map.1 hp
    have hid : n.id ∈ (placements g c visits).map (·.nodeId) :=
      (map_nodeId_placements_perm hids).symm.subset (List.mem_map.2 ⟨n, hn, rfl⟩)
    obtain ⟨p, hp, hpid⟩ := List.mem_map.1 hid
    obtain ⟨m, hm, rfl⟩ := hg.exists_own_of_mem_placements h hp
    rwa [List.inj_on_of_nodup_map hids hn hm hpid.symm]

end Graph

/-! ## Members -/

variable {α : Type} [Length α] {g : Graph} {c : Classification} {s : LayoutSettings α}

/-- A member of a grid stands in the slot of its node's placement. -/
theorem placement_of_mem_members {ps : List Placement} {sizes : List (Text × Size α)}
    {m : Figure α} (hm : m ∈ (makeGrid g c s ps).members g sizes) :
    ⟨m.id, m.laneId, m.sectionId⟩ ∈ ps := by
  obtain ⟨cell, hcell, hm⟩ := List.mem_flatMap.1 hm
  unfold Grid.cellMembers at hm
  split at hm
  · obtain ⟨spot, hspot, hmember⟩ := List.mem_filterMap.1 hm
    obtain ⟨n, hn, rfl⟩ := Option.map_eq_some_iff.1 hmember
    rw [layout_of_mem_cells hcell] at hspot
    have hid := (slotMembers_perm g g.flow ps cell.slot).subset
      ((map_id_layCell_perm _ _ _ _ _).subset (List.mem_map.2 ⟨spot, hspot, rfl⟩))
    obtain ⟨p, hp, hpid⟩ := List.mem_map.1 hid
    obtain ⟨hplaced, hslot⟩ := List.mem_filter.1 hp
    show ⟨n.id, cell.slot⟩ ∈ ps
    rw [(Graph.mem_of_node? hn).2, ← hpid, ← of_decide_eq_true hslot]
    exact hplaced
  · exact absurd hm List.not_mem_nil

/-- In the drawing of a consistent graph a member stands in the nearest lane and the nearest
section around its node. -/
theorem isNearest_of_mem_membersOf (hg : g.IsConsistent) {visits : List Visit}
    (h : g.visits? = some visits) {m : Figure α}
    (hm : m ∈ membersOf (Drawing.ofVisits g c s visits).figures) :
    ∃ n ∈ g.nodes, n.id = m.id ∧ g.IsNearest c .laneBand n.groupId m.laneId ∧
      g.IsNearest c .sectionBand n.groupId m.sectionId := by
  rw [membersOf_ofVisits] at hm
  obtain ⟨n, hn, hown⟩ :=
    hg.listsTruly.exists_own_of_mem_placements h (placement_of_mem_members hm)
  obtain ⟨hid, hslot⟩ := Placement.mk.inj hown
  obtain ⟨hlane, hsection⟩ := Slot.mk.inj hslot
  refine ⟨n, hn, hid, ?_, ?_⟩
  · rw [← hlane]
    exact hg.isNearest_nearest? c .laneBand n.groupId
  · rw [← hsection]
    exact hg.isNearest_nearest? c .sectionBand n.groupId

/-- The groups of every text that can be read can be drawn, every node has one member, and that
stands in the nearest lane and the nearest section around the node. -/
theorem standsInNearest_of_ofText {text : Text} {f : Flowchart}
    (h : Flowchart.ofText text = .ok f) (c : Classification) (s : LayoutSettings α) :
    ∃ d, Drawing.ofGraph? f.graph c s = some d ∧
      ((membersOf d.figures).map (·.id)).Perm (f.graph.nodes.map (·.id)) ∧
      ∀ m ∈ membersOf d.figures, ∃ n ∈ f.graph.nodes, n.id = m.id ∧
        f.graph.IsNearest c .laneBand n.groupId m.laneId ∧
        f.graph.IsNearest c .sectionBand n.groupId m.sectionId := by
  have hg := isConsistent_of_ofText h
  obtain ⟨visits, hvisits⟩ := hg.exists_visits
  refine ⟨Drawing.ofVisits f.graph c s visits, Drawing.ofGraph?_of_visits hvisits c s,
    map_id_membersOf_ofVisits hg.node_ids c s visits, fun m hm => ?_⟩
  exact isNearest_of_mem_membersOf hg hvisits hm

/-- A node in a lane, in a boundary, in a section, in a group without a role, in a lane. -/
def lanesAcrossGroups : Text :=
  "graph LR\nsubgraph lane_1a\nsubgraph x\nsubgraph stage1\nsubgraph vpc\n".toList ++
    "subgraph lane_1b\na\nend\nend\nend\nend\nend".toList

theorem standsInNearest_of_lanesAcrossGroups : ∃ (f : Flowchart) (d : Drawing Rat),
    Flowchart.ofText lanesAcrossGroups = .ok f ∧
      Drawing.ofGraph? f.graph (Classification.ofGraph f.graph) .default = some d ∧
      ∃ m ∈ membersOf d.figures, m.id = ['a'] ∧ m.laneId = some "lane_1b".toList ∧
        m.sectionId = some "stage1".toList := by
  have hread : ((Flowchart.ofText lanesAcrossGroups).map fun f => decide (
      ['a'] ∈ f.graph.nodes.map (·.id) ∧ ∀ n ∈ f.graph.nodes,
        (Classification.ofGraph f.graph).slot (f.graph.enclosing n.groupId) =
          ⟨some "lane_1b".toList, some "stage1".toList⟩)).toOption = some true := by
    decide +kernel
  obtain ⟨f, hf, hfacts⟩ := exists_of_toOption_map hread
  obtain ⟨ha, hslots⟩ := of_decide_eq_true hfacts
  have hg := isConsistent_of_ofText hf
  obtain ⟨d, hd, hids, hmembers⟩ :=
    standsInNearest_of_ofText hf (Classification.ofGraph f.graph) (.default : LayoutSettings Rat)
  obtain ⟨m, hm, hid⟩ := List.mem_map.1 (hids.symm.subset ha)
  obtain ⟨n, hn, -, hlane, hsection⟩ := hmembers m hm
  obtain ⟨hlane', hsection'⟩ := Slot.mk.inj (hslots n hn)
  refine ⟨f, d, hf, hd, m, hm, hid, ?_, ?_⟩
  · rw [← hg.isNearest_iff.1 hlane, hlane']
  · rw [← hg.isNearest_iff.1 hsection, hsection']

end Swimlane
