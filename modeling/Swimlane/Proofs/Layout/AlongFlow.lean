import Swimlane.Proofs.Layout.Apart
import Swimlane.Proofs.Layout.LongestPath
import Swimlane.Proofs.Layout.Slots

/-!
# Members follow the flow

What the ranks say about the members of a cell shows in the drawing.  Where the edges within a
cell do not run in a circle, each of them leads to a higher rank, and so to a member that stands
after its source in the direction of the flow (`beforeAlong_of_ofText`).  Where there are no
edges within a cell all members have one rank, and no sweep moves them; outside of the sections
they were sorted along the flow of the whole graph, so that they stand in this order across the
flow, by whatever way a path between them runs (`beforeAcross_of_ofText`).
-/

namespace Swimlane

/-! ## The members of a slot -/

/-- A member of the drawing with this identifier stands in the slot. -/
def Drawing.HasMember (d : Drawing Rat) (slot : Slot) (id : Text) : Prop :=
  ∃ m ∈ membersOf d.figures, m.slot = slot ∧ m.id = id

section Slots

variable {g : Graph} {c : Classification} {s : LayoutSettings Rat} {visits : List Visit}

/-- What stands in a slot is what is placed there. -/
theorem hasMember_eq (slot : Slot) : (Drawing.ofVisits g c s visits).HasMember slot =
    (· ∈ slotMembers g g.flow (placements g c visits) slot) := by
  funext id
  refine propext ?_
  rw [(slotMembers_perm _ _ _ _).mem_iff, Drawing.HasMember, membersOf_ofVisits]
  constructor
  · rintro ⟨m, hm, rfl, rfl⟩
    refine List.mem_map.2 ⟨_, List.mem_filter.2 ⟨placement_of_mem_members hm, ?_⟩, rfl⟩
    exact decide_eq_true rfl
  · intro hid
    obtain ⟨p, hp, rfl⟩ := List.mem_map.1 hid
    obtain ⟨hp, hslot⟩ := List.mem_filter.1 hp
    have hmember : p.nodeId ∈
        ((makeGrid g c s (placements g c visits)).members g (nodeSizes g s)).map (·.id) := by
      refine (map_id_members_perm g c s visits (nodeSizes g s)).symm.subset ?_
      exact (map_nodeId_placements_dedup g c visits).subset (List.mem_map.2 ⟨p, hp, rfl⟩)
    obtain ⟨m, hm, hid⟩ := List.mem_map.1 hmember
    have hsame := List.inj_on_of_nodup_map (areFirst_firstPlacements _).nodup
      (placement_of_mem_members hm) hp hid
    refine ⟨m, hm, ?_, hid⟩
    rw [← of_decide_eq_true hslot, ← hsame]
    rfl

/-- In the drawing of a consistent graph, what stands in a slot are the nodes whose groups have
this slot. -/
theorem hasMember_iff (hg : g.IsConsistent) (h : g.visits? = some visits) {slot : Slot}
    {id : Text} : (Drawing.ofVisits g c s visits).HasMember slot id ↔
      (id, slot) ∈ g.nodes.map fun n => (n.id, c.slot (g.enclosing n.groupId)) := by
  simp only [hasMember_eq]
  rw [(slotMembers_perm _ _ _ _).mem_iff, List.mem_map, List.mem_map]
  have hplaced (p : Placement) := (hg.listsTruly.placements_perm hg.node_ids c h).mem_iff (a := p)
  constructor
  · rintro ⟨p, hp, rfl⟩
    obtain ⟨hp, hslot⟩ := List.mem_filter.1 hp
    obtain ⟨n, hn, rfl⟩ := List.mem_map.1 ((hplaced p).1 hp)
    exact ⟨n, hn, Prod.ext rfl (of_decide_eq_true hslot)⟩
  · rintro ⟨n, hn, heq⟩
    obtain ⟨rfl, rfl⟩ := Prod.mk.inj heq
    refine ⟨ownPlacement g c n, List.mem_filter.2 ⟨?_, decide_eq_true rfl⟩, rfl⟩
    exact (hplaced _).2 (List.mem_map.2 ⟨n, hn, rfl⟩)

/-- Members that stand in one slot are in one cell. -/
theorem exists_cell_of_slot_eq (hs : s.IsSensible) {ps : List Placement} {a b : Figure Rat}
    (ha : a ∈ (makeGrid g c s ps).members g (nodeSizes g s))
    (hb : b ∈ (makeGrid g c s ps).members g (nodeSizes g s)) (hslot : a.slot = b.slot) :
    ∃ cell ∈ (makeGrid g c s ps).cells, cell.slot = b.slot ∧
      a ∈ (makeGrid g c s ps).cellMembers g (nodeSizes g s) cell ∧
      b ∈ (makeGrid g c s ps).cellMembers g (nodeSizes g s) cell := by
  obtain ⟨cell, hcell, ha⟩ := List.mem_flatMap.1 ha
  obtain ⟨cell', hcell', hb⟩ := List.mem_flatMap.1 hb
  have hcellSlot := (exists_tracks_of_mem_cellMembers hs hcell ha).1
  have hcellSlot' := (exists_tracks_of_mem_cellMembers hs hcell' hb).1
  have hsame : cell = cell' := by
    have : Std.Symm fun a b : GridCell Rat => a.slot ≠ b.slot := ⟨fun _ _ h => h.symm⟩
    by_contra hne
    refine cells_pairwise.forall hcell hcell' hne ?_
    rw [← hcellSlot, ← hcellSlot', hslot]
  exact ⟨cell, hcell, hsame ▸ hcellSlot'.symm, ha, hsame ▸ hb⟩

end Slots

/-- Of two elements of a list one stands before the other. -/
theorem related_of_pairwise {β : Type} {R : β → β → Prop} {l : List β} (h : l.Pairwise R) {a b : β}
    (ha : a ∈ l) (hb : b ∈ l) (hne : a ≠ b) : R a b ∨ R b a := by
  have : Std.Symm fun x y => R x y ∨ R y x := ⟨fun _ _ h => h.symm⟩
  exact (h.imp (S := fun x y => R x y ∨ R y x) Or.inl).forall ha hb hne

/-! ## Edges within a cell -/

/-- Only the edges between the identifiers lead from one of them to another. -/
theorem leads_filter_isWithin {edges : List Edge} {ids : List Text} :
    Leads (edges.filter (·.isWithin ids)) (· ∈ ids) = Leads edges (· ∈ ids) := by
  funext a b
  refine propext (and_congr_right fun ha => and_congr_right fun hb => ?_)
  constructor
  · rintro ⟨e, he, hends⟩
    exact ⟨e, (List.mem_filter.1 he).1, hends⟩
  · rintro ⟨e, he, rfl, rfl⟩
    refine ⟨e, List.mem_filter.2 ⟨he, ?_⟩, rfl, rfl⟩
    rw [Edge.isWithin, Bool.and_eq_true, List.contains_iff_mem, List.contains_iff_mem]
    exact ⟨ha, hb⟩

theorem rankAmong_of_mem {ranks : List (Text × Nat)} (hnodup : (ranks.map (·.1)).Nodup) {id : Text}
    {r : Nat} (h : (id, r) ∈ ranks) : rankAmong ranks id = r := by
  rw [rankAmong, lookup_of_mem hnodup h]
  rfl

/-- Where the edges within a cell do not run in a circle, each leads to a higher rank. -/
theorem rankIn_lt {edges : List Edge} {members : List Text}
    (hno : ∀ id, ¬Relation.TransGen (Leads edges (· ∈ members)) id id) {a b : Text}
    (hab : Leads edges (· ∈ members) a b) :
    rankIn edges members a < rankIn edges members b := by
  rw [← leads_filter_isWithin] at hno hab
  obtain ⟨r, hr⟩ := (mem_flowRanks (fun id => members.idxOf id) members
    (edges.filter (·.isWithin members)) a).2 hab.1
  obtain ⟨r', hr'⟩ := (mem_flowRanks (fun id => members.idxOf id) members
    (edges.filter (·.isWithin members)) b).2 hab.2.1
  rw [rankIn, rankAmong_of_mem (nodup_flowRanks ..) hr, rankIn,
    rankAmong_of_mem (nodup_flowRanks ..) hr']
  exact flowRanks_lt hno hab hr hr'

section Along

variable {g : Graph} {c : Classification} {s : LayoutSettings Rat} {ps : List Placement}

/-- A member of a higher rank stands after one of a lower rank of its cell. -/
theorem beforeAlong_of_rankOf_lt (hs : s.IsSensible) {a b : Figure Rat}
    (ha : a ∈ (makeGrid g c s ps).members g (nodeSizes g s))
    (hb : b ∈ (makeGrid g c s ps).members g (nodeSizes g s)) (hslot : a.slot = b.slot)
    (hlt : g.rankOf ps a.slot a.id < g.rankOf ps b.slot b.id) :
    g.direction.BeforeAlong s.rankSpacing a.box b.box := by
  obtain ⟨cell, hcell, -, ha, hb⟩ := exists_cell_of_slot_eq hs ha hb hslot
  have hne : a ≠ b := fun heq => lt_irrefl _ (heq ▸ hlt)
  rcases related_of_pairwise (pairwise_cellMembers hs hcell) ha hb hne with
    (⟨heq, -⟩ | ⟨-, hbefore⟩) | (⟨heq, -⟩ | ⟨hgt, -⟩)
  · exact absurd heq hlt.ne
  · exact hbefore
  · exact absurd heq.symm hlt.ne
  · exact absurd hgt hlt.asymm

end Along

/-- Every text that can be read can be drawn with all settings that the program works with; and
if the edges within a cell do not run in a circle, the target of each of them stands after its
source in the direction of the flow, by at least the space between ranks. -/
theorem beforeAlong_of_ofText {text : Text} {f : Flowchart} (hf : Flowchart.ofText text = .ok f)
    {s : LayoutSettings Rat} (hs : s.IsLoaded) (c : Classification) :
    ∃ d, Drawing.ofGraph? f.graph c s = some d ∧
      ∀ slot, (∀ id, ¬Relation.TransGen (Leads f.graph.edges (d.HasMember slot)) id id) →
        ∀ a ∈ membersOf d.figures, ∀ b ∈ membersOf d.figures, a.slot = slot → b.slot = slot →
          (∃ e ∈ f.graph.edges, e.source = a.id ∧ e.target = b.id) →
          f.graph.direction.BeforeAlong s.rankSpacing a.box b.box := by
  obtain ⟨visits, hvisits⟩ := (isConsistent_of_ofText hf).exists_visits
  refine ⟨Drawing.ofVisits f.graph c s visits, Drawing.ofGraph?_of_visits hvisits c s, ?_⟩
  rintro slot hno a ha b hb haslot hbslot hedge
  have hleads : Leads f.graph.edges ((Drawing.ofVisits f.graph c s visits).HasMember slot)
      a.id b.id := ⟨⟨a, ha, haslot, rfl⟩, ⟨b, hb, hbslot, rfl⟩, hedge⟩
  rw [hasMember_eq] at hno hleads
  rw [membersOf_ofVisits] at ha hb
  refine beforeAlong_of_rankOf_lt hs.isSensible ha hb (haslot.trans hbslot.symm) ?_
  rw [haslot, hbslot]
  exact rankIn_lt hno hleads

/-- Three nodes of a cell, drawn from right to left, and a circle that leaves the cell. -/
def leavingCircle : Text :=
  "graph RL\nsubgraph lane1\nsubgraph stage1\na-->b\nb-->c\na-->c\n".toList ++
    "end\nend\nc-->d\nd-->a".toList

theorem beforeAlong_of_leavingCircle : ∃ (f : Flowchart) (d : Drawing Rat),
    Flowchart.ofText leavingCircle = .ok f ∧
    Drawing.ofGraph? f.graph (Classification.ofGraph f.graph) .default = some d ∧
    ∃ a ∈ membersOf d.figures, ∃ b ∈ membersOf d.figures, a.id = ['b'] ∧ b.id = ['c'] ∧
      b.box.right + (LayoutSettings.default : LayoutSettings Rat).rankSpacing ≤ a.box.x := by
  let slot : Slot := ⟨some "lane1".toList, some "stage1".toList⟩
  have hread : ((Flowchart.ofText leavingCircle).map fun f => decide (
      let placed := f.graph.nodes.map fun n =>
        (n.id, (Classification.ofGraph f.graph).slot (f.graph.enclosing n.groupId))
      f.graph.direction = .rightLeft ∧ (['b'], slot) ∈ placed ∧ (['c'], slot) ∈ placed ∧
        (∃ e ∈ f.graph.edges, e.source = ['b'] ∧ e.target = ['c']) ∧
        ∀ e ∈ f.graph.edges, (e.source, slot) ∈ placed → (e.target, slot) ∈ placed →
          [['a'], ['b'], ['c']].idxOf e.source < [['a'], ['b'], ['c']].idxOf e.target)).toOption =
      some true := by
    decide +kernel
  obtain ⟨f, hf, hfacts⟩ := exists_of_toOption_map hread
  obtain ⟨hdirection, hb, hc, hedge, hplace⟩ := of_decide_eq_true hfacts
  have hg := isConsistent_of_ofText hf
  obtain ⟨visits, hvisits⟩ := hg.exists_visits
  obtain ⟨d, hd, hbefore⟩ :=
    beforeAlong_of_ofText hf .default (Classification.ofGraph f.graph)
  obtain rfl := Option.some.inj ((Drawing.ofGraph?_of_visits hvisits _ _).symm.trans hd)
  obtain ⟨b, hbMem, hbSlot, hbId⟩ := (hasMember_iff hg hvisits).2 hb
  obtain ⟨c, hcMem, hcSlot, hcId⟩ := (hasMember_iff hg hvisits).2 hc
  refine ⟨f, _, hf, hd, b, hbMem, c, hcMem, hbId, hcId, ?_⟩
  have halong : f.graph.direction.BeforeAlong LayoutSettings.default.rankSpacing b.box c.box := by
    refine hbefore slot (fun id hcircle => ?_) b hbMem c hcMem hbSlot hcSlot (by rwa [hbId, hcId])
    refine lt_irrefl _ (lt_of_transGen [['a'], ['b'], ['c']].idxOf ?_ hcircle)
    rintro _ _ ⟨hsource, htarget, e, he, rfl, rfl⟩
    exact hplace e he ((hasMember_iff hg hvisits).1 hsource) ((hasMember_iff hg hvisits).1 htarget)
  rwa [hdirection] at halong

/-! ## Cells without edges -/

/-- Where there are no edges every rank is zero. -/
theorem eq_zero_of_mem_flowRanks {key : Text → Nat} {ids : List Text} {entry : Text × Nat}
    (h : entry ∈ flowRanks key ids []) : entry.2 = 0 := by
  obtain ⟨before, after, hsplit⟩ := List.append_of_mem h
  exact isRanked_flowRanks key ids [] before entry.1 entry.2 after hsplit

theorem rankAmong_flowRanks_nil (key : Text → Nat) (ids : List Text) (id : Text) :
    rankAmong (flowRanks key ids []) id = 0 := by
  rw [rankAmong]
  cases hlookup : (flowRanks key ids []).lookup id with
  | none => rfl
  | some r => exact eq_zero_of_mem_flowRanks (mem_of_lookup hlookup)

/-- Where there are no edges there is one rank. -/
theorem rankRows_flowRanks_nil (key : Text → Nat) (ids : List Text) :
    rankRows (flowRanks key ids []) ids = [ids] := by
  have hmax : ((flowRanks key ids []).map (·.2)).foldl max 0 = 0 := by
    rcases foldl_max_eq_or_mem 0 ((flowRanks key ids []).map (·.2)) with h | h
    · exact h
    · obtain ⟨entry, hentry, heq⟩ := List.mem_map.1 h
      rw [← heq]
      exact eq_zero_of_mem_flowRanks hentry
  have hall : ids.filter (fun id => decide (rankAmong (flowRanks key ids []) id = 0)) = ids :=
    List.filter_eq_self.2 fun id _ => decide_eq_true (rankAmong_flowRanks_nil key ids id)
  rw [rankRows, hmax]
  exact congrArg (· :: []) hall

/-- Sweeps go from rank to rank, and leave the only one alone. -/
theorem untangle_singleton (edges : List Edge) (passes : Nat) (rank : List Text) :
    untangle edges passes [rank] = [rank] := by
  rw [untangle]
  generalize List.range (max 1 passes) = rounds
  induction rounds with
  | nil => rfl
  | cons _ rounds ih => exact ih

section Across

variable {edges : List Edge} {members : List Text}
  (hno : ∀ e ∈ edges, ¬(e.source ∈ members ∧ e.target ∈ members))

include hno

theorem filter_isWithin_eq_nil : edges.filter (·.isWithin members) = [] := by
  refine List.filter_eq_nil_iff.2 fun e he hwithin => hno e he ?_
  rwa [Edge.isWithin, Bool.and_eq_true, List.contains_iff_mem, List.contains_iff_mem] at hwithin

theorem rankIn_eq_zero (id : Text) : rankIn edges members id = 0 := by
  rw [rankIn, filter_isWithin_eq_nil hno]
  exact rankAmong_flowRanks_nil _ _ id

/-- Without edges between them the members of a cell are laid out as they are given. -/
theorem map_id_layCell_of_no_edge (d : Direction) (s : LayoutSettings Rat)
    (sizeOf : Text → Size Rat) : (layCell d s edges sizeOf members).spots.map (·.id) = members := by
  have hranks : cellRanks s.orderPasses edges members = [members] := by
    simp only [cellRanks, filter_isWithin_eq_nil hno, rankRows_flowRanks_nil, untangle_singleton]
  rw [layCell, map_id_layRanks, hranks]
  simp [Function.comp_def]

end Across

section Listed

variable {g : Graph} {c : Classification} {s : LayoutSettings Rat} {ps : List Placement}

/-- Where no edges run in a circle, the flow of a graph runs forward. -/
theorem Graph.runsForward_flow
    (hno : ∀ id, ¬Relation.TransGen (Leads g.edges (· ∈ g.nodes.map (·.id))) id id) :
    RunsForward (g.nodes.map (·.id)) g.edges g.flow := by
  rw [Graph.flow]
  exact (isGreedyOrder_flowOrder _ _ _).runsForward hno

/-- Outside of the sections the members of a slot are sorted along the flow of the graph. -/
theorem slotMembers_pairwise (g : Graph) (ps : List Placement) {slot : Slot}
    (hslot : slot.sectionId = none) : (slotMembers g g.flow ps slot).Pairwise fun a b =>
      g.flow.idxOf a ≤ g.flow.idxOf b := by
  simp only [slotMembers, hslot]
  exact List.pairwise_mergeSort' (Order.Preimage g.flow.idxOf (· ≤ ·)) _

/-- Outside of the sections the members of a cell without edges come as they are listed along
the flow. -/
theorem pairwise_cellMembers_of_no_edge (hs : s.IsSensible) {cell : GridCell Rat}
    (hcell : cell ∈ (makeGrid g c s ps).cells) (hslot : cell.slot.sectionId = none)
    (hno : ∀ e ∈ g.edges, ¬(e.source ∈ slotMembers g g.flow ps cell.slot ∧
      e.target ∈ slotMembers g g.flow ps cell.slot)) :
    ((makeGrid g c s ps).cellMembers g (nodeSizes g s) cell).Pairwise fun a b =>
      g.flow.idxOf a.id ≤ g.flow.idxOf b.id := by
  obtain ⟨_, -, _, -, -, -, x, y, -, -, -, -, heq⟩ := mem_cellMembers hs hcell
  have hspots : cell.layout.spots.Pairwise fun a b => g.flow.idxOf a.id ≤ g.flow.idxOf b.id := by
    have hsorted := slotMembers_pairwise g ps hslot
    rw [← map_id_layCell_of_no_edge hno g.direction s (sizeIn (nodeSizes g s)),
      List.pairwise_map] at hsorted
    rwa [layout_of_mem_cells hcell]
  rw [heq]
  refine hspots.filterMap _ fun a b hab f hf f' hf' => ?_
  rwa [(eq_of_member hf).1, (eq_of_member hf').1]

/-- Outside of the sections the members of a cell without edges stand across the flow as they
are listed along it. -/
theorem beforeAcross_of_idxOf_lt (hs : s.IsSensible) {a b : Figure Rat}
    (ha : a ∈ (makeGrid g c s ps).members g (nodeSizes g s))
    (hb : b ∈ (makeGrid g c s ps).members g (nodeSizes g s)) (hslot : a.slot = b.slot)
    (hsection : b.slot.sectionId = none)
    (hno : ∀ e ∈ g.edges, ¬(e.source ∈ slotMembers g g.flow ps b.slot ∧
      e.target ∈ slotMembers g g.flow ps b.slot))
    (hlt : g.flow.idxOf a.id < g.flow.idxOf b.id) :
    g.direction.BeforeAcross s.nodeSpacing a.box b.box := by
  obtain ⟨cell, hcell, hcellSlot, ha, hb⟩ := exists_cell_of_slot_eq hs ha hb hslot
  have hlisted := pairwise_cellMembers_of_no_edge hs hcell (hcellSlot ▸ hsection)
    (hcellSlot ▸ hno)
  have hne : a ≠ b := fun heq => lt_irrefl _ (heq ▸ hlt)
  have hrank (id : Text) : g.rankOf ps b.slot id = 0 := rankIn_eq_zero hno id
  rcases related_of_pairwise ((pairwise_cellMembers hs hcell).and hlisted) ha hb hne with
    ⟨hab, -⟩ | ⟨-, hle⟩
  · rw [hslot, hrank, hrank] at hab
    exact (hab.resolve_right fun h => lt_irrefl 0 h.1).2
  · exact absurd hlt (Nat.not_lt.2 hle)

end Listed

/-- Every text that can be read can be drawn with all settings that the program works with; and
if no edges between its nodes run in a circle, members of a cell outside of the sections that
has no edges of its own stand across the flow as the paths between them lead, whatever these
pass through. -/
theorem beforeAcross_of_ofText {text : Text} {f : Flowchart}
    (hf : Flowchart.ofText text = .ok f) {s : LayoutSettings Rat} (hs : s.IsLoaded)
    (c : Classification)
    (hno : ∀ id, ¬Relation.TransGen
      (Leads f.graph.edges (· ∈ f.graph.nodes.map (·.id))) id id) :
    ∃ d, Drawing.ofGraph? f.graph c s = some d ∧
      ∀ slot : Slot, slot.sectionId = none →
        (∀ e ∈ f.graph.edges, ¬(d.HasMember slot e.source ∧ d.HasMember slot e.target)) →
        ∀ a ∈ membersOf d.figures, ∀ b ∈ membersOf d.figures, a.slot = slot → b.slot = slot →
          Relation.TransGen (Leads f.graph.edges (· ∈ f.graph.nodes.map (·.id))) a.id b.id →
          f.graph.direction.BeforeAcross 0 a.box b.box := by
  obtain ⟨visits, hvisits⟩ := (isConsistent_of_ofText hf).exists_visits
  refine ⟨Drawing.ofVisits f.graph c s visits, Drawing.ofGraph?_of_visits hvisits c s, ?_⟩
  rintro slot hsection hinner a ha b hb haslot rfl hpath
  rw [hasMember_eq] at hinner
  rw [membersOf_ofVisits] at ha hb
  have hlt := (Graph.runsForward_flow hno).idxOf_lt hpath
  exact (beforeAcross_of_idxOf_lt hs.isSensible ha hb haslot hsection hinner hlt).mono
    hs.isSensible.nodeSpacing

/-- Two nodes outside of all groups, and a path from the second to the first through a lane. -/
def pathThroughLane : Text :=
  "graph LR\na\nb\nsubgraph lane1\nx\nend\nb-->x\nx-->a".toList

theorem beforeAcross_of_pathThroughLane : ∃ (f : Flowchart) (d : Drawing Rat),
    Flowchart.ofText pathThroughLane = .ok f ∧
    Drawing.ofGraph? f.graph (Classification.ofGraph f.graph) .default = some d ∧
    ∃ a ∈ membersOf d.figures, ∃ b ∈ membersOf d.figures, a.id = ['a'] ∧ b.id = ['b'] ∧
      b.box.bottom ≤ a.box.y := by
  let slot : Slot := ⟨none, none⟩
  have hread : ((Flowchart.ofText pathThroughLane).map fun f => decide (
      let placed := f.graph.nodes.map fun n =>
        (n.id, (Classification.ofGraph f.graph).slot (f.graph.enclosing n.groupId))
      f.graph.direction = .leftRight ∧ (['a'], slot) ∈ placed ∧ (['b'], slot) ∈ placed ∧
        ['x'] ∈ f.graph.nodes.map (·.id) ∧
        (∃ e ∈ f.graph.edges, e.source = ['b'] ∧ e.target = ['x']) ∧
        (∃ e ∈ f.graph.edges, e.source = ['x'] ∧ e.target = ['a']) ∧
        ∀ e ∈ f.graph.edges, ¬((e.source, slot) ∈ placed ∧ (e.target, slot) ∈ placed) ∧
          [['b'], ['x'], ['a']].idxOf e.source < [['b'], ['x'], ['a']].idxOf e.target)).toOption =
      some true := by
    decide +kernel
  obtain ⟨f, hf, hfacts⟩ := exists_of_toOption_map hread
  obtain ⟨hdirection, ha, hb, hx, hfirst, hlast, hedges⟩ := of_decide_eq_true hfacts
  have hg := isConsistent_of_ofText hf
  obtain ⟨visits, hvisits⟩ := hg.exists_visits
  have hno (id : Text) :
      ¬Relation.TransGen (Leads f.graph.edges (· ∈ f.graph.nodes.map (·.id))) id id := by
    intro hcircle
    refine lt_irrefl _ (lt_of_transGen [['b'], ['x'], ['a']].idxOf ?_ hcircle)
    rintro _ _ ⟨-, -, e, he, rfl, rfl⟩
    exact (hedges e he).2
  obtain ⟨d, hd, hbefore⟩ :=
    beforeAcross_of_ofText hf .default (Classification.ofGraph f.graph) hno
  obtain rfl := Option.some.inj ((Drawing.ofGraph?_of_visits hvisits _ _).symm.trans hd)
  have hnode {id : Text} (h : (id, slot) ∈ f.graph.nodes.map fun n =>
      (n.id, (Classification.ofGraph f.graph).slot (f.graph.enclosing n.groupId))) :
      id ∈ f.graph.nodes.map (·.id) := by
    obtain ⟨n, hn, heq⟩ := List.mem_map.1 h
    exact List.mem_map.2 ⟨n, hn, congrArg Prod.fst heq⟩
  have hpath : Relation.TransGen
      (Leads f.graph.edges (· ∈ f.graph.nodes.map (·.id))) ['b'] ['a'] :=
    .tail (.single ⟨hnode hb, hx, hfirst⟩) ⟨hx, hnode ha, hlast⟩
  obtain ⟨a, haMem, haSlot, haId⟩ := (hasMember_iff hg hvisits).2 ha
  obtain ⟨b, hbMem, hbSlot, hbId⟩ := (hasMember_iff hg hvisits).2 hb
  refine ⟨f, _, hf, hd, a, haMem, b, hbMem, haId, hbId, ?_⟩
  have hacross := hbefore slot rfl
    (fun e he hends => (hedges e he).1 (hends.imp (hasMember_iff hg hvisits).1
      (hasMember_iff hg hvisits).1)) b hbMem a haMem hbSlot haSlot (by rwa [haId, hbId])
  rw [hdirection] at hacross
  have hle : b.box.bottom + 0 ≤ a.box.y := hacross
  rwa [add_zero] at hle

end Swimlane
