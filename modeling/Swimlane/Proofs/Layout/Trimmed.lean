import Mathlib.Data.List.Basic
import Mathlib.Data.List.Sort
import Mathlib.Order.RelIso.Basic
import Swimlane.Proofs.Layout.Order
import Swimlane.Proofs.Layout.Slots

/-!
# Lists of children move nothing

A node that a group does not list is not met on the visit; it is placed later than it would
have been, but in the same slot.  Within a slot the members are sorted by ranks that tell them
apart, so the order in which nodes are placed is forgotten.  All else that is drawn depends on
the nodes, the edges and the names of parents.  So children can be taken away from the lists
of a graph that was read from text, and its drawing stays the same.
-/

namespace Swimlane

/-! ## The order along the flow -/

/-- The order along the flow lists every node. -/
theorem Graph.mem_flow {g : Graph} {id : Text} : id ∈ g.flow ↔ id ∈ g.nodes.map (·.id) :=
  (isGreedyOrder_flowOrder _ _ _).mem_iff id

/-! ## The members of a slot -/

/-- Sorting by ranks that tell the members apart forgets the order in which they came. -/
theorem mergeSort_eq_of_perm {ids ids' : List Text} (h : ids.Perm ids') {rank : Text → Nat}
    (hrank : ∀ a ∈ ids, ∀ b ∈ ids, rank a = rank b → a = b) :
    ids.mergeSort (fun a b => decide (rank a ≤ rank b)) =
      ids'.mergeSort (fun a b => decide (rank a ≤ rank b)) := by
  have hsorted (ids : List Text) : (ids.mergeSort fun a b => decide (rank a ≤ rank b)).Pairwise
      fun a b => rank a ≤ rank b := List.pairwise_mergeSort' (Order.Preimage rank (· ≤ ·)) ids
  refine List.Perm.eq_of_pairwise (fun a b ha hb hab hba => ?_) (hsorted ids) (hsorted ids')
    (((List.mergeSort_perm ids _).trans h).trans (List.mergeSort_perm ids' _).symm)
  exact hrank a (List.mem_mergeSort.1 ha) b (h.mem_iff.2 (List.mem_mergeSort.1 hb))
    (Nat.le_antisymm hab hba)

variable {t g : Graph} {c : Classification} {ps ps' : List Placement}

/-- The order in which nodes are placed makes no difference to the members of a slot. -/
theorem slotMembers_eq_of_perm (hids : (g.nodes.map (·.id)).Nodup)
    (horders : g.nodes.Pairwise (·.order < ·.order)) (h : ps.Perm ps')
    (hnodes : ∀ p ∈ ps, p.nodeId ∈ g.nodes.map (·.id)) (slot : Slot) :
    slotMembers g g.flow ps slot = slotMembers g g.flow ps' slot := by
  have hnode : ∀ id ∈ (ps.filter (·.slot = slot)).map (·.nodeId), id ∈ g.nodes.map (·.id) := by
    intro id hid
    obtain ⟨p, hp, rfl⟩ := List.mem_map.1 hid
    exact hnodes p (List.mem_filter.1 hp).1
  refine mergeSort_eq_of_perm ((h.filter _).map _) fun a ha b hb hrank => ?_
  cases hsection : slot.sectionId with
  | none =>
    simp only [hsection] at hrank
    exact (List.idxOf_inj (Graph.mem_flow.2 (hnode a ha))).1 hrank
  | some id =>
    simp only [hsection] at hrank
    obtain ⟨m, hm, rfl⟩ := List.mem_map.1 (hnode a ha)
    obtain ⟨n, hn, rfl⟩ := List.mem_map.1 (hnode b hb)
    rw [Graph.node?_of_mem hids hm, Graph.node?_of_mem hids hn] at hrank
    have hkeys : (g.nodes.map (·.order)).Nodup :=
      (List.pairwise_map.2 horders).imp Nat.ne_of_lt
    rw [List.inj_on_of_nodup_map hkeys hm hn hrank]

/-! ## The grid -/

variable {α : Type} [Length α] {s : LayoutSettings α}

/-- The order in which nodes are placed makes no difference to the grid. -/
theorem makeGrid_eq_of_perm (hids : (g.nodes.map (·.id)).Nodup)
    (horders : g.nodes.Pairwise (·.order < ·.order)) (h : ps.Perm ps')
    (hnodes : ∀ p ∈ ps, p.nodeId ∈ g.nodes.map (·.id)) :
    makeGrid g c s ps = makeGrid g c s ps' := by
  have hrows : rowBands c ps = rowBands c ps' := by
    rw [rowBands, rowBands, h.any_eq]
  have hcolumns : columnBands c ps = columnBands c ps' := by
    rw [columnBands, columnBands, h.any_eq]
  have hcells (rows columns : List (Option Text)) :
      gridCells g s ps rows columns = gridCells g s ps' rows columns := by
    simp only [gridCells, slotMembers_eq_of_perm hids horders h hnodes]
  simp only [makeGrid, hrows, hcolumns, hcells]

namespace Graph

/-- A trimmed graph has other groups, nothing else. -/
theorem IsTrimmed.eq_with_groups (h : t.IsTrimmed g) : t = { g with groups := t.groups } := by
  rw [← h.direction, ← h.nodes, ← h.edges]

/-- The grid does not depend on groups but by the placements. -/
theorem IsTrimmed.makeGrid_eq (h : t.IsTrimmed g) (ps : List Placement) :
    makeGrid t c s ps = makeGrid g c s ps := by
  rw [h.eq_with_groups]
  rfl

theorem IsTrimmed.members_eq (h : t.IsTrimmed g) (grid : Grid α) :
    grid.members t (nodeSizes t s) = grid.members g (nodeSizes g s) := by
  rw [h.eq_with_groups]
  rfl

/-! ## Boundaries -/

theorem IsTrimmed.locateMember_eq (h : t.IsTrimmed g) :
    (locateMember t : Figure α → Located α) = locateMember g := by
  funext m
  have hnode : t.node? m.id = g.node? m.id := by rw [node?, node?, h.nodes]
  rw [locateMember, locateMember, hnode]
  simp only [h.enclosing]

omit [Length α] in
theorem IsTrimmed.locateBoundary_eq (h : t.IsTrimmed g) (id : Text) (b : Bounds α) :
    locateBoundary t id b = locateBoundary g id b := by
  have hparent := congrArg (Option.bind · fun p => p) (h.map_group? (·.parentId) (fun _ => rfl) id)
  simp only [Option.bind_map, Function.comp_def] at hparent
  rw [locateBoundary, locateBoundary, h.enclosing, hparent]

theorem IsTrimmed.boundAll_eq (h : t.IsTrimmed g) (pad : α) (drawn : List (Located α))
    (ids : List Text) : boundAll t pad drawn ids = boundAll g pad drawn ids := by
  induction ids generalizing drawn with
  | nil => rfl
  | cons id rest ih => simp only [boundAll, ih, h.locateBoundary_eq]

/-- The bounds of boundaries do not depend on the lists of children. -/
theorem IsTrimmed.allBounds_eq (h : t.IsTrimmed g) (pad : α) (members : List (Figure α)) :
    allBounds t c pad members = allBounds g c pad members := by
  have horder : boundariesInsideOut t c = boundariesInsideOut g c := by
    simp only [boundariesInsideOut, h.map_group? (·.depth) fun _ => rfl]
  rw [allBounds, allBounds, horder, h.locateMember_eq, h.boundAll_eq]

theorem IsTrimmed.boundaryFigures_eq (h : t.IsTrimmed g) (bounds : List (Text × Bounds α)) :
    boundaryFigures t c bounds = boundaryFigures g c bounds := by
  have hfigure (entry : Text × RoleInfo) :
      (boundaryFigure t entry : Bounds α → Figure α) = boundaryFigure g entry := by
    funext b
    rw [boundaryFigure, boundaryFigure, h.map_group? (·.label) fun _ => rfl]
  simp only [boundaryFigures, hfigure]

end Graph

/-! ## Drawings -/

/-- Whether nodes are met on the visit or not, they have the same placements. -/
theorem placements_perm_of_isTrimmed (hg : g.IsConsistent) (h : t.IsTrimmed g)
    {visits visits' : List Visit} (hvisits : g.visits? = some visits)
    (hvisits' : t.visits? = some visits') :
    (placements t c visits').Perm (placements g c visits) := by
  have hown : ownPlacement t c = ownPlacement g c := by
    funext n
    rw [ownPlacement, ownPlacement, h.enclosing]
  have hids : (t.nodes.map (·.id)).Nodup := by
    rw [h.nodes]
    exact hg.node_ids
  have hplaced := (h.listsTruly hg.listsTruly).placements_perm hids c hvisits'
  rw [hown, h.nodes] at hplaced
  exact hplaced.trans (hg.listsTruly.placements_perm hg.node_ids c hvisits).symm

/-- When children are taken away from the lists of a consistent graph, nothing but the warnings
of its drawing changes. -/
theorem ofVisits_eq_of_isTrimmed (hg : g.IsConsistent)
    (horders : g.nodes.Pairwise (·.order < ·.order)) (h : t.IsTrimmed g)
    {visits visits' : List Visit} (hvisits : g.visits? = some visits)
    (hvisits' : t.visits? = some visits') :
    Drawing.ofVisits t c s visits' = { Drawing.ofVisits g c s visits with
      warnings := (Drawing.ofVisits t c s visits').warnings } := by
  have hplaced := placements_perm_of_isTrimmed (c := c) hg h hvisits hvisits'
  have hnodes : ∀ p ∈ placements t c visits', p.nodeId ∈ g.nodes.map (·.id) := fun p hp =>
    (map_nodeId_placements_perm hg.node_ids).subset
      (List.mem_map.2 ⟨p, hplaced.subset hp, rfl⟩)
  have hgrid : makeGrid t c s (placements t c visits') = makeGrid g c s (placements g c visits) :=
    (h.makeGrid_eq _).trans (makeGrid_eq_of_perm hg.node_ids horders hplaced hnodes)
  simp only [Drawing.ofVisits, hgrid, h.members_eq, h.allBounds_eq, h.boundaryFigures_eq,
    h.nodes, h.edges, h.direction]

/-- The graph of every text that can be read can still be drawn when children are taken away from
its lists, and then nothing but the warnings of the drawing changes: not the figures and their
order, nor their places, sizes, lanes and sections. -/
theorem drawing_eq_of_isTrimmed {text : Text} {f : Flowchart} (hf : Flowchart.ofText text = .ok f)
    {t : Graph} (h : t.IsTrimmed f.graph) (c : Classification) (s : LayoutSettings α) :
    ∃ d d', Drawing.ofGraph? f.graph c s = some d ∧ Drawing.ofGraph? t c s = some d' ∧
      d' = { d with warnings := d'.warnings } := by
  have hg := isConsistent_of_ofText hf
  obtain ⟨visits, hvisits⟩ := hg.exists_visits
  obtain ⟨visits', hvisits'⟩ := h.exists_visits hg
  refine ⟨Drawing.ofVisits f.graph c s visits, Drawing.ofVisits t c s visits',
    Drawing.ofGraph?_of_visits hvisits c s, Drawing.ofGraph?_of_visits hvisits' c s, ?_⟩
  exact ofVisits_eq_of_isTrimmed hg (isForest_of_ofText hf).node_orders h hvisits hvisits'

/-- Every list of children can be emptied. -/
theorem Graph.isTrimmed_frames (g : Graph) : { g with groups := g.frames }.IsTrimmed g where
  direction := rfl
  nodes := rfl
  edges := rfl
  groups := List.forall₂_map_left_iff.2
    (List.forall₂_same.2 fun _ _ => ⟨rfl, List.nil_sublist _⟩)

theorem drawing_eq_of_lanesAcrossGroups : ∃ (f : Flowchart) (d d' : Drawing Rat),
    Flowchart.ofText lanesAcrossGroups = .ok f ∧
      Drawing.ofGraph? f.graph (Classification.ofGraph f.graph) .default = some d ∧
      Drawing.ofGraph? { f.graph with groups := f.graph.frames }
        (Classification.ofGraph f.graph) .default = some d' ∧
      d' = { d with warnings := d'.warnings } := by
  have hread : (Flowchart.ofText lanesAcrossGroups).isOk = true := by
    decide +kernel
  cases hf : Flowchart.ofText lanesAcrossGroups with
  | error e =>
    rw [hf] at hread
    cases hread
  | ok f =>
    obtain ⟨d, d', hd, hd', hsame⟩ := drawing_eq_of_isTrimmed hf f.graph.isTrimmed_frames
      (Classification.ofGraph f.graph) (.default : LayoutSettings Rat)
    exact ⟨f, d, d', rfl, hd, hd', hsame⟩

end Swimlane
