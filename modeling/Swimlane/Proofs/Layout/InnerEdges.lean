import Swimlane.Proofs.Layout.Slots

/-!
# Edges between cells move nothing in sections

Of all the edges a cell sees those between its own members only.  The others enter the drawing
by one way alone, the order along the flow of the whole graph, and that sorts the members of the
cells outside of the sections; in a section members are sorted as their nodes were declared.  So
where every node has a section, graphs that agree in the edges within cells have the same
drawing, but for the edges that it lists (`drawing_eq_of_sharesInnerEdges`).
-/

namespace Swimlane

/-! ## Other edges -/

namespace Graph

variable (g : Graph) (edges : List Edge)

/-- The chains of groups do not depend on edges. -/
theorem chain_with_edges (fuel : Nat) (seen : List Text) (start : Option Text) :
    { g with edges }.chain fuel seen start = g.chain fuel seen start := by
  induction fuel generalizing seen start with
  | zero => rfl
  | succ fuel ih =>
    cases start with
    | none => rfl
    | some id => simp only [chain, ih]; rfl

theorem enclosing_with_edges (start : Option Text) :
    { g with edges }.enclosing start = g.enclosing start :=
  g.chain_with_edges edges _ _ _

/-- The visit of the groups does not depend on edges. -/
theorem visit?_with_edges (fuel : Nat) (around : List Text) (id : Text) :
    { g with edges }.visit? fuel around id = g.visit? fuel around id := by
  induction fuel generalizing around id with
  | zero => rfl
  | succ fuel ih => simp only [visit?, ih]; rfl

theorem visits?_with_edges : { g with edges }.visits? = g.visits? := by
  simp only [visits?, visit?_with_edges]
  rfl

theorem placements_with_edges (c : Classification) (visits : List Visit) :
    placements { g with edges } c visits = placements g c visits := by
  have hown : ownPlacement { g with edges } c = ownPlacement g c := by
    funext n
    rw [ownPlacement, ownPlacement, enclosing_with_edges]
  rw [placements, hown]
  rfl

variable {α : Type} [Length α]

/-- The bounds of boundaries do not depend on edges, given the members. -/
theorem allBounds_with_edges (c : Classification) (pad : α) (members : List (Figure α)) :
    allBounds { g with edges } c pad members = allBounds g c pad members := by
  have hmember : (locateMember { g with edges } : Figure α → Located α) = locateMember g := by
    funext m
    simp only [locateMember, enclosing_with_edges]
    rfl
  have hbound (drawn : List (Located α)) (ids : List Text) :
      boundAll { g with edges } pad drawn ids = boundAll g pad drawn ids := by
    induction ids generalizing drawn with
    | nil => rfl
    | cons id rest ih =>
      simp only [boundAll, ih, locateBoundary, enclosing_with_edges]
      rfl
  rw [allBounds, hmember, hbound]
  rfl

end Graph

/-! ## Edges within cells -/

namespace Graph

/-- The slot of the node with an identifier, by the groups around it. -/
def slotOf? (g : Graph) (c : Classification) (id : Text) : Option Slot :=
  (g.node? id).map fun n => c.slot (g.enclosing n.groupId)

/-- Do both ends of an edge stand in one slot? -/
def isInner (g : Graph) (c : Classification) (e : Edge) : Bool :=
  (g.slotOf? c e.source).isSome && decide (g.slotOf? c e.source = g.slotOf? c e.target)

/-- The graph is another one but for the edges between cells, of which it may have others at
other places. -/
structure SharesInnerEdges (t g : Graph) (c : Classification) : Prop where
  direction : t.direction = g.direction
  nodes : t.nodes = g.nodes
  groups : t.groups = g.groups
  inner : t.edges.filter (t.isInner c) = g.edges.filter (g.isInner c)

variable {t g : Graph} {c : Classification} {visits : List Visit}

/-- Graphs that share the edges within cells differ in edges, nothing else. -/
theorem SharesInnerEdges.eq_with_edges (h : t.SharesInnerEdges g c) :
    t = { g with edges := t.edges } := by
  rw [← h.direction, ← h.nodes, ← h.groups]

/-- Which edges are within a cell does not depend on the edges that there are. -/
theorem SharesInnerEdges.isInner_eq (h : t.SharesInnerEdges g c) : t.isInner c = g.isInner c := by
  rw [h.eq_with_edges]
  funext e
  simp only [isInner, slotOf?, enclosing_with_edges]
  rfl

/-- In a consistent graph the members of a slot are nodes with this slot. -/
theorem IsConsistent.slotOf?_of_mem_slotMembers (hg : g.IsConsistent)
    (h : g.visits? = some visits) {flow : List Text} {slot : Slot} {id : Text}
    (hid : id ∈ slotMembers g flow (placements g c visits) slot) :
    g.slotOf? c id = some slot := by
  obtain ⟨p, hp, rfl⟩ := List.mem_map.1 ((slotMembers_perm _ _ _ _).subset hid)
  obtain ⟨hp, hslot⟩ := List.mem_filter.1 hp
  obtain ⟨n, hn, rfl⟩ := hg.listsTruly.exists_own_of_mem_placements h hp
  rw [slotOf?, ownPlacement, node?_of_mem hg.node_ids hn, Option.map_some]
  exact congrArg some (of_decide_eq_true hslot)

/-- An edge between members of a slot is within a cell. -/
theorem IsConsistent.isInner_of_isWithin (hg : g.IsConsistent) (h : g.visits? = some visits)
    {flow : List Text} {slot : Slot} {e : Edge}
    (he : e.isWithin (slotMembers g flow (placements g c visits) slot) = true) :
    g.isInner c e = true := by
  rw [Edge.isWithin, Bool.and_eq_true, List.contains_iff_mem, List.contains_iff_mem] at he
  rw [isInner, hg.slotOf?_of_mem_slotMembers h he.1, hg.slotOf?_of_mem_slotMembers h he.2]
  exact decide_eq_true rfl

/-- Graphs that share the edges within cells have the same edges between the members of a
slot. -/
theorem SharesInnerEdges.filter_isWithin_eq (hs : t.SharesInnerEdges g c) (hg : g.IsConsistent)
    (h : g.visits? = some visits) (flow : List Text) (slot : Slot) :
    t.edges.filter (·.isWithin (slotMembers g flow (placements g c visits) slot)) =
      g.edges.filter (·.isWithin (slotMembers g flow (placements g c visits) slot)) := by
  have hinner (edges : List Edge) :
      edges.filter (·.isWithin (slotMembers g flow (placements g c visits) slot)) =
        (edges.filter (g.isInner c)).filter
          (·.isWithin (slotMembers g flow (placements g c visits) slot)) := by
    rw [List.filter_filter]
    refine List.filter_congr fun e _ => ?_
    by_cases he : e.isWithin (slotMembers g flow (placements g c visits) slot) = true
    · rw [he, hg.isInner_of_isWithin h he, Bool.and_self]
    · rw [eq_false_of_ne_true he, Bool.false_and]
  rw [hinner t.edges, hinner g.edges, ← hs.inner, hs.isInner_eq]

/-! ## The grid -/

variable {α : Type} [Length α] {s : LayoutSettings α}

/-- The layout of a cell depends on the edges between its members alone. -/
theorem layCell_congr (d : Direction) (s : LayoutSettings α) {edges edges' : List Edge}
    {members : List Text}
    (h : edges.filter (·.isWithin members) = edges'.filter (·.isWithin members))
    (sizeOf : Text → Size α) :
    layCell d s edges sizeOf members = layCell d s edges' sizeOf members := by
  simp only [layCell, cellRanks, h]

/-- In a section the members of a slot are not sorted along the flow. -/
theorem slotMembers_section (g : Graph) (flow flow' : List Text) (ps : List Placement)
    (row : Option Text) (id : Text) :
    slotMembers g flow ps ⟨row, some id⟩ = slotMembers g flow' ps ⟨row, some id⟩ := rfl

/-- In the sections graphs that share the edges within cells have the same cells. -/
theorem SharesInnerEdges.gridCells_eq (hs : t.SharesInnerEdges g c) (hg : g.IsConsistent)
    (h : g.visits? = some visits) (rows : List (Option Text)) {columns : List (Option Text)}
    (hcolumns : none ∉ columns) :
    gridCells t s (placements g c visits) rows columns =
      gridCells g s (placements g c visits) rows columns := by
  have hmembers (slot : Slot) : slotMembers t t.flow (placements g c visits) slot =
      slotMembers g t.flow (placements g c visits) slot := by
    rw [hs.eq_with_edges]
    rfl
  have hsizes : nodeSizes t s = nodeSizes g s := by rw [nodeSizes, nodeSizes, hs.nodes]
  refine List.flatMap_congr fun row _ => List.filterMap_congr fun column hcolumn => ?_
  cases column with
  | none => exact absurd hcolumn hcolumns
  | some id =>
    have hinner := hs.filter_isWithin_eq hg h g.flow ⟨row, some id⟩
    rw [hmembers, slotMembers_section g t.flow g.flow, hsizes, hs.direction]
    cases hcell : slotMembers g g.flow (placements g c visits) ⟨row, some id⟩ with
    | nil => rfl
    | cons first rest =>
      rw [hcell] at hinner
      simp only [layCell_congr g.direction s hinner]

/-- Where every node has a section there is no column for those without one. -/
theorem none_not_mem_columnBands {ps : List Placement}
    (h : ∀ p ∈ ps, p.slot.sectionId.isSome = true) : none ∉ columnBands c ps := by
  have hany : ps.any (·.slot.sectionId.isNone) = false := by
    refine List.any_eq_false.2 fun p hp => ?_
    rw [Option.isNone_eq_false_iff.2 (h p hp)]
    exact Bool.false_ne_true
  rw [columnBands, hany]
  simp

/-- Where every node has a section, graphs that share the edges within cells have one grid. -/
theorem SharesInnerEdges.makeGrid_eq (hs : t.SharesInnerEdges g c) (hg : g.IsConsistent)
    (h : g.visits? = some visits)
    (hsections : ∀ p ∈ placements g c visits, p.slot.sectionId.isSome = true) :
    makeGrid t c s (placements g c visits) = makeGrid g c s (placements g c visits) := by
  have hcells (rows : List (Option Text)) := hs.gridCells_eq (s := s) hg h rows
    (none_not_mem_columnBands (c := c) hsections)
  simp only [makeGrid, hcells]

/-! ## Drawings -/

/-- Where every node has a section, graphs that share the edges within cells have one drawing,
but for its edges. -/
theorem SharesInnerEdges.ofVisits_eq (hs : t.SharesInnerEdges g c) (hg : g.IsConsistent)
    (h : g.visits? = some visits)
    (hsections : ∀ p ∈ placements g c visits, p.slot.sectionId.isSome = true) :
    Drawing.ofVisits t c s visits = { Drawing.ofVisits g c s visits with edges := t.edges } := by
  have hgrid := hs.makeGrid_eq (s := s) hg h hsections
  rw [hs.eq_with_edges] at hgrid ⊢
  simp only [Drawing.ofVisits, placements_with_edges, hgrid, allBounds_with_edges]
  rfl

/-- A node in a section has a section in its slot. -/
theorem IsConsistent.isSome_sectionId (hg : g.IsConsistent) {start : Option Text}
    (h : ∃ id, g.LiesIn start id ∧ c.role? id = some .sectionBand) :
    (c.slot (g.enclosing start)).sectionId.isSome = true := by
  obtain ⟨id, hlies, hrole⟩ := h
  rw [Classification.slot]
  cases hnearest : c.nearest? .sectionBand (g.enclosing start) with
  | some found => rfl
  | none => exact absurd hrole (hg.isNearest_iff.2 hnearest id hlies)

end Graph

variable {α : Type} [Length α]

/-- If every node of a text that can be read lies in a section, all graphs with its direction, its
nodes, its groups and its edges within cells have the same drawing, but for the edges: the same
figures in the same order, with the same places, sizes, lanes and sections. -/
theorem drawing_eq_of_sharesInnerEdges {text : Text} {f : Flowchart}
    (hf : Flowchart.ofText text = .ok f) {c : Classification}
    (hsections : ∀ n ∈ f.graph.nodes,
      ∃ id, f.graph.LiesIn n.groupId id ∧ c.role? id = some .sectionBand)
    {t : Graph} (h : t.SharesInnerEdges f.graph c) (s : LayoutSettings α) :
    ∃ d, Drawing.ofGraph? f.graph c s = some d ∧
      Drawing.ofGraph? t c s = some { d with edges := t.edges } := by
  have hg := isConsistent_of_ofText hf
  obtain ⟨visits, hvisits⟩ := hg.exists_visits
  have hvisits' : t.visits? = some visits := by
    rw [h.eq_with_edges, Graph.visits?_with_edges]
    exact hvisits
  have hplaced : ∀ p ∈ placements f.graph c visits, p.slot.sectionId.isSome = true := by
    intro p hp
    obtain ⟨n, hn, rfl⟩ := hg.listsTruly.exists_own_of_mem_placements hvisits hp
    exact hg.isSome_sectionId (hsections n hn)
  refine ⟨Drawing.ofVisits f.graph c s visits, Drawing.ofGraph?_of_visits hvisits c s, ?_⟩
  rw [Drawing.ofGraph?_of_visits hvisits' c s, h.ofVisits_eq hg hvisits hplaced]

/-- Two sections in a lane, an edge within one of them, and a circle of edges between them. -/
def circleBetweenSections : Text :=
  "graph LR\nsubgraph lane1\nsubgraph stage1\na-->b\nc\nend\nsubgraph stage2\nd\nend\nend\n".toList ++
    "b-->d\nd-->a\nd-->c".toList

/-- The same but for the circle, in the place of which there is one edge. -/
def edgeBetweenSections : Text :=
  "graph LR\nsubgraph lane1\nsubgraph stage1\na-->b\nc\nend\nsubgraph stage2\nd\nend\nend\n".toList ++
    "c-->d".toList

theorem drawing_eq_of_circleBetweenSections : ∃ (f f' : Flowchart) (d : Drawing Rat),
    Flowchart.ofText circleBetweenSections = .ok f ∧
      Flowchart.ofText edgeBetweenSections = .ok f' ∧ f'.graph.edges ≠ f.graph.edges ∧
      Drawing.ofGraph? f.graph (Classification.ofGraph f.graph) .default = some d ∧
      Drawing.ofGraph? f'.graph (Classification.ofGraph f.graph) .default =
        some { d with edges := f'.graph.edges } := by
  have hread : ((Flowchart.ofText circleBetweenSections).bind fun f =>
      (Flowchart.ofText edgeBetweenSections).map fun f' => decide (
        let c := Classification.ofGraph f.graph
        f'.graph.edges ≠ f.graph.edges ∧ f'.graph.direction = f.graph.direction ∧
          f'.graph.nodes = f.graph.nodes ∧ f'.graph.groups = f.graph.groups ∧
          f'.graph.edges.filter (f'.graph.isInner c) = f.graph.edges.filter (f.graph.isInner c) ∧
          ∀ n ∈ f.graph.nodes, c.nearest? .sectionBand (f.graph.enclosing n.groupId) ≠
            none)).toOption = some true := by
    decide +kernel
  cases hf : Flowchart.ofText circleBetweenSections with
  | error e =>
    rw [hf] at hread
    cases hread
  | ok f =>
    rw [hf, Except.bind] at hread
    obtain ⟨f', hf', hfacts⟩ := exists_of_toOption_map hread
    obtain ⟨hother, hdirection, hnodes, hgroups, hinner, hnearest⟩ := of_decide_eq_true hfacts
    have hg := isConsistent_of_ofText hf
    have hsections : ∀ n ∈ f.graph.nodes, ∃ id, f.graph.LiesIn n.groupId id ∧
        (Classification.ofGraph f.graph).role? id = some .sectionBand := by
      intro n hn
      obtain ⟨id, hid⟩ := Option.ne_none_iff_exists'.1 (hnearest n hn)
      have hfound := hg.isNearest_iff.2 hid
      exact ⟨id, hfound.1, hfound.2.1⟩
    obtain ⟨d, hd, hd'⟩ := drawing_eq_of_sharesInnerEdges hf hsections
      ⟨hdirection, hnodes, hgroups, hinner⟩ (.default : LayoutSettings Rat)
    exact ⟨f, f', d, rfl, hf', hother, hd, hd'⟩

end Swimlane
