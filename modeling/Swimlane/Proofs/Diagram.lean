import Swimlane.Diagram
import Swimlane.Proofs.Flowchart.Forest
import Swimlane.Proofs.Flowchart.Nesting
import Swimlane.Proofs.Tidy

/-!
# Nothing is lost on the way to a diagram

The nodes of a flowchart pass through the placement, the grid, the ordering of cells and the
tidying, and its edges through the tidying.  A diagram that comes out has every node as one
figure, with its label and its canonical type, and every edge either stays under its own
identifier and label or is counted among what went.
-/

namespace Swimlane

variable {α : Type} [Length α]

/-- A diagram has all nodes of a graph, and accounts for all its edges. -/
structure Diagram.Keeps (d : Diagram α) (g : Graph) : Prop where
  /-- The members are the nodes, with their own labels and canonical types. -/
  members : ((membersOf d.figures).map Figure.face).Perm (g.nodes.map (canonicalFace ·.face))
  /-- No two figures have one identifier. -/
  figure_ids : (d.figures.map (·.id)).Nodup
  /-- The edges have the identifiers and labels of edges of the graph, in their order. -/
  names : (d.edges.map Edge.name).Sublist (g.edges.map Edge.name)
  /-- No two edges have one identifier. -/
  edge_ids : (d.edges.map (·.id)).Nodup
  /-- Every edge is there or counted among those that went. -/
  edge_count : g.edges.length = d.edges.length + d.drops.count .boundaryEdge +
    d.drops.count .danglingEdge + d.drops.count .selfLoop + d.drops.count .duplicateEdge
  /-- No node went. -/
  no_node_dropped : d.drops.count .duplicateNode = 0

/-! ## Nodes -/

/-- All shapes. -/
def shapes : List Shape :=
  [.rectangle, .roundRect, .stadium, .subroutine, .cylinder, .circle, .diamond, .hexagon,
   .parallelogram, .parallelogramAlt, .trapezoid, .trapezoidAlt, .asymmetric]

theorem mem_shapes (shape : Shape) : shape ∈ shapes := by
  cases shape <;> decide

theorem isAccountBoundary_of_mem_shapes :
    ∀ shape ∈ shapes, isAccountBoundary (canonicalType shape.componentType) = false := by
  decide +kernel

/-- Neither a shape nor its absence suggests the type of an account boundary. -/
theorem isAccountBoundary_componentType (shape : Option Shape) :
    isAccountBoundary (canonicalType ((shape.map Shape.componentType).getD defaultComponentType)) =
      false := by
  cases shape with
  | none => exact isAccountBoundary_of_mem_shapes .rectangle (mem_shapes .rectangle)
  | some shape => exact isAccountBoundary_of_mem_shapes shape (mem_shapes shape)

/-- No node of a flowchart can give way to a boundary. -/
theorem isLasting_of_mem_ofVisits {g : Graph} (hg : g.IsConsistent) {c : Classification}
    {s : LayoutSettings α} {visits : List Visit} {f : Figure α}
    (hf : f ∈ (Drawing.ofVisits g c s visits).figures) : f.IsLasting := by
  intro hmember
  have hmem : f ∈ membersOf (Drawing.ofVisits g c s visits).figures :=
    mem_membersOf.2 ⟨hf, hmember⟩
  have hface := (map_face_membersOf_ofVisits hg.node_ids c s visits).subset
    (List.mem_map.2 ⟨f, hmem, rfl⟩)
  obtain ⟨n, hn, heq⟩ := List.mem_map.1 hface
  have htype : n.componentType = f.componentType := congrArg (·.2.2) heq
  rw [← htype, hg.types n hn]
  exact isAccountBoundary_componentType n.shape

/-- Icons change neither what figures are nor what they show of their nodes. -/
theorem map_face_membersOf_withIcon (figures : List (Figure α)) :
    (membersOf (figures.map Figure.withIcon)).map Figure.face =
      (membersOf figures).map Figure.face :=
  map_face_membersOf_map figures (fun _ => rfl) fun _ => rfl

/-! ## Edges -/

/-- The edges of a flowchart have different identifiers. -/
theorem Graph.IsConsistent.edge_ids_nodup {g : Graph} (h : g.IsConsistent) :
    (g.edges.map (·.id)).Nodup := by
  rw [h.edge_ids]
  refine List.nodup_range.map fun m n heq => ?_
  exact decimal_injective (List.cons.inj heq).2

/-! ## Diagrams -/

/-- The diagram of a graph keeps what it must, whatever the visits of the groups were. -/
theorem keeps_ofDrawing {g : Graph} (hg : g.IsConsistent) (c : Classification)
    (s : LayoutSettings α) (visits : List Visit) (policy : EdgePolicy) :
    (Diagram.ofDrawing g c policy (Drawing.ofVisits g c s visits)).Keeps g := by
  have hids := nodup_ids_ofVisits g c s visits
  have hfigures := passFigures_keeps hids fun f hf => isLasting_of_mem_ofVisits hg hf
  have hedges := tidyEdges_keeps policy (Drawing.ofVisits g c s visits).figures hg.edge_ids_nodup
  have hcount {cause : DropCause} (hcause : cause ≠ .duplicateBoundary) :=
    count_drops_tidy policy g.edges hfigures hcause
  refine ⟨?_, ?_, hedges.names, ?_, ?_, ?_⟩
  · show ((membersOf (List.map _ (passFigures _).kept)).map Figure.face).Perm _
    rw [map_face_membersOf_withIcon, hfigures.members]
    have hfaces := (map_face_membersOf_ofVisits hg.node_ids c s visits).map canonicalFace
    rw [List.map_map, List.map_map] at hfaces
    exact hfaces
  · have hkept := hids.sublist hfigures.ids
    show (List.map Figure.id (List.map Figure.withIcon (passFigures _).kept)).Nodup
    rw [List.map_map]
    exact hkept
  · have hnames := hedges.names.map Prod.fst
    rw [List.map_map, List.map_map] at hnames
    exact hg.edge_ids_nodup.sublist hnames
  · have htotal := hedges.count
    rw [length_eq_counts hedges.causes, ← hcount (by decide), ← hcount (by decide),
      ← hcount (by decide), ← hcount (by decide), ← Nat.add_assoc, ← Nat.add_assoc,
      ← Nat.add_assoc] at htotal
    exact htotal
  · refine (hcount (by decide)).trans (List.count_eq_zero.2 fun hmem => ?_)
    exact absurd (hedges.causes _ hmem) (by decide)

/-- If a text becomes a diagram, then the text is a flowchart and the diagram has all its
nodes and accounts for all its edges. -/
theorem keeps_of_ofText {text : Text} {s : Settings α} {cancelled : Bool} {d : Diagram α}
    (h : Outcome.ofText text s cancelled = .ok (.positioned d)) :
    ∃ f, Flowchart.ofText text = .ok f ∧ d.Keeps f.graph := by
  unfold Outcome.ofText at h
  cases hf : Flowchart.ofText text with
  | error e =>
    rw [hf] at h
    cases h
  | ok f =>
    refine ⟨f, rfl, ?_⟩
    simp only [hf] at h
    split at h
    · cases h
    · unfold Outcome.ofFlowchart at h
      simp only at h
      split at h
      · split at h
        · next drawing hdrawing =>
          cases h
          obtain ⟨visits, -, rfl⟩ := Option.map_eq_some_iff.1 hdrawing
          exact keeps_ofDrawing (isConsistent_of_ofText hf) _ _ visits s.edgePolicy
        · cases h
      · cases h

/-- What becomes of a flowchart with a group that has a role, unless the user gives up. -/
theorem ofText_of_hasRoles {text : Text} {f : Flowchart} (hf : Flowchart.ofText text = .ok f)
    (hroles : (Classification.ofGraph f.graph).hasRoles = true) {visits : List Visit}
    (hvisits : f.graph.visits? = some visits) (s : Settings α) :
    Outcome.ofText text s false = .ok (.positioned
      (Diagram.ofDrawing f.graph (Classification.ofGraph f.graph) s.edgePolicy
        (Drawing.ofVisits f.graph (Classification.ofGraph f.graph) (f.layoutSettings s.layout)
          visits))) := by
  simp only [Outcome.ofText, hf, Bool.false_eq_true, if_false, Outcome.ofFlowchart, hroles, if_true,
    Drawing.ofGraph?, hvisits, Option.map_some]

/-- A flowchart with a group that has a role becomes a diagram. -/
theorem exists_diagram_of_hasRoles {text : Text} {f : Flowchart}
    (hf : Flowchart.ofText text = .ok f) (hroles : (Classification.ofGraph f.graph).hasRoles = true)
    (s : Settings α) : ∃ d, Outcome.ofText text s false = .ok (.positioned d) := by
  obtain ⟨visits, hvisits⟩ := (isConsistent_of_ofText hf).exists_visits
  exact ⟨_, ofText_of_hasRoles hf hroles hvisits s⟩

/-- Two boundaries of one account, a link between them, a loop and a link that is there
twice. -/
def twoAccounts : Text :=
  "graph LR\nsubgraph p[\"aws account\"]\na[(x)]-->b\nend\n".toList ++
    "subgraph q[\"aws account\"]\nc\nend\na-->b\nb-->b\np-->q".toList

theorem keeps_of_twoAccounts : ∃ d : Diagram Rat,
    Outcome.ofText twoAccounts .default false = .ok (.positioned d) ∧
      ∃ f, Flowchart.ofText twoAccounts = .ok f ∧ d.Keeps f.graph := by
  have hread : ((Flowchart.ofText twoAccounts).map fun f =>
      (Classification.ofGraph f.graph).hasRoles).toOption = some true := by
    decide +kernel
  cases hf : Flowchart.ofText twoAccounts with
  | error e =>
    rw [hf] at hread
    cases hread
  | ok f =>
    rw [hf] at hread
    obtain ⟨d, hd⟩ := exists_diagram_of_hasRoles hf (Option.some.inj hread)
      (Settings.default : Settings Rat)
    obtain ⟨f', hf', hkeeps⟩ := keeps_of_ofText hd
    rw [hf] at hf'
    exact ⟨d, hd, f', hf', hkeeps⟩

end Swimlane
