import Swimlane.Document
import Swimlane.Proofs.Diagram.Ends

/-!
# Documents that are closed graphs

The document of a diagram is a graph of its own: every edge has its two ends among the nodes of
the document, they differ, and no other edge has the same two (`Document.isClosedGraph_ofDrawing`).
This is what the drawing was tidied for.  A flowchart without any role is handed back as it was
read: its document has the nodes and the edges of the text, loops and repeated links as well
(`Document.showsGraph_of_ofText`), and an edge may end at a group, which no node stands for.
-/

namespace Swimlane

/-! ## Parts of a value -/

namespace Json

/-- The items of the list in a field; none if there is no list. -/
def items (name : String) (v : Json) : List Json :=
  match v.field? name.toList with
  | some (.list items) => items
  | _ => []

/-- The text in a field, if there is one. -/
def textAt? (name : String) (v : Json) : Option Text :=
  match v.field? name.toList with
  | some (.text value) => some value
  | _ => none

/-- The field of an object is the one that was written under its name. -/
theorem field?_ofPairs (name : String) (pairs : List (String × Json)) :
    (ofPairs pairs).field? name.toList = pairs.lookup name := by
  show (pairs.map fun pair => (pair.1.toList, pair.2)).lookup name.toList = pairs.lookup name
  induction pairs with
  | nil => rfl
  | cons pair rest ih =>
    rw [List.map_cons, List.lookup_cons, List.lookup_cons, ih]
    by_cases hname : name = pair.1
    · rw [beq_iff_eq.2 hname, beq_iff_eq.2 (congrArg String.toList hname)]
    · have hlist : name.toList ≠ pair.1.toList := fun heq => hname (String.toList_injective heq)
      rw [beq_eq_false_iff_ne.2 hname, beq_eq_false_iff_ne.2 hlist]

/-- The ends that an edge of a document has. -/
def ends (e : Json) : Option Text × Option Text := (e.textAt? "source", e.textAt? "target")

/-- The identifiers of the nodes of a document. -/
def nodeIds (v : Json) : List (Option Text) := (v.items "nodes").map (textAt? "id")

/-- A document whose edges join different nodes of its own, no two edges the same. -/
structure IsClosedGraph (v : Json) : Prop where
  ends : ∀ e ∈ v.items "edges", ∃ source target, e.ends = (some source, some target) ∧
    some source ∈ v.nodeIds ∧ some target ∈ v.nodeIds ∧ source ≠ target
  pairs : ((v.items "edges").map Json.ends).Nodup

end Json

theorem Edge.ends_json (e : Edge) : e.json.ends = (some e.source, some e.target) := by
  rw [Json.ends, Json.textAt?, Json.textAt?, Edge.json, Json.field?_ofPairs, Json.field?_ofPairs]
  rfl

theorem Figure.textAt?_id_json (f : Figure Float32) : f.json.textAt? "id" = some f.id := by
  rw [Json.textAt?, Figure.json, Json.field?_ofPairs]
  rfl

theorem Node.textAt?_id_json (n : Node) : n.json.textAt? "id" = some n.id := by
  rw [Json.textAt?, Node.json, Json.field?_ofPairs]
  rfl

/-- A document that shows a graph as it is: its nodes and its edges, in their order.  An edge ends
at a node of the document unless it ends at a group. -/
structure Json.ShowsGraph (v : Json) (g : Graph) : Prop where
  nodes : v.items "nodes" = g.nodes.map Node.json
  edges : v.items "edges" = g.edges.map Edge.json
  sources : ∀ e ∈ g.edges, e.source ∉ g.groups.map (·.id) → some e.source ∈ v.nodeIds
  targets : ∀ e ∈ g.edges, e.target ∉ g.groups.map (·.id) → some e.target ∈ v.nodeIds

namespace Document

theorem items_nodes (d : Document) : d.json.items "nodes" = d.nodes := by
  rw [Json.items, json, Json.field?_ofPairs]
  rfl

theorem items_edges (d : Document) : d.json.items "edges" = d.edges.map Edge.json := by
  rw [Json.items, json, Json.field?_ofPairs]
  rfl

theorem map_ends_items_edges (d : Document) : (d.json.items "edges").map Json.ends =
    d.edges.map fun e => (some e.source, some e.target) := by
  rw [items_edges, List.map_map]
  exact List.map_congr_left fun e _ => e.ends_json

theorem nodeIds_ofDiagram (d : Diagram Float32) :
    (ofDiagram d).json.nodeIds = d.figures.map fun f => some f.id := by
  rw [Json.nodeIds, items_nodes, ofDiagram, List.map_map]
  exact List.map_congr_left fun f _ => f.textAt?_id_json

theorem nodeIds_ofGraph (g : Graph) :
    (ofGraph g).json.nodeIds = g.nodes.map fun n => some n.id := by
  rw [Json.nodeIds, items_nodes, ofGraph, List.map_map]
  exact List.map_congr_left fun n _ => n.textAt?_id_json

/-! ## The document of a diagram -/

/-- Whatever was drawn, the document of its diagram is a closed graph. -/
theorem isClosedGraph_ofDrawing (g : Graph) (c : Classification) (policy : EdgePolicy)
    (d : Drawing Float32) :
    (ofDiagram (Diagram.ofDrawing g c policy d)).json.IsClosedGraph where
  ends e he := by
    have htidy := isTidy_tidy policy d.figures d.edges
    rw [items_edges] at he
    obtain ⟨k, hk, rfl⟩ := List.mem_map.1 he
    have hids : (ofDiagram (Diagram.ofDrawing g c policy d)).json.nodeIds =
        (tidy policy d.figures d.edges).figures.map fun f => some f.id := by
      rw [nodeIds_ofDiagram, Diagram.ofDrawing, List.map_map]
      rfl
    have hnode {id : Text} (hid : id ∈ (tidy policy d.figures d.edges).figures.map (·.id)) :
        some id ∈ (ofDiagram (Diagram.ofDrawing g c policy d)).json.nodeIds := by
      obtain ⟨f, hf, rfl⟩ := List.mem_map.1 hid
      rw [hids]
      exact List.mem_map.2 ⟨f, hf, rfl⟩
    obtain ⟨hsource, htarget⟩ := htidy.ends k hk
    exact ⟨k.source, k.target, k.ends_json, hnode hsource, hnode htarget, htidy.no_loops k hk⟩
  pairs := by
    have hpairs := (isTidy_tidy policy d.figures d.edges).pairs
    rw [map_ends_items_edges]
    have hmap := hpairs.map (f := fun ends => (some ends.1, some ends.2)) fun a b heq => by
      obtain ⟨hsource, htarget⟩ := Prod.mk.inj heq
      exact Prod.ext (Option.some.inj hsource) (Option.some.inj htarget)
    rw [List.map_map] at hmap
    exact hmap

/-! ## The document of a flowchart without roles -/

/-- A flowchart that was read is shown as it is. -/
theorem showsGraph_of_ofText {text : Text} {f : Flowchart} (hf : Flowchart.ofText text = .ok f) :
    (ofGraph f.graph).json.ShowsGraph f.graph := by
  obtain ⟨draft, hsound, hfinish⟩ := exists_draft_of_ofText hf
  have hends := hsound.ends_finish hfinish
  have hnode {id : Text} (hid : id ∈ f.graph.ids) (hgroup : id ∉ f.graph.groups.map (·.id)) :
      some id ∈ (ofGraph f.graph).json.nodeIds := by
    obtain ⟨n, hn, rfl⟩ := List.mem_map.1 ((List.mem_append.1 hid).resolve_right hgroup)
    rw [nodeIds_ofGraph]
    exact List.mem_map.2 ⟨n, hn, rfl⟩
  refine ⟨items_nodes _, items_edges _, fun e he => ?_, fun e he => ?_⟩
  · exact hnode (hends e he).1
  · exact hnode (hends e he).2

end Document

/-- What is handed back without a layout is the graph that was read. -/
theorem eq_graph_of_ofText {α : Type} [Length α] {text : Text} {s : Settings α} {cancelled : Bool}
    {g : Graph} (h : Outcome.ofText text s cancelled = .ok (.plain g)) :
    ∃ f, Flowchart.ofText text = .ok f ∧ (Classification.ofGraph f.graph).hasRoles = false ∧
      g = f.graph := by
  unfold Outcome.ofText at h
  cases hf : Flowchart.ofText text with
  | error e =>
    rw [hf] at h
    cases h
  | ok f =>
    simp only [hf] at h
    split at h
    · cases h
    · unfold Outcome.ofFlowchart at h
      simp only at h
      split at h
      · split at h <;> cases h
      · next hroles =>
        cases h
        exact ⟨f, rfl, eq_false_of_ne_true hroles, rfl⟩

/-- The document of a text is a closed graph if some group of the text has a role; otherwise it
shows the nodes and the edges of the text as they were read. -/
theorem closed_or_shown_of_documentText {text : Text} {s : Settings Float32} {spread : Bool}
    {written : Text} (h : documentText text s spread = .ok written) :
    ∃ outcome, Outcome.ofText text s false = .ok outcome ∧
      written = (Document.ofOutcome outcome).text spread ∧
      ((Document.ofOutcome outcome).hasRoles = true →
        (Document.ofOutcome outcome).json.IsClosedGraph) ∧
      ((Document.ofOutcome outcome).hasRoles = false →
        ∃ f, Flowchart.ofText text = .ok f ∧
          (Classification.ofGraph f.graph).hasRoles = false ∧
          (Document.ofOutcome outcome).json.ShowsGraph f.graph) := by
  rw [documentText] at h
  cases houtcome : Outcome.ofText text s false with
  | error e =>
    rw [houtcome] at h
    cases h
  | ok outcome =>
    rw [houtcome] at h
    cases h
    refine ⟨outcome, rfl, rfl, fun hroles => ?_, fun hroles => ?_⟩
    · cases outcome with
      | plain g => cases hroles
      | positioned d =>
        obtain ⟨f, visits, -, -, rfl⟩ := eq_ofDrawing_of_ofText houtcome
        exact Document.isClosedGraph_ofDrawing _ _ _ _
    · cases outcome with
      | plain g =>
        obtain ⟨f, hf, hnone, rfl⟩ := eq_graph_of_ofText houtcome
        exact ⟨f, hf, hnone, Document.showsGraph_of_ofText hf⟩
      | positioned d => cases hroles

/-- A lane with a loop, a link that is there twice, and a link to the lane. -/
def tangledLinks : Text :=
  "graph LR\nsubgraph lane_1\na-->a\na-->b\na-->b\nend\nb-->lane_1".toList

theorem closed_of_tangledLinks : ∃ d : Diagram Float32,
    Outcome.ofText tangledLinks .default false = .ok (.positioned d) ∧
      documentText tangledLinks .default true = .ok ((Document.ofDiagram d).text true) ∧
      (Document.ofDiagram d).json.IsClosedGraph := by
  have hread : ((Flowchart.ofText tangledLinks).map fun f =>
      (Classification.ofGraph f.graph).hasRoles).toOption = some true := by
    decide +kernel
  obtain ⟨f, hf, hroles⟩ := exists_of_toOption_map hread
  obtain ⟨d, hd⟩ := exists_diagram_of_hasRoles hf hroles (.default : Settings Float32)
  have hwritten : documentText tangledLinks .default true =
      .ok ((Document.ofDiagram d).text true) := by
    rw [documentText, hd]
    rfl
  obtain ⟨outcome, houtcome, -, hclosed, -⟩ := closed_or_shown_of_documentText hwritten
  rw [hd] at houtcome
  cases houtcome
  exact ⟨d, hd, hwritten, hclosed rfl⟩

/-- A loop and a link that is there twice, without any group. -/
def plainLinks : Text := "graph LR\na-->a\na-->b\na-->b".toList

/-- The document of a flowchart without roles need not be a closed graph. -/
theorem exists_open_document : ∃ outcome,
    Outcome.ofText plainLinks (.default : Settings Float32) false = .ok outcome ∧
      documentText plainLinks .default true = .ok ((Document.ofOutcome outcome).text true) ∧
      ¬(Document.ofOutcome outcome).json.IsClosedGraph := by
  have hread : ((Flowchart.ofText plainLinks).map fun f =>
      ((Classification.ofGraph f.graph).hasRoles, f.graph.edges.map fun e =>
        (e.source, e.target))).toOption =
      some (false, [(['a'], ['a']), (['a'], ['b']), (['a'], ['b'])]) := by
    decide +kernel
  obtain ⟨f, hf, hfacts⟩ := exists_of_toOption_map hread
  obtain ⟨hroles, hedges⟩ := Prod.mk.inj hfacts
  have houtcome : Outcome.ofText plainLinks (.default : Settings Float32) false =
      .ok (.plain f.graph) := by
    rw [Outcome.ofText, hf]
    simp [Outcome.ofFlowchart, hroles]
  refine ⟨.plain f.graph, houtcome, ?_, fun hclosed => ?_⟩
  · rw [documentText, houtcome]
    rfl
  · have hpairs := hclosed.pairs
    have hends : f.graph.edges.map (fun e => (some e.source, some e.target)) =
        (f.graph.edges.map fun e => (e.source, e.target)).map fun ends =>
          (some ends.1, some ends.2) := by
      rw [List.map_map]
      rfl
    rw [Document.map_ends_items_edges, Document.ofOutcome, Document.ofGraph, hends, hedges]
      at hpairs
    exact absurd hpairs (by decide)

end Swimlane
