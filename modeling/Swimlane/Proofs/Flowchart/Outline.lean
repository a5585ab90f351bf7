import Swimlane.Proofs.Flowchart.Entries
import Swimlane.Proofs.Flowchart.Forest

/-!
# Reading undoes writing

The links of an outline are read after its entries.  A link to a group implies a node with
the name of the group at first; such strays are all that is added to the nodes, and
finishing the draft takes them away again.  So the text of a readable outline is read as
the graph of the outline (`ofText_text`).
-/

namespace Swimlane

namespace Draft

/-! ## Links -/

/-- Does a draft hold a graph, some links between its nodes and groups, and nothing else but
nodes that are implied by the names of groups? -/
structure HasLinks (g : Graph) (ls : List PlainLink) (d : Draft) : Prop where
  openGroups : d.openGroups = []
  direction : d.graph.direction = g.direction
  groups : d.graph.groups = g.groups
  edges : d.graph.edges =
    ls.mapIdx fun i l => ⟨'e' :: decimal i, l.source, l.target, l.label⟩
  nodes : ∃ strays, d.graph.nodes = g.nodes ++ strays ∧ ∀ n ∈ strays, n.id ∈ d.implied
  implied : ∀ id ∈ d.implied, id ∉ g.nodes.map (·.id) ∧ id ∈ g.groups.map (·.id)

variable {g : Graph} {ls : List PlainLink} {d : Draft}

/-- A bare reference leaves a node as it is. -/
theorem describe_bare (id : Text) (n : Node) : describe ⟨some id, none, none⟩ n = n := rfl

/-- Outside of all groups, a bare reference to a node changes nothing. -/
theorem mention_bare_of_hasNode (hopen : d.openGroups = []) {id : Text}
    (hhas : d.graph.hasNode id = true) : d.mention false id ⟨some id, none, none⟩ = d := by
  have hmap : d.graph.nodes.map
      (fun n => if n.id = id then describe ⟨some id, none, none⟩ n else n) = d.graph.nodes := by
    refine (List.map_congr_left fun n _ => ?_).trans (List.map_id _)
    rw [describe_bare, ite_self]
    rfl
  have hadd : d.addNode id ⟨some id, none, none⟩ = d := by
    rw [addNode, if_pos hhas, Graph.changeNode, hmap]
  rw [Draft.mention, hhas, hadd]
  exact claim_eq_self hopen id

/-- Outside of all groups, a bare reference to what is no node implies one. -/
theorem mention_bare_of_new (hopen : d.openGroups = []) {id : Text}
    (hnew : d.graph.hasNode id = false) : d.mention false id ⟨some id, none, none⟩ =
      { d with
        graph := { d.graph with nodes := d.graph.nodes ++
          [⟨id, id, defaultComponentType, none, none, d.graph.nodes.length⟩] }
        implied := id :: d.implied } := by
  rw [Draft.mention, addNode_of_new hnew, hnew]
  refine claim_eq_self ?_ id
  exact hopen

/-- A bare reference changes nothing, or implies a node with the name of a group. -/
theorem HasLinks.mention (h : HasLinks g ls d) {id : Text} (hid : id ∈ g.ids) :
    HasLinks g ls (d.mention false id ⟨some id, none, none⟩) := by
  obtain ⟨strays, hnodes, hstrays⟩ := h.nodes
  cases hhas : d.graph.hasNode id with
  | true =>
    rw [mention_bare_of_hasNode h.openGroups hhas]
    exact h
  | false =>
    have hnode : id ∉ g.nodes.map (·.id) := by
      rw [Bool.eq_false_iff, Ne, Graph.hasNode_iff, hnodes, List.map_append] at hhas
      exact fun hmem => hhas (List.mem_append_left _ hmem)
    have hgroup : id ∈ g.groups.map (·.id) := (List.mem_append.1 hid).resolve_left hnode
    rw [mention_bare_of_new h.openGroups hhas]
    refine ⟨h.openGroups, h.direction, h.groups, h.edges,
      ⟨strays ++ [⟨id, id, defaultComponentType, none, none, d.graph.nodes.length⟩], ?_, ?_⟩, ?_⟩
    · show d.graph.nodes ++ _ = _
      rw [hnodes, List.append_assoc]
    · intro n hn
      rcases List.mem_append.1 hn with hn | hn
      · exact List.mem_cons_of_mem id (hstrays n hn)
      · rw [List.mem_singleton.1 hn]
        exact List.mem_cons_self
    · intro i hi
      rcases List.mem_cons.1 hi with rfl | hi
      · exact ⟨hnode, hgroup⟩
      · exact h.implied i hi

/-- A link adds its edge. -/
theorem HasLinks.link (h : HasLinks g ls d) {l : PlainLink} (hsource : l.source ∈ g.ids)
    (htarget : l.target ∈ g.ids) : HasLinks g (ls ++ [l]) (d.link l) := by
  have hmentioned := (h.mention hsource).mention htarget
  refine ⟨hmentioned.openGroups, hmentioned.direction, hmentioned.groups, ?_, hmentioned.nodes,
    hmentioned.implied⟩
  have hlength := congrArg List.length hmentioned.edges
  rw [List.length_mapIdx] at hlength
  rw [Draft.link, addEdge, List.mapIdx_append, ← hmentioned.edges, hlength]
  simp

/-- Reading the lines of links adds the links. -/
theorem foldlM_links {links : List PlainLink} (h : HasLinks g ls d)
    (hends : ∀ l ∈ links, l.source ∈ g.ids ∧ l.target ∈ g.ids)
    (hnames : ∀ l ∈ links, IsPlainName l.source ∧ IsPlainName l.target)
    (hlabels : ∀ l ∈ links, ∀ label ∈ l.label, IsPlainLabel label ∧ label ≠ []) (number : Nat) :
    ∃ d', (statementsFrom number (links.map (·.line))).foldlM read d = .ok d' ∧
      HasLinks g (ls ++ links) d' := by
  induction links generalizing d ls number with
  | nil => exact ⟨d, rfl, by rwa [List.append_nil]⟩
  | cons l links ih =>
    obtain ⟨hsource, htarget⟩ := hnames l List.mem_cons_self
    have hlabel := hlabels l List.mem_cons_self
    have hline := isStatementLine_line hsource.isWord htarget.isWord fun label hl =>
      ⟨(hlabel label hl).1.no_mark.1, (hlabel label hl).1.no_mark.2.1⟩
    have hread := readStatement_line hsource htarget.isWord
      (fun label hl => ⟨(hlabel label hl).1.no_mark.1, (hlabel label hl).2⟩) d number
    have hlinked := h.link (hends l List.mem_cons_self).1 (hends l List.mem_cons_self).2
    obtain ⟨d', hd', hlinks⟩ := ih hlinked (fun m hm => hends m (List.mem_cons_of_mem l hm))
      (fun m hm => hnames m (List.mem_cons_of_mem l hm))
      (fun m hm => hlabels m (List.mem_cons_of_mem l hm)) (number + 1)
    refine ⟨d', ?_, ?_⟩
    · rw [List.map_cons, foldlM_cons hline hread, hd']
    · rwa [List.append_assoc, List.singleton_append] at hlinks

/-- Finishing takes away what links implied. -/
theorem HasLinks.finish_eq (h : HasLinks g ls d) (hchildren : ∀ x ∈ g.groups, ∀ id,
    .node id ∈ x.children → id ∈ g.nodes.map (·.id)) :
    d.finish = .ok { g with
      edges := ls.mapIdx fun i l => ⟨'e' :: decimal i, l.source, l.target, l.label⟩ } := by
  obtain ⟨strays, hnodes, hstrays⟩ := h.nodes
  have hstray {id : Text} : d.isStray id = true ↔ id ∈ d.implied := by
    rw [isStray, Bool.and_eq_true, List.contains_iff_mem, Graph.hasGroup_iff, h.groups]
    exact and_iff_left_of_imp fun hid => (h.implied id hid).2
  have hkept : d.graph.nodes.filter (fun n => !d.isStray n.id) = g.nodes := by
    rw [hnodes, List.filter_append, List.filter_eq_self.2, List.filter_eq_nil_iff.2,
      List.append_nil]
    · intro n hn
      simpa using hstray.2 (hstrays n hn)
    · intro n hn
      rw [Bool.not_eq_true', Bool.eq_false_iff, Ne, hstray]
      exact fun hid => (h.implied n.id hid).1 (List.mem_map.2 ⟨n, hn, rfl⟩)
  have hgroups : d.graph.groups.map
      (fun x => { x with children := x.children.filter d.keepsChild }) = g.groups := by
    rw [h.groups]
    refine (List.map_congr_left fun x hx => ?_).trans (List.map_id _)
    have hfilter : x.children.filter d.keepsChild = x.children := by
      refine List.filter_eq_self.2 fun child hchild => ?_
      cases child with
      | group id => rfl
      | node id =>
        rw [keepsChild, Bool.not_eq_true', Bool.eq_false_iff, Ne, hstray]
        exact fun hid => (h.implied id hid).1 (hchildren x hx id hchild)
    rw [hfilter]
    rfl
  have hfinish : d.finish = .ok { d.graph with
      nodes := d.graph.nodes.filter fun n => !d.isStray n.id
      groups := d.graph.groups.map fun x =>
        { x with children := x.children.filter d.keepsChild } } := by
    rw [finish, h.openGroups]
    rfl
  rw [hfinish, hkept, hgroups]
  simp only [h.direction, h.edges]

end Draft

/-! ## What groups list -/

/-- The nodes that entries list are among their nodes. -/
theorem Entries.mem_nodes_of_child {e : Entries} {parent : Option Text} {id : Text}
    (h : .node id ∈ e.children) : id ∈ (e.nodes parent).map (·.id) := by
  induction e with
  | done => exact absurd h List.not_mem_nil
  | node name body next ih =>
    rw [children, List.mem_cons] at h
    cases body <;> simp only [nodes, List.map_cons, List.mem_cons]
    · exact h.imp Child.node.inj ih
    · exact h.imp Child.node.inj ih
  | group name label inner next _ ihnext =>
    rw [children, List.mem_cons] at h
    rw [nodes, List.map_append]
    exact List.mem_append_right _ (ihnext (h.resolve_left Child.noConfusion))

/-- So are the nodes that their groups list. -/
theorem Entries.mem_nodes_of_group {e : Entries} {parent : Option Text} {depth : Nat} {x : Group}
    (hx : x ∈ e.groups parent depth) {id : Text} (h : .node id ∈ x.children) :
    id ∈ (e.nodes parent).map (·.id) := by
  induction e generalizing parent depth with
  | done => exact absurd hx List.not_mem_nil
  | node name body next ih =>
    have hnext := ih hx
    cases body <;> simp only [nodes, List.map_cons, List.mem_cons]
    · exact Or.inr hnext
    · exact Or.inr hnext
  | group name label inner next ihinner ihnext =>
    rw [nodes, List.map_append, List.mem_append]
    rw [groups, List.mem_cons, List.mem_append] at hx
    rcases hx with rfl | hx | hx
    · exact Or.inl (mem_nodes_of_child h)
    · exact Or.inl (ihinner hx)
    · exact Or.inr (ihnext hx)

/-! ## Outlines -/

/-- The header of an outline is a statement. -/
theorem isStatementLine_header (direction : Direction) :
    IsStatementLine ("flowchart ".toList ++ direction.word) where
  head := ⟨'f', _, rfl, by decide, by decide⟩
  last := by
    cases direction <;>
      · rintro c ⟨⟩
        decide
  no_feed := by cases direction <;> decide
  no_comment := by cases direction <;> decide
  no_semicolon := by cases direction <;> decide

theorem readHeader_header (direction : Direction) (line : Nat) :
    readHeader ⟨line, "flowchart ".toList ++ direction.word⟩ = .ok (.start direction) := by
  have hheader : headerDirection? ("flowchart ".toList ++ direction.word) =
      some (some direction.word) := by
    cases direction <;> decide
  simp only [readHeader, hheader, Direction.ofWord?_word]

variable {o : Outline}

/-- Every line of entries is a statement. -/
theorem isStatementLine_of_mem_lines {e : Entries} (hnames : ∀ id ∈ e.names, IsPlainName id)
    (hlabels : ∀ label ∈ e.labels, IsPlainLabel label) :
    ∀ line ∈ e.lines, IsStatementLine line := by
  induction e with
  | done => exact fun line hline => absurd hline List.not_mem_nil
  | node id body next ih =>
    have hid := hnames id List.mem_cons_self
    have hbody := Entries.isPlainLabel_of_mem_body hlabels
    intro line hline
    rcases List.mem_cons.1 hline with rfl | hline
    · exact isStatementLine_nodeLine hid hbody
    · exact ih (fun name hname => hnames name (List.mem_cons_of_mem id hname))
        (fun label hlabel => hlabels label (List.mem_append_right _ hlabel)) line hline
  | group id label inner next ihinner ihnext =>
    have hid := hnames id List.mem_cons_self
    have hlabel := hlabels label List.mem_cons_self
    have hinner := ihinner
      (fun name hname => hnames name (List.mem_cons_of_mem id (List.mem_append_left _ hname)))
      (fun l hl => hlabels l (List.mem_cons_of_mem label (List.mem_append_left _ hl)))
    have hnext := ihnext
      (fun name hname => hnames name (List.mem_cons_of_mem id (List.mem_append_right _ hname)))
      (fun l hl => hlabels l (List.mem_cons_of_mem label (List.mem_append_right _ hl)))
    intro line hline
    rw [Entries.lines, List.mem_cons, List.mem_append, List.mem_cons] at hline
    rcases hline with rfl | hline | rfl | hline
    · exact Draft.isStatementLine_subgraph hid hlabel
    · exact hinner line hline
    · exact Draft.isStatementLine_end
    · exact hnext line hline

/-- Every line of a readable outline is a statement. -/
theorem Outline.IsReadable.isStatementLine (h : o.IsReadable) :
    ∀ line ∈ ("flowchart ".toList ++ o.direction.word) :: (o.entries.lines ++ o.links.map (·.line)),
      IsStatementLine line := by
  intro line hline
  rw [List.mem_cons, List.mem_append] at hline
  rcases hline with rfl | hline | hline
  · exact isStatementLine_header o.direction
  · exact isStatementLine_of_mem_lines h.names_plain h.labels_plain line hline
  · obtain ⟨l, hl, rfl⟩ := List.mem_map.1 hline
    obtain ⟨hsource, htarget⟩ := h.ends_named l hl
    refine isStatementLine_line (h.names_plain _ hsource).isWord (h.names_plain _ htarget).isWord ?_
    intro label hlabel
    have hplain := (h.link_labels_plain l hl label hlabel).1
    exact ⟨hplain.no_mark.1, hplain.no_mark.2.1⟩

/-- The graph of an outline, before its links. -/
def Outline.entryGraph (o : Outline) : Graph :=
  (Draft.start o.direction).graph.withEntries none 0 o.entries

theorem Outline.graph_eq (o : Outline) : o.graph = { o.entryGraph with
    edges := o.links.mapIdx fun i l => ⟨'e' :: decimal i, l.source, l.target, l.label⟩ } := by
  simp [graph, entryGraph, Graph.withEntries, Draft.start, Graph.empty, numberNodes, numberGroups]

theorem Outline.mem_ids_entryGraph {id : Text} : id ∈ o.entryGraph.ids ↔ id ∈ o.entries.names := by
  rw [entryGraph, Graph.mem_ids_withEntries]
  exact or_iff_right List.not_mem_nil

/-- The groups of an outline list nodes of the outline. -/
theorem Outline.mem_nodes_of_child {x : Group} (hx : x ∈ o.entryGraph.groups) {id : Text}
    (h : .node id ∈ x.children) : id ∈ o.entryGraph.nodes.map (·.id) := by
  have hgroups : o.entryGraph.groups = numberGroups 0 (o.entries.groups none 0) := by
    simp [entryGraph, Graph.withEntries, Draft.start, Graph.empty]
  have hchildren : x.children ∈ (o.entries.groups none 0).map (·.children) := by
    rw [← map_numberGroups (·.children) (fun _ _ => rfl) 0, ← hgroups]
    exact List.mem_map.2 ⟨x, hx, rfl⟩
  obtain ⟨y, hy, hyx⟩ := List.mem_map.1 hchildren
  rw [entryGraph, Graph.map_id_nodes_withEntries]
  exact List.mem_append_right _ (Entries.mem_nodes_of_group hy (hyx ▸ h))

/-- Reading the text of a readable outline gives its graph. -/
theorem ofText_text (h : o.IsReadable) : Flowchart.ofText o.text = .ok ⟨o.graph, none⟩ := by
  have hline := h.isStatementLine
  have hlines : lines o.text =
      ("flowchart ".toList ++ o.direction.word) :: (o.entries.lines ++ o.links.map (·.line)) :=
    lines_joinWith (fun l hl => (hline l hl).no_feed) (fun l hl => (hline l hl).ne_nil)
      fun l hl => (hline l hl).getLast?_ne
  have hawaits : (Draft.start o.direction).Awaits o.entries :=
    ⟨h.names_nodup, fun id _ => List.not_mem_nil, rfl,
      fun p hp => absurd hp.symm (Option.some_ne_none p)⟩
  have hempty : Draft.HasLinks o.entryGraph []
      ((Draft.start o.direction).withEntries o.entries) :=
    ⟨rfl, rfl, rfl, rfl,
      ⟨[], (List.append_nil _).symm, fun n hn => absurd hn List.not_mem_nil⟩,
      fun id hid => absurd hid List.not_mem_nil⟩
  obtain ⟨d, hd, hlinks⟩ := Draft.foldlM_links hempty
    (fun l hl => (h.ends_named l hl).imp Outline.mem_ids_entryGraph.2 Outline.mem_ids_entryGraph.2)
    (fun l hl => (h.ends_named l hl).imp (h.names_plain _) (h.names_plain _)) h.link_labels_plain
    (2 + o.entries.lines.length)
  have hdraft : draftOf (statements o.text) = .ok d := by
    rw [statements, hlines, statementsFrom_cons (hline _ List.mem_cons_self), draftOf,
      readHeader_header]
    exact (Draft.foldlM_entries h.names_plain h.labels_plain hawaits 2 _).trans hd
  have hfinish := hlinks.finish_eq fun x hx id => Outline.mem_nodes_of_child hx
  have hsettings : initialSettings o.text = none := by
    rw [initialSettings, hlines]
    exact lastSettings_eq hline
  rw [Flowchart.ofText, hdraft]
  show (d.finish >>= fun graph => pure (Flowchart.mk graph (initialSettings o.text))) = _
  rw [hfinish, hsettings, o.graph_eq]
  rfl

/-- A group with an arrow and a semicolon in its label, a hexagon with a bracket and a comment,
and a link with a bar between them. -/
theorem ofText_text_of_marks_in_labels : ∃ o : Outline, o.IsReadable ∧ o.links ≠ [] ∧
    Flowchart.ofText o.text = .ok ⟨o.graph, none⟩ := by
  have hreadable : Outline.IsReadable ⟨.leftRight,
      .group "g".toList "a --> b; c".toList
        (.node "x".toList (some ⟨.hexagon, "]\x7d %% d".toList⟩) .done) .done,
      [⟨"x".toList, "g".toList, some "p | q".toList⟩]⟩ := by
    have hplain (id : Text) (hid : id = "g".toList ∨ id = "x".toList) : IsPlainName id := by
      rcases hid with rfl | rfl <;>
        exact ⟨by decide, by decide, by decide, by decide, by decide⟩
    have hlabel (label : Text) (h : label = "a --> b; c".toList ∨ label = "]\x7d %% d".toList ∨
        label = "p | q".toList) : IsPlainLabel label := by
      rcases h with rfl | rfl | rfl <;> exact ⟨by decide, by decide, by decide, by decide⟩
    exact
      { names_nodup := by decide
        names_plain := fun id hid => hplain id (by simpa [Entries.names] using hid)
        labels_plain := fun label h => hlabel label
          (by simpa [Entries.labels, or_assoc] using Or.inl h)
        ends_named := by decide
        link_labels_plain := by
          rintro l hl label h
          cases List.mem_singleton.1 hl
          cases h
          exact ⟨hlabel _ (Or.inr (Or.inr rfl)), by decide⟩ }
  exact ⟨_, hreadable, List.cons_ne_nil _ _, ofText_text hreadable⟩

end Swimlane
