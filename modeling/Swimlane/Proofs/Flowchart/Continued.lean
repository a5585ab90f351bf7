import Swimlane.Proofs.Flowchart.Consistent

/-!
# Drafts that go on

A draft all of whose groups are closed is not revised by the statements that follow.  They
add edges, groups and nodes behind those that are there; of what is there they may say more
about a node, and put a node without a group into a new one.  `Draft.Continues` states this of
two drafts, and one case a kind of step carries it along.
-/

namespace Swimlane

/-- The second node stands where the first stood, and in its group if that had one. -/
structure Node.StaysAs (n m : Node) : Prop where
  id : m.id = n.id
  order : m.order = n.order
  group : ∀ p, n.groupId = some p → m.groupId = some p

theorem Node.StaysAs.refl (n : Node) : n.StaysAs n := ⟨rfl, rfl, fun _ h => h⟩

theorem Node.StaysAs.trans {n m k : Node} (hnm : n.StaysAs m) (hmk : m.StaysAs k) : n.StaysAs k :=
  ⟨hmk.id.trans hnm.id, hmk.order.trans hnm.order, fun p hp => hmk.group p (hnm.group p hp)⟩

namespace Draft

/-- The second draft has what the first has, and anything new behind it; the groups of the
first are closed. -/
structure Continues (d d' : Draft) : Prop where
  edges : d.graph.edges <+: d'.graph.edges
  groups : d.graph.groups <+: d'.graph.groups
  opened : ∀ x ∈ d'.openGroups, x.id ∉ d.graph.groups.map (·.id)
  nodes : ∃ before after, d'.graph.nodes = before ++ after ∧
    List.Forall₂ Node.StaysAs d.graph.nodes before

variable {d d' : Draft}

/-- A draft continues itself. -/
theorem Continues.refl (hopen : d.openGroups = []) : d.Continues d where
  edges := List.prefix_refl _
  groups := List.prefix_refl _
  opened _ hx := absurd (hopen ▸ hx) List.not_mem_nil
  nodes := ⟨d.graph.nodes, [], (List.append_nil _).symm,
    List.forall₂_same.2 fun n _ => Node.StaysAs.refl n⟩

/-! ## What a step leaves as it is -/

/-- A child that is listed in another group leaves the first groups as they are. -/
theorem prefix_addChild {groups : List Group} {g : Graph} (h : groups <+: g.groups) {id : Text}
    (hid : id ∉ groups.map (·.id)) (child : Child) : groups <+: (g.addChild id child).groups := by
  obtain ⟨more, hmore⟩ := h
  have hsame : groups.map (fun x =>
      if x.id = id then { x with children := x.children ++ [child] } else x) = groups := by
    refine (List.map_congr_left fun x hx => ?_).trans (List.map_id groups)
    exact if_neg fun hsame => hid (List.mem_map.2 ⟨x, hx, hsame⟩)
  rw [Graph.addChild, ← hmore, List.map_append, hsame]
  exact List.prefix_append _ _

/-- Nodes that stayed where they were stay there under a change that moves none of them. -/
theorem forall₂_staysAs_map {nodes before : List Node} {change : Node → Node}
    (h : List.Forall₂ Node.StaysAs nodes before) (hchange : ∀ m ∈ before, m.StaysAs (change m)) :
    List.Forall₂ Node.StaysAs nodes (before.map change) := by
  induction h with
  | nil => exact .nil
  | cons hfirst _ ih =>
    exact .cons (hfirst.trans (hchange _ List.mem_cons_self))
      (ih fun m hm => hchange m (List.mem_cons_of_mem _ hm))

/-- A change that moves no node leaves the first nodes their places. -/
theorem Continues.map_nodes (h : d.Continues d') {change : Node → Node}
    (hchange : ∀ m ∈ d'.graph.nodes, m.StaysAs (change m)) : ∃ before after,
      d'.graph.nodes.map change = before ++ after ∧
        List.Forall₂ Node.StaysAs d.graph.nodes before := by
  obtain ⟨before, after, hnodes, hstay⟩ := h.nodes
  rw [hnodes] at hchange ⊢
  exact ⟨before.map change, after.map change, List.map_append,
    forall₂_staysAs_map hstay fun m hm => hchange m (List.mem_append_left _ hm)⟩

/-- The groups of a draft that was continued are known. -/
theorem Continues.group_ids_subset (h : d.Continues d') :
    d.graph.groups.map (·.id) ⊆ d'.graph.groups.map (·.id) :=
  (h.groups.map (·.id)).subset

/-- Describing a node or adding one continues a draft. -/
theorem Continues.addNode (h : d.Continues d') (id : Text) (r : NodeRef) :
    d.Continues (d'.addNode id r) := by
  refine ⟨?_, ?_, ?_, ?_⟩
  · rw [edges_addNode]
    exact h.edges
  · rw [groups_addNode]
    exact h.groups
  · rw [openGroups_addNode]
    exact h.opened
  · unfold Draft.addNode
    split
    · refine h.map_nodes fun m _ => ?_
      split
      · exact ⟨describe_id r m, describe_order r m, fun p hp => by rw [describe_groupId, hp]⟩
      · exact Node.StaysAs.refl m
    · obtain ⟨before, after, hnodes, hstay⟩ := h.nodes
      have hadded (n : Node) : d'.graph.nodes ++ [n] = before ++ (after ++ [n]) := by
        rw [hnodes, List.append_assoc]
      exact ⟨before, _, hadded _, hstay⟩

/-- Which nodes are implied makes no difference. -/
theorem Continues.markImplied (h : d.Continues d') (isNew declares : Bool) (id : Text) :
    d.Continues (d'.markImplied isNew declares id) := by
  refine ⟨?_, ?_, ?_, ?_⟩
  · rw [graph_markImplied]
    exact h.edges
  · rw [graph_markImplied]
    exact h.groups
  · rw [openGroups_markImplied]
    exact h.opened
  · rw [graph_markImplied]
    exact h.nodes

/-- Putting a node without a group into an open one continues a draft. -/
theorem Continues.claim (h : d.Continues d') (hids : (d'.graph.nodes.map (·.id)).Nodup)
    (id : Text) : d.Continues (d'.claim id) := by
  rcases d'.claim_cases id with hsame | ⟨x, outer, n, hopen, hn, rfl, hfree, hclaim⟩
  · rw [hsame]
    exact h
  rw [hclaim]
  have hx : x.id ∉ d.graph.groups.map (·.id) := h.opened x (hopen ▸ List.mem_cons_self)
  refine ⟨h.edges, prefix_addChild h.groups hx _, h.opened, h.map_nodes fun m hm => ?_⟩
  split
  · next hid =>
    -- no other node has the identifier, and this one has no group to lose
    rw [List.inj_on_of_nodup_map hids hm hn hid]
    exact ⟨rfl, rfl, fun p hp => absurd (hfree.symm.trans hp) (Option.some_ne_none p).symm⟩
  · exact Node.StaysAs.refl m

/-- Opening a group with a free name continues a draft. -/
theorem Continues.enter (h : d.Continues d') (line : Nat) {name : Text} (label : Text)
    (hname : name ∉ d'.graph.groups.map (·.id)) : d.Continues (d'.enter line name label) := by
  refine ⟨?_, ?_, ?_, ?_⟩
  · rw [edges_enter]
    exact h.edges
  · unfold Draft.enter innermost
    cases hopen : d'.openGroups with
    | nil => exact h.groups.trans (List.prefix_append _ _)
    | cons x outer =>
      have hx : x.id ∉ d.graph.groups.map (·.id) := h.opened x (hopen ▸ List.mem_cons_self)
      exact (prefix_addChild h.groups hx _).trans (List.prefix_append _ _)
  · intro x hx
    rw [openGroups_enter] at hx
    rcases List.mem_cons.1 hx with rfl | hx
    · exact fun hmem => hname (h.group_ids_subset hmem)
    · exact h.opened x hx
  · rw [nodes_enter]
    exact h.nodes

/-! ## Sequences of steps -/

/-- A step continues a draft. -/
theorem Continues.step {d'' : Draft} (hstep : Step d' d'') (hsound : d'.IsSound)
    (h : d.Continues d') : d.Continues d'' := by
  cases hstep with
  | turn direction => exact ⟨h.edges, h.groups, h.opened, h.nodes⟩
  | close x outer hopen =>
    exact ⟨h.edges, h.groups, fun y hy => h.opened y (hopen ▸ List.mem_cons_of_mem x hy), h.nodes⟩
  | enter line name label hname => exact h.enter line label hname
  | mention asStatement id r =>
    have hids := ((hsound.addNode id r).markImplied (!d'.graph.hasNode id)
      (asStatement || r.hasBody) id).graph.node_ids
    exact ((h.addNode id r).markImplied _ _ id).claim hids id
  | addEdge label source target =>
    exact ⟨h.edges.trans (List.prefix_append _ _), h.groups, h.opened, h.nodes⟩

/-- Any sequence of steps continues a draft whose groups are closed. -/
theorem Steps.continues (h : Steps d d') (hsound : d.IsSound) (hopen : d.openGroups = []) :
    d.Continues d' := by
  have hboth : d'.IsSound ∧ d.Continues d' :=
    h.keep (P := fun d' => d'.IsSound ∧ d.Continues d')
      (fun _ _ hstep hd => ⟨hd.1.step hstep, hd.2.step hstep hd.1⟩)
      ⟨hsound, Continues.refl hopen⟩
  exact hboth.2

end Draft

end Swimlane
