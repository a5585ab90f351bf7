import Swimlane.Proofs.Flowchart.Steps
import Swimlane.Proofs.Passes

/-!
# Drafts are consistent

The nesting of a draft is recorded several times over: a group names its parent and its
depth, the parent lists the group, a node names its group, and the group lists the node;
and the stack of open groups has to agree with all of them.  `Draft.IsSound` is the
invariant that ties these together.  It is stated through the *frames* of the groups, that
is, the groups without their children, because most steps only change lists of children.
-/

namespace Swimlane

/-! ## Frames -/

/-- A group without its children. -/
def Group.frame (x : Group) : Group := { x with children := [] }

/-- The groups of a graph without their children. -/
def Graph.frames (g : Graph) : List Group := g.groups.map Group.frame

/-- Are groups numbered as they stand, each inside an earlier one that is one level up, or at
the top? -/
structure IsHierarchy (groups : List Group) : Prop where
  ids_nodup : (groups.map (·.id)).Nodup
  orders : groups.map (·.order) = List.range groups.length
  parent : ∀ x ∈ groups, ∀ p, x.parentId = some p →
    ∃ y ∈ groups, y.id = p ∧ y.order < x.order ∧ x.depth = y.depth + 1
  top : ∀ x ∈ groups, x.parentId = none → x.depth = 0

/-- A hierarchy goes on with a group at the top, or inside one of its groups. -/
theorem IsHierarchy.append {groups : List Group} (h : IsHierarchy groups) {x : Group}
    (hid : x.id ∉ groups.map (·.id)) (horder : x.order = groups.length)
    (hparent : ∀ p, x.parentId = some p → ∃ y ∈ groups, y.id = p ∧ x.depth = y.depth + 1)
    (htop : x.parentId = none → x.depth = 0) : IsHierarchy (groups ++ [x]) where
  ids_nodup := by
    rw [List.map_append, List.map_singleton]
    exact nodup_append_singleton h.ids_nodup hid
  orders := by
    rw [List.map_append, List.map_singleton, h.orders, horder, List.length_append,
      List.length_singleton, List.range_succ]
  parent z hz p hp := by
    rcases List.mem_append.1 hz with hz | hz
    · obtain ⟨y, hy, hyp, horders, hdepth⟩ := h.parent z hz p hp
      exact ⟨y, List.mem_append_left _ hy, hyp, horders, hdepth⟩
    · rw [List.mem_singleton.1 hz] at hp ⊢
      obtain ⟨y, hy, hyp, hdepth⟩ := hparent p hp
      have hrange : y.order ∈ groups.map (·.order) := List.mem_map.2 ⟨y, hy, rfl⟩
      rw [h.orders, List.mem_range] at hrange
      exact ⟨y, List.mem_append_left _ hy, hyp, by omega, hdepth⟩
  top z hz hp := by
    rcases List.mem_append.1 hz with hz | hz
    · exact h.top z hz hp
    · rw [List.mem_singleton.1 hz] at hp ⊢
      exact htop hp

namespace Graph

theorem map_id_frames (g : Graph) : g.frames.map (·.id) = g.groups.map (·.id) := by
  simp [frames, Group.frame, Function.comp_def]

theorem map_parentage_frames (g : Graph) :
    g.frames.map (fun x => (x.id, x.parentId)) = g.parentage := by
  simp [frames, Group.frame, parentage, Function.comp_def]

@[simp] theorem length_frames (g : Graph) : g.frames.length = g.groups.length := by
  simp [frames]

/-- Listing a child keeps the frames. -/
@[simp] theorem frames_addChild (g : Graph) (id : Text) (child : Child) :
    (g.addChild id child).frames = g.frames :=
  map_groups_addChild Group.frame (fun _ _ => rfl) g id child

@[simp] theorem parentage_addChild (g : Graph) (id : Text) (child : Child) :
    (g.addChild id child).parentage = g.parentage := by
  rw [← map_parentage_frames, frames_addChild, map_parentage_frames]

/-- Putting a node into a group keeps the frames. -/
@[simp] theorem frames_putInto (g : Graph) (id groupId : Text) :
    (g.putInto id groupId).frames = g.frames :=
  frames_addChild _ groupId (.node id)

@[simp] theorem parentage_putInto (g : Graph) (id groupId : Text) :
    (g.putInto id groupId).parentage = g.parentage :=
  parentage_addChild _ groupId (.node id)

/-! ## Consistent graphs -/

/-- Do the records of the nesting agree, and are nodes and edges what the readers make? -/
structure IsConsistent (g : Graph) : Prop where
  node_ids : (g.nodes.map (·.id)).Nodup
  hierarchy : IsHierarchy g.frames
  group_known : ∀ id p, (id, some p) ∈ g.memberships → p ∈ g.groups.map (·.id)
  children_nodup : ∀ x ∈ g.groups, x.children.Nodup
  lists_group : ∀ x ∈ g.groups, ∀ id, .group id ∈ x.children ↔ (id, some x.id) ∈ g.parentage
  lists_node : ∀ x ∈ g.groups, ∀ id, .node id ∈ x.children ↔ (id, some x.id) ∈ g.memberships
  types : ∀ n ∈ g.nodes,
    n.componentType = (n.shape.map Shape.componentType).getD defaultComponentType
  edge_ids : g.edges.map (·.id) = (List.range g.edges.length).map ('e' :: decimal ·)

theorem IsConsistent.group_ids {g : Graph} (h : g.IsConsistent) :
    (g.groups.map (·.id)).Nodup := by
  rw [← map_id_frames]
  exact h.hierarchy.ids_nodup

/-- A parent is a group of the graph. -/
theorem IsConsistent.parent_known {g : Graph} (h : g.IsConsistent) {id p : Text}
    (hp : (id, some p) ∈ g.parentage) : p ∈ g.groups.map (·.id) := by
  rw [← map_parentage_frames] at hp
  obtain ⟨x, hx, hxp⟩ := List.mem_map.1 hp
  obtain ⟨y, hy, rfl, -⟩ := h.hierarchy.parent x hx p (Prod.mk.inj hxp).2
  rw [← map_id_frames]
  exact List.mem_map.2 ⟨y, hy, rfl⟩

/-- A node has one membership. -/
theorem IsConsistent.membership_unique {g : Graph} (h : g.IsConsistent) {id : Text}
    {p q : Option Text} (hp : (id, p) ∈ g.memberships) (hq : (id, q) ∈ g.memberships) : p = q := by
  have hids : (g.memberships.map (·.1)).Nodup := by
    rw [map_fst_memberships]
    exact h.node_ids
  exact (Prod.mk.inj (List.inj_on_of_nodup_map hids hp hq rfl)).2

/-- A group has one parent. -/
theorem IsConsistent.parentage_unique {g : Graph} (h : g.IsConsistent) {x : Group}
    (hx : x ∈ g.groups) {p : Option Text} (hp : (x.id, p) ∈ g.parentage) : p = x.parentId := by
  obtain ⟨y, hy, hpair⟩ := List.mem_map.1 hp
  rw [Prod.mk.injEq] at hpair
  rw [← hpair.2, List.inj_on_of_nodup_map h.group_ids hy hx hpair.1]

/-- The parent of a group comes before it and is one level up. -/
theorem IsConsistent.parent_of {g : Graph} (h : g.IsConsistent) {x : Group} (hx : x ∈ g.groups)
    {p : Text} (hp : x.parentId = some p) :
    ∃ y ∈ g.groups, y.id = p ∧ y.order < x.order ∧ x.depth = y.depth + 1 := by
  obtain ⟨z, hz, hid, horder, hdepth⟩ :=
    h.hierarchy.parent x.frame (List.mem_map.2 ⟨x, hx, rfl⟩) p hp
  obtain ⟨y, hy, rfl⟩ := List.mem_map.1 hz
  exact ⟨y, hy, hid, horder, hdepth⟩

/-- Groups are numbered as they stand. -/
theorem IsConsistent.order_of_getElem? {g : Graph} (h : g.IsConsistent) {i : Nat} {x : Group}
    (hx : g.groups[i]? = some x) : x.order = i := by
  obtain ⟨hi, rfl⟩ := List.getElem?_eq_some_iff.1 hx
  have hmap := congrArg (·[i]?) h.hierarchy.orders
  simpa [frames, Group.frame, hi] using hmap

/-- A graph stays consistent when a node without a group is put into one. -/
theorem IsConsistent.putInto {g : Graph} (h : g.IsConsistent) {n : Node} (hn : n ∈ g.nodes)
    (hfree : n.groupId = none) {groupId : Text} (hgroup : groupId ∈ g.groups.map (·.id)) :
    (g.putInto n.id groupId).IsConsistent where
  node_ids := by
    rw [map_nodes_putInto (·.id) (fun _ _ => rfl)]
    exact h.node_ids
  hierarchy := by
    rw [frames_putInto]
    exact h.hierarchy
  group_known i p hp := by
    rw [← map_id_frames, frames_putInto, map_id_frames]
    rcases (mem_memberships_putInto h.node_ids hn hfree groupId i p).1 hp with hp | ⟨-, rfl⟩
    · exact h.group_known i p hp
    · exact hgroup
  children_nodup x hx := by
    obtain ⟨y, hy, rfl⟩ := mem_groups_putInto.1 hx
    have hunlisted : .node n.id ∉ y.children := by
      intro hlisted
      have hself : (n.id, none) ∈ g.memberships := List.mem_map.2 ⟨n, hn, by rw [hfree]⟩
      exact Option.some_ne_none y.id
        (h.membership_unique ((h.lists_node y hy n.id).1 hlisted) hself)
    show List.Nodup (if y.id = groupId then _ else _)
    split
    · exact nodup_append_singleton (h.children_nodup y hy) hunlisted
    · exact h.children_nodup y hy
  lists_group x hx i := by
    obtain ⟨y, hy, rfl⟩ := mem_groups_putInto.1 hx
    show Child.group i ∈ (if y.id = groupId then _ else _) ↔ _
    rw [parentage_putInto, ← h.lists_group y hy i]
    split <;> simp
  lists_node x hx i := by
    obtain ⟨y, hy, rfl⟩ := mem_groups_putInto.1 hx
    show Child.node i ∈ (if y.id = groupId then _ else _) ↔ _
    rw [mem_memberships_putInto h.node_ids hn hfree, ← h.lists_node y hy i]
    split
    · next hy' => simp [hy']
    · next hy' => simp [hy']
  types m hm := by
    obtain ⟨m', hm', rfl⟩ := List.mem_map.1 hm
    split
    · exact h.types m' hm'
    · exact h.types m' hm'
  edge_ids := h.edge_ids

end Graph

namespace Draft

/-! ## The invariant -/

/-- Is the graph consistent, are the open groups nested in each other, and do edges join
nodes? -/
structure IsSound (d : Draft) : Prop where
  graph : d.graph.IsConsistent
  node_orders : d.graph.nodes.map (·.order) = List.range d.graph.nodes.length
  stack : ∀ x outer, (x :: outer) <:+ d.openGroups →
    ∃ y ∈ d.graph.frames, y.id = x.id ∧ y.depth = outer.length
  ends : ∀ e ∈ d.graph.edges, e.source ∈ d.graph.nodes.map (·.id) ∧
    e.target ∈ d.graph.nodes.map (·.id)

/-- An empty draft is sound. -/
theorem isSound_start (direction : Direction) : (start direction).IsSound where
  graph :=
    { node_ids := List.nodup_nil
      hierarchy := ⟨List.nodup_nil, rfl, fun _ h => absurd h List.not_mem_nil,
        fun _ h => absurd h List.not_mem_nil⟩
      group_known := fun _ _ h => absurd h List.not_mem_nil
      children_nodup := fun _ h => absurd h List.not_mem_nil
      lists_group := fun _ h => absurd h List.not_mem_nil
      lists_node := fun _ h => absurd h List.not_mem_nil
      types := fun _ h => absurd h List.not_mem_nil
      edge_ids := rfl }
  node_orders := rfl
  stack := fun x outer h => absurd (List.suffix_nil.1 h) (List.cons_ne_nil x outer)
  ends := fun _ h => absurd h List.not_mem_nil

/-- The open groups are groups of the graph. -/
theorem IsSound.open_known {d : Draft} (h : d.IsSound) {x : OpenGroup} {outer : List OpenGroup}
    (hopen : d.openGroups = x :: outer) : x.id ∈ d.graph.groups.map (·.id) := by
  obtain ⟨y, hy, hid, -⟩ := h.stack x outer (hopen ▸ List.suffix_refl _)
  rw [← Graph.map_id_frames, ← hid]
  exact List.mem_map.2 ⟨y, hy, rfl⟩

/-! ## Mentioning a node -/

@[simp] theorem groups_addNode (d : Draft) (id : Text) (r : NodeRef) :
    (d.addNode id r).graph.groups = d.graph.groups := by
  unfold addNode
  split <;> rfl

@[simp] theorem edges_addNode (d : Draft) (id : Text) (r : NodeRef) :
    (d.addNode id r).graph.edges = d.graph.edges := by
  unfold addNode
  split <;> rfl

theorem describe_groupId (r : NodeRef) (n : Node) : (describe r n).groupId = n.groupId := by
  unfold describe
  split <;> rfl

theorem describe_order (r : NodeRef) (n : Node) : (describe r n).order = n.order := by
  unfold describe
  split <;> rfl

/-- A reference with a shape sets the type, and one without leaves both as they are. -/
theorem describe_type (r : NodeRef) {n : Node}
    (h : n.componentType = (n.shape.map Shape.componentType).getD defaultComponentType) :
    (describe r n).componentType =
      ((describe r n).shape.map Shape.componentType).getD defaultComponentType := by
  unfold describe
  split
  · rfl
  · exact h

/-- A node that is new has no group yet, and one that is not keeps its own. -/
theorem memberships_addNode (d : Draft) (id : Text) (r : NodeRef) :
    (d.addNode id r).graph.memberships =
      if d.graph.hasNode id then d.graph.memberships else d.graph.memberships ++ [(id, none)] := by
  unfold addNode
  split
  · exact Graph.map_nodes_changeNode (fun n => (n.id, n.groupId))
      (fun n => by rw [describe_id, describe_groupId]) d.graph id
  · simp [Graph.memberships, describe_id, describe_groupId]

theorem map_order_addNode (d : Draft) (id : Text) (r : NodeRef) :
    (d.addNode id r).graph.nodes.map (·.order) =
      if d.graph.hasNode id then d.graph.nodes.map (·.order)
      else d.graph.nodes.map (·.order) ++ [d.graph.nodes.length] := by
  unfold addNode
  split
  · exact Graph.map_nodes_changeNode (·.order) (describe_order r) d.graph id
  · simp [describe_order]

/-- The type of a node of a draft is that of its shape, also after a reference. -/
theorem types_addNode {d : Draft} (h : ∀ n ∈ d.graph.nodes,
    n.componentType = (n.shape.map Shape.componentType).getD defaultComponentType)
    (id : Text) (r : NodeRef) : ∀ n ∈ (d.addNode id r).graph.nodes,
    n.componentType = (n.shape.map Shape.componentType).getD defaultComponentType := by
  intro n hn
  unfold addNode at hn
  split at hn
  · obtain ⟨m, hm, rfl⟩ := List.mem_map.1 hn
    split
    · exact describe_type r (h m hm)
    · exact h m hm
  · rcases List.mem_append.1 hn with hn | hn
    · exact h n hn
    · rw [List.mem_singleton.1 hn]
      exact describe_type r rfl

theorem ids_subset_addNode (d : Draft) (id : Text) (r : NodeRef) :
    d.graph.nodes.map (·.id) ⊆ (d.addNode id r).graph.nodes.map (·.id) := by
  rw [map_id_addNode]
  split
  · exact List.Subset.refl _
  · exact List.subset_append_left _ _

/-- Nothing changes for a group when a node without a group is added. -/
theorem mem_memberships_addNode {d : Draft} {id : Text} {r : NodeRef} {i p : Text} :
    (i, some p) ∈ (d.addNode id r).graph.memberships ↔ (i, some p) ∈ d.graph.memberships := by
  rw [memberships_addNode]
  split
  · rfl
  · simp

theorem IsSound.isConsistent_addNode {d : Draft} (h : d.IsSound) (id : Text) (r : NodeRef) :
    (d.addNode id r).graph.IsConsistent where
  node_ids := by
    rw [map_id_addNode]
    split
    · exact h.graph.node_ids
    · next hnew =>
      rw [Graph.hasNode_iff] at hnew
      exact nodup_append_singleton h.graph.node_ids hnew
  hierarchy := by
    rw [Graph.frames, groups_addNode]
    exact h.graph.hierarchy
  group_known i p hp := by
    rw [groups_addNode]
    exact h.graph.group_known i p (mem_memberships_addNode.1 hp)
  children_nodup := by
    rw [groups_addNode]
    exact h.graph.children_nodup
  lists_group := by
    rw [Graph.parentage, groups_addNode]
    exact h.graph.lists_group
  lists_node x hx i := by
    rw [groups_addNode] at hx
    rw [mem_memberships_addNode]
    exact h.graph.lists_node x hx i
  types := types_addNode h.graph.types id r
  edge_ids := by
    rw [edges_addNode]
    exact h.graph.edge_ids

/-- Adding a node or describing one keeps a draft sound. -/
theorem IsSound.addNode {d : Draft} (h : d.IsSound) (id : Text) (r : NodeRef) :
    (d.addNode id r).IsSound where
  graph := h.isConsistent_addNode id r
  node_orders := by
    have horders := map_order_addNode d id r
    have hlength := congrArg List.length horders
    rw [horders]
    rw [List.length_map] at hlength
    split
    · next hold => rw [hlength, if_pos hold, List.length_map, h.node_orders]
    · next hnew =>
      rw [hlength, if_neg hnew, List.length_append, List.length_map, List.length_singleton,
        List.range_succ, h.node_orders]
  stack := by
    rw [openGroups_addNode, Graph.frames, groups_addNode]
    exact h.stack
  ends e he := by
    rw [edges_addNode] at he
    exact ⟨ids_subset_addNode d id r (h.ends e he).1, ids_subset_addNode d id r (h.ends e he).2⟩

/-- Which nodes are implied has no part in the invariant. -/
theorem IsSound.markImplied {d : Draft} (h : d.IsSound) (isNew declares : Bool) (id : Text) :
    (d.markImplied isNew declares id).IsSound := by
  refine ⟨?_, ?_, ?_, ?_⟩
  · rw [graph_markImplied]
    exact h.graph
  · rw [graph_markImplied]
    exact h.node_orders
  · rw [graph_markImplied, openGroups_markImplied]
    exact h.stack
  · rw [graph_markImplied]
    exact h.ends

/-- A claim by an open group keeps a draft sound. -/
theorem IsSound.claim {d : Draft} (h : d.IsSound) (id : Text) : (d.claim id).IsSound := by
  rcases d.claim_cases id with hsame | ⟨x, outer, n, hopen, hn, rfl, hfree, hclaim⟩
  · rw [hsame]
    exact h
  rw [hclaim]
  have hids : (d.graph.putInto n.id x.id).nodes.map (·.id) = d.graph.nodes.map (·.id) :=
    Graph.map_nodes_putInto (·.id) (fun _ _ => rfl) d.graph n.id x.id
  refine ⟨h.graph.putInto hn hfree (h.open_known hopen), ?_, ?_, ?_⟩
  · have hlength := congrArg List.length hids
    rw [List.length_map, List.length_map] at hlength
    rw [Graph.map_nodes_putInto (·.order) (fun _ _ => rfl), hlength]
    exact h.node_orders
  · intro y outer' hsuffix
    rw [Graph.frames_putInto]
    exact h.stack y outer' hsuffix
  · intro e he
    rw [hids]
    exact h.ends e he

/-- Mentioning a node keeps a draft sound. -/
theorem IsSound.mention {d : Draft} (h : d.IsSound) (asStatement : Bool) (id : Text)
    (r : NodeRef) : (d.mention asStatement id r).IsSound :=
  ((h.addNode id r).markImplied _ _ id).claim id

/-! ## Opening and closing a group -/

/-- The groups after one was opened: the innermost open one lists it. -/
theorem mem_groups_enter {d : Draft} {line : Nat} {name label : Text} {x : Group} :
    x ∈ (d.enter line name label).graph.groups ↔
      (∃ y ∈ d.graph.groups, x = { y with
        children :=
          if d.innermost = some y.id then y.children ++ [.group name] else y.children }) ∨
      x = d.newGroup name label := by
  unfold enter
  cases d.innermost with
  | none => simp
  | some parent =>
    simp only [List.mem_append, Graph.mem_groups_addChild, List.mem_singleton, Option.some.injEq,
      eq_comm (a := parent)]

theorem frames_enter (d : Draft) (line : Nat) (name label : Text) :
    (d.enter line name label).graph.frames = d.graph.frames ++ [d.newGroup name label] := by
  unfold enter
  cases d.innermost with
  | none =>
    rw [Graph.frames, List.map_append]
    rfl
  | some parent =>
    have hframes := Graph.frames_addChild d.graph parent (.group name)
    simp only [Graph.frames, List.map_append, List.map_singleton] at *
    rw [hframes]
    rfl

theorem edges_enter (d : Draft) (line : Nat) (name label : Text) :
    (d.enter line name label).graph.edges = d.graph.edges := by
  unfold enter
  cases d.innermost <;> rfl

theorem openGroups_enter (d : Draft) (line : Nat) (name label : Text) :
    (d.enter line name label).openGroups = ⟨name, line⟩ :: d.openGroups := rfl

theorem map_id_groups_enter (d : Draft) (line : Nat) (name label : Text) :
    (d.enter line name label).graph.groups.map (·.id) = d.graph.groups.map (·.id) ++ [name] := by
  rw [← Graph.map_id_frames, frames_enter, List.map_append, Graph.map_id_frames]
  rfl

/-- The parent of the new group is the innermost open one. -/
theorem parentage_enter (d : Draft) (line : Nat) (name label : Text) :
    (d.enter line name label).graph.parentage = d.graph.parentage ++ [(name, d.innermost)] := by
  rw [← Graph.map_parentage_frames, frames_enter, List.map_append, Graph.map_parentage_frames]
  rfl

theorem memberships_enter (d : Draft) (line : Nat) (name label : Text) :
    (d.enter line name label).graph.memberships = d.graph.memberships := by
  rw [Graph.memberships, nodes_enter, Graph.memberships]

/-- The innermost open group is a group, and as deep as all open groups but itself. -/
theorem IsSound.innermost_known {d : Draft} (h : d.IsSound) {p : Text} (hp : d.innermost = some p) :
    ∃ y ∈ d.graph.frames, y.id = p ∧ d.openGroups.length = y.depth + 1 := by
  cases hstack : d.openGroups with
  | nil => rw [innermost, hstack] at hp; cases hp
  | cons x outer =>
    rw [innermost, hstack] at hp
    cases hp
    obtain ⟨y, hy, hid, hdepth⟩ := h.stack x outer (hstack ▸ List.suffix_refl _)
    exact ⟨y, hy, hid, by rw [hdepth, List.length_cons]⟩

theorem IsSound.hierarchy_enter {d : Draft} (h : d.IsSound) (line : Nat) {name : Text}
    (label : Text) (hname : name ∉ d.graph.groups.map (·.id)) :
    IsHierarchy (d.enter line name label).graph.frames := by
  rw [frames_enter]
  rw [← Graph.map_id_frames] at hname
  refine h.graph.hierarchy.append hname (Graph.length_frames _).symm
    (fun p hp => h.innermost_known hp) fun htop => ?_
  cases hstack : d.openGroups with
  | nil => rw [newGroup, hstack]; rfl
  | cons x outer => rw [newGroup, innermost, hstack] at htop; cases htop

/-- Nothing lies in a group whose name is new, and no group lists it. -/
theorem IsSound.unlisted {d : Draft} (h : d.IsSound) {name : Text}
    (hname : name ∉ d.graph.groups.map (·.id)) {y : Group} (hy : y ∈ d.graph.groups) :
    .group name ∉ y.children := by
  intro hlisted
  refine hname ?_
  rw [← Graph.map_fst_parentage]
  exact List.mem_map.2 ⟨_, (h.graph.lists_group y hy name).1 hlisted, rfl⟩

theorem IsSound.isConsistent_enter {d : Draft} (h : d.IsSound) (line : Nat) {name : Text}
    (label : Text) (hname : name ∉ d.graph.groups.map (·.id)) :
    (d.enter line name label).graph.IsConsistent where
  node_ids := by
    rw [nodes_enter]
    exact h.graph.node_ids
  hierarchy := h.hierarchy_enter line label hname
  group_known i p hp := by
    rw [memberships_enter] at hp
    rw [map_id_groups_enter]
    exact List.mem_append_left _ (h.graph.group_known i p hp)
  children_nodup x hx := by
    rcases mem_groups_enter.1 hx with ⟨y, hy, rfl⟩ | rfl
    · show List.Nodup (if _ then _ else _)
      split
      · exact nodup_append_singleton (h.graph.children_nodup y hy) (h.unlisted hname hy)
      · exact h.graph.children_nodup y hy
    · exact List.nodup_nil
  lists_group x hx i := by
    rw [parentage_enter, List.mem_append, List.mem_singleton, Prod.mk.injEq]
    rcases mem_groups_enter.1 hx with ⟨y, hy, rfl⟩ | rfl
    · show Child.group i ∈ (if _ then _ else _) ↔ _
      rw [← h.graph.lists_group y hy i]
      split
      · next hy' => simp [hy']
      · next hy' => simp [Ne.symm hy']
    · -- Nothing lies in the new group, because its name was free.
      refine iff_of_false List.not_mem_nil ?_
      rintro (hold | ⟨-, hself⟩)
      · exact hname (h.graph.parent_known hold)
      · obtain ⟨y, hy, hid, -⟩ := h.innermost_known hself.symm
        rw [← Graph.map_id_frames] at hname
        exact hname (List.mem_map.2 ⟨y, hy, hid⟩)
  lists_node x hx i := by
    rw [memberships_enter]
    rcases mem_groups_enter.1 hx with ⟨y, hy, rfl⟩ | rfl
    · show Child.node i ∈ (if _ then _ else _) ↔ _
      rw [← h.graph.lists_node y hy i]
      split <;> simp
    · exact iff_of_false List.not_mem_nil fun hold => hname (h.graph.group_known i _ hold)
  types := by
    rw [nodes_enter]
    exact h.graph.types
  edge_ids := by
    rw [edges_enter]
    exact h.graph.edge_ids

/-- Opening a group with a free name keeps a draft sound. -/
theorem IsSound.enter {d : Draft} (h : d.IsSound) (line : Nat) {name : Text} (label : Text)
    (hname : name ∉ d.graph.groups.map (·.id)) : (d.enter line name label).IsSound where
  graph := h.isConsistent_enter line label hname
  node_orders := by
    rw [nodes_enter]
    exact h.node_orders
  stack x outer hsuffix := by
    rw [frames_enter]
    rw [openGroups_enter, List.suffix_cons_iff] at hsuffix
    rcases hsuffix with hhead | htail
    · cases hhead
      exact ⟨_, List.mem_append_right _ (List.mem_singleton_self _), rfl, rfl⟩
    · obtain ⟨y, hy, hid, hdepth⟩ := h.stack x outer htail
      exact ⟨y, List.mem_append_left _ hy, hid, hdepth⟩
  ends := by
    rw [nodes_enter, edges_enter]
    exact h.ends

/-- Closing a group keeps a draft sound. -/
theorem IsSound.close {d : Draft} (h : d.IsSound) {x : OpenGroup} {outer : List OpenGroup}
    (hopen : d.openGroups = x :: outer) : IsSound { d with openGroups := outer } where
  graph := h.graph
  node_orders := h.node_orders
  stack y rest hsuffix := h.stack y rest (hopen ▸ hsuffix.trans (List.suffix_cons x outer))
  ends := h.ends

/-! ## Edges -/

/-- Adding an edge between nodes keeps a draft sound. -/
theorem IsSound.addEdge {d : Draft} (h : d.IsSound) (label : Option Text) {source target : Text}
    (hsource : source ∈ d.graph.nodes.map (·.id)) (htarget : target ∈ d.graph.nodes.map (·.id)) :
    (d.addEdge label (source, target)).IsSound where
  graph :=
    { h.graph with
      edge_ids := by
        simp only [Draft.addEdge, List.map_append, List.map_singleton, h.graph.edge_ids,
          List.length_append, List.length_singleton, List.range_succ] }
  node_orders := h.node_orders
  stack := h.stack
  ends e he := by
    rcases List.mem_append.1 he with he | he
    · exact h.ends e he
    · rw [List.mem_singleton.1 he]
      exact ⟨hsource, htarget⟩

/-! ## Every draft is sound -/

/-- A step keeps a draft sound. -/
theorem IsSound.step {d d' : Draft} (hstep : Step d d') (h : d.IsSound) : d'.IsSound := by
  cases hstep with
  | turn direction => exact ⟨{ h.graph with }, h.node_orders, h.stack, h.ends⟩
  | close x outer hopen => exact h.close hopen
  | enter line name label hname => exact h.enter line label hname
  | mention asStatement id r => exact h.mention asStatement id r
  | addEdge label source target hsource htarget => exact h.addEdge label hsource htarget

end Draft

/-- The draft of a text is sound. -/
theorem isSound_of_draftOf {ss : List Statement} {d : Draft} (h : draftOf ss = .ok d) :
    d.IsSound := by
  obtain ⟨direction, hsteps⟩ := steps_of_draftOf h
  exact hsteps.keep (fun _ _ hstep => Draft.IsSound.step hstep) (Draft.isSound_start direction)

end Swimlane
