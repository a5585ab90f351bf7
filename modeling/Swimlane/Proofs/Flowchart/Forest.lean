import Swimlane.Proofs.Flowchart.Consistent

/-!
# A flowchart that was read is a forest

Finishing a draft takes away the nodes that turned out to be groups, and with them their
places in lists of children.  What is left is a well-formed forest: `Graph.IsForest` says
so in full, and `isForest_of_ofText` proves it of every text that can be read.
-/

namespace Swimlane

namespace Graph

/-- How often the groups list something as a child. -/
def listings (g : Graph) (child : Child) : Nat := (g.groups.flatMap (·.children)).count child

/-- Nodes, groups and edges are numbered, and the groups form a forest with the nodes as its
leaves: what names a parent is listed once, by that parent, and nothing else is listed. -/
structure IsForest (g : Graph) : Prop where
  node_ids : (g.nodes.map (·.id)).Nodup
  group_ids : (g.groups.map (·.id)).Nodup
  node_orders : g.nodes.Pairwise (·.order < ·.order)
  group_orders : ∀ (i : Nat) (x : Group), g.groups[i]? = some x → x.order = i
  edge_ids : ∀ (i : Nat) (e : Edge), g.edges[i]? = some e → e.id = 'e' :: decimal i
  /-- A group without a parent is at the top, and no group lists it. -/
  top : ∀ x ∈ g.groups, x.parentId = none → x.depth = 0 ∧ g.listings (.group x.id) = 0
  /-- A group with a parent comes after it, one level deeper, and only the parent lists it. -/
  nested : ∀ x ∈ g.groups, ∀ p, x.parentId = some p →
    ∃ (i j : Nat) (y : Group), i < j ∧ g.groups[i]? = some y ∧ g.groups[j]? = some x ∧ y.id = p ∧
      x.depth = y.depth + 1 ∧ .group x.id ∈ y.children ∧ g.listings (.group x.id) = 1
  /-- A group that a group lists is there and names it as its parent. -/
  listed_group : ∀ x ∈ g.groups, ∀ id, .group id ∈ x.children →
    ∃ y ∈ g.groups, y.id = id ∧ y.parentId = some x.id
  /-- A node that a group lists is there and names the group. -/
  listed_node : ∀ x ∈ g.groups, ∀ id, .node id ∈ x.children →
    ∃ n ∈ g.nodes, n.id = id ∧ n.groupId = some x.id
  /-- A node that names a group is listed once, by that group. -/
  member : ∀ n ∈ g.nodes, ∀ p, n.groupId = some p →
    ∃ x ∈ g.groups, x.id = p ∧ .node n.id ∈ x.children ∧ g.listings (.node n.id) = 1
  ends : ∀ e ∈ g.edges, e.source ∈ g.ids ∧ e.target ∈ g.ids

/-! ## Listings -/

/-- What no group lists has no listing. -/
theorem listings_eq_zero {g : Graph} {child : Child} (h : ∀ x ∈ g.groups, child ∉ x.children) :
    g.listings child = 0 := by
  refine List.count_eq_zero.2 fun hmem => ?_
  obtain ⟨x, hx, hchild⟩ := List.mem_flatMap.1 hmem
  exact h x hx hchild

/-- What one group lists, once, has one listing. -/
theorem listings_eq_one {g : Graph} (hids : (g.groups.map (·.id)).Nodup) {x : Group}
    (hx : x ∈ g.groups) {child : Child} (hnodup : x.children.Nodup) (hchild : child ∈ x.children)
    (honly : ∀ y ∈ g.groups, child ∈ y.children → y.id = x.id) : g.listings child = 1 := by
  obtain ⟨before, after, hsplit⟩ := List.append_of_mem hx
  have hne (y : Group) (hy : y ∈ before ++ after) : child ∉ y.children := by
    intro hlisted
    have hmem : y ∈ g.groups := by
      rw [hsplit]
      exact List.mem_append.2
        ((List.mem_append.1 hy).imp id (List.mem_cons_of_mem x))
    rw [hsplit, List.map_append, List.map_cons, List.nodup_middle, List.nodup_cons,
      ← List.map_append] at hids
    exact hids.1 (List.mem_map.2 ⟨y, hy, honly y hmem hlisted⟩)
  have hzero (ys : List Group) (hys : ∀ y ∈ ys, child ∉ y.children) :
      (ys.flatMap (·.children)).count child = 0 :=
    listings_eq_zero (g := ⟨.topDown, [], [], ys⟩) hys
  rw [listings, hsplit, List.flatMap_append, List.flatMap_cons, List.count_append,
    List.count_append, hzero before fun y hy => hne y (List.mem_append_left _ hy),
    hzero after fun y hy => hne y (List.mem_append_right _ hy),
    List.count_eq_one_of_mem hnodup hchild]

/-! ## Consistent graphs are forests -/

variable {g : Graph}

/-- In a hierarchy the group with a number stands at its place. -/
theorem IsConsistent.getElem?_order (h : g.IsConsistent) {x : Group} (hx : x ∈ g.groups) :
    g.groups[x.order]? = some x := by
  obtain ⟨i, hi⟩ := List.mem_iff_getElem?.1 hx
  have horder := h.order_of_getElem? hi
  rw [horder, hi]

/-- A graph whose records of the nesting agree is a forest, if its nodes are in order and its
edges have ends. -/
theorem IsConsistent.isForest (h : g.IsConsistent)
    (horders : g.nodes.Pairwise (·.order < ·.order))
    (hends : ∀ e ∈ g.edges, e.source ∈ g.ids ∧ e.target ∈ g.ids) : g.IsForest where
  node_ids := h.node_ids
  group_ids := h.group_ids
  node_orders := horders
  group_orders i x hx := h.order_of_getElem? hx
  edge_ids i e he := by
    obtain ⟨hi, rfl⟩ := List.getElem?_eq_some_iff.1 he
    have hmap := congrArg (·[i]?) h.edge_ids
    simpa [hi] using hmap
  top x hx hp := by
    refine ⟨h.hierarchy.top x.frame (List.mem_map.2 ⟨x, hx, rfl⟩) hp, listings_eq_zero ?_⟩
    intro y hy hlisted
    exact Option.some_ne_none y.id
      ((h.parentage_unique hx ((h.lists_group y hy x.id).1 hlisted)).trans hp)
  nested x hx p hp := by
    obtain ⟨y, hy, hyp, horder, hdepth⟩ := h.parent_of hx hp
    have hlisted : .group x.id ∈ y.children :=
      (h.lists_group y hy x.id).2 (List.mem_map.2 ⟨x, hx, by rw [hp, hyp]⟩)
    refine ⟨y.order, x.order, y, horder, h.getElem?_order hy, h.getElem?_order hx, hyp, hdepth,
      hlisted, listings_eq_one h.group_ids hy (h.children_nodup y hy) hlisted ?_⟩
    intro z hz hzx
    have hpz := h.parentage_unique hx ((h.lists_group z hz x.id).1 hzx)
    rw [hp, ← hyp] at hpz
    exact Option.some.inj hpz
  listed_group x hx id hlisted := by
    obtain ⟨y, hy, hpair⟩ := List.mem_map.1 ((h.lists_group x hx id).1 hlisted)
    exact ⟨y, hy, (Prod.mk.inj hpair).1, (Prod.mk.inj hpair).2⟩
  listed_node x hx id hlisted := by
    obtain ⟨n, hn, hpair⟩ := List.mem_map.1 ((h.lists_node x hx id).1 hlisted)
    exact ⟨n, hn, (Prod.mk.inj hpair).1, (Prod.mk.inj hpair).2⟩
  member n hn p hp := by
    have hself : (n.id, some p) ∈ g.memberships := List.mem_map.2 ⟨n, hn, by rw [hp]⟩
    obtain ⟨y, hy, hyp⟩ := List.mem_map.1 (h.group_known n.id p hself)
    have hlisted : .node n.id ∈ y.children := (h.lists_node y hy n.id).2 (hyp ▸ hself)
    refine ⟨y, hy, hyp, hlisted,
      listings_eq_one h.group_ids hy (h.children_nodup y hy) hlisted ?_⟩
    intro z hz hzn
    have hpz := h.membership_unique ((h.lists_node z hz n.id).1 hzn) hself
    rw [← hyp] at hpz
    exact Option.some.inj hpz
  ends := hends

end Graph

namespace Draft

/-! ## Finishing -/

/-- Is the node one that is only implied and has turned out to be a group? -/
def isStray (d : Draft) (id : Text) : Bool := d.implied.contains id && d.graph.hasGroup id

/-- Does a child stay when the draft is finished? -/
def keepsChild (d : Draft) : Child → Bool
  | .node id => !d.isStray id
  | .group _ => true

/-- The graph of a finished draft: all groups are closed, and the strays have gone. -/
theorem finish_eq_ok {d : Draft} {g : Graph} (h : d.finish = .ok g) :
    d.openGroups = [] ∧ g = { d.graph with
      nodes := d.graph.nodes.filter fun n => !d.isStray n.id
      groups := d.graph.groups.map fun x =>
        { x with children := x.children.filter d.keepsChild } } := by
  unfold finish at h
  split at h
  · cases h
  · next hopen =>
    cases h
    refine ⟨List.getLast?_eq_none_iff.1 hopen, ?_⟩
    rfl

variable {d : Draft} {g : Graph}

/-- A child of the finished draft is one that stays. -/
theorem mem_groups_finish (h : d.finish = .ok g) {x : Group} : x ∈ g.groups ↔
    ∃ y ∈ d.graph.groups, x = { y with children := y.children.filter d.keepsChild } := by
  rw [(finish_eq_ok h).2]
  simp only [List.mem_map]
  exact exists_congr fun y => and_congr_right fun _ => eq_comm

/-- The memberships of the finished draft are those of the nodes that stay. -/
theorem memberships_finish (h : d.finish = .ok g) :
    g.memberships = d.graph.memberships.filter fun m => !d.isStray m.1 := by
  rw [(finish_eq_ok h).2, Graph.memberships, Graph.memberships, List.filter_map]
  rfl

theorem frames_finish (h : d.finish = .ok g) : g.frames = d.graph.frames := by
  rw [(finish_eq_ok h).2, Graph.frames, List.map_map]
  rfl

theorem parentage_finish (h : d.finish = .ok g) : g.parentage = d.graph.parentage := by
  rw [← Graph.map_parentage_frames, frames_finish h, Graph.map_parentage_frames]

/-- Finishing takes nodes away. -/
theorem nodes_finish_sublist (h : d.finish = .ok g) : g.nodes.Sublist d.graph.nodes := by
  rw [(finish_eq_ok h).2]
  exact List.filter_sublist

/-- A sound draft ends as a consistent graph. -/
theorem IsSound.isConsistent_finish (hd : d.IsSound) (h : d.finish = .ok g) :
    g.IsConsistent where
  node_ids := hd.graph.node_ids.sublist ((nodes_finish_sublist h).map _)
  hierarchy := by
    rw [frames_finish h]
    exact hd.graph.hierarchy
  group_known id p hp := by
    rw [memberships_finish h] at hp
    rw [← Graph.map_id_frames, frames_finish h, Graph.map_id_frames]
    exact hd.graph.group_known id p (List.mem_filter.1 hp).1
  children_nodup x hx := by
    obtain ⟨y, hy, rfl⟩ := (mem_groups_finish h).1 hx
    exact (hd.graph.children_nodup y hy).filter _
  lists_group x hx id := by
    obtain ⟨y, hy, rfl⟩ := (mem_groups_finish h).1 hx
    rw [parentage_finish h, ← hd.graph.lists_group y hy id, List.mem_filter]
    exact and_iff_left rfl
  lists_node x hx id := by
    obtain ⟨y, hy, rfl⟩ := (mem_groups_finish h).1 hx
    rw [memberships_finish h, List.mem_filter, List.mem_filter, hd.graph.lists_node y hy id]
    rfl
  types n hn := hd.graph.types n ((nodes_finish_sublist h).subset hn)
  edge_ids := by
    rw [(finish_eq_ok h).2]
    exact hd.graph.edge_ids

/-- The nodes that stay keep their order. -/
theorem IsSound.node_orders_finish (hd : d.IsSound) (h : d.finish = .ok g) :
    g.nodes.Pairwise (·.order < ·.order) := by
  have hall : (d.graph.nodes.map (·.order)).Pairwise (· < ·) := by
    rw [hd.node_orders]
    exact List.pairwise_lt_range
  exact (List.pairwise_map.1 hall).sublist (nodes_finish_sublist h)

/-- A node that has gone was a group: its name is still there. -/
theorem mem_ids_finish (h : d.finish = .ok g) {id : Text}
    (hid : id ∈ d.graph.nodes.map (·.id)) : id ∈ g.ids := by
  have hgroups : g.groups.map (·.id) = d.graph.groups.map (·.id) := by
    rw [← Graph.map_id_frames, frames_finish h, Graph.map_id_frames]
  rw [Graph.ids, List.mem_append, hgroups]
  by_cases hstray : d.isStray id = true
  · right
    rw [isStray, Bool.and_eq_true] at hstray
    exact Graph.hasGroup_iff.1 hstray.2
  · left
    obtain ⟨n, hn, rfl⟩ := List.mem_map.1 hid
    rw [(finish_eq_ok h).2]
    exact List.mem_map.2 ⟨n, List.mem_filter.2 ⟨hn, by simpa using hstray⟩, rfl⟩

theorem IsSound.ends_finish (hd : d.IsSound) (h : d.finish = .ok g) :
    ∀ e ∈ g.edges, e.source ∈ g.ids ∧ e.target ∈ g.ids := by
  intro e he
  have hold : e ∈ d.graph.edges := by
    rw [(finish_eq_ok h).2] at he
    exact he
  exact ⟨mem_ids_finish h (hd.ends e hold).1, mem_ids_finish h (hd.ends e hold).2⟩

end Draft

/-! ## Flowcharts that were read -/

/-- A flowchart that was read is a draft that was finished. -/
theorem exists_draft_of_ofText {s : Text} {f : Flowchart} (h : Flowchart.ofText s = .ok f) :
    ∃ d : Draft, d.IsSound ∧ d.finish = .ok f.graph := by
  obtain ⟨d, hd, hrest⟩ := ok_of_bind h
  obtain ⟨g, hfinish, hf⟩ := ok_of_bind hrest
  cases hf
  exact ⟨d, isSound_of_draftOf hd, hfinish⟩

/-- The graph of a text is consistent. -/
theorem isConsistent_of_ofText {s : Text} {f : Flowchart} (h : Flowchart.ofText s = .ok f) :
    f.graph.IsConsistent := by
  obtain ⟨d, hd, hfinish⟩ := exists_draft_of_ofText h
  exact hd.isConsistent_finish hfinish

/-- The graph of every text that can be read is a well-formed forest. -/
theorem isForest_of_ofText {s : Text} {f : Flowchart} (h : Flowchart.ofText s = .ok f) :
    f.graph.IsForest := by
  obtain ⟨d, hd, hfinish⟩ := exists_draft_of_ofText h
  exact (hd.isConsistent_finish hfinish).isForest (hd.node_orders_finish hfinish)
    (hd.ends_finish hfinish)

/-- A link to a name, two groups inside each other, and the name turns out to be the inner
one. -/
theorem isForest_of_nested_text : ∃ f : Flowchart,
    Flowchart.ofText "graph LR\na-->B\nsubgraph A\nsubgraph B\nc\nend\nend".toList = .ok f ∧
      f.graph.IsForest := by
  have h : ((Flowchart.ofText
      "graph LR\na-->B\nsubgraph A\nsubgraph B\nc\nend\nend".toList).map (·.graph)).toOption =
      some ⟨.leftRight,
        [⟨['a'], ['a'], defaultComponentType, none, none, 0⟩,
          ⟨['c'], ['c'], defaultComponentType, none, some ['B'], 2⟩],
        [⟨['e', '0'], ['a'], ['B'], none⟩],
        [⟨['A'], ['A'], none, [.group ['B']], 0, 0⟩,
          ⟨['B'], ['B'], some ['A'], [.node ['c']], 1, 1⟩]⟩ := by
    decide +kernel
  cases hf : Flowchart.ofText
      "graph LR\na-->B\nsubgraph A\nsubgraph B\nc\nend\nend".toList with
  | error e => rw [hf] at h; cases h
  | ok f => exact ⟨f, rfl, isForest_of_ofText hf⟩

end Swimlane
