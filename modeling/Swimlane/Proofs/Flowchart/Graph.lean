import Mathlib.Data.List.Nodup
import Swimlane.Flowchart.Graph

/-!
# Looking things up in a graph

What the look-ups of a graph find, and what the two ways to change a graph leave as it was.
`changeNode` rewrites nodes where they stand, `addChild` only makes the list of a group
longer; so the identifiers of nodes and groups, and the nesting of groups, are read off
lists that these changes keep.
-/

namespace Swimlane

/-- Where keys do not repeat, an element is found by its key. -/
theorem find?_of_mem {β : Type} {key : β → Text} {xs : List β} (hkeys : (xs.map key).Nodup)
    {x : β} (hx : x ∈ xs) : xs.find? (key · = key x) = some x := by
  cases hfound : xs.find? (key · = key x) with
  | none => exact absurd (decide_eq_true rfl) (List.find?_eq_none.1 hfound x hx)
  | some y =>
    have hsame : key y = key x := by simpa using List.find?_some hfound
    rw [List.inj_on_of_nodup_map hkeys (List.mem_of_find?_eq_some hfound) hx hsame]

namespace Graph

variable {g : Graph}

/-! ## Look-ups -/

theorem hasNode_iff {id : Text} : g.hasNode id = true ↔ id ∈ g.nodes.map (·.id) := by
  simp [hasNode]

theorem hasGroup_iff {id : Text} : g.hasGroup id = true ↔ id ∈ g.groups.map (·.id) := by
  simp [hasGroup]

/-- A node that is found is a node of the graph and has the identifier. -/
theorem mem_of_node? {id : Text} {n : Node} (h : g.node? id = some n) : n ∈ g.nodes ∧ n.id = id := by
  rw [node?, List.findRev?_eq_find?_reverse] at h
  exact ⟨List.mem_reverse.1 (List.mem_of_find?_eq_some h), by simpa using List.find?_some h⟩

/-- A group that is found is a group of the graph and has the identifier. -/
theorem mem_of_group? {id : Text} {x : Group} (h : g.group? id = some x) :
    x ∈ g.groups ∧ x.id = id := by
  rw [group?, List.findRev?_eq_find?_reverse] at h
  exact ⟨List.mem_reverse.1 (List.mem_of_find?_eq_some h), by simpa using List.find?_some h⟩

/-- Where identifiers do not repeat, a node is found by its identifier. -/
theorem node?_of_mem (hids : (g.nodes.map (·.id)).Nodup) {n : Node} (h : n ∈ g.nodes) :
    g.node? n.id = some n := by
  rw [← List.nodup_reverse, ← List.map_reverse] at hids
  rw [node?, List.findRev?_eq_find?_reverse]
  exact find?_of_mem hids (List.mem_reverse.2 h)

/-- Where identifiers do not repeat, a group is found by its identifier. -/
theorem group?_of_mem (hids : (g.groups.map (·.id)).Nodup) {x : Group} (h : x ∈ g.groups) :
    g.group? x.id = some x := by
  rw [← List.nodup_reverse, ← List.map_reverse] at hids
  rw [group?, List.findRev?_eq_find?_reverse]
  exact find?_of_mem hids (List.mem_reverse.2 h)

theorem node?_isSome {id : Text} : (g.node? id).isSome = g.hasNode id := by
  rw [Bool.eq_iff_iff, hasNode_iff, node?, List.findRev?_eq_find?_reverse, List.find?_isSome]
  simp

/-! ## Memberships and parentage -/

/-- The nodes, each with the group that it names. -/
def memberships (g : Graph) : List (Text × Option Text) := g.nodes.map fun n => (n.id, n.groupId)

/-- The groups, each with the group that it lies in. -/
def parentage (g : Graph) : List (Text × Option Text) := g.groups.map fun x => (x.id, x.parentId)

theorem map_fst_memberships (g : Graph) : g.memberships.map (·.1) = g.nodes.map (·.id) := by
  simp [memberships, Function.comp_def]

theorem map_fst_parentage (g : Graph) : g.parentage.map (·.1) = g.groups.map (·.id) := by
  simp [parentage, Function.comp_def]

/-! ## Changes to nodes -/

/-- A change that keeps some part of every node keeps the list of these parts. -/
theorem map_nodes_changeNode {β : Type} (part : Node → β) {f : Node → Node}
    (hf : ∀ n, part (f n) = part n) (g : Graph) (id : Text) :
    (g.changeNode id f).nodes.map part = g.nodes.map part := by
  rw [changeNode, List.map_map]
  refine List.map_congr_left fun n _ => ?_
  show part (if n.id = id then f n else n) = part n
  split
  · exact hf n
  · rfl

/-! ## Changes to groups -/

/-- Listing a child changes nothing about groups but their lists of children. -/
theorem map_groups_addChild {β : Type} (part : Group → β)
    (hpart : ∀ x cs, part { x with children := cs } = part x) (g : Graph) (id : Text)
    (child : Child) : (g.addChild id child).groups.map part = g.groups.map part := by
  rw [addChild, List.map_map]
  refine List.map_congr_left fun x _ => ?_
  show part (if x.id = id then { x with children := x.children ++ [child] } else x) = part x
  split
  · exact hpart x _
  · rfl

/-- The groups after a child was listed. -/
theorem mem_groups_addChild {id : Text} {child : Child} {x : Group} :
    x ∈ (g.addChild id child).groups ↔ ∃ y ∈ g.groups,
      x = { y with children := if y.id = id then y.children ++ [child] else y.children } := by
  rw [addChild, List.mem_map]
  refine exists_congr fun y => and_congr_right fun _ => ?_
  split
  · exact eq_comm
  · exact eq_comm

/-! ## Putting nodes into groups -/

/-- A node that is put into a group changes nothing but its group. -/
theorem map_nodes_putInto {β : Type} (part : Node → β)
    (hpart : ∀ n p, part { n with groupId := p } = part n) (g : Graph) (id groupId : Text) :
    (g.putInto id groupId).nodes.map part = g.nodes.map part :=
  map_nodes_changeNode part (fun n => hpart n (some groupId)) g id

/-- The groups after a node was put into one of them. -/
theorem mem_groups_putInto {id groupId : Text} {x : Group} :
    x ∈ (g.putInto id groupId).groups ↔ ∃ y ∈ g.groups, x =
      { y with children := if y.id = groupId then y.children ++ [.node id] else y.children } :=
  mem_groups_addChild

/-- The memberships after a node without a group was put into one. -/
theorem mem_memberships_putInto (hids : (g.nodes.map (·.id)).Nodup) {n : Node} (hn : n ∈ g.nodes)
    (hfree : n.groupId = none) (groupId i p : Text) :
    (i, some p) ∈ (g.putInto n.id groupId).memberships ↔
      (i, some p) ∈ g.memberships ∨ (i = n.id ∧ p = groupId) := by
  constructor
  · intro h
    obtain ⟨m', hm', hpair⟩ := List.mem_map.1 h
    obtain ⟨m, hm, rfl⟩ := List.mem_map.1 hm'
    split at hpair
    · next hid =>
      rw [Prod.mk.injEq] at hpair
      exact Or.inr ⟨hpair.1.symm.trans hid, (Option.some.inj hpair.2).symm⟩
    · exact Or.inl (hpair ▸ List.mem_map.2 ⟨m, hm, rfl⟩)
  · rintro (h | ⟨rfl, rfl⟩)
    · obtain ⟨m, hm, hpair⟩ := List.mem_map.1 h
      have hid : m.id ≠ n.id := by
        intro hid
        rw [List.inj_on_of_nodup_map hids hm hn hid, hfree] at hpair
        cases hpair
      exact List.mem_map.2 ⟨m, List.mem_map.2 ⟨m, hm, if_neg hid⟩, hpair⟩
    · exact List.mem_map.2 ⟨_, List.mem_map.2 ⟨n, hn, if_pos rfl⟩, rfl⟩

end Graph

end Swimlane
