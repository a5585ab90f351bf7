import Swimlane.Proofs.Layout.Boundary
import Swimlane.Proofs.Layout.Slots

/-!
# Warnings are exact

Groups are warned about where they are entered on the visit, and where a node names them that
is met nowhere; boundaries that turn out to be empty follow.  In a graph that was read from
text every group is entered once and every node in a group is met.  So the visit gives the
warnings of every group once, the pass over the other nodes gives none, and what is left is
that of every group which is odd, and of no other (`warnings_of_ofText`).
-/

namespace Swimlane

/-! ## Warnings that are due -/

/-- The group that a warning is about. -/
def LayoutWarning.groupId : LayoutWarning → Text
  | unknownGroup _ id => id
  | nestedRole id _ => id
  | emptyBoundary id => id
  | unclassifiedGroup id => id

/-- What is odd about the groups of a graph with these roles; about its nodes nothing is. -/
inductive Graph.IsOdd (g : Graph) (c : Classification) : LayoutWarning → Prop
  /-- The group lists a node and has no role. -/
  | unclassified {x : Group} {n : Node} (hx : x ∈ g.groups) (hn : n ∈ g.nodes)
      (hlisted : .node n.id ∈ x.children) (hrole : c.role? x.id = none) :
      IsOdd g c (.unclassifiedGroup x.id)
  /-- The lane lies in a lane, or the section in a section, and the outer one is the nearest. -/
  | nested {x : Group} {role : Role} {outer : Text} (hx : x ∈ g.groups)
      (hband : role = .laneBand ∨ role = .sectionBand) (hrole : c.role? x.id = some role)
      (houter : g.IsNearest c role x.parentId (some outer)) : IsOdd g c (.nestedRole x.id outer)
  /-- No node lies in the boundary, at any depth. -/
  | empty {x : Group} (hx : x ∈ g.groups) (hrole : c.role? x.id = some .boundary)
      (hnone : ∀ n ∈ g.nodes, ¬g.LiesIn n.groupId x.id) : IsOdd g c (.emptyBoundary x.id)

/-! ## Roles -/

/-- Only groups of a graph have roles in its classification. -/
theorem Classification.mem_groups_of_role? {g : Graph} {id : Text} {role : Role}
    (h : (ofGraph g).role? id = some role) : ∃ x ∈ g.groups, x.id = id := by
  have hentries : ∀ e ∈ (ofGraph g).entries, e.1 ∈ g.groups.map (·.id) := by
    refine @foldl_of_seen _ _ (addGroup g)
      (fun state seen => ∀ e ∈ state.1.entries, e.1 ∈ seen.map (·.id)) (empty, ⟨0, 0, 0⟩)
      (fun e he => absurd he List.not_mem_nil) (fun state seen x ih e he => ?_) g.groups
    rw [List.map_append, List.map_singleton, List.mem_append, List.mem_singleton]
    rw [addGroup] at he
    cases hrule : (GroupFacts.of g x).rule? with
    | none =>
      rw [hrule] at he
      exact Or.inl (ih e he)
    | some rule =>
      rw [hrule] at he
      rcases mem_insertEntry he with rfl | he
      · exact Or.inr rfl
      · exact Or.inl (ih e he)
  obtain ⟨info, hinfo, -⟩ := Option.map_eq_some_iff.1 h
  exact List.mem_map.1 (hentries _ (mem_of_lookup hinfo))

/-! ## Groups -/

variable {g : Graph} {c : Classification}

theorem Graph.listsNode_iff {x : Group} :
    g.listsNode x = true ↔ ∃ n ∈ g.nodes, .node n.id ∈ x.children := by
  rw [listsNode, List.any_eq_true]
  constructor
  · rintro ⟨child, hchild, hnode⟩
    cases child with
    | node id =>
      obtain ⟨n, hn, rfl⟩ := List.mem_map.1 (hasNode_iff.1 hnode)
      exact ⟨n, hn, hchild⟩
    | group id => cases hnode
  · rintro ⟨n, hn, hchild⟩
    exact ⟨_, hchild, hasNode_iff.2 (List.mem_map.2 ⟨n, hn, rfl⟩)⟩

/-- What is odd about a group in some other groups is that it lists nodes without a role, or that
it repeats the role of the nearest of them. -/
theorem groupWarning?_eq_some_iff {x : Group} {around : List Text} {w : LayoutWarning} :
    groupWarning? g c x around = some w ↔
      (c.role? x.id = none ∧ (∃ n ∈ g.nodes, .node n.id ∈ x.children) ∧
        w = .unclassifiedGroup x.id) ∨
      ∃ role outer, (role = .laneBand ∨ role = .sectionBand) ∧ c.role? x.id = some role ∧
        c.nearest? role around = some outer ∧ w = .nestedRole x.id outer := by
  have hband {role : Role} (hrole : c.role? x.id = some role)
      (hkind : role = .laneBand ∨ role = .sectionBand) :
      groupWarning? g c x around = (c.nearest? role around).map (.nestedRole x.id) := by
    rcases hkind with rfl | rfl
    · rw [groupWarning?, hrole]
    · rw [groupWarning?, hrole]
  constructor
  · intro h
    cases hrole : c.role? x.id with
    | none =>
      rw [groupWarning?, hrole] at h
      obtain ⟨hlists, heq⟩ := Option.ite_none_right_eq_some.1 h
      exact Or.inl ⟨rfl, Graph.listsNode_iff.1 hlists, (Option.some.inj heq).symm⟩
    | some role =>
      have hkind : role = .laneBand ∨ role = .sectionBand := by
        cases role with
        | laneBand => exact Or.inl rfl
        | sectionBand => exact Or.inr rfl
        | boundary =>
          rw [groupWarning?, hrole] at h
          cases h
      rw [hband hrole hkind] at h
      obtain ⟨outer, houter, rfl⟩ := Option.map_eq_some_iff.1 h
      exact Or.inr ⟨role, outer, hkind, rfl, houter, rfl⟩
  · rintro (⟨hrole, hlists, rfl⟩ | ⟨role, outer, hkind, hrole, houter, rfl⟩)
    · rw [groupWarning?, hrole]
      exact if_pos (Graph.listsNode_iff.2 hlists)
    · rw [hband hrole hkind, houter]
      rfl

/-- The warning where a group is entered is about the group, and that is no boundary. -/
theorem about_groupWarning {x : Group} {around : List Text} {w : LayoutWarning}
    (h : groupWarning? g c x around = some w) :
    w.groupId = x.id ∧ c.role? w.groupId ≠ some .boundary := by
  rcases groupWarning?_eq_some_iff.1 h with ⟨hrole, -, rfl⟩ | ⟨role, outer, hkind, hrole, -, rfl⟩
  · exact ⟨rfl, by rw [LayoutWarning.groupId, hrole]; exact Option.some_ne_none _ |>.symm⟩
  · refine ⟨rfl, ?_⟩
    rw [LayoutWarning.groupId, hrole]
    rcases hkind with rfl | rfl
    · decide
    · decide

/-! ## The visit -/

/-- Without repetitions nothing is left out. -/
theorem noteOnce_eq_self {warnings : List LayoutWarning} (h : warnings.Nodup) :
    noteOnce warnings = warnings := by
  have hkeys : (warnings.map id).Nodup := by rwa [List.map_id]
  refine foldl_of_nodup_keys rfl hkeys ?_
  rintro done seen rfl w - hnew
  rw [List.map_id] at hnew
  cases w with
  | unclassifiedGroup id => exact if_neg fun hold => hnew (List.contains_iff_mem.1 hold)
  | _ => rfl

/-- The nodes that a visit does not meet are nodes of the graph. -/
theorem of_mem_unmetNodes {met : List Text} {n : Node} (hn : n ∈ unmetNodes g met) :
    n ∈ g.nodes ∧ n.id ∉ met := by
  have hall : ∀ n ∈ unmetNodes g met, n ∈ g.nodes ∧ n.id ∉ met := by
    refine @foldl_of_seen _ _ _ (fun done seen => ∀ n ∈ done, n ∈ seen ∧ n.id ∉ met) _
      (fun n hn => absurd hn List.not_mem_nil) (fun done seen x ih n hn => ?_) g.nodes
    split at hn
    · exact ⟨List.mem_append_left _ (ih n hn).1, (ih n hn).2⟩
    · next hunmet =>
      rcases List.mem_append.1 hn with hn | hn
      · exact ⟨List.mem_append_left _ (ih n hn).1, (ih n hn).2⟩
      · rw [List.mem_singleton.1 hn]
        refine ⟨List.mem_append_right _ List.mem_cons_self, fun hmet => hunmet ?_⟩
        rw [List.contains_iff_mem.2 hmet, Bool.true_or]
  exact hall n hn

/-- Of a visit only the groups that are entered matter, and the nodes that are not met. -/
theorem placementWarnings_eq (g : Graph) (c : Classification) (visits : List Visit) :
    placementWarnings g c visits = noteOnce
      (((entries visits).filterMap fun entry => groupWarning? g c entry.1 entry.2) ++
        (unmetNodes g ((visitPlacements g c visits).map (·.nodeId))).filterMap
          (nodeWarning? g c)) := by
  rw [placementWarnings, entries, List.filterMap_filterMap]
  refine congrArg (fun inGroups => noteOnce (inGroups ++ _)) (List.filterMap_congr fun v _ => ?_)
  cases v with
  | enter x around => rfl
  | meet id around => rfl

/-- What is odd about the groups of a graph, in the order of the groups. -/
def groupWarnings (g : Graph) (c : Classification) : List LayoutWarning :=
  g.groups.filterMap fun x => groupWarning? g c x (g.enclosing x.parentId)

namespace Graph

variable {visits : List Visit}

/-- In a consistent graph there is nothing odd about the nodes that a visit does not meet: they
are in no group. -/
theorem IsConsistent.nodeWarnings_eq_nil (hg : g.IsConsistent) (c : Classification)
    (h : g.visits? = some visits) :
    (unmetNodes g ((visitPlacements g c visits).map (·.nodeId))).filterMap (nodeWarning? g c) =
      [] := by
  refine List.filterMap_eq_nil_iff.2 fun n hn => ?_
  obtain ⟨hnode, hunmet⟩ := of_mem_unmetNodes hn
  have hfree : n.groupId = none := by
    by_contra hgroup
    obtain ⟨p, hp⟩ := Option.ne_none_iff_exists'.1 hgroup
    obtain ⟨around, hmeet⟩ := hg.exists_meet h hnode hp
    have hknown : g.hasNode n.id = true := hasNode_iff.2 (List.mem_map.2 ⟨n, hnode, rfl⟩)
    refine hunmet (List.mem_map.2 ⟨⟨n.id, c.slot around⟩, ?_, rfl⟩)
    exact mem_visitPlacements_iff.2 ⟨around, hmeet, hknown, rfl⟩
  rw [nodeWarning?, hfree]

/-- In a consistent graph no group is warned about twice on account of the groups around it. -/
theorem IsConsistent.nodup_groupWarnings (hg : g.IsConsistent) (c : Classification) :
    ((groupWarnings g c).map (·.groupId)).Nodup := by
  rw [List.Nodup, List.pairwise_map, groupWarnings, List.pairwise_filterMap]
  refine (List.pairwise_map.1 hg.group_ids).imp fun {x y} hne w hw w' hw' heq => hne ?_
  rw [← (about_groupWarning hw).1, ← (about_groupWarning hw').1, heq]

/-- The warnings about placements in a consistent graph are those of its groups: the visit enters
each of them once, with the groups around it. -/
theorem IsConsistent.placementWarnings_perm (hg : g.IsConsistent) (c : Classification)
    (h : g.visits? = some visits) : (placementWarnings g c visits).Perm (groupWarnings g c) := by
  have hperm : ((entries visits).filterMap fun entry =>
      groupWarning? g c entry.1 entry.2).Perm (groupWarnings g c) := by
    have hentries := (hg.entries_perm h).filterMap fun entry => groupWarning? g c entry.1 entry.2
    rwa [List.filterMap_map] at hentries
  have hnodup := hperm.nodup_iff.2 (List.Nodup.of_map _ (hg.nodup_groupWarnings c))
  rw [placementWarnings_eq, hg.nodeWarnings_eq_nil c h, List.append_nil, noteOnce_eq_self hnodup]
  exact hperm

end Graph

/-! ## Drawings -/

variable {α : Type} [Length α] {s : LayoutSettings α}

omit [Length α] in
theorem map_groupId_emptyWarnings (c : Classification) (bounds : List (Text × Bounds α)) :
    (emptyWarnings c bounds).map (·.groupId) =
      (c.boundaries.map (·.1)).filter fun id => (bounds.lookup id).isNone := by
  rw [emptyWarnings, List.map_map]
  exact List.map_id _

/-- No group is warned about twice. -/
theorem nodup_warnings (hg : g.IsConsistent) {visits : List Visit} (h : g.visits? = some visits) :
    ((Drawing.ofVisits g c s visits).warnings.map (·.groupId)).Nodup := by
  show ((placementWarnings g c visits ++ emptyWarnings c (drawnBounds g c s visits)).map
    (·.groupId)).Nodup
  have hplaced := (hg.placementWarnings_perm c h).map (·.groupId)
  rw [List.map_append, List.nodup_append, map_groupId_emptyWarnings]
  refine ⟨hplaced.nodup_iff.2 (hg.nodup_groupWarnings c), (withRole_nodup c .boundary).filter _, ?_⟩
  -- a group that is entered with a warning is no boundary
  intro id hid id' hid' heq
  obtain ⟨w, hw, rfl⟩ := List.mem_map.1 (hplaced.subset hid)
  obtain ⟨x, -, hx⟩ := List.mem_filterMap.1 hw
  refine (about_groupWarning hx).2 ?_
  rw [heq]
  exact role?_eq_some_iff.2 (List.mem_filter.1 hid').1

/-- A boundary is warned about if no node lies in it, and only then. -/
theorem mem_emptyWarnings_iff (hg : g.IsConsistent) {visits : List Visit} {w : LayoutWarning} :
    w ∈ emptyWarnings c (drawnBounds g c s visits) ↔ ∃ id, c.role? id = some .boundary ∧
      (∀ n ∈ g.nodes, ¬g.LiesIn n.groupId id) ∧ w = .emptyBoundary id := by
  have hempty {id : Text} (hid : c.role? id = some .boundary) :
      ((drawnBounds g c s visits).lookup id).isNone = true ↔
        ∀ n ∈ g.nodes, ¬g.LiesIn n.groupId id := by
    rw [Option.isNone_iff_eq_none, ← Option.not_isSome_iff_eq_none,
      isSome_lookup_drawnBounds_iff hg hid]
    simp only [not_exists, not_and]
  rw [emptyWarnings, List.mem_map]
  constructor
  · rintro ⟨id, hid, rfl⟩
    obtain ⟨hboundary, hnone⟩ := List.mem_filter.1 hid
    have hrole := role?_eq_some_iff.2 hboundary
    exact ⟨id, hrole, (hempty hrole).1 hnone, rfl⟩
  · rintro ⟨id, hrole, hnone, rfl⟩
    exact ⟨id, List.mem_filter.2 ⟨role?_eq_some_iff.1 hrole, (hempty hrole).2 hnone⟩, rfl⟩

/-- What is odd about the groups of a consistent graph is warned about, and nothing else is. -/
theorem mem_warnings_iff (hg : g.IsConsistent) {visits : List Visit}
    (h : g.visits? = some visits) {w : LayoutWarning} :
    w ∈ (Drawing.ofVisits g (Classification.ofGraph g) s visits).warnings ↔
      g.IsOdd (Classification.ofGraph g) w := by
  show w ∈ placementWarnings g _ visits ++ emptyWarnings _ (drawnBounds g _ s visits) ↔ _
  rw [List.mem_append, (hg.placementWarnings_perm _ h).mem_iff, mem_emptyWarnings_iff hg]
  constructor
  · rintro (hw | ⟨id, hrole, hnone, rfl⟩)
    · obtain ⟨x, hx, hw⟩ := List.mem_filterMap.1 hw
      rcases groupWarning?_eq_some_iff.1 hw with
        ⟨hrole, ⟨n, hn, hlisted⟩, rfl⟩ | ⟨role, outer, hkind, hrole, houter, rfl⟩
      · exact .unclassified hx hn hlisted hrole
      · exact .nested hx hkind hrole (hg.isNearest_iff.2 houter)
    · obtain ⟨x, hx, rfl⟩ := Classification.mem_groups_of_role? hrole
      exact .empty hx hrole hnone
  · intro hodd
    cases hodd with
    | unclassified hx hn hlisted hrole =>
      refine Or.inl (List.mem_filterMap.2 ⟨_, hx, groupWarning?_eq_some_iff.2 (Or.inl ?_)⟩)
      exact ⟨hrole, ⟨_, hn, hlisted⟩, rfl⟩
    | nested hx hkind hrole houter =>
      refine Or.inl (List.mem_filterMap.2 ⟨_, hx, groupWarning?_eq_some_iff.2 (Or.inr ?_)⟩)
      exact ⟨_, _, hkind, hrole, hg.isNearest_iff.1 houter, rfl⟩
    | empty hx hrole hnone => exact Or.inr ⟨_, hrole, hnone, rfl⟩

/-- The groups of every text that can be read can be drawn, whatever the settings are; no group is
warned about twice, and the warnings are about all that is odd about the groups. -/
theorem warnings_of_ofText {text : Text} {f : Flowchart} (h : Flowchart.ofText text = .ok f)
    (s : LayoutSettings α) :
    ∃ d, Drawing.ofGraph? f.graph (Classification.ofGraph f.graph) s = some d ∧
      (d.warnings.map (·.groupId)).Nodup ∧
      ∀ w, w ∈ d.warnings ↔ f.graph.IsOdd (Classification.ofGraph f.graph) w := by
  have hg := isConsistent_of_ofText h
  obtain ⟨visits, hvisits⟩ := hg.exists_visits
  refine ⟨Drawing.ofVisits f.graph (Classification.ofGraph f.graph) s visits,
    Drawing.ofGraph?_of_visits hvisits _ s, nodup_warnings hg hvisits, fun w => ?_⟩
  exact mem_warnings_iff hg hvisits

/-- A group without a role, in a lane in a lane, and a boundary without a node. -/
def oddGroups : Text :=
  "graph LR\nsubgraph lane_1a\nsubgraph lane_1b\nsubgraph x\na\nend\nend\nend\n".toList ++
    "subgraph vpc\nend".toList

theorem warnings_of_oddGroups : ∃ (f : Flowchart) (d : Drawing Rat),
    Flowchart.ofText oddGroups = .ok f ∧
      Drawing.ofGraph? f.graph (Classification.ofGraph f.graph) .default = some d ∧
      (d.warnings.map (·.groupId)).Nodup ∧ .unclassifiedGroup ['x'] ∈ d.warnings ∧
      .nestedRole "lane_1b".toList "lane_1a".toList ∈ d.warnings ∧
      .emptyBoundary "vpc".toList ∈ d.warnings := by
  have hread : ((Flowchart.ofText oddGroups).map fun f =>
      let c := Classification.ofGraph f.graph
      decide (
        (∃ x ∈ f.graph.groups, x.id = ['x'] ∧ (∃ n ∈ f.graph.nodes, .node n.id ∈ x.children) ∧
          c.role? x.id = none) ∧
        (∃ x ∈ f.graph.groups, x.id = "lane_1b".toList ∧ c.role? x.id = some .laneBand ∧
          c.nearest? .laneBand (f.graph.enclosing x.parentId) = some "lane_1a".toList) ∧
        ∃ x ∈ f.graph.groups, x.id = "vpc".toList ∧ c.role? x.id = some .boundary ∧
          ∀ n ∈ f.graph.nodes, x.id ∉ f.graph.enclosing n.groupId)).toOption = some true := by
    decide +kernel
  obtain ⟨f, hf, hfacts⟩ := exists_of_toOption_map hread
  obtain ⟨⟨x, hx, hxid, ⟨n, hn, hlisted⟩, hnone⟩, ⟨y, hy, hyid, hlane, houter⟩,
    ⟨z, hz, hzid, hboundary, hempty⟩⟩ := of_decide_eq_true hfacts
  have hg := isConsistent_of_ofText hf
  obtain ⟨d, hd, hnodup, hodd⟩ := warnings_of_ofText hf (.default : LayoutSettings Rat)
  refine ⟨f, d, hf, hd, hnodup, (hodd _).2 ?_, (hodd _).2 ?_, (hodd _).2 ?_⟩
  · rw [← hxid]
    exact .unclassified hx hn hlisted hnone
  · rw [← hyid]
    exact .nested hy (Or.inl rfl) hlane (hg.isNearest_iff.2 houter)
  · rw [← hzid]
    exact .empty hz hboundary fun n hn hlies => hempty n hn (hg.mem_enclosing_iff.2 hlies)

end Swimlane
