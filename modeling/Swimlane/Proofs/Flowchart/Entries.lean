import Swimlane.Proofs.Flowchart.Consistent
import Swimlane.Proofs.Flowchart.Statement

/-!
# Reading entries

Reading the lines of entries adds their nodes and groups to a draft, numbered from where
the draft has got to, and lists them in the innermost open group.  `Draft.withEntries`
is the draft that results, in one step; the lines are read by induction on the entries, a
group by reading what is in it between its header and its end.
-/

namespace Swimlane

/-! ## Numbering -/

/-- Nodes numbered one after another. -/
def numberNodes (start : Nat) (nodes : List Node) : List Node :=
  nodes.mapIdx fun i n => { n with order := start + i }

/-- Groups numbered one after another. -/
def numberGroups (start : Nat) (groups : List Group) : List Group :=
  groups.mapIdx fun i x => { x with order := start + i }

@[simp] theorem numberNodes_nil (start : Nat) : numberNodes start [] = [] := rfl

@[simp] theorem numberNodes_cons (start : Nat) (n : Node) (nodes : List Node) :
    numberNodes start (n :: nodes) = { n with order := start } :: numberNodes (start + 1) nodes := by
  simp [numberNodes, Nat.add_assoc, Nat.add_comm 1]

theorem numberNodes_append (start : Nat) (nodes more : List Node) :
    numberNodes start (nodes ++ more) =
      numberNodes start nodes ++ numberNodes (start + nodes.length) more := by
  simp [numberNodes, List.mapIdx_append, Nat.add_assoc, Nat.add_comm nodes.length]

@[simp] theorem length_numberNodes (start : Nat) (nodes : List Node) :
    (numberNodes start nodes).length = nodes.length := by
  simp [numberNodes]

@[simp] theorem numberGroups_nil (start : Nat) : numberGroups start [] = [] := rfl

@[simp] theorem numberGroups_cons (start : Nat) (x : Group) (groups : List Group) :
    numberGroups start (x :: groups) =
      { x with order := start } :: numberGroups (start + 1) groups := by
  simp [numberGroups, Nat.add_assoc, Nat.add_comm 1]

theorem numberGroups_append (start : Nat) (groups more : List Group) :
    numberGroups start (groups ++ more) =
      numberGroups start groups ++ numberGroups (start + groups.length) more := by
  simp [numberGroups, List.mapIdx_append, Nat.add_assoc, Nat.add_comm groups.length]

@[simp] theorem length_numberGroups (start : Nat) (groups : List Group) :
    (numberGroups start groups).length = groups.length := by
  simp [numberGroups]

/-- Numbering changes only the numbers. -/
theorem map_numberNodes {β : Type} (part : Node → β)
    (hpart : ∀ n i, part { n with order := i } = part n) (start : Nat) (nodes : List Node) :
    (numberNodes start nodes).map part = nodes.map part := by
  induction nodes generalizing start with
  | nil => rfl
  | cons n nodes ih => rw [numberNodes_cons, List.map_cons, List.map_cons, hpart, ih]

theorem map_numberGroups {β : Type} (part : Group → β)
    (hpart : ∀ x i, part { x with order := i } = part x) (start : Nat) (groups : List Group) :
    (numberGroups start groups).map part = groups.map part := by
  induction groups generalizing start with
  | nil => rfl
  | cons x groups ih => rw [numberGroups_cons, List.map_cons, List.map_cons, hpart, ih]

/-! ## Adding entries -/

/-- A group with more children, if it is the one that lists them. -/
def giveChildren (parent : Option Text) (children : List Child) (x : Group) : Group :=
  if parent = some x.id then { x with children := x.children ++ children } else x

theorem giveChildren_id (parent : Option Text) (children : List Child) (x : Group) :
    (giveChildren parent children x).id = x.id := by
  unfold giveChildren
  split <;> rfl

theorem giveChildren_nil (parent : Option Text) (x : Group) : giveChildren parent [] x = x := by
  unfold giveChildren
  split
  · rw [List.append_nil]
  · rfl

theorem giveChildren_append (parent : Option Text) (children more : List Child) (x : Group) :
    giveChildren parent more (giveChildren parent children x) =
      giveChildren parent (children ++ more) x := by
  unfold giveChildren
  by_cases h : parent = some x.id
  · simp [h]
  · simp [h]

/-- Groups that do not list the children stay as they are. -/
theorem map_giveChildren_eq_self {parent : Option Text} {children : List Child}
    {groups : List Group} (h : ∀ p, parent = some p → p ∉ groups.map (·.id)) :
    groups.map (giveChildren parent children) = groups := by
  refine (List.map_congr_left fun x hx => ?_).trans (List.map_id groups)
  exact if_neg fun hp => h x.id hp (List.mem_map.2 ⟨x, hx, rfl⟩)

/-- A graph with entries added: the innermost open group lists them, and they are numbered
after what is there. -/
def Graph.withEntries (g : Graph) (parent : Option Text) (depth : Nat) (e : Entries) : Graph :=
  { g with
    nodes := g.nodes ++ numberNodes g.nodes.length (e.nodes parent)
    groups := g.groups.map (giveChildren parent e.children) ++
      numberGroups g.groups.length (e.groups parent depth) }

/-- A draft with entries added inside the innermost open group. -/
def Draft.withEntries (d : Draft) (e : Entries) : Draft :=
  { d with graph := d.graph.withEntries d.innermost d.openGroups.length e }

/-- The names of entries are those of their nodes and groups. -/
theorem Entries.mem_names {e : Entries} (parent : Option Text) (depth : Nat) {id : Text} :
    id ∈ e.names ↔
      id ∈ (e.nodes parent).map (·.id) ∨ id ∈ (e.groups parent depth).map (·.id) := by
  induction e generalizing parent depth with
  | done => simp [names, nodes, groups]
  | node name body next ih =>
    cases body <;> simp only [names, nodes, groups, List.mem_cons, List.map_cons,
      ih parent depth, or_assoc]
  | group name label inner next ihinner ihnext =>
    simp only [names, nodes, groups, List.mem_cons, List.map_cons, List.map_append,
      List.mem_append, ihinner (some name) (depth + 1),
      ihnext parent depth]
    tauto

theorem Entries.isPlainLabel_of_mem_body {id : Text} {body : Option Body} {next : Entries}
    (h : ∀ label ∈ (node id body next).labels, IsPlainLabel label) :
    ∀ b ∈ body, IsPlainLabel b.label := by
  intro b hb
  refine h b.label (List.mem_append_left _ ?_)
  rw [Option.mem_def.1 hb]
  exact List.mem_singleton_self _

namespace Graph

theorem map_id_nodes_withEntries (g : Graph) (parent : Option Text) (depth : Nat) (e : Entries) :
    (g.withEntries parent depth e).nodes.map (·.id) =
      g.nodes.map (·.id) ++ (e.nodes parent).map (·.id) := by
  rw [withEntries, List.map_append, map_numberNodes (·.id) fun _ _ => rfl]

theorem map_id_groups_withEntries (g : Graph) (parent : Option Text) (depth : Nat) (e : Entries) :
    (g.withEntries parent depth e).groups.map (·.id) =
      g.groups.map (·.id) ++ (e.groups parent depth).map (·.id) := by
  rw [withEntries, List.map_append, map_numberGroups (·.id) fun _ _ => rfl, List.map_map]
  congr 1
  exact List.map_congr_left fun x _ => giveChildren_id parent e.children x

/-- Adding entries adds their names. -/
theorem mem_ids_withEntries {g : Graph} {parent : Option Text} {depth : Nat} {e : Entries}
    {id : Text} : id ∈ (g.withEntries parent depth e).ids ↔ id ∈ g.ids ∨ id ∈ e.names := by
  rw [ids, ids, map_id_nodes_withEntries, map_id_groups_withEntries,
    Entries.mem_names parent depth]
  simp only [List.mem_append]
  tauto

theorem withEntries_done (g : Graph) (parent : Option Text) (depth : Nat) :
    g.withEntries parent depth .done = g := by
  have hgroups : g.groups.map (giveChildren parent []) = g.groups :=
    (List.map_congr_left fun x _ => giveChildren_nil parent x).trans (List.map_id _)
  simp [withEntries, Entries.nodes, Entries.groups, Entries.children, hgroups]

theorem withEntries_node (g : Graph) (parent : Option Text) (depth : Nat) (id : Text)
    (body : Option Body) (next : Entries) :
    (g.withEntries parent depth (.node id body .done)).withEntries parent depth next =
      g.withEntries parent depth (.node id body next) := by
  have hgroups : (g.groups.map (giveChildren parent [.node id])).map
      (giveChildren parent next.children) =
      g.groups.map (giveChildren parent (.node id :: next.children)) := by
    rw [List.map_map]
    exact List.map_congr_left fun x _ => giveChildren_append parent [.node id] next.children x
  cases body <;> simp [withEntries, Entries.nodes, Entries.groups, Entries.children, hgroups]

/-- What follows a group is listed where the group is, and not inside it. -/
theorem withEntries_group (g : Graph) {parent : Option Text} (depth : Nat) {id : Text}
    (label : Text) {inner : Entries} (next : Entries)
    (hparent : ∀ p, parent = some p → p ∉ id :: inner.names) :
    (g.withEntries parent depth (.group id label inner .done)).withEntries parent depth next =
      g.withEntries parent depth (.group id label inner next) := by
  have hgroups : (g.groups.map (giveChildren parent [.group id])).map
      (giveChildren parent next.children) =
      g.groups.map (giveChildren parent (.group id :: next.children)) := by
    rw [List.map_map]
    exact List.map_congr_left fun x _ => giveChildren_append parent [.group id] next.children x
  have hinner : (numberGroups g.groups.length
      (⟨id, label, parent, inner.children, 0, depth⟩ :: inner.groups (some id) (depth + 1))).map
      (giveChildren parent next.children) = numberGroups g.groups.length
      (⟨id, label, parent, inner.children, 0, depth⟩ :: inner.groups (some id) (depth + 1)) := by
    refine map_giveChildren_eq_self fun p hp hmem => hparent p hp ?_
    rw [map_numberGroups (·.id) fun _ _ => rfl, List.map_cons, List.mem_cons] at hmem
    refine List.mem_cons.2 (hmem.imp_right fun hmem => ?_)
    exact (Entries.mem_names _ _).2 (Or.inr hmem)
  rw [numberGroups_cons] at hinner
  simp [withEntries, Entries.nodes, Entries.groups, Entries.children, hgroups, hinner,
    numberNodes_append, numberGroups_append, Nat.add_assoc, Nat.add_comm 1]

end Graph

namespace Draft

/-! ## One entry -/

/-- The newest node goes into the innermost open group. -/
theorem claim_newest {d : Draft} {nodes : List Node} {n : Node} {id : Text}
    (hnodes : d.graph.nodes = nodes ++ [n]) (hid : n.id = id) (hnew : id ∉ nodes.map (·.id))
    (hfree : n.groupId = none) : d.claim id =
      { d with graph := { d.graph with
        nodes := nodes ++ [{ n with groupId := d.innermost }]
        groups := d.graph.groups.map (giveChildren d.innermost [.node id]) } } := by
  cases hopen : d.openGroups with
  | nil =>
    have hinnermost : d.innermost = none := by rw [innermost, hopen]; rfl
    have hgroups : d.graph.groups.map (giveChildren none [.node id]) = d.graph.groups :=
      map_giveChildren_eq_self fun p hp => absurd hp.symm (Option.some_ne_none p)
    rw [claim_eq_self hopen, hinnermost, hgroups, ← hfree, ← hnodes, ← hopen]
  | cons x outer =>
    have hinnermost : d.innermost = some x.id := by rw [innermost, hopen]; rfl
    have hfound : d.graph.node? id = some n := by
      rw [Graph.node?, List.findRev?_eq_find?_reverse, hnodes]
      simp [hid]
    have hold : nodes.map
        (fun m => if m.id = id then { m with groupId := some x.id } else m) = nodes := by
      refine (List.map_congr_left fun m hm => ?_).trans (List.map_id _)
      exact if_neg fun heq => hnew (List.mem_map.2 ⟨m, hm, heq⟩)
    simp only [claim, hopen, hfound, hfree, hinnermost, Graph.putInto, Graph.changeNode,
      Graph.addChild, hnodes, List.map_append, hold, List.map_singleton, hid, if_pos]
    simp [giveChildren, eq_comm]

/-- A new node is declared inside the innermost open group. -/
theorem mention_eq_withEntries {d : Draft} {id : Text} (hnew : id ∉ d.graph.nodes.map (·.id))
    (himplied : d.implied = []) (body : Option Body) :
    d.mention true id ⟨some id, body.map (·.label), body.map (·.shape)⟩ =
      d.withEntries (.node id body .done) := by
  have hhas : d.graph.hasNode id = false := by
    rw [Bool.eq_false_iff, Ne, Graph.hasNode_iff]
    exact hnew
  obtain ⟨n, hn⟩ : ∃ n, n = describe ⟨some id, body.map (·.label), body.map (·.shape)⟩
      ⟨id, id, defaultComponentType, none, none, d.graph.nodes.length⟩ := ⟨_, rfl⟩
  have hid : n.id = id := by rw [hn, describe_id]
  have hfree : n.groupId = none := by rw [hn, describe_groupId]
  have hnodes (parent : Option Text) : numberNodes d.graph.nodes.length
      ((Entries.node id body .done).nodes parent) = [{ n with groupId := parent }] := by
    rw [hn]
    cases body <;> rfl
  have hgroups (parent : Option Text) (depth : Nat) :
      (Entries.node id body .done).groups parent depth = [] := by
    cases body <;> rfl
  have hchildren : (Entries.node id body .done).children = [.node id] := by
    cases body <;> rfl
  have hadded : (d.addNode id ⟨some id, body.map (·.label), body.map (·.shape)⟩).markImplied true
      true id = { d with graph := { d.graph with nodes := d.graph.nodes ++ [n] } } := by
    rw [addNode_of_new hhas, ← hn, markImplied, if_pos rfl, himplied, List.filter_nil]
  rw [mention, hhas, Bool.not_false, Bool.true_or, hadded, claim_newest rfl hid hnew hfree,
    withEntries, Graph.withEntries, hnodes, hgroups, hchildren, numberGroups_nil, List.append_nil]
  rfl

theorem groups_enter (d : Draft) (line : Nat) (name label : Text) :
    (d.enter line name label).graph.groups =
      d.graph.groups.map (giveChildren d.innermost [.group name]) ++ [d.newGroup name label] := by
  unfold enter
  cases hinnermost : d.innermost with
  | none =>
    have hmap : d.graph.groups.map (giveChildren none [.group name]) = d.graph.groups :=
      map_giveChildren_eq_self fun p hp => absurd hp.symm (Option.some_ne_none p)
    rw [hmap]
  | some parent => simp [Graph.addChild, giveChildren, eq_comm]

/-- A new group is opened, filled and closed. -/
theorem close_withEntries_enter {d : Draft} {id : Text} (hnew : id ∉ d.graph.groups.map (·.id))
    (line : Nat) (label : Text) (inner : Entries) :
    { (d.enter line id label).withEntries inner with openGroups := d.openGroups } =
      d.withEntries (.group id label inner .done) := by
  have hkeep : (d.graph.groups.map (giveChildren d.innermost [.group id])).map
      (giveChildren (some id) inner.children) =
      d.graph.groups.map (giveChildren d.innermost [.group id]) := by
    refine map_giveChildren_eq_self fun p hp hmem => hnew ?_
    cases hp
    rw [List.map_map] at hmem
    obtain ⟨x, hx, hid⟩ := List.mem_map.1 hmem
    exact List.mem_map.2 ⟨x, hx, (giveChildren_id d.innermost [.group id] x).symm.trans hid⟩
  have hinnermost : (d.enter line id label).innermost = some id := rfl
  have hdepth : (d.enter line id label).openGroups.length = d.openGroups.length + 1 := rfl
  have hfields : (d.enter line id label).graph.direction = d.graph.direction ∧
      (d.enter line id label).implied = d.implied := by
    unfold enter
    cases d.innermost <;> exact ⟨rfl, rfl⟩
  simp only [withEntries, Graph.withEntries, hinnermost, hdepth, groups_enter, nodes_enter,
    edges_enter, hfields, List.map_append, hkeep, List.map_singleton]
  simp [newGroup, giveChildren, Entries.nodes, Entries.groups, Entries.children]

/-! ## Names that are awaited -/

/-- Are the names of entries new to a draft that has not implied any node? -/
structure Awaits (d : Draft) (e : Entries) : Prop where
  names_nodup : e.names.Nodup
  fresh : ∀ id ∈ e.names, id ∉ d.graph.ids
  implied : d.implied = []
  innermost : ∀ p, d.innermost = some p → p ∈ d.graph.groups.map (·.id)

theorem Awaits.not_node {d : Draft} {e : Entries} (h : d.Awaits e) {id : Text} (hid : id ∈ e.names) :
    id ∉ d.graph.nodes.map (·.id) :=
  fun hmem => h.fresh id hid (List.mem_append_left _ hmem)

theorem Awaits.not_group {d : Draft} {e : Entries} (h : d.Awaits e) {id : Text}
    (hid : id ∈ e.names) : id ∉ d.graph.groups.map (·.id) :=
  fun hmem => h.fresh id hid (List.mem_append_right _ hmem)

/-- After entries a draft awaits entries with other names. -/
theorem Awaits.withEntries {d : Draft} {e next : Entries} (h : d.Awaits e)
    (hnodup : next.names.Nodup) (hnext : ∀ id ∈ next.names, id ∉ d.graph.ids ∧ id ∉ e.names) :
    (d.withEntries e).Awaits next where
  names_nodup := hnodup
  fresh id hid hmem :=
    (Graph.mem_ids_withEntries.1 hmem).elim (hnext id hid).1 (hnext id hid).2
  implied := h.implied
  innermost p hp := by
    have hold : p ∈ d.graph.groups.map (·.id) := h.innermost p hp
    have hgroups := Graph.map_id_groups_withEntries d.graph d.innermost d.openGroups.length e
    show p ∈ (d.graph.withEntries d.innermost d.openGroups.length e).groups.map (·.id)
    rw [hgroups]
    exact List.mem_append_left _ hold

/-- A draft that awaits several entries awaits the first of them, and then the others. -/
theorem Awaits.split {d : Draft} {e : Entries} (h : d.Awaits e) (first next : Entries)
    (hnames : e.names = first.names ++ next.names) :
    d.Awaits first ∧ (d.withEntries first).Awaits next := by
  have hnodup := h.names_nodup
  have hfresh := h.fresh
  rw [hnames] at hnodup hfresh
  obtain ⟨hone, hmore, hapart⟩ := List.nodup_append.1 hnodup
  have hfirst : d.Awaits first :=
    ⟨hone, fun id hid => hfresh id (List.mem_append_left _ hid), h.implied, h.innermost⟩
  refine ⟨hfirst, hfirst.withEntries hmore fun id hid => ?_⟩
  exact ⟨hfresh id (List.mem_append_right _ hid), fun hmem => hapart id hmem id hid rfl⟩

/-- The group that is open around a group is neither the group nor in it. -/
theorem Awaits.innermost_not_mem {d : Draft} {e : Entries} (h : d.Awaits e) {p : Text}
    (hp : d.innermost = some p) : p ∉ e.names :=
  fun hmem => h.fresh p hmem (List.mem_append_right _ (h.innermost p hp))

/-- Inside a group that was opened a draft awaits what is in the group. -/
theorem Awaits.enter {d : Draft} {id label : Text} {inner next : Entries}
    (h : d.Awaits (.group id label inner next)) (line : Nat) :
    (d.enter line id label).Awaits inner := by
  have hnames := List.nodup_cons.1 h.names_nodup
  refine ⟨(List.nodup_append.1 hnames.2).1, fun name hname hmem => ?_, ?_, fun p hp => ?_⟩
  · have hinner : name ∈ inner.names ++ next.names := List.mem_append_left _ hname
    rw [Graph.ids, nodes_enter, map_id_groups_enter, ← List.append_assoc, List.mem_append,
      List.mem_singleton] at hmem
    rcases hmem with hmem | rfl
    · exact h.fresh name (List.mem_cons_of_mem id hinner) hmem
    · exact hnames.1 hinner
  · have himplied : (d.enter line id label).implied = d.implied := by
      unfold Draft.enter
      cases d.innermost <;> rfl
    rw [himplied, h.implied]
  · cases hp
    rw [map_id_groups_enter]
    exact List.mem_append_right _ (List.mem_singleton_self id)

/-! ## All entries -/

/-- Reading a line that is a statement, and then the others. -/
theorem foldlM_cons {line : Text} (hline : IsStatementLine line) {d d' : Draft} {number : Nat}
    (h : d.readStatement number line = .ok d') (rest : List Text) :
    (statementsFrom number (line :: rest)).foldlM read d =
      (statementsFrom (number + 1) rest).foldlM read d' := by
  rw [statementsFrom_cons hline, List.foldlM_cons]
  simp only [read, h]
  rfl

theorem isStatementLine_end : IsStatementLine "end".toList where
  head := ⟨'e', ['n', 'd'], rfl, by decide, by decide⟩
  last := by
    rintro c ⟨⟩
    decide
  no_feed := by decide
  no_comment := by decide
  no_semicolon := by decide

/-- The line that opens a group is a statement. -/
theorem isStatementLine_subgraph {id label : Text} (hid : IsPlainName id) (h : IsPlainLabel label) :
    IsStatementLine ("subgraph ".toList ++ id ++ '[' :: inQuotes label ++ [']']) := by
  have hbody : ∀ b ∈ some (Body.mk .rectangle label), IsPlainLabel b.label := h.of_mem_some
  have hline := isStatementLine_nodeLine hid hbody
  have hopen : openChars false ("subgraph ".toList ++ nodeLine id (some ⟨.rectangle, label⟩)) =
      "subgraph ".toList ++ openChars false (nodeLine id (some ⟨.rectangle, label⟩)) :=
    openChars_append (by decide) _
  rw [subgraphLine_eq]
  refine ⟨⟨'s', _, rfl, by decide, by decide⟩, fun c hc => ?_, ?_, ?_, ?_⟩
  · rw [List.getLast?_append, getLast?_nodeLine] at hc
    cases hc
    decide
  · rw [List.mem_append, not_or]
    exact ⟨by decide, hline.no_feed⟩
  · rw [hopen, List.mem_append, not_or]
    exact ⟨by decide, hline.no_comment⟩
  · rw [hopen, List.mem_append, not_or]
    exact ⟨by decide, hline.no_semicolon⟩

/-- Reading the line of a node adds the node. -/
theorem foldlM_node {id : Text} {body : Option Body} (hid : IsPlainName id)
    (hbody : ∀ b ∈ body, IsPlainLabel b.label) {d : Draft} (h : d.Awaits (.node id body .done))
    (number : Nat) (rest : List Text) :
    (statementsFrom number (nodeLine id body :: rest)).foldlM read d =
      (statementsFrom (number + 1) rest).foldlM read (d.withEntries (.node id body .done)) := by
  have hread := readStatement_nodeLine hid hbody d number
  rw [mention_eq_withEntries (h.not_node List.mem_cons_self) h.implied body] at hread
  exact foldlM_cons (isStatementLine_nodeLine hid hbody) hread rest

/-- Reading the lines of a group adds the group, if reading those in it adds what is in it. -/
theorem foldlM_group {id label : Text} {inner : Entries} (hid : IsPlainName id)
    (hlabel : IsPlainLabel label)
    (hinner : ∀ {d : Draft}, d.Awaits inner → ∀ (number : Nat) (rest : List Text),
      (statementsFrom number (inner.lines ++ rest)).foldlM read d =
        (statementsFrom (number + inner.lines.length) rest).foldlM read (d.withEntries inner))
    {d : Draft} (h : d.Awaits (.group id label inner .done)) (number : Nat) (rest : List Text) :
    (statementsFrom number (("subgraph ".toList ++ id ++ '[' :: inQuotes label ++ [']']) ::
        (inner.lines ++ "end".toList :: rest))).foldlM read d =
      (statementsFrom (number + 1 + inner.lines.length + 1) rest).foldlM read
        (d.withEntries (.group id label inner .done)) := by
  have hgroup := h.not_group List.mem_cons_self
  have hread := readStatement_subgraph hid hlabel
    (Bool.eq_false_iff.2 (mt Graph.hasNode_iff.1 (h.not_node List.mem_cons_self)))
    (Bool.eq_false_iff.2 (mt Graph.hasGroup_iff.1 hgroup)) number
  have hend : ((d.enter number id label).withEntries inner).readStatement
      (number + 1 + inner.lines.length) "end".toList =
        .ok (d.withEntries (.group id label inner .done)) := by
    rw [← close_withEntries_enter hgroup number label inner]
    exact readStatement_end rfl _
  rw [foldlM_cons (isStatementLine_subgraph hid hlabel) hread, hinner (h.enter number),
    foldlM_cons isStatementLine_end hend]

/-- Reading the lines of entries adds the entries. -/
theorem foldlM_entries {e : Entries} (hnames : ∀ id ∈ e.names, IsPlainName id)
    (hlabels : ∀ label ∈ e.labels, IsPlainLabel label) {d : Draft} (h : d.Awaits e) (number : Nat)
    (rest : List Text) :
    (statementsFrom number (e.lines ++ rest)).foldlM read d =
      (statementsFrom (number + e.lines.length) rest).foldlM read (d.withEntries e) := by
  induction e generalizing d number rest with
  | done =>
    rw [withEntries, Graph.withEntries_done]
    rfl
  | node id body next ih =>
    obtain ⟨hone, hnext⟩ := h.split (.node id body .done) next rfl
    have hid := hnames id List.mem_cons_self
    have hbody := Entries.isPlainLabel_of_mem_body hlabels
    have hadded : (d.withEntries (.node id body .done)).withEntries next =
        d.withEntries (.node id body next) :=
      congrArg (fun g => { d with graph := g })
        (Graph.withEntries_node d.graph d.innermost d.openGroups.length id body next)
    rw [Entries.lines, List.cons_append, foldlM_node hid hbody hone,
      ih (fun name hname => hnames name (List.mem_cons_of_mem id hname))
        (fun l hl => hlabels l (List.mem_append_right _ hl)) hnext, hadded, List.length_cons,
      Nat.add_right_comm, Nat.add_assoc]
  | group id label inner next ihinner ihnext =>
    obtain ⟨hone, hnext⟩ := h.split (.group id label inner .done) next
      (by simp [Entries.names])
    have hid := hnames id List.mem_cons_self
    have hlabel := hlabels label List.mem_cons_self
    have hinner := @ihinner
      (fun name hname => hnames name (List.mem_cons_of_mem id (List.mem_append_left _ hname)))
      (fun l hl => hlabels l (List.mem_cons_of_mem label (List.mem_append_left _ hl)))
    have hadded : (d.withEntries (.group id label inner .done)).withEntries next =
        d.withEntries (.group id label inner next) :=
      congrArg (fun g => { d with graph := g })
        (Graph.withEntries_group d.graph d.openGroups.length label next fun p hp => by
          simpa [Entries.names] using hone.innermost_not_mem hp)
    have hlines : (Entries.group id label inner next).lines ++ rest =
        ("subgraph ".toList ++ id ++ '[' :: inQuotes label ++ [']']) ::
          (inner.lines ++ "end".toList :: (next.lines ++ rest)) :=
      congrArg (List.cons _) (List.append_assoc _ _ _)
    have hlength : number + (Entries.group id label inner next).lines.length =
        number + 1 + inner.lines.length + 1 + next.lines.length := by
      rw [Entries.lines, List.length_cons, List.length_append, List.length_cons]
      omega
    rw [hlines, hlength, foldlM_group hid hlabel hinner hone,
      ihnext (fun n hn => hnames n (List.mem_cons_of_mem id (List.mem_append_right _ hn)))
        (fun l hl => hlabels l (List.mem_cons_of_mem label (List.mem_append_right _ hl))) hnext,
      hadded]

end Draft

end Swimlane
