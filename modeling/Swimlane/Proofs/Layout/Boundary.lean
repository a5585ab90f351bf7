import Mathlib.Data.List.Sort
import Mathlib.Order.RelIso.Basic
import Swimlane.Proofs.Flowchart.Enclosing
import Swimlane.Proofs.Flowchart.Forest
import Swimlane.Proofs.Layout.Bounds
import Swimlane.Proofs.Layout.Names

/-!
# Boundaries enclose what lies in their groups

The bounds of a boundary are computed from all that is drawn in its group so far.  That is
enough because boundaries are computed by depth: what lies in a group is deeper and comes
earlier.  So in the drawing of a text a boundary encloses the members and the boundaries in
its group with the padding as margin, at any depth and through groups without a role, and a
boundary group has a boundary exactly if there is a node in it.
-/

namespace Swimlane

/-! ## One boundary -/

section One

variable {pad : Rat} {drawn : List (Located Rat)} {id : Text}

/-- To enclose a boundary is to enclose all that is drawn in it, with the padding as margin. -/
theorem encloses_boundaryBounds_iff {b c : Bounds Rat} {margin : Rat}
    (h : boundaryBounds? pad drawn id = some b) :
    c.Encloses margin b ↔ ∀ l ∈ drawn, id ∈ l.around → c.Encloses (margin + pad) l.bounds := by
  obtain ⟨joined, hjoined, rfl⟩ := Option.map_eq_some_iff.1 h
  rw [Bounds.encloses_padded_iff, Bounds.encloses_joinAll?_iff hjoined]
  simp only [List.forall_mem_map, List.mem_filter, List.contains_iff_mem, and_imp]

/-- A boundary encloses all that is drawn in it. -/
theorem encloses_of_boundaryBounds {b : Bounds Rat} (h : boundaryBounds? pad drawn id = some b)
    {l : Located Rat} (hl : l ∈ drawn) (hid : id ∈ l.around) : b.Encloses pad l.bounds := by
  have hself := (encloses_boundaryBounds_iff h).1 (Bounds.Encloses.refl b) l hl hid
  rwa [zero_add] at hself

/-- There is a boundary if something is drawn in it. -/
theorem isSome_boundaryBounds? {α : Type} [Length α] {pad : α} {drawn : List (Located α)}
    {id : Text} : (boundaryBounds? pad drawn id).isSome = true ↔ ∃ l ∈ drawn, id ∈ l.around := by
  rw [boundaryBounds?, Option.isSome_map, Bounds.isSome_joinAll?, ne_eq, List.map_eq_nil_iff,
    List.filter_eq_nil_iff]
  simp

end One

/-! ## All boundaries -/

section All

variable {α : Type} [Length α] {g : Graph} {pad : α} {drawn : List (Located α)} {ids : List Text}

theorem map_fst_boundAll_sublist (g : Graph) (pad : α) (drawn : List (Located α))
    (ids : List Text) : ((boundAll g pad drawn ids).map (·.1)).Sublist ids := by
  induction ids generalizing drawn with
  | nil => exact List.Sublist.refl _
  | cons id rest ih =>
    rw [boundAll]
    split
    · exact (ih _).cons_cons id
    · exact (ih _).cons id

/-- The bounds of a boundary are computed from what is drawn and the boundaries before it. -/
theorem boundaryBounds_of_boundAll {front back : List (Text × Bounds α)}
    {e : Text × Bounds α} (h : boundAll g pad drawn ids = front ++ e :: back) :
    boundaryBounds? pad (drawn ++ front.map fun e => locateBoundary g e.1 e.2) e.1 = some e.2 := by
  induction ids generalizing drawn front with
  | nil => exact absurd h.symm (List.append_ne_nil_of_right_ne_nil _ (List.cons_ne_nil _ _))
  | cons id rest ih =>
    rw [boundAll] at h
    split at h
    · next b hb =>
      cases front with
      | nil =>
        obtain ⟨rfl, -⟩ := List.cons_eq_cons.1 h
        rw [List.map_nil, List.append_nil]
        exact hb
      | cons first front =>
        obtain ⟨rfl, hrest⟩ := List.cons_eq_cons.1 h
        have hlater := ih hrest
        rwa [List.append_assoc, List.singleton_append] at hlater
    · exact ih h

/-- Where something is drawn there is a boundary. -/
theorem mem_boundAll_of_mem {id : Text} (hid : id ∈ ids) {l : Located α} (hl : l ∈ drawn)
    (haround : id ∈ l.around) : id ∈ (boundAll g pad drawn ids).map (·.1) := by
  induction ids generalizing drawn with
  | nil => exact absurd hid List.not_mem_nil
  | cons first rest ih =>
    rw [boundAll]
    rcases List.mem_cons.1 hid with rfl | hid
    · have hsome : (boundaryBounds? pad drawn id).isSome = true :=
        isSome_boundaryBounds?.2 ⟨l, hl, haround⟩
      obtain ⟨b, hb⟩ := Option.isSome_iff_exists.1 hsome
      rw [hb]
      exact List.mem_cons_self
    · split
      · exact List.mem_cons_of_mem _ (ih hid (List.mem_append_left _ hl))
      · exact ih hid hl

/-- What holds of all that is drawn, and of a boundary if it holds of all before it, holds of
all that any boundary is computed from. -/
theorem exists_drawn_of_mem_boundAll {P : Located α → Prop}
    (hstep : ∀ drawn, ∀ id ∈ ids, ∀ b, (∀ l ∈ drawn, P l) →
      boundaryBounds? pad drawn id = some b → P (locateBoundary g id b))
    (hdrawn : ∀ l ∈ drawn, P l) {e : Text × Bounds α} (he : e ∈ boundAll g pad drawn ids) :
    ∃ drawn, (∀ l ∈ drawn, P l) ∧ boundaryBounds? pad drawn e.1 = some e.2 := by
  induction ids generalizing drawn with
  | nil => exact absurd he List.not_mem_nil
  | cons id rest ih =>
    have hrest := fun drawn id hid => hstep drawn id (List.mem_cons_of_mem _ hid)
    rw [boundAll] at he
    split at he
    · next b hb =>
      rcases List.mem_cons.1 he with rfl | he
      · exact ⟨drawn, hdrawn, hb⟩
      · refine ih hrest (List.forall_mem_append.2 ⟨hdrawn, List.forall_mem_singleton.2 ?_⟩) he
        exact hstep drawn id List.mem_cons_self b hdrawn hb
    · exact ih hrest hdrawn he

end All

/-! ## What is around a boundary -/

variable {α : Type} {g : Graph}

/-- What is around is the chain of a group. -/
def Located.HasChain (g : Graph) (l : Located α) : Prop := ∃ start, l.around = g.enclosing start

theorem hasChain_locateMember [Length α] (m : Figure α) : (locateMember g m).HasChain g := by
  rw [Located.HasChain, locateMember]
  cases g.node? m.id with
  | none => exact ⟨none, Graph.enclosing_none.symm⟩
  | some n => exact ⟨n.groupId, rfl⟩

theorem hasChain_locateBoundary (id : Text) (b : Bounds α) :
    (locateBoundary g id b).HasChain g := ⟨_, rfl⟩

/-- What is around something in a group ends with the group and what is around the group. -/
theorem around_locateBoundary_suffix (hg : g.IsConsistent) {l : Located α} (hl : l.HasChain g)
    {id : Text} (hid : id ∈ l.around) (b : Bounds α) :
    id :: (locateBoundary g id b).around <:+ l.around := by
  obtain ⟨start, hstart⟩ := hl
  rw [hstart] at hid ⊢
  obtain ⟨x, hx, rfl⟩ := hg.group_of_mem_enclosing hid
  have hsuffix := hg.enclosing_suffix hid
  rw [hg.enclosing_group hx] at hsuffix
  rw [locateBoundary, Graph.group?_of_mem hg.group_ids hx]
  exact hsuffix

/-- The depth of a group. -/
def Graph.depthOf (g : Graph) (id : Text) : Nat := ((g.group? id).map (·.depth)).getD 0

theorem Graph.IsConsistent.depthOf_of_mem (hg : g.IsConsistent) {x : Group} (hx : x ∈ g.groups) :
    g.depthOf x.id = x.depth := by
  rw [depthOf, group?_of_mem hg.group_ids hx]
  rfl

/-- A group that lies in another is deeper. -/
theorem Graph.IsConsistent.depthOf_lt (hg : g.IsConsistent) {inner outer : Text}
    (h : g.IsInside inner outer) : g.depthOf outer < g.depthOf inner := by
  obtain ⟨y, hy, rfl, hlies⟩ := h
  obtain ⟨x, hx, rfl⟩ := hg.group_of_mem_enclosing (hg.mem_enclosing_iff.2 hlies)
  rw [hg.depthOf_of_mem hx, hg.depthOf_of_mem hy]
  exact hg.depth_lt_of_liesIn hx hy hlies

/-- Boundaries are computed from the deepest on. -/
theorem pairwise_boundariesInsideOut (g : Graph) (c : Classification) :
    (boundariesInsideOut g c).Pairwise fun a b => g.depthOf b ≤ g.depthOf a :=
  List.pairwise_mergeSort' (Order.Preimage g.depthOf (· ≥ ·)) _

/-! ## The bounds of a drawing -/

section Drawn

variable [Length α] {c : Classification} {pad : α} {members : List (Figure α)}

theorem map_fst_allBounds_sublist : ((allBounds g c pad members).map (·.1)).Sublist
    (boundariesInsideOut g c) :=
  map_fst_boundAll_sublist _ _ _ _

theorem mem_boundariesInsideOut {id : Text} :
    id ∈ boundariesInsideOut g c ↔ id ∈ c.boundaries.map (·.1) :=
  List.mem_mergeSort

/-- In a boundary there is a member. -/
theorem exists_member_of_mem_allBounds (hg : g.IsConsistent) {e : Text × Bounds α}
    (he : e ∈ allBounds g c pad members) : ∃ m ∈ members, e.1 ∈ (locateMember g m).around := by
  have hstep (drawn : List (Located α)) (id : Text) (b : Bounds α)
      (hdrawn : ∀ l ∈ drawn, l.HasChain g ∧
        ∀ id ∈ l.around, ∃ m ∈ members, id ∈ (locateMember g m).around)
      (hb : boundaryBounds? pad drawn id = some b) : (locateBoundary g id b).HasChain g ∧
        ∀ outer ∈ (locateBoundary g id b).around,
          ∃ m ∈ members, outer ∈ (locateMember g m).around := by
    refine ⟨hasChain_locateBoundary id b, fun outer houter => ?_⟩
    obtain ⟨l, hl, hid⟩ := isSome_boundaryBounds?.1 (Option.isSome_of_eq_some hb)
    obtain ⟨hchain, hmembers⟩ := hdrawn l hl
    exact hmembers outer ((around_locateBoundary_suffix hg hchain hid b).subset
      (List.mem_cons_of_mem _ houter))
  have hmembers : ∀ l ∈ members.map (locateMember g), l.HasChain g ∧
      ∀ id ∈ l.around, ∃ m ∈ members, id ∈ (locateMember g m).around :=
    List.forall_mem_map.2 fun m hm => ⟨hasChain_locateMember m, fun id hid => ⟨m, hm, hid⟩⟩
  obtain ⟨drawn, hdrawn, hb⟩ := exists_drawn_of_mem_boundAll
    (fun drawn id _ => hstep drawn id) hmembers he
  obtain ⟨l, hl, hid⟩ := isSome_boundaryBounds?.1 (Option.isSome_of_eq_some hb)
  exact (hdrawn l hl).2 e.1 hid

variable {s : LayoutSettings α} {visits : List Visit}

/-- The groups around a member are those around its node. -/
theorem mem_around_locateMember (hg : g.IsConsistent) {n : Node} (hn : n ∈ g.nodes)
    {m : Figure α} (hid : n.id = m.id) {id : Text} :
    id ∈ (locateMember g m).around ↔ g.LiesIn n.groupId id := by
  rw [locateMember, ← hid, Graph.node?_of_mem hg.node_ids hn]
  exact hg.mem_enclosing_iff

/-- Every member has its node. -/
theorem exists_node_of_member (hg : g.IsConsistent) {m : Figure α}
    (hm : m ∈ membersOf (Drawing.ofVisits g c s visits).figures) :
    ∃ n ∈ g.nodes, n.id = m.id := by
  have hid := (map_id_membersOf_ofVisits hg.node_ids c s visits).subset
    (List.mem_map.2 ⟨m, hm, rfl⟩)
  exact List.mem_map.1 hid

/-- A boundary group has bounds if a node lies in it, and only then. -/
theorem isSome_lookup_drawnBounds_iff (hg : g.IsConsistent) {id : Text}
    (hid : c.role? id = some .boundary) :
    ((drawnBounds g c s visits).lookup id).isSome = true ↔
      ∃ n ∈ g.nodes, g.LiesIn n.groupId id := by
  constructor
  · intro hsome
    obtain ⟨b, hb⟩ := Option.isSome_iff_exists.1 hsome
    obtain ⟨m, hm, haround⟩ := exists_member_of_mem_allBounds hg (mem_of_lookup hb)
    rw [← membersOf_ofVisits g c s visits] at hm
    obtain ⟨n, hn, hnm⟩ := exists_node_of_member hg hm
    exact ⟨n, hn, (mem_around_locateMember hg hn hnm).1 haround⟩
  · rintro ⟨n, hn, hlies⟩
    have hid' := (map_id_membersOf_ofVisits hg.node_ids c s visits).symm.subset
      (List.mem_map.2 ⟨n, hn, rfl⟩)
    obtain ⟨m, hm, hnm⟩ := List.mem_map.1 hid'
    rw [membersOf_ofVisits] at hm
    have hmem : id ∈ (drawnBounds g c s visits).map (·.1) :=
      mem_boundAll_of_mem (mem_boundariesInsideOut.2 (role?_eq_some_iff.1 hid))
        (List.mem_map.2 ⟨m, hm, rfl⟩) ((mem_around_locateMember hg hn hnm.symm).2 hlies)
    obtain ⟨e, he, rfl⟩ := List.mem_map.1 hmem
    exact List.lookup_isSome_iff.2 ⟨e, he, beq_self_eq_true e.1⟩

end Drawn

variable {c : Classification} {pad : Rat} {members : List (Figure Rat)}

/-- A boundary encloses the members in its group. -/
theorem encloses_member_of_mem_allBounds {e : Text × Bounds Rat}
    (he : e ∈ allBounds g c pad members) {m : Figure Rat} (hm : m ∈ members)
    (haround : e.1 ∈ (locateMember g m).around) : e.2.Encloses pad m.box.bounds := by
  obtain ⟨front, back, hsplit⟩ := List.append_of_mem he
  exact encloses_of_boundaryBounds (boundaryBounds_of_boundAll hsplit)
    (List.mem_append_left _ (List.mem_map.2 ⟨m, hm, rfl⟩)) haround

/-- A boundary encloses the boundaries in its group, because they were computed before it. -/
theorem encloses_inner_of_mem_allBounds (hg : g.IsConsistent) {e inner : Text × Bounds Rat}
    (he : e ∈ allBounds g c pad members) (hinner : inner ∈ allBounds g c pad members)
    (hinside : g.IsInside inner.1 e.1) : e.2.Encloses pad inner.2 := by
  have hdepth := hg.depthOf_lt hinside
  obtain ⟨front, back, hsplit⟩ := List.append_of_mem he
  have horder : (allBounds g c pad members).Pairwise fun a b => g.depthOf b.1 ≤ g.depthOf a.1 :=
    List.pairwise_map.1 ((pairwise_boundariesInsideOut g c).sublist map_fst_allBounds_sublist)
  have hfront : inner ∈ front := by
    rw [hsplit] at hinner horder
    rcases List.mem_append.1 hinner with hfront | hrest
    · exact hfront
    · rcases List.mem_cons.1 hrest with rfl | hback
      · exact absurd hdepth (Nat.lt_irrefl _)
      · have hle := (List.pairwise_cons.1 (List.pairwise_append.1 horder).2.1).1 inner hback
        omega
  obtain ⟨y, hy, hid, hlies⟩ := hinside
  refine encloses_of_boundaryBounds (l := locateBoundary g inner.1 inner.2)
    (boundaryBounds_of_boundAll hsplit) ?_ ?_
  · exact List.mem_append_right _ (List.mem_map.2 ⟨inner, hfront, rfl⟩)
  · rw [locateBoundary, ← hid, Graph.group?_of_mem hg.group_ids hy]
    exact hg.mem_enclosing_iff.2 hlies

/-! ## Boundaries of a drawing -/

variable {s : LayoutSettings Rat} {visits : List Visit}

/-- How the boundaries of a drawing lie to what is in their groups. -/
structure BoundariesEnclose (g : Graph) (c : Classification) (s : LayoutSettings Rat)
    (visits : List Visit) : Prop where
  /-- The boundaries among the figures are drawn for boundary groups, one for a group. -/
  drawn : ∀ f, (∃ id, IsBoundaryOf g c s visits f id) ↔
    f ∈ (Drawing.ofVisits g c s visits).figures ∧ f.ornament = some .boundary
  role : ∀ f id, IsBoundaryOf g c s visits f id → c.role? id = some .boundary
  unique : ∀ f f' id, IsBoundaryOf g c s visits f id → IsBoundaryOf g c s visits f' id → f = f'
  /-- A boundary encloses the members whose nodes lie in its group. -/
  member : ∀ f id, IsBoundaryOf g c s visits f id →
    ∀ m ∈ membersOf (Drawing.ofVisits g c s visits).figures, ∀ n ∈ g.nodes, n.id = m.id →
      g.LiesIn n.groupId id → f.box.Encloses s.grid.boundaryPadding m.box
  /-- A boundary encloses the boundaries of the groups that lie in its own. -/
  nested : ∀ outer inner outerId innerId, IsBoundaryOf g c s visits outer outerId →
    IsBoundaryOf g c s visits inner innerId → g.IsInside innerId outerId →
      outer.box.Encloses s.grid.boundaryPadding inner.box
  /-- A boundary group has a boundary if a node lies in it, and only then. -/
  exists_iff : ∀ id, c.role? id = some .boundary →
    ((∃ f, IsBoundaryOf g c s visits f id) ↔ ∃ n ∈ g.nodes, g.LiesIn n.groupId id)

/-- What is drawn for a boundary has bounds among those of the drawing. -/
theorem IsBoundaryOf.exists_mem {f : Figure Rat} {id : Text} (h : IsBoundaryOf g c s visits f id) :
    (id, f.box.bounds) ∈ drawnBounds g c s visits := by
  obtain ⟨info, b, -, hb, heq⟩ := h.exists_bounds
  rw [heq]
  show (id, b.box.bounds) ∈ _
  rw [Bounds.bounds_box]
  exact mem_of_lookup hb

/-- Boundaries are drawn for boundary groups. -/
theorem IsBoundaryOf.role {f : Figure Rat} {id : Text} (h : IsBoundaryOf g c s visits f id) :
    c.role? id = some .boundary := by
  obtain ⟨info, b, hentry, -⟩ := h.exists_bounds
  exact role?_eq_some_iff.2 (List.mem_map.2 ⟨(id, info), hentry, rfl⟩)

/-- Every node has its member. -/
theorem exists_member_of_node (hg : g.IsConsistent) (c : Classification)
    (s : LayoutSettings Rat) (visits : List Visit) {n : Node} (hn : n ∈ g.nodes) :
    ∃ m ∈ membersOf (Drawing.ofVisits g c s visits).figures, n.id = m.id := by
  have hid := (map_id_membersOf_ofVisits hg.node_ids c s visits).symm.subset
    (List.mem_map.2 ⟨n, hn, rfl⟩)
  obtain ⟨m, hm, hmid⟩ := List.mem_map.1 hid
  exact ⟨m, hm, hmid.symm⟩

/-- In a consistent graph boundaries enclose what lies in their groups. -/
theorem Graph.IsConsistent.boundariesEnclose (hg : g.IsConsistent) (c : Classification)
    (s : LayoutSettings Rat) (visits : List Visit) : BoundariesEnclose g c s visits where
  drawn _ := exists_isBoundaryOf_iff
  role _ _ h := h.role
  unique _ _ _ h h' := h.unique h'
  member f id hf m hm n hn hid hlies := by
    rw [membersOf_ofVisits] at hm
    exact encloses_member_of_mem_allBounds hf.exists_mem hm
      ((mem_around_locateMember hg hn hid).2 hlies)
  nested outer inner outerId innerId houter hinner hinside :=
    encloses_inner_of_mem_allBounds hg houter.exists_mem hinner.exists_mem hinside
  exists_iff id hid := by
    have hbounds : ((drawnBounds g c s visits).lookup id).isSome = true ↔ _ :=
      isSome_lookup_drawnBounds_iff hg hid
    rw [← hbounds]
    constructor
    · rintro ⟨f, hf⟩
      obtain ⟨info, b, -, hb, -⟩ := hf.exists_bounds
      rw [hb]
      rfl
    · intro hsome
      obtain ⟨b, hb⟩ := Option.isSome_iff_exists.1 hsome
      exact exists_isBoundaryOf (role?_eq_some_iff.1 hid) hb

/-- A boundary group around a node has a boundary. -/
theorem exists_isBoundaryOf_of_mem_enclosing (hg : g.IsConsistent) {n : Node} (hn : n ∈ g.nodes)
    {id : Text} (hid : c.role? id = some .boundary) (haround : id ∈ g.enclosing n.groupId) :
    ∃ f, IsBoundaryOf g c s visits f id :=
  ((hg.boundariesEnclose c s visits).exists_iff id hid).2 ⟨n, hn, hg.mem_enclosing_iff.1 haround⟩

/-- The groups of every text that can be read can be drawn, and then boundaries enclose what
lies in their groups, whatever the classification and the settings are. -/
theorem boundariesEnclose_of_ofText {text : Text} {f : Flowchart}
    (h : Flowchart.ofText text = .ok f) (c : Classification) (s : LayoutSettings Rat) :
    ∃ visits, f.graph.visits? = some visits ∧
      Drawing.ofGraph? f.graph c s = some (Drawing.ofVisits f.graph c s visits) ∧
      BoundariesEnclose f.graph c s visits := by
  have hg := isConsistent_of_ofText h
  obtain ⟨visits, hvisits⟩ := hg.exists_visits
  exact ⟨visits, hvisits, by rw [Drawing.ofGraph?, hvisits]; rfl, hg.boundariesEnclose c s visits⟩

/-- A boundary in another, with a group without a role between them. -/
def nestedBoundaries : Text :=
  "graph LR\nsubgraph p[\"aws account\"]\nsubgraph inner\nsubgraph vpc\na\n".toList ++
    "end\nend\nend\nb".toList

theorem boundariesEnclose_of_nestedBoundaries : ∃ (f : Flowchart) (visits : List Visit),
    Flowchart.ofText nestedBoundaries = .ok f ∧
      BoundariesEnclose f.graph (Classification.ofGraph f.graph) .default visits ∧
      ∃ outer inner,
        IsBoundaryOf f.graph (Classification.ofGraph f.graph) .default visits outer ['p'] ∧
        IsBoundaryOf f.graph (Classification.ofGraph f.graph) .default visits inner "vpc".toList ∧
        outer.box.Encloses 16 inner.box := by
  have hread : ((Flowchart.ofText nestedBoundaries).map fun f => decide (
      ((Classification.ofGraph f.graph).role? ['p'] = some .boundary ∧
        (Classification.ofGraph f.graph).role? "vpc".toList = some .boundary) ∧
      (∃ n ∈ f.graph.nodes,
        f.graph.enclosing n.groupId = ["vpc".toList, "inner".toList, ['p']]) ∧
      ∃ x ∈ f.graph.groups, x.id = "vpc".toList ∧
        f.graph.enclosing x.parentId = ["inner".toList, ['p']])).toOption = some true := by
    decide +kernel
  obtain ⟨f, hf, hfacts⟩ := exists_of_toOption_map hread
  obtain ⟨⟨hp, hvpc⟩, ⟨n, hn, haround⟩, x, hx, hxid, hxaround⟩ := of_decide_eq_true hfacts
  have hg := isConsistent_of_ofText hf
  obtain ⟨visits, -, -, h⟩ :=
    boundariesEnclose_of_ofText hf (Classification.ofGraph f.graph) .default
  have hlies (id : Text) (hid : id ∈ ["vpc".toList, "inner".toList, ['p']]) :
      f.graph.LiesIn n.groupId id := hg.mem_enclosing_iff.1 (haround ▸ hid)
  obtain ⟨outer, houter⟩ := (h.exists_iff ['p'] hp).2 ⟨n, hn, hlies _ (by decide)⟩
  obtain ⟨inner, hinner⟩ := (h.exists_iff "vpc".toList hvpc).2 ⟨n, hn, hlies _ (by decide)⟩
  refine ⟨f, visits, hf, h, outer, inner, houter, hinner, ?_⟩
  refine h.nested _ _ _ _ houter hinner ⟨x, hx, hxid, hg.mem_enclosing_iff.1 ?_⟩
  rw [hxaround]
  decide

end Swimlane
